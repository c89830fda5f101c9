import IbcAttestor.Cooperative.Runs

/-!
# What must have happened before

`Proc.Follows` is the weakest precondition of an order: every action of the process
comes after the actions it needs, and the result fits what has happened. What is done
in a gather may come after anything that the other children do.
-/

namespace Cooperative

variable {I : Interface} {Ev α β ε ε' : Type}

def Trace.acts (t : Trace I Ev) : List (Act I Ev) := t.map Label.act

/-- After the actions `h`, each of the actions comes when it may. -/
def Ordered (pre : List (Act I Ev) → Act I Ev → Prop) : List (Act I Ev) → List (Act I Ev) → Prop
  | _, [] => True
  | h, a :: t => pre h a ∧ Ordered pre (h ++ [a]) t

variable {pre : List (Act I Ev) → Act I Ev → Prop}

theorem ordered_append {h t t' : List (Act I Ev)} :
    Ordered pre h (t ++ t') ↔ Ordered pre h t ∧ Ordered pre (h ++ t) t' := by
  induction t generalizing h with
  | nil => simp [Ordered]
  | cons a t ih => simp [Ordered, ih, and_assoc]

theorem Ordered.last {h t : List (Act I Ev)} {a : Act I Ev} (ht : Ordered pre h (t ++ [a])) :
    pre (h ++ t) a :=
  (ordered_append.mp ht).2.1

theorem Ordered.mem {h t : List (Act I Ev)} {a : Act I Ev} (ht : Ordered pre h t) (ha : a ∈ t) :
    ∃ u v, t = u ++ a :: v ∧ pre (h ++ u) a := by
  obtain ⟨u, v, rfl⟩ := List.append_of_mem ha
  exact ⟨u, v, rfl, (ordered_append.mp ht).2.1⟩

theorem ordered_of_forall {h t : List (Act I Ev)} (ht : ∀ a ∈ t, ∀ u, pre (h ++ u) a) :
    Ordered pre h t := by
  induction t generalizing h with
  | nil => trivial
  | cons a t ih =>
    refine ⟨?_, ih fun a' ha' u => ?_⟩
    · simpa using ht a (by simp) []
    · rw [List.append_assoc]
      exact ht a' (by simp [ha']) _

/-- Every action comes when `pre` allows it, and `post` holds of the result and of what
has happened when the process has finished. -/
def Proc.Follows (pre : List (Act I Ev) → Act I Ev → Prop) {α : Type} :
    Proc I Ev α → List (Act I Ev) → (α → List (Act I Ev) → Prop) → Prop
  | .done a, h, post => post a h
  | .emit e p, h, post => pre h (.event e) ∧ p.Follows pre (h ++ [.event e]) post
  | .await op k, h, post => pre h (.call op) ∧ ∀ a, pre (h ++ [.call op]) (.reply op a) ∧
      (k a).Follows pre (h ++ [.call op, .reply op a]) post
  | .gather c k, h, post => (∀ i, (c i).Within fun l => ∀ u, pre (h ++ u) l.act) ∧
      ∀ xs u, (k xs).Follows pre (h ++ u) post

/-- The run rule: a run is in order, and its result fits. -/
theorem Proc.Follows.ordered {p : Proc I Ev α} {h : List (Act I Ev)}
    {post : α → List (Act I Ev) → Prop} (hp : p.Follows pre h post) {t : Trace I Ev}
    {o : Outcome α} (hr : Runs p t o) :
    Ordered pre h t.acts ∧ ∀ a, o = .finished a → post a (h ++ t.acts) := by
  induction p generalizing h t with
  | done a =>
    obtain ⟨rfl, rfl⟩ := hr
    refine ⟨trivial, fun a' ha => ?_⟩
    cases ha
    rw [Trace.acts, List.map_nil, List.append_nil]
    exact hp
  | emit e p ih =>
    obtain ⟨hpre, hp⟩ := hp
    rcases hr with ⟨rfl, rfl⟩ | ⟨t', rfl, hr⟩
    · exact ⟨trivial, by simp⟩
    · obtain ⟨hord, hpost⟩ := ih hp hr
      exact ⟨⟨hpre, hord⟩, fun a ha => by simpa [Trace.acts] using hpost a ha⟩
  | await op k ih =>
    obtain ⟨hpre, hk⟩ := hp
    rcases hr with ⟨rfl, rfl⟩ | ⟨rfl, rfl⟩ | ⟨a, t', rfl, hr⟩
    · exact ⟨trivial, by simp⟩
    · exact ⟨⟨hpre, trivial⟩, by simp⟩
    · obtain ⟨hreply, hk⟩ := hk a
      obtain ⟨hord, hpost⟩ := ih a hk hr
      refine ⟨⟨hpre, hreply, by simpa [Trace.acts] using hord⟩, fun b hb => ?_⟩
      simpa [Trace.acts] using hpost b hb
  | gather c k ihc ihk =>
    obtain ⟨t₁, t₂, os, rfl, hin, hc, hk⟩ := hr
    obtain ⟨hchild, hpost⟩ := hp
    have hfirst : Ordered pre h t₁.acts := by
      apply ordered_of_forall
      intro a ha
      obtain ⟨⟨site, act⟩, hl, rfl⟩ := List.mem_map.mp ha
      obtain ⟨i, s, hi, hs⟩ := hin _ hl
      cases hs
      exact (hc ⟨i, hi⟩).within (hchild ⟨i, hi⟩) ⟨s, act⟩ (mem_childTrace.mpr hl)
    rcases hk with ⟨rfl, rfl⟩ | ⟨bs, -, hk⟩
    · exact ⟨by simpa using hfirst, by simp⟩
    · obtain ⟨hord, hlast⟩ := ihk bs (hpost bs t₁.acts) hk
      rw [Trace.acts, List.map_append]
      exact ⟨ordered_append.mpr ⟨hfirst, hord⟩, fun a ha => by simpa [Trace.acts] using hlast a ha⟩

theorem Runs.called {p : Proc I Ev α} {t : Trace I Ev} {o : Outcome α} (h : Runs p t o) {s : Site}
    {op : I.Op} {a : I.Ans op} (ha : Replied t s op a) : Called t s op := by
  unfold Replied at ha
  unfold Called
  induction p generalizing t s with
  | done b =>
    obtain ⟨rfl, -⟩ := h
    cases ha
  | emit e p ih =>
    rcases h with ⟨rfl, -⟩ | ⟨t', rfl, h⟩
    · cases ha
    · have ha' := (List.mem_cons.mp ha).resolve_left (by simp)
      exact List.mem_cons_of_mem _ (ih h ha')
  | await op' k ih =>
    rcases h with ⟨rfl, -⟩ | ⟨rfl, -⟩ | ⟨b, t', rfl, h⟩
    · cases ha
    · simp at ha
    · rcases List.mem_cons.mp ((List.mem_cons.mp ha).resolve_left (by simp)) with heq | ha'
      · cases heq
        exact List.mem_cons_self
      · exact List.mem_cons_of_mem _ (List.mem_cons_of_mem _ (ih b h ha'))
  | gather c k ihc ihk =>
    obtain ⟨t₁, t₂, os, rfl, hin, hc, hk⟩ := h
    rcases List.mem_append.mp ha with ha' | ha'
    · obtain ⟨i, s', hi, hs⟩ := hin _ ha'
      obtain rfl : s = i :: s' := hs
      have hcalled := ihc ⟨i, hi⟩ (hc ⟨i, hi⟩) (mem_childTrace.mpr ha')
      exact List.mem_append_left _ (mem_childTrace.mp hcalled)
    · rcases hk with ⟨rfl, -⟩ | ⟨bs, -, hk⟩
      · cases ha'
      · exact List.mem_append_right _ (ihk bs hk ha')

theorem Proc.Follows.mono {p : Proc I Ev α} {h : List (Act I Ev)}
    {post post' : α → List (Act I Ev) → Prop} (hp : p.Follows pre h post)
    (hpost : ∀ a h, post a h → post' a h) : p.Follows pre h post' := by
  induction p generalizing h with
  | done a => exact hpost a h hp
  | emit e p ih => exact ⟨hp.1, ih hp.2 hpost⟩
  | await op k ih => exact ⟨hp.1, fun a => ⟨(hp.2 a).1, ih a (hp.2 a).2 hpost⟩⟩
  | gather c k _ ih => exact ⟨hp.1, fun xs u => ih xs (hp.2 xs u) hpost⟩

theorem Proc.Within.follows {P : Label I Ev → Prop} {p : Proc I Ev α} (hp : p.Within P)
    (hpre : ∀ l, P l → ∀ h, pre h l.act) {h : List (Act I Ev)}
    {post : α → List (Act I Ev) → Prop} (hpost : ∀ a h, post a h) : p.Follows pre h post := by
  induction p generalizing h with
  | done a => exact hpost a h
  | emit e p ih => exact ⟨hpre _ hp.1 h, ih hp.2 hpost⟩
  | await op k ih =>
    exact ⟨hpre _ hp.1 h, fun a => ⟨hpre _ (hp.2 a).1 _, ih a (hp.2 a).2 hpost⟩⟩
  | gather c k _ ih =>
    refine ⟨fun i => (hp.1 i).mono fun l hl u => ?_, fun xs u => ih xs (hp.2 xs) hpost⟩
    exact hpre _ hl (h ++ u)

theorem Proc.follows_done {a : α} {h : List (Act I Ev)} {post : α → List (Act I Ev) → Prop}
    (ha : post a h) : (Proc.done a : Proc I Ev α).Follows pre h post :=
  ha

theorem Proc.follows_emit {e : Ev} {p : Proc I Ev α} {h : List (Act I Ev)}
    {post : α → List (Act I Ev) → Prop} (he : pre h (.event e))
    (hp : p.Follows pre (h ++ [.event e]) post) : (Proc.emit e p).Follows pre h post :=
  ⟨he, hp⟩

theorem Proc.Follows.bind {p : Proc I Ev α} {f : α → Proc I Ev β} {h : List (Act I Ev)}
    {post : β → List (Act I Ev) → Prop}
    (hp : p.Follows pre h fun a h => (f a).Follows pre h post) : (p.bind f).Follows pre h post := by
  induction p generalizing h with
  | done a => exact hp
  | emit e p ih => exact ⟨hp.1, ih hp.2⟩
  | await op k ih => exact ⟨hp.1, fun a => ⟨(hp.2 a).1, ih a (hp.2 a).2⟩⟩
  | gather c k _ ih => exact ⟨hp.1, fun xs u => ih xs (hp.2 xs u)⟩

namespace Fallible

theorem follows_ofExcept {r : Except ε α} {h : List (Act I Ev)}
    {post : Except ε α → List (Act I Ev) → Prop} (hr : post r h) :
    (ofExcept r : Fallible I Ev ε α).run.Follows pre h post :=
  hr

theorem follows_pure {a : α} {h : List (Act I Ev)} {post : Except ε α → List (Act I Ev) → Prop}
    (ha : post (.ok a) h) : (pure a : Fallible I Ev ε α).run.Follows pre h post :=
  ha

/-- The sequence rule, with what holds in between. -/
theorem follows_bind {x : Fallible I Ev ε α} {f : α → Fallible I Ev ε β} {h : List (Act I Ev)}
    {Q : Except ε α → List (Act I Ev) → Prop} {post : Except ε β → List (Act I Ev) → Prop}
    (hx : x.run.Follows pre h Q) (herror : ∀ e h, Q (.error e) h → post (.error e) h)
    (hok : ∀ a h, Q (.ok a) h → (f a).run.Follows pre h post) :
    (x >>= f).run.Follows pre h post := by
  refine Proc.Follows.bind (hx.mono fun r h hr => ?_)
  cases r with
  | ok a => exact hok a h hr
  | error e => exact herror e h hr

theorem follows_mapErr {g : ε → ε'} {x : Fallible I Ev ε α} {h : List (Act I Ev)}
    {post : Except ε' α → List (Act I Ev) → Prop}
    (hx : x.run.Follows pre h fun r h => post (r.mapError g) h) :
    (x.mapErr g).run.Follows pre h post :=
  Proc.Follows.bind hx

end Fallible
end Cooperative
