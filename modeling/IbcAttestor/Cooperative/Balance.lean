import IbcAttestor.Cooperative.Runs

/-!
# Balances

Every effect is worth an amount, and the balance of a process is the sum of what
it has done. `Proc.Keeps` is the weakest precondition for a balance that is in a
given submonoid whenever the process waits: children of a gather start with their
own balance of zero, and what each owes when it waits or has finished is in the
submonoid too, so that the sum is, in every interleaving.
-/

namespace Cooperative

variable {I : Interface} {Ev α β ε ε' A : Type} [AddCommMonoid A]

/-- What an action is worth when an event `e` is worth `count e`. -/
def Act.amount (count : Ev → A) : Act I Ev → A
  | .event e => count e
  | _ => 0

def Trace.total (count : Ev → A) (t : Trace I Ev) : A := (t.map fun l => l.act.amount count).sum

section Total

variable (count : Ev → A)

@[simp] theorem Trace.total_nil : Trace.total count ([] : Trace I Ev) = 0 := rfl

@[simp] theorem Trace.total_cons (l : Label I Ev) (t : Trace I Ev) :
    Trace.total count (l :: t) = l.act.amount count + Trace.total count t := by
  simp [Trace.total]

@[simp] theorem Trace.total_append (t₁ t₂ : Trace I Ev) :
    Trace.total count (t₁ ++ t₂) = Trace.total count t₁ + Trace.total count t₂ := by
  simp [Trace.total]

theorem Trace.total_eq_sum {n : ℕ} {t : Trace I Ev} (h : InChildren n t) :
    Trace.total count t = ∑ i : Fin n, Trace.total count (childTrace i t) := by
  induction t with
  | nil => simp
  | cons l t ih =>
    obtain ⟨i, s, hi, hs⟩ := h l (by simp)
    have hchild : ∀ j : Fin n, Trace.total count (childTrace j (l :: t)) =
        (if (⟨i, hi⟩ : Fin n) = j then l.act.amount count else 0) +
          Trace.total count (childTrace j t) := by
      intro j
      unfold childTrace
      rw [List.filterMap_cons]
      by_cases hj : (⟨i, hi⟩ : Fin n) = j
      · have hv : i = j.val := congrArg Fin.val hj
        simp [Label.inChild, hs, hv]
      · have hv : i ≠ j.val := fun h => hj (Fin.ext h)
        simp [Label.inChild, hs, hj, hv]
    rw [Trace.total_cons, ih fun l hl => h l (by simp [hl])]
    simp only [hchild, Finset.sum_add_distrib, Finset.sum_ite_eq, Finset.mem_univ, if_true]

end Total

variable {count : Ev → A} {inv : AddSubmonoid A}

/-- The balance `b` is in `inv` whenever `p` waits, and the result and the balance
satisfy `post` when it has finished. -/
def Proc.Keeps (count : Ev → A) (inv : AddSubmonoid A) {α : Type} :
    Proc I Ev α → A → (α → A → Prop) → Prop
  | .done a, b, post => post a b
  | .emit e p, b, post => p.Keeps count inv (b + count e) post
  | .await _ k, b, post => b ∈ inv ∧ ∀ a, (k a).Keeps count inv b post
  | @Proc.gather _ _ _ β n c k, b, post => b ∈ inv ∧ ∃ Q : Fin n → β → A → Prop,
      (∀ i, (c i).Keeps count inv 0 fun x d => d ∈ inv ∧ Q i x d) ∧
      ∀ (xs : Fin n → β) (ds : Fin n → A), (∀ i, ds i ∈ inv ∧ Q i (xs i) (ds i)) →
        (k xs).Keeps count inv (b + ∑ i, ds i) post

/-- A balance at an outcome: unconstrained in the middle of a poll. -/
def Outcome.Balanced (inv : AddSubmonoid A) (post : α → A → Prop) : Outcome α → A → Prop
  | .finished a, b => post a b
  | .pending .suspended, b => b ∈ inv
  | .pending .running, _ => True

theorem Outcome.Balanced.mem {o : Outcome α} {d : A} {Q : α → A → Prop}
    (h : o.Balanced inv (fun x d => d ∈ inv ∧ Q x d) d) (hr : o.isRunning = false) : d ∈ inv := by
  cases o with
  | finished a => exact h.1
  | pending s =>
    cases s with
    | running => cases hr
    | suspended => exact h

/-- The run rule: what a process keeps, each of its runs keeps. -/
theorem Proc.Keeps.balanced {p : Proc I Ev α} {b : A} {post : α → A → Prop}
    (hp : p.Keeps count inv b post) {t : Trace I Ev} {o : Outcome α} (h : Runs p t o) :
    o.Balanced inv post (b + t.total count) := by
  induction p generalizing b t with
  | done a =>
    obtain ⟨rfl, rfl⟩ := h
    rw [Trace.total_nil, add_zero]
    exact hp
  | emit e p ih =>
    rcases h with ⟨rfl, rfl⟩ | ⟨t', rfl, h⟩
    · trivial
    · have hrest := ih hp h
      rw [add_assoc] at hrest
      rwa [Trace.total_cons]
  | await op k ih =>
    rcases h with ⟨rfl, rfl⟩ | ⟨rfl, rfl⟩ | ⟨a, t', rfl, h⟩
    · trivial
    · have hzero : b + Trace.total count [(⟨[], .call op⟩ : Label I Ev)] = b := by
        simp [Act.amount]
      rw [hzero]
      exact hp.1
    · simpa [Act.amount] using ih a (hp.2 a) h
  | @gather _ _ n c k ihc ihk =>
    obtain ⟨t₁, t₂, os, rfl, hin, hc, hk⟩ := h
    obtain ⟨hb, Q, hQ, hpost⟩ := hp
    have hchild := fun i => ihc i (hQ i) (hc i)
    simp only [zero_add] at hchild
    have htotal : b + (t₁ ++ t₂).total count =
        b + (∑ i : Fin n, (childTrace i t₁).total count) + t₂.total count := by
      rw [Trace.total_append, Trace.total_eq_sum count hin, add_assoc]
    rw [htotal]
    rcases hk with ⟨rfl, rfl⟩ | ⟨bs, hbs, hk⟩
    · unfold joinPhase
      split_ifs with hj
      · rw [Trace.total_nil, add_zero]
        exact inv.add_mem hb (inv.sum_mem fun i _ => (hchild i).mem (hj.1 i))
      · trivial
    · refine ihk bs (hpost bs _ fun i => ?_) hk
      have hi := hchild i
      rw [hbs i] at hi
      exact hi

theorem Proc.Keeps.mono {p : Proc I Ev α} {b : A} {post post' : α → A → Prop}
    (hp : p.Keeps count inv b post) (h : ∀ a b, post a b → post' a b) :
    p.Keeps count inv b post' := by
  induction p generalizing b with
  | done a => exact h a b hp
  | emit e p ih => exact ih hp h
  | await op k ih => exact ⟨hp.1, fun a => ih a (hp.2 a) h⟩
  | gather c k _ ih =>
    obtain ⟨hb, Q, hQ, hpost⟩ := hp
    exact ⟨hb, Q, hQ, fun xs ds hds => ih xs (hpost xs ds hds) h⟩

theorem Proc.Keeps.bind {p : Proc I Ev α} {f : α → Proc I Ev β} {b : A} {post : β → A → Prop}
    (hp : p.Keeps count inv b fun a b => (f a).Keeps count inv b post) :
    (p.bind f).Keeps count inv b post := by
  induction p generalizing b with
  | done a => exact hp
  | emit e p ih => exact ih hp
  | await op k ih => exact ⟨hp.1, fun a => ih a (hp.2 a)⟩
  | gather c k _ ih =>
    obtain ⟨hb, Q, hQ, hpost⟩ := hp
    exact ⟨hb, Q, hQ, fun xs ds hds => ih xs (hpost xs ds hds)⟩

/-- The frame rule: a balance that is fine to wait with can be put aside. -/
theorem Proc.Keeps.frame {p : Proc I Ev α} {b b' : A} {post : α → A → Prop}
    (hp : p.Keeps count inv b post) (hb' : b' ∈ inv) :
    p.Keeps count inv (b' + b) fun a d => ∃ d', d = b' + d' ∧ post a d' := by
  induction p generalizing b with
  | done a => exact ⟨b, rfl, hp⟩
  | emit e p ih =>
    have hrest := ih hp
    rwa [← add_assoc] at hrest
  | await op k ih => exact ⟨inv.add_mem hb' hp.1, fun a => ih a (hp.2 a)⟩
  | gather c k _ ih =>
    obtain ⟨hb, Q, hQ, hpost⟩ := hp
    refine ⟨inv.add_mem hb' hb, Q, hQ, fun xs ds hds => ?_⟩
    rw [add_assoc]
    exact ih xs (hpost xs ds hds)

def Label.Neutral (count : Ev → A) (l : Label I Ev) : Prop := l.act.amount count = 0

/-- A process of neutral labels leaves every balance as it is. -/
theorem Proc.Within.keeps {p : Proc I Ev α} (hp : p.Within (Label.Neutral count)) {b : A}
    (hb : b ∈ inv) {post : α → A → Prop} (h : ∀ a, post a b) : p.Keeps count inv b post := by
  induction p generalizing b with
  | done a => exact h a
  | emit e p ih =>
    have he : count e = 0 := hp.1
    have hrest := ih hp.2 hb h
    rw [Proc.Keeps, he, add_zero]
    exact hrest
  | await op k ih => exact ⟨hb, fun a => ih a (hp.2 a).2 hb h⟩
  | gather c k ihc ihk =>
    refine ⟨hb, fun _ _ d => d = 0, fun i => ?_, fun xs ds hds => ?_⟩
    · exact ihc i (hp.1 i) inv.zero_mem fun _ => ⟨inv.zero_mem, rfl⟩
    · have hzero : ∑ i, ds i = 0 := Finset.sum_eq_zero fun i _ => (hds i).2
      rw [hzero, add_zero]
      exact ihk xs (hp.2 xs) hb h

namespace Fallible

theorem keeps_bind {x : Fallible I Ev ε α} {f : α → Fallible I Ev ε β} {b : A}
    {post : Except ε β → A → Prop}
    (hx : x.run.Keeps count inv b fun r b => match r with
      | .ok a => (f a).run.Keeps count inv b post
      | .error e => post (.error e) b) :
    (x >>= f).run.Keeps count inv b post := by
  refine Proc.Keeps.bind (hx.mono fun r b h => ?_)
  cases r with
  | ok a => exact h
  | error e => exact h

theorem keeps_mapErr {g : ε → ε'} {x : Fallible I Ev ε α} {b : A}
    {post : Except ε' α → A → Prop}
    (hx : x.run.Keeps count inv b fun r b => post (r.mapError g) b) :
    (x.mapErr g).run.Keeps count inv b post :=
  Proc.Keeps.bind hx

theorem keeps_report {es : List Ev} {r : Except ε α} {b : A} {post : Except ε α → A → Prop}
    (h : post r (b + (es.map count).sum)) :
    (Fallible.report es r : Fallible I Ev ε α).run.Keeps count inv b post := by
  induction es generalizing b with
  | nil => simpa [Fallible.report, Proc.Keeps] using h
  | cons e es ih =>
    rw [List.map_cons, List.sum_cons, ← add_assoc] at h
    exact ih h

theorem keeps_ask {g : ε → ε'} {x : Fallible I Ev ε α} {es : α → List Ev}
    {r : α → Except ε' β} {b : A} {post : Except ε' β → A → Prop}
    (hx : x.run.Within (Label.Neutral count)) (hb : b ∈ inv)
    (herror : ∀ e, post (.error (g e)) b)
    (hok : ∀ a, post (r a) (b + ((es a).map count).sum)) :
    (x.mapErr g >>= fun a => Fallible.report (es a) (r a)).run.Keeps count inv b post := by
  refine keeps_bind (keeps_mapErr (hx.keeps hb fun r => ?_))
  cases r with
  | error e => exact herror e
  | ok a => exact keeps_report (hok a)

end Fallible
end Cooperative
