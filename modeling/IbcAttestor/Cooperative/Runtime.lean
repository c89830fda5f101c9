import IbcAttestor.Cooperative.Budget
import IbcAttestor.Cooperative.Precedence

/-!
# Named tasks over a shared world

A runtime has one process for each name. Every action of a task goes through the
world, which says whether the task may act at all, which reply a call gets, and what
is different afterwards; both the actions and the world's own moves may depend on what
the tasks have come to. The log of every task is a run of its process.
-/

namespace Cooperative

universe u

section Straight

variable {I : Interface} {Ev α : Type}

/-- The process never waits for children. -/
def Proc.Straight {α : Type} : Proc I Ev α → Prop
  | .done _ => True
  | .emit _ p => p.Straight
  | .await _ k => ∀ a, (k a).Straight
  | .gather _ _ => False

theorem Proc.Straight.bind {β : Type} {p : Proc I Ev α} {f : α → Proc I Ev β} (hp : p.Straight)
    (hf : ∀ a, (f a).Straight) : (p.bind f).Straight := by
  induction p with
  | done a => exact hf a
  | emit e p ih => exact ih hp hf
  | await op k ih => exact fun a => ih a (hp a) hf
  | gather c k => exact hp.elim

def Fut.Straight {α : Type} : Fut I Ev α → Prop
  | .ready p => p.Straight
  | .waiting _ k => ∀ a, (k a).Straight
  | .joining _ _ => False

theorem Fut.Step.straight {f g : Fut I Ev α}
    {l : Option (Label I Ev)} (h : f.Step l g) (hf : f.Straight) : l ≠ none ∧ g.Straight := by
  cases h with
  | emit => exact ⟨by simp, hf⟩
  | call => exact ⟨by simp, hf⟩
  | reply a => exact ⟨by simp, hf a⟩
  | spawn => exact hf.elim
  | child i h => exact hf.elim
  | join h => exact hf.elim

theorem Fut.Steps.straight {p : Proc I Ev α} {f : Fut I Ev α}
    {t : Trace I Ev} (h : Fut.Steps (.ready p) t f) (hp : p.Straight) : f.Straight := by
  induction h with
  | refl => exact hp
  | tail _ hstep ih => exact (hstep.straight ih).2

end Straight

/-- Processes by their names, and the world they act on. -/
structure Runtime (N : Type) (R : N → Type) (I : Interface) (Ev : Type) (W : Type u) where
  code : ∀ n, Proc I Ev (R n)
  acts : N → (∀ n, Outcome (R n)) → Act I Ev → W → W → Prop
  moves : (∀ n, Outcome (R n)) → W → W → Prop

namespace Runtime

variable {N : Type} {R : N → Type} {I : Interface} {Ev : Type} {W : Type u}

structure State (N : Type) (R : N → Type) (I : Interface) (Ev : Type) (W : Type u) where
  futs : ∀ n, Fut I Ev (R n)
  logs : N → Trace I Ev
  world : W

def State.outcomes (s : State N R I Ev W) (n : N) : Outcome (R n) := (s.futs n).outcome

def State.Did (s : State N R I Ev W) (n : N) (a : Act I Ev) : Prop := a ∈ (s.logs n).acts

/-- A run in which one task goes on by the actions `as`. -/
structure Later (n : N) (as : List (Act I Ev)) (f : Fut I Ev (R n)) (w : W)
    (s s' : State N R I Ev W) : Prop where
  fut : s'.futs n = f
  acts : (s'.logs n).acts = (s.logs n).acts ++ as
  world : s'.world = w
  others : ∀ m, m ≠ n → s'.futs m = s.futs m
  logs : ∀ m, m ≠ n → s'.logs m = s.logs m

section Later

variable {n : N} {as bs : List (Act I Ev)} {f g : Fut I Ev (R n)} {w w' : W}
  {s s₁ s₂ : State N R I Ev W}

theorem Later.trans (h : Later n as f w s s₁) (h' : Later n bs g w' s₁ s₂) :
    Later n (as ++ bs) g w' s s₂ where
  fut := h'.fut
  acts := by rw [h'.acts, h.acts, List.append_assoc]
  world := h'.world
  others m hm := (h'.others m hm).trans (h.others m hm)
  logs m hm := (h'.logs m hm).trans (h.logs m hm)

theorem Later.did (h : Later n as f w s s₁) {a : Act I Ev} (ha : a ∈ as) : s₁.Did n a := by
  rw [State.Did, h.acts]
  exact List.mem_append_right _ ha

theorem Later.kept (h : Later n as f w s s₁) {m : N} {a : Act I Ev} (ha : s.Did m a) :
    s₁.Did m a := by
  unfold State.Did at ha ⊢
  by_cases hm : m = n
  · subst hm
    rw [h.acts]
    exact List.mem_append_left _ ha
  · rwa [h.logs m hm]

end Later

variable [DecidableEq N] (rt : Runtime N R I Ev W)

inductive Step : State N R I Ev W → State N R I Ev W → Prop
  | act {s : State N R I Ev W} (n : N) {l : Label I Ev} {f : Fut I Ev (R n)} {w : W}
      (h : (s.futs n).Step (some l) f) (hact : rt.acts n s.outcomes l.act s.world w) :
      Step s ⟨Function.update s.futs n f, Function.update s.logs n (s.logs n ++ [l]), w⟩
  | inner {s : State N R I Ev W} (n : N) {f : Fut I Ev (R n)} (h : (s.futs n).Step none f) :
      Step s { s with futs := Function.update s.futs n f }
  | move {s : State N R I Ev W} {w : W} (h : rt.moves s.outcomes s.world w) :
      Step s { s with world := w }

/-- The states of every run from the world `init`, when no task has been polled. -/
inductive Reachable (init : W) : State N R I Ev W → Prop
  | start : Reachable init ⟨fun n => .ready (rt.code n), fun _ => [], init⟩
  | step {s s' : State N R I Ev W} : Reachable init s → Step rt s s' → Reachable init s'

variable {rt} {init : W} {s s' : State N R I Ev W}

theorem Reachable.steps (h : rt.Reachable init s) (n : N) :
    Fut.Steps (.ready (rt.code n)) (s.logs n) (s.futs n) := by
  induction h with
  | start => exact .refl
  | step _ hstep ih =>
    cases hstep with
    | act m hs _ =>
      by_cases hn : n = m
      · subst hn
        simp only [Function.update_self]
        exact .tail ih hs
      · simp only [Function.update_of_ne hn]
        exact ih
    | inner m hs =>
      by_cases hn : n = m
      · subst hn
        simp only [Function.update_self]
        have htail := Fut.Steps.tail ih hs
        simpa using htail
      · simp only [Function.update_of_ne hn]
        exact ih
    | move _ => exact ih

theorem Reachable.runs (h : rt.Reachable init s) (n : N) :
    Runs (rt.code n) (s.logs n) (s.outcomes n) :=
  (h.steps n).runs

/-- Everything has happened in order, the next action included. -/
theorem Reachable.allows {pre : List (Act I Ev) → Act I Ev → Prop} {n : N}
    {post : R n → List (Act I Ev) → Prop} (h : rt.Reachable init s)
    (hcode : (rt.code n).Follows pre [] post) {l : Label I Ev} {f : Fut I Ev (R n)}
    (hs : (s.futs n).Step (some l) f) : pre (s.logs n).acts l.act := by
  have hruns := (Fut.Steps.tail (h.steps n) hs).runs
  have hord := (hcode.ordered hruns).1
  rw [Option.toList_some, Trace.acts, List.map_append] at hord
  simpa [Trace.acts] using hord.last

theorem Reachable.result {pre : List (Act I Ev) → Act I Ev → Prop} {n : N}
    {post : R n → List (Act I Ev) → Prop} (h : rt.Reachable init s)
    (hcode : (rt.code n).Follows pre [] post) {a : R n} (ha : s.outcomes n = .finished a) :
    post a (s.logs n).acts := by
  simpa using (hcode.ordered (h.runs n)).2 a ha

theorem Reachable.before {pre : List (Act I Ev) → Act I Ev → Prop} {n : N}
    {post : R n → List (Act I Ev) → Prop} (h : rt.Reachable init s)
    (hcode : (rt.code n).Follows pre [] post) {a : Act I Ev} (ha : s.Did n a) :
    ∃ u v, (s.logs n).acts = u ++ a :: v ∧ pre u a := by
  simpa using (hcode.ordered (h.runs n)).1.mem ha

theorem did_update {n m : N} {l : Label I Ev} {a : Act I Ev} {futs : ∀ n, Fut I Ev (R n)} {w : W} :
    State.Did ⟨futs, Function.update s.logs n (s.logs n ++ [l]), w⟩ m a ↔
      s.Did m a ∨ m = n ∧ a = l.act := by
  unfold State.Did
  by_cases hm : m = n
  · subst hm
    simp [Trace.acts]
  · simp [hm, Trace.acts]

/-- What an action makes true of the world and no step takes back. -/
theorem Reachable.lasting {n : N} {a : Act I Ev} {H P : W → Prop} (h : rt.Reachable init s)
    (hinv : ∀ s, rt.Reachable init s → H s.world)
    (hact : ∀ outcomes w w', rt.acts n outcomes a w w' → H w → P w')
    (hkeep : ∀ s s', rt.Step s s' → P s.world → P s'.world) (ha : s.Did n a) : P s.world := by
  induction h with
  | start => simp [State.Did, Trace.acts] at ha
  | @step s s' hreach hstep ih =>
    cases hstep with
    | act m hs hm =>
      rcases did_update.mp ha with hdid | ⟨rfl, rfl⟩
      · exact hkeep _ _ (.act m hs hm) (ih hdid)
      · exact hact _ _ _ hm (hinv _ hreach)
    | inner m hs => exact hkeep _ _ (.inner m hs) (ih ha)
    | move hm => exact hkeep _ _ (.move hm) (ih ha)

theorem Reachable.act (h : rt.Reachable init s) {n : N} {l : Label I Ev} {f : Fut I Ev (R n)}
    {w : W} (hs : (s.futs n).Step (some l) f) (hact : rt.acts n s.outcomes l.act s.world w) :
    ∃ s', rt.Reachable init s' ∧ Later n [l.act] f w s s' :=
  ⟨_, .step h (.act n hs hact), Function.update_self .., by simp [Trace.acts], rfl,
    fun _ hm => Function.update_of_ne hm .., fun _ hm => Function.update_of_ne hm ..⟩

theorem Reachable.emits (h : rt.Reachable init s) {n : N} {e : Ev} {p : Proc I Ev (R n)} {w : W}
    (hfut : s.futs n = .ready (.emit e p)) (hact : rt.acts n s.outcomes (.event e) s.world w) :
    ∃ s', rt.Reachable init s' ∧ Later n [.event e] (.ready p) w s s' := by
  have hs : (s.futs n).Step (some ⟨[], .event e⟩) (.ready p) := by
    rw [hfut]
    exact .emit
  exact h.act hs hact

theorem Reachable.awaits (h : rt.Reachable init s) {n : N} {op : I.Op}
    {k : I.Ans op → Proc I Ev (R n)} (hfut : s.futs n = .ready (.await op k)) {a : I.Ans op} {w : W}
    (hcall : rt.acts n s.outcomes (.call op) s.world s.world)
    (hreply : ∀ outcomes, (∀ m, m ≠ n → outcomes m = s.outcomes m) →
      (∀ r, outcomes n ≠ .finished r) → rt.acts n outcomes (.reply op a) s.world w) :
    ∃ s', rt.Reachable init s' ∧ Later n [.call op, .reply op a] (.ready (k a)) w s s' := by
  have hs : (s.futs n).Step (some ⟨[], .call op⟩) (.waiting op k) := by
    rw [hfut]
    exact .call
  obtain ⟨s₁, h₁, hlater₁⟩ := h.act hs hcall
  have hs₁ : (s₁.futs n).Step (some ⟨[], .reply op a⟩) (.ready (k a)) := by
    rw [hlater₁.fut]
    exact @Fut.Step.reply I _ _ op k a
  have hact : rt.acts n s₁.outcomes (.reply op a) s₁.world w := by
    rw [hlater₁.world]
    apply hreply
    · intro m hm
      rw [State.outcomes, hlater₁.others m hm]
      rfl
    · intro r hr
      exact Fut.not_step_of_finished hr hs₁
  obtain ⟨s₂, h₂, hlater₂⟩ := h₁.act hs₁ hact
  exact ⟨s₂, h₂, hlater₁.trans hlater₂⟩

/-- A task of straight code has finished, can do something of its own, or waits for a
reply. -/
theorem Reachable.enabled (h : rt.Reachable init s) {n : N} (hcode : (rt.code n).Straight) :
    (∃ a, s.outcomes n = .finished a) ∨
    (∃ l f, (s.futs n).Step (some l) f ∧ ∀ op a, l.act ≠ .reply op a) ∨
    ∃ site op, ∀ a, ∃ f, (s.futs n).Step (some ⟨site, .reply op a⟩) f := by
  rcases (s.futs n).enabled with hdone | ⟨g, hg⟩ | hfree | hreply
  · exact .inl hdone
  · exact absurd rfl (hg.straight ((h.steps n).straight hcode)).1
  · exact .inr (.inl hfree)
  · exact .inr (.inr hreply)

end Runtime
end Cooperative
