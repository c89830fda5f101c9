import IbcAttestor.Cooperative.Runs

/-!
# The small-step machine

A future is a process in progress: ready to be polled, waiting for one reply, or
joining children. Its steps are the single actions of the scheduler; the run
relation is exactly what sequences of them produce.
-/

namespace Cooperative

variable {I : Interface} {Ev α β : Type}

inductive Fut (I : Interface) (Ev : Type) : Type → Type 1 where
  | ready {α : Type} (p : Proc I Ev α) : Fut I Ev α
  | waiting {α : Type} (op : I.Op) (k : I.Ans op → Proc I Ev α) : Fut I Ev α
  | joining {α β : Type} {n : ℕ} (fs : Fin n → Fut I Ev β) (k : (Fin n → β) → Proc I Ev α) :
      Fut I Ev α

namespace Fut

def outcome {α : Type} : Fut I Ev α → Outcome α
  | .ready p => p.initial
  | .waiting _ _ => .pending .suspended
  | .joining fs _ => .pending (joinPhase fun i => (fs i).outcome)

/-- One action of a future; `none` is the bookkeeping around a gather. -/
inductive Step : {α : Type} → Fut I Ev α → Option (Label I Ev) → Fut I Ev α → Prop
  | emit {α : Type} {e : Ev} {p : Proc I Ev α} :
      Step (.ready (.emit e p)) (some ⟨[], .event e⟩) (.ready p)
  | call {α : Type} {op : I.Op} {k : I.Ans op → Proc I Ev α} :
      Step (.ready (.await op k)) (some ⟨[], .call op⟩) (.waiting op k)
  | reply {α : Type} {op : I.Op} {k : I.Ans op → Proc I Ev α} (a : I.Ans op) :
      Step (.waiting op k) (some ⟨[], .reply op a⟩) (.ready (k a))
  | spawn {α β : Type} {n : ℕ} {c : Fin n → Proc I Ev β} {k : (Fin n → β) → Proc I Ev α} :
      Step (.ready (.gather c k)) none (.joining (fun i => .ready (c i)) k)
  | child {α β : Type} {n : ℕ} {fs : Fin n → Fut I Ev β} {k : (Fin n → β) → Proc I Ev α}
      {l : Option (Label I Ev)} {g : Fut I Ev β} (i : Fin n) (h : Step (fs i) l g) :
      Step (.joining fs k) (l.map (Label.under i))
        (.joining (Function.update fs i g) k)
  | join {α β : Type} {n : ℕ} {fs : Fin n → Fut I Ev β} {k : (Fin n → β) → Proc I Ev α}
      {bs : Fin n → β} (h : ∀ i, fs i = .ready (.done (bs i))) :
      Step (.joining fs k) none (.ready (k bs))

theorem eq_of_finished {f : Fut I Ev α} {a : α} (ha : f.outcome = .finished a) :
    f = .ready (.done a) := by
  cases f with
  | ready p =>
    cases p with
    | done b =>
      cases ha
      rfl
    | emit e p => cases ha
    | await op k => cases ha
    | gather c k => cases ha
  | waiting op k => cases ha
  | joining fs k => cases ha

/-- A future has finished, can go on by itself, or can go on with any reply to some call. -/
theorem enabled (f : Fut I Ev α) : (∃ a, f.outcome = .finished a) ∨ (∃ g, f.Step none g) ∨
    (∃ l g, f.Step (some l) g ∧ ∀ op a, l.act ≠ .reply op a) ∨
    ∃ s op, ∀ a, ∃ g, f.Step (some ⟨s, .reply op a⟩) g := by
  induction f with
  | ready p =>
    cases p with
    | done a => exact .inl ⟨a, rfl⟩
    | emit e p => exact .inr (.inr (.inl ⟨_, _, .emit, by simp⟩))
    | await op k => exact .inr (.inr (.inl ⟨_, _, .call, by simp⟩))
    | gather c k => exact .inr (.inl ⟨_, .spawn⟩)
  | waiting op k => exact .inr (.inr (.inr ⟨[], op, fun a => ⟨_, .reply a⟩⟩))
  | joining fs k ih =>
    by_cases hall : ∀ i, ∃ b, (fs i).outcome = .finished b
    · choose bs hbs using hall
      exact .inr (.inl ⟨_, .join fun i => eq_of_finished (hbs i)⟩)
    · push Not at hall
      obtain ⟨i, hi⟩ := hall
      rcases ih i with ⟨b, hb⟩ | ⟨g, hg⟩ | ⟨l, g, hg, hl⟩ | ⟨s, op, hg⟩
      · exact absurd hb (hi b)
      · exact .inr (.inl ⟨_, .child i hg⟩)
      · exact .inr (.inr (.inl ⟨l.under i, _, .child i hg, hl⟩))
      · refine .inr (.inr (.inr ⟨i :: s, op, fun a => ?_⟩))
        obtain ⟨g, hg⟩ := hg a
        exact ⟨_, .child i hg⟩

theorem not_step_of_finished {f g : Fut I Ev α} {l : Option (Label I Ev)} {a : α}
    (ha : f.outcome = .finished a) : ¬ f.Step l g := by
  intro h
  cases h <;> cases ha

inductive Steps : Fut I Ev α → Trace I Ev → Fut I Ev α → Prop
  | refl {f : Fut I Ev α} : Steps f [] f
  | tail {f g h : Fut I Ev α} {t : Trace I Ev} {l : Option (Label I Ev)} :
      Steps f t g → Step g l h → Steps f (t ++ l.toList) h

/-- What a future may still do, as `Cooperative.Runs` says it for a process. -/
def Resumes {α : Type} : Fut I Ev α → Trace I Ev → Outcome α → Prop
  | .ready p, t, o => Runs p t o
  | .waiting op k, t, o => (t = [] ∧ o = .pending .suspended) ∨
      ∃ a t', t = ⟨[], .reply op a⟩ :: t' ∧ Runs (k a) t' o
  | @Fut.joining _ _ _ _ n fs k, t, o => ∃ t₁ t₂ os, t = t₁ ++ t₂ ∧ InChildren n t₁ ∧
      (∀ i : Fin n, (fs i).Resumes (childTrace i t₁) (os i)) ∧
      ((t₂ = [] ∧ o = .pending (joinPhase os)) ∨
        ∃ bs, (∀ i, os i = .finished (bs i)) ∧ Runs (k bs) t₂ o)

theorem resumes_outcome (f : Fut I Ev α) : f.Resumes [] f.outcome := by
  induction f with
  | ready p => exact runs_nil p
  | waiting op k => exact .inl ⟨rfl, rfl⟩
  | joining fs k ih => exact ⟨[], [], _, rfl, by simp [InChildren], ih, .inl ⟨rfl, rfl⟩⟩

theorem inChildren_cons {n : ℕ} {i : Fin n} {l : Label I Ev} {t : Trace I Ev}
    (h : InChildren n t) : InChildren n (l.under i :: t) := by
  intro m hm
  rcases List.mem_cons.mp hm with rfl | hm
  · exact ⟨i, l.site, i.isLt, rfl⟩
  · exact h m hm

theorem childTrace_cons_under {i j : ℕ} {l : Label I Ev} {t : Trace I Ev} :
    childTrace i (l.under j :: t) =
      if j = i then l :: childTrace i t else childTrace i t := by
  unfold childTrace
  rw [List.filterMap_cons]
  by_cases h : j = i <;> simp [Label.inChild, Label.under, h]

theorem Step.resumes {f g : Fut I Ev α} {l : Option (Label I Ev)} (h : f.Step l g)
    {t : Trace I Ev} {o : Outcome α} (hg : g.Resumes t o) : f.Resumes (l.toList ++ t) o := by
  induction h generalizing t with
  | emit => exact .inr ⟨t, rfl, hg⟩
  | @call _ op k =>
    rcases hg with ⟨rfl, rfl⟩ | ⟨a, t', rfl, hg⟩
    · exact .inr (.inl ⟨rfl, rfl⟩)
    · exact .inr (.inr ⟨a, t', rfl, hg⟩)
  | reply a => exact .inr ⟨a, t, rfl, hg⟩
  | spawn => exact hg
  | @child _ _ n fs k l g i h ih =>
    obtain ⟨t₁, t₂, os, rfl, ht, hc, hk⟩ := hg
    have hi := hc i
    rw [Function.update_self] at hi
    have hstep := ih hi
    refine ⟨(l.map (Label.under i)).toList ++ t₁, t₂, os, by simp, ?_, ?_, hk⟩
    · cases l with
      | none => exact ht
      | some l => exact inChildren_cons ht
    · intro j
      by_cases hj : j = i
      · subst hj
        cases l with
        | none => exact hstep
        | some l =>
          change (fs j).Resumes (childTrace j (l.under j :: t₁)) (os j)
          rw [childTrace_cons_under, if_pos rfl]
          exact hstep
      · have hcj := hc j
        rw [Function.update_of_ne hj] at hcj
        cases l with
        | none => exact hcj
        | some l =>
          change (fs j).Resumes (childTrace j (l.under i :: t₁)) (os j)
          rw [childTrace_cons_under, if_neg (by simpa [Fin.ext_iff, eq_comm] using hj)]
          exact hcj
  | @join _ _ n fs k bs h =>
    refine ⟨[], t, fun i => .finished (bs i), rfl, by simp [InChildren], fun i => ?_,
      .inr ⟨bs, fun _ => rfl, hg⟩⟩
    rw [h i]
    exact ⟨rfl, rfl⟩

theorem Steps.resumes {f g : Fut I Ev α} {t t' : Trace I Ev} {o : Outcome α}
    (h : Steps f t g) (hg : g.Resumes t' o) : f.Resumes (t ++ t') o := by
  induction h generalizing t' with
  | refl => exact hg
  | tail _ hstep ih =>
    rw [List.append_assoc]
    exact ih (hstep.resumes hg)

theorem Steps.runs {p : Proc I Ev α} {t : Trace I Ev} {f : Fut I Ev α}
    (h : Steps (.ready p) t f) : Runs p t f.outcome := by
  have hr := h.resumes f.resumes_outcome
  rwa [List.append_nil] at hr

theorem Steps.silent {f g : Fut I Ev α} (h : f.Step none g) : Steps f [] g := .tail .refl h

theorem Steps.one {f g : Fut I Ev α} {l : Label I Ev} (h : f.Step (some l) g) : Steps f [l] g :=
  .tail .refl h

theorem Steps.trans {f g h : Fut I Ev α} {t t' : Trace I Ev} (h₁ : Steps f t g)
    (h₂ : Steps g t' h) : Steps f (t ++ t') h := by
  induction h₂ with
  | refl => simpa using h₁
  | tail _ hstep ih =>
    rw [← List.append_assoc]
    exact .tail ih hstep

section Joining

variable {n : ℕ} {fs gs : Fin n → Fut I Ev β} {k : (Fin n → β) → Proc I Ev α}

theorem Steps.child {i : Fin n} {g : Fut I Ev β} {t : Trace I Ev} (h : Steps (fs i) t g) :
    Steps (.joining fs k) (t.map (Label.under i)) (.joining (Function.update fs i g) k) := by
  induction h with
  | refl =>
    rw [Function.update_eq_self]
    exact .refl
  | @tail g g' t l _ hstep ih =>
    have hself : (Function.update fs i g i).Step l g' := by rwa [Function.update_self]
    have hjoin := Steps.tail ih (.child i hself)
    rw [Function.update_idem] at hjoin
    cases l <;> simpa using hjoin

theorem Steps.children (h : ∀ i, Steps (fs i) [] (gs i)) :
    Steps (.joining fs k) [] (.joining gs k) := by
  have hupto : ∀ m ≤ n, Steps (.joining fs k) []
      (.joining (fun i => if i.val < m then gs i else fs i) k) := by
    intro m hm
    induction m with
    | zero => simpa using Steps.refl
    | succ m ih =>
      have hself : Steps (if (⟨m, hm⟩ : Fin n).val < m then gs ⟨m, hm⟩ else fs ⟨m, hm⟩) []
          (gs ⟨m, hm⟩) := by
        rw [if_neg (Nat.lt_irrefl m)]
        exact h _
      have hnext := (ih (by omega)).trans (Steps.child hself)
      rw [List.map_nil, List.append_nil] at hnext
      convert hnext using 2
      funext i
      by_cases hi : i = ⟨m, hm⟩
      · subst hi
        simp
      · have hne : i.val ≠ m := fun h => hi (Fin.ext h)
        rw [Function.update_of_ne hi]
        simp only [Nat.lt_succ_iff_lt_or_eq, hne, or_false]
  simpa using hupto n le_rfl

end Joining

/-- What a future may still do, it can do step by step. -/
structure Forward (f : Fut I Ev α) : Prop where
  label : ∀ l t o, f.Resumes (l :: t) o → ∃ g, Steps f [l] g ∧ g.Resumes t o
  rest : ∀ o, f.Resumes [] o → ∃ g, Steps f [] g ∧ g.outcome = o

theorem forward_joining {n : ℕ} {fs : Fin n → Fut I Ev β} {k : (Fin n → β) → Proc I Ev α}
    (hfs : ∀ i, (fs i).Forward) (hk : ∀ bs, (ready (k bs)).Forward) :
    (joining fs k).Forward := by
  have hjoin : ∀ (os : Fin n → Outcome β) (bs : Fin n → β),
      (∀ i, (fs i).Resumes [] (os i)) → (∀ i, os i = .finished (bs i)) →
        Steps (joining fs k) [] (ready (k bs)) := by
    intro os bs hc hbs
    have hdone : ∀ i, Steps (fs i) [] (ready (.done (bs i))) := by
      intro i
      obtain ⟨g, hg, ho⟩ := (hfs i).rest _ (hc i)
      rw [hbs i] at ho
      exact eq_of_finished ho ▸ hg
    exact (Steps.children hdone).trans (.silent (.join fun _ => rfl))
  constructor
  · rintro l t o ⟨t₁, t₂, os, ht, hin, hc, hk'⟩
    cases t₁ with
    | nil =>
      rw [List.nil_append] at ht
      subst ht
      rcases hk' with ⟨h, -⟩ | ⟨bs, hbs, hrun⟩
      · cases h
      · obtain ⟨g, hg, hres⟩ := (hk bs).label l t o hrun
        exact ⟨g, (hjoin os bs hc hbs).trans hg, hres⟩
    | cons l' t₁ =>
      cases ht
      obtain ⟨i, s, hi, hs⟩ := hin l (by simp)
      obtain ⟨site, act⟩ := l
      cases hs
      have hci := hc ⟨i, hi⟩
      change (fs ⟨i, hi⟩).Resumes (childTrace i (Label.under i ⟨s, act⟩ :: t₁)) _ at hci
      rw [childTrace_cons_under, if_pos rfl] at hci
      obtain ⟨g, hg, hres⟩ := (hfs ⟨i, hi⟩).label _ _ _ hci
      refine ⟨_, Steps.child hg, t₁, t₂, os, rfl, fun l hl => hin l (by simp [hl]), ?_, hk'⟩
      intro j
      by_cases hj : j = ⟨i, hi⟩
      · subst hj
        rwa [Function.update_self]
      · have hcj := hc j
        change (fs j).Resumes (childTrace j (Label.under i ⟨s, act⟩ :: t₁)) _ at hcj
        rw [childTrace_cons_under, if_neg (by simpa [Fin.ext_iff, eq_comm] using hj)] at hcj
        rwa [Function.update_of_ne hj]
  · rintro o ⟨t₁, t₂, os, ht, hin, hc, hk'⟩
    obtain ⟨rfl, rfl⟩ := List.nil_eq_append_iff.mp ht
    rcases hk' with ⟨-, rfl⟩ | ⟨bs, hbs, hrun⟩
    · choose gs hgs hos using fun i => (hfs i).rest _ (hc i)
      refine ⟨_, Steps.children hgs, ?_⟩
      rw [outcome, funext hos]
    · obtain ⟨g, hg, ho⟩ := (hk bs).rest o hrun
      exact ⟨g, (hjoin os bs hc hbs).trans hg, ho⟩

theorem forward_ready (p : Proc I Ev α) : (ready p).Forward := by
  induction p with
  | done a =>
    refine ⟨fun l t o h => ?_, fun o h => ?_⟩
    · cases h.1
    · exact ⟨_, .refl, h.2.symm⟩
  | emit e p _ =>
    refine ⟨fun l t o h => ?_, fun o h => ?_⟩
    · rcases h with ⟨h, -⟩ | ⟨t', h, hrun⟩
      · cases h
      · cases h
        exact ⟨_, .one .emit, hrun⟩
    · rcases h with ⟨-, rfl⟩ | ⟨t', h, -⟩
      · exact ⟨_, .refl, rfl⟩
      · cases h
  | await op k _ =>
    refine ⟨fun l t o h => ?_, fun o h => ?_⟩
    · rcases h with ⟨h, -⟩ | ⟨h, rfl⟩ | ⟨a, t', h, hrun⟩
      · cases h
      · cases h
        exact ⟨_, .one .call, .inl ⟨rfl, rfl⟩⟩
      · cases h
        exact ⟨_, .one .call, .inr ⟨a, t', rfl, hrun⟩⟩
    · rcases h with ⟨-, rfl⟩ | ⟨h, -⟩ | ⟨a, t', h, -⟩
      · exact ⟨_, .refl, rfl⟩
      · cases h
      · cases h
  | gather c k ihc ihk =>
    have hjoining := forward_joining ihc ihk
    refine ⟨fun l t o h => ?_, fun o h => ?_⟩
    · obtain ⟨g, hg, hres⟩ := hjoining.label l t o h
      exact ⟨g, (Steps.silent .spawn).trans hg, hres⟩
    · obtain ⟨g, hg, ho⟩ := hjoining.rest o h
      exact ⟨g, (Steps.silent .spawn).trans hg, ho⟩

theorem forward (f : Fut I Ev α) : f.Forward := by
  induction f with
  | ready p => exact forward_ready p
  | waiting op k =>
    refine ⟨fun l t o h => ?_, fun o h => ?_⟩
    · rcases h with ⟨h, -⟩ | ⟨a, t', h, hrun⟩
      · cases h
      · cases h
        exact ⟨_, .one (.reply a), hrun⟩
    · rcases h with ⟨-, rfl⟩ | ⟨a, t', h, -⟩
      · exact ⟨_, .refl, rfl⟩
      · cases h
  | joining fs k ih => exact forward_joining ih fun bs => forward_ready (k bs)

theorem Resumes.steps {f : Fut I Ev α} {t : Trace I Ev} {o : Outcome α} (h : f.Resumes t o) :
    ∃ g, Steps f t g ∧ g.outcome = o := by
  induction t generalizing f with
  | nil => exact f.forward.rest o h
  | cons l t ih =>
    obtain ⟨g, hg, hres⟩ := f.forward.label l t o h
    obtain ⟨g', hg', ho⟩ := ih hres
    exact ⟨g', hg.trans hg', ho⟩

/-- Runs are exactly what sequences of steps of a started process do. -/
theorem runs_iff_steps {p : Proc I Ev α} {t : Trace I Ev} {o : Outcome α} :
    Runs p t o ↔ ∃ f, Steps (.ready p) t f ∧ f.outcome = o := by
  constructor
  · exact fun h => @Resumes.steps _ _ _ (.ready p) _ _ h
  · rintro ⟨f, hf, rfl⟩
    exact hf.runs

end Fut
end Cooperative
