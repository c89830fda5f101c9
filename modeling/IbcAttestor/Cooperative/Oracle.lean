import IbcAttestor.Cooperative.Runs

/-!
# Runs against fixed replies

An oracle fixes the reply to each call at each site. The result of a completed
run answered by an oracle does not depend on the interleaving: it is the value
computed by evaluating the process against the oracle, and such a run exists.
-/

namespace Cooperative

variable {I : Interface} {Ev α β : Type}

abbrev Oracle (I : Interface) := Site → (op : I.Op) → I.Ans op

def Oracle.child (o : Oracle I) (i : ℕ) : Oracle I := fun s => o (i :: s)

def Proc.eval {α : Type} : Proc I Ev α → Oracle I → α
  | .done a, _ => a
  | .emit _ p, o => p.eval o
  | .await op k, o => (k (o [] op)).eval o
  | .gather c k, o => (k fun i => (c i).eval (o.child i)).eval o

section Eval

variable {ε ε' : Type} (o : Oracle I)

@[simp] theorem Proc.eval_done (a : α) : (Proc.done a : Proc I Ev α).eval o = a := rfl

@[simp] theorem Proc.eval_call (op : I.Op) : (Proc.call op : Proc I Ev _).eval o = o [] op := rfl

@[simp] theorem Proc.eval_bind (p : Proc I Ev α) (f : α → Proc I Ev β) :
    (p.bind f).eval o = (f (p.eval o)).eval o := by
  induction p with
  | done a => rfl
  | emit e p ih => exact ih f
  | await op k ih => exact ih (o [] op) f
  | gather c k _ ih => exact ih _ f

theorem Fallible.eval_bind (x : Fallible I Ev ε α) (f : α → Fallible I Ev ε β) :
    (x >>= f).run.eval o = x.run.eval o >>= fun a => (f a).run.eval o := by
  change (Proc.bind x.run _).eval o = _
  rw [Proc.eval_bind]
  cases x.run.eval o <;> rfl

@[simp] theorem Fallible.eval_mapErr (g : ε → ε') (x : Fallible I Ev ε α) :
    (x.mapErr g).run.eval o = (x.run.eval o).mapError g := by
  simp [Fallible.mapErr]

@[simp] theorem Fallible.eval_report (es : List Ev) (r : Except ε α) :
    (Fallible.report es r : Fallible I Ev ε α).run.eval o = r := by
  induction es with
  | nil => rfl
  | cons e es ih => exact ih

@[simp] theorem Fallible.eval_ofExcept (r : Except ε α) :
    (Fallible.ofExcept r : Fallible I Ev ε α).run.eval o = r := rfl

@[simp] theorem Fallible.eval_gather {n : ℕ} (c : Fin n → Fallible I Ev ε α) :
    (Fallible.gather c : Fallible I Ev ε' _).run.eval o =
      .ok (List.ofFn fun i => (c i).run.eval (o.child i)) := rfl

end Eval

def AnsweredBy (o : Oracle I) (t : Trace I Ev) : Prop :=
  ∀ s op a, ⟨s, .reply op a⟩ ∈ t → a = o s op

theorem AnsweredBy.left {o : Oracle I} {t₁ t₂ : Trace I Ev} (h : AnsweredBy o (t₁ ++ t₂)) :
    AnsweredBy o t₁ :=
  fun s op a hm => h s op a (List.mem_append_left _ hm)

theorem AnsweredBy.right {o : Oracle I} {t₁ t₂ : Trace I Ev} (h : AnsweredBy o (t₁ ++ t₂)) :
    AnsweredBy o t₂ :=
  fun s op a hm => h s op a (List.mem_append_right _ hm)

theorem AnsweredBy.append {o : Oracle I} {t₁ t₂ : Trace I Ev} (h₁ : AnsweredBy o t₁)
    (h₂ : AnsweredBy o t₂) : AnsweredBy o (t₁ ++ t₂) := by
  intro s op a hm
  rcases List.mem_append.mp hm with hm | hm
  · exact h₁ s op a hm
  · exact h₂ s op a hm

theorem AnsweredBy.childTrace {o : Oracle I} {t : Trace I Ev} (h : AnsweredBy o t) (i : ℕ) :
    AnsweredBy (o.child i) (childTrace i t) :=
  fun s op a hm => h (i :: s) op a (mem_childTrace.mp hm)

/-- The result of a completed run is the oracle's value, whatever the interleaving. -/
theorem Completes.eq_eval {p : Proc I Ev α} {t : Trace I Ev} {a : α} {o : Oracle I}
    (h : Completes p t a) (ho : AnsweredBy o t) : a = p.eval o := by
  induction p generalizing t o with
  | done b =>
    obtain ⟨-, h⟩ := h
    cases h
    rfl
  | emit e p ih =>
    rcases h with ⟨-, h⟩ | ⟨t', rfl, h⟩
    · cases h
    · exact ih h fun s op a hm => ho s op a (List.mem_cons_of_mem _ hm)
  | await op k ih =>
    rcases h with ⟨-, h⟩ | ⟨-, h⟩ | ⟨r, t', rfl, h⟩
    · cases h
    · cases h
    · have hr : r = o [] op := ho [] op r (by simp)
      subst hr
      exact ih _ h fun s op a hm =>
        ho s op a (List.mem_cons_of_mem _ (List.mem_cons_of_mem _ hm))
  | gather c k ihc ihk =>
    obtain ⟨t₁, t₂, os, rfl, -, hc, ⟨-, h⟩ | ⟨bs, hbs, hk⟩⟩ := h
    · cases h
    · have hb : bs = fun i => (c i).eval (o.child i) := by
        funext i
        have hi := hc i
        rw [hbs i] at hi
        exact ihc i hi (ho.left.childTrace i)
      subst hb
      exact ihk _ hk ho.right

theorem childTrace_map_under (i j : ℕ) (t : Trace I Ev) :
    childTrace i (t.map (Label.under j)) = if j = i then t else [] := by
  rw [childTrace, List.filterMap_map]
  by_cases h : j = i
  · have hf : Label.inChild i ∘ Label.under j = (some : Label I Ev → Option (Label I Ev)) := by
      funext l
      simp [Label.inChild, Label.under, h]
    rw [if_pos h, hf, List.filterMap_some]
  · have hf : Label.inChild i ∘ Label.under j =
        (fun _ => none : Label I Ev → Option (Label I Ev)) := by
      funext l
      simp [Label.inChild, Label.under, h]
    rw [if_neg h, hf, List.filterMap_none]

/-- The run that takes the children one after another. -/
def Proc.sequential {α : Type} : Proc I Ev α → Oracle I → Trace I Ev
  | .done _, _ => []
  | .emit e p, o => ⟨[], .event e⟩ :: p.sequential o
  | .await op k, o =>
    ⟨[], .call op⟩ :: ⟨[], .reply op (o [] op)⟩ :: (k (o [] op)).sequential o
  | .gather c k, o =>
    (List.ofFn fun i => ((c i).sequential (o.child i)).map (Label.under i)).flatten ++
      (k fun i => (c i).eval (o.child i)).sequential o

theorem childTrace_flatten {n : ℕ} (ts : Fin n → Trace I Ev) (i : Fin n) :
    childTrace i (List.ofFn fun j => (ts j).map (Label.under j)).flatten = ts i := by
  induction n with
  | zero => exact i.elim0
  | succ n ih =>
    rw [List.ofFn_succ', List.concat_eq_append, List.flatten_append, childTrace_append]
    simp only [List.flatten_cons, List.flatten_nil, List.append_nil, childTrace_map_under,
      Fin.val_last]
    refine Fin.lastCases ?_ (fun i => ?_) i
    · have hempty : childTrace (Fin.last n).val
          (List.ofFn fun j : Fin n => (ts j.castSucc).map (Label.under j)).flatten = [] := by
        simp only [childTrace, List.filterMap_eq_nil_iff, List.mem_flatten, List.mem_ofFn,
          Label.inChild]
        rintro l ⟨_, ⟨j, rfl⟩, hl⟩
        obtain ⟨l', -, rfl⟩ := List.mem_map.mp hl
        simp [Label.under, j.isLt.ne]
      simpa using hempty
    · simpa [i.isLt.ne'] using ih (fun j => ts j.castSucc) i

theorem Proc.sequential_spec (p : Proc I Ev α) (o : Oracle I) :
    Completes p (p.sequential o) (p.eval o) ∧ AnsweredBy o (p.sequential o) := by
  induction p generalizing o with
  | done a => exact ⟨⟨rfl, rfl⟩, by simp [AnsweredBy, sequential]⟩
  | emit e p ih =>
    refine ⟨.inr ⟨_, rfl, (ih o).1⟩, ?_⟩
    intro s op a hm
    simp only [sequential, List.mem_cons, Label.mk.injEq, reduceCtorEq, and_false,
      false_or] at hm
    exact (ih o).2 s op a hm
  | await op k ih =>
    refine ⟨.inr (.inr ⟨_, _, rfl, (ih _ o).1⟩), ?_⟩
    intro s op' a hm
    simp only [sequential, List.mem_cons, Label.mk.injEq, reduceCtorEq, and_false,
      false_or] at hm
    rcases hm with ⟨rfl, h⟩ | hm
    · cases h
      rfl
    · exact (ih _ o).2 s op' a hm
  | gather c k ihc ihk =>
    constructor
    · refine ⟨_, _, fun i => .finished ((c i).eval (o.child i)), rfl, ?_, fun i => ?_,
        .inr ⟨_, fun _ => rfl, (ihk _ o).1⟩⟩
      · intro l hl
        simp only [List.mem_flatten, List.mem_ofFn] at hl
        obtain ⟨_, ⟨i, rfl⟩, hl⟩ := hl
        obtain ⟨l', -, rfl⟩ := List.mem_map.mp hl
        exact ⟨i, l'.site, i.isLt, rfl⟩
      · rw [childTrace_flatten]
        exact (ihc i (o.child i)).1
    · refine AnsweredBy.append ?_ (ihk _ o).2
      intro s op a hm
      simp only [List.mem_flatten, List.mem_ofFn] at hm
      obtain ⟨_, ⟨i, rfl⟩, hm⟩ := hm
      obtain ⟨l, hl, he⟩ := List.mem_map.mp hm
      obtain ⟨site, act⟩ := l
      cases he
      exact (ihc i (o.child i)).2 site op a hl

/-- Whatever the replies, a process has a run to the end. -/
theorem Proc.sequential_completes {p : Proc I Ev α} {o : Oracle I} {a : α} (h : p.eval o = a) :
    Completes p (p.sequential o) a :=
  h ▸ (p.sequential_spec o).1

theorem Proc.sequential_answeredBy (p : Proc I Ev α) (o : Oracle I) :
    AnsweredBy o (p.sequential o) :=
  (p.sequential_spec o).2

end Cooperative
