import IbcAttestor.Cooperative.Machine

/-!
# Budgets

Every action has a price. A budget of a process is enough for each of its runs,
finished or not, whatever the replies; the children of a gather share the budget of
their parent.
-/

namespace Cooperative

variable {I : Interface} {Ev α β ε ε' A : Type}
variable [AddCommMonoid A]

def Trace.cost (price : Act I Ev → A) (t : Trace I Ev) : A := (t.map fun l => price l.act).sum

section Cost

variable (price : Act I Ev → A)

@[simp] theorem Trace.cost_nil : Trace.cost price ([] : Trace I Ev) = 0 := rfl

@[simp] theorem Trace.cost_cons (l : Label I Ev) (t : Trace I Ev) :
    Trace.cost price (l :: t) = price l.act + Trace.cost price t := by
  simp [Trace.cost]

@[simp] theorem Trace.cost_append (t₁ t₂ : Trace I Ev) :
    Trace.cost price (t₁ ++ t₂) = Trace.cost price t₁ + Trace.cost price t₂ := by
  simp [Trace.cost]

@[simp] theorem Trace.cost_one (t : Trace I Ev) : Trace.cost (fun _ => (1 : ℕ)) t = t.length := by
  simp [Trace.cost]

theorem Trace.cost_eq_sum {n : ℕ} {t : Trace I Ev} (h : InChildren n t) :
    Trace.cost price t = ∑ i : Fin n, Trace.cost price (childTrace i t) := by
  induction t with
  | nil => simp
  | cons l t ih =>
    obtain ⟨i, s, hi, hs⟩ := h l (by simp)
    obtain ⟨site, act⟩ := l
    cases hs
    have hchild : ∀ j : Fin n, Trace.cost price (childTrace j (⟨i :: s, act⟩ :: t)) =
        (if (⟨i, hi⟩ : Fin n) = j then price act else 0) + Trace.cost price (childTrace j t) := by
      intro j
      rw [show (⟨i :: s, act⟩ : Label I Ev) = Label.under i ⟨s, act⟩ from rfl,
        Fut.childTrace_cons_under]
      by_cases hj : (⟨i, hi⟩ : Fin n) = j
      · rw [if_pos hj, if_pos (congrArg Fin.val hj), Trace.cost_cons]
      · rw [if_neg hj, if_neg fun h => hj (Fin.ext h), zero_add]
    rw [Trace.cost_cons, ih fun l hl => h l (by simp [hl])]
    simp only [hchild, Finset.sum_add_distrib, Finset.sum_ite_eq, Finset.mem_univ, if_true]

end Cost

variable [PartialOrder A] {price : Act I Ev → A}

/-- `b` is enough for everything the process may still do. -/
def Proc.CostsAtMost (price : Act I Ev → A) {α : Type} : Proc I Ev α → A → Prop
  | .done _, _ => True
  | .emit e p, b => ∃ b', price (.event e) + b' ≤ b ∧ p.CostsAtMost price b'
  | .await op k, b => ∃ b', price (.call op) + b' ≤ b ∧
      ∀ a, ∃ b'', price (.reply op a) + b'' ≤ b' ∧ (k a).CostsAtMost price b''
  | @Proc.gather _ _ _ _ n c k, b => ∃ (bs : Fin n → A) (b' : A), ∑ i, bs i + b' ≤ b ∧
      (∀ i, (c i).CostsAtMost price (bs i)) ∧ ∀ xs, (k xs).CostsAtMost price b'

@[simp] theorem Proc.costsAtMost_done (a : α) (b : A) :
    (Proc.done a : Proc I Ev α).CostsAtMost price b := trivial

theorem Proc.CostsAtMost.mono {p : Proc I Ev α} {b b' : A} (hp : p.CostsAtMost price b)
    (h : b ≤ b') : p.CostsAtMost price b' := by
  cases p with
  | done a => trivial
  | emit e p =>
    obtain ⟨d, hd, hp⟩ := hp
    exact ⟨d, hd.trans h, hp⟩
  | await op k =>
    obtain ⟨d, hd, hk⟩ := hp
    exact ⟨d, hd.trans h, hk⟩
  | gather c k =>
    obtain ⟨bs, d, hd, hc, hk⟩ := hp
    exact ⟨bs, d, hd.trans h, hc, hk⟩

namespace Fallible

theorem costsAtMost_report {es : List Ev} {r : Except ε α} {b : A}
    (h : (es.map fun e => price (.event e)).sum ≤ b) :
    (Fallible.report es r : Fallible I Ev ε α).run.CostsAtMost price b := by
  induction es generalizing b with
  | nil => trivial
  | cons e es ih =>
    rw [List.map_cons, List.sum_cons] at h
    exact ⟨_, h, ih le_rfl⟩

theorem costsAtMost_ofExcept_bind {r : Except ε α} {f : α → Fallible I Ev ε β} {b : A}
    (hf : ∀ a, (f a).run.CostsAtMost price b) :
    (Fallible.ofExcept r >>= f).run.CostsAtMost price b := by
  cases r with
  | error e => exact Proc.costsAtMost_done _ _
  | ok a => exact hf a

theorem costsAtMost_gather {n : ℕ} {c : Fin n → Fallible I Ev ε α} {b : A}
    (h : ∀ i, (c i).run.CostsAtMost price b) :
    (Fallible.gather c : Fallible I Ev ε' _).run.CostsAtMost price (n • b) :=
  ⟨fun _ => b, 0, by simp, h, fun _ => trivial⟩

end Fallible

variable [IsOrderedAddMonoid A] [CanonicallyOrderedAdd A]

/-- The run rule: no run costs more than the budget. -/
theorem Proc.CostsAtMost.cost_le {p : Proc I Ev α} {b : A} (hp : p.CostsAtMost price b)
    {t : Trace I Ev} {o : Outcome α} (h : Runs p t o) : t.cost price ≤ b := by
  induction p generalizing b t with
  | done a =>
    obtain ⟨rfl, -⟩ := h
    exact zero_le
  | emit e p ih =>
    rcases h with ⟨rfl, -⟩ | ⟨t', rfl, h⟩
    · exact zero_le
    · obtain ⟨b', hb, hp⟩ := hp
      rw [Trace.cost_cons]
      exact (add_le_add_right (ih hp h) _).trans hb
  | await op k ih =>
    obtain ⟨b', hb, hk⟩ := hp
    rcases h with ⟨rfl, -⟩ | ⟨rfl, -⟩ | ⟨a, t', rfl, h⟩
    · exact zero_le
    · rw [Trace.cost_cons]
      exact (add_le_add_right (zero_le) _).trans hb
    · obtain ⟨b'', hb', hk⟩ := hk a
      rw [Trace.cost_cons, Trace.cost_cons]
      have hrest := (add_le_add_right (ih a hk h) _).trans hb'
      exact (add_le_add_right hrest _).trans hb
  | @gather _ _ n c k ihc ihk =>
    obtain ⟨t₁, t₂, os, rfl, hin, hc, hk⟩ := h
    obtain ⟨bs, b', hb, hbs, hpost⟩ := hp
    have hchildren : t₁.cost price ≤ ∑ i, bs i := by
      rw [Trace.cost_eq_sum price hin]
      exact Finset.sum_le_sum fun i _ => ihc i (hbs i) (hc i)
    have hrest : t₂.cost price ≤ b' := by
      rcases hk with ⟨rfl, -⟩ | ⟨xs, -, hk⟩
      · exact zero_le
      · exact ihk xs (hpost xs) hk
    rw [Trace.cost_append]
    exact (add_le_add hchildren hrest).trans hb

theorem Proc.CostsAtMost.bind {p : Proc I Ev α} {f : α → Proc I Ev β} {b b' : A}
    (hp : p.CostsAtMost price b) (hf : ∀ a, (f a).CostsAtMost price b') :
    (p.bind f).CostsAtMost price (b + b') := by
  induction p generalizing b with
  | done a => exact (hf a).mono le_add_self
  | emit e p ih =>
    obtain ⟨d, hd, hp⟩ := hp
    refine ⟨d + b', ?_, ih hp hf⟩
    rw [← add_assoc]
    exact add_le_add_left hd b'
  | await op k ih =>
    obtain ⟨d, hd, hk⟩ := hp
    refine ⟨d + b', ?_, fun a => ?_⟩
    · rw [← add_assoc]
      exact add_le_add_left hd b'
    · obtain ⟨d', hd', hk⟩ := hk a
      refine ⟨d' + b', ?_, ih a hk hf⟩
      rw [← add_assoc]
      exact add_le_add_left hd' b'
  | gather c k _ ih =>
    obtain ⟨bs, d, hd, hc, hk⟩ := hp
    refine ⟨bs, d + b', ?_, hc, fun xs => ih xs (hk xs) hf⟩
    rw [← add_assoc]
    exact add_le_add_left hd b'

namespace Fallible

theorem costsAtMost_bind {x : Fallible I Ev ε α} {f : α → Fallible I Ev ε β} {b b' : A}
    (hx : x.run.CostsAtMost price b) (hf : ∀ a, (f a).run.CostsAtMost price b') :
    (x >>= f).run.CostsAtMost price (b + b') := by
  apply Proc.CostsAtMost.bind hx
  intro r
  cases r with
  | error e => trivial
  | ok a => exact hf a

theorem costsAtMost_bind_free {x : Fallible I Ev ε α} {f : α → Fallible I Ev ε β} {b : A}
    (hx : x.run.CostsAtMost price b) (hf : ∀ a, (f a).run.CostsAtMost price 0) :
    (x >>= f).run.CostsAtMost price b := by
  rw [← add_zero b]
  exact costsAtMost_bind hx hf

theorem costsAtMost_return {x : Fallible I Ev ε α} {f : α → β} {b : A}
    (hx : x.run.CostsAtMost price b) : (x >>= fun a => return f a).run.CostsAtMost price b :=
  costsAtMost_bind_free hx fun _ => Proc.costsAtMost_done _ _

theorem costsAtMost_mapErr {g : ε → ε'} {x : Fallible I Ev ε α} {b : A}
    (hx : x.run.CostsAtMost price b) : (x.mapErr g).run.CostsAtMost price b := by
  rw [← add_zero b]
  exact hx.bind fun _ => Proc.costsAtMost_done _ _

end Fallible
end Cooperative
