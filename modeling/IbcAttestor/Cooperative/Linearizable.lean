import Mathlib.Data.List.Perm.Basic
import Mathlib.Order.Lattice

/-!
# Linearizable histories

Operations that overlap in time are linearizable when they could have been carried out one
after another, in an order that never puts an operation before one that was over when it
began. The object they are carried out on has a state that only grows.
-/

namespace Cooperative

/-- A finished operation: what was asked, what came of it, and the moments of its run. -/
structure Operation (M Q R : Type) where
  query : Q
  result : R
  moments : List M

variable {M Q R S : Type}

/-- The first operation was over before the second one began. -/
def Operation.Before [LT M] (x y : Operation M Q R) : Prop :=
  ∀ m ∈ x.moments, ∀ n ∈ y.moments, m < n

/-- One operation after another, with the state growing in between. -/
inductive Sequential [LE S] (answers : S → Q → R → Prop) : S → List (Operation M Q R) → Prop
  | nil (s : S) : Sequential answers s []
  | cons {s s' : S} {x : Operation M Q R} {xs : List (Operation M Q R)} (hle : s ≤ s')
      (hx : answers s' x.query x.result) (hxs : Sequential answers s' xs) :
      Sequential answers s (x :: xs)

/-- The operations could have been carried out one after another, from a state not below
`s`. -/
def Linearizable [LT M] [LE S] (answers : S → Q → R → Prop) (s : S)
    (xs : List (Operation M Q R)) : Prop :=
  ∃ ys : List (Operation M Q R), ys.Perm xs ∧ Sequential answers s ys ∧
    ys.Pairwise fun x y => ¬ y.Before x

variable {answers : S → Q → R → Prop} {state : M → S} {s : S}

/-- An operation, and a moment of it at which its result is right. -/
def PointOf (answers : S → Q → R → Prop) (state : M → S) (p : M × Operation M Q R) : Prop :=
  p.1 ∈ p.2.moments ∧ answers (state p.1) p.2.query p.2.result

theorem exists_points {xs : List (Operation M Q R)}
    (h : ∀ x ∈ xs, ∃ m ∈ x.moments, answers (state m) x.query x.result) :
    ∃ ps : List (M × Operation M Q R), ps.map Prod.snd = xs ∧
      ∀ p ∈ ps, PointOf answers state p := by
  induction xs with
  | nil => exact ⟨[], rfl, by simp⟩
  | cons x xs ih =>
    obtain ⟨m, hm, hx⟩ := h x List.mem_cons_self
    obtain ⟨ps, rfl, hps⟩ := ih fun y hy => h y (List.mem_cons_of_mem x hy)
    refine ⟨(m, x) :: ps, rfl, fun p hp => ?_⟩
    rcases List.mem_cons.mp hp with rfl | hp
    · exact ⟨hm, hx⟩
    · exact hps p hp

variable [LinearOrder M]

theorem not_before_of_sorted {ps : List (M × Operation M Q R)}
    (hpoints : ∀ p ∈ ps, PointOf answers state p)
    (hsorted : ps.Pairwise fun p q => p.1 ≤ q.1) :
    (ps.map Prod.snd).Pairwise fun x y => ¬ y.Before x := by
  rw [List.pairwise_map]
  apply hsorted.imp_of_mem
  intro p q hp hq hle hbefore
  have hlt := hbefore q.1 (hpoints q hq).1 p.1 (hpoints p hp).1
  exact absurd hle (not_le.mpr hlt)

variable [LE S]

theorem sequential_of_sorted (hstate : ∀ m n, m ≤ n → state m ≤ state n)
    {ps : List (M × Operation M Q R)}
    (hpoints : ∀ p ∈ ps, PointOf answers state p) (hs : ∀ p ∈ ps, s ≤ state p.1)
    (hsorted : ps.Pairwise fun p q => p.1 ≤ q.1) :
    Sequential answers s (ps.map Prod.snd) := by
  induction ps generalizing s with
  | nil => exact .nil s
  | cons p ps ih =>
    obtain ⟨hfirst, hrest⟩ := List.pairwise_cons.mp hsorted
    have hle : s ≤ state p.1 := hs p List.mem_cons_self
    have hp := (hpoints p List.mem_cons_self).2
    exact .cons hle hp (ih (fun q hq => hpoints q (List.mem_cons_of_mem p hq))
      (fun q hq => hstate p.1 q.1 (hfirst q hq)) hrest)

/-- Operations are linearizable if each is right at some moment of its run: they are put in
the order of these moments. -/
theorem linearizable_of_points (hstate : ∀ m n, m ≤ n → state m ≤ state n)
    (hs : ∀ m, s ≤ state m) {xs : List (Operation M Q R)}
    (h : ∀ x ∈ xs, ∃ m ∈ x.moments, answers (state m) x.query x.result) :
    Linearizable answers s xs := by
  obtain ⟨ps, rfl, hpoints⟩ := exists_points h
  have hperm := ps.mergeSort_perm fun p q => decide (p.1 ≤ q.1)
  have hsorted : (ps.mergeSort fun p q => decide (p.1 ≤ q.1)).Pairwise
      fun p q => decide (p.1 ≤ q.1) = true := by
    apply List.pairwise_mergeSort
    · intro a b d hab hbd
      simp only [decide_eq_true_eq] at hab hbd ⊢
      exact le_trans hab hbd
    · intro a b
      simpa using le_total a.1 b.1
  simp only [decide_eq_true_eq] at hsorted
  have hpoints' : ∀ p ∈ ps.mergeSort fun p q => decide (p.1 ≤ q.1), PointOf answers state p :=
    fun p hp => hpoints p (hperm.mem_iff.mp hp)
  exact ⟨_, hperm.map Prod.snd, sequential_of_sorted hstate hpoints' (fun p _ => hs p.1) hsorted,
    not_before_of_sorted hpoints' hsorted⟩

end Cooperative
