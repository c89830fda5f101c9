import Mathlib.Tactic

/-!
# Collecting results

`List.mapM` in `Except` collects a list of results into a result of a list: all
values in order, or the first error.
-/

namespace Cooperative

variable {α β ε : Type}

theorem mapM_ok {f : α → Except ε β} {xs : List α} {ys : List β} :
    xs.mapM f = .ok ys ↔ List.Forall₂ (fun x y => f x = .ok y) xs ys := by
  induction xs generalizing ys with
  | nil => cases ys <;> simp [pure, Except.pure]
  | cons x xs ih =>
    rw [List.mapM_cons]
    cases hx : f x with
    | error e => cases ys <;> simp [bind, Except.bind, hx]
    | ok y =>
      cases hxs : xs.mapM f with
      | error e => cases ys <;> simp [bind, Except.bind, hx, ← ih, hxs]
      | ok zs => cases ys <;> simp [bind, Except.bind, pure, Except.pure, hx, ← ih, hxs]

theorem mapM_cons_error {f : α → Except ε β} {x : α} {y : β} {xs : List α} {e : ε}
    (hx : f x = .ok y) : (x :: xs).mapM f = .error e ↔ xs.mapM f = .error e := by
  rw [List.mapM_cons, hx]
  cases xs.mapM f <;> simp [bind, Except.bind, pure, Except.pure]

/-- The error is that of the first element that has one. -/
theorem mapM_error_iff {f : α → Except ε β} {xs : List α} {e : ε} :
    xs.mapM f = .error e ↔ ∃ before x after, xs = before ++ x :: after ∧
      (∀ y ∈ before, ∃ b, f y = .ok b) ∧ f x = .error e := by
  induction xs with
  | nil => simp [pure, Except.pure]
  | cons x xs ih =>
    cases hx : f x with
    | error e' =>
      simp only [List.mapM_cons, hx, bind, Except.bind, Except.error.injEq]
      constructor
      · rintro rfl
        exact ⟨[], x, xs, rfl, by simp, hx⟩
      · rintro ⟨before, x', after, heq, hbefore, hx'⟩
        cases before with
        | nil =>
          obtain ⟨rfl, -⟩ := List.cons.inj heq
          exact Except.error.inj (hx.symm.trans hx')
        | cons y before =>
          obtain ⟨rfl, -⟩ := List.cons.inj heq
          obtain ⟨b, hb⟩ := hbefore x (by simp)
          rw [hx] at hb
          cases hb
    | ok y =>
      rw [mapM_cons_error hx, ih]
      constructor
      · rintro ⟨before, x', after, rfl, hbefore, hx'⟩
        refine ⟨x :: before, x', after, rfl, ?_, hx'⟩
        intro z hz
        rcases List.mem_cons.mp hz with rfl | hz
        · exact ⟨y, hx⟩
        · exact hbefore z hz
      · rintro ⟨before, x', after, heq, hbefore, hx'⟩
        cases before with
        | nil =>
          obtain ⟨rfl, -⟩ := List.cons.inj heq
          rw [hx] at hx'
          cases hx'
        | cons z before =>
          obtain ⟨rfl, rfl⟩ := List.cons.inj heq
          exact ⟨before, x', after, rfl, fun w hw => hbefore w (List.mem_cons_of_mem _ hw), hx'⟩

theorem mapM_error {f : α → Except ε β} {xs : List α} {e : ε} (h : xs.mapM f = .error e) :
    ∃ x ∈ xs, f x = .error e := by
  obtain ⟨before, x, after, rfl, -, hx⟩ := mapM_error_iff.mp h
  exact ⟨x, by simp, hx⟩

theorem mapM_id_ofFn_ok {n : ℕ} {rs : Fin n → Except ε β} {ys : List β} :
    (List.ofFn rs).mapM id = .ok ys ↔
      ∃ bs : Fin n → β, ys = List.ofFn bs ∧ ∀ i, rs i = .ok (bs i) := by
  rw [mapM_ok]
  constructor
  · intro h
    obtain ⟨hlen, hget⟩ := List.forall₂_iff_get.mp h
    rw [List.length_ofFn] at hlen
    subst hlen
    refine ⟨ys.get, (List.ofFn_get ys).symm, fun i => ?_⟩
    simpa using hget i (by simp) i.isLt
  · rintro ⟨bs, rfl, h⟩
    refine List.forall₂_iff_get.mpr ⟨by simp, fun i h₁ h₂ => ?_⟩
    simpa using h ⟨i, by simpa using h₁⟩

theorem mapM_id_ofFn_error {n : ℕ} {rs : Fin n → Except ε β} {e : ε} :
    (List.ofFn rs).mapM id = .error e ↔
      ∃ i, rs i = .error e ∧ ∀ j < i, ∃ b, rs j = .ok b := by
  rw [mapM_error_iff]
  constructor
  · rintro ⟨before, x, after, heq, hbefore, hx⟩
    have hlength : before.length < n := by
      have h := congrArg List.length heq
      simp only [List.length_ofFn, List.length_append, List.length_cons] at h
      omega
    have hget : ∀ j : Fin n, (before ++ x :: after)[j.val]? = some (rs j) := by
      intro j
      rw [← heq]
      simp
    refine ⟨⟨before.length, hlength⟩, ?_, fun j hj => ?_⟩
    · have hi := hget ⟨before.length, hlength⟩
      rw [List.getElem?_append_right le_rfl, Nat.sub_self] at hi
      exact (Option.some.inj hi) ▸ hx
    · have hj' : j.val < before.length := hj
      have hmem := hget j
      rw [List.getElem?_append_left hj'] at hmem
      exact hbefore _ (List.mem_of_getElem? hmem)
  · rintro ⟨i, hi, hlt⟩
    have hlength : i.val < (List.ofFn rs).length := by simp
    refine ⟨(List.ofFn rs).take i, rs i, (List.ofFn rs).drop (i + 1), ?_, ?_, hi⟩
    · calc List.ofFn rs = (List.ofFn rs).take i ++ (List.ofFn rs).drop i :=
            (List.take_append_drop i _).symm
        _ = _ := by rw [List.drop_eq_getElem_cons hlength, List.getElem_ofFn]
    · intro y hy
      obtain ⟨j, hj, rfl⟩ := List.mem_take_iff_getElem.mp hy
      have hji : j < i.val := (lt_min_iff.mp hj).1
      simpa using hlt ⟨j, hji.trans i.isLt⟩ hji

end Cooperative
