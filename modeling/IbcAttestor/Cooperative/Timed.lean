import IbcAttestor.Cooperative.Oracle

/-!
# Runs in a changing world

The actions of a run happen at moments, in order; what the outside world may
reply to a call depends on the moment of the reply.
-/

namespace Cooperative

variable {I : Interface} {Ev α M : Type} [Preorder M]

/-- A trace together with the moment of each action. -/
abbrev Stamped (M : Type) (I : Interface) (Ev : Type) := List (M × Label I Ev)

/-- The actions are in the order of their moments, and each reply is one the
world may give at its moment. -/
structure Observes (answers : M → (op : I.Op) → I.Ans op → Prop) (u : Stamped M I Ev) :
    Prop where
  ordered : u.Pairwise fun x y => x.1 ≤ y.1
  answered : ∀ m s op a, (m, (⟨s, .reply op a⟩ : Label I Ev)) ∈ u → answers m op a

/-- `t` is what was done in some timed run in the world. -/
def Observed (answers : M → (op : I.Op) → I.Ans op → Prop) (t : Trace I Ev) : Prop :=
  ∃ u : Stamped M I Ev, u.map Prod.snd = t ∧ Observes answers u

variable {answers : M → (op : I.Op) → I.Ans op → Prop} {t t₁ t₂ : Trace I Ev}

theorem Observes.left {u₁ u₂ : Stamped M I Ev} (h : Observes answers (u₁ ++ u₂)) :
    Observes answers u₁ where
  ordered := (List.pairwise_append.mp h.ordered).1
  answered m s op a hm := h.answered m s op a (List.mem_append_left _ hm)

theorem Observes.append {u₁ u₂ : Stamped M I Ev} (h₁ : Observes answers u₁)
    (h₂ : Observes answers u₂) (h : ∀ x ∈ u₁, ∀ y ∈ u₂, x.1 ≤ y.1) :
    Observes answers (u₁ ++ u₂) where
  ordered := List.pairwise_append.mpr ⟨h₁.ordered, h₂.ordered, h⟩
  answered m s op a hm :=
    (List.mem_append.mp hm).elim (h₁.answered m s op a) (h₂.answered m s op a)

theorem observes_event (m : M) (s : Site) (e : Ev) :
    Observes answers [(m, (⟨s, .event e⟩ : Label I Ev))] where
  ordered := List.pairwise_singleton ..
  answered := by
    intro m' s' op a hm
    cases List.mem_singleton.mp hm

theorem Observed.left (h : Observed answers (t₁ ++ t₂)) : Observed answers t₁ := by
  obtain ⟨u, hu, ho⟩ := h
  obtain ⟨u₁, u₂, rfl, rfl, -⟩ := List.map_eq_append_iff.mp hu
  exact ⟨u₁, rfl, ho.left⟩

theorem AnsweredBy.observes {o : Oracle I} (h : AnsweredBy o t) (m : M)
    (ho : ∀ s op, answers m op (o s op)) : Observes answers (t.map fun l => (m, l)) where
  ordered := List.pairwise_map.mpr (List.pairwise_of_forall fun _ _ => le_refl m)
  answered := by
    intro m' s op a hm
    obtain ⟨l, hl, heq⟩ := List.mem_map.mp hm
    cases heq
    rw [h s op a hl]
    exact ho s op

theorem AnsweredBy.observed {o : Oracle I} (h : AnsweredBy o t) (m : M)
    (ho : ∀ s op, answers m op (o s op)) : Observed answers t :=
  ⟨_, by simp [Function.comp_def], h.observes m ho⟩

theorem Proc.exists_observes {p : Proc I Ev α} {o : Oracle I} {a : α} (h : p.eval o = a) (m : M)
    (ho : ∀ s op, answers m op (o s op)) :
    ∃ u : Stamped M I Ev, Completes p (u.map Prod.snd) a ∧ Observes answers u := by
  refine ⟨_, ?_, (p.sequential_answeredBy o).observes m ho⟩
  rw [List.map_map]
  simpa [Function.comp_def] using Proc.sequential_completes h

/-- A reply in the second part of a trace is not earlier than one in the first. -/
theorem Observes.reply_reply {u : Stamped M I Ev} (h : Observes answers u)
    (hu : u.map Prod.snd = t₁ ++ t₂) {s s' : Site} {op op' : I.Op} {a : I.Ans op}
    {a' : I.Ans op'} (hm : ⟨s, .reply op a⟩ ∈ t₁) (hm' : ⟨s', .reply op' a'⟩ ∈ t₂) :
    ∃ m m', m' ∈ u.map Prod.fst ∧ m ≤ m' ∧ answers m op a ∧ answers m' op' a' := by
  obtain ⟨u₁, u₂, rfl, rfl, rfl⟩ := List.map_eq_append_iff.mp hu
  obtain ⟨⟨m, l⟩, hx, rfl⟩ := List.mem_map.mp hm
  obtain ⟨⟨m', l'⟩, hx', rfl⟩ := List.mem_map.mp hm'
  refine ⟨m, m', List.mem_map.mpr ⟨_, List.mem_append_right _ hx', rfl⟩, ?_,
    h.answered m s op a (List.mem_append_left _ hx),
    h.answered m' s' op' a' (List.mem_append_right _ hx')⟩
  exact (List.pairwise_append.mp h.ordered).2.2 _ hx _ hx'

end Cooperative
