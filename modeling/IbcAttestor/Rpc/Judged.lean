import IbcAttestor.Rpc.Faults
import IbcAttestor.Rpc.Outages

/-!
# The fault of a run

Every stage of a request is judged by the faults in what it reads: there is exactly one if
it fails, with the code reported for it, and none if it succeeds. A request is judged by the
stage that ends it.
-/

namespace IbcAttestor

open Cooperative

variable {c : Crates} {retry : TokioRetry} {a : AdapterEnum} {signer : SignerEnum c}
  {t t₁ t₂ : Trace node Metric} {fault : Fault} {ε α β : Type}

/-- There is one fault if the result is an error, of the code reported for it, and no fault
otherwise. -/
def Judged (a : AdapterEnum) (code : ε → Code) (r : Except ε α) (Has : Fault → Prop) : Prop :=
  (∃ v, r = .ok v ∧ ∀ fault, ¬ Has fault) ∨
    ∃ e fault, r = .error e ∧ code e = a.reportedCode fault ∧ ∀ fault', Has fault' ↔ fault' = fault

namespace Judged

variable {code : ε → Code} {r : Except ε α} {Has Has' : Fault → Prop}

theorem told (h : Judged a code r Has) (hfault : Has fault) :
    ∃ e, r = .error e ∧ code e = a.reportedCode fault := by
  rcases h with ⟨v, -, hno⟩ | ⟨e, fault', hr, hcode, hone⟩
  · exact absurd hfault (hno fault)
  · rw [(hone fault).mp hfault]
    exact ⟨e, hr, hcode⟩

theorem congr (h : Judged a code r Has) (hiff : ∀ fault, Has' fault ↔ Has fault) :
    Judged a code r Has' := by
  have heq : Has' = Has := funext fun fault => propext (hiff fault)
  rw [heq]
  exact h

theorem wrap {ε' : Type} {code' : ε' → Code} {r' : Except ε' β} (h : Judged a code r Has)
    (hok : ∀ v, r = .ok v → ∃ v', r' = .ok v')
    (herror : ∀ e, r = .error e → ∃ e', r' = .error e' ∧ code' e' = code e) :
    Judged a code' r' Has := by
  rcases h with ⟨v, hr, hno⟩ | ⟨e, fault, hr, hcode, hone⟩
  · obtain ⟨v', hr'⟩ := hok v hr
    exact .inl ⟨v', hr', hno⟩
  · obtain ⟨e', hr', hcode'⟩ := herror e hr
    exact .inr ⟨e', fault, hr', hcode'.trans hcode, hone⟩

end Judged

end IbcAttestor
