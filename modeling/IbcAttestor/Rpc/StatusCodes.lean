import IbcAttestor.Rpc.Judged

/-!
# Status codes

The faults of a run are those of its request, of the replies to its calls and of the
signer. A run has one of them exactly when it fails, and the code of its status is the one
for that fault, but for three of them: undecodable packets, a block that the EVM adapter
does not find, and an existing receipt on Cosmos are reported as internal errors.
-/

namespace IbcAttestor

open Cooperative

variable {c : Crates} {retry : TokioRetry} {a : AdapterEnum} {signer : SignerEnum c}
  {t : Trace node Metric} {fault : Fault}

/-- The code of a result tells the caller's faults from the server's. -/
structure Separated (c : Crates) (a : AdapterEnum) (signer : SignerEnum c) (request : RpcRequest)
    (t : Trace node Metric) (r : Except Status RpcResponse) : Prop where
  told : ∀ fault, EndedBy c a signer request t fault →
    ∃ status, r = .error status ∧ status.code = fault.code
  internal : ∀ status, r = .error status → status.code = .internal →
    EndedBy c a signer request t .unanswered ∨ EndedBy c a signer request t .malformed ∨
      EndedBy c a signer request t .signer

/-- The result of a run tells of a fault when its reported code is the fault's own. -/
theorem Separated.reported {request : RpcRequest} {r : Except Status RpcResponse}
    (hjudged : Judged a Status.code r (EndedBy c a signer request t))
    (hseparated : Separated c a signer request t r) (h : EndedBy c a signer request t fault) :
    a.reportedCode fault = fault.code := by
  obtain ⟨status, hstatus, hcode⟩ := hjudged.told h
  obtain ⟨status', hr, hcode'⟩ := hseparated.told fault h
  rw [hstatus] at hr
  cases hr
  rw [← hcode, hcode']

end IbcAttestor
