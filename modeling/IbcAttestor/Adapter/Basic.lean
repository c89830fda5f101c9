import IbcAttestor.Cooperative.Runs
import IbcAttestor.Metrics

/-!
# The adapter trait
-/

namespace IbcAttestor

open Cooperative

/-- What the service needs of a chain. The lookup answers `none` when there is
no commitment. -/
structure AttestationAdapter (I : Interface) where
  getLastHeightAtConfiguredFinality : Fallible I Metric AttestationAdapterError UInt64
  getBlockTimestamp (height : UInt64) : Fallible I Metric AttestationAdapterError UInt64
  getCommitment (clientId : String) (height sequence : UInt64) (commitmentPath : Bytes)
    (commitmentType : CommitmentType) :
    Fallible I Metric AttestationAdapterError (Option Bytes32)

end IbcAttestor
