import IbcAttestor.Basic.Crates
import IbcAttestor.Cooperative.Runs
import IbcAttestor.Metrics

/-!
# The signer trait
-/

namespace IbcAttestor

open Cooperative

/-- Signs the SHA-256 digest of a message. -/
structure Signer (I : Interface) where
  sign (message : Bytes) : Fallible I Metric SignerError Signature

end IbcAttestor
