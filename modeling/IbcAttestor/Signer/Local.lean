import IbcAttestor.Node
import IbcAttestor.Signer.Basic
import IbcAttestor.Signer.Keys

/-!
# The local signer
-/

namespace IbcAttestor

open Cooperative

structure LocalSigner (c : Crates) where
  inner : c.PrivateKeySigner

namespace LocalSigner

variable {c : Crates} (self : LocalSigner c)

def sign (message : Bytes) : Fallible node Metric SignerError Signature :=
  Fallible.ofExcept ((syncSign c self.inner message).mapError .localError)

theorem completes_sign_ok {message : Bytes} {t : Trace node Metric} {σ : Signature} :
    Completes (self.sign message).run t (.ok σ) ↔
      t = [] ∧ syncSign c self.inner message = .ok σ := by
  rw [sign, Completes, runs_ofExcept, Outcome.finished.injEq]
  cases syncSign c self.inner message <;> simp [Except.mapError, eq_comm]

end LocalSigner
end IbcAttestor
