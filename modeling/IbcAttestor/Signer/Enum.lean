import IbcAttestor.Signer.Local
import IbcAttestor.Signer.Remote

/-!
# The signers together

`SignerEnum` counts every signature by its result.
-/

namespace IbcAttestor

open Cooperative

inductive SignerEnum (c : Crates) where
  | localSigner (s : LocalSigner c)
  | remoteSigner (s : RemoteSigner)

namespace SignerEnum

variable {c : Crates} (self : SignerEnum c)

def inner : SignerEnum c → Bytes → Fallible node Metric SignerError Signature
  | .localSigner s => s.sign
  | .remoteSigner s => s.sign c

def sign (message : Bytes) : Fallible node Metric SignerError Signature :=
  ExceptT.mk ((self.inner message).run.bind fun result =>
    .emit (.incSignerSign (if result.isOk then "ok" else "err")) (.done result))

def signer : Signer node := ⟨self.sign⟩

/-- A call of the signing service or its reply, or the count of a signature. -/
def AtSigner (l : Label node Metric) : Prop :=
  RemoteSigner.SignerLabel l ∨ ∃ result, l.act = .event (.incSignerSign result)

theorem sign_within (message : Bytes) : (self.sign message).run.Within AtSigner := by
  refine Proc.within_bind ?_ fun result => ⟨.inr ⟨_, rfl⟩, trivial⟩
  cases self with
  | localSigner s => trivial
  | remoteSigner s => exact (s.sign_within message).mono fun l => .inl

theorem not_replied {message : Bytes} {t : Trace node Metric} {r : Except SignerError Signature}
    (h : Completes (self.sign message).run t r) (s : Site) (op : ChainOp)
    (x : Except String op.Val) : ¬ Replied t s (.chain op) x := by
  intro hx
  rcases h.within (self.sign_within message) _ hx with hlabel | ⟨result, hlabel⟩
  · exact hlabel
  · cases hlabel

end SignerEnum
end IbcAttestor
