import IbcAttestor.Basic.Crates

/-!
# Ethereum keys

The signing and recovery functions of the `ethereum-keys` library: both hash the
message with SHA-256.
-/

namespace IbcAttestor

variable (c : Crates)

/-- `ethereum_keys::signature::sign`. -/
def syncSign (signer : c.PrivateKeySigner) (message : Bytes) : Except String Signature :=
  c.signHashSync signer (c.sha256 message)

def recoverAddressFromPrehash (prehash : Bytes32) (signature65 : Bytes) :
    Except String Address := do
  let sig ← (c.signatureTryFrom signature65).mapError fun _ => "invalid signature length/format"
  (c.recoverAddressFromPrehash sig prehash).mapError fun _ => "signature recovery failed"

/-- `ethereum_keys::recover::recover_address`. -/
def recoverAddress (message : Bytes) (signature65 : Bytes) : Except String Address :=
  recoverAddressFromPrehash c (c.sha256 message) signature65

theorem recoverAddress_congr (message : Bytes) {b b' : Bytes}
    (h : c.signatureTryFrom b = c.signatureTryFrom b') :
    recoverAddress c message b = recoverAddress c message b' := by
  unfold recoverAddress recoverAddressFromPrehash
  rw [h]

theorem recoverAddress_asBytes (message : Bytes) (σ : Signature) (a : Address) :
    recoverAddress c message (c.signatureAsBytes σ) = .ok a ↔
      c.recoverAddressFromPrehash σ (c.sha256 message) = .ok a := by
  unfold recoverAddress recoverAddressFromPrehash
  rw [c.signatureTryFrom_asBytes]
  change Except.mapError _ (c.recoverAddressFromPrehash σ (c.sha256 message)) = _ ↔ _
  cases c.recoverAddressFromPrehash σ (c.sha256 message) <;> simp [Except.mapError]

theorem recoverAddress_syncSign {key : c.PrivateKeySigner} {message : Bytes} {σ : Signature}
    (h : syncSign c key message = .ok σ) :
    recoverAddress c message (c.signatureAsBytes σ) = .ok (c.address key) :=
  (recoverAddress_asBytes c message σ _).mpr (c.recover_sign key _ σ h)

end IbcAttestor
