import IbcAttestor.Signer.Basic

/-!
# Attestation payloads and their signing

The tag byte of the attestation type is put before the hash of the data; the
signer hashes the resulting 33 bytes again.
-/

namespace IbcAttestor

open Cooperative

variable (c : Crates) {I : Interface}

inductive AttestationType where
  | state
  | packet
  deriving DecidableEq

def AttestationType.asByte : AttestationType → UInt8
  | .state => 0x01
  | .packet => 0x02

theorem AttestationType.asByte_injective : Function.Injective AttestationType.asByte := by
  intro a b h
  cases a <;> cases b <;> first | rfl | exact absurd h (by decide)

structure AttestationPayload where
  attestationType : AttestationType
  data : Bytes
  deriving DecidableEq

def AttestationPayload.new (data : Bytes) (attestationType : AttestationType) :
    AttestationPayload :=
  ⟨attestationType, data⟩

def AttestationPayload.taggedSigningInput (payload : AttestationPayload) : Bytes :=
  payload.attestationType.asByte :: (c.sha256 payload.data).bytes

theorem AttestationPayload.length_taggedSigningInput (payload : AttestationPayload) :
    (payload.taggedSigningInput c).length = 33 := by
  simp [taggedSigningInput, (c.sha256 payload.data).length_bytes]

theorem AttestationPayload.taggedSigningInput_inj {p q : AttestationPayload} :
    p.taggedSigningInput c = q.taggedSigningInput c ↔
      p.attestationType = q.attestationType ∧ c.sha256 p.data = c.sha256 q.data := by
  simp [taggedSigningInput, AttestationType.asByte_injective.eq_iff, Bytes32.ext_iff]

structure SignedAttestation where
  height : UInt64
  timestamp : Option UInt64
  attestedData : Bytes
  signature : Bytes
  deriving DecidableEq

def signAttestation (height : UInt64) (timestamp : Option UInt64)
    (payload : AttestationPayload) (signer : Signer I) :
    Fallible I Metric AttestorError SignedAttestation := do
  let signature ← (signer.sign (payload.taggedSigningInput c)).mapErr fun e =>
    AttestorError.signerError e.toString
  return ⟨height, timestamp, payload.data, c.signatureAsBytes signature⟩

end IbcAttestor
