import IbcAttestor.Basic.Messages

/-!
# What is used of other crates

The functions of hashing, ABI, packet and signature crates are parameters. The
fields stated as equations are the documented behaviour the attestor relies on;
nothing is assumed of the two hash functions here.
-/

namespace IbcAttestor

/-- `alloy_primitives::Signature`. -/
@[ext] structure Signature where
  r : Bytes32
  s : Bytes32
  yParity : Bool
  deriving DecidableEq

/-- The recovery parity a `v` byte stands for. -/
def normalizeV (v : UInt8) : Option Bool :=
  if v = 0 ∨ v = 27 then some false
  else if v = 1 ∨ v = 28 then some true
  else if 35 ≤ v then some ((v - 35) % 2 == 1)
  else none

/-- The text of an `alloy_sol_types::Error`. -/
abbrev AbiError := String

structure Crates where
  -- sha2, alloy_primitives, hex
  sha256 : Bytes → Bytes32
  keccak256 : Bytes → Bytes32
  hexEncode : Bytes → String
  -- alloy_sol_types
  packetAbiDecode : Bytes → Except AbiError Packet
  stateAbiEncode : StateAttestation → Bytes
  stateAbiDecode : Bytes → Except AbiError StateAttestation
  stateAbiDecode_encode : ∀ a, stateAbiDecode (stateAbiEncode a) = .ok a
  packetsAbiEncode : PacketAttestation → Bytes
  packetsAbiDecode : Bytes → Except AbiError PacketAttestation
  packetsAbiDecode_encode : ∀ a, packetsAbiDecode (packetsAbiEncode a) = .ok a
  -- ibc_eureka_solidity_types: a path is the client, a byte for the kind and the sequence
  commitment : Packet → Bytes
  commitmentPath : Packet → Bytes
  ackCommitmentPath : Packet → Bytes
  receiptCommitmentPath : Packet → Bytes
  pathByte : CommitmentType → UInt8
  pathByte_injective : Function.Injective pathByte
  commitmentPath_eq : ∀ p : Packet,
    commitmentPath p = utf8 p.sourceClient ++ pathByte .packet :: beBytes p.sequence
  ackCommitmentPath_eq : ∀ p : Packet,
    ackCommitmentPath p = utf8 p.destClient ++ pathByte .ack :: beBytes p.sequence
  receiptCommitmentPath_eq : ∀ p : Packet,
    receiptCommitmentPath p = utf8 p.destClient ++ pathByte .receipt :: beBytes p.sequence
  -- tendermint::block::Height is a u64 in the range of an i64
  heightTryFrom : UInt64 → Except String UInt64
  heightTryFrom_ok : ∀ h h', heightTryFrom h = .ok h' ↔ h' = h ∧ h.toNat < 2 ^ 63
  -- solana_ibc_types: the account of a commitment and the bump of its address
  packetCommitmentPda : String → UInt64 → Bytes32 → Bytes32 × UInt8
  packetAckPda : String → UInt64 → Bytes32 → Bytes32 × UInt8
  packetReceiptPda : String → UInt64 → Bytes32 → Bytes32 × UInt8
  -- tonic: the text of an ASCII metadata value
  metadataValueParse : String → Except String String
  -- alloy_primitives::Signature
  signatureTryFrom : Bytes → Except String Signature
  signatureTryFrom_ok : ∀ b σ, signatureTryFrom b = .ok σ ↔
    ∃ v, b = σ.r.bytes ++ σ.s.bytes ++ [v] ∧ normalizeV v = some σ.yParity
  signatureAsBytes : Signature → Bytes
  signatureAsBytes_eq : ∀ σ, signatureAsBytes σ =
    σ.r.bytes ++ σ.s.bytes ++ [if σ.yParity then 28 else 27]
  -- alloy_signer_local: recovery inverts signing
  PrivateKeySigner : Type
  address : PrivateKeySigner → Address
  signHashSync : PrivateKeySigner → Bytes32 → Except String Signature
  recoverAddressFromPrehash : Signature → Bytes32 → Except String Address
  recover_sign : ∀ key hash σ, signHashSync key hash = .ok σ →
    recoverAddressFromPrehash σ hash = .ok (address key)

namespace Crates

variable (c : Crates)

/-- The client whose store holds the commitment of the given kind. -/
def storeClient : CommitmentType → Packet → String
  | .packet, p => p.sourceClient
  | .ack, p => p.destClient
  | .receipt, p => p.destClient

/-- The path of a packet's commitment of the given kind. -/
def pathOf : CommitmentType → Packet → Bytes
  | .packet, p => c.commitmentPath p
  | .ack, p => c.ackCommitmentPath p
  | .receipt, p => c.receiptCommitmentPath p

/-- The path of the commitment of a kind stored for a client and a sequence. -/
def path (client : String) (kind : CommitmentType) (sequence : UInt64) : Bytes :=
  utf8 client ++ c.pathByte kind :: beBytes sequence

theorem pathOf_eq (kind : CommitmentType) (p : Packet) :
    c.pathOf kind p = c.path (storeClient kind p) kind p.sequence := by
  cases kind
  · exact c.commitmentPath_eq p
  · exact c.ackCommitmentPath_eq p
  · exact c.receiptCommitmentPath_eq p

/-- The kind byte and the sequence are the last nine bytes, so the client is the rest. -/
theorem path_inj {client client' : String} {kind kind' : CommitmentType}
    {sequence sequence' : UInt64}
    (h : c.path client kind sequence = c.path client' kind' sequence') :
    client = client' ∧ kind = kind' ∧ sequence = sequence' := by
  have hlen : (c.pathByte kind :: beBytes sequence).length =
      (c.pathByte kind' :: beBytes sequence').length := by simp
  obtain ⟨hclient, hrest⟩ := List.append_inj' h hlen
  obtain ⟨hkind, hseq⟩ := List.cons.inj hrest
  exact ⟨utf8_injective hclient, c.pathByte_injective hkind, beBytes_injective hseq⟩

theorem packetsAbiEncode_injective : Function.Injective c.packetsAbiEncode := by
  intro a b h
  have ha := c.packetsAbiDecode_encode a
  rw [h, c.packetsAbiDecode_encode] at ha
  exact (Except.ok.inj ha).symm

theorem signatureTryFrom_asBytes (σ : Signature) :
    c.signatureTryFrom (c.signatureAsBytes σ) = .ok σ := by
  rw [c.signatureTryFrom_ok, c.signatureAsBytes_eq]
  refine ⟨_, rfl, ?_⟩
  cases σ.yParity <;> decide

theorem length_signatureAsBytes (σ : Signature) : (c.signatureAsBytes σ).length = 65 := by
  simp [c.signatureAsBytes_eq, σ.r.length_bytes, σ.s.length_bytes]

end Crates
end IbcAttestor
