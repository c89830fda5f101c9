import IbcAttestor.Adapter.Basic
import IbcAttestor.Attestation

/-!
# The attestation service

The three RPCs over any adapter and any signer. The packets of one request are
validated concurrently, and all of them before the first error is looked at.
-/

namespace IbcAttestor

open Cooperative

variable (c : Crates) {I : Interface}

/-- `Packets::try_from_abi_encoded`. -/
def Packets.tryFromAbiEncoded (encoded : List Bytes) : Except AttestorError (List Packet) :=
  encoded.mapM fun p => (c.packetAbiDecode p).mapError AttestorError.abiError

/-- The finalized height less the requested one, as the histogram sees it. -/
def heightLag (finalized height : UInt64) : ℤ :=
  i64SaturatingSub (i64OfU64 finalized) (i64OfU64 height)

def validateHeight (adapter : AttestationAdapter I) (height : UInt64) :
    Fallible I Metric AttestorError Unit := do
  let finalized ← adapter.getLastHeightAtConfiguredFinality.mapErr AttestorError.adapterError
  Fallible.event (.observeHeightLag (heightLag finalized height))
  if height > finalized then
    Fallible.event .incHeightRejections
    throw .blockNotFinalized
  else
    return ()

def handlePacketCommitment (adapter : AttestationAdapter I) (height : UInt64) (packet : Packet)
    (commitmentType : CommitmentType) : Fallible I Metric AttestorError PacketCompact := do
  let commitmentPath := c.commitmentPath packet
  let expectedCommitment := c.commitment packet
  let clientId := packet.sourceClient
  let sequence := packet.sequence
  let commitment ←
    (adapter.getCommitment clientId height sequence commitmentPath commitmentType).mapErr
      AttestorError.adapterError
  match commitment with
  | none =>
    Fallible.event (.incCommitmentFailure "not_found")
    throw (.commitmentNotFound clientId sequence height)
  | some commitment =>
    if expectedCommitment = commitment.bytes then
      return ⟨c.keccak256 commitmentPath, commitment⟩
    else
      Fallible.event (.incCommitmentFailure "mismatch")
      let expected := c.hexEncode expectedCommitment
      let actual := c.hexEncode commitment.bytes
      throw (.invalidCommitment (s!"Packet commitment mismatch for client_id={clientId} " ++
        s!"seq={sequence}: expected 0x{expected}, got 0x{actual}"))

def handleAckCommitment (adapter : AttestationAdapter I) (height : UInt64) (packet : Packet)
    (commitmentType : CommitmentType) : Fallible I Metric AttestorError PacketCompact := do
  let commitmentPath := c.ackCommitmentPath packet
  let clientId := packet.destClient
  let sequence := packet.sequence
  let commitment ←
    (adapter.getCommitment clientId height sequence commitmentPath commitmentType).mapErr
      AttestorError.adapterError
  match commitment with
  | none =>
    Fallible.event (.incCommitmentFailure "not_found")
    throw (.commitmentNotFound clientId sequence height)
  | some commitment => return ⟨c.keccak256 commitmentPath, commitment⟩

def handleReceiptCommitment (adapter : AttestationAdapter I) (height : UInt64) (packet : Packet)
    (commitmentType : CommitmentType) : Fallible I Metric AttestorError PacketCompact := do
  let commitmentPath := c.receiptCommitmentPath packet
  let clientId := packet.destClient
  let sequence := packet.sequence
  let commitment ←
    (adapter.getCommitment clientId height sequence commitmentPath commitmentType).mapErr
      AttestorError.adapterError
  match commitment with
  | none => return ⟨c.keccak256 commitmentPath, Bytes32.zero⟩
  | some commit =>
    Fallible.event (.incCommitmentFailure "unexpected_receipt")
    let actual := c.hexEncode commit.bytes
    throw (.invalidCommitment (s!"Receipt commitment should be zero for client_id={clientId} " ++
      s!"seq={sequence}: got 0x{actual}"))

def createSinglePacketAttestation (adapter : AttestationAdapter I) (height : UInt64)
    (packet : Packet) (commitmentType : CommitmentType) :
    Fallible I Metric AttestorError PacketCompact :=
  match commitmentType with
  | .packet => handlePacketCommitment c adapter height packet commitmentType
  | .ack => handleAckCommitment c adapter height packet commitmentType
  | .receipt => handleReceiptCommitment c adapter height packet commitmentType

def createPacketsAttestation (adapter : AttestationAdapter I) (packets : List Packet)
    (height : UInt64) (commitmentType : CommitmentType) :
    Fallible I Metric AttestorError PacketAttestation := do
  let validations ← Fallible.gather fun i : Fin packets.length =>
    createSinglePacketAttestation c adapter height (packets.get i) commitmentType
  let packets ← Fallible.ofExcept (validations.mapM id)
  return ⟨height, packets⟩

structure AttestorService (I : Interface) where
  adapter : AttestationAdapter I
  signer : Signer I

namespace AttestorService

variable (service : AttestorService I)

def latestHeight (_request : LatestHeightRequest) :
    Fallible I Metric Status LatestHeightResponse := do
  let height ← service.adapter.getLastHeightAtConfiguredFinality.mapErr fun e =>
    Status.ofAttestorError (.adapterError e)
  return ⟨height⟩

/-- `impl From<SignedAttestation>` for both responses. -/
def attestationOf (signed : SignedAttestation) : Attestation :=
  ⟨signed.height, signed.timestamp, signed.attestedData, signed.signature⟩

def stateAttestation (request : StateAttestationRequest) :
    Fallible I Metric Status StateAttestationResponse := do
  let height := request.height
  (validateHeight service.adapter height).mapErr Status.ofAttestorError
  let timestamp ← (service.adapter.getBlockTimestamp height).mapErr fun e =>
    Status.ofAttestorError (.adapterError e)
  let unsignedAttestation : StateAttestation := ⟨height, timestamp⟩
  let attestedData := c.stateAbiEncode unsignedAttestation
  let attestation ←
    (signAttestation c height (some timestamp) (.new attestedData .state)
      service.signer).mapErr Status.ofAttestorError
  return ⟨some (attestationOf attestation)⟩

def packetAttestation (request : PacketAttestationRequest) :
    Fallible I Metric Status PacketAttestationResponse := do
  let height := request.height
  let packets ← (Fallible.ofExcept (Packets.tryFromAbiEncoded c request.packets)).mapErr
    Status.ofAttestorError
  let commitmentType ← (Fallible.ofExcept (CommitmentType.tryFrom request.commitmentType)).mapErr
    fun e => Status.ofAttestorError (.malformedCommitmentError e)
  (validateHeight service.adapter height).mapErr Status.ofAttestorError
  let unsignedAttestation ←
    (createPacketsAttestation c service.adapter packets height commitmentType).mapErr
      Status.ofAttestorError
  let attestedData := c.packetsAbiEncode unsignedAttestation
  let attestation ←
    (signAttestation c height none (.new attestedData .packet) service.signer).mapErr
      Status.ofAttestorError
  return ⟨some (attestationOf attestation)⟩

/-- The method a request is for. -/
def serve : RpcRequest → Fallible I Metric Status RpcResponse
  | .latestHeight request => do return .latestHeight (← service.latestHeight request)
  | .stateAttestation request => do return .stateAttestation (← service.stateAttestation c request)
  | .packetAttestation request => do
    return .packetAttestation (← service.packetAttestation c request)

end AttestorService
end IbcAttestor
