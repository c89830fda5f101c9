import IbcAttestor.Basic.Bytes

/-!
# Messages

The protobuf messages of the service and the Solidity structures they carry.
-/

namespace IbcAttestor

/-- `IICS26RouterMsgs::Payload`. -/
structure Payload where
  sourcePort : String
  destPort : String
  version : String
  encoding : String
  value : Bytes
  deriving DecidableEq

/-- `IICS26RouterMsgs::Packet`. -/
structure Packet where
  sequence : UInt64
  sourceClient : String
  destClient : String
  timeoutTimestamp : UInt64
  payloads : List Payload
  deriving DecidableEq

/-- `IAttestationMsgs::StateAttestation`. -/
structure StateAttestation where
  height : UInt64
  timestamp : UInt64
  deriving DecidableEq

/-- `IAttestationMsgs::PacketCompact`. -/
structure PacketCompact where
  path : Bytes32
  commitment : Bytes32
  deriving DecidableEq

/-- `IAttestationMsgs::PacketAttestation`. -/
structure PacketAttestation where
  height : UInt64
  packets : List PacketCompact
  deriving DecidableEq

inductive CommitmentType where
  | packet
  | ack
  | receipt
  deriving DecidableEq

/-- `prost::UnknownEnumValue`. -/
structure UnknownEnumValue where
  value : Int32
  deriving DecidableEq

def CommitmentType.tryFrom (value : Int32) : Except UnknownEnumValue CommitmentType :=
  if value = 0 then .ok .packet
  else if value = 1 then .ok .ack
  else if value = 2 then .ok .receipt
  else .error ⟨value⟩

def CommitmentType.number : CommitmentType → Int32
  | .packet => 0
  | .ack => 1
  | .receipt => 2

structure Attestation where
  height : UInt64
  timestamp : Option UInt64
  attestedData : Bytes
  signature : Bytes
  deriving DecidableEq

structure LatestHeightRequest where

structure LatestHeightResponse where
  height : UInt64
  deriving DecidableEq

structure StateAttestationRequest where
  height : UInt64

structure StateAttestationResponse where
  attestation : Option Attestation
  deriving DecidableEq

structure PacketAttestationRequest where
  packets : List Bytes
  height : UInt64
  commitmentType : Int32

structure PacketAttestationResponse where
  attestation : Option Attestation
  deriving DecidableEq

inductive RpcRequest where
  | latestHeight (request : LatestHeightRequest)
  | stateAttestation (request : StateAttestationRequest)
  | packetAttestation (request : PacketAttestationRequest)

inductive RpcResponse where
  | latestHeight (response : LatestHeightResponse)
  | stateAttestation (response : StateAttestationResponse)
  | packetAttestation (response : PacketAttestationResponse)
  deriving DecidableEq

end IbcAttestor
