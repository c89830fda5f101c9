import IbcAttestor.Adapter.Basic
import IbcAttestor.Adapter.Query
import IbcAttestor.Basic.Crates

/-!
# The Cosmos adapter

Commitments are read through one query for each kind, under the client and the
sequence; the path is not looked at. An existing receipt is an error here.
-/

namespace IbcAttestor

open Cooperative

structure CosmosAdapter where

namespace CosmosAdapter

variable (c : Crates) (retry : TokioRetry)

def getPacketCommitment (clientId : String) (height sequence : UInt64) :
    Fallible node Metric AttestationAdapterError (Option Bytes) := do
  let commitment ← withRetryBackoff retry "cosmos.get_packet_commitment.v2_packet_commitment"
    ((chainCall (.v2PacketCommitment clientId sequence height false)).mapErr fun err =>
      .retrievalError err)
  if commitment = [] then return none else return some commitment

def getAckCommitment (clientId : String) (height sequence : UInt64) :
    Fallible node Metric AttestationAdapterError (Option Bytes) := do
  let acknowledgement ← withRetryBackoff retry
    "cosmos.get_ack_commitment.v2_packet_acknowledgement"
    ((chainCall (.v2PacketAcknowledgement clientId sequence height)).mapErr fun err =>
      .retrievalError err)
  if acknowledgement = [] then return none else return some acknowledgement

def alreadyReceived (sequence : UInt64) : AttestationAdapterError :=
  .commitmentError s!"Packet seq={sequence} was already received, cannot timeout"

def getReceiptCommitment (clientId : String) (height sequence : UInt64) :
    Fallible node Metric AttestationAdapterError (Option Bytes) := do
  let received ← withRetryBackoff retry "cosmos.get_receipt_commitment.v2_packet_receipt"
    ((chainCall (.v2PacketReceipt clientId sequence height)).mapErr fun err => .retrievalError err)
  if received then throw (alreadyReceived sequence) else return none

def getLastHeightAtConfiguredFinality : Fallible node Metric AttestationAdapterError UInt64 := do
  let header ← withRetryBackoff retry "cosmos.get_last_height.latest_commit"
    ((chainCall .latestCommit).mapErr fun err => .retrievalError err)
  return header.height

def getBlockTimestamp (height : UInt64) : Fallible node Metric AttestationAdapterError UInt64 := do
  let height ← Fallible.ofExcept ((c.heightTryFrom height).mapError fun _ =>
    AttestationAdapterError.invalidHeight)
  let header ← withRetryBackoff retry "cosmos.get_block_timestamp.commit"
    ((chainCall (.commit height)).mapErr fun err => .retrievalError err)
  Fallible.ofExcept ((u64TryFromI64 header.unixTimestamp).mapError fun err => .retrievalError err)

/-- `commitment.try_into::<[u8; 32]>`. -/
def commitmentTryInto (commitment : Bytes) : Except AttestationAdapterError Bytes32 :=
  match Bytes32.tryFrom commitment with
  | some commitment => .ok commitment
  | none => .error (.commitmentError "Commitment length mismatch")

def getCommitment (clientId : String) (height sequence : UInt64) (_commitmentPath : Bytes)
    (commitmentType : CommitmentType) :
    Fallible node Metric AttestationAdapterError (Option Bytes32) := do
  let commitment ← match commitmentType with
    | .packet => getPacketCommitment retry clientId height sequence
    | .ack => getAckCommitment retry clientId height sequence
    | .receipt => getReceiptCommitment retry clientId height sequence
  match commitment with
  | none => return none
  | some commitment => return some (← Fallible.ofExcept (commitmentTryInto commitment))

def adapter (_self : CosmosAdapter) : AttestationAdapter node :=
  ⟨getLastHeightAtConfiguredFinality retry, getBlockTimestamp c retry, getCommitment retry⟩

def heightQuery : Query UInt64 where
  operation := "cosmos.get_last_height.latest_commit"
  op := .latestCommit
  wrap := id
  check header := .ok header.height

def timestampQuery (height : UInt64) : Query UInt64 where
  operation := "cosmos.get_block_timestamp.commit"
  op := .commit height
  wrap := id
  check header := (u64TryFromI64 header.unixTimestamp).mapError fun err => .retrievalError err

/-- The stored bytes of a commitment; no bytes mean that there is none. -/
def checkBytes (b : Bytes) : Except AttestationAdapterError (Option Bytes32) :=
  if b = [] then .ok none else (commitmentTryInto b).map some

def commitmentQuery (clientId : String) (height sequence : UInt64) :
    CommitmentType → Query (Option Bytes32)
  | .packet => ⟨"cosmos.get_packet_commitment.v2_packet_commitment",
      .v2PacketCommitment clientId sequence height false, id, checkBytes⟩
  | .ack => ⟨"cosmos.get_ack_commitment.v2_packet_acknowledgement",
      .v2PacketAcknowledgement clientId sequence height, id, checkBytes⟩
  | .receipt => ⟨"cosmos.get_receipt_commitment.v2_packet_receipt",
      .v2PacketReceipt clientId sequence height, id, fun received =>
        if received then .error (alreadyReceived sequence) else .ok none⟩

theorem getLastHeightAtConfiguredFinality_eq :
    getLastHeightAtConfiguredFinality retry = heightQuery.run retry := rfl

theorem getBlockTimestamp_eq (height : UInt64) :
    getBlockTimestamp c retry height = match c.heightTryFrom height with
      | .ok height => (timestampQuery height).run retry
      | .error _ => throw .invalidHeight := by
  unfold getBlockTimestamp
  cases c.heightTryFrom height <;> rfl

theorem getCommitment_eq (clientId : String) (height sequence : UInt64) (path : Bytes)
    (kind : CommitmentType) :
    getCommitment retry clientId height sequence path kind =
      (commitmentQuery clientId height sequence kind).run retry := by
  have hbytes : ∀ (x : Fallible node Metric AttestationAdapterError Bytes),
      ((x >>= fun b => if b = [] then pure none else pure (some b)) >>= fun b => match b with
        | none => pure none
        | some b => do return some (← Fallible.ofExcept (commitmentTryInto b))) =
      x >>= fun b => Fallible.ofExcept (checkBytes b) := by
    intro x
    rw [bind_assoc]
    congr 1
    funext b
    unfold checkBytes
    split_ifs
    · rfl
    · rw [pure_bind]
      change (Fallible.ofExcept (commitmentTryInto b) >>= fun w => pure (some w)) = _
      cases commitmentTryInto b <;> rfl
  cases kind with
  | packet => exact hbytes _
  | ack => exact hbytes _
  | receipt =>
    change ((_ >>= _) >>= _) = (_ >>= _)
    rw [bind_assoc]
    congr 1
    funext received
    cases received <;> rfl

theorem checkBytes_ok {b : Bytes} {answer : Option Bytes32} :
    checkBytes b = .ok answer ↔ (b = [] ∧ answer = none) ∨ ∃ w : Bytes32, b = w.bytes ∧
      answer = some w := by
  unfold checkBytes
  by_cases h : b = []
  · subst h
    have hne : ∀ w : Bytes32, [] ≠ w.bytes := fun w hw => w.bytes_ne_nil hw.symm
    simp [hne, eq_comm]
  · rw [if_neg h, commitmentTryInto]
    cases hw : Bytes32.tryFrom b with
    | none =>
      have hne : ∀ w : Bytes32, b ≠ w.bytes := by
        intro w hb
        rw [Bytes32.tryFrom_eq_some.mpr hb] at hw
        cases hw
      simp [h, hne, Except.map]
    | some w =>
      obtain rfl := Bytes32.tryFrom_eq_some.mp hw
      have hinj : ∀ w' : Bytes32, w.bytes = w'.bytes ↔ w' = w := by
        intro w'
        rw [← Bytes32.ext_iff, eq_comm]
      simp [h, hinj, Except.map, eq_comm]

end CosmosAdapter
end IbcAttestor
