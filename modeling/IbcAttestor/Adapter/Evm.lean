import IbcAttestor.Adapter.Basic
import IbcAttestor.Adapter.Query
import IbcAttestor.Basic.Crates

/-!
# The EVM adapter

Commitments are read from the router contract under the hash of their path, at
the requested block; the client and the sequence are not looked at.
-/

namespace IbcAttestor

open Cooperative

structure EvmAdapterConfig where
  routerAddress : Address
  finalityOffset : Option UInt64

structure EvmAdapter where
  config : EvmAdapterConfig

namespace EvmAdapter

variable (c : Crates) (retry : TokioRetry) (self : EvmAdapter)

def getLastHeightAtConfiguredFinality : Fallible node Metric AttestationAdapterError UInt64 := do
  let blockId := match self.config.finalityOffset with
    | some _ => BlockId.latest
    | none => BlockId.finalized
  let block ← withRetryBackoff retry "evm.get_last_height.get_block"
    ((chainCall (.getBlock blockId)).mapErr fun err => .retrievalError err)
  match block with
  | none => throw .blockNotFinalized
  | some block =>
    let finalizedHeight := match self.config.finalityOffset with
      | none => block.number
      | some offset => u64SaturatingSub block.number offset
    return finalizedHeight

def getBlockTimestamp (height : UInt64) : Fallible node Metric AttestationAdapterError UInt64 := do
  let block ← withRetryBackoff retry "evm.get_block_timestamp.get_block"
    ((chainCall (.getBlock (.number height))).mapErr fun err => .retrievalError err)
  match block with
  | none => throw .blockNotFinalized
  | some block => return block.timestamp

def getCommitment (_clientId : String) (height _sequence : UInt64) (commitmentPath : Bytes)
    (_commitmentType : CommitmentType) :
    Fallible node Metric AttestationAdapterError (Option Bytes32) := do
  let hashedPath := c.keccak256 commitmentPath
  let commitment ← withRetryBackoff retry "evm.get_commitment.get_commitment"
    ((chainCall (.routerGetCommitment self.config.routerAddress hashedPath (.number height))).mapErr
      fun e => .retrievalError e)
  -- Zero bytes mean that there is no commitment.
  if commitment = Bytes32.zero then return none else return some commitment

def adapter : AttestationAdapter node :=
  ⟨self.getLastHeightAtConfiguredFinality retry, getBlockTimestamp retry,
    self.getCommitment c retry⟩

/-- The block whose number the finality setting starts from. -/
def finalityBlock : BlockId :=
  match self.config.finalityOffset with
  | some _ => .latest
  | none => .finalized

/-- The height reported as finalized when that block is the given one. -/
def finalizedHeight (block : EvmBlock) : UInt64 :=
  match self.config.finalityOffset with
  | none => block.number
  | some offset => u64SaturatingSub block.number offset

def heightQuery : Query UInt64 where
  operation := "evm.get_last_height.get_block"
  op := .getBlock self.finalityBlock
  wrap := id
  check
    | none => .error .blockNotFinalized
    | some block => .ok (self.finalizedHeight block)

def timestampQuery (height : UInt64) : Query UInt64 where
  operation := "evm.get_block_timestamp.get_block"
  op := .getBlock (.number height)
  wrap := id
  check
    | none => .error .blockNotFinalized
    | some block => .ok block.timestamp

def commitmentQuery (height : UInt64) (commitmentPath : Bytes) : Query (Option Bytes32) where
  operation := "evm.get_commitment.get_commitment"
  op := .routerGetCommitment self.config.routerAddress (c.keccak256 commitmentPath) (.number height)
  wrap := id
  check commitment := .ok (if commitment = Bytes32.zero then none else some commitment)

theorem getLastHeightAtConfiguredFinality_eq :
    self.getLastHeightAtConfiguredFinality retry = self.heightQuery.run retry := by
  change (_ >>= _) = (_ >>= _)
  congr 1
  funext block
  cases block <;> rfl

theorem getBlockTimestamp_eq (height : UInt64) :
    getBlockTimestamp retry height = (timestampQuery height).run retry := by
  change (_ >>= _) = (_ >>= _)
  congr 1
  funext block
  cases block <;> rfl

theorem getCommitment_eq (clientId : String) (height sequence : UInt64) (path : Bytes)
    (kind : CommitmentType) :
    self.getCommitment c retry clientId height sequence path kind =
      (self.commitmentQuery c height path).run retry := by
  change (_ >>= _) = (_ >>= _)
  congr 1
  funext commitment
  change (if _ then _ else _) = Fallible.ofExcept (.ok (if _ then _ else _))
  split_ifs <;> rfl

theorem commitmentQuery_check {height : UInt64} {path : Bytes} {x : Bytes32}
    {answer : Option Bytes32} : (self.commitmentQuery c height path).check x = .ok answer ↔
      (x = Bytes32.zero ∧ answer = none) ∨ (x ≠ Bytes32.zero ∧ answer = some x) := by
  change Except.ok _ = Except.ok _ ↔ _
  by_cases h : x = Bytes32.zero
  · simp [h, eq_comm]
  · simp [h, eq_comm]

end EvmAdapter
end IbcAttestor
