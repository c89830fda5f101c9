import IbcAttestor.Adapter.Basic
import IbcAttestor.Adapter.Query
import IbcAttestor.Basic.Crates

/-!
# The Solana adapter

A commitment is the data of an account of the router program. The account is read
at the finalized slot of the moment; the requested slot only names the error.
-/

namespace IbcAttestor

open Cooperative

def anchorDiscriminatorLen : ℕ := 8

def commitmentLen : ℕ := 32

structure SolanaAdapter where
  routerProgramId : Pubkey

namespace SolanaAdapter

variable (c : Crates) (retry : TokioRetry) (self : SolanaAdapter)

def getLastHeightAtConfiguredFinality : Fallible node Metric AttestationAdapterError UInt64 :=
  withRetryBackoff retry "solana.get_last_height.get_slot_with_commitment"
    ((chainCall (.getSlotWithCommitment .finalized)).mapErr fun err => .retrievalError err)

def getBlockTimestamp (slot : UInt64) : Fallible node Metric AttestationAdapterError UInt64 := do
  let blockTime ← withRetryBackoff retry "solana.get_block_timestamp.get_block_time"
    ((chainCall (.getBlockTime slot)).mapErr fun err => .retrievalError err)
  Fallible.ofExcept ((u64TryFromI64 blockTime).mapError fun err => .retrievalError err)

def accountError (clientId : String) (sequence slot : UInt64) (e : String) : String :=
  s!"Failed to get commitment account for client_id={clientId}, sequence={sequence}, " ++
    s!"slot={slot}: {e}"

def invalidDataLength (len : ℕ) : AttestationAdapterError :=
  .retrievalError s!"Invalid commitment account data length: got {len} bytes, expected at least 40"

def getCommitment (clientId : String) (slot sequence : UInt64) (_commitmentPath : Bytes)
    (commitmentType : CommitmentType) :
    Fallible node Metric AttestationAdapterError (Option Bytes32) := do
  let (commitmentPda, _bump) := match commitmentType with
    | .packet => c.packetCommitmentPda clientId sequence self.routerProgramId
    | .ack => c.packetAckPda clientId sequence self.routerProgramId
    | .receipt => c.packetReceiptPda clientId sequence self.routerProgramId
  let account ← withRetryBackoff retry "solana.get_commitment.get_account_with_commitment"
    ((chainCall (.getAccountWithCommitment commitmentPda .finalized)).mapErr fun e =>
      .retrievalError (accountError clientId sequence slot e))
  match account with
  | none => return none
  | some account =>
    let accountDataLen := account.data.length
    if accountDataLen < anchorDiscriminatorLen + commitmentLen then
      throw (invalidDataLength accountDataLen)
    else
      let commitment := account.data.drop anchorDiscriminatorLen
      match Bytes32.tryFrom commitment with
      | none => throw (.commitmentError "Commitment length mismatch")
      | some commitment => return some commitment

def adapter : AttestationAdapter node :=
  ⟨getLastHeightAtConfiguredFinality retry, getBlockTimestamp retry, self.getCommitment c retry⟩

def heightQuery : Query UInt64 where
  operation := "solana.get_last_height.get_slot_with_commitment"
  op := .getSlotWithCommitment .finalized
  wrap := id
  check slot := .ok slot

def timestampQuery (slot : UInt64) : Query UInt64 where
  operation := "solana.get_block_timestamp.get_block_time"
  op := .getBlockTime slot
  wrap := id
  check blockTime := (u64TryFromI64 blockTime).mapError fun err => .retrievalError err

def commitmentPda (clientId : String) (sequence : UInt64) : CommitmentType → Pubkey
  | .packet => (c.packetCommitmentPda clientId sequence self.routerProgramId).1
  | .ack => (c.packetAckPda clientId sequence self.routerProgramId).1
  | .receipt => (c.packetReceiptPda clientId sequence self.routerProgramId).1

/-- The commitment in the data of its account. -/
def checkAccount : Option Account → Except AttestationAdapterError (Option Bytes32)
  | none => .ok none
  | some account =>
    if account.data.length < anchorDiscriminatorLen + commitmentLen then
      .error (invalidDataLength account.data.length)
    else
      match Bytes32.tryFrom (account.data.drop anchorDiscriminatorLen) with
      | none => .error (.commitmentError "Commitment length mismatch")
      | some commitment => .ok (some commitment)

def commitmentQuery (clientId : String) (slot sequence : UInt64) (kind : CommitmentType) :
    Query (Option Bytes32) where
  operation := "solana.get_commitment.get_account_with_commitment"
  op := .getAccountWithCommitment (self.commitmentPda c clientId sequence kind) .finalized
  wrap := accountError clientId sequence slot
  check := checkAccount

theorem getLastHeightAtConfiguredFinality_eq :
    getLastHeightAtConfiguredFinality retry = heightQuery.run retry :=
  (bind_pure _).symm

theorem getBlockTimestamp_eq (slot : UInt64) :
    getBlockTimestamp retry slot = (timestampQuery slot).run retry := rfl

theorem getCommitment_eq (clientId : String) (slot sequence : UInt64) (path : Bytes)
    (kind : CommitmentType) :
    self.getCommitment c retry clientId slot sequence path kind =
      (self.commitmentQuery c clientId slot sequence kind).run retry := by
  cases kind <;>
  · change (_ >>= _) = (_ >>= _)
    congr 1
    funext account
    cases account with
    | none => rfl
    | some account =>
      simp only [commitmentQuery, checkAccount]
      split_ifs
      · rfl
      · cases Bytes32.tryFrom (account.data.drop anchorDiscriminatorLen) <;> rfl

theorem length_of_drop {data : Bytes} {w : Bytes32}
    (h : data.drop anchorDiscriminatorLen = w.bytes) :
    data.length = anchorDiscriminatorLen + commitmentLen := by
  have hdrop := congrArg List.length h
  rw [List.length_drop, w.length_bytes] at hdrop
  unfold anchorDiscriminatorLen commitmentLen at *
  omega

theorem checkAccount_ok {x : Option Account} {answer : Option Bytes32} :
    checkAccount x = .ok answer ↔ (x = none ∧ answer = none) ∨
      ∃ account, ∃ w : Bytes32, x = some account ∧
        account.data.drop anchorDiscriminatorLen = w.bytes ∧ answer = some w := by
  cases x with
  | none => simp [checkAccount, eq_comm]
  | some account =>
    by_cases h : account.data.length < anchorDiscriminatorLen + commitmentLen
    · rw [checkAccount, if_pos h]
      simp only [reduceCtorEq, false_and, false_or, Option.some.injEq, false_iff]
      rintro ⟨_, w, rfl, hw, -⟩
      exact absurd (length_of_drop hw) h.ne
    · rw [checkAccount, if_neg h]
      cases hw : Bytes32.tryFrom (account.data.drop anchorDiscriminatorLen) with
      | none =>
        simp only [reduceCtorEq, false_and, false_or, Option.some.injEq, false_iff]
        rintro ⟨_, w, rfl, hb, -⟩
        rw [Bytes32.tryFrom_eq_some.mpr hb] at hw
        cases hw
      | some w =>
        have hb := Bytes32.tryFrom_eq_some.mp hw
        simp only [reduceCtorEq, false_and, false_or, Except.ok.injEq, Option.some.injEq]
        constructor
        · rintro rfl
          exact ⟨account, w, rfl, hb, rfl⟩
        · rintro ⟨_, w', rfl, hw', rfl⟩
          exact congrArg some (Bytes32.ext (hb.symm.trans hw'))

end SolanaAdapter
end IbcAttestor
