import IbcAttestor.Adapter.Enum

/-!
# The calls of the adapters

Each method of an adapter makes one RPC call. These are the calls as the nodes see them,
and what their answers say.
-/

namespace IbcAttestor

open Cooperative

namespace AdapterEnum

variable (c : Crates) (self : AdapterEnum)

def heightCall : AdapterEnum → ChainOp
  | .evm a => .getBlock a.finalityBlock
  | .solana _ => .getSlotWithCommitment .finalized
  | .cosmos _ => .latestCommit

def timestampCall (height : UInt64) : AdapterEnum → ChainOp
  | .evm _ => .getBlock (.number height)
  | .solana _ => .getBlockTime height
  | .cosmos _ => .commit height

def lookupCall (height : UInt64) (kind : CommitmentType) (p : Packet) : AdapterEnum → ChainOp
  | .evm a =>
    .routerGetCommitment a.config.routerAddress (c.keccak256 (c.pathOf kind p)) (.number height)
  | .solana a => .getAccountWithCommitment
      (a.commitmentPda c (Crates.storeClient kind p) p.sequence kind) .finalized
  | .cosmos _ => match kind with
    | .packet => .v2PacketCommitment (Crates.storeClient kind p) p.sequence height false
    | .ack => .v2PacketAcknowledgement (Crates.storeClient kind p) p.sequence height
    | .receipt => .v2PacketReceipt (Crates.storeClient kind p) p.sequence height

/-- The finalized height that an answer tells of. -/
def finalizedIn : (self : AdapterEnum) → self.heightCall.Val → Option UInt64
  | .evm a => fun block : Option EvmBlock => block.map a.finalizedHeight
  | .solana _ => fun slot : UInt64 => some slot
  | .cosmos _ => fun header : SignedHeader => some header.height

/-- The time of a block that an answer tells of. -/
def timestampIn (height : UInt64) :
    (self : AdapterEnum) → (self.timestampCall height).Val → Option UInt64
  | .evm _ => fun block : Option EvmBlock => block.map EvmBlock.timestamp
  | .solana _ => fun blockTime : Int64 => (u64TryFromI64 blockTime).toOption
  | .cosmos _ => fun header : SignedHeader => (u64TryFromI64 header.unixTimestamp).toOption

variable {c self} {height : UInt64} {kind : CommitmentType} {p : Packet}

theorem lookupQuery_op :
    (self.lookupQuery c height kind p).op = self.lookupCall c height kind p := by
  cases self with
  | evm a => rfl
  | solana a => rfl
  | cosmos a => cases kind <;> rfl

theorem heightQuery_check_of_told (answered : (op : ChainOp) → op.Val → Prop) {P : UInt64 → Prop}
    (h : ∀ x, answered self.heightCall x → ∃ f, self.finalizedIn x = some f ∧ P f)
    (x : self.heightQuery.op.Val) (hx : answered self.heightQuery.op x) :
    ∃ f, self.heightQuery.check x = .ok f ∧ P f := by
  cases self with
  | evm a =>
    cases x with
    | none =>
      obtain ⟨f, hf, -⟩ := h none hx
      cases hf
    | some block =>
      obtain ⟨f, hf, hP⟩ := h (some block) hx
      exact ⟨f, congrArg Except.ok (Option.some.inj hf), hP⟩
  | solana a =>
    obtain ⟨f, hf, hP⟩ := h x hx
    exact ⟨f, congrArg Except.ok (Option.some.inj hf), hP⟩
  | cosmos a =>
    obtain ⟨f, hf, hP⟩ := h x hx
    exact ⟨f, congrArg Except.ok (Option.some.inj hf), hP⟩

theorem mapError_of_toOption {α ε ε' : Type} {x : Except ε α} {v : α} (f : ε → ε')
    (h : x.toOption = some v) : x.mapError f = .ok v := by
  cases x with
  | error e => cases h
  | ok v' => exact congrArg Except.ok (Option.some.inj h)

theorem timestampQuery_check_of_told (answered : (op : ChainOp) → op.Val → Prop) {v : UInt64}
    (h : ∀ x, answered (self.timestampCall height) x → self.timestampIn height x = some v)
    {q : Query UInt64} (hq : self.timestampQuery c height = .ok q) (x : q.op.Val)
    (hx : answered q.op x) : q.check x = .ok v := by
  cases self with
  | evm a =>
    cases hq
    cases x with
    | none => nomatch h none hx
    | some block => exact congrArg Except.ok (Option.some.inj (h (some block) hx))
  | solana a =>
    cases hq
    exact mapError_of_toOption _ (h x hx)
  | cosmos a =>
    obtain ⟨-, rfl⟩ := timestampQuery_cosmos.mp hq
    exact mapError_of_toOption _ (h x hx)

/-- The height call was answered with the finalized height `f`. -/
def ToldHeight (a : AdapterEnum) (t : Trace node Metric) (f : UInt64) : Prop :=
  ∃ x, Replied t [] (.chain a.heightCall) (.ok x) ∧ a.finalizedIn x = some f

end AdapterEnum
end IbcAttestor
