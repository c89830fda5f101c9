import IbcAttestor.Adapter.Calls

/-!
# The commitment store

What a chain stores for IBC, whatever the chain: a word under a client, a kind and a
sequence. Each backend has its own way to say that nothing is stored.
-/

namespace IbcAttestor

/-- The words stored under a client, a kind and a sequence. -/
structure Store where
  get : String → CommitmentType → UInt64 → Option Bytes32
  ne_zero : ∀ client kind sequence, get client kind sequence ≠ some Bytes32.zero

namespace Store

def empty : Store := ⟨fun _ _ _ => none, fun _ _ _ h => nomatch h⟩

def stored (s : Store) (kind : CommitmentType) (p : Packet) : Option Bytes32 :=
  s.get (Crates.storeClient kind p) kind p.sequence

end Store

/-- The answer to a lookup of a backend in whose store there is `stored`: the word or zero, an
account with a discriminator before the word or no account, the bytes of the word or none, and
for a Cosmos receipt whether there is one. -/
def Reflects (stored : Option Bytes32) : (op : ChainOp) → op.Val → Prop
  | .routerGetCommitment _ _ _ => fun word : Bytes32 => word = stored.getD Bytes32.zero
  | .getAccountWithCommitment _ _ => fun account : Option Account => match stored with
    | none => account = none
    | some w => ∃ discriminator : Bytes, discriminator.length = anchorDiscriminatorLen ∧
        account = some ⟨discriminator ++ w.bytes⟩
  | .v2PacketCommitment _ _ _ _ => fun bytes : Bytes => bytes = stored.elim [] Bytes32.bytes
  | .v2PacketAcknowledgement _ _ _ => fun bytes : Bytes => bytes = stored.elim [] Bytes32.bytes
  | .v2PacketReceipt _ _ _ => fun received : Bool => received = stored.isSome
  | _ => fun _ => False

namespace AdapterEnum

variable {c : Crates}

/-- The result of a lookup where there is `stored` for the packet. -/
def lookupResult (stored : Option Bytes32) (p : Packet) :
    AdapterEnum → CommitmentType → Except AttestationAdapterError (Option Bytes32)
  | .cosmos _, .receipt =>
    if stored.isSome then .error (CosmosAdapter.alreadyReceived p.sequence) else .ok stored
  | _, _ => .ok stored

/-- The adapters read the answers back, except for an existing receipt on Cosmos. -/
theorem check_of_reflects {stored : Option Bytes32} {height : UInt64} {p : Packet}
    {a : AdapterEnum} {kind : CommitmentType} {x : (a.lookupQuery c height kind p).op.Val}
    (hne : stored ≠ some Bytes32.zero) (h : Reflects stored _ x) :
    (a.lookupQuery c height kind p).check x = lookupResult stored p a kind := by
  have hbytes : CosmosAdapter.checkBytes (stored.elim [] Bytes32.bytes) = .ok stored := by
    rw [CosmosAdapter.checkBytes_ok]
    cases stored with
    | none => exact .inl ⟨rfl, rfl⟩
    | some w => exact .inr ⟨w, rfl, rfl⟩
  cases a with
  | evm a =>
    subst h
    apply (EvmAdapter.commitmentQuery_check c a).mpr
    cases stored with
    | none => exact .inl ⟨rfl, rfl⟩
    | some w => exact .inr ⟨fun hw => hne (congrArg some hw), rfl⟩
  | solana a =>
    apply SolanaAdapter.checkAccount_ok.mpr
    cases stored with
    | none => exact .inl ⟨h, rfl⟩
    | some w =>
      obtain ⟨discriminator, hlength, rfl⟩ := h
      exact .inr ⟨_, w, rfl, List.drop_left' hlength, rfl⟩
  | cosmos a =>
    cases kind with
    | packet =>
      subst h
      exact hbytes
    | ack =>
      subst h
      exact hbytes
    | receipt =>
      subst h
      cases stored <;> rfl

end AdapterEnum
end IbcAttestor
