import IbcAttestor.Adapter.Solana
import IbcAttestor.Rpc.Value

/-!
# How a Solana account is read

Anybody can fund the address of a commitment: an account that holds no data is no
commitment. The adapter reads an account of exactly a discriminator and a commitment,
and no account at all; an account without data it takes for a failure of the node.
-/

namespace IbcAttestor

open Cooperative

namespace SolanaAdapter

/-- No commitment is stored at the address. -/
def NoCommitment (x : Option Account) : Prop := ∀ account ∈ x, account.data = []

/-- Every account reply is read for what it is. -/
structure CompletelyRead (c : Crates) (x : Option Account)
    (r : Except AttestationAdapterError (Option Bytes32)) : Prop where
  none_iff : r = .ok none ↔ NoCommitment x
  stored : ∀ account ∈ x, anchorDiscriminatorLen + commitmentLen ≤ account.data.length →
    ∃ w : Bytes32, r = .ok (some w) ∧
      w.bytes = (account.data.drop anchorDiscriminatorLen).take commitmentLen
  malformed : ∀ account ∈ x, account.data ≠ [] →
    account.data.length < anchorDiscriminatorLen + commitmentLen → ∃ e, r = .error e
  absent : NoCommitment x → ∀ kind height p, packetResult c kind height p r = match kind with
    | .receipt => .ok ⟨c.keccak256 (c.pathOf kind p), Bytes32.zero⟩
    | _ => .error (.commitmentNotFound (Crates.storeClient kind p) p.sequence height)

variable {c : Crates}

theorem checkAccount_short {account : Account}
    (h : account.data.length < anchorDiscriminatorLen + commitmentLen) :
    checkAccount (some account) = .error (invalidDataLength account.data.length) := by
  rw [checkAccount, if_pos h]

theorem checkAccount_exact {account : Account}
    (h : account.data.length = anchorDiscriminatorLen + commitmentLen) :
    ∃ w : Bytes32, checkAccount (some account) = .ok (some w) ∧
      w.bytes = account.data.drop anchorDiscriminatorLen := by
  have hlength : (account.data.drop anchorDiscriminatorLen).length = 32 := by
    rw [List.length_drop, h]
    rfl
  refine ⟨⟨_, hlength⟩, ?_, rfl⟩
  rw [checkAccount, if_neg (by omega), Bytes32.tryFrom, dif_pos hlength]

theorem checkAccount_long {account : Account}
    (h : anchorDiscriminatorLen + commitmentLen < account.data.length) :
    checkAccount (some account) = .error (.commitmentError "Commitment length mismatch") := by
  have hlength : ¬ (account.data.drop anchorDiscriminatorLen).length = 32 := by
    rw [List.length_drop]
    unfold anchorDiscriminatorLen commitmentLen at *
    omega
  rw [checkAccount, if_neg (by omega), Bytes32.tryFrom, dif_neg hlength]

theorem completelyRead_none : CompletelyRead c none (checkAccount none) where
  none_iff := by simp [checkAccount, NoCommitment]
  stored := by simp
  malformed := by simp
  absent := by
    intro _ kind height p
    cases kind <;> rfl

theorem completelyRead_some {account : Account} :
    CompletelyRead c (some account) (checkAccount (some account)) ↔
      account.data ≠ [] ∧ account.data.length ≤ anchorDiscriminatorLen + commitmentLen := by
  rcases lt_trichotomy account.data.length (anchorDiscriminatorLen + commitmentLen) with h | h | h
  · rw [checkAccount_short h]
    constructor
    · intro hread
      refine ⟨fun hempty => ?_, h.le⟩
      have hnone : NoCommitment (some account) := by simpa [NoCommitment] using hempty
      cases hread.none_iff.mpr hnone
    · rintro ⟨hne, -⟩
      have hsome : ¬ NoCommitment (some account) := by simpa [NoCommitment] using hne
      refine ⟨by simp [hsome], ?_, ?_, fun hnone => absurd hnone hsome⟩
      · rintro _ ⟨⟩ hle
        omega
      · rintro _ ⟨⟩ - -
        exact ⟨_, rfl⟩
  · obtain ⟨w, hw, hbytes⟩ := checkAccount_exact h
    have hne : account.data ≠ [] := by
      intro hempty
      rw [hempty] at h
      cases h
    have hsome : ¬ NoCommitment (some account) := by simpa [NoCommitment] using hne
    rw [hw]
    refine iff_of_true ⟨by simp [hsome], ?_, ?_, fun hnone => absurd hnone hsome⟩ ⟨hne, h.le⟩
    · rintro _ ⟨⟩ -
      refine ⟨w, rfl, ?_⟩
      rw [hbytes, List.take_of_length_le]
      rw [List.length_drop, h]
      rfl
    · rintro _ ⟨⟩ - hlt
      omega
  · rw [checkAccount_long h]
    refine iff_of_false (fun hread => ?_) (fun hcond => absurd hcond.2 (by omega))
    obtain ⟨w, hw, -⟩ := hread.stored account rfl h.le
    cases hw

variable {retry : TokioRetry} {self : SolanaAdapter} {clientId : String}
  {slot sequence : UInt64} {path : Bytes} {kind : CommitmentType} {t : Trace node Metric}

/-- A lookup reads the account it was answered with completely, unless the account is
empty or holds more than a commitment. -/
theorem account_read {x : Option Account} {r : Except AttestationAdapterError (Option Bytes32)}
    (h : Completes (self.getCommitment c retry clientId slot sequence path kind).run t r)
    (hx : Replied t [] (.chain (.getAccountWithCommitment
      (self.commitmentPda c clientId sequence kind) .finalized)) (.ok x)) :
    CompletelyRead c x r ↔ ∀ account ∈ x, account.data ≠ [] ∧
      account.data.length ≤ anchorDiscriminatorLen + commitmentLen := by
  rw [getCommitment_eq] at h
  have hr : r = checkAccount x := Query.completes_run_replied h hx
  subst hr
  cases x with
  | none => exact iff_of_true completelyRead_none (by simp)
  | some account =>
    rw [completelyRead_some]
    simp only [Option.mem_some_iff, forall_eq']

theorem sampleReceipt_run (x : Option Account) :
    Completes (getCommitment sampleCrates tokioRetry ⟨sampleProgramId⟩ "client-1" 100 7
        (sampleCrates.receiptCommitmentPath samplePacket) .receipt).run
      [⟨[], .call (.chain (.getAccountWithCommitment (commitmentPda sampleCrates ⟨sampleProgramId⟩
          "client-1" 7 .receipt) .finalized))⟩,
        ⟨[], .reply (.chain (.getAccountWithCommitment (commitmentPda sampleCrates
          ⟨sampleProgramId⟩ "client-1" 7 .receipt) .finalized)) (.ok x)⟩] (checkAccount x) := by
  rw [getCommitment_eq]
  exact @Query.completes_answered _ (commitmentQuery sampleCrates ⟨sampleProgramId⟩ "client-1" 100 7
    .receipt) tokioRetry x

/-- The account of the sample commitment is as long as a commitment makes it. -/
theorem account_read_sample : sampleAccount.data.length = 40 ∧
    CompletelyRead sampleCrates (some sampleAccount) (checkAccount (some sampleAccount)) := by
  have hlength : sampleAccount.data.length = 40 := by decide
  refine ⟨hlength, (account_read (sampleReceipt_run (some sampleAccount))
    (by simp [Replied])).mpr ?_⟩
  rintro account ⟨⟩
  exact ⟨by decide, hlength.le⟩

/-- The address of a receipt that was never written is funded: the lookup fails, and the
absence of the receipt cannot be attested. -/
theorem account_funded : ∃ t r,
    Completes (getCommitment sampleCrates tokioRetry ⟨sampleProgramId⟩ "client-1" 100 7
      (sampleCrates.receiptCommitmentPath samplePacket) .receipt).run t r ∧
    Replied t [] (.chain (.getAccountWithCommitment (commitmentPda sampleCrates ⟨sampleProgramId⟩
      "client-1" 7 .receipt) .finalized)) (.ok (some ⟨[]⟩)) ∧
    r = .error (invalidDataLength 0) ∧ ¬ CompletelyRead sampleCrates (some ⟨[]⟩) r := by
  refine ⟨_, _, sampleReceipt_run (some ⟨[]⟩), by simp [Replied], rfl, fun hread => ?_⟩
  exact (completelyRead_some.mp hread).1 rfl

end SolanaAdapter
end IbcAttestor
