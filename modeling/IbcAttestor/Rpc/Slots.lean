import IbcAttestor.Rpc.Reads
import IbcAttestor.Rpc.Value

/-!
# Slots of a Solana chain

The adapter reads the accounts of the slot that is finalized at the moment, not those of
the requested slot. What an entry says of the requested slot depends on the kind: a
receipt that is absent later was absent before, but a packet or an acknowledgement may
have been written after the requested slot.
-/

namespace IbcAttestor

open Cooperative

variable {M : Type} [Preorder M]

/-- The accounts at each slot, and the slot that is finalized at each moment. A receipt of
the router, once written, is never removed. -/
structure SolanaChain (c : Crates) (a : SolanaAdapter) (M : Type) [Preorder M] where
  accounts : ℕ → Pubkey → Option Account
  finalizedSlot : M → UInt64
  finalizedSlot_le : ∀ {m n}, m ≤ n → finalizedSlot m ≤ finalizedSlot n
  receipt_kept : ∀ client sequence {slot slot' : ℕ}, slot ≤ slot' →
    accounts slot' (a.commitmentPda c client sequence .receipt) = none →
    accounts slot (a.commitmentPda c client sequence .receipt) = none

namespace SolanaChain

variable {c : Crates} {a : SolanaAdapter} (chain : SolanaChain c a M)

/-- What may be answered at each moment: a call may fail, and the finalized slot and an
account are those of the moment. -/
def world : World M := fun m op => match op with
  | .chain (.getSlotWithCommitment .finalized) => fun (x : Except String UInt64) =>
    ∀ slot, x = .ok slot → slot = chain.finalizedSlot m
  | .chain (.getAccountWithCommitment pubkey .finalized) => fun (x : Except String _) =>
    ∀ account, x = .ok account → account = chain.accounts (chain.finalizedSlot m).toNat pubkey
  | _ => fun _ => True

def account (slot : ℕ) (kind : CommitmentType) (p : Packet) : Option Account :=
  chain.accounts slot (a.commitmentPda c (Crates.storeClient kind p) p.sequence kind)

/-- The commitment is in the account of the packet, after the discriminator. -/
def Stored (kind : CommitmentType) (p : Packet) (w : Bytes32) (slot : ℕ) : Prop :=
  ∃ account, chain.account slot kind p = some account ∧
    account.data.drop anchorDiscriminatorLen = w.bytes

/-- What an entry attested for a slot guarantees, when it was read at one of the moments. -/
def Guaranteed (moments : List M) (height : UInt64) (kind : CommitmentType) (p : Packet)
    (entry : PacketCompact) : Prop :=
  entry.path = c.keccak256 (c.pathOf kind p) ∧ match kind with
    | .receipt => entry.commitment = Bytes32.zero ∧
      ∀ slot ≤ height.toNat, chain.account slot kind p = none
    | _ => ∃ m ∈ moments, height ≤ chain.finalizedSlot m ∧
      chain.Stored kind p entry.commitment (chain.finalizedSlot m).toNat ∧
      (¬ chain.Stored kind p entry.commitment height.toNat →
        ∃ slot, height.toNat < slot ∧ slot ≤ (chain.finalizedSlot m).toNat ∧
          chain.Stored kind p entry.commitment slot ∧
          ¬ chain.Stored kind p entry.commitment (slot - 1))

variable {chain} {moments : List M} {m n : M} {height : UInt64} {kind : CommitmentType}
  {p : Packet} {w : Bytes32}

/-- What became true was made true at some step. -/
theorem exists_change {P : ℕ → Prop} {i j : ℕ} (hij : i ≤ j) (hi : ¬ P i) (hj : P j) :
    ∃ k, i < k ∧ k ≤ j ∧ P k ∧ ¬ P (k - 1) := by
  induction j, hij using Nat.le_induction with
  | base => exact absurd hj hi
  | succ j hij ih =>
    by_cases h : P j
    · obtain ⟨k, hik, hkj, hk, hk'⟩ := ih h
      exact ⟨k, hik, by omega, hk, hk'⟩
    · exact ⟨j + 1, by omega, le_rfl, hj, h⟩

theorem reported_iff : Reported chain.world (.solana a) m height ↔
    height ≤ chain.finalizedSlot m := by
  constructor
  · rintro ⟨f, ⟨slot, hslot, hf⟩, hle⟩
    have hfinalized := hslot slot rfl
    cases hf
    rwa [← hfinalized]
  · intro hle
    refine ⟨_, ⟨chain.finalizedSlot m, ?_, rfl⟩, hle⟩
    intro slot hslot
    exact (Except.ok.inj hslot).symm

/-- What a lookup reads is in the packet's account at the finalized slot of the moment. -/
theorem reads_iff {answer : Option Bytes32} :
    Reads chain.world m ((AdapterEnum.solana a).lookupQuery c height kind p) answer ↔
      (answer = none ∧ chain.account (chain.finalizedSlot m).toNat kind p = none) ∨
      ∃ w, answer = some w ∧ chain.Stored kind p w (chain.finalizedSlot m).toNat := by
  constructor
  · rintro ⟨x, hx, hcheck⟩
    have hx := hx x rfl
    rcases SolanaAdapter.checkAccount_ok.mp hcheck with ⟨rfl, rfl⟩ | ⟨account, w, rfl, hdata, rfl⟩
    · exact .inl ⟨rfl, hx.symm⟩
    · exact .inr ⟨w, rfl, account, hx.symm, hdata⟩
  · intro h
    refine ⟨chain.account (chain.finalizedSlot m).toNat kind p, ?_, ?_⟩
    · intro account haccount
      exact (Except.ok.inj haccount).symm
    · apply SolanaAdapter.checkAccount_ok.mpr
      rcases h with ⟨rfl, hnone⟩ | ⟨w, rfl, account, haccount, hdata⟩
      · exact .inl ⟨hnone, rfl⟩
      · exact .inr ⟨account, w, haccount, hdata, rfl⟩

/-- No receipt at a finalized slot, none at any slot up to it. -/
theorem receipt_absent {slot : ℕ} (hle : slot ≤ (chain.finalizedSlot n).toNat)
    (h : chain.account (chain.finalizedSlot n).toNat .receipt p = none) :
    chain.account slot .receipt p = none :=
  chain.receipt_kept _ _ hle h

theorem guaranteed_entryOf {answer : Option Bytes32} (hn : n ∈ moments) (hmn : m ≤ n)
    (hm : Reported chain.world (.solana a) m height)
    (hread : Reads chain.world n ((AdapterEnum.solana a).lookupQuery c height kind p) answer)
    (haccepted : Accepted c kind p answer) :
    chain.Guaranteed moments height kind p (entryOf c kind p answer) := by
  have hle : height ≤ chain.finalizedSlot n :=
    UInt64.le_trans (reported_iff.mp hm) (chain.finalizedSlot_le hmn)
  have hle' := UInt64.le_iff_toNat_le.mp hle
  have hstored : ∀ w, answer = some w → ∃ m ∈ moments, height ≤ chain.finalizedSlot m ∧
      chain.Stored kind p w (chain.finalizedSlot m).toNat ∧
      (¬ chain.Stored kind p w height.toNat → ∃ slot, height.toNat < slot ∧
        slot ≤ (chain.finalizedSlot m).toNat ∧ chain.Stored kind p w slot ∧
        ¬ chain.Stored kind p w (slot - 1)) := by
    intro w hw
    rcases reads_iff.mp hread with ⟨hnone, -⟩ | ⟨w', hw', hs⟩
    · rw [hw] at hnone
      cases hnone
    · obtain rfl : w' = w := Option.some.inj (hw'.symm.trans hw)
      exact ⟨n, hn, hle, hs, fun hnot => exists_change hle' hnot hs⟩
  refine ⟨rfl, ?_⟩
  cases kind with
  | packet =>
    obtain ⟨w, rfl, -⟩ := haccepted
    exact hstored w rfl
  | ack =>
    obtain ⟨w, rfl⟩ := haccepted
    exact hstored w rfl
  | receipt =>
    obtain rfl : answer = none := haccepted
    refine ⟨rfl, fun slot hslot => ?_⟩
    rcases reads_iff.mp hread with ⟨-, habsent⟩ | ⟨w, hw, -⟩
    · exact receipt_absent (hslot.trans hle') habsent
    · cases hw

end SolanaChain

variable {c : Crates} {retry : TokioRetry} {a : SolanaAdapter} {chain : SolanaChain c a M}

/-- Whatever slots are finalized while a packet request is served, each receipt entry that
is returned was absent up to the requested slot, and each other entry was stored at a slot
that was finalized during the request, and was written between the two if not before. -/
theorem slot_attestation {signer : Signer node} {request : PacketAttestationRequest}
    {response : PacketAttestationResponse} {u : Stamped M node Metric}
    (hu : Observes chain.world u)
    (h : Completes (AttestorService.packetAttestation c
      ⟨(AdapterEnum.solana a).adapter c retry, signer⟩ request).run (u.map Prod.snd)
        (.ok response)) :
    ∃ packets kind entries attestation, decodeRequest c request = .ok (packets, kind) ∧
      response = ⟨some attestation⟩ ∧ attestation.height = request.height ∧
      attestation.attestedData = c.packetsAbiEncode ⟨request.height, entries⟩ ∧
      List.Forall₂ (chain.Guaranteed (u.map Prod.fst) request.height kind) packets entries := by
  rw [packetAttestation_eq] at h
  obtain ⟨unsigned, t₁, t₂, σ, ht, hprepared, -, rfl⟩ := completes_prepared_ok c h
  obtain ⟨v, rfl⟩ := (completes_preparePackets_ok c).mp hprepared
  obtain ⟨u₁, u₂, rfl, rfl, -⟩ := List.map_eq_append_iff.mp ht
  refine ⟨v.packets, v.kind, v.entries, _, (decodeRequest_ok c).mpr ⟨v.decoded, v.known⟩, rfl, rfl,
    rfl, ?_⟩
  rw [PacketsRead.forall₂_entries]
  intro i
  obtain ⟨m, n, hn, hmn, hm, hread⟩ := v.reads_during hu.left rfl i
  have hmem : n ∈ (u₁ ++ u₂).map Prod.fst := by
    rw [List.map_append]
    exact List.mem_append_left _ hn
  exact SolanaChain.guaranteed_entryOf hmem hmn hm hread (v.accepted i)

/-- A chain on which the sample commitment is written in slot 110. -/
def sampleSlots : SolanaChain sampleCrates ⟨sampleProgramId⟩ ℕ where
  accounts slot pubkey :=
    if 110 ≤ slot ∧ pubkey = sampleCommitmentPda then some sampleAccount else none
  finalizedSlot m := if m = 0 then 100 else 120
  finalizedSlot_le := by
    intro m n hmn
    by_cases hn : n = 0
    · rw [if_pos hn, if_pos (by omega)]
      exact UInt64.le_refl _
    · rw [if_neg hn]
      split_ifs <;> decide
  receipt_kept := by
    intro client sequence slot slot' hle hnone
    by_cases h : 110 ≤ slot ∧ SolanaAdapter.commitmentPda sampleCrates ⟨sampleProgramId⟩ client
        sequence .receipt = sampleCommitmentPda
    · rw [if_pos ⟨by omega, h.2⟩] at hnone
      cases hnone
    · exact if_neg h

theorem answers_sampleSlots (op : NodeOp) :
    sampleSlots.world 1 op (sampleNode 120 [] op) := by
  cases op with
  | sleep millis => trivial
  | signer op => trivial
  | chain op =>
    cases op with
    | getSlotWithCommitment config =>
      cases config with
      | finalized =>
        intro slot hslot
        exact (Except.ok.inj hslot).symm
      | _ => trivial
    | getAccountWithCommitment pubkey config =>
      cases config with
      | finalized =>
        intro account haccount
        obtain rfl := Except.ok.inj haccount
        have hslot : 110 ≤ (sampleSlots.finalizedSlot 1).toNat := by decide
        simp [sampleSlots, sampleChain] at hslot ⊢
      | _ => trivial
    | _ => trivial

/-- The sample packet, attested for slot 100 when slot 120 is finalized. -/
theorem slot_attestation_sample : ∃ entries attestation,
    decodeRequest sampleCrates samplePacketsRequest = .ok ([samplePacket], .packet) ∧
    attestation.attestedData = encodePackets ⟨100, entries⟩ ∧
    ∃ u : Stamped ℕ node Metric, Completes (AttestorService.packetAttestation sampleCrates
      ⟨sampleSolana.adapter sampleCrates tokioRetry, sampleLocalSigner.signer⟩
      samplePacketsRequest).run (u.map Prod.snd) (.ok ⟨some attestation⟩) ∧
    List.Forall₂ (sampleSlots.Guaranteed (u.map Prod.fst) 100 .packet) [samplePacket] entries := by
  have hsolana : IsSample sampleSolana := .inr (.inl rfl)
  have hvalue := @IsSample.eval_packetAttestation tokioRetry _ 120 hsolana (by decide)
  obtain ⟨u, hrun, hu⟩ := Proc.exists_observes hvalue 1 fun _ op => answers_sampleSlots op
  obtain ⟨packets, kind, entries, attestation, hdecode, hresponse, -, hdata, hentries⟩ :=
    slot_attestation hu hrun
  rw [samplePacketsRequest, decodeRequest_sample] at hdecode
  cases hdecode
  cases hresponse
  exact ⟨entries, _, decodeRequest_sample 100, hdata, u, hrun, hentries⟩

end IbcAttestor
