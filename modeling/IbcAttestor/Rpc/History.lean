import IbcAttestor.Rpc.Backends
import IbcAttestor.Rpc.Reads

/-!
# The state at the requested height

EVM and Cosmos answer a lookup from the state at the height it is made for, while the
chain grows. The height 0 is no height for the query of a Cosmos node, which answers it
from the latest state, and the adapter passes it on.
-/

namespace IbcAttestor

open Cooperative

variable {M : Type}

/-- The committed state at each height, and the latest committed height at each moment. -/
structure ChainHistory (M : Type) where
  state : UInt64 → Store
  latest : M → UInt64

namespace ChainHistory

variable (chain : ChainHistory M) (c : Crates)

/-- The state that an ABCI query with a height reads. -/
def abciState (n : M) (height : UInt64) : Store :=
  if height = 0 then chain.state (chain.latest n) else chain.state height

/-- The world answers the lookups of an adapter from the states of the chain: an EVM call
at a block number from the state at it, a Cosmos query from that of the ABCI query. -/
def Serves (world : World M) : AdapterEnum → Prop
  | .evm a => ∀ n height kind p x,
    world n (.chain ((AdapterEnum.evm a).lookupCall c height kind p)) (.ok x) →
    Reflects ((chain.state height).stored kind p) _ x
  | .cosmos a => ∀ n height kind p x,
    world n (.chain ((AdapterEnum.cosmos a).lookupCall c height kind p)) (.ok x) →
    Reflects ((chain.abciState n height).stored kind p) _ x
  | .solana _ => False

/-- The state that a lookup of the adapter reads at a moment. -/
def readState (n : M) (height : UInt64) : AdapterEnum → Store
  | .cosmos _ => chain.abciState n height
  | _ => chain.state height

/-- Where a Cosmos node was asked for height 0, it answered each packet's lookup at a moment
when its latest state and the state at height 0 had the same for the packet. -/
def Settled (a : AdapterEnum) (request : PacketAttestationRequest) (u : Stamped M node Metric) :
    Prop :=
  ∀ cosmos, a = .cosmos cosmos → request.height = 0 →
    ∀ packets kind, decodeRequest c request = .ok (packets, kind) →
    ∀ (i : Fin packets.length) n x, (n, ⟨[i.val], .reply
      (.chain (a.lookupCall c request.height kind (packets.get i))) (.ok x)⟩) ∈ u →
    (chain.state (chain.latest n)).stored kind (packets.get i) =
      (chain.state 0).stored kind (packets.get i)

variable {chain} {a : AdapterEnum} {n : M} {height : UInt64}

theorem readState_latest {cosmos : CosmosAdapter} (ha : a = .cosmos cosmos) (hheight : height = 0) :
    chain.readState n height a = chain.state (chain.latest n) := by
  subst ha
  exact if_pos hheight

theorem readState_height (h : ∀ cosmos, a = .cosmos cosmos → height ≠ 0) :
    chain.readState n height a = chain.state height := by
  cases a with
  | evm a => rfl
  | solana a => rfl
  | cosmos a => exact if_neg (h a rfl)

end ChainHistory

/-- The entry is true of a state: the commitment is stored at the path, or for a receipt
nothing is. -/
def TrueAt (c : Crates) (store : Store) (kind : CommitmentType) (p : Packet)
    (entry : PacketCompact) : Prop :=
  entry.path = c.keccak256 (c.pathOf kind p) ∧ match kind with
    | .receipt => store.stored kind p = none
    | _ => store.stored kind p = some entry.commitment

/-- Every entry of the response is true of a state. -/
def EntriesTrue (c : Crates) (store : Store) (request : PacketAttestationRequest)
    (response : PacketAttestationResponse) : Prop :=
  ∀ packets kind attestation entries, decodeRequest c request = .ok (packets, kind) →
    response = ⟨some attestation⟩ →
    attestation.attestedData = c.packetsAbiEncode ⟨request.height, entries⟩ →
    List.Forall₂ (TrueAt c store kind) packets entries

variable {c : Crates} {retry : TokioRetry} {a : AdapterEnum} {world : World M}
  {chain : ChainHistory M} {store : Store} {request : PacketAttestationRequest}
  {t : Trace node Metric}

theorem trueAt_entryOf {kind : CommitmentType} {p : Packet} {answer : Option Bytes32}
    (h : Accepted c kind p answer) :
    TrueAt c store kind p (entryOf c kind p answer) ↔ store.stored kind p = answer := by
  unfold TrueAt
  rw [entryOf, and_iff_right rfl]
  cases kind with
  | packet =>
    obtain ⟨w, rfl, -⟩ := h
    rfl
  | ack =>
    obtain ⟨w, rfl⟩ := h
    rfl
  | receipt =>
    obtain rfl : answer = none := h
    rfl

theorem lookupResult_ok {stored answer : Option Bytes32} {p : Packet} {kind : CommitmentType}
    (h : a.lookupResult stored p kind = .ok answer) : stored = answer := by
  cases a with
  | evm a => exact Except.ok.inj h
  | solana a => exact Except.ok.inj h
  | cosmos a =>
    cases kind with
    | packet => exact Except.ok.inj h
    | ack => exact Except.ok.inj h
    | receipt =>
      change (if stored.isSome then Except.error _ else Except.ok stored) = _ at h
      split_ifs at h
      exact Except.ok.inj h

theorem stored_of_check {n : M} {height : UInt64} {kind : CommitmentType} {p : Packet}
    {x : (a.lookupQuery c height kind p).op.Val} {answer : Option Bytes32}
    (hserves : chain.Serves c world a)
    (hx : world n (.chain (a.lookupQuery c height kind p).op) (.ok x))
    (hcheck : (a.lookupQuery c height kind p).check x = .ok answer) :
    (chain.readState n height a).stored kind p = answer := by
  have hreflects : ∀ y, world n (.chain (a.lookupCall c height kind p)) (.ok y) →
      Reflects ((chain.readState n height a).stored kind p) _ y := by
    cases a with
    | evm a => exact hserves n height kind p
    | solana a => exact hserves.elim
    | cosmos a => exact hserves n height kind p
  rw [← AdapterEnum.lookupQuery_op] at hreflects
  rw [AdapterEnum.check_of_reflects (Store.ne_zero _ _ _ _) (hreflects x hx)] at hcheck
  exact lookupResult_ok hcheck

theorem PacketsRead.check_replied (v : PacketsRead c (a.adapter c retry) request t)
    (i : Fin v.packets.length)
    {x : (a.lookupQuery c request.height v.kind (v.packets.get i)).op.Val}
    (hx : Replied t [i.val]
      (.chain (a.lookupQuery c request.height v.kind (v.packets.get i)).op) (.ok x)) :
    (a.lookupQuery c request.height v.kind (v.packets.get i)).check x = .ok (v.answers i) := by
  have hlookup := v.lookedUp i
  rw [AdapterEnum.lookup_eq] at hlookup
  have hmem := v.mem_lookupTrace (fun _ hl => (v.read.within AdapterEnum.height_within _ hl).1) hx
    (List.cons_ne_nil _ _)
  exact (Query.completes_run_replied hlookup (replied_child.mpr hmem)).symm

theorem PacketsRead.entriesTrue_iff (v : PacketsRead c (a.adapter c retry) request t)
    {timestamp : Option UInt64} {signature : Bytes} :
    EntriesTrue c store request
        ⟨some ⟨request.height, timestamp, c.packetsAbiEncode v.attestation, signature⟩⟩ ↔
      ∀ i : Fin v.packets.length, store.stored v.kind (v.packets.get i) = v.answers i := by
  have hentries : List.Forall₂ (TrueAt c store v.kind) v.packets v.entries ↔
      ∀ i : Fin v.packets.length, store.stored v.kind (v.packets.get i) = v.answers i := by
    rw [PacketsRead.forall₂_entries]
    exact forall_congr' fun i => trueAt_entryOf (v.accepted i)
  rw [← hentries]
  constructor
  · intro h
    exact h _ _ _ _ ((decodeRequest_ok c).mpr ⟨v.decoded, v.known⟩) rfl rfl
  · intro h packets kind attestation entries hdecode hresponse hdata
    rw [(decodeRequest_ok c).mpr ⟨v.decoded, v.known⟩] at hdecode
    cases hdecode
    cases hresponse
    have hsame := c.packetsAbiEncode_injective hdata
    cases hsame
    exact h

/-- On EVM and Cosmos the entries of a response are true of the state at the requested height,
unless a Cosmos node was asked for height 0 and its latest state was a different one for a
packet. -/
theorem state_at_height [Preorder M] {signer : SignerEnum c}
    {response : PacketAttestationResponse} {u : Stamped M node Metric}
    (hserves : chain.Serves c world a) (hu : Observes world u)
    (h : Completes (AttestorService.packetAttestation c ⟨a.adapter c retry, signer.signer⟩
      request).run (u.map Prod.snd) (.ok response)) :
    EntriesTrue c (chain.state request.height) request response ↔
      chain.Settled c a request u := by
  rw [packetAttestation_eq] at h
  obtain ⟨unsigned, t₁, t₂, σ, ht, hprepared, hsign, rfl⟩ := completes_prepared_ok c h
  obtain ⟨v, rfl⟩ := (completes_preparePackets_ok c).mp hprepared
  have hread : ∀ (i : Fin v.packets.length) n x, (n, ⟨[i.val], .reply (.chain (a.lookupCall c
      request.height v.kind (v.packets.get i))) (.ok x)⟩) ∈ u →
      (chain.readState n request.height a).stored v.kind (v.packets.get i) = v.answers i := by
    intro i n
    rw [← AdapterEnum.lookupQuery_op]
    intro x hmem
    have hx : Replied (t₁ ++ t₂) [i.val] _ _ := ht ▸ List.mem_map.mpr ⟨_, hmem, rfl⟩
    rcases replied_append.mp hx with hx | hx
    · exact stored_of_check hserves (hu.answered n _ _ _ hmem) (v.check_replied i hx)
    · exact absurd hx (signer.not_replied hsign _ _ _)
  have hreply : ∀ i : Fin v.packets.length, ∃ n x, (n, ⟨[i.val], .reply (.chain (a.lookupCall c
      request.height v.kind (v.packets.get i))) (.ok x)⟩) ∈ u := by
    intro i
    rw [← AdapterEnum.lookupQuery_op]
    obtain ⟨x, hx, -⟩ := AdapterEnum.lookup_replied (v.lookedUp i)
    have hx := List.mem_append_left t₂ (v.mem_of_mem_lookupTrace (replied_child.mp hx))
    rw [← ht] at hx
    obtain ⟨⟨n, l⟩, hmem, rfl⟩ := List.mem_map.mp hx
    exact ⟨n, x, hmem⟩
  refine (PacketsRead.entriesTrue_iff v).trans ⟨fun htrue => ?_, fun hsettled i => ?_⟩
  · intro cosmos ha hzero packets kind hdecode i n x hmem
    rw [(decodeRequest_ok c).mpr ⟨v.decoded, v.known⟩] at hdecode
    cases hdecode
    have hlatest := hread i n x hmem
    rw [ChainHistory.readState_latest ha hzero] at hlatest
    rw [hlatest, ← htrue i, hzero]
  · obtain ⟨n, x, hmem⟩ := hreply i
    have hstate := hread i n x hmem
    by_cases hcase : ∀ cosmos, a = .cosmos cosmos → request.height ≠ 0
    · rwa [ChainHistory.readState_height hcase] at hstate
    · simp only [not_forall, not_not] at hcase
      obtain ⟨cosmos, ha, hzero⟩ := hcase
      rw [ChainHistory.readState_latest ha hzero] at hstate
      rw [← hstate, hsettled cosmos ha hzero _ _ ((decodeRequest_ok c).mpr ⟨v.decoded, v.known⟩)
        i n x hmem, hzero]

def sampleHistory : ChainHistory ℕ where
  state height := if height = 0 then Store.empty else fullStore
  latest _ := 120

def fullWorld : World ℕ := fun _ op x => x = fullNode 120 [] op

theorem serves_sampleHistory : sampleHistory.Serves sampleCrates fullWorld sampleCosmos := by
  intro n height kind p x hx
  have hstate : sampleHistory.abciState n height = fullStore := by
    unfold ChainHistory.abciState
    split_ifs with h
    · rfl
    · exact if_neg h
  rw [hstate]
  cases hx
  exact reflects_fullChain

theorem eval_fullNode {height head : UInt64} (hle : height ≤ head) {σ : Signature}
    (hsign : syncSign sampleCrates () ((packetsPayload sampleCrates ⟨height,
      [⟨samplePathHash, sampleCommitment⟩]⟩).taggedSigningInput sampleCrates) = .ok σ) :
    (AttestorService.packetAttestation sampleCrates ⟨sampleCosmos.adapter sampleCrates tokioRetry,
      sampleLocalSigner.signer⟩ ⟨[samplePacketEncoded], height, 0⟩).run.eval (fullNode head) =
        .ok ⟨some ⟨height, none, encodePackets ⟨height, [⟨samplePathHash, sampleCommitment⟩]⟩,
          writeSignature σ⟩⟩ := by
  have hheight : (sampleCosmos.adapter sampleCrates
      tokioRetry).getLastHeightAtConfiguredFinality.run.eval (fullNode head) = .ok head :=
    @AdapterEnum.eval_height _ _ sampleCosmos _ (fullChain head .latestCommit) rfl
  have hlookup : (lookup sampleCrates (sampleCosmos.adapter sampleCrates tokioRetry) height .packet
      samplePacket).run.eval ((fullNode head).child 0) = .ok (some sampleCommitment) := by
    have hreflects : Reflects (fullStore.stored .packet samplePacket)
        (sampleCosmos.lookupQuery sampleCrates height .packet samplePacket).op
        sampleCommitment.bytes := rfl
    rw [@AdapterEnum.eval_lookup _ _ sampleCosmos _ height .packet samplePacket
      sampleCommitment.bytes rfl, AdapterEnum.check_of_reflects (fullStore.ne_zero _ _ _) hreflects]
    rfl
  rw [eval_packetAttestation, eval_preparePackets_sample _ hheight hle hlookup]
  change (signedResult _ _ _ _ _).map _ = _
  rw [sampleLocalSigner_sign hsign]
  rfl

theorem exists_fullWorld {height : UInt64} (hle : height ≤ 120) {σ : Signature}
    (hsign : syncSign sampleCrates () ((packetsPayload sampleCrates ⟨height,
      [⟨samplePathHash, sampleCommitment⟩]⟩).taggedSigningInput sampleCrates) = .ok σ) :
    ∃ u : Stamped ℕ node Metric, Completes (AttestorService.packetAttestation sampleCrates
      ⟨sampleCosmos.adapter sampleCrates tokioRetry, sampleLocalSigner.signer⟩
      ⟨[samplePacketEncoded], height, 0⟩).run (u.map Prod.snd)
        (.ok ⟨some ⟨height, none, encodePackets ⟨height, [⟨samplePathHash, sampleCommitment⟩]⟩,
          writeSignature σ⟩⟩) ∧ Observes fullWorld u :=
  Proc.exists_observes (eval_fullNode hle hsign) 0 fun _ _ => rfl

/-- At height 100 the lookup is for the state at that height. -/
theorem state_at_height_sample : ∃ response,
    EntriesTrue sampleCrates fullStore samplePacketsRequest response := by
  obtain ⟨u, hrun, hu⟩ := exists_fullWorld (by decide : (100 : UInt64) ≤ 120) syncSign_sample
  have hsettled : sampleHistory.Settled sampleCrates sampleCosmos samplePacketsRequest u := by
    intro cosmos _ hzero
    exact absurd hzero (by decide)
  exact ⟨_, (state_at_height serves_sampleHistory hu hrun).mpr hsettled⟩

theorem syncSign_genesis :
    syncSign sampleCrates ()
      ((packetsPayload sampleCrates genesisPackets).taggedSigningInput sampleCrates) =
        .ok genesisPacketsSignature := by
  have hinput : (packetsPayload sampleCrates genesisPackets).taggedSigningInput sampleCrates =
      2 :: genesisPacketsDigest.bytes :=
    congrArg (fun w : Bytes32 => (2 : UInt8) :: w.bytes) sampleSha256_genesis
  have hprehash : sampleCrates.sha256 (2 :: genesisPacketsDigest.bytes) = genesisPacketsPrehash :=
    sampleSha256_genesisInput
  unfold syncSign
  rw [hinput, hprehash]
  exact sampleSignHash_genesis

/-- Asked for height 0, a Cosmos node answers from its latest state: a commitment is attested
for height 0 at which there is none. -/
theorem state_at_height_zero : ∃ (u : Stamped ℕ node Metric) (response : PacketAttestationResponse),
    sampleHistory.Serves sampleCrates fullWorld sampleCosmos ∧ Observes fullWorld u ∧
    Completes (AttestorService.packetAttestation sampleCrates
      ⟨sampleCosmos.adapter sampleCrates tokioRetry, sampleLocalSigner.signer⟩
      ⟨[samplePacketEncoded], 0, 0⟩).run (u.map Prod.snd) (.ok response) ∧
    ¬ EntriesTrue sampleCrates (sampleHistory.state 0) ⟨[samplePacketEncoded], 0, 0⟩ response := by
  obtain ⟨u, hrun, hu⟩ := exists_fullWorld (by decide : (0 : UInt64) ≤ 120) syncSign_genesis
  refine ⟨u, _, serves_sampleHistory, hu, hrun, fun h => ?_⟩
  have hentries := h _ _ _ _ (decodeRequest_sample 0) rfl rfl
  cases hentries with
  | cons hentry _ => cases hentry.2

end IbcAttestor
