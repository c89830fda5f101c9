import IbcAttestor.Rpc.Value
import IbcAttestor.Signer.Keys

/-!
# The signed digest determines the claim

Two attestations with the same digest are of the same type and state the same; for
packets also the kind, the clients and the sequences are the same. Nothing is assumed
of the chains and the signers, and the two may be different.
-/

namespace IbcAttestor

open Cooperative

variable {c : Crates} {I J : Interface} {t : Trace I Metric}

def signingInput (c : Crates) : RpcRequest → Attestation → Bytes
  | .latestHeight _, _ => []
  | .stateAttestation _, a => (AttestationPayload.new a.attestedData .state).taggedSigningInput c
  | .packetAttestation _, a => (AttestationPayload.new a.attestedData .packet).taggedSigningInput c

def requestPaths (c : Crates) : RpcRequest → List Bytes
  | .packetAttestation request => match decodeRequest c request with
    | .ok (packets, kind) => packets.map (c.pathOf kind)
    | .error _ => []
  | _ => []

/-- The client and the sequence that a packet's commitment is stored under. -/
def storeKey (kind : CommitmentType) (p : Packet) : String × UInt64 :=
  (Crates.storeClient kind p, p.sequence)

/-- The attestations are of the same type and their data decodes to the same statement. -/
def SameClaim (c : Crates) : RpcRequest → Attestation → RpcRequest → Attestation → Prop
  | .stateAttestation _, a, .stateAttestation _, a' => ∃ u,
    c.stateAbiDecode a.attestedData = .ok u ∧ c.stateAbiDecode a'.attestedData = .ok u
  | .packetAttestation request, a, .packetAttestation request', a' => ∃ u packets kind packets' kind',
    c.packetsAbiDecode a.attestedData = .ok u ∧ c.packetsAbiDecode a'.attestedData = .ok u ∧
    decodeRequest c request = .ok (packets, kind) ∧
    decodeRequest c request' = .ok (packets', kind') ∧
    u.packets.length = packets.length ∧
    (packets ≠ [] → kind = kind' ∧ packets.map (storeKey kind) = packets'.map (storeKey kind'))
  | _, _, _, _ => False

/-- What the data of an attestation states. -/
inductive States (c : Crates) : RpcRequest → Attestation → Prop
  | state {request : StateAttestationRequest} {a : Attestation} (u : StateAttestation)
      (hdata : a.attestedData = c.stateAbiEncode u) : States c (.stateAttestation request) a
  | packets {request : PacketAttestationRequest} {a : Attestation} {packets : List Packet}
      {kind : CommitmentType} (answers : Fin packets.length → Option Bytes32)
      (hdecode : decodeRequest c request = .ok (packets, kind))
      (hdata : a.attestedData = c.packetsAbiEncode ⟨request.height,
        List.ofFn fun i => entryOf c kind (packets.get i) (answers i)⟩) :
      States c (.packetAttestation request) a

theorem Attested.spec {service : AttestorService I} {request : RpcRequest} {a : Attestation}
    (h : Attested c service request t a) : States c request a ∧ ∃ t₂ σ,
      Completes (service.signer.sign (signingInput c request a)).run t₂ (.ok σ) ∧
        a.signature = c.signatureAsBytes σ := by
  cases request with
  | latestHeight request => exact h.not_latestHeight.elim
  | stateAttestation request =>
    obtain ⟨u, -, t₂, σ, -, -, hsign, rfl⟩ := h.state
    exact ⟨.state u rfl, t₂, σ, hsign, rfl⟩
  | packetAttestation request =>
    obtain ⟨t₁, t₂, σ, v, -, hsign, rfl⟩ := h.packets
    exact ⟨.packets v.answers ((decodeRequest_ok c).mpr ⟨v.decoded, v.known⟩) rfl, t₂, σ, hsign, rfl⟩

/-- Equal hashes of paths are hashes of equal paths. -/
theorem storeKeys_eq {packets packets' : List Packet} {kind kind' : CommitmentType}
    {paths : Set Bytes} (hkeccak : Set.InjOn c.keccak256 paths)
    (hpaths : ∀ p ∈ packets, c.pathOf kind p ∈ paths)
    (hpaths' : ∀ p ∈ packets', c.pathOf kind' p ∈ paths)
    (h : packets.map (fun p => c.keccak256 (c.pathOf kind p)) =
      packets'.map (fun p => c.keccak256 (c.pathOf kind' p))) :
    packets.map (storeKey kind) = packets'.map (storeKey kind') ∧ (packets ≠ [] → kind = kind') := by
  induction packets generalizing packets' with
  | nil =>
    cases packets' with
    | nil => exact ⟨rfl, fun hne => absurd rfl hne⟩
    | cons p' ps' => cases h
  | cons p ps ih =>
    cases packets' with
    | nil => cases h
    | cons p' ps' =>
      obtain ⟨hhead, htail⟩ := List.cons.inj h
      obtain ⟨hkeys, -⟩ := ih (fun q hq => hpaths q (by simp [hq]))
        (fun q hq => hpaths' q (by simp [hq])) htail
      have hpath := hkeccak (hpaths p (by simp)) (hpaths' p' (by simp)) hhead
      rw [c.pathOf_eq, c.pathOf_eq] at hpath
      obtain ⟨hclient, hkind, hsequence⟩ := c.path_inj hpath
      refine ⟨?_, fun _ => hkind⟩
      rw [List.map_cons, List.map_cons, hkeys, storeKey, storeKey, hclient, hsequence]

/-- No two different inputs among the hashed ones have the same hash. -/
structure NoCollision (c : Crates) (request request' : RpcRequest) (a a' : Attestation) : Prop where
  sha256 : Set.InjOn c.sha256
    {signingInput c request a, signingInput c request' a', a.attestedData, a'.attestedData}
  keccak256 : Set.InjOn c.keccak256
    {path | path ∈ requestPaths c request ∨ path ∈ requestPaths c request'}

theorem map_path_entries {height : UInt64} {packets : List Packet} {kind : CommitmentType}
    (answers : Fin packets.length → Option Bytes32) :
    (PacketAttestation.mk height (List.ofFn fun i : Fin packets.length =>
      entryOf c kind (packets.get i) (answers i))).packets.map PacketCompact.path =
        packets.map fun p => c.keccak256 (c.pathOf kind p) := by
  rw [List.map_ofFn]
  exact List.ofFn_getElem_eq_map packets fun p => c.keccak256 (c.pathOf kind p)

theorem requestPaths_eq {request : PacketAttestationRequest} {packets : List Packet}
    {kind : CommitmentType} (h : decodeRequest c request = .ok (packets, kind)) :
    requestPaths c (.packetAttestation request) = packets.map (c.pathOf kind) := by
  rw [requestPaths, h]

theorem sameClaim_of_digest {request request' : RpcRequest} {a a' : Attestation}
    (h : States c request a) (h' : States c request' a')
    (hcollision : NoCollision c request request' a a')
    (hdigest : c.sha256 (signingInput c request a) = c.sha256 (signingInput c request' a')) :
    SameClaim c request a request' a' := by
  have hinput := hcollision.sha256 (by simp) (by simp) hdigest
  have hdata : c.sha256 a.attestedData = c.sha256 a'.attestedData →
      a.attestedData = a'.attestedData :=
    hcollision.sha256 (by simp) (by simp)
  cases h with
  | state u hu =>
    cases h' with
    | state u' hu' =>
      obtain ⟨-, hsha⟩ := AttestationPayload.taggedSigningInput_inj c |>.mp hinput
      have heq := hdata hsha
      refine ⟨u, ?_, ?_⟩
      · rw [hu, c.stateAbiDecode_encode]
      · rw [← heq, hu, c.stateAbiDecode_encode]
    | packets answers' hdecode' hu' =>
      obtain ⟨htype, -⟩ := AttestationPayload.taggedSigningInput_inj c |>.mp hinput
      cases htype
  | packets answers hdecode hu =>
    cases h' with
    | state u' hu' =>
      obtain ⟨htype, -⟩ := AttestationPayload.taggedSigningInput_inj c |>.mp hinput
      cases htype
    | packets answers' hdecode' hu' =>
      obtain ⟨-, hsha⟩ := AttestationPayload.taggedSigningInput_inj c |>.mp hinput
      have heq := c.packetsAbiEncode_injective (hu.symm.trans ((hdata hsha).trans hu'))
      have hhashes := congrArg (fun u : PacketAttestation => u.packets.map PacketCompact.path) heq
      rw [map_path_entries, map_path_entries] at hhashes
      have hpaths := requestPaths_eq hdecode
      have hpaths' := requestPaths_eq hdecode'
      obtain ⟨hkeys, hkind⟩ := storeKeys_eq hcollision.keccak256
        (fun p hp => .inl (hpaths ▸ List.mem_map_of_mem hp))
        (fun p hp => .inr (hpaths' ▸ List.mem_map_of_mem hp)) hhashes
      have hstated := c.packetsAbiDecode_encode _ ▸ congrArg c.packetsAbiDecode hu
      refine ⟨_, _, _, _, _, hstated, ?_, hdecode, hdecode', ?_, fun hne => ⟨hkind hne, hkeys⟩⟩
      · rw [← hdata hsha, hstated]
      · simp

/-- Recovery of a signature gives an address under at most one of two digests. -/
def RecoversOnce (c : Crates) (signature : Bytes) (address : Address) (h h' : Bytes32) : Prop :=
  recoverAddressFromPrehash c h signature = .ok address →
    recoverAddressFromPrehash c h' signature = .ok address → h = h'

/-- The digest of an attestation determines what it claims, whoever made it: a signature
for it is none for another claim. -/
theorem digest_determines_claim {service : AttestorService I} {service' : AttestorService J}
    {request request' : RpcRequest} {t' : Trace J Metric} {a a' : Attestation}
    (h : Attested c service request t a) (h' : Attested c service' request' t' a')
    (hcollision : NoCollision c request request' a a') :
    (∃ t₂ σ, Completes (service.signer.sign (signingInput c request a)).run t₂ (.ok σ) ∧
      a.signature = c.signatureAsBytes σ) ∧
    (c.sha256 (signingInput c request a) = c.sha256 (signingInput c request' a') →
      SameClaim c request a request' a') ∧
    ∀ signature address,
      RecoversOnce c signature address (c.sha256 (signingInput c request a))
        (c.sha256 (signingInput c request' a')) →
      recoverAddress c (signingInput c request a) signature = .ok address →
      recoverAddress c (signingInput c request' a') signature = .ok address →
      SameClaim c request a request' a' := by
  obtain ⟨hstates, hsigned⟩ := h.spec
  obtain ⟨hstates', -⟩ := h'.spec
  have hsame := sameClaim_of_digest hstates hstates' hcollision
  refine ⟨hsigned, hsame, fun signature address honce hrecover hrecover' => ?_⟩
  exact hsame (honce hrecover hrecover')

theorem noCollision_sample : NoCollision sampleCrates (.packetAttestation samplePacketsRequest)
    (.packetAttestation samplePacketsRequest) samplePacketAttestation samplePacketAttestation := by
  have hne : sampleCrates.sha256 (signingInput sampleCrates
      (.packetAttestation samplePacketsRequest) samplePacketAttestation) ≠
        sampleCrates.sha256 samplePacketAttestation.attestedData := by
    change sampleCrates.sha256
      ((packetsPayload sampleCrates samplePackets).taggedSigningInput sampleCrates) ≠
        sampleSha256 (encodePackets samplePackets)
    rw [sampleSha256_taggedSigningInput, sampleSha256_packets]
    decide
  constructor
  · intro x hx y hy hxy
    simp only [Set.mem_insert_iff, Set.mem_singleton_iff, or_self, or_self_left] at hx hy
    rcases hx with rfl | rfl
    · rcases hy with rfl | rfl
      · rfl
      · exact absurd hxy hne
    · rcases hy with rfl | rfl
      · exact absurd hxy.symm hne
      · rfl
  · have hdecode :
        decodeRequest sampleCrates samplePacketsRequest = .ok ([samplePacket], .packet) :=
      decodeRequest_sample 100
    rw [requestPaths_eq hdecode]
    intro x hx y hy _
    simp only [List.map_cons, List.map_nil, List.mem_singleton, or_self, Set.mem_ofPred_eq] at hx hy
    rw [hx, hy]

/-- The same packet attested on two chains: one digest, one claim. -/
theorem digest_determines_claim_sample :
    SameClaim sampleCrates (.packetAttestation samplePacketsRequest) samplePacketAttestation
      (.packetAttestation samplePacketsRequest) samplePacketAttestation := by
  have hhead : (100 : UInt64) ≤ 120 := by decide
  have hevm : IsSample sampleEvm := .inl rfl
  have hsolana : IsSample sampleSolana := .inr (.inl rfl)
  obtain ⟨t, -, h⟩ := hevm.attested tokioRetry hhead
  obtain ⟨t', -, h'⟩ := hsolana.attested tokioRetry hhead
  exact (digest_determines_claim h h' noCollision_sample).2.1 rfl

end IbcAttestor
