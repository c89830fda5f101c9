import IbcAttestor.Rpc.Boundary

/-!
# The contract of the packet attestation RPC

When a packet attestation is returned and what it says, for any behaviour of the
adapter and of the signer.
-/

namespace IbcAttestor

open Cooperative

variable {c : Crates} {request : PacketAttestationRequest} {t : Trace traits Metric}

/-- What a request needs, read off the replies of its run. -/
structure Attestable (c : Crates) (request : PacketAttestationRequest) (t : Trace traits Metric)
    (packets : List Packet) (kind : CommitmentType) : Prop where
  decoded : Packets.tryFromAbiEncoded c request.packets = .ok packets
  known : CommitmentType.tryFrom request.commitmentType = .ok kind
  finalized : ∃ f, Replied t [] .getLastHeightAtConfiguredFinality (.ok f) ∧ request.height ≤ f
  accepted : ∀ i : Fin packets.length, ∃ answer,
    Replied t [i.val] (lookupOp c request.height kind (packets.get i)) (.ok answer) ∧
      Accepted c kind (packets.get i) answer
  signed : ∃ message σ, Replied t [] (.sign message) (.ok σ)

theorem validateHeight_not_error {height f : UInt64} {e : AttestorError}
    (h : Completes (validateHeight boundaryAdapter height).run t (.error e))
    (hf : Replied t [] .getLastHeightAtConfiguredFinality (.ok f)) : ¬ height ≤ f := by
  rcases completes_validateHeight.mp h with ⟨e', h, -⟩ | ⟨f', t', rfl, h, hr⟩
  · rw [completes_height] at h
    subst h
    simp [Replied] at hf
  · rw [completes_height] at h
    subst h
    have hff : f = f' := by simpa [Replied] using hf
    subst hff
    intro hle
    rw [heightVerdict_ok.mpr hle] at hr
    cases hr

theorem createSingle_of_accepted {height : UInt64} {p : Packet} {kind : CommitmentType}
    {r : Except AttestorError PacketCompact} {answer : Option Bytes32}
    (h : Completes (createSinglePacketAttestation c boundaryAdapter height p kind).run t r)
    (hreply : Replied t [] (lookupOp c height kind p) (.ok answer))
    (haccepted : Accepted c kind p answer) : r = .ok (entryOf c kind p answer) := by
  rcases (completes_createSinglePacketAttestation c).mp h with
    ⟨e, h, -⟩ | ⟨answer', t', rfl, h, hr⟩
  · rw [completes_lookup] at h
    subst h
    simp [Replied, lookupOp] at hreply
  · rw [completes_lookup] at h
    subst h
    have heq : answer = answer' := by simpa [Replied, lookupOp] using hreply
    subst heq
    rw [hr]
    exact (verdict_ok c).mpr ⟨haccepted, rfl⟩

theorem createPackets_not_error {height : UInt64} {packets : List Packet} {kind : CommitmentType}
    {e : AttestorError}
    (h : Completes (createPacketsAttestation c boundaryAdapter packets height kind).run t
      (.error e)) :
    ¬ ∀ i : Fin packets.length, ∃ answer,
      Replied t [i.val] (lookupOp c height kind (packets.get i)) (.ok answer) ∧
        Accepted c kind (packets.get i) answer := by
  intro hall
  obtain ⟨-, rs, hrs, hr⟩ := (completes_createPacketsAttestation c).mp h
  have hok : ∀ i, ∃ entry, rs i = .ok entry := by
    intro i
    obtain ⟨answer, hreply, haccepted⟩ := hall i
    exact ⟨_, createSingle_of_accepted (hrs i) (replied_child.mpr hreply) haccepted⟩
  choose entries hentries using hok
  rw [mapM_id_ofFn_ok.mpr ⟨entries, rfl, hentries⟩] at hr
  cases hr

theorem validateHeight_trace {height : UInt64}
    (h : Completes (validateHeight boundaryAdapter height).run t (.ok ())) :
    ∃ f, height ≤ f ∧ t = [⟨[], .call .getLastHeightAtConfiguredFinality⟩,
      ⟨[], .reply .getLastHeightAtConfiguredFinality (.ok f)⟩,
      ⟨[], .event (.observeHeightLag (heightLag f height))⟩] := by
  obtain ⟨f, t', rfl, h, hle⟩ := completes_validateHeight_ok.mp h
  rw [completes_height] at h
  subst h
  exact ⟨f, hle, rfl⟩

theorem preparePackets_not_error {e : Status} {packets : List Packet} {kind : CommitmentType}
    (h : Completes (preparePackets c boundaryAdapter request).run t (.error e)) :
    ¬ Attestable c request t packets kind := by
  intro ha
  obtain ⟨f, hf, hle⟩ := ha.finalized
  have hdecode := (decodeRequest_ok c).mpr ⟨ha.decoded, ha.known⟩
  rcases (completes_preparePackets c).mp h with ⟨e', he', -⟩ | ⟨packets', kind', hx, h⟩
  · rw [hdecode] at he'
    cases he'
  · rw [hdecode] at hx
    cases hx
    rcases h with ⟨e', h, -⟩ | ⟨t₁, t₂, r', rfl, h₁, h₂, hr⟩
    · exact validateHeight_not_error h hf hle
    · cases r' with
      | ok u => cases hr
      | error e' =>
        apply createPackets_not_error h₂
        intro i
        obtain ⟨answer, hreply, haccepted⟩ := ha.accepted i
        obtain ⟨f', -, rfl⟩ := validateHeight_trace h₁
        refine ⟨answer, ?_, haccepted⟩
        rcases replied_append.mp hreply with hm | hm
        · simp [Replied] at hm
        · exact hm

theorem Attestable.ok {packets : List Packet} {kind : CommitmentType}
    {r : Except Status PacketAttestationResponse}
    (h : Completes (boundaryService.packetAttestation c request).run t r)
    (ha : Attestable c request t packets kind) : ∃ response, r = .ok response := by
  rw [packetAttestation_eq, completes_prepared] at h
  rcases h with ⟨e, h, -⟩ | ⟨u, t₁, t₂, r', rfl, h₁, h₂, rfl⟩
  · exact absurd ha (preparePackets_not_error h)
  · obtain ⟨message, σ, hσ⟩ := ha.signed
    have hσ₂ : Replied t₂ [] (.sign message) (.ok σ) := by
      rcases replied_append.mp hσ with hm | hm
      · exact (h₁.within (preparePackets_notSigning request) _ hm).elim
      · exact hm
    obtain rfl := completes_sign.mp h₂
    simp only [Replied, List.mem_cons, Label.mk.injEq, reduceCtorEq, and_false, false_or,
      List.not_mem_nil, or_false, true_and] at hσ₂
    cases hσ₂
    exact ⟨_, rfl⟩

/-- What a returned packet attestation says: the answers of the lookups, in request
order, under the requested height, signed as the signer answered. -/
structure Attests (c : Crates) (request : PacketAttestationRequest) (t : Trace traits Metric)
    (attestation : Attestation) (packets : List Packet) (kind : CommitmentType)
    (answers : Fin packets.length → Option Bytes32) (σ : Signature) : Prop where
  answered : ∀ i : Fin packets.length,
    Replied t [i.val] (lookupOp c request.height kind (packets.get i)) (.ok (answers i))
  accepted : ∀ i : Fin packets.length, Accepted c kind (packets.get i) (answers i)
  decodes : c.packetsAbiDecode attestation.attestedData = .ok ⟨request.height,
    List.ofFn fun i : Fin packets.length =>
      ⟨c.keccak256 (c.pathOf kind (packets.get i)), (answers i).getD Bytes32.zero⟩⟩
  signature : Replied t []
    (.sign (AttestationPayload.taggedSigningInput c ⟨.packet, attestation.attestedData⟩)) (.ok σ)
  envelope : attestation =
    ⟨request.height, none, attestation.attestedData, c.signatureAsBytes σ⟩

theorem attests_of_ok {response : PacketAttestationResponse}
    (h : Completes (boundaryService.packetAttestation c request).run t (.ok response)) :
    ∃ packets kind attestation answers σ, response = ⟨some attestation⟩ ∧
      Attestable c request t packets kind ∧
      Attests c request t attestation packets kind answers σ := by
  rw [packetAttestation_eq, completes_prepared] at h
  rcases h with ⟨e, -, h⟩ | ⟨u, t₁, t₂, r', rfl, h₁, h₂, hr⟩
  · cases h
  · obtain ⟨v, rfl⟩ := (completes_preparePackets_ok c).mp h₁
    cases r' with
    | error e => cases hr
    | ok σ =>
      cases hr
      have hsigned : Replied (t₁ ++ t₂) []
          (.sign ((packetsPayload c v.attestation).taggedSigningInput c)) (.ok σ) := by
        rw [replied_append, completes_sign.mp h₂]
        simp [Replied]
      have hanswered : ∀ i : Fin v.packets.length, Replied (t₁ ++ t₂) [i.val]
          (lookupOp c request.height v.kind (v.packets.get i)) (.ok (v.answers i)) :=
        fun i => replied_append.mpr (.inl (v.answered i))
      exact ⟨v.packets, v.kind, _, v.answers, σ, rfl,
        ⟨v.decoded, v.known, ⟨_, replied_append.mpr (.inl v.finalized_replied), v.height_le⟩,
          fun i => ⟨_, hanswered i, v.accepted i⟩, _, σ, hsigned⟩,
        ⟨hanswered, v.accepted, c.packetsAbiDecode_encode _, hsigned, rfl⟩⟩

theorem packetAttestation_lookups {o : Outcome (Except Status PacketAttestationResponse)}
    (h : Runs (boundaryService.packetAttestation c request).run t o) :
    ∀ l ∈ t, LookupsOf c request l := by
  have hsign : ∀ message, (boundarySigner.sign message).run.Within (LookupsOf c request) := by
    refine fun message => ⟨?_, fun a => ⟨?_, trivial⟩⟩
    · intro client height sequence path k h
      cases h
    · intro client height sequence path k h
      cases h
  rw [packetAttestation_eq] at h
  refine h.within (Fallible.within_bind (preparePackets_lookups request) fun u => ?_)
  exact Fallible.within_bind (signed_within (hsign _)) fun _ => trivial

/-- A packet attestation is returned exactly when everything it needs was read; its
lookups are those of its packets; and what is returned states the answers read. -/
theorem packetAttestation_contract (c : Crates) (request : PacketAttestationRequest)
    {t : Trace traits Metric} {r : Except Status PacketAttestationResponse}
    (h : Completes (boundaryService.packetAttestation c request).run t r) :
    ((∃ response, r = .ok response) ↔ ∃ packets kind, Attestable c request t packets kind) ∧
    (∀ l ∈ t, LookupsOf c request l) ∧
    ∀ response, r = .ok response → ∃ packets kind attestation answers σ,
      response = ⟨some attestation⟩ ∧ Attestable c request t packets kind ∧
        Attests c request t attestation packets kind answers σ := by
  refine ⟨⟨?_, ?_⟩, packetAttestation_lookups h, ?_⟩
  · rintro ⟨response, rfl⟩
    obtain ⟨packets, kind, -, -, -, -, ha, -⟩ := attests_of_ok h
    exact ⟨packets, kind, ha⟩
  · rintro ⟨packets, kind, ha⟩
    exact ha.ok h
  · rintro response rfl
    exact attests_of_ok h

theorem packetAttestation_contract_sample : ∃ packets kind attestation answers σ,
    Attestable sampleCrates samplePacketsRequest sampleRun packets kind ∧
      Attests sampleCrates samplePacketsRequest sampleRun attestation packets kind answers σ := by
  obtain ⟨response, h⟩ := sampleRun_completes
  obtain ⟨packets, kind, attestation, answers, σ, -, ha⟩ :=
    (packetAttestation_contract sampleCrates samplePacketsRequest h).2.2 response rfl
  exact ⟨packets, kind, attestation, answers, σ, ha⟩

end IbcAttestor
