import IbcAttestor.Adapter.Store
import IbcAttestor.Rpc.Batch
import IbcAttestor.Rpc.Value

/-!
# The three chains side by side

One store, reported by each of the three kinds of backend in its own way. The service
makes the same of it whatever the chain, but for a receipt that exists: EVM and Solana
have the service refuse the request, and the Cosmos adapter fails.
-/

namespace IbcAttestor

open Cooperative

variable (c : Crates)

/-- The replies of a run are faithful: no chain call fails, the requested height is
finalized, each lookup is answered with what is stored, and the signer answers a message
with its signature. -/
structure Faithful (a : AdapterEnum) (signer : Signer node) (store : Store)
    (signature : Bytes → Except SignerError Signature) (request : PacketAttestationRequest)
    (t : Trace node Metric) : Prop where
  noFailures : ∀ s op text, ¬ Replied t s (.chain op) (.error text)
  finalized : ∀ x, Replied t [] (.chain a.heightCall) (.ok x) →
    ∃ f, a.finalizedIn x = some f ∧ request.height ≤ f
  stored : ∀ packets kind, decodeRequest c request = .ok (packets, kind) →
    ∀ (i : Fin packets.length) x,
      Replied t [i.val] (.chain (a.lookupCall c request.height kind (packets.get i))) (.ok x) →
      Reflects (store.stored kind (packets.get i)) _ x
  signed : ∀ t₁ t₂ message r, t = t₁ ++ t₂ → Completes (signer.sign message).run t₂ r →
    r = signature message

def outcome (r : Except Status PacketAttestationResponse) : Except Code (Option Bytes) :=
  (r.mapError Status.code).map fun response => response.attestation.map Attestation.attestedData

/-- The unsigned attestation of a packet request, given the result of each lookup. -/
def prepareFrom (request : PacketAttestationRequest)
    (lookups : CommitmentType → Packet → Except AttestationAdapterError (Option Bytes32)) :
    Except Status PacketAttestation := do
  let (packets, kind) ← (decodeRequest c request).mapError Status.ofAttestorError
  let entries ← (validateInOrder c kind request.height
    (packets.map fun p => (p, lookups kind p))).mapError Status.ofAttestorError
  return ⟨request.height, entries⟩

def attestFrom (signature : Bytes → Except SignerError Signature)
    (request : PacketAttestationRequest)
    (lookups : CommitmentType → Packet → Except AttestationAdapterError (Option Bytes32)) :
    Except Status PacketAttestationResponse :=
  prepareFrom c request lookups >>= fun u =>
    (signedResult c request.height none (packetsPayload c u)
      (signature ((packetsPayload c u).taggedSigningInput c))).map fun a => ⟨some a⟩

variable {c} {retry : TokioRetry} {a : AdapterEnum} {signer : Signer node} {store : Store}
  {signature : Bytes → Except SignerError Signature} {request : PacketAttestationRequest}
  {t : Trace node Metric}

theorem Query.completes_run_noFailures {α : Type} {q : Query α}
    {r : Except AttestationAdapterError α} (h : Completes (q.run retry).run t r)
    (hno : ∀ text, ¬ Replied t [] (.chain q.op) (.error text)) :
    ∃ x, Replied t [] (.chain q.op) (.ok x) ∧ r = q.check x := by
  rcases Query.completes_run h with ⟨x, hx, -, hr⟩ | ⟨hfailures, -⟩
  · exact ⟨x, hx, hr⟩
  · rw [failures_eq_zero.mpr hno] at hfailures
    cases hfailures

namespace Faithful

variable (hf : Faithful c a signer store signature request t)
include hf

theorem validated {e : AttestorError} {t₁ : Trace node Metric} (ht : ∀ l ∈ t₁, l ∈ t)
    (h : Completes (validateHeight (a.adapter c retry) request.height).run t₁ (.error e)) :
    False := by
  have hheight : ∀ r u, (∀ l ∈ u, l ∈ t₁) →
      Completes (a.adapter c retry).getLastHeightAtConfiguredFinality.run u r →
      ∃ f, r = .ok f ∧ request.height ≤ f := by
    intro r u hu hrun
    rcases AdapterEnum.completes_height hrun with ⟨x, hx, -, rfl⟩ | ⟨hfailures, -⟩
    · exact AdapterEnum.heightQuery_check_of_told (fun op y =>
        Replied t [] (.chain op) (.ok y)) hf.finalized x (ht _ (hu _ hx))
    · have hnone : failures u [] a.heightQuery.op = 0 :=
        failures_eq_zero.mpr fun text htext => hf.noFailures _ _ text (ht _ (hu _ htext))
      rw [hnone] at hfailures
      cases hfailures
  rcases completes_validateHeight.mp h with ⟨e', he', -⟩ | ⟨f, u, rfl, hrun, hverdict⟩
  · obtain ⟨f, hf', -⟩ := hheight _ _ (fun _ hl => hl) he'
    cases hf'
  · obtain ⟨f', hf', hle⟩ := hheight _ _ (fun _ hl => List.mem_append_left _ hl) hrun
    cases hf'
    rw [heightVerdict_ok.mpr hle] at hverdict
    cases hverdict

theorem lookupResult {packets : List Packet} {kind : CommitmentType} {t₂ u : Trace node Metric}
    (hdecode : decodeRequest c request = .ok (packets, kind)) (ht : ∀ l ∈ t₂, l ∈ t)
    (i : Fin packets.length) {r : Except AttestationAdapterError (Option Bytes32)}
    (hu : ∀ l ∈ u, l ∈ childTrace i t₂)
    (h : Completes (lookup c (a.adapter c retry) request.height kind (packets.get i)).run u r) :
    r = a.lookupResult (store.stored kind (packets.get i)) (packets.get i) kind := by
  rw [AdapterEnum.lookup_eq] at h
  obtain ⟨x, hx, rfl⟩ := Query.completes_run_noFailures h fun text htext =>
    hf.noFailures _ _ _ (ht _ (replied_child.mp (hu _ htext)))
  have hstored := hf.stored packets kind hdecode i
  rw [← AdapterEnum.lookupQuery_op] at hstored
  exact AdapterEnum.check_of_reflects (store.ne_zero _ _ _)
    (hstored x (ht _ (replied_child.mp (hu _ hx))))

theorem batch {packets : List Packet} {kind : CommitmentType} {t₂ : Trace node Metric}
    {r : Except AttestorError PacketAttestation}
    (hdecode : decodeRequest c request = .ok (packets, kind)) (ht : ∀ l ∈ t₂, l ∈ t)
    (h : Completes (createPacketsAttestation c (a.adapter c retry) packets request.height kind).run
      t₂ r) :
    r = (validateInOrder c kind request.height (packets.map fun p =>
      (p, a.lookupResult (store.stored kind p) p kind))).map
        (PacketAttestation.mk request.height) := by
  obtain ⟨-, rs, hrs, rfl⟩ := (completes_createPacketsAttestation c).mp h
  have hone : ∀ i : Fin packets.length, rs i = packetResult c kind request.height (packets.get i)
      (a.lookupResult (store.stored kind (packets.get i)) (packets.get i) kind) := by
    intro i
    obtain ⟨answer, ⟨u, recorded, hchild, hrun⟩, hr⟩ := completes_createSingle_lookedUp (hrs i)
    have hanswer : answer = _ := hf.lookupResult hdecode ht i (fun l hl => by
      rw [hchild]
      exact List.mem_append_left _ hl) hrun
    rw [hr, hanswer]
  have hlist : List.ofFn rs = packets.map fun p => packetResult c kind request.height p
      (a.lookupResult (store.stored kind p) p kind) := by
    rw [funext hone, ← List.ofFn_get packets, List.map_ofFn, List.ofFn_get]
    rfl
  rw [hlist, validateInOrder_eq_mapM, List.map_map]
  rfl

theorem prepared {t₁ : Trace node Metric} {r : Except Status PacketAttestation}
    (ht : ∀ l ∈ t₁, l ∈ t)
    (h : Completes (preparePackets c (a.adapter c retry) request).run t₁ r) :
    r = prepareFrom c request fun kind p => a.lookupResult (store.stored kind p) p kind := by
  unfold prepareFrom
  rcases (completes_preparePackets c).mp h with
    ⟨e, hdecode, -, rfl⟩ | ⟨packets, kind, hdecode, ⟨e, he, -⟩ | ⟨t₂, t₃, r', rfl, -, h₃, rfl⟩⟩
  · rw [hdecode]
    rfl
  · exact (hf.validated ht he).elim
  · rw [hf.batch hdecode (fun l hl => ht l (List.mem_append_right _ hl)) h₃, hdecode]
    change _ = (Except.mapError _ (validateInOrder _ _ _ _) >>= fun entries => _)
    cases validateInOrder c kind request.height (packets.map fun p =>
      (p, a.lookupResult (store.stored kind p) p kind)) <;> rfl

/-- The result of a run with faithful replies is a function of what is stored. -/
theorem result {r : Except Status PacketAttestationResponse}
    (h : Completes (AttestorService.packetAttestation c ⟨a.adapter c retry, signer⟩ request).run
      t r) :
    r = attestFrom c signature request fun kind p =>
      a.lookupResult (store.stored kind p) p kind := by
  rw [packetAttestation_eq, completes_prepared] at h
  unfold attestFrom
  rcases h with ⟨e, he, rfl⟩ | ⟨u, t₁, t₂, r', rfl, hprepared, hsign, rfl⟩
  · rw [← hf.prepared (fun _ hl => hl) he]
    rfl
  · rw [← hf.prepared (fun _ hl => List.mem_append_left _ hl) hprepared,
      hf.signed _ _ _ _ rfl hsign]
    rfl

end Faithful

theorem attestFrom_congr
    {lookups lookups' : CommitmentType → Packet → Except AttestationAdapterError (Option Bytes32)}
    (h : ∀ packets kind, decodeRequest c request = .ok (packets, kind) →
      ∀ p ∈ packets, lookups kind p = lookups' kind p) :
    attestFrom c signature request lookups = attestFrom c signature request lookups' := by
  have hprepare : prepareFrom c request lookups = prepareFrom c request lookups' := by
    unfold prepareFrom
    cases hdecode : decodeRequest c request with
    | error e => rfl
    | ok x =>
      obtain ⟨packets, kind⟩ := x
      have hitems : (packets.map fun p => (p, lookups kind p)) =
          packets.map fun p => (p, lookups' kind p) := by
        apply List.map_congr_left
        intro p hp
        rw [h packets kind hdecode p hp]
      change (Except.mapError _ (validateInOrder _ _ _ (packets.map _)) >>= fun entries => _) = _
      rw [hitems]
      rfl
  unfold attestFrom
  rw [hprepare]

theorem outcome_refused {packets : List Packet} {code : Code}
    {lookups : CommitmentType → Packet → Except AttestationAdapterError (Option Bytes32)}
    (hdecode : decodeRequest c request = .ok (packets, .receipt))
    (habsent : ∀ p, store.stored .receipt p = none → lookups .receipt p = .ok none)
    (hexists : ∀ p w, store.stored .receipt p = some w → ∃ e,
      packetResult c .receipt request.height p (lookups .receipt p) = .error e ∧ e.code = code)
    (hstored : ∃ p ∈ packets, store.stored .receipt p ≠ none) :
    outcome (attestFrom c signature request lookups) = .error code := by
  have hrefused : ∃ e, validateInOrder c .receipt request.height
      (packets.map fun p => (p, lookups .receipt p)) = .error e ∧ e.code = code := by
    clear hdecode
    induction packets with
    | nil =>
      obtain ⟨p, hp, -⟩ := hstored
      cases hp
    | cons p packets ih =>
      rw [List.map_cons, validateInOrder]
      cases hp : store.stored .receipt p with
      | some w =>
        obtain ⟨e, he, hcode⟩ := hexists p w hp
        rw [he]
        exact ⟨e, rfl, hcode⟩
      | none =>
        have hrest : ∃ q ∈ packets, store.stored .receipt q ≠ none := by
          obtain ⟨q, hq, hne⟩ := hstored
          rcases List.mem_cons.mp hq with rfl | hq
          · exact absurd hp hne
          · exact ⟨q, hq, hne⟩
        obtain ⟨e, he, hcode⟩ := ih hrest
        rw [habsent p hp, he]
        exact ⟨e, rfl, hcode⟩
  obtain ⟨e, he, rfl⟩ := hrefused
  unfold attestFrom prepareFrom
  rw [hdecode]
  change outcome ((Except.mapError _ (validateInOrder _ _ _ _) >>= fun entries => _) >>= _) = _
  rw [he]
  rfl

section Agree

variable {evm : EvmAdapter} {solana : SolanaAdapter} {cosmos : CosmosAdapter}
  {t₁ t₂ t₃ : Trace node Metric} {r₁ r₂ r₃ : Except Status PacketAttestationResponse}

theorem Faithful.outcome_evm {packets : List Packet} {r : Except Status PacketAttestationResponse}
    (hf : Faithful c (.evm evm) signer store signature request t)
    (h : Completes (AttestorService.packetAttestation c
      ⟨(AdapterEnum.evm evm).adapter c retry, signer⟩ request).run t r)
    (hdecode : decodeRequest c request = .ok (packets, .receipt))
    (hstored : ∃ p ∈ packets, store.stored .receipt p ≠ none) :
    outcome r = .error .invalidArgument := by
  rw [hf.result h]
  apply outcome_refused hdecode (fun p hp => congrArg Except.ok hp) _ hstored
  intro p w hp
  refine ⟨receiptError c p w, ?_, rfl⟩
  change packetResult c .receipt request.height p (.ok (store.stored .receipt p)) = _
  rw [hp]
  rfl

theorem Faithful.outcome_cosmos {packets : List Packet}
    {r : Except Status PacketAttestationResponse}
    (hf : Faithful c (.cosmos cosmos) signer store signature request t)
    (h : Completes (AttestorService.packetAttestation c
      ⟨(AdapterEnum.cosmos cosmos).adapter c retry, signer⟩ request).run t r)
    (hdecode : decodeRequest c request = .ok (packets, .receipt))
    (hstored : ∃ p ∈ packets, store.stored .receipt p ≠ none) :
    outcome r = .error .internal := by
  rw [hf.result h]
  apply outcome_refused hdecode _ _ hstored
  · intro p hp
    rw [hp]
    rfl
  · intro p w hp
    rw [hp]
    exact ⟨.adapterError (CosmosAdapter.alreadyReceived p.sequence), rfl, rfl⟩

/-- EVM and Solana attest the same in any case; Cosmos does unless a receipt is stored. -/
theorem adapters_agree
    (h₁ : Completes (AttestorService.packetAttestation c
      ⟨(AdapterEnum.evm evm).adapter c retry, signer⟩ request).run t₁ r₁)
    (hf₁ : Faithful c (.evm evm) signer store signature request t₁)
    (h₂ : Completes (AttestorService.packetAttestation c
      ⟨(AdapterEnum.solana solana).adapter c retry, signer⟩ request).run t₂ r₂)
    (hf₂ : Faithful c (.solana solana) signer store signature request t₂)
    (h₃ : Completes (AttestorService.packetAttestation c
      ⟨(AdapterEnum.cosmos cosmos).adapter c retry, signer⟩ request).run t₃ r₃)
    (hf₃ : Faithful c (.cosmos cosmos) signer store signature request t₃) :
    (outcome r₁ = outcome r₂ ∧ outcome r₁ = outcome r₃ ∧ outcome r₂ = outcome r₃) ↔
      ∀ packets, decodeRequest c request = .ok (packets, .receipt) →
        ∀ p ∈ packets, store.stored .receipt p = none := by
  have hr₁₂ : r₁ = r₂ := by
    rw [hf₁.result h₁, hf₂.result h₂]
    rfl
  subst hr₁₂
  constructor
  · rintro ⟨-, hagree, -⟩ packets hdecode p hp
    by_contra hne
    have hstored : ∃ p ∈ packets, store.stored .receipt p ≠ none := ⟨p, hp, hne⟩
    have hrefused := hf₁.outcome_evm h₁ hdecode hstored
    have hfailed := hf₃.outcome_cosmos h₃ hdecode hstored
    rw [hrefused, hfailed] at hagree
    cases hagree
  · intro hnone
    have hr₁₃ : r₁ = r₃ := by
      rw [hf₁.result h₁, hf₃.result h₃]
      apply attestFrom_congr
      intro packets kind hdecode p hp
      cases kind with
      | packet => rfl
      | ack => rfl
      | receipt =>
        rw [hnone packets hdecode p hp]
        rfl
    rw [hr₁₃]
    exact ⟨rfl, rfl, rfl⟩

end Agree

/-- The answers of the chains on which the sample commitment is stored for every packet. -/
def fullChain (head : UInt64) : (op : ChainOp) → op.Val
  | .getBlock _ => some ⟨head, 1700000000⟩
  | .routerGetCommitment _ _ _ => sampleCommitment
  | .latestCommit => ⟨head, 1700000000⟩
  | .commit height => ⟨height, 1700000000⟩
  | .v2PacketCommitment _ _ _ _ => sampleCommitment.bytes
  | .v2PacketAcknowledgement _ _ _ => sampleCommitment.bytes
  | .v2PacketReceipt _ _ _ => true
  | .getSlotWithCommitment _ => head
  | .getBlockTime _ => 1700000000
  | .getAccountWithCommitment _ _ => some sampleAccount

def fullNode (head : UInt64) : Oracle node := fun _ op => match op with
  | .chain op => .ok (fullChain head op)
  | .sleep _ => ()
  | .signer op => .ok (sampleService op)

def fullStore : Store where
  get _ _ _ := some sampleCommitment
  ne_zero _ _ _ h := sampleCommitment_ne_zero (Option.some.inj h)

def localSignature (message : Bytes) : Except SignerError Signature :=
  (syncSign sampleCrates () message).mapError .localError

theorem completes_sampleLocalSigner {message : Bytes} {r : Except SignerError Signature}
    (h : Completes (sampleLocalSigner.signer.sign message).run t r) :
    r = localSignature message := by
  obtain ⟨t', rfl, h'⟩ := h.resolve_left (by simp)
  exact Outcome.finished.inj h'.2

theorem reflects_fullChain {kind : CommitmentType} {height head : UInt64} {p : Packet} :
    Reflects (fullStore.stored kind p) _
      (fullChain head (a.lookupCall sampleCrates height kind p)) := by
  cases a with
  | evm a => rfl
  | solana a => exact ⟨List.replicate 8 0, rfl, rfl⟩
  | cosmos a => cases kind <;> rfl

theorem faithful_fullNode (ha : IsSample a) (hheight : request.height ≤ 120)
    (h : AnsweredBy (fullNode 120) t) :
    Faithful sampleCrates a sampleLocalSigner.signer fullStore localSignature request t where
  noFailures s op text hreply := by
    cases h _ _ _ hreply
  finalized x hx := by
    cases h _ _ _ hx
    rcases ha with rfl | rfl | rfl <;> exact ⟨120, rfl, hheight⟩
  stored packets kind hdecode i x hx := by
    cases h _ _ _ hx
    exact reflects_fullChain
  signed t₁ t₂ message r _ hrun := completes_sampleLocalSigner hrun

theorem exists_faithful (ha : IsSample a) (hheight : request.height ≤ 120) : ∃ t r,
    Completes (AttestorService.packetAttestation sampleCrates
      ⟨a.adapter sampleCrates tokioRetry, sampleLocalSigner.signer⟩ request).run t r ∧
    Faithful sampleCrates a sampleLocalSigner.signer fullStore localSignature request t :=
  ⟨_, _, Proc.sequential_completes rfl,
    faithful_fullNode ha hheight (Proc.sequential_answeredBy _ (fullNode 120))⟩

theorem adapters_agree_sample : ∃ t₁ t₂ t₃ r₁ r₂ r₃,
    Completes (AttestorService.packetAttestation sampleCrates
      ⟨sampleEvm.adapter sampleCrates tokioRetry, sampleLocalSigner.signer⟩
      samplePacketsRequest).run t₁ r₁ ∧
    Completes (AttestorService.packetAttestation sampleCrates
      ⟨sampleSolana.adapter sampleCrates tokioRetry, sampleLocalSigner.signer⟩
      samplePacketsRequest).run t₂ r₂ ∧
    Completes (AttestorService.packetAttestation sampleCrates
      ⟨sampleCosmos.adapter sampleCrates tokioRetry, sampleLocalSigner.signer⟩
      samplePacketsRequest).run t₃ r₃ ∧
    outcome r₁ = outcome r₂ ∧ outcome r₁ = outcome r₃ ∧ outcome r₂ = outcome r₃ := by
  have hheight : samplePacketsRequest.height ≤ 120 := by decide
  obtain ⟨t₁, r₁, h₁, hf₁⟩ := @exists_faithful sampleEvm _ (.inl rfl) hheight
  obtain ⟨t₂, r₂, h₂, hf₂⟩ := @exists_faithful sampleSolana _ (.inr (.inl rfl)) hheight
  obtain ⟨t₃, r₃, h₃, hf₃⟩ := @exists_faithful sampleCosmos _ (.inr (.inr rfl)) hheight
  refine ⟨t₁, t₂, t₃, r₁, r₂, r₃, h₁, h₂, h₃,
    (adapters_agree h₁ hf₁ h₂ hf₂ h₃ hf₃).mpr fun packets hdecode => ?_⟩
  have hkind := hdecode.symm.trans (decodeRequest_sample 100)
  cases hkind

def sampleReceiptRequest : PacketAttestationRequest := ⟨[samplePacketEncoded], 100, 2⟩

theorem decodeRequest_receipt :
    decodeRequest sampleCrates sampleReceiptRequest = .ok ([samplePacket], .receipt) := by
  refine (decodeRequest_ok _).mpr ⟨mapM_ok.mpr (.cons ?_ .nil), rfl⟩
  simp [sampleCrates, sampleAbiDecode_sample, Except.mapError]

/-- The receipt of the sample packet is stored. The request is refused on EVM, and fails on
Cosmos. -/
theorem adapters_disagree : ∃ t₁ t₃ r₁ r₃,
    Completes (AttestorService.packetAttestation sampleCrates
      ⟨sampleEvm.adapter sampleCrates tokioRetry, sampleLocalSigner.signer⟩
      sampleReceiptRequest).run t₁ r₁ ∧
    Faithful sampleCrates sampleEvm sampleLocalSigner.signer fullStore localSignature
      sampleReceiptRequest t₁ ∧
    Completes (AttestorService.packetAttestation sampleCrates
      ⟨sampleCosmos.adapter sampleCrates tokioRetry, sampleLocalSigner.signer⟩
      sampleReceiptRequest).run t₃ r₃ ∧
    Faithful sampleCrates sampleCosmos sampleLocalSigner.signer fullStore localSignature
      sampleReceiptRequest t₃ ∧
    outcome r₁ = .error .invalidArgument ∧ outcome r₃ = .error .internal := by
  have hheight : sampleReceiptRequest.height ≤ 120 := by decide
  obtain ⟨t₁, r₁, h₁, hf₁⟩ := @exists_faithful sampleEvm _ (.inl rfl) hheight
  obtain ⟨t₃, r₃, h₃, hf₃⟩ := @exists_faithful sampleCosmos _ (.inr (.inr rfl)) hheight
  have hstored : ∃ p ∈ [samplePacket], fullStore.stored .receipt p ≠ none :=
    ⟨samplePacket, by simp, by simp [fullStore, Store.stored]⟩
  exact ⟨t₁, t₃, r₁, r₃, h₁, hf₁, h₃, hf₃, hf₁.outcome_evm h₁ decodeRequest_receipt hstored,
    hf₃.outcome_cosmos h₃ decodeRequest_receipt hstored⟩

end IbcAttestor
