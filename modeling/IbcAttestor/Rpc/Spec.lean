import IbcAttestor.Cooperative.Collect
import IbcAttestor.Rpc.Attestor

/-!
# What the service functions do

One specification per function, for any adapter: the runs of the function in
terms of the runs of the adapter's methods. A single packet is looked up once;
what its handler makes of the answer is a pure function, `verdict`.
-/

namespace IbcAttestor

open Cooperative

variable (c : Crates) {I : Interface} {A : AttestationAdapter I}

def lookup (A : AttestationAdapter I) (height : UInt64) (kind : CommitmentType) (p : Packet) :
    Fallible I Metric AttestationAdapterError (Option Bytes32) :=
  A.getCommitment (Crates.storeClient kind p) height p.sequence (c.pathOf kind p) kind

def mismatchError (p : Packet) (commitment : Bytes32) : AttestorError :=
  let expected := c.hexEncode (c.commitment p)
  let actual := c.hexEncode commitment.bytes
  .invalidCommitment (s!"Packet commitment mismatch for client_id={p.sourceClient} " ++
    s!"seq={p.sequence}: expected 0x{expected}, got 0x{actual}")

def receiptError (p : Packet) (commitment : Bytes32) : AttestorError :=
  let actual := c.hexEncode commitment.bytes
  .invalidCommitment (s!"Receipt commitment should be zero for client_id={p.destClient} " ++
    s!"seq={p.sequence}: got 0x{actual}")

/-- The result for a packet whose lookup answered. -/
def verdict (kind : CommitmentType) (height : UInt64) (p : Packet) :
    Option Bytes32 → Except AttestorError PacketCompact
  | none => match kind with
    | .receipt => .ok ⟨c.keccak256 (c.pathOf kind p), Bytes32.zero⟩
    | _ => .error (.commitmentNotFound (Crates.storeClient kind p) p.sequence height)
  | some commitment => match kind with
    | .packet =>
      if c.commitment p = commitment.bytes then
        .ok ⟨c.keccak256 (c.pathOf kind p), commitment⟩
      else .error (mismatchError c p commitment)
    | .ack => .ok ⟨c.keccak256 (c.pathOf kind p), commitment⟩
    | .receipt => .error (receiptError c p commitment)

/-- The failure counted with a verdict. -/
def verdictMetrics (kind : CommitmentType) (p : Packet) : Option Bytes32 → List Metric
  | none => match kind with
    | .receipt => []
    | _ => [.incCommitmentFailure "not_found"]
  | some commitment => match kind with
    | .packet =>
      if c.commitment p = commitment.bytes then [] else [.incCommitmentFailure "mismatch"]
    | .ack => []
    | .receipt => [.incCommitmentFailure "unexpected_receipt"]

/-- The answer a packet of each kind needs. -/
def Accepted (kind : CommitmentType) (p : Packet) (answer : Option Bytes32) : Prop :=
  match kind with
  | .packet => ∃ commitment, answer = some commitment ∧ c.commitment p = commitment.bytes
  | .ack => ∃ commitment, answer = some commitment
  | .receipt => answer = none

/-- The entry attested for an accepted answer; absence is attested as zero. -/
def entryOf (kind : CommitmentType) (p : Packet) (answer : Option Bytes32) : PacketCompact :=
  ⟨c.keccak256 (c.pathOf kind p), answer.getD Bytes32.zero⟩

theorem verdict_ok {kind : CommitmentType} {height : UInt64} {p : Packet}
    {answer : Option Bytes32} {entry : PacketCompact} :
    verdict c kind height p answer = .ok entry ↔
      Accepted c kind p answer ∧ entry = entryOf c kind p answer := by
  cases kind <;> cases answer <;>
    simp only [verdict, Accepted, entryOf, Option.getD, Except.ok.injEq, reduceCtorEq,
      Option.some.injEq, false_and, exists_false, true_and, exists_eq', @eq_comm _ entry]
  split_ifs with h
  · simp [h, eq_comm]
  · simp only [false_iff, not_and]
    rintro ⟨w, rfl, hw⟩
    exact absurd hw h

theorem verdictMetrics_eq_nil {kind : CommitmentType} {p : Packet} {answer : Option Bytes32}
    (h : Accepted c kind p answer) : verdictMetrics c kind p answer = [] := by
  cases kind
  · obtain ⟨w, rfl, hw⟩ := h
    simp [verdictMetrics, hw]
  · obtain ⟨w, rfl⟩ := h
    rfl
  · cases h
    rfl

theorem createSinglePacketAttestation_eq (height : UInt64) (p : Packet) (kind : CommitmentType) :
    createSinglePacketAttestation c A height p kind =
      (lookup c A height kind p).mapErr AttestorError.adapterError >>= fun answer =>
        Fallible.report (verdictMetrics c kind p answer) (verdict c kind height p answer) := by
  cases kind
  · change (_ >>= _) = (_ >>= _)
    congr 1
    funext answer
    cases answer with
    | none => rfl
    | some w =>
      simp only [verdict, verdictMetrics]
      split_ifs <;> rfl
  · change (_ >>= _) = (_ >>= _)
    congr 1
    funext answer
    cases answer <;> rfl
  · change (_ >>= _) = (_ >>= _)
    congr 1
    funext answer
    cases answer <;> rfl

theorem completes_createSinglePacketAttestation {height : UInt64} {p : Packet}
    {kind : CommitmentType} {t : Trace I Metric} {r : Except AttestorError PacketCompact} :
    Completes (createSinglePacketAttestation c A height p kind).run t r ↔
      (∃ e, Completes (lookup c A height kind p).run t (.error e) ∧ r = .error (.adapterError e)) ∨
      ∃ answer t₁, t = t₁ ++ (verdictMetrics c kind p answer).map (fun e => ⟨[], .event e⟩) ∧
        Completes (lookup c A height kind p).run t₁ (.ok answer) ∧
        r = verdict c kind height p answer := by
  rw [createSinglePacketAttestation_eq, completes_ask]

/-- Whether the requested height is finalized. -/
def heightVerdict (finalized height : UInt64) : Except AttestorError Unit :=
  if height > finalized then .error .blockNotFinalized else .ok ()

def heightMetrics (finalized height : UInt64) : List Metric :=
  if height > finalized then [.observeHeightLag (heightLag finalized height), .incHeightRejections]
  else [.observeHeightLag (heightLag finalized height)]

theorem heightVerdict_ok {finalized height : UInt64} :
    heightVerdict finalized height = .ok () ↔ height ≤ finalized := by
  unfold heightVerdict
  split_ifs with h
  · simpa using h
  · simpa using h

theorem validateHeight_eq (height : UInt64) :
    validateHeight A height =
      A.getLastHeightAtConfiguredFinality.mapErr AttestorError.adapterError >>= fun finalized =>
        Fallible.report (heightMetrics finalized height) (heightVerdict finalized height) := by
  unfold validateHeight
  congr 1
  funext finalized
  unfold heightMetrics heightVerdict
  split_ifs <;> rfl

theorem completes_validateHeight {height : UInt64} {t : Trace I Metric}
    {r : Except AttestorError Unit} :
    Completes (validateHeight A height).run t r ↔
      (∃ e, Completes A.getLastHeightAtConfiguredFinality.run t (.error e) ∧
        r = .error (.adapterError e)) ∨
      ∃ f t₁, t = t₁ ++ (heightMetrics f height).map (fun e => ⟨[], .event e⟩) ∧
        Completes A.getLastHeightAtConfiguredFinality.run t₁ (.ok f) ∧
        r = heightVerdict f height := by
  rw [validateHeight_eq, completes_ask]

theorem completes_createPacketsAttestation {packets : List Packet} {height : UInt64}
    {kind : CommitmentType} {t : Trace I Metric} {r : Except AttestorError PacketAttestation} :
    Completes (createPacketsAttestation c A packets height kind).run t r ↔
      InChildren packets.length t ∧ ∃ rs : Fin packets.length → Except AttestorError PacketCompact,
        (∀ i : Fin packets.length,
          Completes (createSinglePacketAttestation c A height (packets.get i) kind).run
            (childTrace i t) (rs i)) ∧
        r = ((List.ofFn rs).mapM id).map (PacketAttestation.mk height) := by
  unfold createPacketsAttestation
  rw [completes_bindOk]
  simp only [completes_gather]
  constructor
  · rintro (⟨e, ⟨-, rs, -, h⟩, -⟩ | ⟨_, t₁, t₂, rfl, ⟨ht, rs, hc, h⟩, h₂⟩)
    · cases h
    · cases h
      have h₂ : t₂ = [] ∧ r = ((List.ofFn rs).mapM id).map (PacketAttestation.mk height) := by
        cases hm : (List.ofFn rs).mapM id with
        | error e =>
          rw [hm] at h₂
          obtain ⟨rfl, h₂⟩ := h₂
          exact ⟨rfl, Outcome.finished.inj h₂⟩
        | ok es =>
          rw [hm] at h₂
          obtain ⟨rfl, h₂⟩ := h₂
          exact ⟨rfl, Outcome.finished.inj h₂⟩
      obtain ⟨rfl, rfl⟩ := h₂
      rw [List.append_nil]
      exact ⟨ht, rs, hc, rfl⟩
  · rintro ⟨ht, rs, hc, rfl⟩
    refine .inr ⟨_, t, [], by simp, ⟨ht, rs, hc, rfl⟩, ?_⟩
    cases (List.ofFn rs).mapM id <;> exact ⟨rfl, rfl⟩

theorem completes_createPacketsAttestation_ok {packets : List Packet} {height : UInt64}
    {kind : CommitmentType} {t : Trace I Metric} {u : PacketAttestation} :
    Completes (createPacketsAttestation c A packets height kind).run t (.ok u) ↔
      InChildren packets.length t ∧ ∃ answers : Fin packets.length → Option Bytes32,
        (∀ i : Fin packets.length,
          Completes (lookup c A height kind (packets.get i)).run (childTrace i t) (.ok (answers i)) ∧
          Accepted c kind (packets.get i) (answers i)) ∧
        u = ⟨height, List.ofFn fun i => entryOf c kind (packets.get i) (answers i)⟩ := by
  rw [completes_createPacketsAttestation]
  apply and_congr_right'
  constructor
  · rintro ⟨rs, hc, hu⟩
    cases hm : (List.ofFn rs).mapM id with
    | error e =>
      rw [hm] at hu
      cases hu
    | ok es =>
      rw [hm] at hu
      cases hu
      obtain ⟨bs, rfl, hbs⟩ := mapM_id_ofFn_ok.mp hm
      have hone : ∀ i : Fin packets.length, ∃ answer,
          Completes (lookup c A height kind (packets.get i)).run (childTrace i t) (.ok answer) ∧
          Accepted c kind (packets.get i) answer ∧ bs i = entryOf c kind (packets.get i) answer := by
        intro i
        have hi := hc i
        rw [hbs i, completes_createSinglePacketAttestation] at hi
        rcases hi with ⟨e, -, h⟩ | ⟨answer, t₁, ht, hl, hv⟩
        · cases h
        · obtain ⟨hacc, hentry⟩ := (verdict_ok c).mp hv.symm
          rw [verdictMetrics_eq_nil c hacc, List.map_nil, List.append_nil] at ht
          exact ⟨answer, ht ▸ hl, hacc, hentry⟩
      choose answers hl hacc hentry using hone
      refine ⟨answers, fun i => ⟨hl i, hacc i⟩, ?_⟩
      rw [← funext hentry]
  · rintro ⟨answers, h, rfl⟩
    refine ⟨fun i => .ok (entryOf c kind (packets.get i) (answers i)), fun i => ?_, ?_⟩
    · refine (completes_createSinglePacketAttestation c).mpr (.inr ⟨answers i, _, ?_, (h i).1, ?_⟩)
      · rw [verdictMetrics_eq_nil c (h i).2, List.map_nil, List.append_nil]
      · exact ((verdict_ok c).mpr ⟨(h i).2, rfl⟩).symm
    · rw [mapM_id_ofFn_ok.mpr ⟨_, rfl, fun _ => rfl⟩]
      rfl

theorem completes_validateHeight_ok {height : UInt64} {t : Trace I Metric} :
    Completes (validateHeight A height).run t (.ok ()) ↔
      ∃ f t₁, t = t₁ ++ [⟨[], .event (.observeHeightLag (heightLag f height))⟩] ∧
        Completes A.getLastHeightAtConfiguredFinality.run t₁ (.ok f) ∧ height ≤ f := by
  rw [completes_validateHeight]
  constructor
  · rintro (⟨e, -, h⟩ | ⟨f, t₁, rfl, h, hf⟩)
    · cases h
    · have hle := heightVerdict_ok.mp hf.symm
      refine ⟨f, t₁, ?_, h, hle⟩
      simp [heightMetrics, UInt64.not_lt.mpr hle]
  · rintro ⟨f, t₁, rfl, h, hle⟩
    refine .inr ⟨f, t₁, ?_, h, (heightVerdict_ok.mpr hle).symm⟩
    simp [heightMetrics, UInt64.not_lt.mpr hle]

def prepareState (A : AttestationAdapter I) (request : StateAttestationRequest) :
    Fallible I Metric Status StateAttestation := do
  (validateHeight A request.height).mapErr Status.ofAttestorError
  let timestamp ← (A.getBlockTimestamp request.height).mapErr fun e =>
    Status.ofAttestorError (.adapterError e)
  return ⟨request.height, timestamp⟩

def preparePackets (A : AttestationAdapter I) (request : PacketAttestationRequest) :
    Fallible I Metric Status PacketAttestation := do
  let packets ← (Fallible.ofExcept (Packets.tryFromAbiEncoded c request.packets)).mapErr
    Status.ofAttestorError
  let kind ← (Fallible.ofExcept (CommitmentType.tryFrom request.commitmentType)).mapErr
    fun e => Status.ofAttestorError (.malformedCommitmentError e)
  (validateHeight A request.height).mapErr Status.ofAttestorError
  (createPacketsAttestation c A packets request.height kind).mapErr Status.ofAttestorError

/-- The signing half of both RPCs. -/
def signed (S : Signer I) (height : UInt64) (timestamp : Option UInt64)
    (payload : AttestationPayload) : Fallible I Metric Status Attestation := do
  let attestation ← (signAttestation c height timestamp payload S).mapErr Status.ofAttestorError
  return AttestorService.attestationOf attestation

def statePayload (u : StateAttestation) : AttestationPayload :=
  .new (c.stateAbiEncode u) .state

def packetsPayload (u : PacketAttestation) : AttestationPayload :=
  .new (c.packetsAbiEncode u) .packet

variable {service : AttestorService I}

theorem stateAttestation_eq (request : StateAttestationRequest) :
    service.stateAttestation c request =
      prepareState service.adapter request >>= fun u =>
        signed c service.signer request.height (some u.timestamp) (statePayload c u) >>= fun a =>
          return ⟨some a⟩ := by
  simp only [AttestorService.stateAttestation, prepareState, signed, bind_assoc, pure_bind]
  rfl

theorem packetAttestation_eq (request : PacketAttestationRequest) :
    service.packetAttestation c request =
      preparePackets c service.adapter request >>= fun u =>
        signed c service.signer request.height none (packetsPayload c u) >>= fun a =>
          return ⟨some a⟩ := by
  simp only [AttestorService.packetAttestation, preparePackets, signed, bind_assoc, pure_bind]
  rfl

theorem serve_stateAttestation (request : StateAttestationRequest) :
    service.serve c (.stateAttestation request) =
      prepareState service.adapter request >>= fun u =>
        signed c service.signer request.height (some u.timestamp) (statePayload c u) >>= fun a =>
          return .stateAttestation ⟨some a⟩ := by
  simp only [AttestorService.serve, stateAttestation_eq, bind_assoc, pure_bind]

theorem serve_packetAttestation (request : PacketAttestationRequest) :
    service.serve c (.packetAttestation request) =
      preparePackets c service.adapter request >>= fun u =>
        signed c service.signer request.height none (packetsPayload c u) >>= fun a =>
          return .packetAttestation ⟨some a⟩ := by
  simp only [AttestorService.serve, packetAttestation_eq, bind_assoc, pure_bind]

/-- What the signing half makes of the signer's result. -/
def signedResult (height : UInt64) (timestamp : Option UInt64) (payload : AttestationPayload) :
    Except SignerError Signature → Except Status Attestation
  | .ok σ => .ok ⟨height, timestamp, payload.data, c.signatureAsBytes σ⟩
  | .error e => .error (.ofAttestorError (.signerError e.toString))

theorem runs_signed {S : Signer I} {height : UInt64} {timestamp : Option UInt64}
    {payload : AttestationPayload} {t : Trace I Metric} {o : Outcome (Except Status Attestation)} :
    Runs (signed c S height timestamp payload).run t o ↔
      ∃ o', Runs (S.sign (payload.taggedSigningInput c)).run t o' ∧
        o = o'.map (signedResult c height timestamp payload) := by
  have hbind : (signed c S height timestamp payload).run =
      (S.sign (payload.taggedSigningInput c)).run.bind fun r =>
        .done (signedResult c height timestamp payload r) := by
    change Proc.bind (Proc.bind (Proc.bind (Proc.bind (S.sign _).run _) _) _) _ = _
    simp only [Proc.bind_assoc]
    congr 1
    funext r
    cases r <;> rfl
  rw [hbind, runs_map]

/-- An RPC that prepares `u` and then has the payload of `u` signed. -/
theorem runs_prepared {υ ρ : Type} {S : Signer I} {x : Fallible I Metric Status υ}
    {height : UInt64} {timestamp : υ → Option UInt64} {payload : υ → AttestationPayload}
    {wrap : Attestation → ρ} {t : Trace I Metric} {o : Outcome (Except Status ρ)} :
    Runs (x >>= fun u => signed c S height (timestamp u) (payload u) >>= fun a =>
        return wrap a).run t o ↔
      (∃ s, Runs x.run t (.pending s) ∧ o = .pending s) ∨
      (∃ e, Completes x.run t (.error e) ∧ o = .finished (.error e)) ∨
      ∃ u t₁ t₂ o', t = t₁ ++ t₂ ∧ Completes x.run t₁ (.ok u) ∧
        Runs (S.sign ((payload u).taggedSigningInput c)).run t₂ o' ∧
        o = o'.map fun r => (signedResult c height (timestamp u) (payload u) r).map wrap := by
  rw [runs_bindOk]
  refine or_congr_right (or_congr_right ?_)
  have hmap : ∀ u (o' : Outcome (Except SignerError Signature)),
      (o'.map (signedResult c height (timestamp u) (payload u))).map (Except.map wrap) =
        o'.map fun r => (signedResult c height (timestamp u) (payload u) r).map wrap := by
    intro u o'
    cases o' <;> rfl
  simp only [runs_mapOk, runs_signed]
  constructor
  · rintro ⟨u, t₁, t₂, rfl, h₁, _, ⟨o', h₂, rfl⟩, rfl⟩
    exact ⟨u, t₁, t₂, o', rfl, h₁, h₂, hmap u o'⟩
  · rintro ⟨u, t₁, t₂, o', rfl, h₁, h₂, rfl⟩
    exact ⟨u, t₁, t₂, rfl, h₁, _, ⟨o', h₂, rfl⟩, (hmap u o').symm⟩

theorem completes_prepared {υ ρ : Type} {S : Signer I} {x : Fallible I Metric Status υ}
    {height : UInt64} {timestamp : υ → Option UInt64} {payload : υ → AttestationPayload}
    {wrap : Attestation → ρ} {t : Trace I Metric} {r : Except Status ρ} :
    Completes (x >>= fun u => signed c S height (timestamp u) (payload u) >>= fun a =>
        return wrap a).run t r ↔
      (∃ e, Completes x.run t (.error e) ∧ r = .error e) ∨
      ∃ u t₁ t₂ r', t = t₁ ++ t₂ ∧ Completes x.run t₁ (.ok u) ∧
        Completes (S.sign ((payload u).taggedSigningInput c)).run t₂ r' ∧
        r = (signedResult c height (timestamp u) (payload u) r').map wrap := by
  rw [Completes, runs_prepared]
  constructor
  · rintro (⟨s, -, h⟩ | ⟨e, h, hr⟩ | ⟨u, t₁, t₂, o', rfl, h₁, h₂, hr⟩)
    · cases h
    · exact .inl ⟨e, h, Outcome.finished.inj hr⟩
    · cases o' with
      | pending s => cases hr
      | finished r' => exact .inr ⟨u, t₁, t₂, r', rfl, h₁, h₂, Outcome.finished.inj hr⟩
  · rintro (⟨e, h, rfl⟩ | ⟨u, t₁, t₂, r', rfl, h₁, h₂, rfl⟩)
    · exact .inr (.inl ⟨e, h, rfl⟩)
    · exact .inr (.inr ⟨u, t₁, t₂, .finished r', rfl, h₁, h₂, rfl⟩)

/-- A returned attestation: what was prepared, and the signature of its payload. -/
theorem completes_prepared_ok {υ ρ : Type} {S : Signer I} {x : Fallible I Metric Status υ}
    {height : UInt64} {timestamp : υ → Option UInt64} {payload : υ → AttestationPayload}
    {wrap : Attestation → ρ} {t : Trace I Metric} {response : ρ}
    (h : Completes (x >>= fun u => signed c S height (timestamp u) (payload u) >>= fun a =>
      return wrap a).run t (.ok response)) :
    ∃ u t₁ t₂ σ, t = t₁ ++ t₂ ∧ Completes x.run t₁ (.ok u) ∧
      Completes (S.sign ((payload u).taggedSigningInput c)).run t₂ (.ok σ) ∧
      response = wrap ⟨height, timestamp u, (payload u).data, c.signatureAsBytes σ⟩ := by
  rcases (completes_prepared c).mp h with ⟨e, -, he⟩ | ⟨u, t₁, t₂, r, rfl, h₁, h₂, hr⟩
  · cases he
  · cases r with
    | error e => cases hr
    | ok σ =>
      cases hr
      exact ⟨u, t₁, t₂, σ, rfl, h₁, h₂, rfl⟩

/-- A run that has prepared a state attestation: what it read, and when. -/
structure StateRead (A : AttestationAdapter I) (request : StateAttestationRequest)
    (t : Trace I Metric) (u : StateAttestation) : Prop where
  height_eq : u.height = request.height
  read : ∃ finalized t₁ t₂,
    t = t₁ ++ ⟨[], .event (.observeHeightLag (heightLag finalized request.height))⟩ :: t₂ ∧
    Completes A.getLastHeightAtConfiguredFinality.run t₁ (.ok finalized) ∧
    request.height ≤ finalized ∧
    Completes (A.getBlockTimestamp request.height).run t₂ (.ok u.timestamp)

theorem completes_prepareState_ok {request : StateAttestationRequest} {t : Trace I Metric}
    {u : StateAttestation} :
    Completes (prepareState A request).run t (.ok u) ↔ StateRead A request t u := by
  have hrun : Completes (prepareState A request).run t (.ok u) ↔
      ∃ t₁ t₂ timestamp, t = t₁ ++ t₂ ∧
        Completes (validateHeight A request.height).run t₁ (.ok ()) ∧
        Completes (A.getBlockTimestamp request.height).run t₂ (.ok timestamp) ∧
        u = ⟨request.height, timestamp⟩ := by
    unfold prepareState
    simp only [completes_bindOk, completes_mapErr_ok, reduceCtorEq, and_false, exists_false,
      false_or]
    constructor
    · rintro ⟨⟨⟩, t₁, _, rfl, h₁, timestamp, t₂, _, rfl, h₂, rfl, h₃⟩
      cases h₃
      exact ⟨t₁, t₂, timestamp, by simp, h₁, h₂, rfl⟩
    · rintro ⟨t₁, t₂, timestamp, rfl, h₁, h₂, rfl⟩
      exact ⟨(), t₁, t₂, rfl, h₁, timestamp, t₂, [], by simp, h₂, rfl, rfl⟩
  rw [hrun]
  simp only [completes_validateHeight_ok]
  constructor
  · rintro ⟨_, t₂, timestamp, rfl, ⟨f, t₁, rfl, hf, hle⟩, h₂, rfl⟩
    exact ⟨rfl, f, t₁, t₂, by simp, hf, hle, h₂⟩
  · rintro ⟨hh, f, t₁, t₂, rfl, hf, hle, h₂⟩
    refine ⟨_, t₂, u.timestamp, ?_, ⟨f, t₁, rfl, hf, hle⟩, h₂, ?_⟩
    · simp
    · rw [← hh]

/-- A run that has prepared a packet attestation: what was decoded and read, in
which part of the run, and what each packet's lookup answered. -/
structure PacketsRead (A : AttestationAdapter I) (request : PacketAttestationRequest)
    (t : Trace I Metric) where
  packets : List Packet
  kind : CommitmentType
  finalized : UInt64
  answers : Fin packets.length → Option Bytes32
  heightTrace : Trace I Metric
  lookupTrace : Trace I Metric
  decoded : Packets.tryFromAbiEncoded c request.packets = .ok packets
  known : CommitmentType.tryFrom request.commitmentType = .ok kind
  trace_eq : t = heightTrace ++
    ⟨[], .event (.observeHeightLag (heightLag finalized request.height))⟩ :: lookupTrace
  read : Completes A.getLastHeightAtConfiguredFinality.run heightTrace (.ok finalized)
  height_le : request.height ≤ finalized
  inChildren : InChildren packets.length lookupTrace
  lookedUp : ∀ i : Fin packets.length,
    Completes (lookup c A request.height kind (packets.get i)).run (childTrace i lookupTrace)
      (.ok (answers i))
  accepted : ∀ i : Fin packets.length, Accepted c kind (packets.get i) (answers i)

namespace PacketsRead

variable {c}
variable {request : PacketAttestationRequest} {t : Trace I Metric} (v : PacketsRead c A request t)

def entries : List PacketCompact :=
  List.ofFn fun i : Fin v.packets.length => entryOf c v.kind (v.packets.get i) (v.answers i)

def attestation : PacketAttestation := ⟨request.height, v.entries⟩

@[simp] theorem length_entries : v.entries.length = v.packets.length := by simp [entries]

theorem forall₂_entries {R : Packet → PacketCompact → Prop} :
    List.Forall₂ R v.packets v.entries ↔ ∀ i : Fin v.packets.length,
      R (v.packets.get i) (entryOf c v.kind (v.packets.get i) (v.answers i)) := by
  rw [List.forall₂_iff_get]
  constructor
  · rintro ⟨-, h⟩ i
    simpa [entries] using h i.val i.isLt (by simp)
  · intro h
    refine ⟨v.length_entries.symm, fun i hi hi' => ?_⟩
    simpa [entries] using h ⟨i, hi⟩

theorem mem_of_mem_heightTrace {l : Label I Metric} (hl : l ∈ v.heightTrace) : l ∈ t := by
  rw [v.trace_eq]
  exact List.mem_append_left _ hl

theorem mem_lookupTrace {l : Label I Metric} (hheight : ∀ l' ∈ v.heightTrace, l'.site = [])
    (hl : l ∈ t) (hsite : l.site ≠ []) : l ∈ v.lookupTrace := by
  have ht := (congrArg (fun w => l ∈ w) v.trace_eq).mp hl
  rcases List.mem_append.mp ht with ht | ht
  · exact absurd (hheight l ht) hsite
  · rcases List.mem_cons.mp ht with rfl | ht
    · exact absurd rfl hsite
    · exact ht

theorem mem_of_mem_lookupTrace {l : Label I Metric} (hl : l ∈ v.lookupTrace) : l ∈ t := by
  rw [v.trace_eq]
  exact List.mem_append_right _ (List.mem_cons_of_mem _ hl)

end PacketsRead

/-- The part of a packet request that is checked before any call. -/
def decodeRequest (request : PacketAttestationRequest) :
    Except AttestorError (List Packet × CommitmentType) := do
  let packets ← Packets.tryFromAbiEncoded c request.packets
  let kind ← (CommitmentType.tryFrom request.commitmentType).mapError
    AttestorError.malformedCommitmentError
  return (packets, kind)

theorem decodeRequest_ok {request : PacketAttestationRequest} {packets : List Packet}
    {kind : CommitmentType} :
    decodeRequest c request = .ok (packets, kind) ↔
      Packets.tryFromAbiEncoded c request.packets = .ok packets ∧
        CommitmentType.tryFrom request.commitmentType = .ok kind := by
  unfold decodeRequest
  cases Packets.tryFromAbiEncoded c request.packets with
  | error e => simp [bind, Except.bind]
  | ok ps =>
    cases CommitmentType.tryFrom request.commitmentType <;>
      simp [bind, Except.bind, Except.mapError, pure, Except.pure]

/-- A request is refused for one of its packets, or else for its commitment type. -/
theorem decodeRequest_error {request : PacketAttestationRequest} {e : AttestorError}
    (h : decodeRequest c request = .error e) :
    (∃ p ∈ request.packets, ∃ reason, c.packetAbiDecode p = .error reason ∧ e = .abiError reason) ∨
      ∃ packets value, Packets.tryFromAbiEncoded c request.packets = .ok packets ∧
        CommitmentType.tryFrom request.commitmentType = .error value ∧
        e = .malformedCommitmentError value := by
  unfold decodeRequest at h
  cases hp : Packets.tryFromAbiEncoded c request.packets with
  | error e' =>
    rw [hp] at h
    obtain ⟨p, hmem, hp⟩ := mapM_error hp
    cases h
    cases hdecode : c.packetAbiDecode p with
    | error reason =>
      rw [hdecode] at hp
      cases hp
      exact .inl ⟨p, hmem, reason, hdecode, rfl⟩
    | ok packet =>
      rw [hdecode] at hp
      cases hp
  | ok packets =>
    rw [hp] at h
    cases hk : CommitmentType.tryFrom request.commitmentType with
    | error value =>
      rw [hk] at h
      cases h
      exact .inr ⟨packets, value, rfl, rfl, rfl⟩
    | ok kind =>
      rw [hk] at h
      cases h

theorem preparePackets_eq (request : PacketAttestationRequest) :
    preparePackets c A request =
      (Fallible.ofExcept (decodeRequest c request)).mapErr Status.ofAttestorError >>= fun x =>
        (validateHeight A request.height).mapErr Status.ofAttestorError >>= fun _ =>
          (createPacketsAttestation c A x.1 request.height x.2).mapErr Status.ofAttestorError := by
  unfold preparePackets decodeRequest
  cases Packets.tryFromAbiEncoded c request.packets with
  | error e => rfl
  | ok ps => cases CommitmentType.tryFrom request.commitmentType <;> rfl

theorem completes_preparePackets {request : PacketAttestationRequest} {t : Trace I Metric}
    {r : Except Status PacketAttestation} :
    Completes (preparePackets c A request).run t r ↔
      (∃ e, decodeRequest c request = .error e ∧ t = [] ∧ r = .error (.ofAttestorError e)) ∨
      ∃ packets kind, decodeRequest c request = .ok (packets, kind) ∧
        ((∃ e, Completes (validateHeight A request.height).run t (.error e) ∧
          r = .error (.ofAttestorError e)) ∨
        ∃ t₁ t₂ r', t = t₁ ++ t₂ ∧ Completes (validateHeight A request.height).run t₁ (.ok ()) ∧
          Completes (createPacketsAttestation c A packets request.height kind).run t₂ r' ∧
          r = r'.mapError Status.ofAttestorError) := by
  rw [preparePackets_eq]
  cases hx : decodeRequest c request with
  | error e =>
    simp only [Except.error.injEq, exists_eq_left', reduceCtorEq, false_and, exists_false, or_false]
    exact runs_throw.trans (and_congr_right' (by simp))
  | ok x =>
    obtain ⟨packets, kind⟩ := x
    change Completes ((validateHeight A request.height).mapErr Status.ofAttestorError >>= fun _ =>
      (createPacketsAttestation c A packets request.height kind).mapErr
        Status.ofAttestorError).run t r ↔ _
    rw [completes_bindOk]
    constructor
    · rintro (⟨e, he, rfl⟩ | ⟨⟨⟩, t₁, t₂, rfl, h₁, h₂⟩)
      · obtain ⟨e', he', rfl⟩ := completes_mapErr_error.mp he
        exact .inr ⟨packets, kind, rfl, .inl ⟨e', he', rfl⟩⟩
      · obtain ⟨r', h', rfl⟩ := completes_mapErr.mp h₂
        exact .inr ⟨packets, kind, rfl,
          .inr ⟨t₁, t₂, r', rfl, completes_mapErr_ok.mp h₁, h', rfl⟩⟩
    · rintro (⟨e, he, -⟩ | ⟨_, _, hx', ⟨e, he, rfl⟩ | ⟨t₁, t₂, r', rfl, h₁, h₂, rfl⟩⟩)
      · cases he
      · exact .inl ⟨_, completes_mapErr_error.mpr ⟨e, he, rfl⟩, rfl⟩
      · cases hx'
        exact .inr ⟨(), t₁, t₂, rfl, completes_mapErr_ok.mpr h₁,
          completes_mapErr.mpr ⟨r', h₂, rfl⟩⟩

theorem completes_preparePackets_ok {request : PacketAttestationRequest} {t : Trace I Metric}
    {u : PacketAttestation} :
    Completes (preparePackets c A request).run t (.ok u) ↔
      ∃ v : PacketsRead c A request t, u = v.attestation := by
  rw [completes_preparePackets]
  constructor
  · rintro (⟨e, -, -, h⟩ | ⟨packets, kind, hx, ⟨e, -, h⟩ | ⟨_, t₂, r', rfl, h₁, h₂, h⟩⟩)
    · cases h
    · cases h
    · cases r' with
      | error e => cases h
      | ok w =>
        cases h
        obtain ⟨hp, hk⟩ := (decodeRequest_ok c).mp hx
        obtain ⟨f, t₁, rfl, hf, hle⟩ := completes_validateHeight_ok.mp h₁
        obtain ⟨hin, answers, hl, rfl⟩ := (completes_createPacketsAttestation_ok c).mp h₂
        exact ⟨⟨packets, kind, f, answers, t₁, t₂, hp, hk, by simp, hf, hle, hin,
          fun i => (hl i).1, fun i => (hl i).2⟩, rfl⟩
  · rintro ⟨v, rfl⟩
    refine .inr ⟨v.packets, v.kind, (decodeRequest_ok c).mpr ⟨v.decoded, v.known⟩, .inr
      ⟨_, v.lookupTrace, .ok v.attestation, ?_,
        completes_validateHeight_ok.mpr ⟨v.finalized, v.heightTrace, rfl, v.read, v.height_le⟩,
        (completes_createPacketsAttestation_ok c).mpr
          ⟨v.inChildren, v.answers, fun i => ⟨v.lookedUp i, v.accepted i⟩, rfl⟩, rfl⟩⟩
    simpa using v.trace_eq

def RpcResponse.attestation : RpcResponse → Option Attestation
  | .latestHeight _ => none
  | .stateAttestation response => response.attestation
  | .packetAttestation response => response.attestation

/-- The attestation `a` was returned for a request. -/
def Attested (service : AttestorService I) (request : RpcRequest) (t : Trace I Metric)
    (a : Attestation) : Prop :=
  ∃ response, Completes (service.serve c request).run t (.ok response) ∧
    response.attestation = some a

namespace Attested

variable {c} {service : AttestorService I} {t : Trace I Metric} {a : Attestation}

theorem not_latestHeight {request : LatestHeightRequest}
    (h : Attested c service (.latestHeight request) t a) : False := by
  obtain ⟨response, hrun, ha⟩ := h
  rcases completes_bindOk.mp hrun with ⟨e, -, he⟩ | ⟨r, t₁, t₂, rfl, -, h₂⟩
  · cases he
  · cases h₂.2
    cases ha

theorem state {request : StateAttestationRequest}
    (h : Attested c service (.stateAttestation request) t a) :
    ∃ u t₁ t₂ σ, t = t₁ ++ t₂ ∧ StateRead service.adapter request t₁ u ∧
      Completes (service.signer.sign ((statePayload c u).taggedSigningInput c)).run t₂ (.ok σ) ∧
      a = ⟨request.height, some u.timestamp, c.stateAbiEncode u, c.signatureAsBytes σ⟩ := by
  obtain ⟨response, hrun, ha⟩ := h
  rw [serve_stateAttestation] at hrun
  obtain ⟨u, t₁, t₂, σ, rfl, hprepared, hsign, rfl⟩ := completes_prepared_ok c hrun
  cases ha
  exact ⟨u, t₁, t₂, σ, rfl, completes_prepareState_ok.mp hprepared, hsign, rfl⟩

theorem packets {request : PacketAttestationRequest}
    (h : Attested c service (.packetAttestation request) t a) :
    ∃ t₁ t₂ σ, ∃ v : PacketsRead c service.adapter request t₁, t = t₁ ++ t₂ ∧
      Completes (service.signer.sign
        ((packetsPayload c v.attestation).taggedSigningInput c)).run t₂ (.ok σ) ∧
      a = ⟨request.height, none, c.packetsAbiEncode v.attestation, c.signatureAsBytes σ⟩ := by
  obtain ⟨response, hrun, ha⟩ := h
  rw [serve_packetAttestation] at hrun
  obtain ⟨u, t₁, t₂, σ, rfl, hprepared, hsign, rfl⟩ := completes_prepared_ok c hrun
  cases ha
  obtain ⟨v, rfl⟩ := (completes_preparePackets_ok c).mp hprepared
  exact ⟨t₁, t₂, σ, v, rfl, hsign, rfl⟩

end Attested

section Footprints

variable {c} {P : Label I Metric → Prop}

/-- A metric that the handlers record themselves. -/
def Metric.OfHandler : Metric → Prop
  | .observeHeightLag _ | .incHeightRejections | .incCommitmentFailure _ => True
  | _ => False

theorem ofHandler_heightMetrics {finalized height : UInt64} {e : Metric}
    (he : e ∈ heightMetrics finalized height) : e.OfHandler := by
  unfold heightMetrics at he
  split_ifs at he with h
  · rcases List.mem_pair.mp he with rfl | rfl <;> trivial
  · rw [List.mem_singleton.mp he]
    trivial

theorem ofHandler_verdictMetrics {kind : CommitmentType} {p : Packet} {answer : Option Bytes32}
    {e : Metric} (he : e ∈ verdictMetrics c kind p answer) : e.OfHandler := by
  cases e with
  | incCommitmentFailure kind => trivial
  | _ => cases kind <;> cases answer <;> simp [verdictMetrics] at he

theorem validateHeight_within (hheight : A.getLastHeightAtConfiguredFinality.run.Within P)
    (hP : ∀ e, e.OfHandler → P ⟨[], .event e⟩) (height : UInt64) :
    (validateHeight A height).run.Within P := by
  rw [validateHeight_eq]
  exact Fallible.within_bind (Fallible.within_mapErr hheight) fun _ =>
    Fallible.within_report fun e he => hP e (ofHandler_heightMetrics he)

theorem prepareState_within {request : StateAttestationRequest}
    (hheight : A.getLastHeightAtConfiguredFinality.run.Within P)
    (htimestamp : (A.getBlockTimestamp request.height).run.Within P)
    (hP : ∀ s e, e.OfHandler → P ⟨s, .event e⟩) : (prepareState A request).run.Within P :=
  Fallible.within_bind (Fallible.within_mapErr (validateHeight_within hheight (hP []) _)) fun _ =>
    Fallible.within_bind (Fallible.within_mapErr htimestamp) fun _ => trivial

theorem createPacketsAttestation_within {packets : List Packet} {height : UInt64}
    {kind : CommitmentType}
    (hlookup : ∀ i : Fin packets.length,
      (lookup c A height kind (packets.get i)).run.Within fun l => P (l.under i))
    (hP : ∀ s e, e.OfHandler → P ⟨s, .event e⟩) :
    (createPacketsAttestation c A packets height kind).run.Within P := by
  refine Fallible.within_bind (Fallible.within_gather fun i => ?_) fun results => ?_
  · rw [createSinglePacketAttestation_eq]
    exact Fallible.within_bind (Fallible.within_mapErr (hlookup i)) fun _ =>
      Fallible.within_report fun e he => hP [i.val] e (ofHandler_verdictMetrics he)
  · exact Fallible.within_bind trivial fun _ => trivial

theorem preparePackets_within {request : PacketAttestationRequest}
    (hheight : A.getLastHeightAtConfiguredFinality.run.Within P)
    (hlookup : ∀ packets kind, decodeRequest c request = .ok (packets, kind) →
      ∀ i : Fin packets.length,
        (lookup c A request.height kind (packets.get i)).run.Within fun l => P (l.under i))
    (hP : ∀ s e, e.OfHandler → P ⟨s, .event e⟩) : (preparePackets c A request).run.Within P := by
  rw [preparePackets_eq]
  cases hx : decodeRequest c request with
  | error e => trivial
  | ok x =>
    obtain ⟨packets, kind⟩ := x
    change ((validateHeight A request.height).mapErr Status.ofAttestorError >>= fun _ =>
      (createPacketsAttestation c A packets request.height kind).mapErr
        Status.ofAttestorError).run.Within P
    exact Fallible.within_bind (Fallible.within_mapErr (validateHeight_within hheight (hP []) _))
      fun _ => Fallible.within_mapErr (createPacketsAttestation_within (hlookup _ _ hx) hP)

theorem signed_within {S : Signer I} {height : UInt64} {timestamp : Option UInt64}
    {payload : AttestationPayload}
    (hsign : (S.sign (payload.taggedSigningInput c)).run.Within P) :
    (signed c S height timestamp payload).run.Within P :=
  Fallible.within_bind (Fallible.within_mapErr
    (Fallible.within_bind (Fallible.within_mapErr hsign) fun _ => trivial)) fun _ => trivial

end Footprints

end IbcAttestor
