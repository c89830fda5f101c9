import IbcAttestor.Cooperative.System
import IbcAttestor.Rpc.Boundary

/-!
# No signature without validation

What a request hands to the signer and when, in every state of a service with
any number of concurrent requests.
-/

namespace IbcAttestor

open Cooperative

variable {c : Crates} {t : Trace traits Metric}

def handed (t : Trace traits Metric) : List Bytes :=
  t.filterMap fun l => match l.act with
    | .call (.sign message) => some message
    | _ => none

@[simp] theorem handed_append (t₁ t₂ : Trace traits Metric) :
    handed (t₁ ++ t₂) = handed t₁ ++ handed t₂ :=
  List.filterMap_append

theorem handed_eq_nil (h : ∀ l ∈ t, NotSigning l) : handed t = [] := by
  apply List.filterMap_eq_nil_iff.mpr
  intro l hl
  have hn := h l hl
  obtain ⟨site, act⟩ := l
  cases act with
  | event e => rfl
  | reply op a => rfl
  | call op =>
    cases op with
    | sign message => exact hn.elim
    | _ => rfl

/-- What a request must have received before a message is handed over for it. -/
def Validated (c : Crates) (t : Trace traits Metric) (message : Bytes) : RpcRequest → Prop
  | .latestHeight _ => False
  | .stateAttestation request => ∃ f timestamp,
      Replied t [] .getLastHeightAtConfiguredFinality (.ok f) ∧ request.height ≤ f ∧
      Replied t [] (.getBlockTimestamp request.height) (.ok timestamp) ∧
      message = 0x01 :: (c.sha256 (c.stateAbiEncode ⟨request.height, timestamp⟩)).bytes
  | .packetAttestation request => ∃ f packets kind, ∃ answers : Fin packets.length → Option Bytes32,
      Replied t [] .getLastHeightAtConfiguredFinality (.ok f) ∧ request.height ≤ f ∧
      decodeRequest c request = .ok (packets, kind) ∧
      (∀ i : Fin packets.length,
        Replied t [i.val] (lookupOp c request.height kind (packets.get i)) (.ok (answers i)) ∧
        Accepted c kind (packets.get i) (answers i)) ∧
      message = 0x02 :: (c.sha256 (c.packetsAbiEncode ⟨request.height,
        List.ofFn fun i : Fin packets.length => entryOf c kind (packets.get i) (answers i)⟩)).bytes

/-- How a request may use the signer, whatever stage it has reached. -/
structure SigningDiscipline (c : Crates) (request : RpcRequest) (t : Trace traits Metric)
    (o : Outcome (Except Status RpcResponse)) : Prop where
  once : (handed t).length ≤ 1
  length : ∀ message ∈ handed t, message.length = 33
  validated : ∀ before after s message,
    t = before ++ ⟨s, .call (.sign message)⟩ :: after → Validated c before message request
  failed : ∀ e, o = .finished (.error e) → handed t = [] ∨ ∃ message e',
    Replied t [] (.sign message) (.error e') ∧ e = .ofAttestorError (.signerError e'.toString)
  malformed : ∀ r e, request = .packetAttestation r → decodeRequest c r = .error e →
    ∀ s op, ¬ Called t s op

theorem not_mem_of_handed_eq_nil (h : handed t = []) (s : Site) (message : Bytes) :
    ⟨s, .call (.sign message)⟩ ∉ t :=
  fun hm => by simpa using List.filterMap_eq_nil_iff.mp h _ hm

theorem handed_prepared {υ : Type} {x : Fallible traits Metric Status υ} {height : UInt64}
    {timestamp : υ → Option UInt64} {payload : υ → AttestationPayload}
    {wrap : Attestation → RpcResponse} {o : Outcome (Except Status RpcResponse)}
    (hx : x.run.Within NotSigning)
    (h : Runs (x >>= fun u => signed c boundarySigner height (timestamp u) (payload u) >>= fun a =>
      return wrap a).run t o) :
    handed t = [] ∨ ∃ u t₁ t₂, Completes x.run t₁ (.ok u) ∧ handed t₁ = [] ∧ handed t₂ = [] ∧
      t = t₁ ++ ⟨[], .call (.sign ((payload u).taggedSigningInput c))⟩ :: t₂ ∧
      ∀ e, o = .finished (.error e) → ∃ e',
        Replied t₂ [] (.sign ((payload u).taggedSigningInput c)) (.error e') ∧
        e = .ofAttestorError (.signerError e'.toString) := by
  rcases (runs_prepared c).mp h with ⟨s, h, -⟩ | ⟨e, h, -⟩ | ⟨u, t₁, t₂, o', rfl, h₁, h₂, rfl⟩
  · exact .inl (handed_eq_nil (h.within hx))
  · exact .inl (handed_eq_nil (h.within hx))
  · have hnil := handed_eq_nil (h₁.within hx)
    rcases runs_call.mp h₂ with ⟨rfl, -⟩ | ⟨rfl, rfl⟩ | ⟨r, rfl, rfl⟩
    · exact .inl (by simpa using hnil)
    · refine .inr ⟨u, t₁, [], h₁, hnil, rfl, rfl, fun e he => ?_⟩
      cases he
    · refine .inr ⟨u, t₁, _, h₁, hnil, rfl, rfl, fun e he => ?_⟩
      cases r with
      | ok σ => cases he
      | error e' =>
        cases he
        exact ⟨e', by simp [Replied], rfl⟩

theorem discipline_of_prepared {υ : Type} {x : Fallible traits Metric Status υ} {height : UInt64}
    {timestamp : υ → Option UInt64} {payload : υ → AttestationPayload}
    {wrap : Attestation → RpcResponse} {request : RpcRequest}
    {o : Outcome (Except Status RpcResponse)} (hx : x.run.Within NotSigning)
    (hvalid : ∀ t u, Completes x.run t (.ok u) →
      Validated c t ((payload u).taggedSigningInput c) request)
    (hmalformed : ∀ r e, request = .packetAttestation r → decodeRequest c r = .error e →
      ∀ s op, ¬ Called t s op)
    (h : Runs (x >>= fun u => signed c boundarySigner height (timestamp u) (payload u) >>= fun a =>
      return wrap a).run t o) : SigningDiscipline c request t o := by
  rcases handed_prepared hx h with hnil | ⟨u, t₁, t₂, h₁, hnil₁, hnil₂, rfl, hfailed⟩
  · refine ⟨by simp [hnil], by simp [hnil], ?_, fun _ _ => .inl hnil, hmalformed⟩
    rintro before after s message rfl
    exact absurd (by simp) (not_mem_of_handed_eq_nil hnil s message)
  · have hhanded : handed (t₁ ++ ⟨[], .call (.sign ((payload u).taggedSigningInput c))⟩ :: t₂) =
        [(payload u).taggedSigningInput c] := by
      rw [handed_append, hnil₁]
      exact congrArg (List.cons _) hnil₂
    refine ⟨by simp [hhanded], ?_, ?_, fun e he => .inr ?_, hmalformed⟩
    · simp [hhanded, AttestationPayload.length_taggedSigningInput]
    · intro before after s message heq
      obtain ⟨rfl, hcall, -⟩ := (List.append_cons_inj_of_notMem
        (not_mem_of_handed_eq_nil hnil₁ s message)
        (not_mem_of_handed_eq_nil hnil₂ s message)).mp heq
      cases hcall
      exact hvalid _ u h₁
    · obtain ⟨e', hreply, rfl⟩ := hfailed e he
      exact ⟨_, e', replied_append.mpr (.inr (List.mem_cons_of_mem _ hreply)), rfl⟩

theorem validated_of_prepareState {request : StateAttestationRequest} {u : StateAttestation}
    (h : Completes (prepareState boundaryAdapter request).run t (.ok u)) :
    Validated c t ((statePayload c u).taggedSigningInput c) (.stateAttestation request) := by
  obtain ⟨hheight, f, t₁, t₂, rfl, hf, hle, hts⟩ := completes_prepareState_ok.mp h
  obtain rfl := completes_height.mp hf
  obtain rfl := completes_timestamp.mp hts
  refine ⟨f, u.timestamp, by simp [Replied], hle, by simp [Replied], ?_⟩
  rw [← hheight]
  rfl

theorem validated_of_preparePackets {request : PacketAttestationRequest} {u : PacketAttestation}
    (h : Completes (preparePackets c boundaryAdapter request).run t (.ok u)) :
    Validated c t ((packetsPayload c u).taggedSigningInput c) (.packetAttestation request) := by
  obtain ⟨v, rfl⟩ := (completes_preparePackets_ok c).mp h
  exact ⟨v.finalized, v.packets, v.kind, v.answers, v.finalized_replied, v.height_le,
    (decodeRequest_ok c).mpr ⟨v.decoded, v.known⟩, fun i => ⟨v.answered i, v.accepted i⟩, rfl⟩

theorem not_called_of_malformed {request : PacketAttestationRequest} {e : AttestorError}
    {o : Outcome (Except Status RpcResponse)} (he : decodeRequest c request = .error e)
    (h : Runs (boundaryService.serve c (.packetAttestation request)).run t o) : t = [] := by
  have hserve : boundaryService.serve c (.packetAttestation request) =
      (throw (.ofAttestorError e) : Fallible traits Metric Status RpcResponse) := by
    rw [serve_packetAttestation, preparePackets_eq, he]
    rfl
  rw [hserve] at h
  exact (runs_throw.mp h).1

theorem serve_discipline (request : RpcRequest) {o : Outcome (Except Status RpcResponse)}
    (h : Runs (boundaryService.serve c request).run t o) : SigningDiscipline c request t o := by
  cases request with
  | latestHeight request =>
    have hwithin : (boundaryService.serve c (.latestHeight request)).run.Within NotSigning :=
      ⟨trivial, fun r => ⟨trivial, by cases r <;> trivial⟩⟩
    have hnil := handed_eq_nil (h.within hwithin)
    refine ⟨by simp [hnil], by simp [hnil], ?_, fun _ _ => .inl hnil, fun r e hr => by cases hr⟩
    rintro before after s message rfl
    exact absurd (by simp) (not_mem_of_handed_eq_nil hnil s message)
  | stateAttestation request =>
    rw [serve_stateAttestation] at h
    exact discipline_of_prepared (prepareState_notSigning request)
      (fun t u => validated_of_prepareState) (fun r e hr => by cases hr) h
  | packetAttestation request =>
    refine discipline_of_prepared (preparePackets_notSigning request)
      (fun t u => validated_of_preparePackets) ?_ (serve_packetAttestation c request ▸ h)
    intro r e hr he s op hcalled
    cases hr
    rw [not_called_of_malformed he h] at hcalled
    cases hcalled

/-- In every state of the service, whatever was answered, interleaved and dropped, each
request has kept to the signing discipline. -/
theorem signing_discipline (c : Crates) {M : Type} (effect : Metric → M → M) (init : M)
    {s : System RpcRequest traits Metric (Except Status RpcResponse) M}
    (h : System.Reachable (fun request => (boundaryService.serve c request).run) effect init s) :
    ∀ task ∈ s.tasks, SigningDiscipline c task.request task.log task.fut.outcome :=
  fun _ htask => serve_discipline _ (h.task_runs htask)

theorem signing_discipline_sample :
    ∃ s : System RpcRequest traits Metric (Except Status RpcResponse) Metrics,
      System.Reachable (fun request => (boundaryService.serve sampleCrates request).run)
        Metrics.record Metrics.new s ∧
      ∃ task ∈ s.tasks, task.log = sampleRun ∧
        SigningDiscipline sampleCrates task.request task.log task.fut.outcome := by
  obtain ⟨response, h⟩ := sampleRun_completes
  have hserve : Runs (boundaryService.serve sampleCrates
      (.packetAttestation samplePacketsRequest)).run sampleRun (.finished (.ok _)) :=
    runs_mapOk.mpr ⟨_, h, rfl⟩
  obtain ⟨task, m, hreach, -, hlog, -⟩ := System.reachable_of_runs hserve Metrics.new
  exact ⟨_, hreach, task, by simp, hlog,
    signing_discipline sampleCrates Metrics.record Metrics.new hreach task (by simp)⟩

end IbcAttestor
