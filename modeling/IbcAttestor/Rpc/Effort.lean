import IbcAttestor.Cooperative.Budget
import IbcAttestor.Rpc.Totals

/-!
# How much the service asks of others

Every query makes at most three calls with two pauses between them, so that what a request
costs the nodes and the signing service is bounded by what it asks for.
-/

namespace IbcAttestor

open Cooperative

inductive Resource where
  | chainCalls
  | signerCalls
  /-- Milliseconds of all the pauses between attempts. -/
  | backoff
  deriving DecidableEq

def effort : Act node Metric → Resource → ℕ
  | .call (.chain _), .chainCalls => 1
  | .call (.signer _), .signerCalls => 1
  | .call (.sleep millis), .backoff => millis
  | _, _ => 0

def chainBudget : Resource → ℕ
  | .chainCalls => 1
  | _ => 0

def pauseBudget (millis : ℕ) : Resource → ℕ
  | .backoff => millis
  | _ => 0

def queryBudget : Resource → ℕ
  | .chainCalls => 3
  | .signerCalls => 0
  | .backoff => 2400

/-- A remote signature takes a connection, a token if there is one, and two calls. -/
def SignerEnum.budget {c : Crates} : SignerEnum c → Resource → ℕ
  | .localSigner _, _ => 0
  | .remoteSigner s, .signerCalls => if s.serviceAccountTokenPath.isSome then 4 else 3
  | .remoteSigner _, _ => 0

def requestBudget {c : Crates} (signer : SignerEnum c) : RpcRequest → Resource → ℕ
  | .latestHeight _ => queryBudget
  | .stateAttestation _ => 2 • queryBudget + signer.budget
  | .packetAttestation request => (request.packets.length + 1) • queryBudget + signer.budget

section Queries

variable {c : Crates} {retry : TokioRetry} {α : Type}

theorem chainCall_costs (op : ChainOp) : (chainCall op).run.CostsAtMost effort chainBudget := by
  refine ⟨0, ?_, fun a => ⟨0, ?_, trivial⟩⟩
  · intro r
    cases r <;> simp [effort, chainBudget]
  · intro r
    simp [effort]

theorem sleep_costs (millis : ℕ) : (sleep millis).CostsAtMost effort (pauseBudget millis) := by
  refine ⟨0, ?_, fun a => ⟨0, ?_, trivial⟩⟩
  · intro r
    cases r <;> simp [effort, pauseBudget]
  · intro r
    simp [effort]

theorem spawn_costs {σ : Type} {action : σ → σ × Fallible node Metric AttestationAdapterError α}
    (condition : AttestationAdapterError → Bool)
    (haction : ∀ s, (action s).2.run.CostsAtMost effort chainBudget) (delays : List ℕ) (s : σ) :
    (retry.spawn delays action condition s).CostsAtMost effort
      ((delays.length + 1) • chainBudget + pauseBudget delays.sum) := by
  have hdone : ∀ (s : σ) (r : Except AttestationAdapterError α),
      (Proc.done (s, r) : Proc node Metric _).CostsAtMost effort 0 := fun _ _ => by simp
  induction delays generalizing s with
  | nil =>
    rw [retry.spawn_nil]
    refine ((haction s).bind (hdone (action s).1)).mono fun r => ?_
    simp
  | cons delay delays ih =>
    rw [retry.spawn_cons]
    have hagain := (sleep_costs delay).bind fun _ => ih (action s).1
    have hsum : chainBudget + (pauseBudget delay +
        ((delays.length + 1) • chainBudget + pauseBudget delays.sum)) =
          ((delay :: delays).length + 1) • chainBudget + pauseBudget (delay :: delays).sum := by
      funext r
      cases r <;> simp [chainBudget, pauseBudget]
      ring
    rw [← hsum]
    refine (haction s).bind fun r => ?_
    cases r with
    | ok a => trivial
    | error e =>
      change (if condition e then _ else _ : Proc node Metric _).CostsAtMost effort _
      split_ifs
      · exact hagain
      · trivial

theorem withRetryBackoff_costs {operation : String}
    {request : Fallible node Metric AttestationAdapterError α}
    (hrequest : request.run.CostsAtMost effort chainBudget) :
    (withRetryBackoff retry operation request).run.CostsAtMost effort queryBudget := by
  unfold withRetryBackoff
  rw [retryStrategy_eq]
  have hspawn := @spawn_costs retry _ _ (fun attempts : UInt8 => (attempts + 1, request))
    AttestationAdapterError.isRetrievalError (fun _ => hrequest) [400, 2000] 0
  have hsum : ([400, 2000].length + 1) • chainBudget + pauseBudget [400, 2000].sum + 0 =
      queryBudget := by
    funext r
    cases r <;> simp [chainBudget, pauseBudget, queryBudget]
  rw [← hsum]
  refine hspawn.bind fun x => ?_
  obtain ⟨attempts, result⟩ := x
  cases result with
  | ok a => trivial
  | error e =>
    change (if attempts ≥ maxAttempts then _ else _ : Proc node Metric _).CostsAtMost effort 0
    split_ifs
    · exact ⟨0, fun r => by simp [effort], trivial⟩
    · trivial

theorem Query.run_costs (q : Query α) : (q.run retry).run.CostsAtMost effort queryBudget := by
  have hretried : (retried q.op q.wrap).run.CostsAtMost effort chainBudget :=
    Fallible.costsAtMost_mapErr (chainCall_costs q.op)
  exact Fallible.costsAtMost_bind_free (withRetryBackoff_costs hretried) fun _ =>
    Proc.costsAtMost_done _ _

end Queries

section Handlers

variable {c : Crates} {retry : TokioRetry} {a : AdapterEnum}

theorem effort_event (e : Metric) : effort (.event e) = 0 := by
  funext r
  cases r <;> rfl

theorem report_costs {ε α : Type} (es : List Metric) (r : Except ε α) :
    (Fallible.report es r : Fallible node Metric ε α).run.CostsAtMost effort 0 := by
  apply Fallible.costsAtMost_report
  simp [effort_event]

theorem height_costs :
    (a.adapter c retry).getLastHeightAtConfiguredFinality.run.CostsAtMost effort queryBudget := by
  rw [AdapterEnum.getLastHeightAtConfiguredFinality_eq]
  exact Fallible.costsAtMost_bind_free (Query.run_costs _) fun _ => report_costs _ _

theorem timestamp_costs (height : UInt64) :
    ((a.adapter c retry).getBlockTimestamp height).run.CostsAtMost effort queryBudget := by
  rw [AdapterEnum.getBlockTimestamp_eq]
  cases a.timestampQuery c height with
  | ok q => exact q.run_costs
  | error e => exact Proc.costsAtMost_done _ _

theorem lookup_costs (height : UInt64) (kind : CommitmentType) (p : Packet) :
    (lookup c (a.adapter c retry) height kind p).run.CostsAtMost effort queryBudget := by
  rw [AdapterEnum.lookup_eq]
  exact Query.run_costs _

theorem validateHeight_costs (height : UInt64) :
    (validateHeight (a.adapter c retry) height).run.CostsAtMost effort queryBudget := by
  rw [validateHeight_eq]
  exact Fallible.costsAtMost_bind_free (Fallible.costsAtMost_mapErr height_costs) fun _ =>
    report_costs _ _

theorem prepareState_costs (request : StateAttestationRequest) :
    (prepareState (a.adapter c retry) request).run.CostsAtMost effort (2 • queryBudget) := by
  rw [two_nsmul]
  unfold prepareState
  apply Fallible.costsAtMost_bind (Fallible.costsAtMost_mapErr (validateHeight_costs _))
  intro _
  exact Fallible.costsAtMost_return (Fallible.costsAtMost_mapErr (timestamp_costs _))

theorem createPacketsAttestation_costs (packets : List Packet) (height : UInt64)
    (kind : CommitmentType) :
    (createPacketsAttestation c (a.adapter c retry) packets height kind).run.CostsAtMost effort
      (packets.length • queryBudget) := by
  have hsingle : ∀ i : Fin packets.length,
      (createSinglePacketAttestation c (a.adapter c retry) height (packets.get i)
        kind).run.CostsAtMost effort queryBudget := by
    intro i
    rw [createSinglePacketAttestation_eq]
    exact Fallible.costsAtMost_bind_free (Fallible.costsAtMost_mapErr (lookup_costs _ _ _)) fun _ =>
      report_costs _ _
  exact Fallible.costsAtMost_bind_free (Fallible.costsAtMost_gather hsingle) fun _ =>
    Fallible.costsAtMost_ofExcept_bind fun _ => Proc.costsAtMost_done _ _

theorem preparePackets_costs (request : PacketAttestationRequest) :
    (preparePackets c (a.adapter c retry) request).run.CostsAtMost effort
      ((request.packets.length + 1) • queryBudget) := by
  rw [preparePackets_eq]
  cases hx : decodeRequest c request with
  | error e => exact Proc.costsAtMost_done _ _
  | ok x =>
    change ((validateHeight _ request.height).mapErr Status.ofAttestorError >>= fun _ =>
      (createPacketsAttestation c _ x.1 request.height x.2).mapErr
        Status.ofAttestorError).run.CostsAtMost _ _
    have hlength : x.1.length = request.packets.length := by
      obtain ⟨hpackets, -⟩ := (decodeRequest_ok c).mp hx
      exact (mapM_ok.mp hpackets).length_eq.symm
    rw [add_comm, add_nsmul, one_nsmul, ← hlength]
    exact Fallible.costsAtMost_bind (Fallible.costsAtMost_mapErr (validateHeight_costs _)) fun _ =>
      Fallible.costsAtMost_mapErr (createPacketsAttestation_costs _ _ _)

def callBudget : Resource → ℕ
  | .signerCalls => 1
  | _ => 0

theorem signerCall_costs (op : SignerOp) :
    (signerCall op).run.CostsAtMost effort callBudget := by
  refine ⟨0, ?_, fun a => ⟨0, ?_, trivial⟩⟩
  · intro r
    cases r <;> simp [effort, callBudget]
  · intro r
    simp [effort]

theorem createClient_costs (self : RemoteSigner) :
    (self.createClient c).run.CostsAtMost effort
      ((if self.serviceAccountTokenPath.isSome then 2 else 1) • callBudget) := by
  unfold RemoteSigner.createClient
  cases self.serviceAccountTokenPath with
  | none =>
    rw [if_neg (by simp), one_nsmul]
    exact Fallible.costsAtMost_return (Fallible.costsAtMost_mapErr (signerCall_costs _))
  | some path =>
    rw [if_pos Option.isSome_some, two_nsmul]
    refine Fallible.costsAtMost_bind (Fallible.costsAtMost_mapErr (signerCall_costs _)) fun _ =>
      Fallible.costsAtMost_return ?_
    unfold loadBearerHeader
    refine Fallible.costsAtMost_bind_free (Fallible.costsAtMost_mapErr (signerCall_costs _)) ?_
    intro token
    rcases eq_or_ne (strTrim token) "" with hempty | hempty
    · rw [if_pos hempty]
      exact Proc.costsAtMost_done _ _
    · rw [if_neg hempty]
      exact Proc.costsAtMost_done _ _

theorem remoteSign_costs (self : RemoteSigner) (message : Bytes) :
    (self.sign c message).run.CostsAtMost effort
      ((if self.serviceAccountTokenPath.isSome then 4 else 3) • callBudget) := by
  have hsum : (if self.serviceAccountTokenPath.isSome then 4 else 3) • callBudget =
      (if self.serviceAccountTokenPath.isSome then 2 else 1) • callBudget +
        (callBudget + callBudget) := by
    split_ifs <;> (funext r; cases r <;> simp [callBudget])
  rw [hsum]
  unfold RemoteSigner.sign
  refine Fallible.costsAtMost_bind (createClient_costs self) fun client =>
    Fallible.costsAtMost_bind (Fallible.costsAtMost_mapErr (signerCall_costs _)) fun wallet => ?_
  cases wallet with
  | none => exact Proc.costsAtMost_done _ _
  | some wallet =>
    refine Fallible.costsAtMost_bind_free (Fallible.costsAtMost_mapErr (signerCall_costs _))
      fun response => ?_
    cases response with
    | none => exact Proc.costsAtMost_done _ _
    | some signature =>
      exact Fallible.costsAtMost_ofExcept_bind fun _ => Proc.costsAtMost_done _ _

theorem sign_costs (signer : SignerEnum c) (message : Bytes) :
    (signer.signer.sign message).run.CostsAtMost effort signer.budget := by
  have hinner : (signer.inner message).run.CostsAtMost effort signer.budget := by
    cases signer with
    | localSigner s => exact Proc.costsAtMost_done _ _
    | remoteSigner s =>
      have hbudget : (SignerEnum.remoteSigner s : SignerEnum c).budget =
          (if s.serviceAccountTokenPath.isSome then 4 else 3) • callBudget := by
        funext r
        cases r <;> simp [SignerEnum.budget, callBudget]
      rw [hbudget]
      exact remoteSign_costs s message
  rw [← add_zero signer.budget]
  refine hinner.bind fun result => ⟨0, ?_, trivial⟩
  simp [effort_event]

theorem signed_costs (signer : SignerEnum c) (height : UInt64) (timestamp : Option UInt64)
    (payload : AttestationPayload) :
    (signed c signer.signer height timestamp payload).run.CostsAtMost effort signer.budget := by
  have hsign := sign_costs signer (payload.taggedSigningInput c)
  exact Fallible.costsAtMost_return (Fallible.costsAtMost_mapErr
    (Fallible.costsAtMost_return (Fallible.costsAtMost_mapErr hsign)))

theorem trackRpc_costs {α : Type} {method : String} {fut : Fallible node Metric Status α}
    {b : Resource → ℕ} (hfut : fut.run.CostsAtMost effort b) :
    (trackRpc method fut).run.CostsAtMost effort b := by
  rw [← add_zero b]
  refine hfut.bind fun result => ⟨0, ?_, trivial⟩
  simp [effort_event]

theorem serve_costs (signer : SignerEnum c) (request : RpcRequest) :
    (LoggingMiddleware.serve c ⟨⟨a.adapter c retry, signer.signer⟩⟩ request).run.CostsAtMost effort
      (requestBudget signer request) := by
  cases request with
  | latestHeight request =>
    exact Fallible.costsAtMost_return (trackRpc_costs
      (Fallible.costsAtMost_return (Fallible.costsAtMost_mapErr height_costs)))
  | stateAttestation request =>
    apply Fallible.costsAtMost_return (trackRpc_costs ?_)
    rw [stateAttestation_eq]
    exact Fallible.costsAtMost_bind (prepareState_costs request) fun u =>
      Fallible.costsAtMost_return (signed_costs signer _ _ _)
  | packetAttestation request =>
    apply Fallible.costsAtMost_return (trackRpc_costs ?_)
    rw [packetAttestation_eq]
    exact Fallible.costsAtMost_bind (preparePackets_costs request) fun u =>
      Fallible.costsAtMost_return (signed_costs signer _ _ _)

end Handlers

/-- However its requests are interleaved, dropped or failing, the service asks the nodes and
the signing service for no more than the budgets of the requests that have arrived. -/
theorem effort_bounded (c : Crates) (retry : TokioRetry) (a : AdapterEnum) (signer : SignerEnum c)
    {M : Type} {effect : Metric → M → M} {init : M}
    {s : System RpcRequest node Metric (Except Status RpcResponse) M}
    (h : System.Reachable (fun request =>
      (LoggingMiddleware.serve c ⟨⟨a.adapter c retry, signer.signer⟩⟩ request).run) effect init s) :
    (∀ task ∈ s.tasks, task.log.cost effort ≤ requestBudget signer task.request) ∧
      (s.tasks.map fun task => task.log.cost effort).sum ≤
        (s.tasks.map fun task => requestBudget signer task.request).sum := by
  have htask : ∀ task ∈ s.tasks, task.log.cost effort ≤ requestBudget signer task.request :=
    fun task htask => (serve_costs signer task.request).cost_le (h.task_runs htask)
  exact ⟨htask, List.sum_le_sum htask⟩

/-- A request for one packet, which takes a height call and a lookup. -/
theorem effort_bounded_sample :
    ∃ s : System RpcRequest node Metric (Except Status RpcResponse) Unit,
      (∃ task ∈ s.tasks, task.fut.outcome =
        .finished (.ok (.packetAttestation ⟨some samplePacketAttestation⟩))) ∧
      (s.tasks.map fun task => task.log.cost effort).sum .chainCalls ≤ 6 := by
  have hsample : IsSample sampleEvm := .inl rfl
  obtain ⟨task, m, hreach, hrequest, hout⟩ :=
    hsample.served tokioRetry (by decide : (100 : UInt64) ≤ 120) (fun _ m => m) ()
  refine ⟨⟨[task], m⟩, ⟨task, by simp, hout⟩, ?_⟩
  have hbound := (effort_bounded sampleCrates tokioRetry sampleEvm sampleLocalSigner hreach).2
    .chainCalls
  rw [List.map_singleton, List.sum_singleton, List.map_singleton, List.sum_singleton,
    hrequest] at hbound
  exact hbound

end IbcAttestor
