import IbcAttestor.Cooperative.Balance
import IbcAttestor.Cooperative.System
import IbcAttestor.Rpc.Middleware
import IbcAttestor.Rpc.Value

/-!
# Requests are counted once

`rpc_requests_total` counts the requests that have been answered, each once and under its
own method and status code. A request that waits, or has been dropped while it waited, is
not counted.
-/

namespace IbcAttestor

open Cooperative

def resultCode {ε α : Type} (code : ε → Code) : Except ε α → Code
  | .ok _ => .ok
  | .error e => code e

/-- The method name under which the middleware counts a request. -/
def RpcRequest.method : RpcRequest → String
  | .latestHeight _ => "latest_height"
  | .stateAttestation _ => "state_attestation"
  | .packetAttestation _ => "packet_attestation"

/-- The method and the code of a request that has been answered. -/
def RpcRequest.countedAs (request : RpcRequest) :
    Outcome (Except Status RpcResponse) → Option (String × String)
  | .finished r => some (request.method, codeLabel (resultCode Status.code r))
  | .pending _ => none

/-- What one recording adds to a counter of requests. -/
def requestWorth (method code : String) : Metric → ℕ
  | .recordRpcRequest me co => if (me, co) = (method, code) then 1 else 0
  | _ => 0

theorem rpcRequestsTotal_record (method code : String) (e : Metric) (m : Metrics) :
    (Metrics.record e m).rpcRequestsTotal method code =
      m.rpcRequestsTotal method code + requestWorth method code e := by
  cases e with
  | recordRpcRequest me co => simp [Metrics.record, requestWorth, eq_comm]
  | _ => simp [Metrics.record, requestWorth]

/-- A service whose only task has served the sample request. -/
theorem IsSample.served {a : AdapterEnum} {head : UInt64} (ha : IsSample a) (retry : TokioRetry)
    (hhead : 100 ≤ head) {M : Type} (effect : Metric → M → M) (init : M) :
    ∃ task m, System.Reachable (fun request => (LoggingMiddleware.serve sampleCrates
        ⟨⟨a.adapter sampleCrates retry, sampleLocalSigner.signer⟩⟩ request).run) effect init
          ⟨[task], m⟩ ∧
      task.request = .packetAttestation samplePacketsRequest ∧
      task.fut.outcome = .finished (.ok (.packetAttestation ⟨some samplePacketAttestation⟩)) := by
  have hvalue : (LoggingMiddleware.serve sampleCrates
      ⟨⟨a.adapter sampleCrates retry, sampleLocalSigner.signer⟩⟩
      (.packetAttestation samplePacketsRequest)).run.eval (sampleNode head) =
        .ok (.packetAttestation ⟨some samplePacketAttestation⟩) := by
    simp only [LoggingMiddleware.serve, LoggingMiddleware.packetAttestation, Fallible.eval_bind,
      eval_trackRpc, ha.eval_packetAttestation hhead]
    rfl
  obtain ⟨task, m, hreach, hrequest, -, hout, -⟩ := @System.reachable_of_runs _ _ _ _ _
    (fun request => (LoggingMiddleware.serve sampleCrates
      ⟨⟨a.adapter sampleCrates retry, sampleLocalSigner.signer⟩⟩ request).run)
    effect _ _ _ (Proc.sequential_completes hvalue) init
  exact ⟨task, m, hreach, hrequest, hout⟩

variable {c : Crates} {method code : String}

section Requests

variable {I : Interface} {α : Type} {t : Trace I Metric}

theorem trackRpc_total {me : String} {fut : Fallible I Metric Status α}
    {o : Outcome (Except Status α)}
    (hfut : fut.run.Within (Label.Neutral (requestWorth method code)))
    (h : Runs (trackRpc me fut).run t o) :
    t.total (requestWorth method code) = match o with
      | .finished r => if (me, codeLabel (resultCode Status.code r)) = (method, code) then 1 else 0
      | .pending _ => 0 := by
  have hzero : ∀ {t' : Trace I Metric} {o'}, Runs fut.run t' o' →
      t'.total (requestWorth method code) = 0 := by
    intro t' o' hrun
    apply List.sum_eq_zero
    intro x hx
    obtain ⟨l, hl, rfl⟩ := List.mem_map.mp hx
    exact hrun.within hfut l hl
  rcases runs_bind.mp h with ⟨phase, hrun, rfl⟩ | ⟨r, t₁, t₂, rfl, h₁, h₂⟩
  · exact hzero hrun
  · rw [Trace.total_append, hzero h₁, zero_add]
    rcases h₂ with ⟨rfl, rfl⟩ | ⟨t₃, rfl, rfl, rfl⟩
    · rfl
    · cases r <;> simp [Act.amount, requestWorth, resultCode]

theorem prepared_neutral {υ ρ : Type} {S : Signer I} {x : Fallible I Metric Status υ}
    {height : UInt64} {timestamp : υ → Option UInt64} {payload : υ → AttestationPayload}
    {wrap : Attestation → ρ} (hx : x.run.Within (Label.Neutral (requestWorth method code)))
    (hsign : ∀ message, (S.sign message).run.Within (Label.Neutral (requestWorth method code))) :
    (x >>= fun u => signed c S height (timestamp u) (payload u) >>= fun a =>
      return wrap a).run.Within (Label.Neutral (requestWorth method code)) :=
  Fallible.within_bind hx fun _ => Fallible.within_bind (signed_within (hsign _)) fun _ => trivial

end Requests

variable {retry : TokioRetry} {a : AdapterEnum} {signer : SignerEnum c}

theorem requestWorth_of_label {op : ChainOp} {l : Label node Metric}
    (h : AdapterEnum.AdapterLabel op l) : l.Neutral (requestWorth method code) := by
  obtain ⟨site, act⟩ := l
  obtain ⟨-, hact⟩ := h
  cases act with
  | call op' => rfl
  | reply op' x => rfl
  | event e => rcases hact with ⟨operation, rfl⟩ | ⟨height, rfl⟩ <;> rfl

theorem requestWorth_of_ofHandler (s : Site) {e : Metric} (he : e.OfHandler) :
    (⟨s, .event e⟩ : Label node Metric).Neutral (requestWorth method code) := by
  cases e with
  | recordRpcRequest me co => exact he.elim
  | _ => rfl

theorem requestWorth_of_atSigner {l : Label node Metric} (h : SignerEnum.AtSigner l) :
    l.Neutral (requestWorth method code) := by
  obtain ⟨site, act⟩ := l
  cases act with
  | call op => rfl
  | reply op x => rfl
  | event e =>
    rcases h with h | ⟨result, h⟩
    · exact h.elim
    · cases h
      rfl

theorem serve_total {request : RpcRequest} {t : Trace node Metric}
    {o : Outcome (Except Status RpcResponse)}
    (h : Runs (LoggingMiddleware.serve c ⟨⟨a.adapter c retry, signer.signer⟩⟩ request).run t o) :
    t.total (requestWorth method code) =
      if request.countedAs o = some (method, code) then 1 else 0 := by
  have hheight : (a.adapter c retry).getLastHeightAtConfiguredFinality.run.Within
      (Label.Neutral (requestWorth method code)) :=
    AdapterEnum.height_within.mono fun _ => requestWorth_of_label
  have hsign : ∀ message, (signer.signer.sign message).run.Within
      (Label.Neutral (requestWorth method code)) :=
    fun message => (signer.sign_within message).mono fun _ => requestWorth_of_atSigner
  have htotal : ∀ {α : Type} {fut : Fallible node Metric Status α} {wrap : α → RpcResponse},
      fut.run.Within (Label.Neutral (requestWorth method code)) →
      Runs (trackRpc request.method fut >>= fun x => return wrap x).run t o →
      t.total (requestWorth method code) =
        if request.countedAs o = some (method, code) then 1 else 0 := by
    intro α fut wrap hfut hrun
    obtain ⟨o', ho', rfl⟩ := runs_mapOk.mp hrun
    rw [trackRpc_total hfut ho']
    cases o' with
    | pending phase => rfl
    | finished r => cases r <;> simp [RpcRequest.countedAs, Outcome.map, Except.map, resultCode]
  cases request with
  | latestHeight request =>
    have hfut : (AttestorService.latestHeight ⟨a.adapter c retry, signer.signer⟩ request).run.Within
        (Label.Neutral (requestWorth method code)) :=
      Fallible.within_bind (Fallible.within_mapErr hheight) fun _ => trivial
    exact htotal hfut h
  | stateAttestation request =>
    refine htotal ?_ h
    rw [stateAttestation_eq]
    exact prepared_neutral (prepareState_within hheight
      (AdapterEnum.timestamp_within fun _ _ _ => requestWorth_of_label)
      fun s _ => requestWorth_of_ofHandler s) hsign
  | packetAttestation request =>
    refine htotal ?_ h
    rw [packetAttestation_eq]
    exact prepared_neutral (preparePackets_within hheight
      (fun _ _ _ _ => AdapterEnum.lookup_within.mono fun _ => requestWorth_of_label)
      fun s _ => requestWorth_of_ofHandler s) hsign

theorem sum_indicator {β : Type*} {γ : Type} [BEq γ] [LawfulBEq γ] [DecidableEq γ] (f : β → γ)
    (y : γ) (l : List β) :
    (l.map fun x => if f x = y then 1 else 0).sum = (l.map f).count y := by
  induction l with
  | nil => rfl
  | cons x l ih =>
    rw [List.map_cons, List.sum_cons, ih, List.map_cons, List.count_cons, add_comm]
    simp

section Service

variable {s : System RpcRequest node Metric (Except Status RpcResponse) Metrics}

theorem rpcRequestsTotal_eq_sum
    (h : System.Reachable (fun request =>
      (LoggingMiddleware.serve c ⟨⟨a.adapter c retry, signer.signer⟩⟩ request).run)
      Metrics.record Metrics.new s) :
    s.store.rpcRequestsTotal method code = (s.tasks.map fun task =>
      if task.request.countedAs task.fut.outcome = some (method, code) then 1 else 0).sum := by
  have hread : s.store.rpcRequestsTotal method code =
      0 + (s.tasks.map fun task => task.log.total (requestWorth method code)).sum :=
    @System.Reachable.read_store _ _ _ _ _ _ _ _ _ ℕ _
      (fun m => m.rpcRequestsTotal method code) _ (rpcRequestsTotal_record method code) h
  have htask : ∀ task ∈ s.tasks, task.log.total (requestWorth method code) =
      if task.request.countedAs task.fut.outcome = some (method, code) then 1 else 0 :=
    fun task ht => serve_total (h.task_runs ht)
  rw [hread, zero_add, List.map_congr_left htask]

/-- In every state the metrics count each answered request once, under its method and the
code of its answer, and nothing else. -/
theorem requests_counted (c : Crates) (retry : TokioRetry) (a : AdapterEnum)
    (signer : SignerEnum c)
    (h : System.Reachable (fun request =>
      (LoggingMiddleware.serve c ⟨⟨a.adapter c retry, signer.signer⟩⟩ request).run)
      Metrics.record Metrics.new s) (method code : String) :
    s.store.rpcRequestsTotal method code =
      (s.tasks.map fun task => task.request.countedAs task.fut.outcome).count
        (some (method, code)) := by
  rw [rpcRequestsTotal_eq_sum h]
  exact sum_indicator (fun task : Task RpcRequest node Metric (Except Status RpcResponse) =>
    task.request.countedAs task.fut.outcome) _ _

/-- One attested request: it is counted as `ok`, and nothing is counted as not found. -/
theorem requests_counted_sample :
    ∃ s : System RpcRequest node Metric (Except Status RpcResponse) Metrics,
      s.tasks.map (fun task => task.request.countedAs task.fut.outcome) =
        [some ("packet_attestation", "ok")] ∧
      s.store.rpcRequestsTotal "packet_attestation" "ok" = 1 ∧
      s.store.rpcRequestsTotal "packet_attestation" "not_found" = 0 := by
  have hsample : IsSample sampleEvm := .inl rfl
  obtain ⟨task, m, hreach, hrequest, hout⟩ := hsample.served tokioRetry
    (by decide : (100 : UInt64) ≤ 120) Metrics.record Metrics.new
  have htasks : [task].map (fun task => task.request.countedAs task.fut.outcome) =
      [some ("packet_attestation", "ok")] := by
    rw [List.map_singleton, hrequest, hout]
    decide
  have hcounted := requests_counted sampleCrates tokioRetry sampleEvm sampleLocalSigner hreach
  refine ⟨⟨[task], m⟩, htasks, ?_, ?_⟩
  · rw [hcounted, htasks]
    decide
  · rw [hcounted, htasks]
    decide

end Service
end IbcAttestor
