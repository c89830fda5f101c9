import IbcAttestor.Rpc.Totals

/-!
# The metrics account for every request

Three differences of counters are worth something with every recording: height
rejections less requests that failed their precondition, good signatures less
attestations returned, and missing commitments less requests that found none. The
first two are zero and the third is not negative whenever no request is polled.
-/

namespace IbcAttestor

open Cooperative

abbrev Worth := ℤ × ℤ × ℤ

def methods : List String := ["latest_height", "state_attestation", "packet_attestation"]

def attestationMethods : List String := ["state_attestation", "packet_attestation"]

/-- What one recording adds to the three differences. -/
def worth : Metric → Worth
  | .incHeightRejections => (1, 0, 0)
  | .incSignerSign result => (0, if result = "ok" then 1 else 0, 0)
  | .incCommitmentFailure kind => (0, 0, if kind = "not_found" then 1 else 0)
  | .recordRpcRequest method code =>
    (-(if method ∈ methods ∧ code = "failed_precondition" then 1 else 0),
      -(if method ∈ attestationMethods ∧ code = "ok" then 1 else 0),
      -(if method = "packet_attestation" ∧ code = "not_found" then 1 else 0))
  | _ => 0

def differences (m : Metrics) : Worth :=
  (m.heightValidationRejectionsTotal -
      (methods.map fun method => (m.rpcRequestsTotal method "failed_precondition" : ℤ)).sum,
    m.signerSignsTotal "ok" -
      (attestationMethods.map fun method => (m.rpcRequestsTotal method "ok" : ℤ)).sum,
    m.commitmentValidationFailuresTotal "not_found" -
      m.rpcRequestsTotal "packet_attestation" "not_found")

theorem differences_new : differences Metrics.new = 0 := rfl

theorem differences_record (e : Metric) (m : Metrics) :
    differences (Metrics.record e m) = differences m + worth e := by
  cases e with
  | recordRpcRequest method code =>
    simp only [differences, Metrics.record, worth, methods, attestationMethods, List.map_cons,
      List.map_nil, List.sum_cons, List.sum_nil, List.mem_cons, List.not_mem_nil,
      Prod.mk_add_mk, Prod.mk.injEq, Nat.cast_add, Nat.cast_ite, Nat.cast_one, Nat.cast_zero,
      or_false, add_zero]
    refine ⟨?_, ?_, ?_⟩
    · by_cases hcode : code = "failed_precondition"
      · by_cases h1 : method = "latest_height"
        · simp [hcode, h1]
          omega
        · by_cases h2 : method = "state_attestation"
          · simp [hcode, h2]
            omega
          · by_cases h3 : method = "packet_attestation"
            · simp [hcode, h3]
              omega
            · simp [hcode, h1, h2, h3, eq_comm]
      · simp [hcode, eq_comm]
    · by_cases hcode : code = "ok"
      · by_cases h2 : method = "state_attestation"
        · simp [hcode, h2]
          omega
        · by_cases h3 : method = "packet_attestation"
          · simp [hcode, h3]
            omega
          · simp [hcode, h2, h3, eq_comm]
      · simp [hcode, eq_comm]
    · by_cases h : method = "packet_attestation" ∧ code = "not_found"
      · simp [h]
        omega
      · simp [h, eq_comm]
  | incHeightRejections =>
    simp [differences, Metrics.record, worth]
    ring
  | incSignerSign result =>
    by_cases h : result = "ok"
    · simp [differences, Metrics.record, Metrics.incAt, worth, h]
      ring
    · simp [differences, Metrics.record, Metrics.incAt, worth, h, eq_comm]
  | incCommitmentFailure kind =>
    by_cases h : kind = "not_found"
    · simp [differences, Metrics.record, Metrics.incAt, worth, h]
      ring
    · simp [differences, Metrics.record, Metrics.incAt, worth, h, eq_comm]
  | _ => simp [differences, Metrics.record, worth]

/-- Balances that may stand when no request is polled. -/
noncomputable def settled : AddSubmonoid Worth :=
  AddSubmonoid.prod ⊥ (AddSubmonoid.prod ⊥ (AddSubmonoid.nonneg ℤ))

theorem mem_settled {b : Worth} : b ∈ settled ↔ b.1 = 0 ∧ b.2.1 = 0 ∧ 0 ≤ b.2.2 := by
  rw [settled, AddSubmonoid.mem_prod, AddSubmonoid.mem_prod, AddSubmonoid.mem_bot,
    AddSubmonoid.mem_bot, AddSubmonoid.mem_nonneg]

/-- The balance of a handler with the result code `k`, if a success is worth `signs`. -/
@[mk_iff] structure Owes (signs : ℤ) (k : Code) (b : Worth) : Prop where
  rejected : b.1 = if k = .failedPrecondition then 1 else 0
  signed : b.2.1 = if k = .ok then signs else 0
  missing : (if k = .notFound then 1 else 0) ≤ b.2.2

theorem Owes.settled_of_ok {b : Worth} (h : Owes 0 .ok b) : b ∈ settled :=
  mem_settled.mpr ⟨h.rejected, h.signed, h.missing⟩

theorem owes_of_settled {k : Code} {b : Worth} (hb : b ∈ settled) (h₁ : k ≠ .failedPrecondition)
    (h₂ : (if k = .notFound then 1 else 0) ≤ b.2.2) : Owes 0 k b := by
  obtain ⟨hrejected, hsigned, -⟩ := mem_settled.mp hb
  exact ⟨by rw [hrejected, if_neg h₁], by rw [hsigned, ite_self], h₂⟩

theorem Owes.add_settled {signs : ℤ} {k : Code} {b d : Worth} (h : Owes signs k d)
    (hb : b ∈ settled) : Owes signs k (b + d) := by
  obtain ⟨hrejected, hsigned, hmissing⟩ := mem_settled.mp hb
  refine ⟨?_, ?_, ?_⟩
  · rw [Prod.fst_add, hrejected, zero_add, h.rejected]
  · rw [Prod.snd_add, Prod.fst_add, hsigned, zero_add, h.signed]
  · exact le_add_of_nonneg_of_le hmissing h.missing

theorem Owes.settle {signs : ℤ} {k : Code} {b : Worth} (h : Owes signs k b) {method : String}
    (hmethod : method ∈ methods) (hsigns : signs = if method ∈ attestationMethods then 1 else 0) :
    b + worth (.recordRpcRequest method (codeLabel k)) ∈ settled := by
  obtain ⟨hrejected, hsigned, hmissing⟩ := h
  have hfp : codeLabel k = "failed_precondition" ↔ k = .failedPrecondition :=
    (by decide : codeLabel .failedPrecondition = "failed_precondition") ▸
      codeLabel_injective.eq_iff
  have hok : codeLabel k = "ok" ↔ k = .ok :=
    (by decide : codeLabel .ok = "ok") ▸ codeLabel_injective.eq_iff
  have hnf : codeLabel k = "not_found" ↔ k = .notFound :=
    (by decide : codeLabel .notFound = "not_found") ▸ codeLabel_injective.eq_iff
  rw [mem_settled]
  simp only [worth, hmethod, hfp, hok, hnf, true_and, Prod.fst_add, Prod.snd_add]
  refine ⟨?_, ?_, ?_⟩
  · rw [hrejected, add_neg_cancel]
  · rw [hsigned, hsigns]
    by_cases hk : k = .ok
    · simp [hk]
    · simp [hk]
  · by_cases hk : k = .notFound
    · by_cases hm : method = "packet_attestation"
      · simp only [hk, hm, if_true, and_self] at hmissing ⊢
        omega
      · simp only [hk, hm, if_true, false_and, if_false] at hmissing ⊢
        omega
    · simp only [hk, and_false, if_false] at hmissing ⊢
      omega

section Handlers

variable {c : Crates} {I : Interface} {A : AttestationAdapter I} {S : Signer I}

/-- An adapter whose own metrics are worth nothing. -/
structure NeutralAdapter (c : Crates) (A : AttestationAdapter I) : Prop where
  height : A.getLastHeightAtConfiguredFinality.run.Within (Label.Neutral worth)
  timestamp : ∀ height, (A.getBlockTimestamp height).run.Within (Label.Neutral worth)
  lookup : ∀ height kind p, (lookup c A height kind p).run.Within (Label.Neutral worth)

/-- A signer that counts its successes. -/
def CountingSigner (S : Signer I) : Prop :=
  ∀ message, (S.sign message).run.Keeps worth settled 0 fun r b =>
    b = (0, if r.isOk then 1 else 0, 0)

theorem validateHeight_keeps (hA : NeutralAdapter c A) (height : UInt64) :
    (validateHeight A height).run.Keeps worth settled 0 fun r b =>
      Owes 0 (resultCode AttestorError.code r) b := by
  rw [validateHeight_eq]
  refine Fallible.keeps_ask hA.height settled.zero_mem (fun e => ?_) fun f => ?_
  · exact owes_of_settled settled.zero_mem (by simp [resultCode, AttestorError.code])
      (by simp [resultCode, AttestorError.code])
  · by_cases h : height > f
    · have hvalue : heightVerdict f height = .error .blockNotFinalized := if_pos h
      rw [hvalue]
      refine ⟨?_, ?_, ?_⟩
      · simp [heightMetrics, h, worth, resultCode, AttestorError.code]
      · simp [heightMetrics, h, worth, resultCode, AttestorError.code]
      · simp [heightMetrics, h, worth, resultCode, AttestorError.code]
    · have hvalue : heightVerdict f height = .ok () := if_neg h
      rw [hvalue]
      refine ⟨?_, ?_, ?_⟩
      · simp [heightMetrics, h, worth, resultCode]
      · simp [heightMetrics, h, worth, resultCode]
      · simp [heightMetrics, h, worth, resultCode]

theorem owes_verdict (height : UInt64) (kind : CommitmentType) (p : Packet)
    (answer : Option Bytes32) :
    ((verdictMetrics c kind p answer).map worth).sum ∈ settled ∧
      Owes 0 (resultCode AttestorError.code (verdict c kind height p answer))
        ((verdictMetrics c kind p answer).map worth).sum := by
  rw [mem_settled, owes_iff]
  cases answer with
  | none =>
    cases kind with
    | receipt => simp [verdict, verdictMetrics, resultCode]
    | packet => simp [verdict, verdictMetrics, worth, resultCode, AttestorError.code]
    | ack => simp [verdict, verdictMetrics, worth, resultCode, AttestorError.code]
  | some w =>
    cases kind with
    | packet =>
      by_cases h : c.commitment p = w.bytes
      · simp [verdict, verdictMetrics, resultCode, h]
      · simp [verdict, verdictMetrics, worth, resultCode, h, mismatchError, AttestorError.code]
    | ack => simp [verdict, verdictMetrics, resultCode]
    | receipt => simp [verdict, verdictMetrics, worth, resultCode, receiptError, AttestorError.code]

theorem createSinglePacketAttestation_keeps (hA : NeutralAdapter c A) (height : UInt64)
    (p : Packet) (kind : CommitmentType) :
    (createSinglePacketAttestation c A height p kind).run.Keeps worth settled 0 fun r b =>
      b ∈ settled ∧ Owes 0 (resultCode AttestorError.code r) b := by
  rw [createSinglePacketAttestation_eq]
  refine Fallible.keeps_ask (hA.lookup height kind p) settled.zero_mem (fun e => ?_)
    fun answer => ?_
  · refine ⟨settled.zero_mem, owes_of_settled settled.zero_mem ?_ ?_⟩
    · simp [resultCode, AttestorError.code]
    · simp [resultCode, AttestorError.code]
  · rw [zero_add]
    exact owes_verdict height kind p answer

/-- Missing commitments are counted at least once for a request that found none. -/
theorem createPacketsAttestation_keeps (hA : NeutralAdapter c A) (packets : List Packet)
    (height : UInt64) (kind : CommitmentType) :
    (createPacketsAttestation c A packets height kind).run.Keeps worth settled 0 fun r b =>
      Owes 0 (resultCode AttestorError.code r) b := by
  refine Fallible.keeps_bind ⟨settled.zero_mem,
    fun _ r b => Owes 0 (resultCode AttestorError.code r) b,
    fun i => createSinglePacketAttestation_keeps hA height (packets.get i) kind,
    fun rs ds hds => ?_⟩
  have hsum : ∑ i, ds i ∈ settled := settled.sum_mem fun i _ => (hds i).1
  have hresult : Owes 0 (resultCode AttestorError.code ((List.ofFn rs).mapM id)) (∑ i, ds i) := by
    cases hm : (List.ofFn rs).mapM id with
    | ok entries => exact owes_of_settled hsum (by simp [resultCode]) (mem_settled.mp hsum).2.2
    | error e =>
      obtain ⟨i, hi, -⟩ := mapM_id_ofFn_error.mp hm
      obtain ⟨hmem, howes⟩ := hds i
      rw [hi] at howes
      have hle : (ds i).2.2 ≤ (∑ j, ds j).2.2 := by
        have hnonneg : ∀ j ∈ Finset.univ, 0 ≤ (ds j).2.2 :=
          fun j _ => (mem_settled.mp (hds j).1).2.2
        rw [Prod.snd_sum, Prod.snd_sum]
        exact Finset.single_le_sum hnonneg (Finset.mem_univ i)
      refine owes_of_settled hsum (fun hk => ?_) (howes.missing.trans hle)
      have hzero := (mem_settled.mp hmem).1
      have hone : (ds i).1 = 1 := howes.rejected.trans (if_pos hk)
      omega
  rw [zero_add]
  cases hm : (List.ofFn rs).mapM id with
  | ok entries =>
    rw [hm] at hresult
    change Proc.Keeps _ _ (ExceptT.run (Fallible.ofExcept ((List.ofFn rs).mapM id) >>= _)) _ _
    rw [hm]
    exact hresult
  | error e =>
    rw [hm] at hresult
    change Proc.Keeps _ _ (ExceptT.run (Fallible.ofExcept ((List.ofFn rs).mapM id) >>= _)) _ _
    rw [hm]
    exact hresult

/-- The balance of a handler that has ended, successfully or with an error of its own. -/
def Handled {α : Type} (signs : ℤ) : Except Status α → Worth → Prop
  | .ok _, b => Owes signs .ok b
  | .error e, b => ∃ e', e = Status.ofAttestorError e' ∧ Owes 0 e'.code b

theorem Handled.owes {α : Type} {signs : ℤ} {r : Except Status α} {b : Worth}
    (h : Handled signs r b) : Owes signs (resultCode Status.code r) b := by
  cases r with
  | ok a => exact h
  | error e =>
    obtain ⟨e', rfl, h⟩ := h
    have hcode : e'.code ≠ .ok := by cases e' <;> exact Code.noConfusion
    refine ⟨h.rejected, ?_, h.missing⟩
    rw [h.signed, ite_self]
    exact (if_neg hcode).symm

theorem handled_of_owes {α : Type} {r : Except AttestorError α} {b : Worth}
    (h : Owes 0 (resultCode AttestorError.code r) b) :
    Handled 0 (r.mapError Status.ofAttestorError) b := by
  cases r with
  | ok a => exact h
  | error e => exact ⟨e, rfl, h⟩

theorem prepareState_keeps (hA : NeutralAdapter c A) (request : StateAttestationRequest) :
    (prepareState A request).run.Keeps worth settled 0 (Handled 0) := by
  refine Fallible.keeps_bind (Fallible.keeps_mapErr
    ((validateHeight_keeps hA request.height).mono fun r b h => ?_))
  cases r with
  | error e => exact handled_of_owes h
  | ok _ =>
    refine Fallible.keeps_bind (Fallible.keeps_mapErr
      ((hA.timestamp request.height).keeps h.settled_of_ok fun r => ?_))
    cases r with
    | ok timestamp => exact h
    | error e =>
      refine ⟨.adapterError e, rfl, owes_of_settled h.settled_of_ok ?_ ?_⟩
      · simp [AttestorError.code]
      · exact (mem_settled.mp h.settled_of_ok).2.2

theorem preparePackets_keeps (hA : NeutralAdapter c A) (request : PacketAttestationRequest) :
    (preparePackets c A request).run.Keeps worth settled 0 (Handled 0) := by
  rw [preparePackets_eq]
  cases hx : decodeRequest c request with
  | error e =>
    refine ⟨e, rfl, ?_⟩
    rcases decodeRequest_error c hx with ⟨-, -, reason, -, rfl⟩ | ⟨-, value, -, -, rfl⟩
    · exact ⟨rfl, rfl, le_refl _⟩
    · exact ⟨rfl, rfl, le_refl _⟩
  | ok x =>
    change ((validateHeight A request.height).mapErr Status.ofAttestorError >>= fun _ =>
      (createPacketsAttestation c A x.1 request.height x.2).mapErr
        Status.ofAttestorError).run.Keeps _ _ _ _
    refine Fallible.keeps_bind (Fallible.keeps_mapErr
      ((validateHeight_keeps hA request.height).mono fun r b h => ?_))
    cases r with
    | error e => exact handled_of_owes h
    | ok _ =>
      have hframe := (createPacketsAttestation_keeps hA x.1 request.height x.2).frame
        h.settled_of_ok
      rw [add_zero] at hframe
      refine Fallible.keeps_mapErr (hframe.mono fun r b' hr => ?_)
      obtain ⟨d, rfl, hd⟩ := hr
      exact handled_of_owes (hd.add_settled h.settled_of_ok)

/-- A signature that was counted is returned, or the request has failed. -/
theorem signed_keeps (hS : CountingSigner S) {height : UInt64} {timestamp : Option UInt64}
    {payload : AttestationPayload} {b : Worth} (hb : b ∈ settled) :
    (signed c S height timestamp payload).run.Keeps worth settled b (Handled 1) := by
  have hframe := (hS (payload.taggedSigningInput c)).frame hb
  rw [add_zero] at hframe
  refine Fallible.keeps_bind (Fallible.keeps_mapErr (Fallible.keeps_bind (Fallible.keeps_mapErr
    (hframe.mono fun r b' h => ?_))))
  obtain ⟨d, rfl, rfl⟩ := h
  cases r with
  | ok σ => exact Owes.add_settled ⟨rfl, rfl, le_refl _⟩ hb
  | error e => exact ⟨.signerError e.toString, rfl, Owes.add_settled ⟨rfl, rfl, le_refl _⟩ hb⟩

theorem prepared_keeps {υ ρ : Type} (hS : CountingSigner S) {x : Fallible I Metric Status υ}
    {height : UInt64} {timestamp : υ → Option UInt64} {payload : υ → AttestationPayload}
    {wrap : Attestation → ρ} (hx : x.run.Keeps worth settled 0 (Handled 0)) :
    (x >>= fun u => signed c S height (timestamp u) (payload u) >>= fun a =>
      return wrap a).run.Keeps worth settled 0 (Handled 1) := by
  refine Fallible.keeps_bind (hx.mono fun r b h => ?_)
  cases r with
  | error e => exact h
  | ok u =>
    refine Fallible.keeps_bind ((signed_keeps hS h.settled_of_ok).mono fun r b' h' => ?_)
    cases r with
    | ok a => exact h'
    | error e => exact h'

theorem latestHeight_keeps (hA : NeutralAdapter c A) (request : LatestHeightRequest) :
    (AttestorService.latestHeight ⟨A, S⟩ request).run.Keeps worth settled 0 (Handled 0) := by
  refine Fallible.keeps_bind (Fallible.keeps_mapErr (hA.height.keeps settled.zero_mem fun r => ?_))
  cases r with
  | ok height => exact ⟨rfl, rfl, le_refl _⟩
  | error e => exact ⟨.adapterError e, rfl, ⟨rfl, rfl, le_refl _⟩⟩

theorem trackRpc_keeps {α : Type} {signs : ℤ} {method : String} {fut : Fallible I Metric Status α}
    (hfut : fut.run.Keeps worth settled 0 (Handled signs)) (hmethod : method ∈ methods)
    (hsigns : signs = if method ∈ attestationMethods then 1 else 0) :
    (trackRpc method fut).run.Keeps worth settled 0 fun _ b => b ∈ settled := by
  refine Proc.Keeps.bind (hfut.mono fun r b h => ?_)
  have hsettle := h.owes.settle hmethod hsigns
  cases r with
  | ok a => exact hsettle
  | error e => exact hsettle

/-- Whenever a request waits, and when it has ended, its balance is settled. -/
theorem serve_keeps (hA : NeutralAdapter c A) (hS : CountingSigner S) (request : RpcRequest) :
    (LoggingMiddleware.serve c ⟨⟨A, S⟩⟩ request).run.Keeps worth settled 0
      fun _ b => b ∈ settled := by
  have hwrap : ∀ {α : Type} {x : Fallible I Metric Status α} {wrap : α → RpcResponse},
      (x.run.Keeps worth settled 0 fun _ b => b ∈ settled) →
        (x >>= fun a => return wrap a).run.Keeps worth settled 0 fun _ b => b ∈ settled := by
    intro α x wrap hx
    refine Fallible.keeps_bind (hx.mono fun r b h => ?_)
    cases r with
    | ok a => exact h
    | error e => exact h
  cases request with
  | latestHeight request =>
    exact hwrap (trackRpc_keeps (latestHeight_keeps hA request) (by decide) (by decide))
  | stateAttestation request =>
    refine hwrap (@trackRpc_keeps _ _ 1 _ _ ?_ (by decide) (by decide))
    rw [stateAttestation_eq]
    exact prepared_keeps hS (prepareState_keeps hA request)
  | packetAttestation request =>
    refine hwrap (@trackRpc_keeps _ _ 1 _ _ ?_ (by decide) (by decide))
    rw [packetAttestation_eq]
    exact prepared_keeps hS (preparePackets_keeps hA request)

end Handlers

theorem neutral_of_adapterLabel {op : ChainOp} {l : Label node Metric}
    (h : AdapterEnum.AdapterLabel op l) :
    l.Neutral worth := by
  obtain ⟨site, act⟩ := l
  obtain ⟨-, hact⟩ := h
  cases act with
  | call op' => rfl
  | reply op' a => rfl
  | event e =>
    rcases hact with ⟨operation, rfl⟩ | ⟨height, rfl⟩
    · rfl
    · rfl

variable {c : Crates} {retry : TokioRetry}

theorem AdapterEnum.neutral (a : AdapterEnum) : NeutralAdapter c (a.adapter c retry) where
  height := height_within.mono fun _ => neutral_of_adapterLabel
  timestamp _ := timestamp_within fun _ _ _ => neutral_of_adapterLabel
  lookup _ _ _ := lookup_within.mono fun _ => neutral_of_adapterLabel

theorem SignerEnum.counting (s : SignerEnum c) : CountingSigner s.signer := by
  intro message
  have hinner : (s.inner message).run.Within (Label.Neutral worth) := by
    cases s with
    | localSigner s => trivial
    | remoteSigner s =>
      apply (s.sign_within message).mono
      intro l hl
      obtain ⟨site, act⟩ := l
      cases act with
      | event e => exact hl.elim
      | call op => rfl
      | reply op a => rfl
  refine Proc.Keeps.bind (hinner.keeps settled.zero_mem fun r => ?_)
  cases r with
  | ok σ => simp [Proc.Keeps, worth, Except.isOk, Except.toBool]
  | error e => simp [Proc.Keeps, worth, Except.isOk, Except.toBool]

/-- Whenever no request is in the middle of a poll, the metrics account for the requests:
height rejections for failed preconditions, good signatures for attestations, and missing
commitments for requests that found none. -/
theorem metrics_account (c : Crates) (retry : TokioRetry) (a : AdapterEnum) (signer : SignerEnum c)
    {s : System RpcRequest node Metric (Except Status RpcResponse) Metrics}
    (h : System.Reachable (fun request =>
      (LoggingMiddleware.serve c ⟨⟨a.adapter c retry, signer.signer⟩⟩ request).run)
      Metrics.record Metrics.new s) (hquiet : ∀ task ∈ s.tasks, task.Quiet) :
    s.store.heightValidationRejectionsTotal =
        (methods.map fun method => s.store.rpcRequestsTotal method "failed_precondition").sum ∧
      s.store.signerSignsTotal "ok" = s.store.rpcRequestsTotal "state_attestation" "ok" +
        s.store.rpcRequestsTotal "packet_attestation" "ok" ∧
      s.store.rpcRequestsTotal "packet_attestation" "not_found" ≤
        s.store.commitmentValidationFailuresTotal "not_found" := by
  have hbalance : differences s.store ∈ settled := by
    rw [h.read_store differences_record, differences_new, zero_add]
    apply settled.list_sum_mem
    intro b hb
    obtain ⟨task, htask, rfl⟩ := List.mem_map.mp hb
    rcases hquiet task htask with hrunning | hlog
    · have htask' := (serve_keeps a.neutral signer.counting task.request).balanced
        (h.task_runs htask)
      rw [zero_add] at htask'
      cases houtcome : task.fut.outcome with
      | finished r =>
        rw [houtcome] at htask'
        exact htask'
      | pending phase =>
        cases phase with
        | running => exact absurd houtcome hrunning
        | suspended =>
          rw [houtcome] at htask'
          exact htask'
    · rw [hlog]
      exact settled.zero_mem
  obtain ⟨h₁, h₂, h₃⟩ := mem_settled.mp hbalance
  simp only [differences, methods, attestationMethods, List.map_cons, List.map_nil, List.sum_cons,
    List.sum_nil, add_zero] at h₁ h₂ h₃ ⊢
  refine ⟨?_, ?_, ?_⟩
  · omega
  · omega
  · omega

/-- One attested request: one good signature, counted as one attestation. -/
theorem metrics_account_sample :
    ∃ s : System RpcRequest node Metric (Except Status RpcResponse) Metrics,
      (∃ task ∈ s.tasks, task.fut.outcome =
        .finished (.ok (.packetAttestation ⟨some samplePacketAttestation⟩))) ∧
      s.store.signerSignsTotal "ok" = 1 ∧
      s.store.signerSignsTotal "ok" = s.store.rpcRequestsTotal "state_attestation" "ok" +
        s.store.rpcRequestsTotal "packet_attestation" "ok" := by
  have hsample : IsSample sampleEvm := .inl rfl
  obtain ⟨task, m, hreach, hrequest, hout⟩ := hsample.served tokioRetry
    (by decide : (100 : UInt64) ≤ 120) Metrics.record Metrics.new
  have hquiet : ∀ t ∈ [task], t.Quiet := by
    intro t ht
    rw [List.mem_singleton.mp ht]
    exact .inl (by simp [hout])
  have hsigned := (metrics_account sampleCrates tokioRetry sampleEvm sampleLocalSigner hreach
    hquiet).2.1
  have hcount : ∀ method code, m.rpcRequestsTotal method code =
      if some ("packet_attestation", "ok") = some (method, code) then 1 else 0 := by
    intro method code
    rw [rpcRequestsTotal_eq_sum hreach, List.map_singleton, List.sum_singleton, hrequest, hout]
    rfl
  refine ⟨⟨[task], m⟩, ⟨task, by simp, hout⟩, ?_, hsigned⟩
  rw [hsigned, hcount, hcount]
  decide

end IbcAttestor
