import IbcAttestor.Rpc.Value

/-!
# Failing calls

A chain call that fails at most twice leaves no mark on the result of a request. A call
that fails three times fails the request before anything is signed: a failure is never
taken for the answer that nothing is stored.
-/

namespace IbcAttestor

open Cooperative

/-- What the chain answers to each call when it answers, and each reply of the signing
service. -/
structure FixedReplies where
  chain : Site → (op : ChainOp) → op.Val
  signer : Site → (op : SignerOp) → Except String op.Val

namespace FixedReplies

def oracle (f : FixedReplies) : Oracle node := fun s op => match op with
  | .chain op => .ok (f.chain s op)
  | .sleep _ => ()
  | .signer op => f.signer s op

/-- Chain calls may fail, but every answer and every reply of the signing service is the
fixed one. -/
structure Answers (f : FixedReplies) (t : Trace node Metric) : Prop where
  chain : ∀ s op x, Replied t s (.chain op) (.ok x) → x = f.chain s op
  signer : ∀ s op x, Replied t s (.signer op) x → x = f.signer s op

variable {f : FixedReplies} {t t₁ t₂ : Trace node Metric}

theorem Answers.mono (h : f.Answers t) (ht : ∀ l ∈ t₁, l ∈ t) : f.Answers t₁ where
  chain s op x hx := h.chain s op x (ht _ hx)
  signer s op x hx := h.signer s op x (ht _ hx)

theorem Answers.left (h : f.Answers (t₁ ++ t₂)) : f.Answers t₁ :=
  h.mono fun _ hl => List.mem_append_left _ hl

theorem Answers.right (h : f.Answers (t₁ ++ t₂)) : f.Answers t₂ :=
  h.mono fun _ hl => List.mem_append_right _ hl

def child (f : FixedReplies) (i : ℕ) : FixedReplies :=
  ⟨fun s => f.chain (i :: s), fun s => f.signer (i :: s)⟩

theorem Answers.childTrace (h : f.Answers t) (i : ℕ) : (f.child i).Answers (childTrace i t) where
  chain s op x hx := h.chain (i :: s) op x (replied_child.mp hx)
  signer s op x hx := h.signer (i :: s) op x (replied_child.mp hx)

theorem oracle_child (f : FixedReplies) (i : ℕ) : f.oracle.child i = (f.child i).oracle := by
  funext s op
  cases op <;> rfl

theorem Answers.append (h₁ : f.Answers t₁) (h₂ : f.Answers t₂) : f.Answers (t₁ ++ t₂) where
  chain s op x hx := (List.mem_append.mp hx).elim (h₁.chain s op x) (h₂.chain s op x)
  signer s op x hx := (List.mem_append.mp hx).elim (h₁.signer s op x) (h₂.signer s op x)

theorem answers_events (f : FixedReplies) (es : List Metric) :
    f.Answers (es.map fun e => ⟨[], .event e⟩) where
  chain s op x hx := by simp [Replied] at hx
  signer s op x hx := by simp [Replied] at hx

theorem Answers.under {i : ℕ} (h : (f.child i).Answers t) : f.Answers (t.map (Label.under i)) where
  chain s op x hx := by
    obtain ⟨⟨s', act⟩, hl, heq⟩ := List.mem_map.mp hx
    cases heq
    exact h.chain s' op x hl
  signer s op x hx := by
    obtain ⟨⟨s', act⟩, hl, heq⟩ := List.mem_map.mp hx
    cases heq
    exact h.signer s' op x hl

theorem answers_thirdAttempt {α : Type} {q : Query α} {e e' : String}
    {x : Except String q.op.Val} (hx : ∀ a, x = .ok a → a = f.chain [] q.op) :
    f.Answers (q.thirdAttempt e e' x) where
  chain s op y hy := by
    have hreply : s = [] ∧ (Act.reply (.chain op) (.ok y) : Act node Metric) =
        .reply (.chain q.op) x := by
      cases x <;>
        simp only [Query.thirdAttempt, Replied, pause, List.cons_append, List.nil_append,
          List.append_nil, List.mem_cons, List.not_mem_nil, Label.mk.injEq, reduceCtorEq,
          and_false, or_false, false_or] at hy <;>
        rcases hy with ⟨-, hy⟩ | ⟨-, hy⟩ | ⟨-, hy⟩ | ⟨-, hy⟩ | hy <;>
        first | exact hy | cases hy
    obtain ⟨rfl, hlast⟩ := hreply
    cases hlast
    exact hx y rfl
  signer s op y hy := by cases x <;> simp [Query.thirdAttempt, Replied, pause] at hy

end FixedReplies

/-- No call of the run has failed more than twice. -/
def Transient (t : Trace node Metric) : Prop := ∀ s op, failures t s op ≤ 2

variable {c : Crates} {retry : TokioRetry} {a : AdapterEnum} {f : FixedReplies}
  {t t₁ t₂ : Trace node Metric}

theorem Transient.left (h : Transient (t₁ ++ t₂)) : Transient t₁ := by
  intro s op
  have hle := h s op
  rw [failures_append] at hle
  omega

theorem Transient.right (h : Transient (t₁ ++ t₂)) : Transient t₂ := by
  intro s op
  have hle := h s op
  rw [failures_append] at hle
  omega

theorem Transient.childTrace (h : Transient t) (i : ℕ) : Transient (childTrace i t) := by
  intro s op
  rw [failures_childTrace]
  exact h (i :: s) op

/-- With fixed answers, a run whose failures are transient has the result of the run without
failures. -/
def Robust {α : Type} (p : Proc node Metric α) : Prop :=
  ∀ ⦃f : FixedReplies⦄ ⦃t r⦄, Completes p t r → f.Answers t → Transient t → r = p.eval f.oracle

namespace Robust

variable {α β ε ε' : Type}

theorem bind {p : Proc node Metric α} {k : α → Proc node Metric β} (hp : Robust p)
    (hk : ∀ a, Robust (k a)) : Robust (p.bind k) := by
  intro f t r h ha ht
  obtain ⟨b, t₁, t₂, rfl, h₁, h₂⟩ := completes_bind.mp h
  obtain rfl := hp h₁ ha.left ht.left
  rw [Proc.eval_bind]
  exact hk _ h₂ ha.right ht.right

theorem done (b : α) : Robust (.done b : Proc node Metric α) := by
  intro f t r h _ _
  exact Outcome.finished.inj h.2

theorem bindOk {x : Fallible node Metric ε α} {k : α → Fallible node Metric ε β}
    (hx : Robust x.run) (hk : ∀ b, Robust (k b).run) : Robust (x >>= k).run := by
  apply hx.bind
  intro r
  cases r with
  | error e => exact done _
  | ok b => exact hk b

theorem mapErr {g : ε → ε'} {x : Fallible node Metric ε α} (hx : Robust x.run) :
    Robust (x.mapErr g).run :=
  hx.bind fun _ => done _

theorem report (es : List Metric) (r : Except ε α) :
    Robust (Fallible.report es r : Fallible node Metric ε α).run := by
  intro f t r' h _ _
  rw [Fallible.eval_report]
  exact (completes_report.mp h).2

theorem gather {n : ℕ} {k : Fin n → Fallible node Metric ε α} (hk : ∀ i, Robust (k i).run) :
    Robust (Fallible.gather k : Fallible node Metric ε' _).run := by
  intro f t r h ha ht
  obtain ⟨-, rs, hrs, rfl⟩ := completes_gather.mp h
  rw [Fallible.eval_gather]
  congr 2
  funext i
  rw [FixedReplies.oracle_child]
  exact hk i (hrs i) (ha.childTrace i) (ht.childTrace i)

/-- The one place where failures are met. -/
theorem query (q : Query α) : Robust (q.run retry).run := by
  intro f t r h ha ht
  rcases Query.completes_run h with ⟨x, hx, -, rfl⟩ | ⟨hthree, -⟩
  · obtain rfl := ha.chain [] q.op x hx
    exact (Query.eval_run rfl).symm
  · have htwo := ht [] q.op
    omega

theorem height : Robust (a.adapter c retry).getLastHeightAtConfiguredFinality.run := by
  rw [AdapterEnum.getLastHeightAtConfiguredFinality_eq]
  exact (query _).bindOk fun _ => report _ _

theorem timestamp (height : UInt64) :
    Robust ((a.adapter c retry).getBlockTimestamp height).run := by
  rw [AdapterEnum.getBlockTimestamp_eq]
  cases a.timestampQuery c height with
  | ok q => exact query q
  | error e => exact done _

theorem lookup (height : UInt64) (kind : CommitmentType) (p : Packet) :
    Robust (IbcAttestor.lookup c (a.adapter c retry) height kind p).run := by
  rw [AdapterEnum.lookup_eq]
  exact query _

theorem validateHeight (height : UInt64) :
    Robust (IbcAttestor.validateHeight (a.adapter c retry) height).run := by
  rw [validateHeight_eq]
  exact Robust.height.mapErr.bindOk fun _ => report _ _

theorem createPacketsAttestation (packets : List Packet) (height : UInt64)
    (kind : CommitmentType) : Robust
      (IbcAttestor.createPacketsAttestation c (a.adapter c retry) packets height kind).run := by
  refine bindOk (gather fun i => ?_) fun results => ?_
  · rw [createSinglePacketAttestation_eq]
    exact (lookup _ _ _).mapErr.bindOk fun _ => report _ _
  · exact bindOk (done _) fun _ => done _

theorem preparePackets (request : PacketAttestationRequest) :
    Robust (IbcAttestor.preparePackets c (a.adapter c retry) request).run := by
  rw [preparePackets_eq]
  exact (done _).mapErr.bindOk fun x => (validateHeight _).mapErr.bindOk fun _ =>
    (createPacketsAttestation _ _ _).mapErr

theorem prepareState (request : StateAttestationRequest) :
    Robust (IbcAttestor.prepareState (a.adapter c retry) request).run :=
  (validateHeight _).mapErr.bindOk fun _ => (timestamp _).mapErr.bindOk fun _ => done _

theorem sign (signer : SignerEnum c) (message : Bytes) : Robust (signer.sign message).run := by
  intro f t r h ha _
  apply h.eq_eval
  intro s op x hx
  have hlabel := h.within (signer.sign_within message) _ hx
  cases op with
  | signer op => exact ha.signer s op x hx
  | sleep millis => rfl
  | chain op =>
    rcases hlabel with hlabel | ⟨result, hlabel⟩
    · exact hlabel.elim
    · cases hlabel

theorem signed (signer : SignerEnum c) (height : UInt64) (timestamp : Option UInt64)
    (payload : AttestationPayload) :
    Robust (IbcAttestor.signed c signer.signer height timestamp payload).run :=
  ((sign signer _).mapErr.bindOk fun _ => done _).mapErr.bindOk fun _ => done _

theorem serve (signer : SignerEnum c) (request : RpcRequest) :
    Robust (AttestorService.serve c ⟨a.adapter c retry, signer.signer⟩ request).run := by
  cases request with
  | latestHeight request => exact (height.mapErr.bindOk fun _ => done _).bindOk fun _ => done _
  | stateAttestation request =>
    rw [serve_stateAttestation]
    exact (prepareState request).bindOk fun _ => (signed signer _ _ _).bindOk fun _ => done _
  | packetAttestation request =>
    rw [serve_packetAttestation]
    exact (preparePackets request).bindOk fun _ => (signed signer _ _ _).bindOk fun _ => done _

end Robust

/-- Some call of the run has failed three times. -/
def Lasting (t : Trace node Metric) : Prop := ∃ s op, 3 ≤ failures t s op

theorem Transient.not_lasting (h : Transient t) : ¬ Lasting t := by
  rintro ⟨s, op, hthree⟩
  have htwo := h s op
  omega

theorem Transient.append (h₁ : Transient t₁) (h₂ : Transient t₂)
    (hdisjoint : ∀ s op, failures t₁ s op = 0 ∨ failures t₂ s op = 0) : Transient (t₁ ++ t₂) := by
  intro s op
  have hone := h₁ s op
  have htwo := h₂ s op
  rw [failures_append]
  rcases hdisjoint s op with h | h <;> omega

theorem failures_eq_zero_of_site {s : Site} {op : ChainOp} (h : ∀ l ∈ t, l.site ≠ s) :
    failures t s op = 0 := by
  rw [failures_eq_zero]
  intro text htext
  exact h _ htext rfl

theorem failures_of_label {op : ChainOp} (h : ∀ l ∈ t, AdapterEnum.AdapterLabel op l) (s : Site)
    (op' : ChainOp) : failures t s op' = 0 ∨ s = [] ∧ op' = op := by
  by_cases hzero : failures t s op' = 0
  · exact .inl hzero
  · rw [failures_eq_zero, not_forall] at hzero
    obtain ⟨text, htext⟩ := hzero
    obtain ⟨hsite, hop | ⟨delay, hop⟩⟩ := h _ (not_not.mp htext)
    · exact .inr ⟨hsite, NodeOp.chain.inj hop⟩
    · cases hop

theorem transient_of_label {op : ChainOp} (h : ∀ l ∈ t, AdapterEnum.AdapterLabel op l)
    (htwo : failures t [] op ≤ 2) : Transient t := by
  intro s op'
  rcases failures_of_label h s op' with hzero | ⟨rfl, rfl⟩
  · omega
  · exact htwo

theorem transient_of_children {n : ℕ} (hin : InChildren n t)
    (h : ∀ i : Fin n, Transient (childTrace i t)) : Transient t := by
  intro s op
  by_cases hzero : failures t s op = 0
  · omega
  · rw [failures_eq_zero, not_forall] at hzero
    obtain ⟨text, htext⟩ := hzero
    obtain ⟨i, s', hi, hs⟩ := hin _ (not_not.mp htext)
    obtain rfl : s = i :: s' := hs
    rw [← failures_childTrace]
    exact h ⟨i, hi⟩ s' op

theorem height_transient {finalized : UInt64}
    (h : Completes (a.adapter c retry).getLastHeightAtConfiguredFinality.run t (.ok finalized)) :
    Transient t := by
  apply transient_of_label (h.within AdapterEnum.height_within)
  rcases AdapterEnum.completes_height h with ⟨x, -, htwo, -⟩ | ⟨-, text, he⟩
  · exact htwo
  · cases he

theorem lookup_transient {height : UInt64} {kind : CommitmentType} {p : Packet}
    {answer : Option Bytes32}
    (h : Completes (lookup c (a.adapter c retry) height kind p).run t (.ok answer)) :
    Transient t := by
  apply transient_of_label (h.within AdapterEnum.lookup_within)
  rw [AdapterEnum.lookup_eq] at h
  obtain ⟨x, -, htwo, -⟩ := Query.completes_run_ok h
  exact htwo

theorem timestampQuery_op_ne {height : UInt64} {q : Query UInt64}
    (h : a.timestampQuery c height = .ok q) : q.op ≠ a.heightQuery.op := by
  cases a with
  | evm evm =>
    cases h
    obtain ⟨⟨router, offset⟩⟩ := evm
    cases offset <;> simp [EvmAdapter.timestampQuery, AdapterEnum.heightQuery,
      EvmAdapter.heightQuery, EvmAdapter.finalityBlock]
  | solana solana =>
    cases h
    simp [SolanaAdapter.timestampQuery, AdapterEnum.heightQuery, SolanaAdapter.heightQuery]
  | cosmos cosmos =>
    obtain ⟨-, rfl⟩ := AdapterEnum.timestampQuery_cosmos.mp h
    simp [CosmosAdapter.timestampQuery, AdapterEnum.heightQuery, CosmosAdapter.heightQuery]

theorem StateRead.transient {request : StateAttestationRequest} {u : StateAttestation}
    (v : StateRead (a.adapter c retry) request t u) : Transient t := by
  obtain ⟨-, f, t₁, t₂, rfl, hheight, -, htimestamp⟩ := v
  have hevent : ∀ s op, failures (⟨[], .event (.observeHeightLag
      (heightLag f request.height))⟩ :: t₂ : Trace node Metric) s op = failures t₂ s op := by
    intro s op
    simp [failures, Label.isFailure]
  rcases AdapterEnum.completes_timestamp htimestamp with ⟨e, -, -, he⟩ | ⟨q, hq, hrun⟩
  · cases he
  · have hlabel := hrun.within (AdapterEnum.query_within q)
    obtain ⟨x, -, htwo, -⟩ := Query.completes_run_ok hrun
    apply (height_transient hheight).append
    · intro s op
      rw [hevent]
      exact transient_of_label hlabel htwo s op
    · intro s op
      rw [hevent]
      rcases failures_of_label (hheight.within AdapterEnum.height_within) s op with
        hzero | ⟨-, rfl⟩
      · exact .inl hzero
      · rcases failures_of_label hlabel s a.heightQuery.op with hzero | ⟨-, hop⟩
        · exact .inr hzero
        · exact absurd hop.symm (timestampQuery_op_ne hq)

theorem PacketsRead.transient {request : PacketAttestationRequest}
    (v : PacketsRead c (a.adapter c retry) request t) : Transient t := by
  have hevent : ∀ s op, failures (⟨[], .event (.observeHeightLag
      (heightLag v.finalized request.height))⟩ :: v.lookupTrace : Trace node Metric) s op =
        failures v.lookupTrace s op := by
    intro s op
    simp [failures, Label.isFailure]
  have hlookups := transient_of_children v.inChildren fun i => lookup_transient (v.lookedUp i)
  rw [v.trace_eq]
  apply (height_transient v.read).append
  · intro s op
    rw [hevent]
    exact hlookups s op
  · intro s op
    rw [hevent]
    rcases failures_of_label (v.read.within AdapterEnum.height_within) s op with
      hzero | ⟨rfl, -⟩
    · exact .inl hzero
    · refine .inr (failures_eq_zero_of_site fun l hl hsite => ?_)
      obtain ⟨i, s, -, hs⟩ := v.inChildren l hl
      rw [hsite] at hs
      cases hs

theorem not_atSigner_of_label {op : ChainOp} {l : Label node Metric}
    (h : AdapterEnum.AdapterLabel op l) : ¬ SignerEnum.AtSigner l := by
  obtain ⟨site, act⟩ := l
  obtain ⟨-, hact⟩ := h
  rintro (hsigner | ⟨result, rfl⟩)
  · cases act with
    | event e => exact hsigner
    | call op' => rcases hact with rfl | ⟨delay, rfl⟩ <;> exact hsigner
    | reply op' x => rcases hact with rfl | ⟨delay, rfl⟩ <;> exact hsigner
  · rcases hact with ⟨operation, h⟩ | ⟨height, h⟩ <;> cases h

theorem not_atSigner_of_ofHandler (s : Site) {e : Metric} (he : e.OfHandler) :
    ¬ SignerEnum.AtSigner ⟨s, .event e⟩ := by
  rintro (h | ⟨result, h⟩)
  · exact h
  · rw [Act.event.inj h] at he
    exact he

theorem preparePackets_unsigned (request : PacketAttestationRequest) :
    (preparePackets c (a.adapter c retry) request).run.Within fun l => ¬ SignerEnum.AtSigner l :=
  preparePackets_within (AdapterEnum.height_within.mono fun _ => not_atSigner_of_label)
    (fun _ _ _ _ => AdapterEnum.lookup_within.mono fun _ => not_atSigner_of_label)
    fun s _ => not_atSigner_of_ofHandler s

theorem prepareState_unsigned (request : StateAttestationRequest) :
    (prepareState (a.adapter c retry) request).run.Within fun l => ¬ SignerEnum.AtSigner l :=
  prepareState_within (AdapterEnum.height_within.mono fun _ => not_atSigner_of_label)
    (AdapterEnum.timestamp_within fun _ _ _ => not_atSigner_of_label)
    fun s _ => not_atSigner_of_ofHandler s

theorem latestHeight_unsigned {signer : Signer node} (request : LatestHeightRequest) :
    (AttestorService.serve c ⟨a.adapter c retry, signer⟩ (.latestHeight request)).run.Within
      fun l => ¬ SignerEnum.AtSigner l := by
  have hheight : (a.adapter c retry).getLastHeightAtConfiguredFinality.run.Within
      fun l => ¬ SignerEnum.AtSigner l :=
    AdapterEnum.height_within.mono fun _ => not_atSigner_of_label
  unfold AttestorService.serve AttestorService.latestHeight
  apply Fallible.within_bind
  · apply Fallible.within_bind (Fallible.within_mapErr hheight)
    intro height
    trivial
  · intro response
    trivial

theorem failures_sign {signer : SignerEnum c} {message : Bytes}
    {r : Except SignerError Signature} (h : Completes (signer.sign message).run t r) (s : Site)
    (op : ChainOp) : failures t s op = 0 :=
  failures_eq_zero.mpr fun _ => signer.not_replied h s op _

/-- A request whose preparation succeeds only after transient failures fails there if some
call fails three times. -/
theorem lasting_prepared {υ ρ : Type} {signer : SignerEnum c} {x : Fallible node Metric Status υ}
    {height : UInt64} {timestamp : υ → Option UInt64} {payload : υ → AttestationPayload}
    {wrap : Attestation → ρ} {r : Except Status ρ}
    (hx : ∀ t u, Completes x.run t (.ok u) → Transient t)
    (h : Completes (x >>= fun u => signed c signer.signer height (timestamp u) (payload u) >>=
      fun a => return wrap a).run t r) (hlasting : Lasting t) :
    ∃ e, Completes x.run t (.error e) ∧ r = .error e := by
  rcases (completes_prepared c).mp h with he | ⟨u, t₁, t₂, r', rfl, h₁, h₂, -⟩
  · exact he
  · have htransient : Transient (t₁ ++ t₂) := by
      intro s op
      rw [failures_append, failures_sign h₂ s op]
      exact hx t₁ u h₁ s op
    exact absurd hlasting htransient.not_lasting

theorem handler_failed {packets : List Packet} {kind : CommitmentType} {height : UInt64}
    {r : Except AttestorError PacketAttestation}
    (h : Completes (createPacketsAttestation c (a.adapter c retry) packets height kind).run t r)
    (i : Fin packets.length)
    (hthree : 3 ≤ failures t [i.val] (a.lookupQuery c height kind (packets.get i)).op) :
    ∃ text, Completes (createSinglePacketAttestation c (a.adapter c retry) height (packets.get i)
      kind).run (childTrace i t) (.error (.adapterError (.retrievalError text))) := by
  obtain ⟨-, rs, hrs, -⟩ := (completes_createPacketsAttestation c).mp h
  rw [← failures_childTrace] at hthree
  have hi := hrs i
  rcases (completes_createSinglePacketAttestation c).mp hi with
    ⟨e, hlookup, hr⟩ | ⟨answer, t₁, ht, hlookup, -⟩
  · rw [AdapterEnum.lookup_eq] at hlookup
    rcases Query.completes_run hlookup with ⟨x, -, htwo, -⟩ | ⟨-, text, he⟩
    · omega
    · cases he
      exact ⟨text, hr ▸ hi⟩
  · have htwo := lookup_transient hlookup [] (a.lookupQuery c height kind (packets.get i)).op
    rw [ht, failures_append, failures_events] at hthree
    omega

/-- A packet whose lookup failed three times has no entry, nor is it found missing. -/
theorem packet_failed {request : PacketAttestationRequest} {packets : List Packet}
    {kind : CommitmentType} {r : Except Status PacketAttestation}
    (h : Completes (preparePackets c (a.adapter c retry) request).run t r)
    (hdecode : decodeRequest c request = .ok (packets, kind)) (i : Fin packets.length)
    (hthree : 3 ≤ failures t [i.val] (a.lookupQuery c request.height kind (packets.get i)).op) :
    ∃ text, Completes (createSinglePacketAttestation c (a.adapter c retry) request.height
      (packets.get i) kind).run (childTrace i t)
        (.error (.adapterError (.retrievalError text))) := by
  have hsite : ∀ {t r}, Completes (validateHeight (a.adapter c retry) request.height).run t r →
      ∀ l ∈ t, l.site = [] := by
    intro t r hrun
    exact hrun.within (validateHeight_within
      (AdapterEnum.height_within.mono fun _ hl => hl.1) (fun _ _ => rfl) _)
  have hnone : ∀ {t r}, Completes (validateHeight (a.adapter c retry) request.height).run t r →
      ∀ op, failures t [i.val] op = 0 := by
    intro t r hrun op
    apply failures_eq_zero_of_site
    intro l hl hs
    rw [hsite hrun l hl] at hs
    cases hs
  rcases (completes_preparePackets c).mp h with ⟨e, he, -, -⟩ | ⟨packets', kind', hdecode', hrest⟩
  · rw [hdecode] at he
    cases he
  · rw [hdecode] at hdecode'
    cases hdecode'
    rcases hrest with ⟨e, he, -⟩ | ⟨t₁, t₂, r', rfl, h₁, h₂, -⟩
    · rw [hnone he] at hthree
      omega
    · have hchild : childTrace i t₁ = [] := by
        apply List.filterMap_eq_nil_iff.mpr
        intro l hl
        simp [Label.inChild, hsite h₁ l hl]
      rw [failures_append, hnone h₁, Nat.zero_add] at hthree
      rw [childTrace_append, hchild, List.nil_append]
      exact handler_failed h₂ i hthree

/-- What comes of lasting failures: the request fails, with no use of the signer, and a packet
whose lookup failed ends with the failure. -/
structure FailsClosed (c : Crates) (retry : TokioRetry) (a : AdapterEnum) (request : RpcRequest)
    (t : Trace node Metric) (r : Except Status RpcResponse) : Prop where
  error : ∃ e, r = .error e
  unsigned : ∀ l ∈ t, ¬ SignerEnum.AtSigner l
  packet : ∀ q packets kind, request = .packetAttestation q →
    decodeRequest c q = .ok (packets, kind) → ∀ i : Fin packets.length,
    3 ≤ failures t [i.val] (a.lookupQuery c q.height kind (packets.get i)).op →
    ∃ text, Completes (createSinglePacketAttestation c (a.adapter c retry) q.height
      (packets.get i) kind).run (childTrace i t) (.error (.adapterError (.retrievalError text)))

theorem serve_lasting {signer : SignerEnum c} {request : RpcRequest}
    {r : Except Status RpcResponse} (h : Completes (AttestorService.serve c
      ⟨a.adapter c retry, signer.signer⟩ request).run t r) (hlasting : Lasting t) :
    FailsClosed c retry a request t r := by
  cases request with
  | latestHeight request =>
    refine ⟨?_, h.within (latestHeight_unsigned request), by rintro q packets kind ⟨⟩⟩
    rcases completes_bindOk.mp h with ⟨e, -, rfl⟩ | ⟨x, t₁, t₂, rfl, h₁, h₂⟩
    · exact ⟨e, rfl⟩
    · rcases completes_bindOk.mp h₁ with ⟨e, -, he⟩ | ⟨f, t₃, t₄, rfl, h₃, h₄⟩
      · cases he
      · obtain ⟨rfl, -⟩ := h₄
        obtain ⟨rfl, -⟩ := h₂
        rw [List.append_nil, List.append_nil] at hlasting
        exact absurd hlasting (height_transient (completes_mapErr_ok.mp h₃)).not_lasting
  | stateAttestation request =>
    rw [serve_stateAttestation] at h
    obtain ⟨e, he, rfl⟩ := lasting_prepared
      (fun t u hu => (completes_prepareState_ok.mp hu).transient) h hlasting
    refine ⟨⟨e, rfl⟩, he.within (prepareState_unsigned request), ?_⟩
    intro q packets kind hq
    cases hq
  | packetAttestation request =>
    rw [serve_packetAttestation] at h
    obtain ⟨e, he, rfl⟩ := lasting_prepared (fun t u hu => by
      obtain ⟨v, -⟩ := (completes_preparePackets_ok c).mp hu
      exact v.transient) h hlasting
    refine ⟨⟨e, rfl⟩, he.within (preparePackets_unsigned request), ?_⟩
    intro q packets kind hq hdecode i hthree
    cases hq
    exact packet_failed he hdecode i hthree

/-- For every request to any of the adapters and every pattern of failures: when no call
fails three times the result is that of the runs without failures, and when one does the
request fails closed. -/
theorem outages {signer : SignerEnum c} {request : RpcRequest} {r : Except Status RpcResponse}
    (ht : f.Answers t)
    (h : Completes (AttestorService.serve c ⟨a.adapter c retry, signer.signer⟩ request).run t r) :
    (Transient t → (∃ t', AnsweredBy f.oracle t' ∧ Completes (AttestorService.serve c
        ⟨a.adapter c retry, signer.signer⟩ request).run t' r) ∧
      ∀ t' r', AnsweredBy f.oracle t' → Completes (AttestorService.serve c
        ⟨a.adapter c retry, signer.signer⟩ request).run t' r' → r' = r) ∧
    (Lasting t → FailsClosed c retry a request t r) := by
  refine ⟨fun htransient => ?_, serve_lasting h⟩
  have hr := Robust.serve signer request h ht htransient
  refine ⟨⟨_, Proc.sequential_answeredBy _ f.oracle, Proc.sequential_completes hr.symm⟩, ?_⟩
  intro t' r' ho h'
  rw [hr]
  exact h'.eq_eval ho

def sampleFixed : FixedReplies := ⟨fun _ => sampleChain 120, fun _ op => .ok (sampleService op)⟩

def sampleLookup : Query (Option Bytes32) :=
  sampleCosmos.lookupQuery sampleCrates 100 .packet samplePacket

/-- The latest commit of the sample Cosmos chain, got at the third attempt. -/
def sampleHeightOutage : Trace node Metric :=
  CosmosAdapter.heightQuery.thirdAttempt "timeout" "timeout" (.ok ⟨120, 1700000000⟩) ++
    [.setAdapterFinalizedHeight 120].map fun e => ⟨[], .event e⟩

/-- The sample request on Cosmos: the commitment comes to `x` at the third attempt, as the
latest commit did. -/
def samplePacketsOutage (x : Except String sampleLookup.op.Val) : Trace node Metric :=
  sampleHeightOutage ++ (heightMetrics 120 100).map (fun e => ⟨[], .event e⟩) ++
    (sampleLookup.thirdAttempt "timeout" "timeout" x).map (Label.under 0)

theorem preparePackets_sampleOutage {x : Except String sampleLookup.op.Val}
    {r : Except AttestorError PacketCompact}
    (h : Completes (createSinglePacketAttestation sampleCrates
      (sampleCosmos.adapter sampleCrates tokioRetry) 100 samplePacket .packet).run
        (sampleLookup.thirdAttempt "timeout" "timeout" x) r) :
    Completes (preparePackets sampleCrates (sampleCosmos.adapter sampleCrates tokioRetry)
      samplePacketsRequest).run (samplePacketsOutage x)
        ((r.map fun entry => ⟨100, [entry]⟩).mapError Status.ofAttestorError) := by
  have hquery := CosmosAdapter.heightQuery.completes_thirdAttempt tokioRetry "timeout" "timeout"
    (.ok ⟨120, 1700000000⟩)
  have hheight : Completes (sampleCosmos.adapter sampleCrates
      tokioRetry).getLastHeightAtConfiguredFinality.run sampleHeightOutage (.ok 120) := by
    rw [AdapterEnum.getLastHeightAtConfiguredFinality_eq]
    exact completes_bindOk.mpr (.inr ⟨120, _, _, rfl, hquery, completes_report.mpr ⟨rfl, rfl⟩⟩)
  have hvalidated : Completes (validateHeight (sampleCosmos.adapter sampleCrates tokioRetry)
      100).run (sampleHeightOutage ++ (heightMetrics 120 100).map fun e => ⟨[], .event e⟩)
        (.ok ()) :=
    completes_validateHeight.mpr (.inr ⟨120, _, rfl, hheight, rfl⟩)
  have hcreated : Completes (createPacketsAttestation sampleCrates
      (sampleCosmos.adapter sampleCrates tokioRetry) [samplePacket] 100 .packet).run
        ((sampleLookup.thirdAttempt "timeout" "timeout" x).map (Label.under 0))
          (r.map fun entry => ⟨100, [entry]⟩) := by
    refine (completes_createPacketsAttestation _).mpr ⟨?_, fun _ => r, fun i => ?_, ?_⟩
    · intro l hl
      obtain ⟨l', -, rfl⟩ := List.mem_map.mp hl
      exact ⟨0, _, Nat.one_pos, rfl⟩
    · obtain rfl : i = ⟨0, Nat.one_pos⟩ := Fin.ext (Nat.lt_one_iff.mp i.isLt)
      rw [childTrace_under]
      exact h
    · cases r <;> rfl
  exact (completes_preparePackets _).mpr (.inr ⟨[samplePacket], .packet, decodeRequest_sample 100,
    .inr ⟨_, _, _, rfl, hvalidated, hcreated, rfl⟩⟩)

theorem answers_samplePacketsOutage {x : Except String sampleLookup.op.Val}
    (hx : ∀ a, x = .ok a → a = sampleCommitment.bytes) :
    sampleFixed.Answers (samplePacketsOutage x) :=
  (((FixedReplies.answers_thirdAttempt fun _ ha => (Except.ok.inj ha).symm).append
    (sampleFixed.answers_events _)).append (sampleFixed.answers_events _)).append
      (FixedReplies.Answers.under (FixedReplies.answers_thirdAttempt hx))


theorem lookup_sampleOutage (x : Except String sampleLookup.op.Val) :
    Completes (lookup sampleCrates (sampleCosmos.adapter sampleCrates tokioRetry) 100 .packet
      samplePacket).run (sampleLookup.thirdAttempt "timeout" "timeout" x)
        (x.mapError (fun text => .retrievalError (sampleLookup.wrap text)) >>=
          sampleLookup.check) := by
  rw [AdapterEnum.lookup_eq]
  exact sampleLookup.completes_thirdAttempt tokioRetry "timeout" "timeout" x

/-- The run of the sample request in which the commitment is got and signed for. -/
def sampleAttestedOutage : Trace node Metric :=
  samplePacketsOutage (.ok sampleCommitment.bytes) ++
    [.incSignerSign "ok"].map fun e => ⟨[], .event e⟩

theorem completes_sampleAttestedOutage : Completes (AttestorService.serve sampleCrates
    ⟨sampleCosmos.adapter sampleCrates tokioRetry, sampleLocalSigner.signer⟩
    (.packetAttestation samplePacketsRequest)).run sampleAttestedOutage
      (.ok (.packetAttestation ⟨some samplePacketAttestation⟩)) := by
  have hlookup := lookup_sampleOutage (.ok sampleCommitment.bytes)
  have hcheck : sampleLookup.check sampleCommitment.bytes = .ok (some sampleCommitment) := by
    change CosmosAdapter.checkBytes sampleCommitment.bytes = _
    rw [CosmosAdapter.checkBytes, if_neg sampleCommitment.bytes_ne_nil,
      CosmosAdapter.commitmentTryInto, Bytes32.tryFrom_bytes]
    rfl
  change Completes _ _ (sampleLookup.check sampleCommitment.bytes) at hlookup
  rw [hcheck] at hlookup
  have hmetrics :
      verdictMetrics sampleCrates .packet samplePacket (some sampleCommitment) = [] := by
    simp [verdictMetrics, sampleCrates]
  have hverdict : verdict sampleCrates .packet 100 samplePacket (some sampleCommitment) =
      .ok ⟨samplePathHash, sampleCommitment⟩ :=
    (verdict_ok _).mpr ⟨accepted_sample, entryOf_sample.symm⟩
  have hprepared := preparePackets_sampleOutage (x := .ok sampleCommitment.bytes)
    ((completes_createSinglePacketAttestation _).mpr
      (.inr ⟨some sampleCommitment, _, by simp [hmetrics], hlookup, hverdict.symm⟩))
  have hsign : Completes (sampleLocalSigner.signer.sign
      ((packetsPayload sampleCrates samplePackets).taggedSigningInput sampleCrates)).run
        [⟨[], .event (.incSignerSign "ok")⟩] (.ok samplePacketsSignature) := by
    change Completes (Proc.bind (ExceptT.run (Fallible.ofExcept _)) _) _ _
    rw [syncSign_sample]
    exact .inr ⟨[], rfl, rfl, rfl⟩
  rw [serve_packetAttestation]
  exact (completes_prepared _).mpr (.inr ⟨samplePackets, _, _, _, rfl, hprepared, hsign, rfl⟩)

theorem failed_samplePacketsOutage : Completes (AttestorService.serve sampleCrates
    ⟨sampleCosmos.adapter sampleCrates tokioRetry, sampleLocalSigner.signer⟩
    (.packetAttestation samplePacketsRequest)).run (samplePacketsOutage (.error "timeout"))
      (.error (.ofAttestorError (.adapterError
        (.retrievalError (sampleLookup.wrap "timeout"))))) := by
  have hprepared := preparePackets_sampleOutage ((completes_createSinglePacketAttestation _).mpr
    (.inl ⟨_, lookup_sampleOutage (.error "timeout"), rfl⟩))
  rw [serve_packetAttestation]
  exact (completes_prepared _).mpr (.inl ⟨_, hprepared, rfl⟩)

/-- Two failures of each call change nothing about an attestation; a third one of the lookup
fails the request closed. -/
theorem outages_sample :
    (∃ t, failures t [] .latestCommit = 2 ∧ failures t [0] sampleLookup.op = 2 ∧
      ∀ t' r', AnsweredBy sampleFixed.oracle t' → Completes (AttestorService.serve sampleCrates
        ⟨sampleCosmos.adapter sampleCrates tokioRetry, sampleLocalSigner.signer⟩
        (.packetAttestation samplePacketsRequest)).run t' r' →
          r' = .ok (.packetAttestation ⟨some samplePacketAttestation⟩)) ∧
    ∃ t r, failures t [0] sampleLookup.op = 3 ∧ FailsClosed sampleCrates tokioRetry sampleCosmos
      (.packetAttestation samplePacketsRequest) t r := by
  have hanswers : sampleFixed.Answers sampleAttestedOutage :=
    (answers_samplePacketsOutage fun _ ha => (Except.ok.inj ha).symm).append
      (sampleFixed.answers_events _)
  have hanswers' : sampleFixed.Answers (samplePacketsOutage (.error "timeout")) :=
    answers_samplePacketsOutage fun _ ha => by cases ha
  have hserved := outages hanswers completes_sampleAttestedOutage
  have htransient : Transient sampleAttestedOutage := by
    intro s op
    by_contra hthree
    obtain ⟨e, he⟩ := (hserved.2 ⟨s, op, by omega⟩).error
    cases he
  have hthree : failures (samplePacketsOutage (.error "timeout")) [0] sampleLookup.op = 3 := by
    decide
  exact ⟨⟨sampleAttestedOutage, by decide, by decide, (hserved.1 htransient).2⟩, _, _, hthree,
    (outages hanswers' failed_samplePacketsOutage).2 ⟨[0], sampleLookup.op, hthree.ge⟩⟩

end IbcAttestor
