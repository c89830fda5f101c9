import IbcAttestor.Adapter.Cosmos
import IbcAttestor.Adapter.Evm
import IbcAttestor.Adapter.Solana
import IbcAttestor.Rpc.Spec

/-!
# The adapters together

`AdapterEnum` hands each call to the adapter of the configured chain, and keeps
the gauge of the finalized height.
-/

namespace IbcAttestor

open Cooperative

inductive AdapterEnum where
  | evm (a : EvmAdapter)
  | solana (a : SolanaAdapter)
  | cosmos (a : CosmosAdapter)

namespace AdapterEnum

variable (c : Crates) (retry : TokioRetry) (self : AdapterEnum)

def inner : AdapterEnum → AttestationAdapter node
  | .evm a => a.adapter c retry
  | .solana a => a.adapter c retry
  | .cosmos a => a.adapter c retry

def getLastHeightAtConfiguredFinality : Fallible node Metric AttestationAdapterError UInt64 := do
  let height ← (self.inner c retry).getLastHeightAtConfiguredFinality
  Fallible.event (.setAdapterFinalizedHeight height)
  return height

def adapter : AttestationAdapter node where
  getLastHeightAtConfiguredFinality := self.getLastHeightAtConfiguredFinality c retry
  getBlockTimestamp := (self.inner c retry).getBlockTimestamp
  getCommitment := (self.inner c retry).getCommitment

def heightQuery : AdapterEnum → Query UInt64
  | .evm a => a.heightQuery
  | .solana _ => SolanaAdapter.heightQuery
  | .cosmos _ => CosmosAdapter.heightQuery

/-- A height that the chain's height type cannot hold is refused without a call. -/
def timestampQuery (height : UInt64) : AdapterEnum → Except AttestationAdapterError (Query UInt64)
  | .evm _ => .ok (EvmAdapter.timestampQuery height)
  | .solana _ => .ok (SolanaAdapter.timestampQuery height)
  | .cosmos _ => ((c.heightTryFrom height).mapError fun _ => .invalidHeight).map
      CosmosAdapter.timestampQuery

def commitmentQuery (clientId : String) (height sequence : UInt64) (commitmentPath : Bytes)
    (kind : CommitmentType) : AdapterEnum → Query (Option Bytes32)
  | .evm a => a.commitmentQuery c height commitmentPath
  | .solana a => a.commitmentQuery c clientId height sequence kind
  | .cosmos _ => CosmosAdapter.commitmentQuery clientId height sequence kind

def lookupQuery (height : UInt64) (kind : CommitmentType) (p : Packet) : Query (Option Bytes32) :=
  self.commitmentQuery c (Crates.storeClient kind p) height p.sequence (c.pathOf kind p) kind

variable {c retry self} {t : Trace node Metric}

theorem getLastHeightAtConfiguredFinality_eq :
    (self.adapter c retry).getLastHeightAtConfiguredFinality = self.heightQuery.run retry >>=
      fun height => Fallible.report [.setAdapterFinalizedHeight height] (.ok height) := by
  have hinner : (self.inner c retry).getLastHeightAtConfiguredFinality =
      self.heightQuery.run retry := by
    cases self with
    | evm a => exact a.getLastHeightAtConfiguredFinality_eq retry
    | solana a => exact SolanaAdapter.getLastHeightAtConfiguredFinality_eq retry
    | cosmos a => exact CosmosAdapter.getLastHeightAtConfiguredFinality_eq retry
  rw [← hinner]
  rfl

theorem getBlockTimestamp_eq (height : UInt64) :
    (self.adapter c retry).getBlockTimestamp height = match self.timestampQuery c height with
      | .ok q => q.run retry
      | .error e => throw e := by
  cases self with
  | evm a => exact EvmAdapter.getBlockTimestamp_eq retry height
  | solana a => exact SolanaAdapter.getBlockTimestamp_eq retry height
  | cosmos a =>
    apply (CosmosAdapter.getBlockTimestamp_eq c retry height).trans
    simp only [timestampQuery]
    cases c.heightTryFrom height <;> rfl

theorem timestampQuery_cosmos {a : CosmosAdapter} {height : UInt64} {q : Query UInt64} :
    (AdapterEnum.cosmos a).timestampQuery c height = .ok q ↔
      height.toNat < 2 ^ 63 ∧ q = CosmosAdapter.timestampQuery height := by
  have hheight := c.heightTryFrom_ok height
  unfold timestampQuery
  cases hx : c.heightTryFrom height with
  | error e =>
    apply iff_of_false (by simp [Except.mapError, Except.map])
    intro h
    have hok := (hheight height).mpr ⟨rfl, h.1⟩
    rw [hx] at hok
    cases hok
  | ok height' =>
    obtain ⟨rfl, hlt⟩ := (hheight height').mp hx
    exact ⟨fun hq => ⟨hlt, (Except.ok.inj hq).symm⟩, fun hq => congrArg Except.ok hq.2.symm⟩

theorem lookup_eq (height : UInt64) (kind : CommitmentType) (p : Packet) :
    lookup c (self.adapter c retry) height kind p =
      (self.lookupQuery c height kind p).run retry := by
  cases self with
  | evm a =>
    exact a.getCommitment_eq c retry (Crates.storeClient kind p) height p.sequence
      (c.pathOf kind p) kind
  | solana a =>
    exact a.getCommitment_eq c retry (Crates.storeClient kind p) height p.sequence
      (c.pathOf kind p) kind
  | cosmos a =>
    exact CosmosAdapter.getCommitment_eq retry (Crates.storeClient kind p) height p.sequence
      (c.pathOf kind p) kind

/-- What a method of the adapter does: one retried chain call, and its metrics. -/
def AdapterLabel (op : ChainOp) (l : Label node Metric) : Prop :=
  l.site = [] ∧ match l.act with
    | .event e => (∃ operation, e = .incRetryFailure operation) ∨
        ∃ height, e = .setAdapterFinalizedHeight height
    | .call op' => op' = .chain op ∨ ∃ delay, op' = .sleep delay
    | .reply op' _ => op' = .chain op ∨ ∃ delay, op' = .sleep delay

theorem adapterLabel_of_attempt {operation : String} {op : ChainOp} {l : Label node Metric}
    (h : AttemptLabel operation op l) : AdapterLabel op l := by
  obtain ⟨site, act⟩ := l
  obtain ⟨hsite, hact⟩ := h
  refine ⟨hsite, ?_⟩
  cases act with
  | event e => exact .inl ⟨operation, hact⟩
  | call op' => exact hact
  | reply op' a => exact hact

theorem query_within {α : Type} (q : Query α) : (q.run retry).run.Within (AdapterLabel q.op) :=
  Query.within_run.mono fun _ => adapterLabel_of_attempt

theorem height_within :
    (self.adapter c retry).getLastHeightAtConfiguredFinality.run.Within
      (AdapterLabel self.heightQuery.op) := by
  rw [getLastHeightAtConfiguredFinality_eq]
  apply Fallible.within_bind (query_within _)
  intro height
  apply Fallible.within_report
  intro e he
  rw [List.mem_singleton] at he
  exact ⟨rfl, .inr ⟨height, he⟩⟩

theorem timestamp_within {height : UInt64} {P : Label node Metric → Prop}
    (hP : ∀ q, self.timestampQuery c height = .ok q → ∀ l, AdapterLabel q.op l → P l) :
    ((self.adapter c retry).getBlockTimestamp height).run.Within P := by
  rw [getBlockTimestamp_eq]
  cases hq : self.timestampQuery c height with
  | ok q => exact (query_within q).mono (hP q hq)
  | error e => trivial

theorem lookup_within {height : UInt64} {kind : CommitmentType} {p : Packet} :
    (lookup c (self.adapter c retry) height kind p).run.Within
      (AdapterLabel (self.lookupQuery c height kind p).op) := by
  rw [lookup_eq]
  exact query_within _

theorem completes_height {r : Except AttestationAdapterError UInt64}
    (h : Completes (self.adapter c retry).getLastHeightAtConfiguredFinality.run t r) :
    (∃ a, Replied t [] (.chain self.heightQuery.op) (.ok a) ∧
        failures t [] self.heightQuery.op ≤ 2 ∧ r = self.heightQuery.check a) ∨
      failures t [] self.heightQuery.op = 3 ∧ ∃ text, r = .error (.retrievalError text) := by
  rw [getLastHeightAtConfiguredFinality_eq] at h
  rcases completes_bindOk.mp h with ⟨e, he, rfl⟩ | ⟨v, t₁, t₂, rfl, h₁, h₂⟩
  · exact Query.completes_run he
  · obtain ⟨rfl, rfl⟩ := completes_report.mp h₂
    obtain ⟨a, hreply, hfail, hcheck⟩ := Query.completes_run_ok h₁
    refine .inl ⟨a, replied_append.mpr (.inl hreply), ?_, hcheck.symm⟩
    rw [failures_append]
    simpa [failures, Label.isFailure] using hfail

theorem completes_height_replied {r : Except AttestationAdapterError UInt64}
    {x : self.heightQuery.op.Val}
    (h : Completes (self.adapter c retry).getLastHeightAtConfiguredFinality.run t r)
    (hx : Replied t [] (.chain self.heightQuery.op) (.ok x)) : r = self.heightQuery.check x := by
  rw [getLastHeightAtConfiguredFinality_eq] at h
  rcases completes_bindOk.mp h with ⟨e, he, rfl⟩ | ⟨v, t₁, t₂, rfl, h₁, h₂⟩
  · exact Query.completes_run_replied he hx
  · obtain ⟨rfl, rfl⟩ := completes_report.mp h₂
    apply Query.completes_run_replied h₁
    simpa [Replied] using hx

theorem completes_height_answered (c : Crates) (retry : TokioRetry) (self : AdapterEnum)
    (x : self.heightQuery.op.Val) : ∃ t,
    Completes (self.adapter c retry).getLastHeightAtConfiguredFinality.run t
      (self.heightQuery.check x) ∧ Replied t [] (.chain self.heightQuery.op) (.ok x) := by
  have hrun := self.heightQuery.completes_answered retry x
  rw [getLastHeightAtConfiguredFinality_eq]
  cases hx : self.heightQuery.check x with
  | error e =>
    rw [hx] at hrun
    exact ⟨_, completes_bindOk.mpr (.inl ⟨e, hrun, rfl⟩), by simp [Replied]⟩
  | ok height =>
    rw [hx] at hrun
    exact ⟨_, completes_bindOk.mpr (.inr ⟨height, _, _, rfl, hrun,
      completes_report.mpr ⟨rfl, rfl⟩⟩), by simp [Replied]⟩

theorem completes_timestamp {height : UInt64} {r : Except AttestationAdapterError UInt64}
    (h : Completes ((self.adapter c retry).getBlockTimestamp height).run t r) :
    (∃ e, self.timestampQuery c height = .error e ∧ t = [] ∧ r = .error e) ∨
      ∃ q, self.timestampQuery c height = .ok q ∧ Completes (q.run retry).run t r := by
  rw [getBlockTimestamp_eq] at h
  cases hq : self.timestampQuery c height with
  | ok q =>
    rw [hq] at h
    exact .inr ⟨q, rfl, h⟩
  | error e =>
    rw [hq] at h
    obtain ⟨ht, hr⟩ := runs_throw.mp h
    exact .inl ⟨e, rfl, ht, Outcome.finished.inj hr⟩

end AdapterEnum
end IbcAttestor
