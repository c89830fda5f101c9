import IbcAttestor.Cooperative.Linearizable
import IbcAttestor.Rpc.History
import IbcAttestor.Rpc.Middleware
import IbcAttestor.Rpc.Outages

/-!
# Requests as single reads

A request asks for the finalized height, and after that once more for every packet, while
the chain grows and other requests are served. All the same its response is the one of a
single moment: nothing that the later answers depend on changes once it is finalized.
-/

namespace IbcAttestor

open Cooperative

/-- A chain whose finalized part only grows: the finalized height at each moment, and what is
stored and the timestamp at each height. -/
structure FinalizedChain (M : Type) [Preorder M] where
  head : M → UInt64
  head_le : ∀ m n, m ≤ n → head m ≤ head n
  state : UInt64 → Store
  timestamp : UInt64 → UInt64

/-- The lookups of the adapter are read from the state at the height they are made for.
Solana's are made at the current slot, and a Cosmos node takes the height 0 for the latest. -/
def AdapterEnum.ReadsAt (height : UInt64) : AdapterEnum → Prop
  | .evm _ => True
  | .solana _ => False
  | .cosmos _ => height ≠ 0

/-- The lookups of a request, if it makes any, are read from the state at its height. -/
def RpcRequest.ReadsAt (a : AdapterEnum) : RpcRequest → Prop
  | .packetAttestation request => a.ReadsAt request.height
  | _ => True

/-- The response may be followed by the other one: a finalized height by a height that is not
below it, and an attestation by nothing but itself. -/
def RpcResponse.Remains : RpcResponse → RpcResponse → Prop
  | .latestHeight response, response' =>
    ∃ height, response.height ≤ height ∧ response' = .latestHeight ⟨height⟩
  | response, response' => response' = response

def unavailable (text : String) : Status :=
  .ofAttestorError (.adapterError (.retrievalError text))

/-- A request, and the errors with which chain calls failed for good while it was served. -/
structure Exchange where
  request : RpcRequest
  failures : Set String

/-- The signer may sign each message as the function says. -/
def SignsAs {c : Crates} (signer : SignerEnum c)
    (signature : Bytes → Except SignerError Signature) : Prop :=
  ∀ message, ∃ t, Completes (signer.sign message).run t (signature message)

theorem exists_signsAs {c : Crates} (signer : SignerEnum c) :
    ∃ signature, SignsAs signer signature :=
  ⟨fun message => (signer.sign message).run.eval (sampleNode 0),
    fun _ => ⟨_, Proc.sequential_completes rfl⟩⟩

theorem exists_signsAs_of_run {c : Crates} {signer : SignerEnum c} {message : Bytes}
    {t : Trace node Metric} {r : Except SignerError Signature}
    (h : Completes (signer.sign message).run t r) :
    ∃ signature, SignsAs signer signature ∧ signature message = r := by
  obtain ⟨signature, hsignature⟩ := exists_signsAs signer
  refine ⟨Function.update signature message r, fun message' => ?_, Function.update_self ..⟩
  by_cases hm : message' = message
  · subst hm
    rw [Function.update_self]
    exact ⟨t, h⟩
  · rw [Function.update_of_ne hm]
    exact hsignature message'

namespace FailedForGood

variable {t t₁ t₂ : Trace node Metric} {text : String}

theorem left (h : FailedForGood t₁ text) : FailedForGood (t₁ ++ t₂) text := by
  obtain ⟨s, op, u, v, rfl, htwo⟩ := h
  exact ⟨s, op, u, v ++ t₂, by simp, htwo⟩

theorem right (h : FailedForGood t₂ text) : FailedForGood (t₁ ++ t₂) text := by
  obtain ⟨s, op, u, v, rfl, htwo⟩ := h
  refine ⟨s, op, t₁ ++ u, v, by simp, ?_⟩
  rw [failures_append]
  omega

theorem child {i : ℕ} (h : FailedForGood (childTrace i t) text) : FailedForGood t text := by
  obtain ⟨s, op, u, v, ht, htwo⟩ := h
  obtain ⟨u', w, rfl, rfl, hw⟩ := List.filterMap_eq_append_iff.mp ht
  obtain ⟨w', l, v', rfl, hskipped, hl, -⟩ := List.filterMap_eq_cons_iff.mp hw
  have hchild : l = ⟨i :: s, .reply (.chain op) (.error text)⟩ := by
    have hmem : (⟨s, .reply (.chain op) (.error text)⟩ : Label node Metric) ∈ childTrace i [l] := by
      rw [childTrace, List.filterMap_cons_some hl]
      exact List.mem_cons_self
    exact (List.mem_singleton.mp (mem_childTrace.mp hmem)).symm
  subst hchild
  refine ⟨i :: s, op, u' ++ w', v', by simp, ?_⟩
  change 2 ≤ failures (childTrace i u') s op at htwo
  rw [failures_childTrace] at htwo
  rw [failures_append]
  omega

theorem not_transient (h : FailedForGood t text) : ¬ Transient t := by
  obtain ⟨s, op, u, v, rfl, htwo⟩ := h
  intro htransient
  have hle := htransient s op
  have hone : failures (⟨s, .reply (.chain op) (.error text)⟩ :: v) s op = failures v s op + 1 := by
    rw [failures, List.countP_cons_of_pos (Label.isFailure_iff.mpr ⟨text, rfl⟩)]
    rfl
  rw [failures_append, hone] at hle
  omega

end FailedForGood

theorem Query.completes_run_valued {α : Type} {q : Query α} {retry : TokioRetry}
    {t : Trace node Metric} {r v : Except AttestationAdapterError α} (hwrap : q.wrap = id)
    (h : Completes (q.run retry).run t r)
    (hvalue : ∀ x, Replied t [] (.chain q.op) (.ok x) → q.check x = v) :
    r = v ∨ ∃ text, FailedForGood t text ∧ r = .error (.retrievalError text) := by
  rcases Query.completes_run_lasting h with ⟨x, hx, rfl⟩ | ⟨text, hfailed, rfl⟩
  · exact .inl (hvalue x hx)
  · rw [hwrap]
    exact .inr ⟨text, hfailed, rfl⟩

theorem AdapterEnum.heightQuery_wrap (a : AdapterEnum) : a.heightQuery.wrap = id := by
  cases a <;> rfl

theorem AdapterEnum.timestampQuery_wrap {c : Crates} {a : AdapterEnum} {height : UInt64}
    {q : Query UInt64} (h : a.timestampQuery c height = .ok q) : q.wrap = id := by
  cases a with
  | evm a =>
    cases h
    rfl
  | solana a =>
    cases h
    rfl
  | cosmos a =>
    obtain ⟨-, rfl⟩ := timestampQuery_cosmos.mp h
    rfl

theorem AdapterEnum.ReadsAt.lookupQuery_wrap {c : Crates} {a : AdapterEnum} {height : UInt64}
    {kind : CommitmentType} {p : Packet} (h : a.ReadsAt height) :
    (a.lookupQuery c height kind p).wrap = id := by
  cases a with
  | evm a => rfl
  | solana a => exact h.elim
  | cosmos a => cases kind <;> rfl

namespace FinalizedChain

variable {M : Type} [Preorder M] (chain : FinalizedChain M) (c : Crates) (a : AdapterEnum)

/-- The world answers from the chain, as far as it is finalized. -/
structure Serves (world : World M) : Prop where
  head : ∀ m x, world m (.chain a.heightCall) (.ok x) → a.finalizedIn x = some (chain.head m)
  timestamp : ∀ m height x, height ≤ chain.head m →
    world m (.chain (a.timestampCall height)) (.ok x) →
    a.timestampIn height x = some (chain.timestamp height)
  stored : ∀ m height kind p x, height ≤ chain.head m → a.ReadsAt height →
    world m (.chain (a.lookupCall c height kind p)) (.ok x) →
    Reflects ((chain.state height).stored kind p) _ x

def lookupAt (height : UInt64) (kind : CommitmentType) (p : Packet) :
    Except AttestationAdapterError (Option Bytes32) :=
  a.lookupResult ((chain.state height).stored kind p) p kind

def prepareStateAt (head : UInt64) (request : StateAttestationRequest) :
    Except Status StateAttestation := do
  (heightVerdict head request.height).mapError Status.ofAttestorError
  let _ ← (a.timestampQuery c request.height).mapError fun e =>
    Status.ofAttestorError (.adapterError e)
  return ⟨request.height, chain.timestamp request.height⟩

def preparePacketsAt (head : UInt64) (request : PacketAttestationRequest) :
    Except Status PacketAttestation := do
  let (packets, kind) ← (decodeRequest c request).mapError Status.ofAttestorError
  (heightVerdict head request.height).mapError Status.ofAttestorError
  let entries ← (validateInOrder c kind request.height (packets.map fun p =>
    (p, chain.lookupAt a request.height kind p))).mapError Status.ofAttestorError
  return ⟨request.height, entries⟩

/-- The response to a request that is served in no time, when the finalized height is `head`
and the signer signs as `signature` says. -/
def respond (head : UInt64) (signature : Bytes → Except SignerError Signature) :
    RpcRequest → Except Status RpcResponse
  | .latestHeight _ => .ok (.latestHeight ⟨head⟩)
  | .stateAttestation request => do
    let u ← chain.prepareStateAt c a head request
    let attestation ← signedResult c request.height (some u.timestamp) (statePayload c u)
      (signature ((statePayload c u).taggedSigningInput c))
    return .stateAttestation ⟨some attestation⟩
  | .packetAttestation request => do
    let u ← chain.preparePacketsAt c a head request
    let attestation ← signedResult c request.height none (packetsPayload c u)
      (signature ((packetsPayload c u).taggedSigningInput c))
    return .packetAttestation ⟨some attestation⟩

/-- What a request may come to when the finalized height is `head`: its response, with any
result of the signer, or an error of a chain call that failed for good. -/
def Answers (signer : SignerEnum c) (head : UInt64) (exchange : Exchange)
    (r : Except Status RpcResponse) : Prop :=
  (∃ signature, SignsAs signer signature ∧ r = chain.respond c a head signature exchange.request) ∨
    ∃ text ∈ exchange.failures, r = .error (unavailable text)

/-- Every reply of a run is given when the height is finalized. -/
def RepliedAfter (world : World M) (height : UInt64) (t : Trace node Metric) : Prop :=
  ∀ s op x, Replied t s op x → ∃ m, height ≤ chain.head m ∧ world m op x

variable {chain c a} {world : World M} {retry : TokioRetry} {u : Stamped M node Metric}
  {t t₁ t₂ : Trace node Metric}

theorem RepliedAfter.left {height : UInt64} (h : chain.RepliedAfter world height (t₁ ++ t₂)) :
    chain.RepliedAfter world height t₁ :=
  fun s op x hx => h s op x (List.mem_append_left _ hx)

theorem RepliedAfter.child {height : UInt64} (h : chain.RepliedAfter world height t) (i : ℕ) :
    chain.RepliedAfter world height (childTrace i t) :=
  fun s op x hx => h (i :: s) op x (replied_child.mp hx)

namespace Serves

variable (hserves : chain.Serves c a world)
include hserves

theorem check_head {m : M} {x : a.heightQuery.op.Val}
    (hx : world m (.chain a.heightQuery.op) (.ok x)) :
    a.heightQuery.check x = .ok (chain.head m) := by
  obtain ⟨f, hf, rfl⟩ := AdapterEnum.heightQuery_check_of_told
    (fun op y => world m (.chain op) (.ok y)) (P := fun f => f = chain.head m)
    (fun y hy => ⟨_, hserves.head m y hy, rfl⟩) x hx
  exact hf

theorem height_now {r : Except AttestationAdapterError UInt64} (hu : Observes world u)
    (ht : ∀ l ∈ t, l ∈ u.map Prod.snd)
    (h : Completes (a.adapter c retry).getLastHeightAtConfiguredFinality.run t r) :
    (∃ m ∈ u.map Prod.fst, r = .ok (chain.head m)) ∨
      ∃ text, FailedForGood t text ∧ r = .error (.retrievalError text) := by
  have hquery : ∀ {v r'}, (∀ l ∈ v, l ∈ u.map Prod.snd) →
      Completes (a.heightQuery.run retry).run v r' →
      (∃ m ∈ u.map Prod.fst, r' = .ok (chain.head m)) ∨
        ∃ text, FailedForGood v text ∧ r' = .error (.retrievalError text) := by
    intro v r' hv hrun
    rcases Query.completes_run_lasting hrun with ⟨x, hx, rfl⟩ | ⟨text, hfailed, rfl⟩
    · obtain ⟨⟨m, l⟩, hm, rfl⟩ := List.mem_map.mp (hv _ hx)
      exact .inl ⟨m, List.mem_map_of_mem hm, hserves.check_head (hu.answered m _ _ _ hm)⟩
    · rw [a.heightQuery_wrap]
      exact .inr ⟨text, hfailed, rfl⟩
  rw [AdapterEnum.getLastHeightAtConfiguredFinality_eq] at h
  rcases completes_bindOk.mp h with ⟨e, he, rfl⟩ | ⟨f, t₁, t₂, rfl, h₁, h₂⟩
  · refine (hquery ht he).imp ?_ ?_
    · rintro ⟨m, -, hm⟩
      cases hm
    · rintro ⟨text, hfailed, htext⟩
      cases htext
      exact ⟨text, hfailed, rfl⟩
  · obtain ⟨rfl, rfl⟩ := completes_report.mp h₂
    rcases hquery (fun l hl => ht l (List.mem_append_left _ hl)) h₁ with hm | ⟨text, -, htext⟩
    · exact .inl hm
    · cases htext

theorem validated_now {height : UInt64} {r : Except AttestorError Unit} (hu : Observes world u)
    (ht : ∀ l ∈ t, l ∈ u.map Prod.snd)
    (h : Completes (validateHeight (a.adapter c retry) height).run t r) :
    (∃ m ∈ u.map Prod.fst, r = heightVerdict (chain.head m) height) ∨
      ∃ text, FailedForGood t text ∧ r = .error (.adapterError (.retrievalError text)) := by
  rcases completes_validateHeight.mp h with ⟨e, he, rfl⟩ | ⟨f, t₁, rfl, hf, rfl⟩
  · rcases hserves.height_now hu ht he with ⟨m, -, hm⟩ | ⟨text, hlasting, htext⟩
    · cases hm
    · cases htext
      exact .inr ⟨text, hlasting, rfl⟩
  · have ht₁ : ∀ l ∈ t₁, l ∈ u.map Prod.snd := fun l hl => ht l (List.mem_append_left _ hl)
    rcases hserves.height_now hu ht₁ hf with ⟨m, hm, hfm⟩ | ⟨text, -, htext⟩
    · cases hfm
      exact .inl ⟨m, hm, rfl⟩
    · cases htext

/-- What is asked after a height has been validated is answered when it is finalized. -/
theorem repliedAfter_validated {height : UInt64} {t₃ : Trace node Metric} (hu : Observes world u)
    (ht : u.map Prod.snd = t₁ ++ t₂ ++ t₃)
    (h : Completes (validateHeight (a.adapter c retry) height).run t₁ (.ok ())) :
    chain.RepliedAfter world height t₂ := by
  obtain ⟨f, t₀, rfl, hf, hle⟩ := completes_validateHeight_ok.mp h
  obtain ⟨x, hx, hcheck⟩ := AdapterEnum.height_replied hf
  rw [List.append_assoc] at ht
  intro s op y hy
  obtain ⟨m, n, -, hmn, hm, hn⟩ :=
    hu.reply_reply ht (List.mem_append_left _ hx) (List.mem_append_left _ hy)
  have hfm : f = chain.head m := by
    rw [hserves.check_head hm] at hcheck
    exact (Except.ok.inj hcheck).symm
  subst hfm
  exact ⟨n, UInt64.le_trans hle (chain.head_le m n hmn), hn⟩

theorem timestamp_after {height : UInt64} {r : Except AttestationAdapterError UInt64}
    (ht : chain.RepliedAfter world height t)
    (h : Completes ((a.adapter c retry).getBlockTimestamp height).run t r) :
    r = (a.timestampQuery c height).map (fun _ => chain.timestamp height) ∨
      ∃ text, FailedForGood t text ∧ r = .error (.retrievalError text) := by
  rcases AdapterEnum.completes_timestamp h with ⟨e, he, -, rfl⟩ | ⟨q, hq, hrun⟩
  · rw [he]
    exact .inl rfl
  · rw [hq]
    apply Query.completes_run_valued (AdapterEnum.timestampQuery_wrap hq) hrun
    intro x hx
    obtain ⟨m, hle, hm⟩ := ht _ _ _ hx
    exact AdapterEnum.timestampQuery_check_of_told
      (fun op y => world m (.chain op) (.ok y))
      (fun y hy => hserves.timestamp m height y hle hy) hq x hm

theorem lookup_after {height : UInt64} {kind : CommitmentType} {p : Packet}
    {r : Except AttestationAdapterError (Option Bytes32)}
    (ht : chain.RepliedAfter world height t) (hreads : a.ReadsAt height)
    (h : Completes (lookup c (a.adapter c retry) height kind p).run t r) :
    r = chain.lookupAt a height kind p ∨
      ∃ text, FailedForGood t text ∧ r = .error (.retrievalError text) := by
  rw [AdapterEnum.lookup_eq] at h
  apply Query.completes_run_valued hreads.lookupQuery_wrap h
  intro x hx
  obtain ⟨m, hle, hm⟩ := ht _ _ _ hx
  have hstored := hserves.stored m height kind p
  rw [← AdapterEnum.lookupQuery_op] at hstored
  exact AdapterEnum.check_of_reflects (Store.ne_zero _ _ _ _) (hstored x hle hreads hm)

end Serves

theorem validateInOrder_failing (kind : CommitmentType) (height : UInt64)
    (lookups : Packet → Except AttestationAdapterError (Option Bytes32)) {lasting : String → Prop}
    {items : List Item} (h : ∀ item ∈ items, item.2 = lookups item.1 ∨
      ∃ text, lasting text ∧ item.2 = .error (.retrievalError text)) :
    validateInOrder c kind height items =
        validateInOrder c kind height (items.map fun item => (item.1, lookups item.1)) ∨
      ∃ text, lasting text ∧ validateInOrder c kind height items =
        .error (.adapterError (.retrievalError text)) := by
  induction items with
  | nil => exact .inl rfl
  | cons item items ih =>
    obtain ⟨p, answer⟩ := item
    have hrest := ih fun x hx => h x (List.mem_cons_of_mem _ hx)
    rcases h _ List.mem_cons_self with hanswer | ⟨text, hlasting, hanswer⟩
    · obtain rfl : answer = lookups p := hanswer
      rw [List.map_cons, validateInOrder, validateInOrder]
      cases packetResult c kind height p (lookups p) with
      | error e => exact .inl rfl
      | ok entry =>
        rcases hrest with hrest | ⟨text, hlasting, htext⟩
        · rw [hrest]
          exact .inl rfl
        · rw [htext]
          exact .inr ⟨text, hlasting, rfl⟩
    · obtain rfl : answer = .error (.retrievalError text) := hanswer
      exact .inr ⟨text, hlasting, rfl⟩

namespace Serves

variable (hserves : chain.Serves c a world)
include hserves

theorem batch_after {packets : List Packet} {kind : CommitmentType} {height : UInt64}
    {r : Except AttestorError PacketAttestation} (ht : chain.RepliedAfter world height t)
    (hreads : a.ReadsAt height)
    (h : Completes (createPacketsAttestation c (a.adapter c retry) packets height kind).run t r) :
    r = (validateInOrder c kind height (packets.map fun p =>
        (p, chain.lookupAt a height kind p))).map (PacketAttestation.mk height) ∨
      ∃ text, FailedForGood t text ∧ r = .error (.adapterError (.retrievalError text)) := by
  obtain ⟨items, rfl, hitems, rfl⟩ := exists_assigned h
  have hanswers : ∀ item ∈ items, item.2 = chain.lookupAt a height kind item.1 ∨
      ∃ text, FailedForGood t text ∧ item.2 = .error (.retrievalError text) := by
    intro item hitem
    obtain ⟨i, rfl⟩ := List.get_of_mem hitem
    obtain ⟨t₁, recorded, hchild, hrun⟩ := hitems i
    have hafter := ht.child i
    rw [hchild] at hafter
    apply (hserves.lookup_after hafter.left hreads hrun).imp_right
    rintro ⟨text, hlasting, herror⟩
    refine ⟨text, FailedForGood.child (i := i) ?_, herror⟩
    rw [hchild]
    exact hlasting.left
  rw [List.map_map]
  rcases validateInOrder_failing (c := c) kind height (chain.lookupAt a height kind) hanswers with
    hbatch | ⟨text, hlasting, htext⟩
  · rw [hbatch]
    exact .inl rfl
  · rw [htext]
    exact .inr ⟨text, hlasting, rfl⟩

theorem prepareState_now {request : StateAttestationRequest} {r : Except Status StateAttestation}
    (hu : Observes world u) (ht : u.map Prod.snd = t₁ ++ t₂)
    (h : Completes (prepareState (a.adapter c retry) request).run t₁ r) :
    (∃ m ∈ u.map Prod.fst, r = chain.prepareStateAt c a (chain.head m) request) ∨
      ∃ text, FailedForGood t₁ text ∧ r = .error (unavailable text) := by
  have hmem : ∀ l ∈ t₁, l ∈ u.map Prod.snd := fun l hl => ht ▸ List.mem_append_left _ hl
  rcases completes_bindOk.mp h with ⟨e, he, rfl⟩ | ⟨⟨⟩, t₃, t₄, rfl, h₁, h₂⟩
  · obtain ⟨e', he', rfl⟩ := completes_mapErr_error.mp he
    rcases hserves.validated_now hu hmem he' with ⟨m, hm, hverdict⟩ | ⟨text, hlasting, htext⟩
    · left
      refine ⟨m, hm, ?_⟩
      rw [prepareStateAt, ← hverdict]
      rfl
    · cases htext
      exact .inr ⟨text, hlasting, rfl⟩
  · have h₁ := completes_mapErr_ok.mp h₁
    have hafter := hserves.repliedAfter_validated hu ht h₁
    obtain ⟨m, hm, hverdict⟩ := (hserves.validated_now hu
      (fun l hl => hmem l (List.mem_append_left _ hl)) h₁).resolve_right (by simp)
    obtain ⟨r', h₃, rfl⟩ := completes_mapOk.mp h₂
    obtain ⟨r'', h₄, rfl⟩ := completes_mapErr.mp h₃
    rcases hserves.timestamp_after hafter h₄ with rfl | ⟨text, hlasting, rfl⟩
    · left
      refine ⟨m, hm, ?_⟩
      rw [prepareStateAt, ← hverdict]
      cases a.timestampQuery c request.height <;> rfl
    · exact .inr ⟨text, hlasting.right, rfl⟩

theorem preparePackets_now {request : PacketAttestationRequest}
    {r : Except Status PacketAttestation} (hu : Observes world u) {m₀ : M}
    (hm₀ : m₀ ∈ u.map Prod.fst) (ht : u.map Prod.snd = t₁ ++ t₂)
    (hreads : a.ReadsAt request.height)
    (h : Completes (preparePackets c (a.adapter c retry) request).run t₁ r) :
    (∃ m ∈ u.map Prod.fst, r = chain.preparePacketsAt c a (chain.head m) request) ∨
      ∃ text, FailedForGood t₁ text ∧ r = .error (unavailable text) := by
  have hmem : ∀ l ∈ t₁, l ∈ u.map Prod.snd := fun l hl => ht ▸ List.mem_append_left _ hl
  rcases (completes_preparePackets c).mp h with
    ⟨e, hdecode, -, rfl⟩ | ⟨packets, kind, hdecode, ⟨e, he, rfl⟩ | ⟨t₃, t₄, r', rfl, h₃, h₄, rfl⟩⟩
  · left
    refine ⟨m₀, hm₀, ?_⟩
    rw [preparePacketsAt, hdecode]
    rfl
  · rcases hserves.validated_now hu hmem he with ⟨m, hm, hverdict⟩ | ⟨text, hlasting, htext⟩
    · left
      refine ⟨m, hm, ?_⟩
      rw [preparePacketsAt, hdecode, ← hverdict]
      rfl
    · cases htext
      exact .inr ⟨text, hlasting, rfl⟩
  · have hafter := hserves.repliedAfter_validated hu ht h₃
    obtain ⟨m, hm, hverdict⟩ := (hserves.validated_now hu
      (fun l hl => hmem l (List.mem_append_left _ hl)) h₃).resolve_right (by simp)
    rcases hserves.batch_after hafter hreads h₄ with rfl | ⟨text, hlasting, rfl⟩
    · left
      refine ⟨m, hm, ?_⟩
      rw [preparePacketsAt, hdecode, ← hverdict]
      change _ = (Except.mapError _ (validateInOrder _ _ _ _) >>= fun entries => _)
      cases validateInOrder c kind request.height (packets.map fun p =>
        (p, chain.lookupAt a request.height kind p)) <;> rfl
    · exact .inr ⟨text, hlasting.right, rfl⟩

end Serves

theorem signed_now {υ ρ : Type} {signer : SignerEnum c} {x : Fallible node Metric Status υ}
    {height : UInt64} {timestamp : υ → Option UInt64} {payload : υ → AttestationPayload}
    {wrap : Attestation → ρ} {f : UInt64 → Except Status υ} {r : Except Status ρ}
    (hx : ∀ t₁ t₂ r, t = t₁ ++ t₂ → Completes x.run t₁ r →
      (∃ m ∈ u.map Prod.fst, r = f (chain.head m)) ∨
        ∃ text, FailedForGood t₁ text ∧ r = .error (unavailable text))
    (h : Completes (x >>= fun v => signed c signer.signer height (timestamp v) (payload v) >>=
      fun a => return wrap a).run t r) :
    (∃ m ∈ u.map Prod.fst, ∃ signature, SignsAs signer signature ∧
        r = f (chain.head m) >>= fun v => signedResult c height (timestamp v) (payload v)
          (signature ((payload v).taggedSigningInput c)) >>= fun a => return wrap a) ∨
      ∃ text, FailedForGood t text ∧ r = .error (unavailable text) := by
  rcases (completes_prepared c).mp h with ⟨e, he, rfl⟩ | ⟨v, t₁, t₂, r', rfl, h₁, h₂, rfl⟩
  · rcases hx t [] _ (List.append_nil t).symm he with ⟨m, hm, hr⟩ | ⟨text, hlasting, htext⟩
    · obtain ⟨signature, hsignature⟩ := exists_signsAs signer
      refine .inl ⟨m, hm, signature, hsignature, ?_⟩
      rw [← hr]
      rfl
    · cases htext
      exact .inr ⟨text, hlasting, rfl⟩
  · obtain ⟨m, hm, hr⟩ := (hx t₁ t₂ _ rfl h₁).resolve_right (by simp)
    obtain ⟨signature, hsignature, hv⟩ := exists_signsAs_of_run h₂
    refine .inl ⟨m, hm, signature, hsignature, ?_⟩
    rw [← hr, ← hv]
    rfl

/-- A request is served as at a moment of its run, unless a call fails for good. -/
theorem Serves.serve_now (hserves : chain.Serves c a world) {signer : SignerEnum c}
    {request : RpcRequest} {r : Except Status RpcResponse} (hu : Observes world u)
    (hreads : request.ReadsAt a)
    (h : Completes (LoggingMiddleware.serve c ⟨⟨a.adapter c retry, signer.signer⟩⟩ request).run
      (u.map Prod.snd) r) :
    (∃ m ∈ u.map Prod.fst, ∃ signature, SignsAs signer signature ∧
        r = chain.respond c a (chain.head m) signature request) ∨
      ∃ text, FailedForGood (u.map Prod.snd) text ∧ r = .error (unavailable text) := by
  obtain ⟨t, e, ht, hserve⟩ := LoggingMiddleware.completes_serve h
  have hlasting : ∀ text, FailedForGood t text → FailedForGood (u.map Prod.snd) text := by
    rw [ht]
    exact fun text => FailedForGood.left
  cases request with
  | latestHeight request =>
    obtain ⟨r', h', rfl⟩ := completes_mapOk.mp hserve
    obtain ⟨r'', h'', rfl⟩ := completes_mapOk.mp h'
    obtain ⟨r₀, h₀, rfl⟩ := completes_mapErr.mp h''
    have hmem : ∀ l ∈ t, l ∈ u.map Prod.snd := fun l hl => ht ▸ List.mem_append_left _ hl
    rcases hserves.height_now hu hmem h₀ with ⟨m, hm, rfl⟩ | ⟨text, hfail, rfl⟩
    · obtain ⟨signature, hsignature⟩ := exists_signsAs signer
      exact .inl ⟨m, hm, signature, hsignature, rfl⟩
    · exact .inr ⟨text, hlasting text hfail, rfl⟩
  | stateAttestation request =>
    rw [serve_stateAttestation] at hserve
    have hprepared : ∀ t₁ t₂ r', t = t₁ ++ t₂ →
        Completes (prepareState (a.adapter c retry) request).run t₁ r' →
        (∃ m ∈ u.map Prod.fst, r' = chain.prepareStateAt c a (chain.head m) request) ∨
          ∃ text, FailedForGood t₁ text ∧ r' = .error (unavailable text) := by
      intro t₁ t₂ r' hsplit hrun
      rw [hsplit, List.append_assoc] at ht
      exact hserves.prepareState_now hu ht hrun
    have hsigned := signed_now (f := fun head => chain.prepareStateAt c a head request)
      hprepared hserve
    exact hsigned.imp_right fun ⟨text, hfailed, hr⟩ => ⟨text, hlasting text hfailed, hr⟩
  | packetAttestation request =>
    rw [serve_packetAttestation] at hserve
    have hevent : (⟨[], .event e⟩ : Label node Metric) ∈ u.map Prod.snd := by
      rw [ht]
      simp
    obtain ⟨⟨m₀, l⟩, hm₀, -⟩ := List.mem_map.mp hevent
    have hprepared : ∀ t₁ t₂ r', t = t₁ ++ t₂ →
        Completes (preparePackets c (a.adapter c retry) request).run t₁ r' →
        (∃ m ∈ u.map Prod.fst, r' = chain.preparePacketsAt c a (chain.head m) request) ∨
          ∃ text, FailedForGood t₁ text ∧ r' = .error (unavailable text) := by
      intro t₁ t₂ r' hsplit hrun
      rw [hsplit, List.append_assoc] at ht
      exact hserves.preparePackets_now hu (List.mem_map_of_mem hm₀) ht hreads hrun
    have hsigned := signed_now (f := fun head => chain.preparePacketsAt c a head request)
      hprepared hserve
    exact hsigned.imp_right fun ⟨text, hfailed, hr⟩ => ⟨text, hlasting text hfailed, hr⟩

/-- What follows a validated height also follows it when more is finalized. -/
theorem verdict_mono {α : Type} {head head' height : UInt64} (hle : head ≤ head')
    {k : Unit → Except Status α} {v : α}
    (h : ((heightVerdict head height).mapError Status.ofAttestorError >>= k) = .ok v) :
    ((heightVerdict head' height).mapError Status.ofAttestorError >>= k) = .ok v := by
  cases hverdict : heightVerdict head height with
  | error e =>
    rw [hverdict] at h
    cases h
  | ok x =>
    rw [hverdict] at h
    have hle' := UInt64.le_trans (heightVerdict_ok.mp hverdict) hle
    rw [heightVerdict_ok.mpr hle']
    exact h

theorem preparePacketsAt_mono {head head' : UInt64} (hle : head ≤ head')
    {request : PacketAttestationRequest} {v : PacketAttestation}
    (h : chain.preparePacketsAt c a head request = .ok v) :
    chain.preparePacketsAt c a head' request = .ok v := by
  unfold preparePacketsAt at h ⊢
  cases hdecode : decodeRequest c request with
  | error e =>
    rw [hdecode] at h
    cases h
  | ok x =>
    rw [hdecode] at h
    exact verdict_mono hle h

theorem remains_attested {υ : Type} {x x' : Except Status υ} {k : υ → Except Status Attestation}
    {wrap : Attestation → RpcResponse} {response : RpcResponse}
    (hwrap : ∀ attestation, (wrap attestation).Remains (wrap attestation))
    (hx : ∀ v, x = .ok v → x' = .ok v)
    (h : (x >>= fun v => k v >>= fun attestation => return wrap attestation) = .ok response) :
    ∃ response', (x' >>= fun v => k v >>= fun attestation => return wrap attestation) =
      .ok response' ∧ response.Remains response' := by
  cases x with
  | error e => cases h
  | ok v =>
    rw [hx v rfl]
    refine ⟨response, h, ?_⟩
    change (k v >>= fun attestation => return wrap attestation) = _ at h
    cases hk : k v with
    | error e =>
      rw [hk] at h
      cases h
    | ok attestation =>
      rw [hk] at h
      cases h
      exact hwrap attestation

theorem respond_mono {head head' : UInt64} (hle : head ≤ head')
    {signature : Bytes → Except SignerError Signature} {request : RpcRequest}
    {response : RpcResponse} (h : chain.respond c a head signature request = .ok response) :
    ∃ response', chain.respond c a head' signature request = .ok response' ∧
      response.Remains response' := by
  cases request with
  | latestHeight request =>
    cases h
    exact ⟨_, rfl, head', hle, rfl⟩
  | stateAttestation request =>
    exact remains_attested (fun _ => rfl) (fun v hv => verdict_mono hle hv) h
  | packetAttestation request =>
    exact remains_attested (fun _ => rfl) (fun v hv => preparePacketsAt_mono hle hv) h

theorem signsAs_local {s : LocalSigner c} {signature : Bytes → Except SignerError Signature} :
    SignsAs (.localSigner s) signature ↔
      signature = fun message => (syncSign c s.inner message).mapError .localError := by
  have hsign : ∀ {message t r}, Completes ((SignerEnum.localSigner s).sign message).run t r ↔
      t = [⟨[], .event (.incSignerSign (if r.isOk then "ok" else "err"))⟩] ∧
        r = (syncSign c s.inner message).mapError .localError := by
    intro message t r
    change Runs (.emit _ (.done _)) t (.finished r) ↔ _
    constructor
    · intro h
      obtain ⟨t', rfl, rfl, hr⟩ := h.resolve_left (by simp)
      cases hr
      exact ⟨rfl, rfl⟩
    · rintro ⟨rfl, rfl⟩
      exact .inr ⟨[], rfl, rfl, rfl⟩
  constructor
  · intro h
    funext message
    obtain ⟨t, hrun⟩ := h message
    exact (hsign.mp hrun).2
  · rintro rfl message
    exact ⟨_, hsign.mpr ⟨rfl, rfl⟩⟩

end FinalizedChain

/-- A request that was served to its end, in the world and at these moments, with the chain
calls that failed for good. -/
def ServedIn {M : Type} [Preorder M] {c : Crates} (retry : TokioRetry) (a : AdapterEnum)
    (signer : SignerEnum c) (world : World M)
    (x : Operation M Exchange (Except Status RpcResponse)) : Prop :=
  ∃ u : Stamped M node Metric, Observes world u ∧ x.moments = u.map Prod.fst ∧
    x.query.failures = {text | FailedForGood (u.map Prod.snd) text} ∧
    Completes (LoggingMiddleware.serve c ⟨⟨a.adapter c retry, signer.signer⟩⟩ x.query.request).run
      (u.map Prod.snd) x.result

/-- However the requests to a service overlap, their responses are those of serving them in
no time and one after another while the chain grows, in an order in which no request comes
before one that was over when it began. A request that is not answered so has the error of one
of its chain calls that failed for good. -/
theorem requests_linearizable {M : Type} [LinearOrder M] {chain : FinalizedChain M} {c : Crates}
    {retry : TokioRetry} {a : AdapterEnum} {signer : SignerEnum c} {world : World M}
    (hserves : chain.Serves c a world)
    {history : List (Operation M Exchange (Except Status RpcResponse))}
    (hreads : ∀ x ∈ history, x.query.request.ReadsAt a)
    (hserved : ∀ x ∈ history, ServedIn retry a signer world x) :
    Linearizable (chain.Answers c a signer) 0 history := by
  apply linearizable_of_points chain.head_le (fun m => UInt64.zero_le)
  intro x hx
  obtain ⟨u, hu, hmoments, hfailures, hrun⟩ := hserved x hx
  rw [hmoments]
  rcases hserves.serve_now hu (hreads x hx) hrun with ⟨m, hm, hanswer⟩ | ⟨text, hfailed, htext⟩
  · exact ⟨m, hm, .inl hanswer⟩
  · obtain ⟨⟨m, l⟩, hm⟩ : ∃ y, y ∈ u := by
      obtain ⟨t, e, ht, -⟩ := LoggingMiddleware.completes_serve hrun
      have hne : u ≠ [] := by
        rintro rfl
        simp at ht
      exact List.exists_mem_of_ne_nil u hne
    have hmem : text ∈ x.query.failures := by
      rw [hfailures]
      exact hfailed
    exact ⟨m, List.mem_map_of_mem hm, .inr ⟨text, hmem, htext⟩⟩

/-- A chain that grows past the sample packet's height, and once more. -/
def growingChain : FinalizedChain ℕ where
  head m := if m < 10 then 90 else if m < 20 then 120 else 150
  head_le := by
    intro m n hmn
    split_ifs <;> first | decide | omega
  state _ := fullStore
  timestamp _ := 1700000000

def growingWorld : World ℕ := fun m op x => x = fullNode (growingChain.head m) [] op

theorem serves_growingChain : growingChain.Serves sampleCrates sampleCosmos growingWorld where
  head m x hx := by
    cases hx
    rfl
  timestamp m height x hle hx := by
    cases hx
    rfl
  stored m height kind p x hle hreads hx := by
    cases hx
    exact reflects_fullChain

theorem height_ne_nil {c : Crates} {retry : TokioRetry} {a : AdapterEnum} {t : Trace node Metric}
    {r : Except AttestationAdapterError UInt64}
    (h : Completes (a.adapter c retry).getLastHeightAtConfiguredFinality.run t r) : t ≠ [] := by
  rintro rfl
  rcases AdapterEnum.completes_height h with ⟨x, hx, -⟩ | ⟨hthree, -⟩
  · cases hx
  · cases hthree

theorem validate_ne_nil {c : Crates} {retry : TokioRetry} {a : AdapterEnum} {height : UInt64}
    {t : Trace node Metric} {r : Except AttestorError Unit}
    (h : Completes (validateHeight (a.adapter c retry) height).run t r) : t ≠ [] := by
  rcases completes_validateHeight.mp h with ⟨e, he, -⟩ | ⟨f, t₁, rfl, hf, -⟩
  · exact height_ne_nil he
  · exact List.append_ne_nil_of_left_ne_nil (height_ne_nil hf) _

theorem serve_sample_ne_nil {t : Trace node Metric} {r : Except Status RpcResponse}
    (h : Completes (AttestorService.serve sampleCrates
      ⟨sampleCosmos.adapter sampleCrates tokioRetry, sampleLocalSigner.signer⟩
      (.packetAttestation samplePacketsRequest)).run t r) : t ≠ [] := by
  have hprepared : ∀ {u r'}, Completes (preparePackets sampleCrates
      (sampleCosmos.adapter sampleCrates tokioRetry) samplePacketsRequest).run u r' → u ≠ [] := by
    intro u r' hrun
    rcases (completes_preparePackets _).mp hrun with
      ⟨e, hdecode, -⟩ | ⟨packets, kind, -, ⟨e, he, -⟩ | ⟨t₁, t₂, r'', rfl, h₁, -⟩⟩
    · have hok := hdecode.symm.trans (decodeRequest_sample 100)
      cases hok
    · exact validate_ne_nil he
    · exact List.append_ne_nil_of_left_ne_nil (validate_ne_nil h₁) _
  rw [serve_packetAttestation, completes_prepared] at h
  rcases h with ⟨e, he, -⟩ | ⟨u, t₁, t₂, r', rfl, h₁, -⟩
  · exact hprepared he
  · exact List.append_ne_nil_of_left_ne_nil (hprepared h₁) _

/-- A run of the request for the sample packet: it is recorded at the moment `n`, and all
before that is done at `m`. -/
theorem exists_growing {r : Except Status PacketAttestationResponse} {m n : ℕ} (hmn : m ≤ n)
    (h : (AttestorService.packetAttestation sampleCrates ⟨sampleCosmos.adapter sampleCrates
      tokioRetry, sampleLocalSigner.signer⟩ samplePacketsRequest).run.eval
        (fullNode (growingChain.head m)) = r) :
    ∃ u : Stamped ℕ node Metric, Completes (LoggingMiddleware.serve sampleCrates
        ⟨⟨sampleCosmos.adapter sampleCrates tokioRetry, sampleLocalSigner.signer⟩⟩
        (.packetAttestation samplePacketsRequest)).run (u.map Prod.snd)
          (r.map .packetAttestation) ∧ Observes growingWorld u ∧
      AnsweredBy (fullNode (growingChain.head m)) (u.map Prod.snd) ∧
      ∀ k, k ∈ u.map Prod.fst ↔ k = m ∨ k = n := by
  have hvalue : (LoggingMiddleware.serve sampleCrates
      ⟨⟨sampleCosmos.adapter sampleCrates tokioRetry, sampleLocalSigner.signer⟩⟩
      (.packetAttestation samplePacketsRequest)).run.eval (fullNode (growingChain.head m)) =
        r.map .packetAttestation := by
    simp only [LoggingMiddleware.serve, LoggingMiddleware.packetAttestation, Fallible.eval_bind,
      eval_trackRpc, h]
    cases r <;> rfl
  have hrun := Proc.sequential_completes hvalue
  obtain ⟨t, e, ht, hserve⟩ := LoggingMiddleware.completes_serve hrun
  have hanswered := Proc.sequential_answeredBy (LoggingMiddleware.serve sampleCrates
    ⟨⟨sampleCosmos.adapter sampleCrates tokioRetry, sampleLocalSigner.signer⟩⟩
    (.packetAttestation samplePacketsRequest)).run (fullNode (growingChain.head m))
  rw [ht] at hrun hanswered
  have hmap : (t.map (fun l => (m, l)) ++ [(n, (⟨[], .event e⟩ : Label node Metric))]).map
      Prod.snd = t ++ [⟨[], .event e⟩] := by
    simp [Function.comp_def]
  refine ⟨t.map (fun l => (m, l)) ++ [(n, ⟨[], .event e⟩)], hmap ▸ hrun,
    (hanswered.left.observes m fun _ _ => rfl).append (observes_event n [] e) ?_,
    hmap ▸ hanswered, fun k => ?_⟩
  · intro x hx y hy
    obtain ⟨l, -, rfl⟩ := List.mem_map.mp hx
    rw [List.mem_singleton.mp hy]
    exact hmn
  · obtain ⟨l, t', rfl⟩ := List.exists_cons_of_ne_nil (serve_sample_ne_nil hserve)
    have hfst : (((l :: t').map fun l => (m, l)) ++
        [(n, (⟨[], .event e⟩ : Label node Metric))]).map Prod.fst =
          List.replicate (t'.length + 1) m ++ [n] := by
      simp [List.replicate_succ, Function.comp_def]
    rw [hfst, List.mem_append, List.mem_replicate, List.mem_singleton]
    simp

theorem readsAt_sample :
    RpcRequest.ReadsAt sampleCosmos (.packetAttestation samplePacketsRequest) :=
  (by decide : (100 : UInt64) ≠ 0)

theorem eval_refused : (AttestorService.packetAttestation sampleCrates
    ⟨sampleCosmos.adapter sampleCrates tokioRetry, sampleLocalSigner.signer⟩
    samplePacketsRequest).run.eval (fullNode 90) =
      .error (.ofAttestorError .blockNotFinalized) := by
  have hheight : (sampleCosmos.adapter sampleCrates
      tokioRetry).getLastHeightAtConfiguredFinality.run.eval (fullNode 90) = .ok 90 :=
    @AdapterEnum.eval_height _ _ sampleCosmos _ (fullChain 90 .latestCommit) rfl
  have hdecode : decodeRequest sampleCrates samplePacketsRequest = .ok ([samplePacket], .packet) :=
    decodeRequest_sample 100
  rw [eval_packetAttestation, eval_preparePackets, hdecode, eval_validateHeight, hheight]
  rfl

/-- Two requests overlap while the chain grows: the one that began first is refused, and the
other one is answered. -/
theorem requests_linearizable_sample :
    ∃ x y : Operation ℕ Exchange (Except Status RpcResponse), ¬ x.Before y ∧ ¬ y.Before x ∧
      (9 ∈ x.moments ∧ 13 ∈ x.moments) ∧ (11 ∈ y.moments ∧ 21 ∈ y.moments) ∧
      x.result = .error (.ofAttestorError .blockNotFinalized) ∧
      y.result = .ok (.packetAttestation ⟨some samplePacketAttestation⟩) ∧
      Linearizable (growingChain.Answers sampleCrates sampleCosmos sampleLocalSigner) 0 [y, x] := by
  obtain ⟨u, hrun, hu, -, hmoments⟩ := exists_growing (by decide : 9 ≤ 13) eval_refused
  obtain ⟨u', hrun', hu', -, hmoments'⟩ := exists_growing (by decide : 11 ≤ 21)
    (eval_fullNode (by decide : (100 : UInt64) ≤ 120) syncSign_sample)
  let x : Operation ℕ Exchange (Except Status RpcResponse) :=
    ⟨⟨.packetAttestation samplePacketsRequest, {text | FailedForGood (u.map Prod.snd) text}⟩,
      .error (.ofAttestorError .blockNotFinalized), u.map Prod.fst⟩
  let y : Operation ℕ Exchange (Except Status RpcResponse) :=
    ⟨⟨.packetAttestation samplePacketsRequest, {text | FailedForGood (u'.map Prod.snd) text}⟩,
      .ok (.packetAttestation ⟨some samplePacketAttestation⟩), u'.map Prod.fst⟩
  have hserved : ∀ z ∈ [y, x],
      ServedIn tokioRetry sampleCosmos sampleLocalSigner growingWorld z := by
    intro z hz
    rcases List.mem_pair.mp hz with rfl | rfl
    · exact ⟨u', hu', rfl, rfl, hrun'⟩
    · exact ⟨u, hu, rfl, rfl, hrun⟩
  have hreads : ∀ z ∈ [y, x], z.query.request.ReadsAt sampleCosmos := by
    intro z hz
    rcases List.mem_pair.mp hz with rfl | rfl
    · exact readsAt_sample
    · exact readsAt_sample
  have hx : 9 ∈ x.moments ∧ 13 ∈ x.moments :=
    ⟨(hmoments 9).mpr (.inl rfl), (hmoments 13).mpr (.inr rfl)⟩
  have hy : 11 ∈ y.moments ∧ 21 ∈ y.moments :=
    ⟨(hmoments' 11).mpr (.inl rfl), (hmoments' 21).mpr (.inr rfl)⟩
  refine ⟨x, y, fun hbefore => ?_, fun hbefore => ?_, hx, hy, rfl, rfl,
    requests_linearizable serves_growingChain hreads hserved⟩
  · exact absurd (hbefore 13 hx.2 11 hy.1) (by decide)
  · exact absurd (hbefore 21 hy.2 9 hx.1) (by decide)

/-- What a service with a local signer has answered stays its answer: the same request, asked
later of a service that is up, gets the same attestation, and heights only grow. -/
theorem response_remains {M : Type} [Preorder M] {chain : FinalizedChain M} {c : Crates}
    {retry : TokioRetry} {a : AdapterEnum} {s : LocalSigner c} {world : World M}
    (hserves : chain.Serves c a world) {request : RpcRequest} (hreads : request.ReadsAt a)
    {u u' : Stamped M node Metric} (hu : Observes world u) (hu' : Observes world u')
    {response : RpcResponse} {r' : Except Status RpcResponse}
    (h : Completes (LoggingMiddleware.serve c
      ⟨⟨a.adapter c retry, (SignerEnum.localSigner s).signer⟩⟩ request).run
      (u.map Prod.snd) (.ok response))
    (h' : Completes (LoggingMiddleware.serve c
      ⟨⟨a.adapter c retry, (SignerEnum.localSigner s).signer⟩⟩ request).run
      (u'.map Prod.snd) r')
    (hlater : ∀ m ∈ u.map Prod.fst, ∀ n ∈ u'.map Prod.fst, m ≤ n)
    (htransient : Transient (u'.map Prod.snd)) :
    ∃ response', r' = .ok response' ∧ response.Remains response' := by
  obtain ⟨m, hm, signature, hsignature, hr⟩ :=
    (hserves.serve_now hu hreads h).resolve_right (by simp)
  obtain ⟨n, hn, signature', hsignature', rfl⟩ :=
    (hserves.serve_now hu' hreads h').resolve_right fun ⟨_, hfail, _⟩ =>
      hfail.not_transient htransient
  rw [FinalizedChain.signsAs_local] at hsignature hsignature'
  subst hsignature hsignature'
  exact FinalizedChain.respond_mono (chain.head_le m n (hlater m hm n hn)) hr.symm

/-- The request is answered twice, and more is finalized in between. -/
theorem response_remains_sample : growingChain.head 10 < growingChain.head 20 ∧
    ∃ (u' : Stamped ℕ node Metric) (r' : Except Status RpcResponse),
      (∀ n ∈ u'.map Prod.fst, n = 20) ∧
      Completes (LoggingMiddleware.serve sampleCrates
        ⟨⟨sampleCosmos.adapter sampleCrates tokioRetry, sampleLocalSigner.signer⟩⟩
        (.packetAttestation samplePacketsRequest)).run (u'.map Prod.snd) r' ∧
      ∃ response', r' = .ok response' ∧
        RpcResponse.Remains (.packetAttestation ⟨some samplePacketAttestation⟩) response' := by
  obtain ⟨u, hrun, hu, -, hmoments⟩ := exists_growing (le_refl 10)
    (eval_fullNode (by decide : (100 : UInt64) ≤ 120) syncSign_sample)
  obtain ⟨u', hrun', hu', hanswered, hmoments'⟩ := exists_growing (le_refl 20)
    (eval_fullNode (by decide : (100 : UInt64) ≤ 150) syncSign_sample)
  have htransient : Transient (u'.map Prod.snd) := by
    intro s op
    have hnone : failures (u'.map Prod.snd) s op = 0 :=
      failures_eq_zero.mpr fun text htext => by cases hanswered _ _ _ htext
    omega
  have hlater : ∀ m ∈ u.map Prod.fst, ∀ n ∈ u'.map Prod.fst, m ≤ n := by
    intro m hm n hn
    rcases (hmoments m).mp hm with rfl | rfl <;>
      rcases (hmoments' n).mp hn with rfl | rfl <;> decide
  exact ⟨by decide, u', _, fun n hn => (or_self_iff.mp ((hmoments' n).mp hn)), hrun',
    response_remains serves_growingChain readsAt_sample hu hu' hrun hrun' hlater htransient⟩

end IbcAttestor
