import IbcAttestor.Adapter.Retry

/-!
# The documented retry policy

A retried request keeps to the documented policy in everything but its pauses: the
backoff of the retry crate raises its base to a power, so that the base of 200 is not
the first delay, and the second delay is the maximal one.
-/

namespace IbcAttestor

open Cooperative

variable {α : Type}

/-- The pause documented before a retry that `k` retries have preceded: 200 ms, doubled
each time, and 2 s at most. -/
def documentedWait (k : ℕ) : ℕ := min (200 * 2 ^ k) 2000

/-- What is documented of a request with the given outcomes of its calls, pauses between
them, recorded metrics and result. -/
structure FollowsPolicy (operation : String) (outcomes : List (Except AttestationAdapterError α))
    (waits : List ℕ) (recorded : List Metric) (r : Except AttestationAdapterError α) : Prop where
  atMost : outcomes.length ≤ 3
  retried : ∀ o ∈ outcomes.dropLast, Retryable o
  persistent : Retryable r → outcomes.length = 3
  returned : outcomes.getLast? = some r
  success : ∀ a, .ok a ∈ outcomes → r = .ok a
  counted : recorded =
    if outcomes.length = 3 ∧ r.isOk = false then [.incRetryFailure operation] else []
  paused : waits = (List.range (outcomes.length - 1)).map documentedWait

/-- What a run of a retried request consists of. -/
def Performed (request : Fallible node Metric AttestationAdapterError α) (t : Trace node Metric)
    (outcomes : List (Except AttestationAdapterError α)) (waits : List ℕ)
    (recorded : List Metric) : Prop :=
  ∃ t₁, Calls request outcomes waits t₁ ∧ t = t₁ ++ recorded.map fun e => ⟨[], .event e⟩

section Unique

variable {request : Fallible node Metric AttestationAdapterError α}
  {outcomes outcomes' : List (Except AttestationAdapterError α)} {waits waits' : List ℕ}
  {t t' : Trace node Metric} {es es' : List Metric}

theorem events_ne_pause (wait : ℕ) (u : Trace node Metric) :
    es.map (fun e => (⟨[], .event e⟩ : Label node Metric)) ≠ pause wait ++ u := by
  intro h
  cases es with
  | nil => simp [pause] at h
  | cons e es => simp [pause] at h

theorem events_injective {es es' : List Metric}
    (h : es.map (fun e => (⟨[], .event e⟩ : Label node Metric)) =
      es'.map fun e => ⟨[], .event e⟩) : es = es' := by
  refine List.map_injective_iff.mpr (fun e e' he => ?_) h
  exact Act.event.inj (Label.mk.inj he).2

theorem Calls.unique (h : Calls request outcomes waits t) (h' : Calls request outcomes' waits' t')
    (heq : t ++ es.map (fun e => ⟨[], .event e⟩) = t' ++ es'.map fun e => ⟨[], .event e⟩) :
    outcomes = outcomes' ∧ waits = waits' ∧ es = es' := by
  induction h generalizing outcomes' waits' t' with
  | once h =>
    cases h' with
    | once h' =>
      obtain ⟨rfl, rfl⟩ := h.unique h' heq
      exact ⟨rfl, rfl, events_injective (List.append_cancel_left heq)⟩
    | again h' rest' =>
      rw [List.append_assoc, List.append_assoc] at heq
      obtain ⟨rfl, -⟩ := h.unique h' heq
      exact absurd (List.append_cancel_left heq) (events_ne_pause _ _)
  | again h rest ih =>
    cases h' with
    | once h' =>
      rw [List.append_assoc, List.append_assoc] at heq
      obtain ⟨rfl, -⟩ := h.unique h' heq
      exact absurd (List.append_cancel_left heq).symm (events_ne_pause _ _)
    | again h' rest' =>
      simp only [List.append_assoc] at heq
      obtain ⟨rfl, rfl⟩ := h.unique h' heq
      have hpause := List.append_cancel_left heq
      simp only [pause, List.cons_append, List.nil_append, List.cons.injEq, Label.mk.injEq,
        Act.call.injEq, NodeOp.sleep.injEq, true_and] at hpause
      obtain ⟨rfl, -, hrest⟩ := hpause
      obtain ⟨rfl, rfl, rfl⟩ := ih rest' hrest
      exact ⟨rfl, rfl, rfl⟩

theorem Performed.unique {recorded recorded' : List Metric}
    (h : Performed request t outcomes waits recorded)
    (h' : Performed request t outcomes' waits' recorded') :
    outcomes = outcomes' ∧ waits = waits' ∧ recorded = recorded' := by
  obtain ⟨t₁, hcalls, rfl⟩ := h
  obtain ⟨t₁', hcalls', heq⟩ := h'
  exact hcalls.unique hcalls' heq

end Unique

section Policy

variable {retry : TokioRetry} {request : Fallible node Metric AttestationAdapterError α}
  {operation : String} {outcomes : List (Except AttestationAdapterError α)} {waits : List ℕ}
  {recorded : List Metric} {t : Trace node Metric} {r : Except AttestationAdapterError α}

/-- The documented pauses are those made exactly when there are none. -/
theorem waits_documented (h : Retries [400, 2000] outcomes waits r) :
    waits = (List.range (outcomes.length - 1)).map documentedWait ↔ waits = [] := by
  have hpaused := h.paused
  constructor
  · intro hwaits
    cases waits with
    | nil => rfl
    | cons wait waits =>
      obtain ⟨rfl, -⟩ := List.cons_prefix_cons.mp h.waited
      have hlength : outcomes.length - 1 = waits.length + 1 := by
        rw [hpaused, List.length_cons, Nat.add_sub_cancel]
      rw [hlength, List.range_succ_eq_map, List.map_cons, List.cons.injEq] at hwaits
      exact absurd hwaits.1 (by decide)
  · rintro rfl
    rw [hpaused]
    rfl

theorem waits_eq_nil (h : Retries [400, 2000] outcomes waits r) :
    waits = [] ↔ ∀ o ∈ outcomes.head?, ¬ Retryable o := by
  cases waits with
  | nil =>
    obtain ⟨o, rfl⟩ := List.length_eq_one_iff.mp h.paused
    obtain rfl : o = r := Option.some.inj h.returned
    simp only [List.head?_cons, Option.mem_some_iff, forall_eq', true_iff]
    intro ho
    cases h.exhausted ho
  | cons wait waits =>
    cases outcomes with
    | nil => cases h.paused
    | cons o outcomes =>
      obtain ⟨ho, -⟩ := h.rest
      simp [ho]

theorem countedFailure_eq : countedFailure operation outcomes r =
    if outcomes.length = 3 ∧ r.isOk = false then [.incRetryFailure operation] else [] := by
  cases r <;> simp [countedFailure, Except.isOk, Except.toBool]

/-- A retried request keeps to the policy when its first call is not retried, and no other
request does. -/
theorem retry_policy (h : Completes (withRetryBackoff retry operation request).run t r) :
    (∃ outcomes waits recorded, Performed request t outcomes waits recorded) ∧
    ∀ outcomes waits recorded, Performed request t outcomes waits recorded →
      (FollowsPolicy operation outcomes waits recorded r ↔
        ∀ o ∈ outcomes.head?, ¬ Retryable o) := by
  obtain ⟨outcomes, waits, t₁, hcalls, hretries, rfl⟩ := (completes_withRetryBackoff retry).mp h
  have hperformed : Performed request _ outcomes waits (countedFailure operation outcomes r) :=
    ⟨t₁, hcalls, rfl⟩
  refine ⟨⟨_, _, _, hperformed⟩, fun outcomes' waits' recorded' hperformed' => ?_⟩
  obtain ⟨rfl, rfl, rfl⟩ := hperformed.unique hperformed'
  rw [← waits_eq_nil hretries, ← waits_documented hretries]
  constructor
  · exact fun hpolicy => hpolicy.paused
  · intro hpaused
    refine ⟨hretries.length_le, hretries.retried, fun hr => ?_, hretries.returned,
      fun a => hretries.eq_of_ok_mem, countedFailure_eq, hpaused⟩
    rw [hretries.paused, hretries.exhausted hr]
    rfl

end Policy

def sampleRequest : Fallible node Metric AttestationAdapterError SignedHeader :=
  retried .latestCommit id

def sampleHeader : SignedHeader := ⟨120, 1700000000⟩

def sampleOutcomes : List (Except AttestationAdapterError SignedHeader) :=
  [.error (.retrievalError "connection reset"), .ok sampleHeader]

theorem sampleRequest_run {a : Except String SignedHeader} : Completes sampleRequest.run
    [⟨[], .call (.chain .latestCommit)⟩, ⟨[], .reply (.chain .latestCommit) a⟩]
      (a.mapError fun e => .retrievalError e) :=
  completes_retried.mpr ⟨a, rfl, rfl⟩

theorem retry_policy_sample : ∃ t,
    Completes (withRetryBackoff tokioRetry "cosmos.get_last_height.latest_commit"
      sampleRequest).run t (.ok sampleHeader) ∧
    Performed sampleRequest t [.ok sampleHeader] [] [] ∧
    FollowsPolicy "cosmos.get_last_height.latest_commit" [.ok sampleHeader] [] []
      (.ok sampleHeader) := by
  have hcalls : Calls sampleRequest [.ok sampleHeader] [] _ := .once (@sampleRequest_run (.ok _))
  have hretryable :
      ¬ Retryable (.ok sampleHeader : Except AttestationAdapterError SignedHeader) := by
    rintro ⟨reason, hr⟩
    cases hr
  have hrun : Completes (withRetryBackoff tokioRetry "cosmos.get_last_height.latest_commit"
      sampleRequest).run _ (.ok sampleHeader) :=
    (completes_withRetryBackoff tokioRetry).mpr
      ⟨_, _, _, hcalls, .once fun hr => absurd hr hretryable, rfl⟩
  have hperformed : Performed sampleRequest _ [.ok sampleHeader] [] [] := ⟨_, hcalls, rfl⟩
  refine ⟨_, hrun, hperformed, ((retry_policy hrun).2 _ _ _ hperformed).mpr ?_⟩
  simpa using hretryable

/-- A pause of 400 ms before the first retry. -/
theorem retry_policy_fails : ∃ t waits recorded,
    Completes (withRetryBackoff tokioRetry "cosmos.get_last_height.latest_commit"
      sampleRequest).run t (.ok sampleHeader) ∧
    Performed sampleRequest t sampleOutcomes waits recorded ∧ waits = [400] ∧
    ¬ FollowsPolicy "cosmos.get_last_height.latest_commit" sampleOutcomes waits recorded
      (.ok sampleHeader) := by
  have hcalls : Calls sampleRequest sampleOutcomes [400] _ :=
    .again (@sampleRequest_run (.error _)) (.once (@sampleRequest_run (.ok _)))
  have hretries : Retries [400, 2000] sampleOutcomes [400] (.ok sampleHeader) := by
    refine ⟨by decide, rfl, ?_, rfl, ?_⟩
    · simp [sampleOutcomes, Retryable]
    · rintro ⟨reason, hr⟩
      cases hr
  have hrun : Completes (withRetryBackoff tokioRetry "cosmos.get_last_height.latest_commit"
      sampleRequest).run _ (.ok sampleHeader) :=
    (completes_withRetryBackoff tokioRetry).mpr ⟨_, _, _, hcalls, hretries, rfl⟩
  refine ⟨_, [400], [], hrun, ⟨_, hcalls, rfl⟩, rfl, fun hpolicy => ?_⟩
  exact absurd hpolicy.paused (by decide)

end IbcAttestor
