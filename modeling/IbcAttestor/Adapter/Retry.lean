import IbcAttestor.Cooperative.Oracle
import IbcAttestor.Node

/-!
# Retries

`with_retry_backoff` makes up to three attempts with a backoff between them. The
retry crate is a parameter, with its documented behaviour as fields.
-/

namespace IbcAttestor

open Cooperative

/-- `tokio_retry`. An action is a closure over a state `σ`; delays are in milliseconds. -/
structure TokioRetry where
  /-- The `n`-th delay of `ExponentialBackoff::from_millis(base).factor(factor).max_delay(max)`. -/
  exponentialBackoff : (base factor max n : ℕ) → ℕ
  exponentialBackoff_eq : ∀ base factor max n,
    exponentialBackoff base factor max n = min (base ^ (n + 1) * factor) max
  /-- `RetryIf::spawn(strategy, action, condition)`. -/
  spawn : {σ α : Type} → (strategy : List ℕ) →
    (action : σ → σ × Fallible node Metric AttestationAdapterError α) →
    (condition : AttestationAdapterError → Bool) → σ →
    Proc node Metric (σ × Except AttestationAdapterError α)
  spawn_nil : ∀ {σ α : Type} (action : σ → σ × Fallible node Metric AttestationAdapterError α)
    condition s, spawn [] action condition s =
      (action s).2.run.bind fun r => .done ((action s).1, r)
  spawn_cons : ∀ {σ α : Type} delay strategy
    (action : σ → σ × Fallible node Metric AttestationAdapterError α) condition s,
    spawn (delay :: strategy) action condition s =
      (action s).2.run.bind fun
        | .ok a => .done ((action s).1, .ok a)
        | .error e =>
          if condition e then
            (sleep delay).bind fun _ => spawn strategy action condition (action s).1
          else .done ((action s).1, .error e)

/-- `RetryIf::spawn`, one delay after another. -/
def retryIfSpawn {σ α : Type} :
    List ℕ → (σ → σ × Fallible node Metric AttestationAdapterError α) →
      (AttestationAdapterError → Bool) → σ →
        Proc node Metric (σ × Except AttestationAdapterError α)
  | [], action, _, s => (action s).2.run.bind fun r => .done ((action s).1, r)
  | delay :: strategy, action, condition, s =>
    (action s).2.run.bind fun
      | .ok a => .done ((action s).1, .ok a)
      | .error e =>
        if condition e then
          (sleep delay).bind fun _ => retryIfSpawn strategy action condition (action s).1
        else .done ((action s).1, .error e)

def tokioRetry : TokioRetry where
  exponentialBackoff base factor max n := min (base ^ (n + 1) * factor) max
  exponentialBackoff_eq _ _ _ _ := rfl
  spawn := retryIfSpawn
  spawn_nil _ _ _ := rfl
  spawn_cons _ _ _ _ _ := rfl

def maxAttempts : UInt8 := 3

def initialBackoff : ℕ := 200

def maxBackoff : ℕ := 2000

variable (retry : TokioRetry) {α : Type}

/-- `ExponentialBackoff::from_millis(..).factor(2).max_delay(..).take(..)`. -/
def retryStrategy : List ℕ :=
  (List.range (u8SaturatingSub maxAttempts 1).toNat).map
    (retry.exponentialBackoff initialBackoff 2 maxBackoff)

def withRetryBackoff (operation : String)
    (request : Fallible node Metric AttestationAdapterError α) :
    Fallible node Metric AttestationAdapterError α :=
  ExceptT.mk ((retry.spawn (retryStrategy retry) (fun attempts : UInt8 => (attempts + 1, request))
    AttestationAdapterError.isRetrievalError 0).bind fun (attempts, result) =>
      match result with
      | .error _ =>
        if attempts ≥ maxAttempts then .emit (.incRetryFailure operation) (.done result)
        else .done result
      | .ok _ => .done result)

theorem retryStrategy_eq : retryStrategy retry = [400, 2000] := by
  have htake : (u8SaturatingSub maxAttempts 1).toNat = 2 := by decide
  simp [retryStrategy, htake, initialBackoff, maxBackoff, retry.exponentialBackoff_eq,
    List.range_succ]

theorem AttestationAdapterError.isRetrievalError_iff {e : AttestationAdapterError} :
    e.isRetrievalError = true ↔ ∃ reason, e = .retrievalError reason := by
  cases e <;> simp [isRetrievalError]

/-- An outcome after which the request is made again. -/
def Retryable (r : Except AttestationAdapterError α) : Prop :=
  ∃ reason, r = .error (.retrievalError reason)

def pause (wait : ℕ) : Trace node Metric :=
  [⟨[], .call (.sleep wait)⟩, ⟨[], .reply (.sleep wait) ()⟩]

/-- The calls of a request with pauses between them: what each call came to, the length of
each pause, and the trace of it all. -/
inductive Calls (request : Fallible node Metric AttestationAdapterError α) :
    List (Except AttestationAdapterError α) → List ℕ → Trace node Metric → Prop
  | once {r : Except AttestationAdapterError α} {t : Trace node Metric}
      (h : Completes request.run t r) : Calls request [r] [] t
  | again {r : Except AttestationAdapterError α} {outcomes : List (Except AttestationAdapterError α)}
      {wait : ℕ} {waits : List ℕ} {t t' : Trace node Metric} (h : Completes request.run t r)
      (rest : Calls request outcomes waits t') :
      Calls request (r :: outcomes) (wait :: waits) (t ++ (pause wait ++ t'))

/-- How a loop with the given delays comes to its result. -/
structure Retries (delays : List ℕ) (outcomes : List (Except AttestationAdapterError α))
    (waits : List ℕ) (r : Except AttestationAdapterError α) : Prop where
  waited : waits <+: delays
  paused : outcomes.length = waits.length + 1
  retried : ∀ o ∈ outcomes.dropLast, Retryable o
  returned : outcomes.getLast? = some r
  exhausted : Retryable r → waits = delays

namespace Retries

variable {delays waits : List ℕ} {outcomes : List (Except AttestationAdapterError α)}
  {r : Except AttestationAdapterError α}

theorem once (hr : Retryable r → delays = []) : Retries delays [r] [] r where
  waited := List.nil_prefix
  paused := rfl
  retried := by simp
  returned := rfl
  exhausted h := (hr h).symm

theorem again {o : Except AttestationAdapterError α} (h : Retries delays outcomes waits r)
    (ho : Retryable o) (wait : ℕ) : Retries (wait :: delays) (o :: outcomes) (wait :: waits) r where
  waited := List.cons_prefix_cons.mpr ⟨rfl, h.waited⟩
  paused := by simp [h.paused]
  retried := by
    have hne : outcomes ≠ [] := by
      intro hnil
      simpa [hnil] using h.paused
    intro o' ho'
    rw [List.dropLast_cons_of_ne_nil hne, List.mem_cons] at ho'
    rcases ho' with rfl | ho'
    · exact ho
    · exact h.retried o' ho'
  returned := by simp [List.getLast?_cons, h.returned]
  exhausted hr := by rw [h.exhausted hr]

theorem rest {o : Except AttestationAdapterError α} {wait : ℕ}
    (h : Retries delays (o :: outcomes) (wait :: waits) r) :
    Retryable o ∧ ∃ delays', delays = wait :: delays' ∧ Retries delays' outcomes waits r := by
  obtain ⟨hwaited, hpaused, hretried, hreturned, hexhausted⟩ := h
  have hne : outcomes ≠ [] := by
    intro hnil
    simp [hnil] at hpaused
  obtain ⟨delays', rfl⟩ : ∃ delays', delays = wait :: delays' := by
    obtain ⟨rest, rfl⟩ := hwaited
    exact ⟨waits ++ rest, rfl⟩
  rw [List.dropLast_cons_of_ne_nil hne] at hretried
  rw [List.getLast?_cons_of_ne_nil hne] at hreturned
  refine ⟨hretried o (by simp), delays', rfl, (List.cons_prefix_cons.mp hwaited).2, ?_, ?_,
    hreturned, fun hr => (List.cons.inj (hexhausted hr)).2⟩
  · simpa using hpaused
  · intro o' ho'
    exact hretried o' (List.mem_cons_of_mem _ ho')

theorem length_le (h : Retries delays outcomes waits r) : outcomes.length ≤ delays.length + 1 := by
  have hle := h.waited.length_le
  have hpaused := h.paused
  omega

theorem outcomes_eq (h : Retries delays outcomes waits r) :
    outcomes = outcomes.dropLast ++ [r] :=
  (List.dropLast_append_getLast? r h.returned).symm

theorem eq_of_ok_mem (h : Retries delays outcomes waits r) {a : α} (ha : .ok a ∈ outcomes) :
    r = .ok a := by
  rw [h.outcomes_eq, List.mem_append, List.mem_singleton] at ha
  rcases ha with ha | ha
  · obtain ⟨reason, hreason⟩ := h.retried _ ha
    cases hreason
  · exact ha.symm

end Retries

variable {request : Fallible node Metric AttestationAdapterError α} {t : Trace node Metric}
  {r : Except AttestationAdapterError α}

theorem completes_spawn {delays : List ℕ} {k k' : UInt8}
    (h : Completes (retry.spawn delays (fun attempts : UInt8 => (attempts + 1, request))
      AttestationAdapterError.isRetrievalError k) t (k', r)) :
    ∃ outcomes waits, Calls request outcomes waits t ∧ Retries delays outcomes waits r ∧
      k' = k + UInt8.ofNat outcomes.length := by
  induction delays generalizing k t with
  | nil =>
    rw [retry.spawn_nil, completes_bind] at h
    obtain ⟨r', t₁, t₂, rfl, h₁, rfl, h₂⟩ := h
    cases h₂
    rw [List.append_nil]
    exact ⟨_, _, .once h₁, .once fun _ => rfl, rfl⟩
  | cons delay delays ih =>
    rw [retry.spawn_cons, completes_bind] at h
    obtain ⟨r', t₁, t₂, rfl, h₁, h₂⟩ := h
    have hdone : ∀ o, ¬ Retryable o → Completes request.run t₁ o →
        Completes (.done (k + 1, o) : Proc node Metric _) t₂ (k', r) →
        ∃ outcomes waits, Calls request outcomes waits (t₁ ++ t₂) ∧
          Retries (delay :: delays) outcomes waits r ∧ k' = k + UInt8.ofNat outcomes.length := by
      intro o ho hcall hend
      obtain ⟨rfl, hr⟩ := hend
      cases hr
      rw [List.append_nil]
      exact ⟨_, _, .once hcall, .once fun hr => absurd hr ho, rfl⟩
    cases r' with
    | ok a =>
      have ha : ¬ Retryable (.ok a : Except AttestationAdapterError α) := by
        rintro ⟨reason, hr⟩
        cases hr
      exact hdone _ ha h₁ h₂
    | error e =>
      change Completes (if e.isRetrievalError then (sleep delay).bind fun _ => _ else _) t₂
        (k', r) at h₂
      by_cases he : e.isRetrievalError = true
      · rw [if_pos he] at h₂
        obtain ⟨_, t₃, t₄, rfl, h₃, h₄⟩ := completes_bind.mp h₂
        obtain rfl := completes_sleep.mp h₃
        obtain ⟨outcomes, waits, hcalls, hretries, rfl⟩ := ih h₄
        obtain ⟨reason, rfl⟩ := AttestationAdapterError.isRetrievalError_iff.mp he
        refine ⟨_, _, .again h₁ hcalls, hretries.again ⟨reason, rfl⟩ delay, ?_⟩
        rw [List.length_cons, UInt8.ofNat_add, UInt8.add_assoc]
        congr 1
        exact UInt8.add_comm _ _
      · have herror : ¬ Retryable (.error e : Except AttestationAdapterError α) := by
          rintro ⟨reason, hr⟩
          apply he
          cases hr
          rfl
        rw [if_neg he] at h₂
        exact hdone _ herror h₁ h₂

theorem completes_spawn_of_calls {outcomes : List (Except AttestationAdapterError α)}
    {waits delays : List ℕ} {k : UInt8} (h : Calls request outcomes waits t)
    (hr : Retries delays outcomes waits r) :
    Completes (retry.spawn delays (fun attempts : UInt8 => (attempts + 1, request))
      AttestationAdapterError.isRetrievalError k) t (k + UInt8.ofNat outcomes.length, r) := by
  induction h generalizing delays k with
  | @once o t h =>
    obtain rfl : o = r := Option.some.inj hr.returned
    cases delays with
    | nil =>
      rw [retry.spawn_nil]
      exact completes_bind.mpr ⟨o, t, [], by simp, h, rfl, rfl⟩
    | cons delay delays =>
      rw [retry.spawn_cons]
      refine completes_bind.mpr ⟨o, t, [], by simp, h, ?_⟩
      cases o with
      | ok a => exact ⟨rfl, rfl⟩
      | error e =>
        have he : ¬ e.isRetrievalError = true := by
          intro he
          obtain ⟨reason, rfl⟩ := AttestationAdapterError.isRetrievalError_iff.mp he
          cases hr.exhausted ⟨reason, rfl⟩
        change Completes (if e.isRetrievalError then _ else _) _ _
        rw [if_neg he]
        exact ⟨rfl, rfl⟩
  | @again o outcomes wait waits t t' h rest ih =>
    obtain ⟨⟨reason, rfl⟩, delays', rfl, hrest⟩ := hr.rest
    rw [retry.spawn_cons]
    refine completes_bind.mpr ⟨_, t, pause wait ++ t', rfl, h, ?_⟩
    refine completes_bind.mpr ⟨(), pause wait, t', rfl, completes_sleep.mpr rfl, ?_⟩
    have hih := ih hrest (k := k + 1)
    rw [UInt8.add_assoc, UInt8.add_comm 1] at hih
    rwa [List.length_cons, UInt8.ofNat_add]

/-- A failure is counted when it was the third. -/
def countedFailure (operation : String) (outcomes : List (Except AttestationAdapterError α)) :
    Except AttestationAdapterError α → List Metric
  | .ok _ => []
  | .error _ => if outcomes.length = 3 then [.incRetryFailure operation] else []

theorem maxAttempts_le {n : ℕ} (h : n ≤ 3) : 0 + UInt8.ofNat n ≥ maxAttempts ↔ n = 3 := by
  rw [UInt8.zero_add, ge_iff_le, UInt8.le_iff_toNat_le, UInt8.toNat_ofNat']
  change 3 ≤ _ ↔ _
  omega

/-- Everything a retried request does. -/
theorem completes_withRetryBackoff {operation : String} :
    Completes (withRetryBackoff retry operation request).run t r ↔
      ∃ outcomes waits t₁, Calls request outcomes waits t₁ ∧ Retries [400, 2000] outcomes waits r ∧
        t = t₁ ++ (countedFailure operation outcomes r).map fun e => ⟨[], .event e⟩ := by
  have hcount : ∀ outcomes : List (Except AttestationAdapterError α), outcomes.length ≤ 3 →
      ∀ r' t₂, Completes (match r' with
        | .error _ =>
          if 0 + UInt8.ofNat outcomes.length ≥ maxAttempts then
            .emit (.incRetryFailure operation) (.done r')
          else .done r'
        | .ok _ => .done r' : Proc node Metric (Except AttestationAdapterError α)) t₂ r ↔
          r' = r ∧ t₂ = (countedFailure operation outcomes r').map fun e => ⟨[], .event e⟩ := by
    intro outcomes hlength r' t₂
    cases r' with
    | ok a => simp [Completes, countedFailure, eq_comm, and_comm]
    | error e =>
      by_cases hthree : outcomes.length = 3
      · simp only [if_pos ((maxAttempts_le hlength).mpr hthree), countedFailure, if_pos hthree]
        have hreport : Completes (Fallible.report [Metric.incRetryFailure operation]
            (.error e : Except AttestationAdapterError α) : Fallible node Metric _ α).run t₂ r ↔ _ :=
          completes_report
        exact hreport.trans (and_comm.trans (and_congr_left' eq_comm))
      · simp only [if_neg fun h => hthree ((maxAttempts_le hlength).mp h), countedFailure,
          if_neg hthree]
        simp [Completes, eq_comm, and_comm]
  constructor
  · intro h
    obtain ⟨⟨attempts, r'⟩, t₁, t₂, rfl, h₁, h₂⟩ := completes_bind.mp h
    obtain ⟨outcomes, waits, hcalls, hretries, rfl⟩ := completes_spawn retry h₁
    rw [retryStrategy_eq] at hretries
    obtain ⟨rfl, rfl⟩ := (hcount outcomes hretries.length_le r' t₂).mp h₂
    exact ⟨outcomes, waits, t₁, hcalls, hretries, rfl⟩
  · rintro ⟨outcomes, waits, t₁, hcalls, hretries, rfl⟩
    have hspawn := completes_spawn_of_calls retry hcalls ((retryStrategy_eq retry).symm ▸ hretries)
      (k := 0)
    refine completes_bind.mpr ⟨_, t₁, _, rfl, hspawn, ?_⟩
    exact (hcount outcomes hretries.length_le r _).mpr ⟨rfl, rfl⟩

/-- The request of a retried call; `wrap` makes the text of the error. -/
def retried (op : ChainOp) (wrap : String → String) :
    Fallible node Metric AttestationAdapterError op.Val :=
  (chainCall op).mapErr fun e => .retrievalError (wrap e)

theorem completes_retried {op : ChainOp} {wrap : String → String}
    {r : Except AttestationAdapterError op.Val} :
    Completes (retried op wrap).run t r ↔ ∃ a,
      t = [⟨[], .call (.chain op)⟩, ⟨[], .reply (.chain op) a⟩] ∧
        r = a.mapError fun e => .retrievalError (wrap e) := by
  rw [retried, completes_mapErr]
  simp only [completes_chainCall]

def Label.isFailure (s : Site) (op : ChainOp) (l : Label node Metric) : Bool :=
  match l.act with
  | .reply (.chain op') (.error _) => decide (l.site = s ∧ op' = op)
  | _ => false

def failures (t : Trace node Metric) (s : Site) (op : ChainOp) : ℕ :=
  t.countP (Label.isFailure s op)

theorem failures_append (t₁ t₂ : Trace node Metric) (s : Site) (op : ChainOp) :
    failures (t₁ ++ t₂) s op = failures t₁ s op + failures t₂ s op :=
  List.countP_append

theorem failures_events (es : List Metric) (s : Site) (op : ChainOp) :
    failures (es.map fun e => ⟨[], .event e⟩) s op = 0 := by
  simp [failures, Label.isFailure]

theorem Label.isFailure_iff {s : Site} {op : ChainOp} {l : Label node Metric} :
    Label.isFailure s op l = true ↔ ∃ text, l = ⟨s, .reply (.chain op) (.error text)⟩ := by
  constructor
  · intro h
    obtain ⟨site, act⟩ := l
    unfold isFailure at h
    split at h
    · rename_i op' text hact
      obtain ⟨hsite, rfl⟩ := of_decide_eq_true h
      exact ⟨text, by rw [← hsite, ← hact]⟩
    · cases h
  · rintro ⟨text, rfl⟩
    simp [isFailure]

theorem failures_eq_zero {t : Trace node Metric} {s : Site} {op : ChainOp} :
    failures t s op = 0 ↔ ∀ text, ¬ Replied t s (.chain op) (.error text) := by
  rw [failures, List.countP_eq_zero]
  constructor
  · intro h text htext
    exact h _ htext (Label.isFailure_iff.mpr ⟨text, rfl⟩)
  · intro h l hl hfailure
    obtain ⟨text, rfl⟩ := Label.isFailure_iff.mp hfailure
    exact h text hl

theorem failures_childTrace (i : ℕ) (t : Trace node Metric) (s : Site) (op : ChainOp) :
    failures (childTrace i t) s op = failures t (i :: s) op := by
  unfold failures childTrace
  rw [List.countP_filterMap]
  congr 1
  funext l
  obtain ⟨site, act⟩ := l
  cases site with
  | nil =>
    unfold Label.isFailure
    split <;> simp [Label.inChild]
  | cons j site =>
    by_cases hj : j = i
    · simp [Label.inChild, Label.isFailure, hj]
    · unfold Label.isFailure
      split <;> simp [Label.inChild, hj]

section Retried

variable {retry} {op : ChainOp} {wrap : String → String} {operation : String}
  {outcomes : List (Except AttestationAdapterError op.Val)} {waits : List ℕ}
  {r : Except AttestationAdapterError op.Val}

def failed (outcomes : List (Except AttestationAdapterError α)) : ℕ :=
  outcomes.countP fun o => !o.isOk

theorem Calls.failures_eq (h : Calls (retried op wrap) outcomes waits t) :
    failures t [] op = failed outcomes := by
  have hone : ∀ {t r}, Completes (retried op wrap).run t r → failures t [] op = failed [r] := by
    intro t r h
    obtain ⟨a, rfl, rfl⟩ := completes_retried.mp h
    cases a <;> simp [failures, Label.isFailure, failed, Except.mapError, Except.isOk, Except.toBool]
  induction h with
  | once h => exact hone h
  | @again r outcomes wait waits t t' h rest ih =>
    have hpause : failures (pause wait) [] op = 0 := by simp [failures, pause, Label.isFailure]
    rw [failures_append, failures_append, hone h, hpause, ih]
    simp [failed, List.countP_cons, Nat.add_comm]

theorem Calls.replied_iff (h : Calls (retried op wrap) outcomes waits t) {a : op.Val} :
    Replied t [] (.chain op) (.ok a) ↔ .ok a ∈ outcomes := by
  have hone : ∀ {t r}, Completes (retried op wrap).run t r →
      (Replied t [] (.chain op) (.ok a) ↔ .ok a = r) := by
    intro t r h
    obtain ⟨b, rfl, rfl⟩ := completes_retried.mp h
    cases b <;> simp [Replied, Except.mapError]
  induction h with
  | once h => rw [hone h, List.mem_singleton]
  | @again r outcomes wait waits t t' h rest ih =>
    have hpause : ¬ Replied (pause wait) [] (.chain op) (.ok a) := by simp [Replied, pause]
    rw [replied_append, replied_append, hone h, List.mem_cons, or_iff_right hpause]
    exact or_congr_right ih

theorem Calls.error_mem (h : Calls (retried op wrap) outcomes waits t)
    {e : AttestationAdapterError} (he : .error e ∈ outcomes) :
    ∃ text, e = .retrievalError (wrap text) := by
  have hone : ∀ {t r}, Completes (retried op wrap).run t r → .error e = r →
      ∃ text, e = .retrievalError (wrap text) := by
    intro t r h hr
    obtain ⟨b, rfl, rfl⟩ := completes_retried.mp h
    cases b with
    | ok b => cases hr
    | error text => exact ⟨text, Except.error.inj hr⟩
  induction h with
  | once h => exact hone h (List.mem_singleton.mp he)
  | again h rest ih =>
    rcases List.mem_cons.mp he with he | he
    · exact hone h he
    · exact ih he

theorem Retries.failed_eq {delays : List ℕ} (h : Retries delays outcomes waits r) :
    failed outcomes = waits.length + failed [r] := by
  have hinit : failed outcomes.dropLast = outcomes.dropLast.length := by
    apply List.countP_eq_length.mpr
    intro o ho
    obtain ⟨reason, rfl⟩ := h.retried o ho
    rfl
  have hlength : outcomes.dropLast.length = waits.length := by
    rw [List.length_dropLast, h.paused, Nat.add_sub_cancel]
  rw [← hlength, ← hinit]
  nth_rewrite 1 [h.outcomes_eq]
  exact List.countP_append

theorem completes_withRetryBackoff_ok {a : op.Val}
    (h : Completes (withRetryBackoff retry operation (retried op wrap)).run t (.ok a)) :
    Replied t [] (.chain op) (.ok a) ∧ failures t [] op ≤ 2 := by
  obtain ⟨outcomes, waits, t₁, hcalls, hretries, rfl⟩ := (completes_withRetryBackoff retry).mp h
  have hmem : .ok a ∈ outcomes := List.mem_of_getLast? hretries.returned
  have hwaits := hretries.waited.length_le
  rw [failures_append, failures_events, hcalls.failures_eq, hretries.failed_eq]
  exact ⟨replied_append.mpr (.inl (hcalls.replied_iff.mpr hmem)), hwaits⟩

theorem completes_withRetryBackoff_error {e : AttestationAdapterError}
    (h : Completes (withRetryBackoff retry operation (retried op wrap)).run t (.error e)) :
    (∃ text, e = .retrievalError (wrap text)) ∧ failures t [] op = 3 := by
  obtain ⟨outcomes, waits, t₁, hcalls, hretries, rfl⟩ := (completes_withRetryBackoff retry).mp h
  have hmem : .error e ∈ outcomes := List.mem_of_getLast? hretries.returned
  obtain ⟨text, rfl⟩ := hcalls.error_mem hmem
  have hwaits := hretries.exhausted ⟨_, rfl⟩
  refine ⟨⟨text, rfl⟩, ?_⟩
  rw [failures_append, failures_events, hcalls.failures_eq, hretries.failed_eq, hwaits]
  rfl

theorem Calls.last {x : Fallible node Metric AttestationAdapterError α}
    {outcomes : List (Except AttestationAdapterError α)} (h : Calls x outcomes waits t)
    {r : Except AttestationAdapterError α} (hr : outcomes.getLast? = some r) :
    ∃ t₁ t₂, t = t₁ ++ t₂ ∧ Completes x.run t₂ r := by
  induction h with
  | @once r' t' h =>
    cases hr
    exact ⟨[], t', rfl, h⟩
  | @again r' outcomes wait waits t' t'' h rest ih =>
    have hne : outcomes ≠ [] := by
      rintro rfl
      cases rest
    rw [List.getLast?_cons_of_ne_nil hne] at hr
    obtain ⟨t₁, t₂, rfl, hlast⟩ := ih hr
    exact ⟨t' ++ (pause wait ++ t₁), t₂, by simp, hlast⟩

/-- A chain call failed with this error after it had failed twice. -/
def FailedForGood (t : Trace node Metric) (text : String) : Prop :=
  ∃ s op u v, t = u ++ ⟨s, .reply (.chain op) (.error text)⟩ :: v ∧ 2 ≤ failures u s op

/-- The error of a retried call is that of its third failure. -/
theorem completes_withRetryBackoff_failed {e : AttestationAdapterError}
    (h : Completes (withRetryBackoff retry operation (retried op wrap)).run t (.error e)) :
    ∃ text, FailedForGood t text ∧ e = .retrievalError (wrap text) := by
  have hthree := (completes_withRetryBackoff_error h).2
  obtain ⟨outcomes, waits, t₁, hcalls, hretries, rfl⟩ := (completes_withRetryBackoff retry).mp h
  obtain ⟨u, u', rfl, hlast⟩ := hcalls.last hretries.returned
  obtain ⟨a, rfl, ha⟩ := completes_retried.mp hlast
  cases a with
  | ok a => cases ha
  | error text =>
    cases ha
    refine ⟨text, ⟨[], op, u ++ [⟨[], .call (.chain op)⟩], _, by simp; rfl, ?_⟩, rfl⟩
    simp only [failures_append, failures_events] at hthree
    simp [failures, Label.isFailure] at hthree ⊢
    omega

theorem completes_withRetryBackoff_replied {a : op.Val}
    (h : Completes (withRetryBackoff retry operation (retried op wrap)).run t r)
    (ha : Replied t [] (.chain op) (.ok a)) : r = .ok a := by
  obtain ⟨outcomes, waits, t₁, hcalls, hretries, rfl⟩ := (completes_withRetryBackoff retry).mp h
  rcases replied_append.mp ha with ha | ha
  · exact hretries.eq_of_ok_mem (hcalls.replied_iff.mp ha)
  · simp [Replied] at ha

end Retried

variable {retry} {op : ChainOp} {wrap : String → String}

/-- What a retried call does: its call, the pauses and the count of a lasting failure. -/
def AttemptLabel (operation : String) (op : ChainOp) (l : Label node Metric) : Prop :=
  l.site = [] ∧ match l.act with
    | .event e => e = .incRetryFailure operation
    | .call op' => op' = .chain op ∨ ∃ delay, op' = .sleep delay
    | .reply op' _ => op' = .chain op ∨ ∃ delay, op' = .sleep delay

theorem spawn_within {operation : String} (delays : List ℕ) (k : UInt8) :
    (retry.spawn delays (fun attempts : UInt8 => (attempts + 1, retried op wrap))
      AttestationAdapterError.isRetrievalError k).Within (AttemptLabel operation op) := by
  have hretried : (retried op wrap).run.Within (AttemptLabel operation op) :=
    Fallible.within_mapErr ⟨⟨rfl, .inl rfl⟩, fun _ => ⟨⟨rfl, .inl rfl⟩, trivial⟩⟩
  induction delays generalizing k with
  | nil =>
    rw [retry.spawn_nil]
    exact Proc.within_bind hretried fun _ => trivial
  | cons delay delays ih =>
    rw [retry.spawn_cons]
    apply Proc.within_bind hretried
    intro r
    cases r with
    | ok a => trivial
    | error e =>
      have hsleep : (sleep delay).Within (AttemptLabel operation op) :=
        ⟨⟨rfl, .inr ⟨delay, rfl⟩⟩, fun _ => ⟨⟨rfl, .inr ⟨delay, rfl⟩⟩, trivial⟩⟩
      change (if e.isRetrievalError then _ else Proc.done _ : Proc node Metric _).Within _
      split_ifs
      · exact Proc.within_bind hsleep fun _ => ih _
      · trivial

theorem withRetryBackoff_within (operation : String) :
    (withRetryBackoff retry operation (retried op wrap)).run.Within (AttemptLabel operation op) := by
  apply Proc.within_bind (spawn_within _ 0)
  intro x
  obtain ⟨attempts, r⟩ := x
  cases r with
  | ok a => trivial
  | error e =>
    change (if attempts ≥ maxAttempts then _ else _ : Proc node Metric _).Within _
    split_ifs
    · exact ⟨⟨rfl, rfl⟩, trivial⟩
    · trivial

theorem eval_withRetryBackoff {o : Oracle node} {operation : String} {a : op.Val}
    (h : o [] (.chain op) = .ok a) :
    (withRetryBackoff retry operation (retried op wrap)).run.eval o = .ok a := by
  have hretried : (retried op wrap).run.eval o = .ok a := by
    have hcall : (chainCall op).run.eval o = .ok a := h
    rw [retried, Fallible.eval_mapErr, hcall]
    rfl
  have hspawn : (retry.spawn (retryStrategy retry)
      (fun attempts : UInt8 => (attempts + 1, retried op wrap))
      AttestationAdapterError.isRetrievalError 0).eval o = (1, .ok a) := by
    rw [retryStrategy_eq, retry.spawn_cons, Proc.eval_bind, hretried]
    rfl
  change (Proc.bind _ _).eval o = _
  rw [Proc.eval_bind, hspawn]
  rfl

end IbcAttestor
