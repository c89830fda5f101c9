import IbcAttestor.Adapter.Retry

/-!
# Queries

Every method of every adapter is one retried chain call and a check of the value
it was answered with.
-/

namespace IbcAttestor

open Cooperative

structure Query (α : Type) where
  operation : String
  op : ChainOp
  wrap : String → String
  check : op.Val → Except AttestationAdapterError α

namespace Query

variable {α : Type} (retry : TokioRetry) (q : Query α)

def run : Fallible node Metric AttestationAdapterError α :=
  withRetryBackoff retry q.operation (retried q.op q.wrap) >>= fun a =>
    Fallible.ofExcept (q.check a)

variable {retry q} {t : Trace node Metric}

/-- A query ends with the check of the answer it received, or after three failures. -/
theorem completes_run {r : Except AttestationAdapterError α} (h : Completes (q.run retry).run t r) :
    (∃ a, Replied t [] (.chain q.op) (.ok a) ∧ failures t [] q.op ≤ 2 ∧ r = q.check a) ∨
      failures t [] q.op = 3 ∧ ∃ text, r = .error (.retrievalError text) := by
  rcases completes_bindOk.mp h with ⟨e, he, rfl⟩ | ⟨a, t₁, t₂, rfl, h₁, h₂⟩
  · obtain ⟨⟨text, rfl⟩, hfail⟩ := completes_withRetryBackoff_error he
    exact .inr ⟨hfail, _, rfl⟩
  · obtain ⟨hreply, hfail⟩ := completes_withRetryBackoff_ok h₁
    obtain ⟨rfl, hr⟩ := runs_ofExcept.mp h₂
    rw [List.append_nil]
    exact .inl ⟨a, hreply, hfail, Outcome.finished.inj hr⟩

theorem completes_run_ok {v : α} (h : Completes (q.run retry).run t (.ok v)) :
    ∃ a, Replied t [] (.chain q.op) (.ok a) ∧ failures t [] q.op ≤ 2 ∧ q.check a = .ok v := by
  rcases completes_run h with ⟨a, hreply, hfail, hr⟩ | ⟨-, text, hr⟩
  · exact ⟨a, hreply, hfail, hr.symm⟩
  · cases hr

theorem completes_run_replied {r : Except AttestationAdapterError α} {a : q.op.Val}
    (h : Completes (q.run retry).run t r) (ha : Replied t [] (.chain q.op) (.ok a)) :
    r = q.check a := by
  rcases completes_bindOk.mp h with ⟨e, he, rfl⟩ | ⟨b, t₁, t₂, rfl, h₁, h₂⟩
  · cases completes_withRetryBackoff_replied he ha
  · obtain ⟨rfl, hr⟩ := runs_ofExcept.mp h₂
    rw [List.append_nil] at ha
    obtain rfl : b = a := Except.ok.inj (completes_withRetryBackoff_replied h₁ ha)
    exact Outcome.finished.inj hr

/-- A query ends with the check of an answer, or with the error it failed with for good. -/
theorem completes_run_lasting {r : Except AttestationAdapterError α}
    (h : Completes (q.run retry).run t r) :
    (∃ a, Replied t [] (.chain q.op) (.ok a) ∧ r = q.check a) ∨
      ∃ text, FailedForGood t text ∧ r = .error (.retrievalError (q.wrap text)) := by
  rcases completes_bindOk.mp h with ⟨e, he, rfl⟩ | ⟨a, t₁, t₂, rfl, h₁, h₂⟩
  · obtain ⟨text, hfailed, rfl⟩ := completes_withRetryBackoff_failed he
    exact .inr ⟨text, hfailed, rfl⟩
  · obtain ⟨rfl, hr⟩ := runs_ofExcept.mp h₂
    rw [List.append_nil]
    exact .inl ⟨a, (completes_withRetryBackoff_ok h₁).1, Outcome.finished.inj hr⟩

theorem completes_run_of_calls {outcomes : List (Except AttestationAdapterError q.op.Val)}
    {waits : List ℕ} {r : Except AttestationAdapterError q.op.Val}
    (hcalls : Calls (retried q.op q.wrap) outcomes waits t)
    (hretries : Retries [400, 2000] outcomes waits r) :
    Completes (q.run retry).run
      (t ++ (countedFailure q.operation outcomes r).map fun e => ⟨[], .event e⟩)
      (r >>= q.check) := by
  have hrun : Completes (withRetryBackoff retry q.operation (retried q.op q.wrap)).run _ r :=
    (completes_withRetryBackoff retry).mpr ⟨_, _, _, hcalls, hretries, rfl⟩
  cases r with
  | error e => exact completes_bindOk.mpr (.inl ⟨e, hrun, rfl⟩)
  | ok a => exact completes_bindOk.mpr (.inr ⟨a, _, [], by simp, hrun, rfl, rfl⟩)

theorem completes_answered (retry : TokioRetry) (a : q.op.Val) :
    Completes (q.run retry).run [⟨[], .call (.chain q.op)⟩, ⟨[], .reply (.chain q.op) (.ok a)⟩]
      (q.check a) := by
  have hcalls : Calls (retried q.op q.wrap) [.ok a] [] _ :=
    .once (completes_retried.mpr ⟨.ok a, rfl, rfl⟩)
  have hretries : Retries [400, 2000] [.ok a] [] (.ok a) := by
    apply Retries.once
    rintro ⟨reason, hr⟩
    cases hr
  exact completes_run_of_calls hcalls hretries

/-- The trace of a query whose call has failed twice and comes to `x` at the third attempt. -/
def thirdAttempt (q : Query α) (e e' : String) (x : Except String q.op.Val) :
    Trace node Metric :=
  [⟨[], .call (.chain q.op)⟩, ⟨[], .reply (.chain q.op) (.error e)⟩] ++ (pause 400 ++
    ([⟨[], .call (.chain q.op)⟩, ⟨[], .reply (.chain q.op) (.error e')⟩] ++ (pause 2000 ++
      [⟨[], .call (.chain q.op)⟩, ⟨[], .reply (.chain q.op) x⟩]))) ++
    match x with
    | .ok _ => []
    | .error _ => [⟨[], .event (.incRetryFailure q.operation)⟩]

theorem completes_thirdAttempt (retry : TokioRetry) (e e' : String) (x : Except String q.op.Val) :
    Completes (q.run retry).run (q.thirdAttempt e e' x)
      (x.mapError (fun text => .retrievalError (q.wrap text)) >>= q.check) := by
  have hcalls : Calls (retried q.op q.wrap) [_, _, x.mapError _] [400, 2000] _ :=
    .again (completes_retried.mpr ⟨.error e, rfl, rfl⟩)
      (.again (completes_retried.mpr ⟨.error e', rfl, rfl⟩)
        (.once (completes_retried.mpr ⟨x, rfl, rfl⟩)))
  have hlast : Retries [] [x.mapError fun text => .retrievalError (q.wrap text)] []
      (x.mapError fun text => .retrievalError (q.wrap text)) :=
    .once fun _ => rfl
  have hretries := (hlast.again ⟨q.wrap e', rfl⟩ 2000).again ⟨q.wrap e, rfl⟩ 400
  cases x with
  | ok a => exact completes_run_of_calls hcalls hretries
  | error text => exact completes_run_of_calls hcalls hretries

theorem within_run : (q.run retry).run.Within (AttemptLabel q.operation q.op) :=
  Fallible.within_bind (withRetryBackoff_within q.operation) fun _ => trivial

theorem eval_run {o : Oracle node} {a : q.op.Val} (h : o [] (.chain q.op) = .ok a) :
    (q.run retry).run.eval o = q.check a := by
  rw [run, Fallible.eval_bind, eval_withRetryBackoff h]
  rfl

end Query
end IbcAttestor
