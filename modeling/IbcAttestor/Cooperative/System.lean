import IbcAttestor.Cooperative.Balance
import IbcAttestor.Cooperative.Machine

/-!
# Many concurrent tasks

A system serves any number of requests, each by its own task. At any moment a
request arrives, one task takes one step, or a task that is between polls is
dropped. Effects of all tasks go to one shared store. Every task's log is a run
of its own process, and an additive counter of the store is the sum of what the
tasks' logs contribute, finished, dropped or still in progress.
-/

namespace Cooperative

variable {Req : Type} {I : Interface} {Ev α M : Type}

structure Task (Req : Type) (I : Interface) (Ev α : Type) where
  request : Req
  fut : Fut I Ev α
  log : Trace I Ev
  dropped : Bool

/-- Waiting for replies, or not polled yet: the states in which a task can be dropped. -/
def Task.Idle (task : Task Req I Ev α) : Prop :=
  task.fut.outcome = .pending .suspended ∨ task.log = []

/-- Not in the middle of a poll. -/
def Task.Quiet (task : Task Req I Ev α) : Prop :=
  task.fut.outcome ≠ .pending .running ∨ task.log = []

structure System (Req : Type) (I : Interface) (Ev α M : Type) where
  tasks : List (Task Req I Ev α)
  store : M

def Act.perform (effect : Ev → M → M) : Act I Ev → M → M
  | .event e, m => effect e m
  | _, m => m

section Steps

variable (serve : Req → Proc I Ev α) (effect : Ev → M → M)

inductive System.Step : System Req I Ev α M → System Req I Ev α M → Prop
  | arrive (s : System Req I Ev α M) (r : Req) :
      Step s ⟨s.tasks ++ [⟨r, .ready (serve r), [], false⟩], s.store⟩
  | progress {before after : List (Task Req I Ev α)} {task : Task Req I Ev α}
      {f : Fut I Ev α} {l : Option (Label I Ev)} {m : M}
      (live : task.dropped = false) (h : task.fut.Step l f) :
      Step ⟨before ++ task :: after, m⟩
        ⟨before ++ { task with fut := f, log := task.log ++ l.toList } :: after,
          l.elim m fun l => l.act.perform effect m⟩
  | drop {before after : List (Task Req I Ev α)} {task : Task Req I Ev α} {m : M}
      (idle : task.Idle) :
      Step ⟨before ++ task :: after, m⟩ ⟨before ++ { task with dropped := true } :: after, m⟩

/-- The states of every run that starts with no task and the store `init`. -/
inductive System.Reachable (init : M) : System Req I Ev α M → Prop
  | start : Reachable init ⟨[], init⟩
  | step {s s' : System Req I Ev α M} : Reachable init s → Step serve effect s s' →
      Reachable init s'

variable {serve effect} {init : M} {s : System Req I Ev α M}

theorem System.Reachable.all_tasks (P : Task Req I Ev α → Prop)
    (harrive : ∀ r, P ⟨r, .ready (serve r), [], false⟩)
    (hprogress : ∀ (task : Task Req I Ev α) f l, task.dropped = false → task.fut.Step l f →
      P task → P { task with fut := f, log := task.log ++ l.toList })
    (hdrop : ∀ task : Task Req I Ev α, task.Idle → P task → P { task with dropped := true })
    (h : Reachable serve effect init s) : ∀ task ∈ s.tasks, P task := by
  induction h with
  | start => simp
  | step _ hstep ih =>
    intro task htask
    cases hstep with
    | arrive s r =>
      simp only [List.mem_append, List.mem_singleton] at htask
      rcases htask with htask | rfl
      · exact ih task htask
      · exact harrive r
    | progress live hs =>
      simp only [List.mem_append, List.mem_cons] at htask ih
      rcases htask with htask | rfl | htask
      · exact ih task (.inl htask)
      · exact hprogress _ _ _ live hs (ih _ (.inr (.inl rfl)))
      · exact ih task (.inr (.inr htask))
    | drop idle =>
      simp only [List.mem_append, List.mem_cons] at htask ih
      rcases htask with htask | rfl | htask
      · exact ih task (.inl htask)
      · exact hdrop _ idle (ih _ (.inr (.inl rfl)))
      · exact ih task (.inr (.inr htask))

/-- The log of every task is a run of the process that serves its request. -/
theorem System.Reachable.task_runs (h : Reachable serve effect init s)
    {task : Task Req I Ev α} (htask : task ∈ s.tasks) :
    Runs (serve task.request) task.log task.fut.outcome := by
  have hsteps := h.all_tasks (fun task => Fut.Steps (.ready (serve task.request)) task.log task.fut)
    (fun _ => .refl) (fun _ _ _ _ hs ih => .tail ih hs) (fun _ _ ih => ih) task htask
  exact hsteps.runs

/-- A counter of the store is the sum of the tasks' contributions. -/
theorem System.Reachable.read_store {A : Type} [AddCommMonoid A] {read : M → A} {count : Ev → A}
    (hread : ∀ e m, read (effect e m) = read m + count e) (h : Reachable serve effect init s) :
    read s.store = read init + (s.tasks.map fun task => task.log.total count).sum := by
  induction h with
  | start => simp
  | step _ hstep ih =>
    cases hstep with
    | arrive s r => simpa using ih
    | @progress before after task f l m live hs =>
      have hl : read (l.elim m fun l => l.act.perform effect m) =
          read m + Trace.total count l.toList := by
        cases l with
        | none => simp
        | some l =>
          obtain ⟨site, act⟩ := l
          cases act <;> simp [Act.perform, Act.amount, hread]
      simp only [List.map_append, List.map_cons, List.sum_append, List.sum_cons] at ih ⊢
      rw [hl, ih, Trace.total_append]
      abel
    | drop idle => simpa using ih

theorem System.reachable_of_steps {r : Req} {t : Trace I Ev} {f : Fut I Ev α}
    (h : Fut.Steps (.ready (serve r)) t f) (init : M) :
    ∃ m, Reachable serve effect init ⟨[⟨r, f, t, false⟩], m⟩ := by
  induction h with
  | refl => exact ⟨init, .step .start (.arrive _ r)⟩
  | tail _ hstep ih =>
    obtain ⟨m, hm⟩ := ih
    exact ⟨_, .step hm (@Step.progress _ _ _ _ _ serve effect [] [] _ _ _ m rfl hstep)⟩

/-- Every run of every request is the log of a task in a reachable state. -/
theorem System.reachable_of_runs {r : Req} {t : Trace I Ev} {o : Outcome α}
    (h : Runs (serve r) t o) (init : M) :
    ∃ task m, Reachable serve effect init ⟨[task], m⟩ ∧ task.request = r ∧ task.log = t ∧
      task.fut.outcome = o ∧ task.dropped = false := by
  obtain ⟨f, hf, ho⟩ := Fut.runs_iff_steps.mp h
  obtain ⟨m, hm⟩ := @reachable_of_steps _ _ _ _ _ serve effect _ _ _ hf init
  exact ⟨_, m, hm, rfl, rfl, ho, rfl⟩

end Steps
end Cooperative
