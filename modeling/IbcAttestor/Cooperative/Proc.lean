import Mathlib.Tactic

/-!
# Resumable processes

A process is the tree of everything an asynchronous function may still do: it
finishes, performs a synchronous effect, awaits a call whose reply is not known
in advance, or gathers a family of concurrent children and continues with their
results in order. Processes form a monad, so that fallible asynchronous code is
written in `do` notation over `ExceptT`.
-/

namespace Cooperative

/-- The calls a process may await and the type of the reply to each. -/
structure Interface where
  Op : Type
  Ans : Op → Type

/-- `Ev` is the type of the effects a process performs between two awaits. -/
inductive Proc (I : Interface) (Ev : Type) : Type → Type 1 where
  | done {α : Type} (a : α) : Proc I Ev α
  | emit {α : Type} (e : Ev) (next : Proc I Ev α) : Proc I Ev α
  | await {α : Type} (op : I.Op) (k : I.Ans op → Proc I Ev α) : Proc I Ev α
  | gather {α β : Type} {n : ℕ} (children : Fin n → Proc I Ev β)
      (k : (Fin n → β) → Proc I Ev α) : Proc I Ev α

namespace Proc

variable {I : Interface} {Ev α β γ : Type}

def bind {α β : Type} : Proc I Ev α → (α → Proc I Ev β) → Proc I Ev β
  | .done a, f => f a
  | .emit e p, f => .emit e (p.bind f)
  | .await op k, f => .await op fun a => (k a).bind f
  | .gather c k, f => .gather c fun bs => (k bs).bind f

instance : Monad (Proc I Ev) where
  pure := .done
  bind := .bind

theorem bind_done (p : Proc I Ev α) : p.bind .done = p := by
  induction p with
  | done a => rfl
  | emit e p ih => simp [bind, ih]
  | await op k ih => simp [bind, ih]
  | gather c k _ ih => simp [bind, ih]

theorem bind_assoc (p : Proc I Ev α) (f : α → Proc I Ev β) (g : β → Proc I Ev γ) :
    (p.bind f).bind g = p.bind fun a => (f a).bind g := by
  induction p with
  | done a => rfl
  | emit e p ih => simp [bind, ih]
  | await op k ih => simp [bind, ih]
  | gather c k _ ih => simp [bind, ih]

instance : LawfulMonad (Proc I Ev) :=
  LawfulMonad.mk' _ (fun x => bind_done x) (fun _ _ => rfl) (fun x f g => bind_assoc x f g)

def call (op : I.Op) : Proc I Ev (I.Ans op) := .await op .done

end Proc

/-- Asynchronous code that may fail, as a `Result` future. -/
abbrev Fallible (I : Interface) (Ev ε α : Type) := ExceptT ε (Proc I Ev) α

namespace Fallible

variable {I : Interface} {Ev ε ε' α : Type}

def event (e : Ev) : Fallible I Ev ε Unit := ExceptT.mk (.emit e (.done (.ok ())))

def mapErr (f : ε → ε') (x : Fallible I Ev ε α) : Fallible I Ev ε' α :=
  ExceptT.mk (x.run.bind fun r => .done (r.mapError f))

/-- Run a family of fallible children concurrently and wait for all of them,
whether they fail or not; the results come in the order of the family. -/
def gather {n : ℕ} (children : Fin n → Fallible I Ev ε α) :
    Fallible I Ev ε' (List (Except ε α)) :=
  ExceptT.mk (.gather (fun i => (children i).run) fun rs => .done (.ok (List.ofFn rs)))

def ofExcept (r : Except ε α) : Fallible I Ev ε α := ExceptT.mk (.done r)

theorem ofExcept_bind {β : Type} (r : Except ε α) (f : α → Except ε β) :
    ((ofExcept r : Fallible I Ev ε α) >>= fun a => ofExcept (f a)) = ofExcept (r >>= f) := by
  cases r <;> rfl

/-- Perform some effects, then continue with a result that is already there. -/
def report (es : List Ev) (r : Except ε α) : Fallible I Ev ε α :=
  ExceptT.mk (es.foldr .emit (.done r))

end Fallible
end Cooperative
