import IbcAttestor.Cooperative.Proc

/-!
# Runs of a process

A run is the list of what a process did, in order: effects, calls issued and
replies received, each at the site (the path of child positions) where it
happened. Children of a `gather` interleave freely; what each of them did is the
projection of the run to its position. A run may stop early: `suspended` means
that every live branch waits for a reply, `running` that some branch is between
two awaits.
-/

namespace Cooperative

inductive Act (I : Interface) (Ev : Type) where
  | event (e : Ev)
  | call (op : I.Op)
  | reply (op : I.Op) (a : I.Ans op)

abbrev Site := List ℕ

structure Label (I : Interface) (Ev : Type) where
  site : Site
  act : Act I Ev

abbrev Trace (I : Interface) (Ev : Type) := List (Label I Ev)

inductive Phase where
  | running
  | suspended
  deriving DecidableEq

inductive Outcome (α : Type) where
  | pending (s : Phase)
  | finished (a : α)

variable {I : Interface} {Ev α β γ ε ε' : Type}

namespace Outcome

def map (f : α → β) : Outcome α → Outcome β
  | .pending s => .pending s
  | .finished a => .finished (f a)

def isRunning : Outcome α → Bool
  | .pending .running => true
  | _ => false

def isSuspended : Outcome α → Bool
  | .pending .suspended => true
  | _ => false

end Outcome

/-- A gather waits when no child is between awaits and some child waits. -/
def joinPhase {n : ℕ} (os : Fin n → Outcome β) : Phase :=
  if (∀ i, (os i).isRunning = false) ∧ ∃ i, (os i).isSuspended = true then .suspended
  else .running

/-- The label as child `i` sees it, when it happened inside child `i`. -/
def Label.inChild (i : ℕ) (l : Label I Ev) : Option (Label I Ev) :=
  match l.site with
  | [] => none
  | j :: s => if j = i then some ⟨s, l.act⟩ else none

/-- A child's label at its place in the parent. -/
def Label.under (i : ℕ) (l : Label I Ev) : Label I Ev := ⟨i :: l.site, l.act⟩

def childTrace (i : ℕ) (t : Trace I Ev) : Trace I Ev := t.filterMap (Label.inChild i)

def InChildren (n : ℕ) (t : Trace I Ev) : Prop := ∀ l ∈ t, ∃ i s, i < n ∧ l.site = i :: s

/-- `Runs p t o`: having done `t`, the process `p` has the outcome `o`. -/
def Runs {α : Type} : Proc I Ev α → Trace I Ev → Outcome α → Prop
  | .done a, t, o => t = [] ∧ o = .finished a
  | .emit e p, t, o => (t = [] ∧ o = .pending .running) ∨
      ∃ t', t = ⟨[], .event e⟩ :: t' ∧ Runs p t' o
  | .await op k, t, o => (t = [] ∧ o = .pending .running) ∨
      (t = [⟨[], .call op⟩] ∧ o = .pending .suspended) ∨
      ∃ a t', t = ⟨[], .call op⟩ :: ⟨[], .reply op a⟩ :: t' ∧ Runs (k a) t' o
  | @Proc.gather _ _ _ _ n c k, t, o => ∃ t₁ t₂ os, t = t₁ ++ t₂ ∧ InChildren n t₁ ∧
      (∀ i : Fin n, Runs (c i) (childTrace i t₁) (os i)) ∧
      ((t₂ = [] ∧ o = .pending (joinPhase os)) ∨
        ∃ bs, (∀ i, os i = .finished (bs i)) ∧ Runs (k bs) t₂ o)

abbrev Completes (p : Proc I Ev α) (t : Trace I Ev) (a : α) : Prop := Runs p t (.finished a)

@[simp] theorem runs_done {a : α} {t : Trace I Ev} {o : Outcome α} :
    Runs (.done a) t o ↔ t = [] ∧ o = .finished a := Iff.rfl

/-- What can be said of a process that has not been polled yet. -/
def Proc.initial {α : Type} : Proc I Ev α → Outcome α
  | .done a => .finished a
  | _ => .pending .running

theorem Proc.isSuspended_initial (p : Proc I Ev α) : p.initial.isSuspended = false := by
  cases p <;> rfl

theorem joinPhase_eq_running {n : ℕ} {os : Fin n → Outcome β}
    (h : ∀ i, (os i).isSuspended = false) : joinPhase os = .running := by
  simp [joinPhase, h]

@[simp] theorem childTrace_nil (i : ℕ) : childTrace i ([] : Trace I Ev) = [] := rfl

@[simp] theorem childTrace_append (i : ℕ) (t₁ t₂ : Trace I Ev) :
    childTrace i (t₁ ++ t₂) = childTrace i t₁ ++ childTrace i t₂ :=
  List.filterMap_append

theorem mem_childTrace {i : ℕ} {t : Trace I Ev} {l : Label I Ev} :
    l ∈ childTrace i t ↔ ⟨i :: l.site, l.act⟩ ∈ t := by
  simp only [childTrace, List.mem_filterMap, Label.inChild]
  constructor
  · rintro ⟨⟨site, act⟩, hm, hl⟩
    cases site with
    | nil => simp at hl
    | cons j s =>
      simp only [Option.ite_none_right_eq_some, Option.some.injEq] at hl
      obtain ⟨rfl, rfl⟩ := hl
      exact hm
  · intro hm
    exact ⟨_, hm, by simp⟩

theorem childTrace_under (i : ℕ) (t : Trace I Ev) : childTrace i (t.map (Label.under i)) = t := by
  simp [childTrace, List.filterMap_map, Label.under, Label.inChild, Function.comp_def]

theorem runs_nil (p : Proc I Ev α) : Runs p [] p.initial := by
  induction p with
  | done a => exact ⟨rfl, rfl⟩
  | emit e p _ => exact .inl ⟨rfl, rfl⟩
  | await op k _ => exact .inl ⟨rfl, rfl⟩
  | gather c k ih _ =>
    refine ⟨[], [], fun i => (c i).initial, rfl, by simp [InChildren], ih, .inl ⟨rfl, ?_⟩⟩
    rw [joinPhase_eq_running fun i => (c i).isSuspended_initial]
    rfl

/-- A run of a sequence either stops in the first part or goes through it. -/
theorem runs_bind {p : Proc I Ev α} {f : α → Proc I Ev β} {t : Trace I Ev} {o : Outcome β} :
    Runs (p.bind f) t o ↔ (∃ s, Runs p t (.pending s) ∧ o = .pending s) ∨
      ∃ a t₁ t₂, t = t₁ ++ t₂ ∧ Runs p t₁ (.finished a) ∧ Runs (f a) t₂ o := by
  induction p generalizing t with
  | done a => simp [Proc.bind, Runs]
  | emit e p ih =>
    simp only [Proc.bind, Runs, ih]
    constructor
    · rintro (⟨rfl, rfl⟩ | ⟨t', rfl, ⟨s, hs, rfl⟩ | ⟨a, t₁, t₂, rfl, h₁, h₂⟩⟩)
      · exact .inl ⟨.running, .inl ⟨rfl, rfl⟩, rfl⟩
      · exact .inl ⟨s, .inr ⟨t', rfl, hs⟩, rfl⟩
      · exact .inr ⟨a, _ :: t₁, t₂, rfl, .inr ⟨t₁, rfl, h₁⟩, h₂⟩
    · rintro (⟨s, ⟨rfl, hs⟩ | ⟨t', rfl, hs⟩, rfl⟩ | ⟨a, _, t₂, rfl, ⟨-, h⟩ | ⟨t', rfl, h₁⟩, h₂⟩)
      · exact .inl ⟨rfl, by cases hs; rfl⟩
      · exact .inr ⟨t', rfl, .inl ⟨s, hs, rfl⟩⟩
      · cases h
      · exact .inr ⟨t' ++ t₂, rfl, .inr ⟨a, t', t₂, rfl, h₁, h₂⟩⟩
  | await op k ih =>
    simp only [Proc.bind, Runs, ih]
    constructor
    · rintro (⟨rfl, rfl⟩ | ⟨rfl, rfl⟩ | ⟨r, t', rfl, ⟨s, hs, rfl⟩ | ⟨a, t₁, t₂, rfl, h₁, h₂⟩⟩)
      · exact .inl ⟨.running, .inl ⟨rfl, rfl⟩, rfl⟩
      · exact .inl ⟨.suspended, .inr (.inl ⟨rfl, rfl⟩), rfl⟩
      · exact .inl ⟨s, .inr (.inr ⟨r, t', rfl, hs⟩), rfl⟩
      · exact .inr ⟨a, _ :: _ :: t₁, t₂, rfl, .inr (.inr ⟨r, t₁, rfl, h₁⟩), h₂⟩
    · rintro (⟨s, ⟨rfl, hs⟩ | ⟨rfl, hs⟩ | ⟨r, t', rfl, hs⟩, rfl⟩ |
        ⟨a, _, t₂, rfl, ⟨-, h⟩ | ⟨-, h⟩ | ⟨r, t', rfl, h₁⟩, h₂⟩)
      · exact .inl ⟨rfl, by cases hs; rfl⟩
      · exact .inr (.inl ⟨rfl, by cases hs; rfl⟩)
      · exact .inr (.inr ⟨r, t', rfl, .inl ⟨s, hs, rfl⟩⟩)
      · cases h
      · cases h
      · exact .inr (.inr ⟨r, t' ++ t₂, rfl, .inr ⟨a, t', t₂, rfl, h₁, h₂⟩⟩)
  | gather c k _ ih =>
    simp only [Proc.bind, Runs, ih]
    constructor
    · rintro ⟨u, _, os, rfl, hu, hc, ⟨rfl, rfl⟩ | ⟨bs, hbs, ⟨s, hs, rfl⟩ | ⟨a, t₁, t₂, rfl, h₁, h₂⟩⟩⟩
      · exact .inl ⟨_, ⟨u, [], os, rfl, hu, hc, .inl ⟨rfl, rfl⟩⟩, rfl⟩
      · exact .inl ⟨s, ⟨u, _, os, rfl, hu, hc, .inr ⟨bs, hbs, hs⟩⟩, rfl⟩
      · exact .inr ⟨a, u ++ t₁, t₂, by simp, ⟨u, t₁, os, rfl, hu, hc, .inr ⟨bs, hbs, h₁⟩⟩, h₂⟩
    · rintro (⟨s, ⟨u, _, os, rfl, hu, hc, ⟨rfl, hs⟩ | ⟨bs, hbs, hs⟩⟩, rfl⟩ |
        ⟨a, _, t₂, rfl, ⟨u, t₁, os, rfl, hu, hc, ⟨-, h⟩ | ⟨bs, hbs, h₁⟩⟩, h₂⟩)
      · exact ⟨u, [], os, rfl, hu, hc, .inl ⟨rfl, by cases hs; rfl⟩⟩
      · exact ⟨u, _, os, rfl, hu, hc, .inr ⟨bs, hbs, .inl ⟨s, hs, rfl⟩⟩⟩
      · cases h
      · exact ⟨u, t₁ ++ t₂, os, by simp, hu, hc, .inr ⟨bs, hbs, .inr ⟨a, t₁, t₂, rfl, h₁, h₂⟩⟩⟩

theorem completes_bind {p : Proc I Ev α} {f : α → Proc I Ev β} {t : Trace I Ev} {b : β} :
    Completes (p.bind f) t b ↔
      ∃ a t₁ t₂, t = t₁ ++ t₂ ∧ Completes p t₁ a ∧ Completes (f a) t₂ b := by
  simp [Completes, runs_bind]

theorem runs_map {p : Proc I Ev α} {f : α → β} {t : Trace I Ev} {o : Outcome β} :
    Runs (p.bind fun a => .done (f a)) t o ↔ ∃ o', Runs p t o' ∧ o = o'.map f := by
  rw [runs_bind]
  constructor
  · rintro (⟨s, hs, rfl⟩ | ⟨a, t₁, t₂, rfl, h, rfl, rfl⟩)
    · exact ⟨_, hs, rfl⟩
    · exact ⟨_, by simpa using h, rfl⟩
  · rintro ⟨_ | a, h, rfl⟩
    · exact .inl ⟨_, h, rfl⟩
    · exact .inr ⟨a, t, [], by simp, h, rfl, rfl⟩

theorem runs_call {op : I.Op} {t : Trace I Ev} {o : Outcome (I.Ans op)} :
    Runs (.call op) t o ↔ (t = [] ∧ o = .pending .running) ∨
      (t = [⟨[], .call op⟩] ∧ o = .pending .suspended) ∨
      ∃ a, t = [⟨[], .call op⟩, ⟨[], .reply op a⟩] ∧ o = .finished a := by
  simp only [Proc.call, Runs]
  constructor
  · rintro (h | h | ⟨a, _, rfl, rfl, rfl⟩)
    · exact .inl h
    · exact .inr (.inl h)
    · exact .inr (.inr ⟨a, rfl, rfl⟩)
  · rintro (h | h | ⟨a, rfl, rfl⟩)
    · exact .inl h
    · exact .inr (.inl h)
    · exact .inr (.inr ⟨a, [], rfl, rfl, rfl⟩)

theorem completes_call {op : I.Op} {t : Trace I Ev} {a : I.Ans op} :
    Completes (.call op) t a ↔ t = [⟨[], .call op⟩, ⟨[], .reply op a⟩] := by
  rw [Completes, runs_call]
  constructor
  · rintro (⟨-, h⟩ | ⟨-, h⟩ | ⟨b, rfl, h⟩)
    · cases h
    · cases h
    · cases h
      rfl
  · rintro rfl
    exact .inr (.inr ⟨a, rfl, rfl⟩)

def Replied (t : Trace I Ev) (s : Site) (op : I.Op) (a : I.Ans op) : Prop :=
  (⟨s, .reply op a⟩ : Label I Ev) ∈ t

def Called (t : Trace I Ev) (s : Site) (op : I.Op) : Prop := (⟨s, .call op⟩ : Label I Ev) ∈ t

@[simp] theorem reply_eq_reply {op : I.Op} {a b : I.Ans op} :
    (Act.reply op a : Act I Ev) = .reply op b ↔ a = b := by
  constructor
  · intro h
    cases h
    rfl
  · rintro rfl
    rfl

theorem replied_append {t₁ t₂ : Trace I Ev} {s : Site} {op : I.Op} {a : I.Ans op} :
    Replied (t₁ ++ t₂) s op a ↔ Replied t₁ s op a ∨ Replied t₂ s op a :=
  List.mem_append

theorem replied_child {i : ℕ} {t : Trace I Ev} {s : Site} {op : I.Op} {a : I.Ans op} :
    Replied (childTrace i t) s op a ↔ Replied t (i :: s) op a :=
  mem_childTrace

theorem runs_throw {e : ε} {t : Trace I Ev} {o : Outcome (Except ε α)} :
    Runs (ExceptT.run (throw e : Fallible I Ev ε α)) t o ↔ t = [] ∧ o = .finished (.error e) :=
  Iff.rfl

theorem runs_ofExcept {r : Except ε α} {t : Trace I Ev} {o : Outcome (Except ε α)} :
    Runs (ExceptT.run (Fallible.ofExcept r : Fallible I Ev ε α)) t o ↔
      t = [] ∧ o = .finished r := Iff.rfl

theorem runs_mapErr {f : ε → ε'} {x : Fallible I Ev ε α} {t : Trace I Ev}
    {o : Outcome (Except ε' α)} :
    Runs (x.mapErr f).run t o ↔ ∃ o', Runs x.run t o' ∧ o = o'.map (Except.mapError f) :=
  runs_map

/-- The `?` operator: stop early, end with the first error, or go on. -/
theorem runs_bindOk {x : Fallible I Ev ε α} {f : α → Fallible I Ev ε β} {t : Trace I Ev}
    {o : Outcome (Except ε β)} :
    Runs (x >>= f).run t o ↔ (∃ s, Runs x.run t (.pending s) ∧ o = .pending s) ∨
      (∃ e, Runs x.run t (.finished (.error e)) ∧ o = .finished (.error e)) ∨
      ∃ a t₁ t₂, t = t₁ ++ t₂ ∧ Runs x.run t₁ (.finished (.ok a)) ∧ Runs (f a).run t₂ o := by
  change Runs (Proc.bind x.run _) t o ↔ _
  rw [runs_bind]
  apply or_congr_right
  constructor
  · rintro ⟨r, t₁, t₂, rfl, h₁, h₂⟩
    cases r with
    | error e =>
      obtain ⟨rfl, rfl⟩ := h₂
      exact .inl ⟨e, by simpa using h₁, rfl⟩
    | ok a => exact .inr ⟨a, t₁, t₂, rfl, h₁, h₂⟩
  · rintro (⟨e, h, rfl⟩ | ⟨a, t₁, t₂, rfl, h₁, h₂⟩)
    · exact ⟨.error e, t, [], by simp, h, rfl, rfl⟩
    · exact ⟨.ok a, t₁, t₂, rfl, h₁, h₂⟩

theorem completes_bindOk {x : Fallible I Ev ε α} {f : α → Fallible I Ev ε β} {t : Trace I Ev}
    {r : Except ε β} :
    Completes (x >>= f).run t r ↔ (∃ e, Completes x.run t (.error e) ∧ r = .error e) ∨
      ∃ a t₁ t₂, t = t₁ ++ t₂ ∧ Completes x.run t₁ (.ok a) ∧ Completes (f a).run t₂ r := by
  rw [Completes, runs_bindOk]
  constructor
  · rintro (⟨s, -, h⟩ | ⟨e, h, hr⟩ | h)
    · cases h
    · exact .inl ⟨e, h, Outcome.finished.inj hr⟩
    · exact .inr h
  · rintro (⟨e, h, rfl⟩ | h)
    · exact .inr (.inl ⟨e, h, rfl⟩)
    · exact .inr (.inr h)

theorem runs_mapOk {x : Fallible I Ev ε α} {g : α → β} {t : Trace I Ev}
    {o : Outcome (Except ε β)} :
    Runs (x >>= fun a => pure (g a)).run t o ↔
      ∃ o', Runs x.run t o' ∧ o = o'.map (Except.map g) := by
  have hmap : (x >>= fun a => pure (g a)).run = x.run.bind fun r => .done (r.map g) := by
    change Proc.bind _ _ = Proc.bind _ _
    congr 1
    funext r
    cases r <;> rfl
  rw [hmap, runs_map]

theorem completes_mapOk {x : Fallible I Ev ε α} {g : α → β} {t : Trace I Ev} {r : Except ε β} :
    Completes (x >>= fun a => pure (g a)).run t r ↔
      ∃ r', Completes x.run t r' ∧ r = r'.map g := by
  rw [Completes, runs_mapOk]
  constructor
  · rintro ⟨_ | r', h, hr⟩
    · cases hr
    · exact ⟨r', h, Outcome.finished.inj hr⟩
  · rintro ⟨r', h, rfl⟩
    exact ⟨_, h, rfl⟩

theorem completes_mapErr {f : ε → ε'} {x : Fallible I Ev ε α} {t : Trace I Ev}
    {r : Except ε' α} :
    Completes (x.mapErr f).run t r ↔ ∃ r', Completes x.run t r' ∧ r = r'.mapError f := by
  rw [Completes, runs_mapErr]
  constructor
  · rintro ⟨_ | r', h, hr⟩
    · cases hr
    · exact ⟨r', h, Outcome.finished.inj hr⟩
  · rintro ⟨r', h, rfl⟩
    exact ⟨_, h, rfl⟩

theorem completes_mapErr_ok {f : ε → ε'} {x : Fallible I Ev ε α} {t : Trace I Ev} {a : α} :
    Completes (x.mapErr f).run t (.ok a) ↔ Completes x.run t (.ok a) := by
  rw [completes_mapErr]
  constructor
  · rintro ⟨_ | a', h, hr⟩
    · cases hr
    · cases hr
      exact h
  · intro h
    exact ⟨_, h, rfl⟩

theorem completes_mapErr_error {f : ε → ε'} {x : Fallible I Ev ε α} {t : Trace I Ev} {e : ε'} :
    Completes (x.mapErr f).run t (.error e) ↔
      ∃ e', Completes x.run t (.error e') ∧ e = f e' := by
  rw [completes_mapErr]
  constructor
  · rintro ⟨e' | _, h, hr⟩
    · cases hr
      exact ⟨e', h, rfl⟩
    · cases hr
  · rintro ⟨e', h, rfl⟩
    exact ⟨_, h, rfl⟩

theorem completes_report {es : List Ev} {r r' : Except ε α} {t : Trace I Ev} :
    Completes (Fallible.report es r : Fallible I Ev ε α).run t r' ↔
      t = es.map (fun e => ⟨[], .event e⟩) ∧ r' = r := by
  induction es generalizing t with
  | nil =>
    change Runs (.done r) t (.finished r') ↔ _
    simp [eq_comm]
  | cons e es ih =>
    change Runs (.emit e (es.foldr .emit (.done r))) t (.finished r') ↔ _
    simp only [Runs, reduceCtorEq, and_false, false_or, List.map_cons]
    constructor
    · rintro ⟨t', rfl, h⟩
      obtain ⟨rfl, rfl⟩ := ih.mp h
      exact ⟨rfl, rfl⟩
    · rintro ⟨rfl, rfl⟩
      exact ⟨_, rfl, ih.mpr ⟨rfl, rfl⟩⟩

/-- Ask once, then report: the shape of a function with a single call. -/
theorem completes_ask {g : ε → ε'} {x : Fallible I Ev ε α} {es : α → List Ev}
    {r : α → Except ε' β} {t : Trace I Ev} {r' : Except ε' β} :
    Completes (x.mapErr g >>= fun a => Fallible.report (es a) (r a)).run t r' ↔
      (∃ e, Completes x.run t (.error e) ∧ r' = .error (g e)) ∨
      ∃ a t₁, t = t₁ ++ (es a).map (fun e => ⟨[], .event e⟩) ∧ Completes x.run t₁ (.ok a) ∧
        r' = r a := by
  simp only [completes_bindOk, completes_mapErr_ok, completes_mapErr_error, completes_report]
  constructor
  · rintro (⟨_, ⟨e, h, rfl⟩, rfl⟩ | ⟨a, t₁, _, rfl, h, rfl, rfl⟩)
    · exact .inl ⟨e, h, rfl⟩
    · exact .inr ⟨a, t₁, rfl, h, rfl⟩
  · rintro (⟨e, h, rfl⟩ | ⟨a, t₁, rfl, h, rfl⟩)
    · exact .inl ⟨_, ⟨e, h, rfl⟩, rfl⟩
    · exact .inr ⟨a, t₁, _, rfl, h, rfl, rfl⟩

theorem runs_gather {n : ℕ} {c : Fin n → Fallible I Ev ε α} {t : Trace I Ev}
    {o : Outcome (Except ε' (List (Except ε α)))} :
    Runs (Fallible.gather c : Fallible I Ev ε' _).run t o ↔ InChildren n t ∧
      ∃ os, (∀ i : Fin n, Runs (c i).run (childTrace i t) (os i)) ∧
        (o = .pending (joinPhase os) ∨
          ∃ rs, (∀ i, os i = .finished (rs i)) ∧ o = .finished (.ok (List.ofFn rs))) := by
  constructor
  · rintro ⟨t₁, _, os, rfl, ht, hc, ⟨rfl, rfl⟩ | ⟨rs, hrs, rfl, rfl⟩⟩
    · rw [List.append_nil]
      exact ⟨ht, os, hc, .inl rfl⟩
    · rw [List.append_nil]
      exact ⟨ht, os, hc, .inr ⟨rs, hrs, rfl⟩⟩
  · rintro ⟨ht, os, hc, rfl | ⟨rs, hrs, rfl⟩⟩
    · exact ⟨t, [], os, by simp, ht, hc, .inl ⟨rfl, rfl⟩⟩
    · exact ⟨t, [], os, by simp, ht, hc, .inr ⟨rs, hrs, rfl, rfl⟩⟩

theorem completes_gather {n : ℕ} {c : Fin n → Fallible I Ev ε α} {t : Trace I Ev}
    {r : Except ε' (List (Except ε α))} :
    Completes (Fallible.gather c : Fallible I Ev ε' _).run t r ↔ InChildren n t ∧
      ∃ rs : Fin n → Except ε α, (∀ i : Fin n, Completes (c i).run (childTrace i t) (rs i)) ∧
        r = .ok (List.ofFn rs) := by
  rw [Completes, runs_gather]
  apply and_congr_right'
  constructor
  · rintro ⟨os, hc, h | ⟨rs, hrs, h⟩⟩
    · cases h
    · refine ⟨rs, fun i => ?_, Outcome.finished.inj h⟩
      rw [Completes, ← hrs i]
      exact hc i
  · rintro ⟨rs, hc, rfl⟩
    exact ⟨_, hc, .inr ⟨rs, fun _ => rfl, rfl⟩⟩

theorem InChildren.eq_nil {n : ℕ} {t : Trace I Ev} (h : InChildren n t)
    (hnil : ∀ i : Fin n, childTrace i t = []) : t = [] := by
  cases t with
  | nil => rfl
  | cons l t =>
    obtain ⟨i, s, hi, hs⟩ := h l (by simp)
    have hmem : (⟨s, l.act⟩ : Label I Ev) ∈ childTrace i (l :: t) := by
      rw [mem_childTrace, ← hs]
      simp
    rw [hnil ⟨i, hi⟩] at hmem
    cases hmem

theorem Completes.unique {p : Proc I Ev α} {t t' u u' : Trace I Ev} {a b : α}
    (h : Completes p t a) (h' : Completes p t' b) (heq : t ++ u = t' ++ u') :
    t = t' ∧ a = b := by
  induction p generalizing t t' u u' with
  | done c =>
    obtain ⟨rfl, ha⟩ := h
    obtain ⟨rfl, hb⟩ := h'
    exact ⟨rfl, Outcome.finished.inj (ha.trans hb.symm)⟩
  | emit e p ih =>
    obtain ⟨v, rfl, hv⟩ := h.resolve_left (by simp)
    obtain ⟨v', rfl, hv'⟩ := h'.resolve_left (by simp)
    obtain ⟨rfl, hab⟩ := ih hv hv' (List.cons.inj heq).2
    exact ⟨rfl, hab⟩
  | await op k ih =>
    obtain ⟨r, v, rfl, hv⟩ := (h.resolve_left (by simp)).resolve_left (by simp)
    obtain ⟨r', v', rfl, hv'⟩ := (h'.resolve_left (by simp)).resolve_left (by simp)
    obtain ⟨hreply, hrest⟩ := List.cons.inj (List.cons.inj heq).2
    have hr : r = r' := reply_eq_reply.mp (Label.mk.inj hreply).2
    subst hr
    obtain ⟨rfl, hab⟩ := ih r hv hv' hrest
    exact ⟨rfl, hab⟩
  | gather c k ihc ihk =>
    obtain ⟨v, w, os, rfl, hin, hc, hk⟩ := h
    obtain ⟨bs, hbs, hk⟩ := hk.resolve_left (by simp)
    obtain ⟨v', w', os', rfl, hin', hc', hk'⟩ := h'
    obtain ⟨bs', hbs', hk'⟩ := hk'.resolve_left (by simp)
    rw [List.append_assoc, List.append_assoc] at heq
    have hchild : ∀ (i : Fin _) x x', childTrace i v ++ x = childTrace i v' ++ x' →
        childTrace i v = childTrace i v' ∧ bs i = bs' i := by
      intro i x x' hi
      have hci := hc i
      have hci' := hc' i
      rw [hbs i] at hci
      rw [hbs' i] at hci'
      exact ihc i hci hci' hi
    have hv : v = v' ∧ ∀ i, bs i = bs' i := by
      rcases List.append_eq_append_iff.mp heq with ⟨x, rfl, -⟩ | ⟨x, rfl, -⟩
      · have hi : ∀ i : Fin _, childTrace i v = childTrace i (v ++ x) ∧ bs i = bs' i :=
          fun i => hchild i (childTrace i x) [] (by simp)
        have hx : x = [] := by
          apply InChildren.eq_nil fun l hl => hin' l (List.mem_append_right _ hl)
          intro i
          simpa using (hi i).1
        exact ⟨by simp [hx], fun i => (hi i).2⟩
      · have hi : ∀ i : Fin _, childTrace i (v' ++ x) = childTrace i v' ∧ bs i = bs' i :=
          fun i => hchild i [] (childTrace i x) (by simp)
        have hx : x = [] := by
          apply InChildren.eq_nil fun l hl => hin l (List.mem_append_right _ hl)
          intro i
          simpa using (hi i).1
        exact ⟨by simp [hx], fun i => (hi i).2⟩
    obtain ⟨rfl, hbb⟩ := hv
    obtain rfl : bs = bs' := funext hbb
    obtain ⟨rfl, hab⟩ := ihk bs hk hk' (List.append_cancel_left heq)
    exact ⟨rfl, hab⟩

/-- A run has one result. -/
theorem Completes.eq {p : Proc I Ev α} {t : Trace I Ev} {a b : α} (h : Completes p t a)
    (h' : Completes p t b) : a = b :=
  (h.unique h' (rfl : t ++ [] = t ++ [])).2

/-- Every effect, call and reply the process can come to satisfies `P` at its site. -/
def Proc.Within {α : Type} : Proc I Ev α → (Label I Ev → Prop) → Prop
  | .done _, _ => True
  | .emit e p, P => P ⟨[], .event e⟩ ∧ p.Within P
  | .await op k, P => P ⟨[], .call op⟩ ∧ ∀ a, P ⟨[], .reply op a⟩ ∧ (k a).Within P
  | .gather c k, P => (∀ i, (c i).Within fun l => P (l.under i)) ∧ ∀ bs, (k bs).Within P

variable {P Q : Label I Ev → Prop}

theorem Runs.within {p : Proc I Ev α} {t : Trace I Ev} {o : Outcome α} (hp : p.Within P)
    (h : Runs p t o) : ∀ l ∈ t, P l := by
  induction p generalizing t P with
  | done a =>
    obtain ⟨rfl, -⟩ := h
    simp
  | emit e p ih =>
    rcases h with ⟨rfl, -⟩ | ⟨t', rfl, h⟩
    · simp
    · intro l hl
      rcases List.mem_cons.mp hl with rfl | hl
      · exact hp.1
      · exact ih hp.2 h l hl
  | await op k ih =>
    rcases h with ⟨rfl, -⟩ | ⟨rfl, -⟩ | ⟨a, t', rfl, h⟩
    · simp
    · simpa using hp.1
    · intro l hl
      simp only [List.mem_cons] at hl
      rcases hl with rfl | rfl | hl
      · exact hp.1
      · exact (hp.2 a).1
      · exact ih a (hp.2 a).2 h l hl
  | gather c k ihc ihk =>
    obtain ⟨t₁, t₂, os, rfl, ht₁, hc, hk⟩ := h
    intro l hl
    rcases List.mem_append.mp hl with hl | hl
    · obtain ⟨i, s, hi, hs⟩ := ht₁ l hl
      obtain ⟨site, act⟩ := l
      cases hs
      exact ihc ⟨i, hi⟩ (hp.1 ⟨i, hi⟩) (hc ⟨i, hi⟩) ⟨s, act⟩ (mem_childTrace.mpr hl)
    · rcases hk with ⟨rfl, -⟩ | ⟨bs, -, hk⟩
      · simp at hl
      · exact ihk bs (hp.2 bs) hk l hl

theorem Proc.within_bind {p : Proc I Ev α} {f : α → Proc I Ev β} (hp : p.Within P)
    (hf : ∀ a, (f a).Within P) : (p.bind f).Within P := by
  induction p with
  | done a => exact hf a
  | emit e p ih => exact ⟨hp.1, ih hp.2 hf⟩
  | await op k ih => exact ⟨hp.1, fun a => ⟨(hp.2 a).1, ih a (hp.2 a).2 hf⟩⟩
  | gather c k _ ih => exact ⟨hp.1, fun bs => ih bs (hp.2 bs) hf⟩

theorem Proc.Within.mono {p : Proc I Ev α} (hp : p.Within P) (h : ∀ l, P l → Q l) :
    p.Within Q := by
  induction p generalizing P Q with
  | done a => trivial
  | emit e p ih => exact ⟨h _ hp.1, ih hp.2 h⟩
  | await op k ih => exact ⟨h _ hp.1, fun a => ⟨h _ (hp.2 a).1, ih a (hp.2 a).2 h⟩⟩
  | gather c k ihc ihk =>
    exact ⟨fun i => ihc i (hp.1 i) fun l => h _, fun bs => ihk bs (hp.2 bs) h⟩

theorem Fallible.within_bind {x : Fallible I Ev ε α} {f : α → Fallible I Ev ε β}
    (hx : x.run.Within P) (hf : ∀ a, (f a).run.Within P) : (x >>= f).run.Within P := by
  apply Proc.within_bind hx
  intro r
  cases r with
  | error e => trivial
  | ok a => exact hf a

theorem Fallible.within_mapErr {f : ε → ε'} {x : Fallible I Ev ε α} (hx : x.run.Within P) :
    (x.mapErr f).run.Within P :=
  Proc.within_bind hx fun _ => trivial

theorem Fallible.within_report {es : List Ev} {r : Except ε α} (h : ∀ e ∈ es, P ⟨[], .event e⟩) :
    (Fallible.report es r : Fallible I Ev ε α).run.Within P := by
  induction es with
  | nil => trivial
  | cons e es ih => exact ⟨h e (by simp), ih fun e' he' => h e' (by simp [he'])⟩

theorem Fallible.within_gather {n : ℕ} {c : Fin n → Fallible I Ev ε α}
    (h : ∀ i, (c i).run.Within fun l => P (l.under i)) :
    (Fallible.gather c : Fallible I Ev ε' _).run.Within P :=
  ⟨h, fun _ => trivial⟩

end Cooperative
