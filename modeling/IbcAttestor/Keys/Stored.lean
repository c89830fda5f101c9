import IbcAttestor.Keys.Commands

/-!
# What becomes of a stored key

All the invocations share one file system. `key generate` looks for the keystore and then
writes it in another call, which takes the place of whatever is there by then: a stored key
is safe as long as no invocation is between the two.
-/

namespace IbcAttestor

open Cooperative

variable {c : Crates} (k : KeyCrates c)

/-- What a call does to the file system and what it answers. A write that fails may leave
anything in the file. -/
inductive KeyAct (env : Environment) :
    Act (shell c) String → FileSystem Bytes → FileSystem Bytes → Prop
  | call (op : KeyOp c) (fs : FileSystem Bytes) : KeyAct env (.call op) fs fs
  | print (text : String) (fs : FileSystem Bytes) : KeyAct env (.event text) fs fs
  | pathExists (path : PathBuf) (fs : FileSystem Bytes) :
    KeyAct env (.reply (.pathExists path) (fs.pathExists env.cwd path)) fs fs
  | created {path : PathBuf} {fs fs' : FileSystem Bytes} (hadds : fs.AddsDirs fs')
      (hdir : path = [] ∨ fs'.isDir env.cwd path = true) :
    KeyAct env (.reply (.createDirAll path) (.ok ())) fs fs'
  | notCreated {path : PathBuf} {fs fs' : FileSystem Bytes} (e : String)
      (hadds : fs.AddsDirs fs') : KeyAct env (.reply (.createDirAll path) (.error e)) fs fs'
  | random (key : c.PrivateKeySigner) (fs : FileSystem Bytes) :
    KeyAct env (.reply .random key) fs fs
  | newId (uuid : String) (fs : FileSystem Bytes) : KeyAct env (.reply .newId uuid) fs fs
  | written {dir name : PathBuf} {key : c.PrivateKeySigner} {d : Location} {part : List Char}
      {content : Bytes} {fs : FileSystem Bytes}
      (hfile : fs.resolve env.cwd (dir.join name) = some (d ++ [part]))
      (hdir : fs.entry d = some .dir) (hpart : fs.entry (d ++ [part]) ≠ some .dir)
      (hkey : k.decryptKeystore content = .ok key) :
    KeyAct env (.reply (.encryptKeystore dir name key) (.ok ())) fs
      (fs.put d part (.file content) hdir hpart)
  | torn {dir name : PathBuf} {key : c.PrivateKeySigner} {d : Location} {part : List Char}
      {fs : FileSystem Bytes} (e : String) (content : Bytes)
      (hfile : fs.resolve env.cwd (dir.join name) = some (d ++ [part]))
      (hdir : fs.entry d = some .dir) (hpart : fs.entry (d ++ [part]) ≠ some .dir) :
    KeyAct env (.reply (.encryptKeystore dir name key) (.error e)) fs
      (fs.put d part (.file content) hdir hpart)
  | notWritten {dir name : PathBuf} {key : c.PrivateKeySigner} (e : String)
      (fs : FileSystem Bytes) : KeyAct env (.reply (.encryptKeystore dir name key) (.error e)) fs fs
  | read (path : PathBuf) (fs : FileSystem Bytes) :
    KeyAct env (.reply (.readFromKeystore path) ((env.host k fs).readFromKeystore path)) fs fs
  | notRead {path : PathBuf} (e : String) (fs : FileSystem Bytes) :
    KeyAct env (.reply (.readFromKeystore path) (.error e)) fs fs

/-- The invocations of the key commands, and other programs that add to the file system but
leave alone what is there. -/
def keyCommands {N : Type} (invocations : N → Invocation) :
    Runtime N (fun _ => Except String Unit) (shell c) String (FileSystem Bytes) where
  code n := (invocations n).code k
  acts n _ a fs fs' := KeyAct k (invocations n).env a fs fs'
  moves _ fs fs' := fs.Adds fs'

variable {k}

theorem KeyAct.grows {env : Environment} {a : Act (shell c) String} {fs fs' : FileSystem Bytes}
    (h : KeyAct k env a fs fs') : fs.Grows fs' := by
  cases h with
  | created hadds hdir => exact hadds.adds.grows
  | notCreated e hadds => exact hadds.adds.grows
  | written hfile hdir hpart hkey => exact FileSystem.put_grows hdir hpart
  | torn e content hfile hdir hpart => exact FileSystem.put_grows hdir hpart
  | call | print | pathExists | random | newId | notWritten | read | notRead => exact .refl _

theorem KeyAct.found {env : Environment} {path : PathBuf} {found : Bool}
    {fs fs' : FileSystem Bytes} (h : KeyAct k env (.reply (.pathExists path) found) fs fs') :
    found = fs.pathExists env.cwd path := by
  cases h
  rfl

theorem KeyAct.answers {env : Environment} {path : PathBuf} {found : Bool}
    {fs : FileSystem Bytes} (h : fs.pathExists env.cwd path = found) :
    KeyAct k env (.reply (.pathExists path) found) fs fs := by
  subst h
  exact .pathExists path fs

theorem KeyAct.wrote {env : Environment} {dir name : PathBuf} {key : c.PrivateKeySigner}
    {fs fs' : FileSystem Bytes}
    (h : KeyAct k env (.reply (.encryptKeystore dir name key) (.ok ())) fs fs') : ∃ l content,
      fs.resolve env.cwd (dir.join name) = some l ∧ fs'.entry l = some (.file content) ∧
        k.decryptKeystore content = .ok key := by
  cases h with
  | written hfile hdir hpart hkey => exact ⟨_, _, hfile, if_pos rfl, hkey⟩

theorem KeyAct.readOk {env : Environment} {path : PathBuf} {key : c.PrivateKeySigner}
    {fs fs' : FileSystem Bytes}
    (h : KeyAct k env (.reply (.readFromKeystore path) (.ok key)) fs fs') :
    (env.host k fs).readFromKeystore path = .ok key := by
  generalize hr : Except.ok key = r at h
  cases h with
  | read => rfl
  | notRead e => cases hr

namespace Invocation

def Generates (k : KeyCrates c) (inv : Invocation) (dir : PathBuf) : Prop :=
  (∃ args, inv.command = .generateKey args) ∧ inv.dir k = .ok dir

def Shows (k : KeyCrates c) (inv : Invocation) (args : ShowArgs) (dir : PathBuf) : Prop :=
  inv.command = .showKey args ∧ inv.dir k = .ok dir

variable {inv : Invocation} {dir : PathBuf}

theorem Generates.code (h : inv.Generates k dir) : inv.code k = (generateIn k dir).run := by
  obtain ⟨⟨args, hcommand⟩, hdir⟩ := h
  unfold Invocation.code
  rw [hdir, hcommand]
  rfl

theorem Generates.follows (h : inv.Generates k dir) :
    (inv.code k).Follows (GenerateOrder dir) [] fun r h => GenerateEnd dir h r := by
  rw [h.code]
  exact generateIn_follows k dir

theorem Shows.code {args : ShowArgs} (h : inv.Shows k args dir) :
    inv.code k = (showFrom k args dir).run := by
  obtain ⟨hcommand, hdir⟩ := h
  unfold Invocation.code
  rw [hdir, hcommand]
  rfl

theorem Shows.follows {args : ShowArgs} (h : inv.Shows k args dir) :
    (inv.code k).Follows (fun _ => ShowOrder dir) [] fun r h => ShowEnd k args r h := by
  rw [h.code]
  exact showFrom_follows k args dir

theorem code_cases (k : KeyCrates c) (inv : Invocation) :
    (∃ e, inv.code k = .done (.error e)) ∨ (∃ dir, inv.Generates k dir) ∨
      ∃ args dir, inv.Shows k args dir := by
  cases hdir : inv.dir k with
  | error e =>
    refine .inl ⟨e, ?_⟩
    unfold Invocation.code
    rw [hdir]
    rfl
  | ok dir =>
    cases hcommand : inv.command with
    | generateKey args => exact .inr (.inl ⟨dir, ⟨args, hcommand⟩, hdir⟩)
    | showKey args => exact .inr (.inr ⟨args, dir, hcommand, hdir⟩)

end Invocation

section Run

variable {N : Type} [DecidableEq N] {invocations : N → Invocation} {fs : FileSystem Bytes}
  {s s' : Runtime.State N (fun _ => Except String Unit) (shell c) String (FileSystem Bytes)}
  {n : N} {dir : PathBuf} {l : Location} {content : Bytes}

theorem grows_of_step (h : (keyCommands k invocations).Step s s') : s.world.Grows s'.world := by
  cases h with
  | act n hs hact => exact hact.grows
  | inner n hs => exact .refl _
  | move hadds => exact FileSystem.Adds.grows hadds

theorem grows_of_steps (h : Relation.ReflTransGen (keyCommands k invocations).Step s s') :
    s.world.Grows s'.world := by
  induction h with
  | refl => exact .refl _
  | tail _ hstep ih => exact ih.trans (grows_of_step hstep)

theorem did_of_step (h : (keyCommands k invocations).Step s s') {a : Act (shell c) String}
    (ha : s.Did n a) : s'.Did n a := by
  cases h with
  | act m hs hact => exact Runtime.did_update.mpr (.inl ha)
  | inner m hs => exact ha
  | move hadds => exact ha

theorem step_of_did (h : (keyCommands k invocations).Step s s') {a : Act (shell c) String}
    (ha : s'.Did n a) : s.Did n a ∨ ∃ l f, (s.futs n).Step (some l) f ∧ l.act = a ∧
      KeyAct k (invocations n).env a s.world s'.world := by
  cases h with
  | act m hs hact =>
    rcases Runtime.did_update.mp ha with hdid | ⟨rfl, rfl⟩
    · exact .inl hdid
    · exact .inr ⟨_, _, hs, rfl, hact⟩
  | inner m hs => exact .inl ha
  | move hadds => exact .inl ha

theorem generates_of_write (h : (keyCommands k invocations).Reachable fs s)
    {site : Site} {dir name : PathBuf} {key : c.PrivateKeySigner} {r : Except String Unit}
    {f : Fut (shell c) String (Except String Unit)}
    (hs : (s.futs n).Step (some ⟨site, .reply (.encryptKeystore dir name key) r⟩) f) :
    name = defaultKeystoreName ∧ (invocations n).Generates k dir ∧
      NotFound dir (s.logs n).acts ∧ ∀ key r, ¬ Wrote dir (s.logs n).acts key r := by
  rcases (invocations n).code_cases k with ⟨e, hcode⟩ | ⟨dir', hgen⟩ | ⟨args, dir', hshow⟩
  · have hsteps := Fut.Steps.tail (h.steps n) hs
    change Fut.Steps (.ready ((invocations n).code k)) _ _ at hsteps
    rw [hcode] at hsteps
    have hruns := hsteps.runs
    obtain ⟨ht, -⟩ := hruns
    simp at ht
  · have horder := h.allows (n := n) hgen.follows hs
    obtain ⟨rfl, rfl, hfound, hwrote⟩ := horder
    exact ⟨rfl, hgen, hfound, hwrote⟩
  · exact (h.allows (n := n) hshow.follows hs).elim

/-- The invocation has found nothing at the place of its keystore and has not written it. -/
structure Pending (k : KeyCrates c) (invocations : N → Invocation)
    (s : Runtime.State N (fun _ => Except String Unit) (shell c) String (FileSystem Bytes))
    (n : N) (dir : PathBuf) (l : Location) : Prop where
  generates : (invocations n).Generates k dir
  notFound : NotFound dir (s.logs n).acts
  notWritten : ∀ key r, ¬ Wrote dir (s.logs n).acts key r
  place : s.world.resolve (invocations n).env.cwd (dir.join defaultKeystoreName) = some l

/-- A file stays as it is in every step but the write of an invocation that had found
nothing. -/
theorem entry_step (h : (keyCommands k invocations).Reachable fs s)
    (hstep : (keyCommands k invocations).Step s s') (hl : s.world.entry l = some (.file content)) :
    s'.world.entry l = some (.file content) ∨ ∃ n dir, Pending k invocations s n dir l := by
  cases hstep with
  | @act n label f fs' hs hact =>
    obtain ⟨site, act⟩ := label
    have hput : ∀ (dir name : PathBuf) key r, act = .reply (.encryptKeystore dir name key) r →
        ∀ d part x hdir hpart,
          s.world.resolve (invocations n).env.cwd (dir.join name) = some (d ++ [part]) →
          (s.world.put d part (.file x) hdir hpart).entry l = some (.file content) ∨
            ∃ n dir, Pending k invocations s n dir l := by
      intro dir name key r ha d part x hdir hpart hfile
      subst ha
      by_cases hplace : l = d ++ [part]
      · subst hplace
        obtain ⟨rfl, hgen, hfound, hwrote⟩ := generates_of_write h hs
        exact .inr ⟨n, dir, hgen, hfound, hwrote, hfile⟩
      · left
        simpa [FileSystem.put, hplace] using hl
    cases hact with
    | written hfile hdir hpart hkey => exact hput _ _ _ _ rfl _ _ _ hdir hpart hfile
    | torn e x hfile hdir hpart => exact hput _ _ _ _ rfl _ _ _ hdir hpart hfile
    | created hadds hdir => exact .inl (hadds.adds l _ hl)
    | notCreated e hadds => exact .inl (hadds.adds l _ hl)
    | call | print | pathExists | random | newId | notWritten | read | notRead => exact .inl hl
  | inner n hs => exact .inl hl
  | move hadds => exact .inl (hadds l _ hl)

def InDirs (fs : FileSystem Bytes) (invocations : N → Invocation) : Prop :=
  ∀ n, fs.entry (invocations n).env.cwd = some .dir

theorem inDirs_of_reachable (hcwd : InDirs fs invocations)
    (h : (keyCommands k invocations).Reachable fs s) : InDirs s.world invocations := by
  induction h with
  | start => exact hcwd
  | step _ hstep ih => exact fun n => (grows_of_step hstep).dir _ (ih n)

/-- The directory is there when its keystore is looked for. -/
theorem settled_of_ready (hcwd : InDirs fs invocations)
    (h : (keyCommands k invocations).Reachable fs s) (hready : DirReady dir (s.logs n).acts) :
    s.world.Settled (invocations n).env.cwd dir := by
  have hkeep : ∀ s s', (keyCommands k invocations).Step s s' →
      s.world.Settled (invocations n).env.cwd dir →
      s'.world.Settled (invocations n).env.cwd dir :=
    fun s s' hstep hsettled => hsettled.grows (grows_of_step hstep)
  have hsettled : ∀ (fs : FileSystem Bytes) l, fs.resolve (invocations n).env.cwd dir = some l →
      fs.entry l ≠ none → fs.Settled (invocations n).env.cwd dir := by
    intro fs l hl hne
    have hdir : dir ≠ [] := by
      intro hnil
      simp [FileSystem.resolve, hnil] at hl
    exact ⟨l, by rw [FileSystem.base, if_neg hdir, hl], hne⟩
  have hdirs : ∀ s', (keyCommands k invocations).Reachable fs s' → InDirs s'.world invocations :=
    fun s' h' => inDirs_of_reachable hcwd h'
  rcases hready with hfound | hcreated
  · apply h.lasting (H := fun fs => InDirs fs invocations)
      (P := fun fs => fs.Settled (invocations n).env.cwd dir) hdirs ?_ hkeep hfound
    intro outcomes w w' hact _
    obtain ⟨l, hl, hne⟩ := FileSystem.pathExists_iff.mp (KeyAct.found hact).symm
    exact hsettled w' l (hact.grows.resolve hl) (hact.grows.ne_none hne)
  · apply h.lasting (H := fun fs => InDirs fs invocations)
      (P := fun fs => fs.Settled (invocations n).env.cwd dir) hdirs ?_ hkeep hcreated
    intro outcomes w w' hact hdirs
    cases hact with
    | created hadds hdir =>
      rcases hdir with hnil | hdir
      · exact ⟨_, if_pos hnil, by simp [hadds.adds _ _ (hdirs n)]⟩
      · obtain ⟨l, hl, he⟩ := FileSystem.isDir_iff.mp hdir
        exact hsettled w' l hl (by simp [he])

/-- Once the keystore has been looked for, its path names the same place forever. -/
theorem place_iff (hcwd : InDirs fs invocations) (h : (keyCommands k invocations).Reachable fs s)
    (hgen : (invocations n).Generates k dir) (hfound : NotFound dir (s.logs n).acts)
    (hgrows : s.world.Grows s'.world) :
    s'.world.resolve (invocations n).env.cwd (dir.join defaultKeystoreName) = some l ↔
      s.world.resolve (invocations n).env.cwd (dir.join defaultKeystoreName) = some l := by
  obtain ⟨u, v, hacts, -, hready⟩ := h.before (n := n) hgen.follows hfound
  have hready' : DirReady dir (s.logs n).acts := by
    rw [hacts]
    exact (hready rfl).imp (List.mem_append_left _) (List.mem_append_left _)
  exact (settled_of_ready hcwd h hready').resolve_join hgrows defaultKeystoreName_plain

/-- Where there is a file, no invocation comes to find nothing. -/
theorem pending_step (hcwd : InDirs fs invocations)
    (h : (keyCommands k invocations).Reachable fs s)
    (hstep : (keyCommands k invocations).Step s s') (hl : s.world.entry l ≠ none)
    (hpending : Pending k invocations s' n dir l) : Pending k invocations s n dir l := by
  obtain ⟨hgen, hfound, hwrote, hplace⟩ := hpending
  have hwrote' : ∀ key r, ¬ Wrote dir (s.logs n).acts key r :=
    fun key r hw => hwrote key r (did_of_step hstep hw)
  rcases step_of_did hstep hfound with hfound | ⟨label, f, hs, hlabel, hact⟩
  · exact ⟨hgen, hfound, hwrote', (place_iff hcwd h hgen hfound (grows_of_step hstep)).mp hplace⟩
  · have horder := h.allows (n := n) hgen.follows hs
    rw [hlabel] at horder
    have hsettled := settled_of_ready hcwd h (horder.2 rfl)
    have hplace' :=
      (hsettled.resolve_join (grows_of_step hstep) defaultKeystoreName_plain).mp hplace
    have hexists := FileSystem.pathExists_iff.mpr ⟨l, hplace', hl⟩
    rw [← hact.found] at hexists
    cases hexists

theorem stored_kept (hcwd : InDirs fs invocations) (h : (keyCommands k invocations).Reachable fs s)
    (hl : s.world.entry l = some (.file content)) (hno : ∀ n dir, ¬ Pending k invocations s n dir l)
    (hsteps : Relation.ReflTransGen (keyCommands k invocations).Step s s') :
    (keyCommands k invocations).Reachable fs s' ∧
      s'.world.entry l = some (.file content) ∧ ∀ n dir, ¬ Pending k invocations s' n dir l := by
  induction hsteps with
  | refl => exact ⟨h, hl, hno⟩
  | tail _ hstep ih =>
    obtain ⟨h', hl', hno'⟩ := ih
    refine ⟨.step h' hstep, ?_, fun n dir hpending => ?_⟩
    · rcases entry_step h' hstep hl' with hkept | ⟨n, dir, hpending⟩
      · exact hkept
      · exact absurd hpending (hno' n dir)
    · exact hno' n dir (pending_step hcwd h' hstep (by simp [hl']) hpending)

/-- An invocation that has found nothing can still leave an empty file. -/
theorem exists_emptied (h : (keyCommands k invocations).Reachable fs s)
    (hl : s.world.entry l = some (.file content)) (hpending : Pending k invocations s n dir l)
    (key : c.PrivateKeySigner) :
    ∃ s', Relation.ReflTransGen (keyCommands k invocations).Step s s' ∧
      s'.world.entry l = some (.file []) := by
  obtain ⟨hgen, hfound, hwrote, hplace⟩ := hpending
  have hcosts : ((invocations n).code k).CostsAtMost (fun _ => 1) 14 := by
    rw [hgen.code]
    exact generateIn_costs k dir
  induction hrest : 14 - (s.logs n).length using Nat.strong_induction_on generalizing s with
  | _ rest ih =>
    have hstraight : ((keyCommands k invocations).code n).Straight := by
      change ((invocations n).code k).Straight
      rw [hgen.code]
      exact generateIn_straight k dir
    have hnext : ∀ (label : Label (shell c) String) f, (s.futs n).Step (some label) f →
        (∀ key r, label.act ≠ .reply (.encryptKeystore dir defaultKeystoreName key) r) →
        KeyAct k (invocations n).env label.act s.world s.world →
        ∃ s', Relation.ReflTransGen (keyCommands k invocations).Step s s' ∧
          s'.world.entry l = some (.file []) := by
      intro label f hs hlabel hact
      have hstep : (keyCommands k invocations).Step s _ := .act n hs hact
      have hreach := h.step hstep
      have hlength : (s.logs n).length + 1 ≤ 14 := by
        simpa using hcosts.cost_le (hreach.runs n)
      have hwrote' : ∀ key r, ¬ Wrote dir
          (Trace.acts (Function.update s.logs n (s.logs n ++ [label]) n)) key r := by
        intro key r hw
        rw [Function.update_self, Trace.acts, List.map_append] at hw
        rcases List.mem_append.mp hw with hw | hw
        · exact hwrote key r hw
        · exact hlabel key r (List.mem_singleton.mp hw).symm
      obtain ⟨s', hsteps, hs'⟩ := ih _ (by simp; omega) hreach hl
        (did_of_step hstep hfound) hwrote' hplace rfl
      exact ⟨s', .head hstep hsteps, hs'⟩
    rcases h.enabled hstraight with ⟨r, hr⟩ | ⟨label, f, hs, hlabel⟩ | ⟨site, op, hs⟩
    · obtain ⟨key, r', hw⟩ := (h.result (n := n) hgen.follows hr).1 hfound
      exact absurd hw (hwrote key r')
    · obtain ⟨site, act⟩ := label
      cases act with
      | call op => exact hnext _ f hs (by simp) (.call op s.world)
      | reply op a => exact absurd rfl (hlabel op a)
      | event text => exact hnext _ f hs (by simp) (.print text s.world)
    · cases op with
      | pathExists path =>
        obtain ⟨f, hs⟩ := hs true
        exact absurd hfound (h.allows (n := n) hgen.follows hs).1
      | createDirAll path =>
        obtain ⟨f, hs⟩ := hs (.ok ())
        exact absurd hfound (h.allows (n := n) hgen.follows hs)
      | random =>
        obtain ⟨f, hs⟩ := hs key
        exact hnext _ f hs (by simp) (.random key s.world)
      | newId =>
        obtain ⟨f, hs⟩ := hs ""
        exact hnext _ f hs (by simp) (.newId "" s.world)
      | readFromKeystore path =>
        obtain ⟨f, hs⟩ := hs (.ok key)
        exact (h.allows (n := n) hgen.follows hs).elim
      | encryptKeystore dir' name key' =>
        obtain ⟨f, hs⟩ := hs (.error "")
        obtain ⟨rfl, rfl, -, -⟩ := h.allows (n := n) hgen.follows hs
        obtain ⟨d, -, hdir, rfl⟩ := (FileSystem.resolve_join defaultKeystoreName_plain).mp hplace
        have hact : KeyAct k (invocations n).env
            (.reply (.encryptKeystore dir' defaultKeystoreName key') (.error "")) s.world _ :=
          .torn "" [] hplace hdir (by simp [hl])
        exact ⟨_, .single (.act n hs hact), if_pos rfl⟩

def Holds (k : KeyCrates c) (fs : FileSystem Bytes) (l : Location) (key : c.PrivateKeySigner) :
    Prop :=
  ∃ content, fs.entry l = some (.file content) ∧ k.decryptKeystore content = .ok key

/-- A stored key can be lost if and only if an invocation that generates a key for its file
has found nothing there and has not written yet. -/
theorem stored_key_lost_iff (hcwd : InDirs fs invocations)
    (h : (keyCommands k invocations).Reachable fs s) {key : c.PrivateKeySigner}
    (hkey : Holds k s.world l key) :
    (∃ s', Relation.ReflTransGen (keyCommands k invocations).Step s s' ∧
      ¬ Holds k s'.world l key) ↔ ∃ n dir, Pending k invocations s n dir l := by
  obtain ⟨content, hl, hcontent⟩ := hkey
  constructor
  · rintro ⟨s', hsteps, hlost⟩
    by_contra hno
    have hno' : ∀ n dir, ¬ Pending k invocations s n dir l :=
      fun n dir hpending => hno ⟨n, dir, hpending⟩
    exact hlost ⟨content, (stored_kept hcwd h hl hno' hsteps).2.1, hcontent⟩
  · rintro ⟨n, dir, hpending⟩
    obtain ⟨s', hsteps, hempty⟩ := exists_emptied h hl hpending key
    refine ⟨s', hsteps, ?_⟩
    rintro ⟨content', hl', hcontent'⟩
    rw [hempty] at hl'
    cases hl'
    exact k.decryptKeystore_nil key hcontent'

/-- Another invocation that generates a key has found nothing at the place. -/
def Rival (k : KeyCrates c) (invocations : N → Invocation)
    (s : Runtime.State N (fun _ => Except String Unit) (shell c) String (FileSystem Bytes))
    (n : N) (l : Location) : Prop :=
  ∃ m dir, m ≠ n ∧ (invocations m).Generates k dir ∧ NotFound dir (s.logs m).acts ∧
    s.world.resolve (invocations m).env.cwd (dir.join defaultKeystoreName) = some l

theorem rival_step (hstep : (keyCommands k invocations).Step s s')
    (h : Rival k invocations s n l) : Rival k invocations s' n l := by
  obtain ⟨m, dir, hm, hgen, hfound, hplace⟩ := h
  exact ⟨m, dir, hm, hgen, did_of_step hstep hfound, (grows_of_step hstep).resolve hplace⟩

theorem wrote_stored (h : (keyCommands k invocations).Reachable fs s)
    (hgen : (invocations n).Generates k dir) {key : c.PrivateKeySigner}
    (hwrote : Wrote dir (s.logs n).acts key (.ok ())) : ∃ l content,
      s.world.resolve (invocations n).env.cwd (dir.join defaultKeystoreName) = some l ∧
      s.world.entry l = some (.file content) ∧
      (k.decryptKeystore content = .ok key ∨ Rival k invocations s n l) := by
  induction h with
  | start => simp [Wrote, Trace.acts] at hwrote
  | @step s s' h hstep ih =>
    rcases step_of_did hstep hwrote with hwrote | ⟨label, f, hs, hlabel, hact⟩
    · obtain ⟨l, content, hplace, hl, hcases⟩ := ih hwrote
      have hgrows := grows_of_step hstep
      have hplace' := hgrows.resolve hplace
      rcases entry_step h hstep hl with hl' | ⟨m, dir', hpending⟩
      · exact ⟨l, content, hplace', hl', hcases.imp_right (rival_step hstep)⟩
      · obtain ⟨content', hl'⟩ := hgrows.file l content hl
        have hm : m ≠ n := by
          rintro rfl
          obtain rfl : dir = dir' := Except.ok.inj (hgen.2.symm.trans hpending.generates.2)
          exact hpending.notWritten key _ hwrote
        exact ⟨l, content', hplace', hl', .inr (rival_step hstep
          ⟨m, dir', hm, hpending.generates, hpending.notFound, hpending.place⟩)⟩
    · obtain ⟨l, content, hplace, hl, hkey⟩ := hact.wrote
      exact ⟨l, content, (grows_of_step hstep).resolve hplace, hl, .inl hkey⟩

theorem Holds.read {env : Environment} {path : PathBuf} {key : c.PrivateKeySigner}
    (h : Holds k fs l key) (hl : fs.resolve env.cwd path = some l) :
    (env.host k fs).readFromKeystore path = .ok key := by
  obtain ⟨content, he, hkey⟩ := h
  simp [Environment.host, FileSystem.content_eq_some hl he, hkey]

theorem reads_kept (hcwd : InDirs fs invocations) (h : (keyCommands k invocations).Reachable fs s)
    {key : c.PrivateKeySigner} (hl : s.world.entry l = some (.file content))
    (hkey : k.decryptKeystore content = .ok key) (hno : ∀ n dir, ¬ Pending k invocations s n dir l)
    {args : ShowArgs} (hshow : (invocations n).Shows k args dir) (hlog : s.logs n = [])
    (hplace : s.world.resolve (invocations n).env.cwd (dir.join defaultKeystoreName) = some l)
    (hsteps : Relation.ReflTransGen (keyCommands k invocations).Step s s') {path : PathBuf}
    {a : c.PrivateKeySigner} (ha : s'.Did n (.reply (.readFromKeystore path) (.ok a))) :
    a = key := by
  induction hsteps with
  | refl => simp [Runtime.State.Did, hlog, Trace.acts] at ha
  | @tail s₁ s₂ hsteps hstep ih =>
    obtain ⟨h₁, hl₁, -⟩ := stored_kept hcwd h hl hno hsteps
    rcases step_of_did hstep ha with ha | ⟨label, f, hs, hlabel, hact⟩
    · exact ih ha
    · have horder := h₁.allows (n := n) hshow.follows hs
      rw [hlabel] at horder
      have hread := Holds.read (k := k) ⟨content, hl₁, hkey⟩
        ((grows_of_steps hsteps).resolve hplace)
      rw [← horder, hact.readOk] at hread
      exact Except.ok.inj hread

/-- The key that `key generate` reports stays where it is when there is no rival; from then
on `key show` prints it, and a signer that is built from the file signs with it. -/
theorem generated_key_used (hcwd : InDirs fs invocations)
    (h : (keyCommands k invocations).Reachable fs s) (hgen : (invocations n).Generates k dir)
    (hok : s.outcomes n = .finished (.ok ()))
    (hplace : s.world.resolve (invocations n).env.cwd (dir.join defaultKeystoreName) = some l)
    (hrival : ¬ Rival k invocations s n l) :
    ∃ key, Wrote dir (s.logs n).acts key (.ok ()) ∧
      ∀ s', Relation.ReflTransGen (keyCommands k invocations).Step s s' →
        Holds k s'.world l key ∧
        (∀ m args dir', (invocations m).Shows k args dir' → s.logs m = [] →
          s.world.resolve (invocations m).env.cwd (dir'.join defaultKeystoreName) = some l →
          s'.outcomes m = .finished (.ok ()) → printed (s'.logs m).acts = args.output k key) ∧
        ∀ (env : Environment) path file,
          withExpandedHome (env.host k s'.world) (keystoreAt (env.host k s'.world) path) =
            .ok file → s'.world.resolve env.cwd file = some l →
          ∃ signer, LocalSigner.build (env.host k s'.world) ⟨path⟩ = .ok signer ∧
            ∀ message t σ, Completes (signer.sign message).run t (.ok σ) →
              recoverAddress c message (c.signatureAsBytes σ) = .ok (c.address key) := by
  obtain ⟨key, hwrote⟩ := (h.result (n := n) hgen.follows hok).2 rfl
  obtain ⟨l', content, hplace', hl, hcases⟩ := wrote_stored h hgen hwrote
  obtain rfl : l = l' := Option.some.inj (hplace.symm.trans hplace')
  have hkey : k.decryptKeystore content = .ok key := hcases.resolve_right hrival
  have hno : ∀ m dir', ¬ Pending k invocations s m dir' l := by
    intro m dir' hpending
    by_cases hm : m = n
    · subst hm
      obtain rfl : dir = dir' := Except.ok.inj (hgen.2.symm.trans hpending.generates.2)
      exact hpending.notWritten key _ hwrote
    · exact hrival ⟨m, dir', hm, hpending.generates, hpending.notFound, hpending.place⟩
  refine ⟨key, hwrote, fun s' hsteps => ?_⟩
  obtain ⟨h', hl', -⟩ := stored_kept hcwd h hl hno hsteps
  have hholds : Holds k s'.world l key := ⟨content, hl', hkey⟩
  refine ⟨hholds, fun m args dir' hshow hlog hplace hdone => ?_, fun env path file hfile hl => ?_⟩
  · apply h'.result (n := m) hshow.follows hdone rfl
    intro path a ha
    exact (reads_kept hcwd h hl hkey hno hshow hlog hplace hsteps ha)
  · refine ⟨⟨key⟩, ?_, fun message t σ hsign => ?_⟩
    · have hbuild := readsKeystore_of_expanded hfile (env.host k s'.world).readFromKeystore
      rw [hholds.read hl] at hbuild
      exact hbuild
    · obtain ⟨-, hσ⟩ := (LocalSigner.completes_sign_ok _).mp hsign
      exact recoverAddress_syncSign c hσ

end Run

/-- A file that is not empty holds the key. -/
def sampleKeyCrates : KeyCrates sampleCrates where
  debug := String.ofList
  decryptKeystore content := if content = [] then .error "EOF" else .ok ()
  decryptKeystore_nil _ := by simp
  credential _ := []
  notFound _ := "No such file or directory"

def sampleFiles : FileSystem Bytes :=
  FileSystem.empty.put [] "keys".toList .dir rfl (by decide)

def sampleInvocations (_ : Bool) : Invocation where
  env := ⟨fun _ => none, []⟩
  command := .generateKey ⟨some "/keys".toList⟩

abbrev sampleShell := keyCommands sampleKeyCrates sampleInvocations

theorem sampleFiles_resolve : sampleFiles.resolve []
    (PathBuf.join "/keys".toList defaultKeystoreName) =
      some (["keys".toList] ++ [defaultKeystoreName]) := by
  decide

theorem sampleFiles_exists : sampleFiles.pathExists [] "/keys".toList = true := by decide

theorem sampleFiles_not_exists :
    sampleFiles.pathExists [] (PathBuf.join "/keys".toList defaultKeystoreName) = false := by
  decide

abbrev SampleState :=
  Runtime.State Bool (fun _ => Except String Unit) (shell sampleCrates) String (FileSystem Bytes)

theorem sample_looks {s : SampleState} (h : sampleShell.Reachable sampleFiles s) {n : Bool}
    (hfut : s.futs n = .ready (generateIn sampleKeyCrates "/keys".toList).run)
    (hworld : s.world = sampleFiles) : ∃ s', sampleShell.Reachable sampleFiles s' ∧
      @Runtime.Later _ _ (shell sampleCrates) _ _ n
        ([.call (.pathExists "/keys".toList), .reply (.pathExists "/keys".toList) true] ++
          [.call (.pathExists (PathBuf.join "/keys".toList defaultKeystoreName)),
            .reply (.pathExists (PathBuf.join "/keys".toList defaultKeystoreName)) false])
        (.ready (saveNew sampleKeyCrates "/keys".toList).run) sampleFiles s s' := by
  obtain ⟨s₁, h₁, l₁⟩ := h.awaits (n := n) (a := true) (w := sampleFiles) hfut (.call _ _)
    fun _ _ _ => by
      rw [hworld]
      exact KeyAct.answers sampleFiles_exists
  obtain ⟨s₂, h₂, l₂⟩ := h₁.awaits (n := n) (a := false) (w := sampleFiles) l₁.fut (.call _ _)
    fun _ _ _ => by
      rw [l₁.world]
      exact KeyAct.answers sampleFiles_not_exists
  exact ⟨s₂, h₂, l₁.trans l₂⟩

def sampleStored : FileSystem Bytes :=
  sampleFiles.put ["keys".toList] defaultKeystoreName (.file [1]) (by decide) (by decide)

theorem sample_writes {s : SampleState} (h : sampleShell.Reachable sampleFiles s) {n : Bool}
    (hfut : s.futs n = .ready (saveNew sampleKeyCrates "/keys".toList).run)
    (hworld : s.world = sampleFiles) : ∃ s' as, sampleShell.Reachable sampleFiles s' ∧
      @Runtime.Later _ _ (shell sampleCrates) _ _ n as (.ready (.done (.ok ())))
        sampleStored s s' := by
  have hwritten : ∀ key, KeyAct sampleKeyCrates (sampleInvocations n).env
      (.reply (.encryptKeystore "/keys".toList defaultKeystoreName key) (.ok ())) sampleFiles
      sampleStored :=
    fun key => .written sampleFiles_resolve _ _ (by rfl)
  obtain ⟨s₁, h₁, l₁⟩ := h.awaits (n := n) (a := ()) (w := sampleFiles) hfut (.call _ _)
    fun _ _ _ => by
      rw [hworld]
      exact .random _ _
  obtain ⟨s₂, h₂, l₂⟩ := h₁.awaits (n := n) (a := "1") (w := sampleFiles) l₁.fut (.call _ _)
    fun _ _ _ => by
      rw [l₁.world]
      exact .newId _ _
  obtain ⟨s₃, h₃, l₃⟩ := h₂.awaits (n := n) (a := .ok ()) (w := sampleStored) l₂.fut (.call _ _)
    fun _ _ _ => by
      rw [l₂.world]
      exact hwritten _
  obtain ⟨s₄, h₄, l₄⟩ := h₃.emits (n := n) (w := sampleStored) l₃.fut (by
    rw [l₃.world]
    exact .print _ _)
  obtain ⟨s₅, h₅, l₅⟩ := h₄.emits (n := n) (w := sampleStored) l₄.fut (by
    rw [l₄.world]
    exact .print _ _)
  exact ⟨s₅, _, h₅, (((l₁.trans l₂).trans l₃).trans l₄).trans l₅⟩

theorem sampleStored_holds :
    Holds sampleKeyCrates sampleStored ["keys".toList, defaultKeystoreName] () :=
  ⟨[1], by decide, by rfl⟩

theorem sample_generates (n : Bool) :
    (sampleInvocations n).Generates sampleKeyCrates "/keys".toList :=
  ⟨⟨_, rfl⟩, rfl⟩

theorem sample_inDirs : InDirs sampleFiles sampleInvocations := fun _ => sampleFiles.root

/-- Both invocations have looked for the keystore when one of them writes it: its key can
be lost. -/
theorem stored_key_lost_iff_sample : ∃ s s' : SampleState, sampleShell.Reachable sampleFiles s ∧
    Holds sampleKeyCrates s.world ["keys".toList, defaultKeystoreName] () ∧
    Relation.ReflTransGen sampleShell.Step s s' ∧
    ¬ Holds sampleKeyCrates s'.world ["keys".toList, defaultKeystoreName] () := by
  obtain ⟨s₁, h₁, l₁⟩ := sample_looks (n := true) .start rfl rfl
  obtain ⟨s₂, h₂, l₂⟩ := sample_looks (n := false) h₁ (l₁.others false (by simp)) l₁.world
  obtain ⟨s₃, as, h₃, l₃⟩ := sample_writes (n := true) h₂
    ((l₂.others true (by simp)).trans l₁.fut) l₂.world
  have hholds : Holds sampleKeyCrates s₃.world ["keys".toList, defaultKeystoreName] () := by
    rw [l₃.world]
    exact sampleStored_holds
  have hpending : Pending sampleKeyCrates sampleInvocations s₃ false "/keys".toList
      ["keys".toList, defaultKeystoreName] := by
    refine ⟨sample_generates false, l₃.kept (l₂.did (by simp)), fun key r hwrote => ?_, ?_⟩
    · rw [Wrote, l₃.logs false (by simp), l₂.acts, l₁.logs false (by simp)] at hwrote
      simp [Trace.acts] at hwrote
    · rw [l₃.world]
      decide
  obtain ⟨s₄, hsteps, hlost⟩ :=
    (stored_key_lost_iff sample_inDirs h₃ hholds).mpr ⟨false, _, hpending⟩
  exact ⟨s₃, s₄, h₃, hholds, hsteps, hlost⟩

/-- One invocation alone. -/
theorem generated_key_used_sample : ∃ s : SampleState, sampleShell.Reachable sampleFiles s ∧
    s.outcomes true = .finished (.ok ()) ∧
    ∀ s', Relation.ReflTransGen sampleShell.Step s s' →
      Holds sampleKeyCrates s'.world ["keys".toList, defaultKeystoreName] () := by
  obtain ⟨s₁, h₁, l₁⟩ := sample_looks (n := true) .start rfl rfl
  obtain ⟨s₂, as, h₂, l₂⟩ := sample_writes (n := true) h₁ l₁.fut l₁.world
  have hdone : s₂.outcomes true = .finished (.ok ()) := by
    rw [Runtime.State.outcomes, l₂.fut]
    rfl
  have hrival : ¬ Rival sampleKeyCrates sampleInvocations s₂ true
      ["keys".toList, defaultKeystoreName] := by
    rintro ⟨m, dir, hm, -, hfound, -⟩
    obtain rfl : m = false := by simpa using hm
    rw [NotFound, l₂.logs false (by simp), l₁.logs false (by simp)] at hfound
    simp [Trace.acts] at hfound
  have hplace : s₂.world.resolve (sampleInvocations true).env.cwd
      (PathBuf.join "/keys".toList defaultKeystoreName) =
        some ["keys".toList, defaultKeystoreName] := by
    rw [l₂.world]
    decide
  obtain ⟨key, -, hkept⟩ :=
    generated_key_used sample_inDirs h₂ (sample_generates true) hdone hplace hrival
  exact ⟨s₂, h₂, hdone, fun s' hsteps => (hkept s' hsteps).1⟩

end IbcAttestor
