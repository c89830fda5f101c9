import IbcAttestor.Basic.FileSystem
import IbcAttestor.Cooperative.Runtime
import IbcAttestor.Signer.Keystore

/-!
# The key commands

`key generate` and `key show`, as they are run in a shell. The file system is looked at
and changed call by call, so that what one invocation has seen may no longer be true when
it goes on.
-/

namespace IbcAttestor

open Cooperative

/-- What the key commands use of other crates. -/
structure KeyCrates (c : Crates) where
  -- std::path: how a path is written for `{:?}`
  debug : PathBuf → String
  -- alloy_signer_local: the key that a keystore holds, and its bytes
  decryptKeystore : Bytes → Except String c.PrivateKeySigner
  decryptKeystore_nil : ∀ key, decryptKeystore [] ≠ .ok key
  credential : c.PrivateKeySigner → Bytes
  -- std::io: why a keystore cannot be opened
  notFound : PathBuf → String

/-- The variables and the working directory of an invocation. -/
structure Environment where
  var : String → Option (List Char)
  cwd : Location

variable {c : Crates}

/-- The machine as a program finds it. -/
def Environment.host (env : Environment) (k : KeyCrates c) (fs : FileSystem Bytes) : Host c where
  var := env.var
  isDir := fs.isDir env.cwd
  readFromKeystore path :=
    match fs.content env.cwd path with
    | some content => k.decryptKeystore content
    | none => .error (k.notFound path)

/-- The given directory or the default one, for which only the variables are looked at. -/
def Environment.attestorDir (env : Environment) (k : KeyCrates c) :
    Option PathBuf → Except String PathBuf
  | some path => .ok path
  | none => defaultAttestorDir (env.host k .empty)

inductive KeyOp (c : Crates) where
  | pathExists (path : PathBuf)
  | createDirAll (path : PathBuf)
  /-- `PrivateKeySigner::random`. -/
  | random
  /-- The id of a keystore that is about to be written. -/
  | newId
  /-- `LocalSigner::encrypt_keystore`. -/
  | encryptKeystore (dir name : PathBuf) (key : c.PrivateKeySigner)
  | readFromKeystore (path : PathBuf)

abbrev KeyOp.Ans : KeyOp c → Type
  | .pathExists _ => Bool
  | .createDirAll _ => Except String Unit
  | .random => c.PrivateKeySigner
  | .newId => String
  | .encryptKeystore _ _ _ => Except String Unit
  | .readFromKeystore _ => Except String c.PrivateKeySigner

abbrev shell (c : Crates) : Interface := ⟨KeyOp c, KeyOp.Ans⟩

/-- What a key command does is printing. -/
abbrev KeyCommand (c : Crates) := Fallible (shell c) String String

def pathExists (path : PathBuf) : KeyCommand c Bool :=
  ExceptT.mk ((@Proc.call (shell c) _ (.pathExists path)).bind fun found => .done (.ok found))

def createDirAll (path : PathBuf) : KeyCommand c Unit :=
  ExceptT.mk (@Proc.call (shell c) _ (.createDirAll path))

def randomKey : KeyCommand c c.PrivateKeySigner :=
  ExceptT.mk ((@Proc.call (shell c) _ .random).bind fun key => .done (.ok key))

def newId : KeyCommand c String :=
  ExceptT.mk ((@Proc.call (shell c) _ .newId).bind fun uuid => .done (.ok uuid))

def encryptKeystore (dir name : PathBuf) (key : c.PrivateKeySigner) : KeyCommand c Unit :=
  ExceptT.mk (@Proc.call (shell c) _ (.encryptKeystore dir name key))

def writeToKeystore (folderPath name : PathBuf) (signer : c.PrivateKeySigner) :
    KeyCommand c Unit := do
  let uuid ← newId
  encryptKeystore folderPath name signer
  Fallible.event s!"id: {uuid}\n"

def readFromKeystore (path : PathBuf) : KeyCommand c c.PrivateKeySigner :=
  ExceptT.mk (@Proc.call (shell c) _ (.readFromKeystore path))

structure GenerateArgs where
  keystore : Option PathBuf

structure ShowArgs where
  showPrivate : Bool
  showPublic : Bool
  keystore : Option PathBuf

inductive KeyCommands where
  | generateKey (args : GenerateArgs)
  | showKey (args : ShowArgs)

/-- `KeyCommands::Generate` when there is no keystore. -/
def saveNew (k : KeyCrates c) (attestorDir : PathBuf) : KeyCommand c Unit := do
  let signer ← randomKey
  (writeToKeystore attestorDir defaultKeystoreName signer).mapErr
    fun e => s!"unable to generate key {e}"
  Fallible.event s!"key successfully saved to {k.debug (attestorDir.join defaultKeystoreName)}\n"

/-- `KeyCommands::Generate` once its directory is there. -/
def generateNew (k : KeyCrates c) (attestorDir : PathBuf) : KeyCommand c Unit := do
  let keystorePath := attestorDir.join defaultKeystoreName
  if ← pathExists keystorePath then
    throw s!"key pair already found at {k.debug keystorePath}; aborting"
  saveNew k attestorDir

/-- `KeyCommands::Generate`, when its directory is known. -/
def generateIn (k : KeyCrates c) (attestorDir : PathBuf) : KeyCommand c Unit := do
  if !(← pathExists attestorDir) then
    createDirAll attestorDir
  generateNew k attestorDir

/-- `KeyCommands::Show`, when the directory is known: the keystore is read once for the
private key and once for the address. -/
def showFrom (k : KeyCrates c) (args : ShowArgs) (attestorDir : PathBuf) : KeyCommand c Unit := do
  let keystorePath := attestorDir.join defaultKeystoreName
  if args.showPrivate then
    let signer ← readFromKeystore keystorePath
    Fallible.event (c.hexEncode (k.credential signer))
    Fallible.event "\n\n"
  if args.showPublic then
    let signer ← readFromKeystore keystorePath
    Fallible.event (c.hexEncode (c.address signer).bytes)

structure Invocation where
  env : Environment
  command : KeyCommands

namespace Invocation

variable (k : KeyCrates c) (inv : Invocation)

def dir : Except String PathBuf :=
  match inv.command with
  | .generateKey args => inv.env.attestorDir k args.keystore
  | .showKey args => inv.env.attestorDir k args.keystore

/-- `main` for the key commands. -/
def code : Proc (shell c) String (Except String Unit) :=
  (do
    let attestorDir ← Fallible.ofExcept (inv.dir k)
    match inv.command with
    | .generateKey _ => generateIn k attestorDir
    | .showKey args => showFrom k args attestorDir : KeyCommand c Unit).run

end Invocation

section Order

variable (dir : PathBuf) (h : List (Act (shell c) String))

/-- The keystore has been looked for and not been found. -/
def NotFound : Prop := .reply (.pathExists (dir.join defaultKeystoreName)) false ∈ h

/-- The directory has been found or made. -/
def DirReady : Prop :=
  .reply (.pathExists dir) true ∈ h ∨ .reply (.createDirAll dir) (.ok ()) ∈ h

/-- This key has been written, or not, as `r` says. -/
def Wrote (key : c.PrivateKeySigner) (r : Except String Unit) : Prop :=
  .reply (.encryptKeystore dir defaultKeystoreName key) r ∈ h

/-- The order in which a key is generated: it is written once, after nothing was found, and
from then on nothing is looked for. -/
def GenerateOrder : Act (shell c) String → Prop
  | .reply (.pathExists path) _ => ¬ NotFound dir h ∧
    (path = dir.join defaultKeystoreName → DirReady dir h)
  | .reply (.createDirAll _) _ => ¬ NotFound dir h
  | .reply (.encryptKeystore dir' name _) _ => dir' = dir ∧ name = defaultKeystoreName ∧
    NotFound dir h ∧ ∀ key r, ¬ Wrote dir h key r
  | .reply (.readFromKeystore _) _ => False
  | _ => True

/-- What has happened when a key was to be generated. -/
def GenerateEnd (r : Except String Unit) : Prop :=
  (NotFound dir h → ∃ key r, Wrote dir h key r) ∧
  (r = .ok () → ∃ key, Wrote dir h key (.ok ()))

end Order

theorem join_ne (dir : PathBuf) : dir.join defaultKeystoreName ≠ dir := by
  obtain ⟨suffix, hjoin, hne⟩ :=
    PathBuf.join_eq_append dir defaultKeystoreName_relative (by decide)
  rw [hjoin]
  simpa using hne

theorem defaultKeystoreName_plain : FileSystem.Plain defaultKeystoreName :=
  ⟨by decide, by decide⟩

theorem generateNew_follows (k : KeyCrates c) {dir : PathBuf} {h : List (Act (shell c) String)}
    (hfound : ¬ NotFound dir h) (hready : DirReady dir h)
    (hwrote : ∀ key r, ¬ Wrote dir h key r) :
    (generateNew k dir).run.Follows (GenerateOrder dir) h fun r h => GenerateEnd dir h r := by
  unfold NotFound at hfound
  unfold DirReady at hready
  unfold Wrote at hwrote
  refine ⟨trivial, fun found => ⟨⟨?_, fun _ => ?_⟩, ?_⟩⟩
  · simpa [NotFound] using hfound
  · simpa [DirReady] using hready
  · cases found with
    | true =>
      change GenerateEnd _ _ _
      simp [GenerateEnd, NotFound, hfound]
    | false =>
      refine ⟨trivial, fun key => ⟨trivial, trivial, fun uuid => ⟨trivial, trivial, fun r =>
        ⟨⟨rfl, rfl, ?_, ?_⟩, ?_⟩⟩⟩⟩
      · simp [NotFound]
      · simpa [Wrote] using hwrote
      · cases r with
        | error e =>
          refine ⟨fun _ => ⟨key, .error e, ?_⟩, fun hok => by cases hok⟩
          simp [Wrote]
        | ok _ =>
          refine ⟨trivial, trivial, fun _ => ⟨key, .ok (), ?_⟩, fun _ => ⟨key, ?_⟩⟩
          · simp [Wrote]
          · simp [Wrote]

theorem generateIn_follows (k : KeyCrates c) (dir : PathBuf) :
    (generateIn k dir).run.Follows (GenerateOrder dir) [] fun r h => GenerateEnd dir h r := by
  have hjoin := join_ne dir
  refine ⟨trivial, fun found => ⟨⟨?_, fun heq => absurd heq.symm hjoin⟩, ?_⟩⟩
  · simp [NotFound]
  · cases found with
    | true =>
      apply generateNew_follows
      · simp [NotFound]
      · simp [DirReady]
      · simp [Wrote]
    | false =>
      refine ⟨trivial, fun r => ⟨?_, ?_⟩⟩
      · simp [GenerateOrder, NotFound, hjoin]
      · cases r with
        | error e =>
          change GenerateEnd _ _ _
          simp [GenerateEnd, NotFound, hjoin]
        | ok _ =>
          apply generateNew_follows
          · simp [NotFound, hjoin]
          · simp [DirReady]
          · simp [Wrote]

def printed (h : List (Act (shell c) String)) : List String :=
  h.filterMap fun
    | .event text => some text
    | _ => none

/-- What `key show` prints of a key. -/
def ShowArgs.output (args : ShowArgs) (k : KeyCrates c) (key : c.PrivateKeySigner) : List String :=
  (if args.showPrivate then [c.hexEncode (k.credential key), "\n\n"] else []) ++
    if args.showPublic then [c.hexEncode (c.address key).bytes] else []

/-- A key is shown by reading its keystore, and nothing else. -/
def ShowOrder (dir : PathBuf) : Act (shell c) String → Prop
  | .reply (.readFromKeystore path) _ => path = dir.join defaultKeystoreName
  | .reply _ _ => False
  | _ => True

/-- If every key that was read is this one, it is the one that was printed. -/
def ShowEnd (k : KeyCrates c) (args : ShowArgs) (r : Except String Unit)
    (h : List (Act (shell c) String)) : Prop :=
  r = .ok () → ∀ key, (∀ path a, .reply (.readFromKeystore path) (.ok a) ∈ h → a = key) →
    printed h = args.output k key

theorem showFrom_follows (k : KeyCrates c) (args : ShowArgs) (dir : PathBuf) :
    (showFrom k args dir).run.Follows (fun _ => ShowOrder dir) []
      fun r h => ShowEnd k args r h := by
  obtain ⟨showPrivate, showPublic, keystore⟩ := args
  have herror : ∀ e h, ShowEnd k ⟨showPrivate, showPublic, keystore⟩ (.error e) h := by
    intro e h hr
    cases hr
  cases showPrivate with
  | false =>
    cases showPublic with
    | false => exact fun _ key _ => rfl
    | true =>
      refine ⟨trivial, fun read => ⟨rfl, ?_⟩⟩
      cases read with
      | error e => exact herror e _
      | ok a =>
        refine ⟨trivial, fun _ key hkey => ?_⟩
        obtain rfl := hkey (dir.join defaultKeystoreName) a (by simp)
        rfl
  | true =>
    refine ⟨trivial, fun read => ⟨rfl, ?_⟩⟩
    cases read with
    | error e => exact herror e _
    | ok a =>
      refine ⟨trivial, trivial, ?_⟩
      cases showPublic with
      | false =>
        intro _ key hkey
        obtain rfl := hkey (dir.join defaultKeystoreName) a (by simp)
        rfl
      | true =>
        refine ⟨trivial, fun read => ⟨rfl, ?_⟩⟩
        cases read with
        | error e => exact herror e _
        | ok b =>
          refine ⟨trivial, fun _ key hkey => ?_⟩
          obtain rfl := hkey (dir.join defaultKeystoreName) a (by simp)
          obtain rfl := hkey (dir.join defaultKeystoreName) b (by simp)
          rfl

theorem generateIn_straight (k : KeyCrates c) (dir : PathBuf) :
    (generateIn k dir).run.Straight := by
  have hnew : (generateNew k dir).run.Straight := by
    intro found
    cases found with
    | true => trivial
    | false =>
      intro key uuid r
      cases r <;> trivial
  intro found
  cases found with
  | true => exact hnew
  | false =>
    intro r
    cases r with
    | error e => trivial
    | ok _ => exact hnew

theorem generateIn_costs (k : KeyCrates c) (dir : PathBuf) :
    (generateIn k dir).run.CostsAtMost (fun _ => 1) 14 := by
  have hnew : (generateNew k dir).run.CostsAtMost (fun _ => 1) 10 := by
    refine ⟨9, le_rfl, fun found => ⟨8, le_rfl, ?_⟩⟩
    cases found with
    | true => trivial
    | false =>
      refine ⟨7, le_rfl, fun key => ⟨6, le_rfl, 5, le_rfl, fun uuid => ⟨4, le_rfl, 3, le_rfl,
        fun r => ⟨2, le_rfl, ?_⟩⟩⟩⟩
      cases r with
      | error e => trivial
      | ok _ => exact ⟨1, le_rfl, 0, le_rfl, trivial⟩
  refine ⟨13, le_rfl, fun found => ⟨12, le_rfl, ?_⟩⟩
  cases found with
  | true => exact hnew.mono (by omega)
  | false =>
    refine ⟨11, le_rfl, fun r => ⟨10, le_rfl, ?_⟩⟩
    cases r with
    | error e => trivial
    | ok _ => exact hnew

end IbcAttestor
