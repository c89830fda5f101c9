import IbcAttestor.Basic.Path
import IbcAttestor.Basic.Reference
import IbcAttestor.Signer.Local

/-!
# Where the key of the local signer is read from

The configured path may start with `~`, and may be a directory that holds the keystore
under its default name. The directory is looked for under the path as it was given,
before the home directory has taken the place of the `~`; and every other `~` of the path
is replaced as well.
-/

namespace IbcAttestor

def defaultKeystoreName : PathBuf := "ibc-attestor-keystore".toList

structure LocalSignerConfig where
  /-- Path to keystore file or directory -/
  keystorePath : PathBuf

/-- The machine that the attestor runs on: the environment, the directories and the
keystores. -/
structure Host (c : Crates) where
  /-- `std::env::var`; `none` also when the value is not text. -/
  var : String → Option (List Char)
  isDir : PathBuf → Bool
  /-- `ethereum_keys::signer_local::read_from_keystore`. -/
  readFromKeystore : PathBuf → Except String c.PrivateKeySigner

variable {c : Crates}

/-- The leading `~` of a path, and every other one with it. -/
def withExpandedHome (host : Host c) (keystorePathWithFile : PathBuf) :
    Except SignerError PathBuf :=
  if keystorePathWithFile.startsWith ['~', '/'] then
    match host.var "HOME" <|> host.var "USERPROFILE" with
    | none => .error (.configError "unable to determine home directory from environment")
    | some home => .ok (replaceChar keystorePathWithFile '~' home)
  else .ok keystorePathWithFile

def LocalSigner.build (host : Host c) (config : LocalSignerConfig) :
    Except SignerError (LocalSigner c) := do
  let keystorePathWithFile :=
    if host.isDir config.keystorePath then config.keystorePath.join defaultKeystoreName
    else config.keystorePath
  let path ← withExpandedHome host keystorePathWithFile
  let privateKeySigner ← (host.readFromKeystore path).mapError .configError
  return ⟨privateKeySigner⟩

/-- `default_attestor_dir`. -/
def defaultAttestorDir (host : Host c) : Except String PathBuf :=
  match host.var "HOME" <|> host.var "USERPROFILE" with
  | none => .error "unable to determine home directory from environment"
  | some home => .ok (PathBuf.join home ".ibc-attestor".toList)

/-- The file that `KeyCommands::Generate` writes when no directory is given. -/
def generatedKeystore (host : Host c) : Except String PathBuf := do
  let attestorDir ← defaultAttestorDir host
  return attestorDir.join defaultKeystoreName

/-- Whatever the keystores hold, the signer built for `path` is the one in `file`. -/
def ReadsKeystore (host : Host c) (path file : PathBuf) : Prop :=
  ∀ read : PathBuf → Except String c.PrivateKeySigner,
    LocalSigner.build { host with readFromKeystore := read } ⟨path⟩ =
      ((read file).mapError .configError).map LocalSigner.mk

/-- The keystore at a path: the file itself, or the one with the default name in the
directory. -/
def keystoreAt (host : Host c) (path : PathBuf) : PathBuf :=
  if host.isDir path then path.join defaultKeystoreName else path

/-- With the home directory `home`, `~/p` stands for `home/p`. -/
structure TransparentHome (host : Host c) (home p : PathBuf) : Prop where
  expanded : ReadsKeystore host ('~' :: '/' :: p) (keystoreAt host (home ++ '/' :: p))
  absolute : ReadsKeystore host (home ++ '/' :: p) (keystoreAt host (home ++ '/' :: p))
  generated : p = ".ibc-attestor".toList → host.isDir (home ++ '/' :: p) = true →
    ∀ written, generatedKeystore host = .ok written →
      ∃ file, ReadsKeystore host ('~' :: '/' :: p) file ∧ PathBuf.Same file written

theorem ReadsKeystore.unique {host : Host c} {path file file' : PathBuf}
    (h : ReadsKeystore host path file) (h' : ReadsKeystore host path file') : file = file' := by
  have hread := (h fun p => .error (String.ofList p)).symm.trans
    (h' fun p => .error (String.ofList p))
  have htext : String.ofList file = String.ofList file' := by
    simpa [Except.mapError, Except.map] using hread
  exact String.ofList_injective htext

theorem readsKeystore_of_expanded {host : Host c} {path file : PathBuf}
    (h : withExpandedHome host (keystoreAt host path) = .ok file) :
    ReadsKeystore host path file := by
  intro read
  change (withExpandedHome host (keystoreAt host path) >>= fun path => _) = _
  rw [h]
  change ((read file).mapError SignerError.configError >>= fun key =>
    (pure ⟨key⟩ : Except SignerError (LocalSigner c))) = _
  cases read file <;> rfl

theorem components_home (p : PathBuf) :
    PathBuf.components ('~' :: '/' :: p) =
      .normal ['~'] :: (p.splitOn '/').filterMap Component.ofPart := by
  have hsplit : ('~' :: '/' :: p).splitOn '/' = ['~'] :: p.splitOn '/' :=
    List.splitOn_append_cons_self ['~'] p
  rw [PathBuf.components, hsplit]
  rfl

theorem startsWith_home (p : PathBuf) : PathBuf.startsWith ('~' :: '/' :: p) ['~', '/'] = true := by
  rw [PathBuf.startsWith, components_home, components_home]
  simp [Component.ofPart]

theorem startsWith_isAbsolute {path : PathBuf} (h : path.isAbsolute = true) :
    path.startsWith ['~', '/'] = false := by
  rw [PathBuf.startsWith, PathBuf.components_of_isAbsolute h, components_home]
  rfl

theorem defaultKeystoreName_relative : PathBuf.isAbsolute defaultKeystoreName = false := by decide

theorem keystoreAt_eq (host : Host c) (path : PathBuf) :
    ∃ suffix, keystoreAt host path = path ++ suffix ∧ (host.isDir path = true → suffix ≠ []) := by
  unfold keystoreAt
  split_ifs with hdir
  · obtain ⟨suffix, hjoin, hne⟩ :=
      PathBuf.join_eq_append path defaultKeystoreName_relative (by decide)
    exact ⟨suffix, hjoin, fun _ => hne⟩
  · exact ⟨[], (List.append_nil path).symm, fun h => absurd h hdir⟩

section Expansion

variable {host : Host c} {home p : PathBuf}

/-- There is no entry named `~` in the working directory. -/
def NoLiteralHome (host : Host c) : Prop :=
  ∀ path : PathBuf, path.components.head? = some (.normal ['~']) → host.isDir path = false

/-- What is read for a path under `~`: the default name is never added, and every `~` is
replaced. -/
theorem reads_home (hhome : (host.var "HOME" <|> host.var "USERPROFILE") = some home)
    (hliteral : NoLiteralHome host) :
    ReadsKeystore host ('~' :: '/' :: p) (home ++ '/' :: replaceChar p '~' home) := by
  have hdir : host.isDir ('~' :: '/' :: p) = false := by
    apply hliteral
    rw [components_home]
    rfl
  apply readsKeystore_of_expanded
  have hfile : keystoreAt host ('~' :: '/' :: p) = '~' :: '/' :: p := by
    rw [keystoreAt, if_neg (by simp [hdir])]
  rw [hfile, withExpandedHome, if_pos (startsWith_home p), hhome]
  rfl

theorem reads_absolute {path : PathBuf} (h : path.isAbsolute = true) :
    ReadsKeystore host path (keystoreAt host path) := by
  have hne : path ≠ [] := by
    intro hnil
    subst hnil
    cases h
  have habsolute : (keystoreAt host path).isAbsolute = true := by
    obtain ⟨suffix, hsuffix, -⟩ := keystoreAt_eq host path
    rw [hsuffix, PathBuf.isAbsolute_append hne, h]
  apply readsKeystore_of_expanded
  rw [withExpandedHome, startsWith_isAbsolute habsolute]
  rfl

theorem head?_home (habsolute : PathBuf.isAbsolute (home ++ '/' :: p) = true) :
    home.head? ≠ some '~' := by
  intro hhead
  cases home with
  | nil => cases hhead
  | cons ch home =>
    cases hhead
    cases habsolute

theorem TransparentHome.plain (h : TransparentHome host home p)
    (hhome : (host.var "HOME" <|> host.var "USERPROFILE") = some home)
    (habsolute : PathBuf.isAbsolute (home ++ '/' :: p) = true) (hliteral : NoLiteralHome host) :
    host.isDir (home ++ '/' :: p) = false ∧ '~' ∉ p := by
  obtain ⟨suffix, hsuffix, hdir⟩ := keystoreAt_eq host (home ++ '/' :: p)
  have hfile := (reads_home hhome hliteral).unique h.expanded
  rw [hsuffix, List.append_assoc, List.cons_append] at hfile
  have hreplaced : replaceChar p '~' home = p ++ suffix :=
    (List.cons.inj (List.append_cancel_left hfile)).2
  have hp := not_mem_of_replaceChar_eq (head?_home habsolute) hreplaced
  refine ⟨?_, hp⟩
  apply Bool.eq_false_iff.mpr
  intro hisDir
  rw [replaceChar_of_not_mem hp] at hreplaced
  exact hdir hisDir (List.append_cancel_left (hreplaced.symm.trans (List.append_nil p).symm))

/-- A `~` that stands for the home directory is transparent as long as what it leads to is
not a directory and there is no other `~`. -/
theorem home_expansion (hhome : (host.var "HOME" <|> host.var "USERPROFILE") = some home)
    (habsolute : PathBuf.isAbsolute (home ++ '/' :: p) = true) (hliteral : NoLiteralHome host) :
    TransparentHome host home p ↔ host.isDir (home ++ '/' :: p) = false ∧ '~' ∉ p := by
  constructor
  · intro h
    exact h.plain hhome habsolute hliteral
  · rintro ⟨hdir, hp⟩
    have hfile : keystoreAt host (home ++ '/' :: p) = home ++ '/' :: p := by
      rw [keystoreAt, if_neg (by simp [hdir])]
    refine ⟨?_, reads_absolute habsolute, ?_⟩
    · have hreads := reads_home (p := p) hhome hliteral
      rw [replaceChar_of_not_mem hp] at hreads
      rw [hfile]
      exact hreads
    · intro _ hdir'
      rw [hdir] at hdir'
      cases hdir'

end Expansion

/-- A machine on which the default directory of the attestor has been made. -/
def sampleHost : Host sampleCrates where
  var name := if name = "HOME" then some "/root".toList else none
  isDir path := path == "/root/.ibc-attestor".toList
  readFromKeystore _ := .ok ()

theorem sampleHost_noLiteralHome : NoLiteralHome sampleHost := by
  intro path hhead
  apply Bool.eq_false_iff.mpr
  intro hdir
  have hpath : path = "/root/.ibc-attestor".toList := eq_of_beq hdir
  subst hpath
  cases hhead

theorem home_expansion_sample : TransparentHome sampleHost "/root".toList "keys/attestor".toList :=
  (home_expansion rfl (by decide) sampleHost_noLiteralHome).mpr ⟨by decide, by decide⟩

/-- The directory itself is read for the default directory, and a `~` at the end of a name
is replaced. -/
theorem home_expansion_fails :
    ¬ TransparentHome sampleHost "/root".toList ".ibc-attestor".toList ∧
    ¬ TransparentHome sampleHost "/root".toList "keys/attestor~".toList ∧
    ReadsKeystore sampleHost "~/.ibc-attestor".toList "/root/.ibc-attestor".toList ∧
    ReadsKeystore sampleHost "~/keys/attestor~".toList "/root/keys/attestor/root".toList := by
  have hhome : (sampleHost.var "HOME" <|> sampleHost.var "USERPROFILE") = some "/root".toList := rfl
  refine ⟨fun h => ?_, fun h => ?_, ?_, ?_⟩
  · have hdir := (h.plain hhome (by decide) sampleHost_noLiteralHome).1
    exact absurd hdir (by decide)
  · have htilde := (h.plain hhome (by decide) sampleHost_noLiteralHome).2
    exact absurd (by decide) htilde
  · exact @reads_home _ sampleHost _ ".ibc-attestor".toList hhome sampleHost_noLiteralHome
  · exact @reads_home _ sampleHost _ "keys/attestor~".toList hhome sampleHost_noLiteralHome

end IbcAttestor
