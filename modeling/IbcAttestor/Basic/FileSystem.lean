import IbcAttestor.Basic.Path

/-!
# The file system

Directories and files under one root, without links. A path is followed part by part,
from the root or from the working directory, and every part must be looked up in a
directory.
-/

namespace IbcAttestor

/-- The names that lead from the root to a place. -/
abbrev Location := List (List Char)

inductive Entry (α : Type) where
  | dir
  | file (content : α)
  deriving DecidableEq

/-- What there is at every location. An entry is always in a directory. -/
structure FileSystem (α : Type) where
  entry : Location → Option (Entry α)
  root : entry [] = some .dir
  parent : ∀ l name, entry (l ++ [name]) ≠ none → entry l = some .dir

/-- Where one part of a path leads; the root is its own parent. -/
def Location.follow (l : Location) (part : List Char) : Location :=
  match Component.ofPart part with
  | some .parentDir => l.dropLast
  | some (.normal name) => l ++ [name]
  | _ => l

namespace FileSystem

variable {α : Type} (fs : FileSystem α)

def empty : FileSystem α where
  entry l := if l = [] then some .dir else none
  root := if_pos rfl
  parent l name h := by simp at h

/-- A new entry of a directory, or a file in the place of another one. -/
def put (dir : Location) (name : List Char) (e : Entry α) (hdir : fs.entry dir = some .dir)
    (hname : fs.entry (dir ++ [name]) ≠ some .dir) : FileSystem α where
  entry l := if l = dir ++ [name] then some e else fs.entry l
  root := by
    rw [if_neg (by simp)]
    exact fs.root
  parent l part h := by
    by_cases hl : l = dir ++ [name]
    · subst hl
      rw [if_neg (by simp)] at h
      exact absurd (fs.parent _ _ h) hname
    · rw [if_neg hl]
      by_cases hpart : l ++ [part] = dir ++ [name]
      · rw [(List.append_inj' hpart (by simp)).1]
        exact hdir
      · rw [if_neg hpart] at h
        exact fs.parent _ _ h

def walk (l : Location) (part : List Char) : Option Location :=
  match fs.entry l with
  | some .dir => some (l.follow part)
  | _ => none

/-- The place that a path names, whether there is something or not. -/
def resolve (cwd : Location) (path : PathBuf) : Option Location :=
  if path = [] then none
  else (path.splitOn '/').foldlM fs.walk (if path.isAbsolute then [] else cwd)

/-- `Path::exists`. -/
def pathExists (cwd : Location) (path : PathBuf) : Bool :=
  match fs.resolve cwd path with
  | some l => (fs.entry l).isSome
  | none => false

/-- `Path::is_dir`. -/
def isDir (cwd : Location) (path : PathBuf) : Bool :=
  match (fs.resolve cwd path).bind fs.entry with
  | some .dir => true
  | _ => false

/-- The content of the file that a path names. -/
def content (cwd : Location) (path : PathBuf) : Option α :=
  match (fs.resolve cwd path).bind fs.entry with
  | some (.file content) => some content
  | _ => none

/-- The place in which a name that is joined to a path is looked up. -/
def base (cwd : Location) (path : PathBuf) : Option Location :=
  if path = [] then some cwd else fs.resolve cwd path

variable {fs} {fs' : FileSystem α} {cwd l : Location} {path name : PathBuf}

theorem walk_eq_some {part : List Char} {l' : Location} :
    fs.walk l part = some l' ↔ fs.entry l = some .dir ∧ l.follow part = l' := by
  unfold walk
  split
  · rename_i hdir
    simp [hdir]
  · rename_i hdir
    simp only [reduceCtorEq, false_iff, not_and]
    intro h
    exact absurd h hdir

theorem isDir_iff : fs.isDir cwd path = true ↔
    ∃ l, fs.resolve cwd path = some l ∧ fs.entry l = some .dir := by
  unfold isDir
  cases fs.resolve cwd path with
  | none => simp
  | some l =>
    simp only [Option.bind_some, Option.some.injEq, exists_eq_left']
    split
    · rename_i hdir
      simp [hdir]
    · rename_i hdir
      simpa using hdir

theorem pathExists_iff : fs.pathExists cwd path = true ↔
    ∃ l, fs.resolve cwd path = some l ∧ fs.entry l ≠ none := by
  unfold pathExists
  cases fs.resolve cwd path with
  | none => simp
  | some l => simp [Option.isSome_iff_ne_none]

theorem content_eq_some {x : α} (hl : fs.resolve cwd path = some l)
    (hx : fs.entry l = some (.file x)) : fs.content cwd path = some x := by
  simp [content, hl, hx]

/-- A name that is one part of a path and stands for itself. -/
def Plain (name : PathBuf) : Prop := Component.ofPart name = some (.normal name) ∧ '/' ∉ name

theorem Plain.isAbsolute (h : Plain name) : name.isAbsolute = false := by
  cases name with
  | nil => rfl
  | cons ch name =>
    have hch : ch ≠ '/' := fun heq => h.2 (by simp [heq])
    simpa [PathBuf.isAbsolute] using hch

theorem Plain.splitOn (h : Plain name) : name.splitOn '/' = [name] :=
  List.splitOn_eq_singleton h.2

theorem Plain.follow (h : Plain name) (l : Location) : l.follow name = l ++ [name] := by
  rw [Location.follow, h.1]

theorem Plain.ne_nil (h : Plain name) : name ≠ [] := by
  intro hname
  subst hname
  have hpart := h.1
  simp [Component.ofPart] at hpart

theorem follow_nil (l : Location) : l.follow [] = l := by
  simp [Location.follow, Component.ofPart]

theorem resolve_slash {q : PathBuf} (hq : q ++ ['/'] ≠ []) : fs.resolve cwd (q ++ ['/']) = some l ↔
    ((q.splitOn '/').foldlM fs.walk (if PathBuf.isAbsolute (q ++ ['/']) then [] else cwd)) =
      some l ∧ fs.entry l = some .dir := by
  have hsplit : (q ++ ['/']).splitOn '/' = q.splitOn '/' ++ [[]] :=
    List.splitOn_append_cons_self q []
  rw [resolve, if_neg hq, hsplit, List.foldlM_append, Option.bind_eq_bind, Option.bind_eq_some_iff]
  constructor
  · rintro ⟨d, hd, hl⟩
    have hwalk : fs.walk d [] = some l := by simpa using hl
    obtain ⟨hdir, hfollow⟩ := walk_eq_some.mp hwalk
    rw [follow_nil] at hfollow
    subst hfollow
    exact ⟨hd, hdir⟩
  · rintro ⟨hd, hdir⟩
    have hwalk : fs.walk l [] = some l := walk_eq_some.mpr ⟨hdir, follow_nil l⟩
    exact ⟨l, hd, by simpa using hwalk⟩

theorem resolve_parts {q : PathBuf} (h : Plain name) :
    fs.resolve cwd (q ++ '/' :: name) = some l ↔ ∃ d,
      (q.splitOn '/').foldlM fs.walk (if PathBuf.isAbsolute (q ++ '/' :: name) then [] else cwd) =
        some d ∧ fs.entry d = some .dir ∧ l = d ++ [name] := by
  have hsplit : (q ++ '/' :: name).splitOn '/' = q.splitOn '/' ++ [name] := by
    rw [List.splitOn_append_cons_self, h.splitOn]
  rw [resolve, if_neg (by simp), hsplit, List.foldlM_append, Option.bind_eq_bind,
    Option.bind_eq_some_iff]
  apply exists_congr
  intro d
  apply and_congr_right
  intro _
  have hwalk : fs.walk d name = some l ↔ fs.entry d = some .dir ∧ l = d ++ [name] := by
    rw [walk_eq_some, h.follow]
    exact and_congr_right fun _ => eq_comm
  simpa using hwalk

theorem resolve_join (h : Plain name) : fs.resolve cwd (path.join name) = some l ↔
    ∃ d, fs.base cwd path = some d ∧ fs.entry d = some .dir ∧ l = d ++ [name] := by
  unfold PathBuf.join base
  rw [if_neg (by simp [h.isAbsolute])]
  by_cases hpath : path = []
  · subst hpath
    have hwalk : fs.walk cwd name = some l ↔ fs.entry cwd = some .dir ∧ l = cwd ++ [name] := by
      rw [walk_eq_some, h.follow]
      exact and_congr_right fun _ => eq_comm
    simpa [resolve, h.ne_nil, h.splitOn, h.isAbsolute] using hwalk
  · rw [if_neg hpath]
    by_cases hlast : path.getLast? = some '/'
    · obtain ⟨q, hq⟩ := List.getLast?_eq_some_iff.mp hlast
      subst hq
      rw [if_pos (.inr hlast), List.append_assoc]
      have habsolute : PathBuf.isAbsolute (q ++ ['/'] ++ name) = PathBuf.isAbsolute (q ++ ['/']) :=
        PathBuf.isAbsolute_append (by simp) name
      rw [List.append_assoc, List.singleton_append] at habsolute
      refine (resolve_parts h).trans (exists_congr fun d => ?_)
      rw [resolve_slash (by simp), habsolute]
      constructor
      · rintro ⟨hd, hdir, hl⟩
        exact ⟨⟨hd, hdir⟩, hdir, hl⟩
      · rintro ⟨⟨hd, -⟩, hdir, hl⟩
        exact ⟨hd, hdir, hl⟩
    · rw [if_neg (not_or.mpr ⟨hpath, hlast⟩), resolve_parts h,
        PathBuf.isAbsolute_append hpath, resolve, if_neg hpath]

/-- Directories stay directories and files stay files. -/
structure Grows (fs fs' : FileSystem α) : Prop where
  dir : ∀ l, fs.entry l = some .dir → fs'.entry l = some .dir
  file : ∀ l x, fs.entry l = some (.file x) → ∃ y, fs'.entry l = some (.file y)

theorem Grows.refl (fs : FileSystem α) : fs.Grows fs :=
  ⟨fun _ h => h, fun _ x h => ⟨x, h⟩⟩

theorem Grows.trans {fs'' : FileSystem α} (h : fs.Grows fs') (h' : fs'.Grows fs'') :
    fs.Grows fs'' := by
  refine ⟨fun l hl => h'.dir l (h.dir l hl), fun l x hl => ?_⟩
  obtain ⟨y, hy⟩ := h.file l x hl
  exact h'.file l y hy

/-- What was there stays as it is. -/
def Adds (fs fs' : FileSystem α) : Prop := ∀ l e, fs.entry l = some e → fs'.entry l = some e

/-- Nothing but directories is new. -/
def AddsDirs (fs fs' : FileSystem α) : Prop :=
  ∀ l, fs'.entry l = fs.entry l ∨ fs.entry l = none ∧ fs'.entry l = some .dir

theorem AddsDirs.adds (h : fs.AddsDirs fs') : fs.Adds fs' := by
  intro l e he
  rcases h l with hl | ⟨hl, -⟩
  · rw [hl, he]
  · rw [hl] at he
    cases he

theorem Adds.grows (h : fs.Adds fs') : fs.Grows fs' :=
  ⟨fun l hl => h l _ hl, fun l x hl => ⟨x, h l _ hl⟩⟩

theorem put_grows {d : Location} {part : List Char} {x : α} (hdir : fs.entry d = some .dir)
    (hpart : fs.entry (d ++ [part]) ≠ some .dir) :
    fs.Grows (fs.put d part (.file x) hdir hpart) := by
  constructor
  · intro l hl
    have hne : l ≠ d ++ [part] := by
      intro heq
      subst heq
      exact hpart hl
    simpa [put, hne] using hl
  · intro l y hl
    by_cases heq : l = d ++ [part]
    · exact ⟨x, by simp [put, heq]⟩
    · exact ⟨y, by simpa [put, heq] using hl⟩

theorem Grows.ne_none (h : fs.Grows fs') (hl : fs.entry l ≠ none) : fs'.entry l ≠ none := by
  cases he : fs.entry l with
  | none => exact absurd he hl
  | some e =>
    cases e with
    | dir => simp [h.dir l he]
    | file x =>
      obtain ⟨y, hy⟩ := h.file l x he
      simp [hy]

theorem Grows.dir_iff (h : fs.Grows fs') (hl : fs.entry l ≠ none) :
    fs'.entry l = some .dir ↔ fs.entry l = some .dir := by
  refine ⟨fun hdir => ?_, h.dir l⟩
  cases he : fs.entry l with
  | none => exact absurd he hl
  | some e =>
    cases e with
    | dir => rfl
    | file x =>
      obtain ⟨y, hy⟩ := h.file l x he
      rw [hy] at hdir
      cases hdir

theorem Grows.foldlM_walk (h : fs.Grows fs') {parts : List (List Char)} {start : Location}
    (hl : parts.foldlM fs.walk start = some l) : parts.foldlM fs'.walk start = some l := by
  induction parts generalizing start with
  | nil => exact hl
  | cons part parts ih =>
    rw [List.foldlM_cons, Option.bind_eq_bind, Option.bind_eq_some_iff] at hl ⊢
    obtain ⟨d, hd, hl⟩ := hl
    obtain ⟨hdir, hfollow⟩ := walk_eq_some.mp hd
    exact ⟨d, walk_eq_some.mpr ⟨h.dir _ hdir, hfollow⟩, ih hl⟩

/-- A path that leads somewhere goes on leading there. -/
theorem Grows.resolve (h : fs.Grows fs') (hl : fs.resolve cwd path = some l) :
    fs'.resolve cwd path = some l := by
  unfold FileSystem.resolve at hl ⊢
  by_cases hpath : path = []
  · rw [if_pos hpath] at hl
    cases hl
  · rw [if_neg hpath] at hl ⊢
    exact h.foldlM_walk hl

theorem Grows.base (h : fs.Grows fs') (hl : fs.base cwd path = some l) :
    fs'.base cwd path = some l := by
  unfold FileSystem.base at hl ⊢
  split_ifs with hpath
  · rwa [if_pos hpath] at hl
  · rw [if_neg hpath] at hl
    exact h.resolve hl

/-- There is something where the names that are joined to the path are looked up. -/
def Settled (fs : FileSystem α) (cwd : Location) (path : PathBuf) : Prop :=
  ∃ d, fs.base cwd path = some d ∧ fs.entry d ≠ none

theorem Settled.grows (h : fs.Settled cwd path) (hgrows : fs.Grows fs') :
    fs'.Settled cwd path := by
  obtain ⟨d, hd, hne⟩ := h
  exact ⟨d, hgrows.base hd, hgrows.ne_none hne⟩

/-- From then on a joined name keeps its meaning. -/
theorem Settled.resolve_join (h : fs.Settled cwd path) (hgrows : fs.Grows fs')
    (hname : Plain name) :
    fs'.resolve cwd (path.join name) = some l ↔ fs.resolve cwd (path.join name) = some l := by
  obtain ⟨d, hd, hne⟩ := h
  rw [FileSystem.resolve_join hname, FileSystem.resolve_join hname, hd, hgrows.base hd]
  simp only [Option.some.injEq, exists_eq_left']
  rw [hgrows.dir_iff hne]

end FileSystem
end IbcAttestor
