import Mathlib.Tactic

/-!
# Paths

`std::path` on Unix, for the paths that are text.
-/

namespace IbcAttestor

/-- `std::path::PathBuf`. -/
abbrev PathBuf := List Char

/-- `std::path::Component`. -/
inductive Component where
  | rootDir
  | curDir
  | parentDir
  | normal (name : List Char)
  deriving DecidableEq

/-- What the text between two separators stands for. -/
def Component.ofPart (part : List Char) : Option Component :=
  if part = [] ∨ part = ['.'] then none
  else if part = ['.', '.'] then some .parentDir
  else some (.normal part)

/-- `str::replace` of a character. -/
def replaceChar (text : List Char) (pattern : Char) (new : List Char) : List Char :=
  text.flatMap fun ch => if ch = pattern then new else [ch]

theorem replaceChar_of_not_mem {text : List Char} {pattern : Char} (h : pattern ∉ text)
    (new : List Char) : replaceChar text pattern new = text := by
  induction text with
  | nil => rfl
  | cons ch text ih =>
    rw [List.mem_cons, not_or] at h
    obtain ⟨hch, htext⟩ := h
    have hrest := ih htext
    unfold replaceChar at hrest ⊢
    rw [List.flatMap_cons, if_neg (Ne.symm hch), hrest]
    rfl

theorem not_mem_replaceChar_nil (text : List Char) (pattern : Char) :
    pattern ∉ replaceChar text pattern [] := by
  intro hmem
  obtain ⟨ch, -, hch⟩ := List.mem_flatMap.mp hmem
  by_cases h : ch = pattern
  · simp [h] at hch
  · rw [if_neg h, List.mem_singleton] at hch
    exact h hch.symm

/-- A text is only continued by its replacement when there was nothing to replace. -/
theorem not_mem_of_replaceChar_eq {text rest new : List Char} {pattern : Char}
    (hnew : new.head? ≠ some pattern) (h : replaceChar text pattern new = text ++ rest) :
    pattern ∉ text := by
  induction text with
  | nil => simp
  | cons ch text ih =>
    have hcons : replaceChar (ch :: text) pattern new =
        (if ch = pattern then new else [ch]) ++ replaceChar text pattern new :=
      List.flatMap_cons
    rw [hcons] at h
    by_cases hch : ch = pattern
    · subst hch
      rw [if_pos rfl] at h
      cases new with
      | nil =>
        have hmem : ch ∈ replaceChar text ch [] := by
          rw [List.nil_append] at h
          simp [h]
        exact absurd hmem (not_mem_replaceChar_nil text ch)
      | cons first new =>
        have hfirst := (List.cons.inj h).1
        exact absurd (congrArg some hfirst) hnew
    · rw [if_neg hch] at h
      have hrest := (List.cons.inj h).2
      intro hmem
      rcases List.mem_cons.mp hmem with rfl | hmem
      · exact hch rfl
      · exact ih hrest hmem

namespace PathBuf

/-- `Path::is_absolute`. -/
def isAbsolute (path : PathBuf) : Bool := path.head? == some '/'

/-- `Path::components`: repeated separators are left out, and so is `.` but at the start. -/
def components (path : PathBuf) : List Component :=
  (if path.isAbsolute then [.rootDir]
    else if (path.splitOn '/').head? = some ['.'] then [.curDir] else []) ++
      (path.splitOn '/').filterMap Component.ofPart

/-- `Path::starts_with`. -/
def startsWith (path base : PathBuf) : Bool := base.components.isPrefixOf path.components

/-- `Path::join`. -/
def join (path rest : PathBuf) : PathBuf :=
  if rest.isAbsolute then rest
  else if path = [] ∨ path.getLast? = some '/' then path ++ rest
  else path ++ '/' :: rest

/-- Two texts of one path. -/
def Same (path path' : PathBuf) : Prop := path.components = path'.components

theorem components_of_isAbsolute {path : PathBuf} (h : path.isAbsolute = true) :
    path.components = .rootDir :: (path.splitOn '/').filterMap Component.ofPart := by
  rw [components, if_pos h]
  rfl

theorem isAbsolute_append {path : PathBuf} (hne : path ≠ []) (rest : List Char) :
    PathBuf.isAbsolute (path ++ rest) = path.isAbsolute := by
  cases path with
  | nil => exact absurd rfl hne
  | cons ch path => rfl

theorem join_eq_append (path : PathBuf) {rest : PathBuf} (hrest : rest.isAbsolute = false)
    (hne : rest ≠ []) :
    ∃ suffix, path.join rest = path ++ suffix ∧ suffix ≠ [] := by
  unfold join
  rw [if_neg (by simp [hrest])]
  split_ifs
  · exact ⟨rest, rfl, hne⟩
  · exact ⟨'/' :: rest, rfl, by simp⟩

end PathBuf
end IbcAttestor
