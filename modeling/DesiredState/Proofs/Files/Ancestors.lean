import DesiredState.Files.FileTree
import Mathlib.Data.List.Infix

/-!
# Folders above a path

A path from the top that never leads back up is a way down through folders.  Empty segments and single
dots stand still on it, the other segments are the names of the way.  Its parent takes away the last
name, and a file within it is there if every folder on the way is.

Contents:

* `Path.isName`, `Path.names`, `Path.Descends` — the paths and the names of their ways.
* `Path.parent?_cases` — the way up, by one name at a time.
* `Path.names_child` — the way to a file within a folder.
* `FileTree.Holds`, `isPresent_child_iff` — what is in a folder.
-/

namespace DesiredState

namespace Path

variable {p q : Path} {name : String}

/-- A segment that is neither empty nor a single dot. -/
def isName (segment : String) : Bool := !(segment = "" || segment = ".")

/-- The names on the way from the top to a path. -/
def names (p : Path) : List String := p.segments.filter isName

/-- A path from the top that never leads back up. -/
structure Descends (p : Path) : Prop where
  absolute : p.absolute = true
  down : ".." ∉ p.segments

/-! ## Up -/

theorem dropIdle_true_cons (segment : String) (before : List String) :
    dropIdle true (segment :: before) =
      if isName segment then segment :: before else dropIdle true before := by
  by_cases empty : segment = ""
  · simp [dropIdle, isName, empty]
  · by_cases dot : segment = "." <;> simp [dropIdle, isName, empty, dot]

theorem filter_dropIdle (segments : List String) :
    (dropIdle true segments).filter isName = segments.filter isName := by
  induction segments with
  | nil => rfl
  | cons segment before inductionHypothesis =>
    rw [dropIdle_true_cons]
    split
    · rfl
    next idle => rw [inductionHypothesis, List.filter_cons_of_neg idle]

theorem dropIdle_suffix (segments : List String) : dropIdle true segments <:+ segments := by
  induction segments with
  | nil => exact List.suffix_rfl
  | cons segment before inductionHypothesis =>
    rw [dropIdle_true_cons]
    split
    · exact List.suffix_rfl
    · exact inductionHypothesis.trans (List.suffix_cons ..)

theorem isName_of_dropIdle {segments before : List String} {segment : String}
    (left : dropIdle true segments = segment :: before) : isName segment = true := by
  induction segments with
  | nil => cases left
  | cons segment' segments inductionHypothesis =>
    rw [dropIdle_true_cons] at left
    split at left
    next named => exact (List.cons.inj left).1 ▸ named
    · exact inductionHypothesis left

/-- The top has no parent; the parent of another path has all names of it but the last. -/
theorem parent?_cases (descends : p.Descends) :
    (p.names = [] ∧ p.parent? = none) ∨
      ∃ q last, p.parent? = some q ∧ q.Descends ∧ p.names = q.names ++ [last] := by
  have backward : p.backward = dropIdle true p.segments.reverse := by
    rw [Path.backward, descends.absolute]
  -- Read from its end, the path has the names that are left after idle segments are dropped.
  have names : p.names = ((dropIdle true p.segments.reverse).filter isName).reverse := by
    rw [filter_dropIdle, List.filter_reverse, List.reverse_reverse, Path.names]
  unfold parent?
  rw [backward, descends.absolute]
  cases left : dropIdle true p.segments.reverse with
  | nil => exact .inl ⟨by simp [names, left], rfl⟩
  | cons last before =>
    have within : dropIdle true before <:+ p.segments.reverse :=
      (dropIdle_suffix before).trans ((List.suffix_cons ..).trans (left ▸ dropIdle_suffix _))
    refine .inr ⟨_, last, rfl, ⟨rfl, fun up => ?_⟩, ?_⟩
    · exact descends.down (List.mem_reverse.mp (within.subset (List.mem_reverse.mp up)))
    · rw [names, left, List.filter_cons_of_pos (isName_of_dropIdle left), List.reverse_cons,
        Path.names, List.filter_reverse, filter_dropIdle]

theorem ancestors_of_top (top : p.parent? = none) : p.ancestors = [p] := by
  rw [ancestors]
  split <;> simp_all

theorem ancestors_of_parent (up : p.parent? = some q) : p.ancestors = p :: q.ancestors := by
  rw [ancestors]
  split <;> simp_all

/-! ## Files in folders -/

/-- A text that is one segment, and the name of something. -/
structure IsFileName (name : String) : Prop where
  single : ofText name = ⟨false, [name]⟩
  named : isName name = true
  down : name ≠ ".."

theorem child_eq (file : IsFileName name) (p : Path) :
    p.child name = ⟨p.absolute, p.folderSegments ++ [name]⟩ := by
  unfold child join
  rw [file.single]
  by_cases top : p.segments = []
  · simp [top, folderSegments]
  · simp [top]

theorem filter_folderSegments (p : Path) : p.folderSegments.filter isName = p.names := by
  unfold folderSegments names
  split
  next last =>
    obtain ⟨front, segments⟩ := List.getLast?_eq_some_iff.mp last
    rw [segments, List.dropLast_concat, List.filter_append]
    simp [isName]
  · rfl

theorem names_child (file : IsFileName name) (p : Path) :
    (p.child name).names = p.names ++ [name] := by
  rw [child_eq file, names, List.filter_append, filter_folderSegments, List.filter_cons_of_pos file.named]
  rfl

end Path

theorem forall_prefix_cons_iff {α : Type} {a : α} {as : List α} {P : List α → Prop} :
    (∀ front, front <+: a :: as → P front) ↔ P [] ∧ ∀ front, front <+: as → P (a :: front) := by
  constructor
  · intro all
    exact ⟨all [] List.nil_prefix, fun front within => all _ (List.cons_prefix_cons.mpr ⟨rfl, within⟩)⟩
  · rintro ⟨empty, longer⟩ front within
    cases front with
    | nil => exact empty
    | cons b front =>
      obtain ⟨rfl, rest⟩ := List.cons_prefix_cons.mp within
      exact longer front rest

namespace FileTree

open DesiredState.Path (isName IsFileName)

variable {t : FileTree} {name : String}

/-- Something of this name is in a folder, and all the way to it are folders. -/
def Holds (t : FileTree) (folder : List String) (name : String) : Prop :=
  (∀ above, above <+: folder → t.isFolder above = true) ∧ (t.entry? (folder ++ [name])).isSome

theorem step_of_isName {segment : String} (named : isName segment = true) (down : segment ≠ "..")
    (place : List String) : step place segment = place ++ [segment] := by
  simp_all [step, isName]

theorem step_of_idle {segment : String} (idle : ¬isName segment = true) (place : List String) :
    step place segment = place := by
  simp_all [step, isName]

theorem walk?_cons_iff {segment : String} {rest place target : List String} :
    t.walk? place (segment :: rest) = some target ↔
      t.isFolder place = true ∧ t.walk? (step place segment) rest = some target := by
  rw [walk?]
  split <;> simp_all

/-- Segments that end with a file name lead where their names do, through folders only. -/
theorem walk?_append_iff {segments place target : List String} (down : ".." ∉ segments)
    (file : IsFileName name) :
    t.walk? place (segments ++ [name]) = some target ↔
      (∀ above, above <+: segments.filter isName → t.isFolder (place ++ above) = true) ∧
        place ++ segments.filter isName ++ [name] = target := by
  induction segments generalizing place with
  | nil =>
    rw [List.nil_append, walk?_cons_iff, step_of_isName file.named file.down]
    simp [walk?, List.prefix_nil]
  | cons segment rest inductionHypothesis =>
    simp only [List.mem_cons, not_or] at down
    rw [List.cons_append, walk?_cons_iff]
    by_cases named : isName segment = true
    · rw [step_of_isName named (Ne.symm down.1), List.filter_cons_of_pos named,
        inductionHypothesis down.2, forall_prefix_cons_iff]
      simp [and_assoc]
    · -- A segment that stands still asks for the folder for which the rest asks anyway.
      rw [step_of_idle named, List.filter_cons_of_neg named, inductionHypothesis down.2]
      refine and_iff_right_of_imp fun leads => ?_
      simpa using leads.1 [] List.nil_prefix

/-- A file name within a folder is there exactly if that folder holds it. -/
theorem isPresent_child_iff {p : Path} (descends : p.Descends) (file : IsFileName name)
    (working : List String) : t.isPresent working (p.child name) = true ↔ t.Holds p.names name := by
  have down : ".." ∉ p.folderSegments := by
    intro up
    unfold Path.folderSegments at up
    split at up
    · exact descends.down (List.mem_of_mem_dropLast up)
    · exact descends.down up
  have place (target : List String) : t.place? working (p.child name) = some target ↔
      (∀ above, above <+: p.names → t.isFolder above = true) ∧ p.names ++ [name] = target := by
    rw [Path.child_eq file, place?, descends.absolute, Path.isEmpty]
    simp [walk?_append_iff down file, Path.filter_folderSegments]
  rw [isPresent, Holds, Option.isSome_iff_exists, Option.isSome_iff_exists, ← exists_and_left]
  simp [Option.bind_eq_some_iff, place, and_assoc]

end FileTree

end DesiredState
