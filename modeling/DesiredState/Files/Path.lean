/-!
# Paths

A path is kept as the texts between its slashes, so that writing it down again gives the very text
it was read from.

Contents:

* `Path`: the type.
* `Path.ofText`, `Path.text`: from a text and back.
* `Path.join`: a path within a folder.
* `Path.parent?`, `Path.ancestors`: the folders above.
* `Path.folder`: the folder of a file.
* `Path.withExtension`: a file beside another one.
-/

namespace DesiredState

/-- A path from the top or from where one is; slashes in a row leave empty segments. -/
structure Path where
  absolute : Bool
  segments : List String
  deriving DecidableEq, Inhabited

namespace Path

/-! ## Texts -/

def between : List Char → List (List Char)
  | [] => [[]]
  | c :: rest =>
    if c = '/' then [] :: between rest
    else
      match between rest with
      | [] => [[c]]
      | piece :: pieces => (c :: piece) :: pieces

def ofText (text : String) : Path :=
  match (between text.toList).map String.ofList with
  | [""] => ⟨false, []⟩
  | ["", ""] => ⟨true, []⟩
  | "" :: segments => ⟨true, segments⟩
  | segments => ⟨false, segments⟩

def text (p : Path) : String :=
  (if p.absolute then "/" else "") ++ "/".intercalate p.segments

def here : Path := ⟨false, ["."]⟩

def isEmpty (p : Path) : Bool := !p.absolute && p.segments.isEmpty

/-! ## Down -/

/-- The segments without an empty last one, which a slash at the end leaves. -/
def folderSegments (p : Path) : List String :=
  if p.segments.getLast? = some "" then p.segments.dropLast else p.segments

/-- A path within a folder; a path from the top stays as it is. -/
def join (p q : Path) : Path :=
  if q.absolute then q
  else if p.segments.isEmpty then { p with segments := q.segments }
  else if q.segments.isEmpty then { p with segments := p.folderSegments ++ [""] }
  else { p with segments := p.folderSegments ++ q.segments }

def child (p : Path) (name : String) : Path := p.join (ofText name)

/-! ## Up -/

/-- Cuts off what does not count, given the last segment first: empty segments, and single dots
unless such a dot is all there is. -/
def dropIdle (absolute : Bool) : List String → List String
  | [] => []
  | s :: before =>
    if s = "" || (s = "." && (absolute || !before.isEmpty)) then dropIdle absolute before
    else s :: before

def backward (p : Path) : List String := dropIdle p.absolute p.segments.reverse

/-- The path without its last segment; the top and the empty path have none. -/
def parent? (p : Path) : Option Path :=
  match p.backward with
  | [] => none
  | _ :: before => some ⟨p.absolute, (dropIdle p.absolute before).reverse⟩

theorem length_dropIdle_le (absolute : Bool) (segments : List String) :
    (dropIdle absolute segments).length ≤ segments.length := by
  induction segments with
  | nil => simp [dropIdle]
  | cons s before ih =>
    simp only [dropIdle]
    split
    · exact Nat.le_succ_of_le ih
    · exact Nat.le_refl _

/-- The way up ends. -/
theorem length_segments_of_parent? {p q : Path} (h : p.parent? = some q) :
    q.segments.length < p.segments.length := by
  have hb : p.backward.length ≤ p.segments.length := by
    simpa [backward] using length_dropIdle_le p.absolute p.segments.reverse
  unfold parent? at h
  split at h
  · cases h
  next s before hs =>
    cases h
    have := length_dropIdle_le p.absolute before
    simp only [List.length_reverse]
    rw [hs] at hb
    simp only [List.length_cons] at hb
    omega

/-- The path, its parent, the parent of that, and so on. -/
def ancestors (p : Path) : List Path :=
  p :: match _h : p.parent? with
    | none => []
    | some q => q.ancestors
termination_by p.segments.length
decreasing_by exact length_segments_of_parent? _h

def folder (p : Path) : Path :=
  match p.parent? with
  | some q => if q.isEmpty then here else q
  | none => here

/-! ## Beside -/

/-- A name up to its last dot; a dot at the beginning is part of the name. -/
def stem (name : String) : String :=
  let before := (name.toList.reverse.dropWhile (· ≠ '.')).drop 1
  if before.isEmpty then name else String.ofList before.reverse

/-- The file beside this one whose name ends in another way after its last dot. -/
def withExtension (p : Path) (extension : String) : Path :=
  match p.backward with
  | [] => p
  | name :: before =>
    if name = "." || name = ".." then p
    else { p with segments := before.reverse ++ [stem name ++ "." ++ extension] }

end Path

end DesiredState
