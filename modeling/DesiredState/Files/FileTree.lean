import DesiredState.Files.Path

/-!
# File trees

Files and folders below a common top, as a value. Files hold texts.

Contents:

* `FileTree`: the type.
* `FileError`: why something cannot be done.
* `FileTree.place?`: where a path leads.
* `isPresent`, `read`, `write`, `makeFolders`, `move`, `remove`, `names`: what can be done.
-/

namespace DesiredState

/-- What is kept at a place. -/
inductive FileEntry
  | file (text : String)
  | folder
  deriving DecidableEq

/-- Files and folders by the names that lead to them from the top; the top is a folder. -/
structure FileTree where
  entries : List (List String × FileEntry)
  deriving DecidableEq

/-- Why something cannot be done. -/
inductive FileError
  | missing
  | isFolder
  | notFolder
  deriving DecidableEq

def FileError.message : FileError → String
  | .missing => "no such file or directory"
  | .isFolder => "is a directory"
  | .notFolder => "not a directory"

namespace FileTree

def empty : FileTree := ⟨[]⟩

instance : Inhabited FileTree := ⟨empty⟩

/-! ## Places -/

def entry? (t : FileTree) (place : List String) : Option FileEntry :=
  if place.isEmpty then some .folder else t.entries.lookup place

def isFolder (t : FileTree) (place : List String) : Bool := t.entry? place = some .folder

/-- The tree with something at a place, whatever was there before. -/
def put (t : FileTree) (place : List String) (e : FileEntry) : FileTree :=
  ⟨(place, e) :: t.entries.filter (·.1 ≠ place)⟩

def erase (t : FileTree) (place : List String) : FileTree :=
  ⟨t.entries.filter (·.1 ≠ place)⟩

def step (place : List String) (segment : String) : List String :=
  if segment = "" || segment = "." then place
  else if segment = ".." then place.dropLast
  else place ++ [segment]

/-- Where segments lead from a place: every step starts from a folder. -/
def walk? (t : FileTree) (place : List String) : List String → Option (List String)
  | [] => some place
  | segment :: rest =>
    if t.isFolder place then t.walk? (step place segment) rest else none

/-- Where a path leads for somebody who is at some place; what it names need not exist. -/
def place? (t : FileTree) (working : List String) (p : Path) : Option (List String) :=
  if p.isEmpty then none else t.walk? (if p.absolute then [] else working) p.segments

/-! ## Operations -/

/-- Makes the folders that segments lead through from a place. -/
def makeFrom (t : FileTree) (place : List String) : List String → Except FileError FileTree
  | [] => .ok t
  | segment :: rest =>
    let next := step place segment
    match t.entry? next with
    | some .folder => makeFrom t next rest
    | some (.file _) => .error .notFolder
    | none => makeFrom (t.put next .folder) next rest

variable (t : FileTree) (working : List String)

def isPresent (p : Path) : Bool :=
  ((t.place? working p).bind t.entry?).isSome

def read (p : Path) : Except FileError String :=
  match (t.place? working p).bind t.entry? with
  | some (.file text) => .ok text
  | some .folder => .error .isFolder
  | none => .error .missing

/-- Puts a text into the file at a path, whose folder must exist. -/
def write (p : Path) (text : String) : Except FileError FileTree :=
  match t.place? working p with
  | none => .error .missing
  | some place => if t.isFolder place then .error .isFolder else .ok (t.put place (.file text))

/-- Makes the folder at a path and those that lead to it. -/
def makeFolders (p : Path) : Except FileError FileTree :=
  t.makeFrom (if p.absolute then [] else working) p.segments

/-- Moves the file at a path to another path, over the file that may be there. -/
def move (source target : Path) : Except FileError FileTree := do
  let text ← t.read working source
  let moved ← t.write working target text
  if t.place? working source = t.place? working target then .ok moved
  else
    match t.place? working source with
    | some place => .ok (moved.erase place)
    | none => .error .missing

def remove (p : Path) : Except FileError FileTree := do
  let _ ← t.read working p
  match t.place? working p with
  | some place => .ok (t.erase place)
  | none => .error .missing

def names (t : FileTree) (place : List String) : List String :=
  t.entries.filterMap fun e =>
    if e.1.length = place.length + 1 && e.1.dropLast = place then e.1.getLast? else none

end FileTree

end DesiredState
