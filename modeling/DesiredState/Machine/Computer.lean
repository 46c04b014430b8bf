import DesiredState.Dict
import DesiredState.Files.FileTree
import DesiredState.Machine.Platform

/-!
# Computers

A machine as a value: what a program finds there and what it leaves behind.

Contents:

* `Computer`: the type.
* `Computer.platform`: a computer as a platform for programs.
-/

namespace DesiredState

/-- A machine as a value. -/
structure Computer where
  tree : FileTree
  /-- The names that lead to the folder in which programs work. -/
  working : List String
  environment : Dict String
  /-- What has not been read yet. -/
  input : List Char
  output : String
  errors : String
  clock : Instant
  /-- The place in `number` of the number that the next new identifier gets. -/
  serial : Nat
  /-- The numbers of new identifiers. -/
  number : Nat → Nat := id
  /-- How many calls a run makes before it is interrupted, if it is. -/
  interruption : Option Nat := none

namespace Computer

def numbering (c : Computer) : Numbering := ⟨c.serial, c.number⟩

/-- The token of a run. -/
def token (c : Computer) : Token := c.interruption.elim .live .lasting

def look (f : FileTree → List String → Except FileError α) : StateM Computer (Except String α) := do
  let c ← get
  return (f c.tree c.working).mapError FileError.message

def change (f : FileTree → List String → Except FileError FileTree) :
    StateM Computer (Except String Unit) := do
  let c ← get
  match f c.tree c.working with
  | .ok tree => set { c with tree := tree }; return .ok ()
  | .error e => return .error e.message

/-- The next line of the input with the line feed that ends it. -/
def nextLine (input : List Char) : List Char × List Char :=
  let line := input.takeWhile (· ≠ '\n')
  match input.drop line.length with
  | [] => (line, [])
  | c :: rest => (line ++ [c], rest)

def platform : Platform (StateM Computer) where
  isPresent p := do
    let c ← get
    return c.tree.isPresent c.working p
  readText p := look fun t w => t.read w p
  writeText p text := change fun t w => t.write w p text
  makeFolders p := change fun t w => t.makeFolders w p
  moveFile source target := change fun t w => t.move w source target
  removeFile p := change fun t w => t.remove w p
  environment? name := return (← get).environment.get? name
  readLine := do
    let c ← get
    let (line, rest) := nextLine c.input
    set { c with input := rest }
    return .ok (String.ofList line)
  writeOutput text := modify fun c => { c with output := c.output ++ text }
  writeError text := modify fun c => { c with errors := c.errors ++ text }
  now := return (← get).clock
  serial := return (← get).numbering
  token := return (← get).token

end Computer

end DesiredState
