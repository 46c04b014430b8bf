import DesiredState.Doc.Form
import DesiredState.Text.Blank

/-!
# Deletion policies

What deleting a resource does to the hosted resource.

Contents:

* `DeletionPolicy`: the five policies, their names and their form in documents.
* `DeletionPolicy.parse?`: the policy of a declared name.
-/

namespace DesiredState

/-- What deleting a resource does to the hosted resource: it is removed, left in place, left in
place and forgotten, saved before it is removed, or stopped. -/
inductive DeletionPolicy
  | delete
  | retain
  | orphan
  | snapshot
  | stop
  deriving DecidableEq

namespace DeletionPolicy

def all : List DeletionPolicy := [.delete, .retain, .orphan, .snapshot, .stop]

def label : DeletionPolicy → String
  | .delete => "Delete"
  | .retain => "Retain"
  | .orphan => "Orphan"
  | .snapshot => "Snapshot"
  | .stop => "Stop"

def form : Form DeletionPolicy := .choice label all

/-- Texts that differ only in the case of ASCII letters. -/
def sameName (a b : String) : Bool :=
  a.toList.map Char.toLower == b.toList.map Char.toLower

/-- The policy of a declared name; blanks around it and the case of its letters do not matter. -/
def parse? (declared : String) : Option DeletionPolicy :=
  all.find? fun p => sameName p.label (Text.trim declared)

/-- What is said of a name that no policy has. -/
def unknownText (declared : String) : String :=
  "unknown deletion policy '" ++ declared ++ "'"

end DeletionPolicy

end DesiredState
