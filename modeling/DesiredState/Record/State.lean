import DesiredState.Host.Provider
import DesiredState.Resource.Basic

/-!
# Recorded state

What is kept from one run to the next: what the provider hosts, the specifications as they were last
brought about, and the latest runs.

Contents:

* `RunOperation`, `HistoryEntry`: a run that was made.
* `RecordedState`: the type.
* `RecordedState.record`, `RecordedState.forget`, `RecordedState.addHistory`: changes, each of which
  sets the time of the last change.
* `RecordedState.form`: the state in documents.
-/

namespace DesiredState

/-! ## History -/

/-- What a run did. -/
inductive RunOperation
  | sync
  | delete
  deriving DecidableEq

def RunOperation.label : RunOperation → String
  | .sync => "sync"
  | .delete => "delete"

def RunOperation.form : Form RunOperation := .choice RunOperation.label [.sync, .delete]

/-- A run that was made: its end, its resources by kind and name, and its first error. -/
structure HistoryEntry where
  timestamp : Instant
  operation : RunOperation
  resources : List String
  success : Bool
  error : Option String
  deriving DecidableEq

namespace HistoryEntry

def ofRun (now : Instant) (operation : RunOperation) (resources : List String)
    (error : Option String) : HistoryEntry :=
  ⟨now, operation, resources, error.isNone, error⟩

def layout : Layout HistoryEntry HistoryEntry :=
  HistoryEntry.mk <$> .required "timestamp" HistoryEntry.timestamp Form.instant
    <*> .required "operation" HistoryEntry.operation RunOperation.form
    <*> .required "resources" HistoryEntry.resources (Form.listOf Form.text)
    <*> .required "success" HistoryEntry.success Form.flag
    <*> .optional "error" HistoryEntry.error Form.text

end HistoryEntry

/-! ## State -/

/-- What is kept from one run to the next; the oldest run comes first. -/
structure RecordedState where
  version : String
  lastUpdated : Instant
  provider : Snapshot
  resources : List Resource
  history : List HistoryEntry

namespace RecordedState

def currentVersion : String := "1.0"

def maxHistory : Nat := 50

def new (now : Instant) : RecordedState := ⟨currentVersion, now, .empty, [], []⟩

/-- The resources with one more; another one of its kind and name gives way. -/
def put (rs : List Resource) (r : Resource) : List Resource :=
  rs.filter (fun r' => !r.sameAs r') ++ [r]

def record (s : RecordedState) (now : Instant) (rs : List Resource) : RecordedState :=
  { s with resources := rs.foldl put s.resources, lastUpdated := now }

/-- Forgets the first resource of a kind and name, if there is one. -/
def forget (s : RecordedState) (now : Instant) (kind : Kind) (name : String) :
    Option Resource × RecordedState :=
  match s.resources.find? (·.isNamed kind name) with
  | none => (none, s)
  | some r => (some r, { s with
      resources := s.resources.eraseP (·.isNamed kind name)
      lastUpdated := now })

/-- Adds a run; of more than `maxHistory` runs the oldest are dropped. -/
def addHistory (s : RecordedState) (now : Instant) (e : HistoryEntry) : RecordedState :=
  let history := s.history ++ [e]
  { s with history := history.drop (history.length - maxHistory), lastUpdated := now }

/-! ## Documents -/

/-- The levels of nesting within a resource: a file may have 127 of them, and two are around a resource.
Outside of resources there is no such limit, for what has no place in the state is skipped there. -/
def resourceLevels : Nat := 127 - 2

def layout : Layout RecordedState RecordedState :=
  RecordedState.mk <$> .required "version" RecordedState.version Form.text
    <*> .required "last_updated" RecordedState.lastUpdated Form.instant
    <*> .defaulted "provider" RecordedState.provider Snapshot.form .empty
    <*> .defaulted "resources" RecordedState.resources
      (Form.listOf (Resource.form.upTo resourceLevels)) []
    <*> .defaulted "history" RecordedState.history (Form.listOf HistoryEntry.layout.record) []

def form : Form RecordedState := layout.record

end RecordedState

end DesiredState
