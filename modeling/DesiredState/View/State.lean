import DesiredState.Record.State
import DesiredState.View.Report

/-!
# Views of the recorded state

Contents:

* `RecordedState.text`: the recorded state for readers.
* `RecordedState.summaryDoc`: the recorded state as a document without what the provider hosts.
* `RecordedState.render`: either of them.
-/

namespace DesiredState

def Resource.recordedLine (p : Palette) (r : Resource) : String :=
  "     " ++ r.label ++ " " ++ p.paint .dim r.identifier ++ "\n"

def HistoryEntry.line (p : Palette) (e : HistoryEntry) : String :=
  "     " ++ (if e.success then p.paint .green "✓" else p.paint .red "✗") ++ " "
    ++ e.timestamp.minuteText ++ " - " ++ e.operation.label ++ " ("
    ++ ", ".intercalate e.resources ++ ")\n"

namespace RecordedState

def resourcesText (p : Palette) (s : RecordedState) : String :=
  if s.resources.isEmpty then "\n   No recorded resources.\n"
  else "\n   Resources (" ++ toString s.resources.length ++ "):\n"
    ++ String.join (s.resources.map (Resource.recordedLine p))

def shownHistory : Nat := 5

/-- The latest runs for readers, the last one first. -/
def historyText (p : Palette) (s : RecordedState) : String :=
  if s.history.isEmpty then ""
  else "\n   Recent history (" ++ toString s.history.length ++ "):\n"
    ++ String.join ((s.history.reverse.take shownHistory).map (HistoryEntry.line p))

def text (p : Palette) (s : RecordedState) : String :=
  "State\n   Version: " ++ s.version ++ "\n   Last updated: " ++ s.lastUpdated.plainText
    ++ "\n   Provider resources: " ++ toString s.provider.size ++ "\n"
    ++ s.resourcesText p ++ s.historyText p

def resourceDoc (r : Resource) : Doc :=
  .object [("kind", .text r.kind.label), ("name", .text r.name), ("identifier", .text r.identifier)]

def summaryDoc (s : RecordedState) : Doc :=
  .object [("version", .text s.version), ("last_updated", .text s.lastUpdated.offsetText),
    ("provider_resources", .int s.provider.size), ("resources", .list (s.resources.map resourceDoc)),
    ("history", .list (s.history.map fun e => .object (HistoryEntry.layout.write e)))]

def render (p : Palette) (s : RecordedState) : OutputFormat → String
  | .text => s.text p
  | .json => s.summaryDoc.pretty

end RecordedState

end DesiredState
