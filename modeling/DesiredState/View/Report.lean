import DesiredState.Doc.Json.Printer
import DesiredState.Fleet.Report
import DesiredState.Manifest.Validation
import DesiredState.View.Paint

/-!
# Views of reports

How reports and errors are shown: as text for readers, or as JSON.

Contents:

* `OutputFormat`: text or JSON.
* `Report.overview`: a report in a few plain lines.
* `Report.text`, `Report.render`: a report in full.
* `ValidationReport.render`: the verdict on a manifest.
* `renderError`: an error.
-/

namespace DesiredState

/-- How something is shown. -/
inductive OutputFormat
  | text
  | json
  deriving DecidableEq

/-! ## Overview -/

def ReportEntry.overview (e : ReportEntry) : String :=
  "  " ++ padRight 28 e.label ++ " " ++ e.status.text
    ++ (match e.error with
      | some m => " (" ++ m ++ ")"
      | none => "")
    ++ "\n"

def Report.overview (r : Report) : String :=
  "Run Report\n==========\n\n" ++ String.join (r.entries.map ReportEntry.overview) ++ "\n"
    ++ "Summary: " ++ toString (r.count .created + r.count .recreated) ++ " created, "
    ++ toString (r.count .updated) ++ " updated, "
    ++ toString (r.count .deleted) ++ " deleted, "
    ++ toString r.failed ++ " failed, "
    ++ toString r.warnings ++ " warning(s)\n"

/-! ## Reports as text -/

def Status.style : Status → Style
  | .created => .green
  | .recreated => .green
  | .updated => .yellow
  | .stopped => .yellow
  | .deleted => .red
  | .failed => .red
  | .unchanged => .dim
  | .skipped => .dim
  | .notRun => .dim

def detailLine (text : String) : String := "            " ++ text ++ "\n"

/-- A detail line with a list, if there is something to list. -/
def listLine (head : String) (texts : List String) : String :=
  if texts.isEmpty then "" else detailLine (head ++ ", ".intercalate texts)

def ReportEntry.details (p : Palette) (e : ReportEntry) : String :=
  String.join (e.changes.map fun c => detailLine ("~ " ++ c))
    ++ listLine "+ tags " e.tagsUpserted
    ++ listLine "- tags " e.tagsRemoved
    ++ (match e.deleteAction with
      | some a => detailLine a.text
      | none => "")
    ++ String.join (e.warnings.map fun w =>
      detailLine (p.paint .yellow "⚠" ++ " " ++ w.step ++ ": " ++ w.error))
    ++ (match e.error with
      | some m => detailLine (p.paint .red "✗" ++ " " ++ m)
      | none => "")

def ReportEntry.text (p : Palette) (e : ReportEntry) : String :=
  padLeft 10 (p.paint e.status.style e.status.text) ++ "  " ++ e.label
    ++ (if e.identifier.isEmpty then "" else " (" ++ p.paint .dim e.identifier ++ ")")
    ++ (if e.status.isSynced && !e.ready then " " ++ p.paint .yellow "not ready" else "")
    ++ "\n" ++ e.details p

def Report.summary (p : Palette) (r : Report) : String :=
  "Run: " ++ p.paint .green (toString (r.count .created + r.count .recreated)) ++ " created, "
    ++ p.paint .yellow (toString (r.count .updated)) ++ " updated, "
    ++ toString (r.count .unchanged) ++ " unchanged, "
    ++ p.paint .red (toString (r.count .deleted)) ++ " deleted, "
    ++ toString (r.count .skipped) ++ " skipped, "
    ++ p.paint .red (toString r.failed) ++ " failed\n"

def Report.text (p : Palette) (r : Report) : String :=
  if r.entries.isEmpty then "No resources in manifest.\n"
  else
    String.join (r.entries.map (ReportEntry.text p)) ++ "\n" ++ r.summary p
      ++ (if r.cancelled then p.paint .yellow "⚠" ++ " Run was cancelled\n" else "")

def Report.render (p : Palette) (r : Report) : OutputFormat → String
  | .text => r.text p
  | .json => r.doc.pretty

/-! ## Verdicts and errors -/

def ValidationReport.remarks (p : Palette) (showWarnings : Bool) (v : ValidationReport) : String :=
  if v.warnings.isEmpty then ""
  else if showWarnings then
    "\n" ++ p.paint .yellow "⚠" ++ " Warnings:\n"
      ++ String.join (v.warnings.map fun w => "   - " ++ w ++ "\n")
  else "   " ++ toString v.warnings.length ++ " warning(s), use --warnings to list them\n"

def ValidationReport.render (p : Palette) (showWarnings : Bool) (v : ValidationReport) :
    OutputFormat → String
  | .text =>
    p.paint .green "✓" ++ " Manifest is valid (" ++ toString v.resources ++ " resource(s))\n"
      ++ v.remarks p showWarnings
  | .json =>
    (Doc.object [("resources", .int v.resources), ("valid", .bool true),
      ("warnings", .texts v.warnings)]).pretty

def renderError (p : Palette) (message : String) : OutputFormat → String
  | .text => p.paint .red "✗" ++ " " ++ message
  | .json => (Doc.object [("message", .text message), ("status", .text "error")]).pretty

end DesiredState
