import DesiredState.CommandLine.Arguments
import DesiredState.Manifest.Load
import DesiredState.Record.Run
import DesiredState.Record.Store
import DesiredState.View.State

/-!
# The program

What the program does on a platform, from its arguments to its exit code. Logs are left out, so that
what is asked for about them has no effect. What interrupts a run is its token: how a platform comes to
cancel that, upon a signal for instance, is left to the platform.

Contents:

* `openManifest`, `openStore`: the manifest and the store of a request.
* `validate`, `sync`, `delete`, `view`: the commands.
* `Request.run`: the command of a request.
* `runProgram`: the whole program.
-/

namespace DesiredState.CommandLine

variable {m : Type → Type} [Monad m] (platform : Platform m)

/-! ## Manifest and store -/

/-- A manifest that was accepted, what is to be said about it, and its folder. -/
structure OpenManifest where
  manifest : Manifest
  verdict : ValidationReport
  folder : Path

/-- The manifest at a path, or else the nearest one, with the variables of its folder. -/
def openManifest (path? : Option Path) : Attempt m OpenManifest := do
  let path ← match path? with
    | some path => pure path
    | none => Manifest.find platform .here
  let defined ← EnvFile.load platform path.folder
  let manifest ← Manifest.load platform defined path
  match manifest.validate false with
  | (manifest, .ok verdict) => return ⟨manifest, verdict, path.folder⟩
  | (_, .error e) => throw (.manifest e)

/-- The store at a path, or else beside the manifest. -/
def openStore (path? : Option Path) (folder : Path) : Store :=
  match path? with
  | some path => .ofFile path
  | none => .ofFolder folder

/-- The recorded state of a store, or a new one. -/
def openState (store : Store) : Attempt m RecordedState := do
  match ← store.load platform with
  | some state => return state
  | none => return .new (← platform.now)

/-! ## Commands -/

def say (text : String) : Attempt m Unit := platform.writeOutput (text ++ "\n")

def remark (text : String) : Attempt m Unit := platform.writeError (text ++ "\n")

def exitCode (report : Report) : UInt32 := if report.isSuccess then 0 else 1

/-- Says what is to be said about the manifest. -/
def validate (palette : Palette) (request : Request) (warnings : Bool) : Attempt m UInt32 := do
  let opened ← openManifest platform request.manifest
  say platform (opened.verdict.render palette warnings request.output)
  return 0

/-- Keeps the state after a run, and shows the report. -/
def finish (palette : Palette) (request : Request) (store : Store)
    (outcome : Report × RecordedState) : Attempt m UInt32 := do
  store.save platform outcome.2
  say platform (outcome.1.render palette request.output)
  return exitCode outcome.1

/-- Brings the resources of the manifest to their desired states. -/
def sync (palette : Palette) (request : Request) (continueOnError : Bool) : Attempt m UInt32 := do
  let opened ← openManifest platform request.manifest
  let store := openStore request.state opened.folder
  let state ← openState platform store
  finish platform palette request store
    (state.sync (← platform.now) (← platform.serial) (← platform.token) continueOnError
      opened.manifest)

/-- What is said before a deletion that needs a confirmation. -/
def confirmationText (rs : List Resource) : String :=
  "The following resources will be deleted per their deletion policy:\n"
    ++ String.join (rs.reverse.map fun r => "  - " ++ r.label ++ "\n")
    ++ "\nType 'delete' to confirm: "

def confirm (rs : List Resource) : Attempt m Bool := do
  platform.writeError (confirmationText rs)
  let answer ← attempt platform.readLine
  return Text.trim answer = "delete"

/-- Deletes the resources of the manifest, once that is confirmed. -/
def delete (palette : Palette) (request : Request) (yes continueOnError : Bool) :
    Attempt m UInt32 := do
  let opened ← openManifest platform request.manifest
  let store := openStore request.state opened.folder
  let state ← openState platform store
  if opened.manifest.adopted state.resources = 0 then
    remark platform "No recorded resources match the manifest."
  if !yes then
    if !(← confirm platform opened.manifest.resources) then
      remark platform "Deletion cancelled."
      return 0
  finish platform palette request store
    (state.delete (← platform.now) (← platform.serial) (← platform.token) continueOnError
      opened.manifest)

/-- The folder beside which the state is kept; where there is no manifest, the place where one
is. -/
def stateFolder (request : Request) : m Path :=
  match request.state, request.manifest with
  | some _, _ => return .here
  | none, some path => return path.folder
  | none, none => do
    match ← (Manifest.find platform .here).run with
    | .ok path => return path.folder
    | .error _ => return .here

def view (palette : Palette) (request : Request) : Attempt m UInt32 := do
  let store := openStore request.state (← (stateFolder platform request : m Path))
  match ← store.load platform with
  | some state => say platform (state.render palette request.output)
  | none => remark platform ("No state found at " ++ store.file.text ++ ".")
  return 0

def Request.run (palette : Palette) (request : Request) : Attempt m UInt32 :=
  match request.command with
  | .validate warnings => validate platform palette request warnings
  | .sync continueOnError => sync platform palette request continueOnError
  | .delete yes continueOnError => delete platform palette request yes continueOnError
  | .view => view platform palette request

/-! ## The whole program -/

def programName : String := "infra-reconcile"

/-- The name and the version of the program, or of one of its verbs. -/
def versionText (verb? : Option Verb) : String :=
  (match verb? with
    | some verb => programName ++ "-" ++ verb.label
    | none => programName) ++ " 0.1.0"

def usageText : String :=
  "Usage: " ++ programName ++ " [OPTIONS] <" ++ "|".intercalate (Verb.all.map Verb.label) ++ ">"

/-- The value that the environment has for a setting. -/
def environmentOf (values : List (Setting × Option String)) (s : Setting) : Option String :=
  (values.lookup s).join

def readEnvironment : m (List (Setting × Option String)) :=
  Setting.all.mapM fun s =>
    match s.variableName? with
    | some name => return (s, ← platform.environment? name)
    | none => return (s, none)

/-- Runs the program: refused arguments end it with code 2, errors with code 1. -/
def runProgram (palette : Palette) (arguments : List String) : m UInt32 := do
  let values ← readEnvironment platform
  match Request.ofArguments (environmentOf values) arguments with
  | .error .refused =>
    platform.writeError (usageText ++ "\n")
    return 2
  | .error .help =>
    platform.writeOutput (usageText ++ "\n")
    return 0
  | .error (.version verb?) =>
    platform.writeOutput (versionText verb? ++ "\n")
    return 0
  | .ok request =>
    match ← (request.run platform palette).run with
    | .ok code => return code
    | .error e =>
      platform.writeError ("Error: " ++ e.message ++ "\n")
      return 1

end DesiredState.CommandLine
