import DesiredState.Doc.Json.Printer
import DesiredState.Doc.Json.Reader
import DesiredState.Machine.Platform
import DesiredState.Record.State

/-!
# Stores

The recorded state is kept in a file as JSON. It is written into a file beside that one, which then
takes its place, so that the file is never half written.

Contents:

* `RecordedState.ofJson`: the state in a text.
* `Store`: where the state is kept.
* `Store.load`, `Store.save`, `Store.delete`, `Store.isPresent`: what can be done with it.
-/

namespace DesiredState

def RecordedState.ofJson (text : String) : Except StoreError RecordedState := do
  let s ← ((Json.read text).decode RecordedState.form.read).mapError fun f =>
    .corrupted ("Failed to parse state file: " ++ f.message)
  if s.version = RecordedState.currentVersion then .ok s
  else .error (.versionMismatch RecordedState.currentVersion s.version)

def RecordedState.json (s : RecordedState) : String := (RecordedState.form.write s).pretty

/-- Where the recorded state is kept. -/
structure Store where
  folder : Path
  file : Path
  deriving DecidableEq

namespace Store

def folderName : String := ".infra-reconcile"

def fileName : String := "state.json"

def inFolder (folder : Path) : Store := ⟨folder, folder.child fileName⟩

/-- The store of a folder, which has a folder of its own there. -/
def ofFolder (folder : Path) : Store := inFolder (folder.child folderName)

def ofFile (file : Path) : Store := ⟨file.parent?.getD Path.here, file⟩

variable {m : Type → Type} [Monad m] (platform : Platform m) (store : Store)

def isPresent : m Bool := platform.isPresent store.file

def load : Attempt m (Option RecordedState) := do
  if !(← (store.isPresent platform : m Bool)) then return none
  match ← platform.readText store.file with
  | .error cause => throw (.store (.corrupted ("Failed to read state file: " ++ cause)))
  | .ok text =>
    match RecordedState.ofJson text with
    | .ok s => return some s
    | .error e => throw (.store e)

/-- Makes the folder of the store, if it is missing. -/
def makeFolder : Attempt m Unit := do
  if !store.folder.isEmpty then
    if !(← platform.isPresent store.folder) then
      attempt (platform.makeFolders store.folder)

def save (s : RecordedState) : Attempt m Unit := do
  store.makeFolder platform
  let draft := store.file.withExtension "tmp"
  attempt (platform.writeText draft s.json)
  attempt (platform.moveFile draft store.file)

def delete : Attempt m Unit := do
  if ← (store.isPresent platform : m Bool) then attempt (platform.removeFile store.file)

end Store

end DesiredState
