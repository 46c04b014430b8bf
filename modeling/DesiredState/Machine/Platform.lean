import DesiredState.Failure
import DesiredState.Files.Path
import DesiredState.Host.Numbering
import DesiredState.Reconcile.Token
import DesiredState.Time.Instant

/-!
# Platforms

What a program asks of the machine it runs on, apart from how the machine does it. An answer that is
an error carries the machine's own wording.

Contents:

* `Platform`: files, variables, input and output, the clock, interruptions, and numbers for new
  identifiers.
* `Attempt`: what a program does until an error ends it.
* `attempt`: one thing a program does, whose failure ends it.
-/

namespace DesiredState

/-- What a machine does for a program. -/
structure Platform (m : Type → Type) where
  /-- Something exists at a path. -/
  isPresent : Path → m Bool
  /-- The text of a file. -/
  readText : Path → m (Except String String)
  /-- Puts a text into a file, whose folder must exist. -/
  writeText : Path → String → m (Except String Unit)
  /-- Makes a folder and those that lead to it. -/
  makeFolders : Path → m (Except String Unit)
  /-- Moves a file over another one. -/
  moveFile : Path → Path → m (Except String Unit)
  /-- Removes a file. -/
  removeFile : Path → m (Except String Unit)
  /-- The value of an environment variable. -/
  environment? : String → m (Option String)
  /-- The next line of the input, empty at its end. -/
  readLine : m (Except String String)
  /-- Adds a text to the output. -/
  writeOutput : String → m Unit
  /-- Adds a text to the error output. -/
  writeError : String → m Unit
  /-- The time. -/
  now : m Instant
  /-- The numbers of new identifiers. -/
  serial : m Numbering
  /-- What interrupts a run. -/
  token : m Token

/-- What a program does until an error ends it. -/
abbrev Attempt (m : Type → Type) := ExceptT ProgramError m

variable {m : Type → Type} [Monad m] {α : Type}

/-- One thing that a machine does, whose failure ends the program. -/
def attempt (action : m (Except String α)) : Attempt m α := do
  match ← action with
  | .ok a => pure a
  | .error message => throw (.io message)

end DesiredState
