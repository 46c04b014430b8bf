import DesiredState.CommandLine.Program
import Std.Time

/-!
# Running the program

The program on the machine it is started on.
-/

namespace DesiredState

/-- What comes of an action, or what the machine says of its failure. -/
def attempted (action : IO α) : IO (Except String α) := do
  try
    return .ok (← action)
  catch e => return .error (toString e)

def currentInstant : IO Instant := do
  let t ← Std.Time.Timestamp.now
  return (Instant.afterEpoch? t.toNanosecondsSinceUnixEpoch.val).getD .epoch

/-- Random numbers of twelve hexadecimal digits. -/
def randomNumbering (seed : Nat) : Numbering where
  position := 0
  number n := (randNat (Nat.repeat (fun g => (stdNext g).2) n (mkStdGen seed)) 0 (Nat.pow 16 12 - 1)).1

/-- The machine on which the program is started. A run that is interrupted there ends at once, with
all that it has not saved. -/
def localPlatform : Platform IO where
  isPresent p := do
    match ← attempted (IO.FS.realPath p.text) with
    | .ok _ => return true
    | .error _ => return false
  readText p := attempted (IO.FS.readFile p.text)
  writeText p text := attempted (IO.FS.writeFile p.text text)
  makeFolders p := attempted (IO.FS.createDirAll p.text)
  moveFile source target := attempted (IO.FS.rename source.text target.text)
  removeFile p := attempted (IO.FS.removeFile p.text)
  environment? name := IO.getEnv name
  readLine := attempted do (← IO.getStdin).getLine
  writeOutput text := IO.print text
  writeError text := IO.eprint text
  now := currentInstant
  serial := return randomNumbering (← IO.rand 0 (Nat.pow 16 12 - 1))
  token := return .live

end DesiredState

/-- Runs the program with colours if its output is a terminal. -/
def main (arguments : List String) : IO UInt32 := do
  let palette := if ← (← IO.getStdout).isTty then DesiredState.Palette.coloured else .plain
  DesiredState.CommandLine.runProgram DesiredState.localPlatform palette arguments
