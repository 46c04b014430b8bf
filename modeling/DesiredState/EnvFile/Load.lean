import DesiredState.Dict
import DesiredState.EnvFile.Definition
import DesiredState.Machine.Platform

/-!
# The variables of a folder

A folder may hold a file of variables. A variable that the environment sets keeps its value there,
and of several definitions of a variable the first one counts.

Contents:

* `Platform.lookUp`: a variable of the environment or of a file.
* `EnvFile.resolve`: the values that definitions give.
* `EnvFile.load`: the variables of a folder.
-/

namespace DesiredState

variable {m : Type → Type} [Monad m]

/-- A variable of the environment, or else of a file. -/
def Platform.lookUp (platform : Platform m) (defined : Dict String) (name : String) :
    m (Option String) := do
  match ← platform.environment? name with
  | some value => return some value
  | none => return defined.get? name

namespace EnvFile

/-- The text of a part of a value; a variable without a value is an empty text. -/
def Piece.text (platform : Platform m) (defined : Dict String) : Piece → m String
  | .char c => pure c.toString
  | .variable name => do return (← platform.lookUp defined name).getD ""

/-- The values that definitions give beside those that are known. -/
def resolve (platform : Platform m) (defined : Dict String) : List Definition → m (Dict String)
  | [] => pure defined
  | d :: rest => do
    let texts ← d.value.mapM (Piece.text platform defined)
    if (← platform.lookUp defined d.name).isSome then resolve platform defined rest
    else resolve platform (defined.insert d.name (String.join texts)) rest

def fileName : String := ".env"

/-- The variables of a folder, none if it has no such file. -/
def load (platform : Platform m) (folder : Path) : Attempt m (Dict String) := do
  let path := folder.child fileName
  let refuse (cause : String) : Attempt m (Dict String) :=
    throw (.manifest (.parse ("Failed to load .env file: " ++ cause) (some path.text)))
  if !(← platform.isPresent path) then return .empty
  match ← platform.readText path with
  | .error cause => refuse cause
  | .ok text =>
    match parse? text with
    | none => refuse "a line cannot be read"
    | some definitions => (resolve platform .empty definitions : m (Dict String))

end EnvFile

end DesiredState
