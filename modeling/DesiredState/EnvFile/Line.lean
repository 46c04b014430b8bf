import DesiredState.Text.Blank

/-!
# Lines of files of variables

A line ends at a line feed, unless that stands within quotes. A sign `#` after a blank begins a
comment, and so does one before everything else.

Contents:

* `LineState`: where the reading of a line stands.
* `scan`: reading on within a line.
* `joinLines`, `lines?`: the lines of a text.
-/

namespace DesiredState.EnvFile

/-- Where the reading of a line stands: in plain text, after a blank, in quotes of either kind, or
after a backslash in one of these. -/
inductive LineState
  | plain
  | blank
  | escaped
  | single
  | singleEscaped
  | double
  | doubleEscaped
  deriving DecidableEq

/-- A character that opens something, wherever nothing is open. -/
def LineState.opening (c : Char) : LineState :=
  if c = '\\' then .escaped
  else if c = '"' then .double
  else if c = '\'' then .single
  else .plain

/-- Reading one character; nothing if a comment begins with it. A blank after a blank counts as
plain text. -/
def LineState.next? : LineState → Char → Option LineState
  | .blank, c => if c = '#' then none else some (opening c)
  | .plain, c =>
    if Text.isBlank c && c ≠ '\n' && c ≠ '\r' then some .blank else some (opening c)
  | .escaped, _ => some .plain
  | .double, c => some (if c = '\\' then .doubleEscaped else if c = '"' then .plain else .double)
  | .doubleEscaped, _ => some .double
  | .single, c => some (if c = '\\' then .singleEscaped else if c = '\'' then .plain else .single)
  | .singleEscaped, _ => some .single

/-- Reading on: what is not a comment, and where the reading stands unless a comment ended it. -/
def scan : LineState → List Char → List Char × Option LineState
  | state, [] => ([], some state)
  | state, c :: rest =>
    match state.next? c with
    | none => ([], none)
    | some next =>
      let (kept, last) := scan next rest
      (c :: kept, last)

/-- The text in pieces, each of which ends with its line feed. -/
def splitLines : List Char → List (List Char)
  | [] => []
  | c :: rest =>
    if c = '\n' then ['\n'] :: splitLines rest
    else
      match splitLines rest with
      | [] => [[c]]
      | line :: lines => (c :: line) :: lines

/-- Without the line feed at the end and a carriage return before it. -/
def chomp (line : List Char) : List Char :=
  match line.reverse with
  | '\n' :: '\r' :: before => before.reverse
  | '\n' :: before => before.reverse
  | _ => line

/-- The sign of a comment stands before everything else. -/
def isComment (line : List Char) : Bool := (line.dropWhile Text.isBlank).head? = some '#'

/-- Puts together the pieces of which each line consists, given what has been read of the first;
there must be nothing open at the end. -/
def joinLines : List Char → LineState → List (List Char) → Option (List (List Char))
  | _, state, [] => if state = .plain then some [] else none
  | begun, state, piece :: rest =>
    if isComment (begun ++ piece) then joinLines [] .plain rest
    else
      match scan state piece with
      | (kept, none) => (joinLines [] .plain rest).map ((begun ++ kept) :: ·)
      | (_, some .plain) => (joinLines [] .plain rest).map (chomp (begun ++ piece) :: ·)
      | (_, some open') => joinLines (begun ++ piece) open' rest

/-- The lines of a text, unless something is left open. -/
def lines? (text : List Char) : Option (List (List Char)) := joinLines [] .plain (splitLines text)

end DesiredState.EnvFile
