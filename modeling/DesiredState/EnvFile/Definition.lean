import DesiredState.EnvFile.Line
import DesiredState.Text.Alphanumeric

/-!
# Definitions of variables

A line of a file of variables defines one variable: a name, the sign `=` and a value. The value may
refer to variables, and quotes and backslashes keep characters from having a meaning of their own.

Contents:

* `Piece`, `Definition`: the types.
* `Mode`: where the reading of a value stands.
* `value?`: the value that characters spell.
* `definition?`: the definition in a line.
* `parse?`: the definitions in a text.
-/

namespace DesiredState.EnvFile

/-- A part of a value: a character, or the value of a variable. -/
inductive Piece
  | char (c : Char)
  | variable (name : String)
  deriving DecidableEq

/-- A variable and its value. -/
structure Definition where
  name : String
  value : List Piece
  deriving DecidableEq

/-! ## Values -/

/-- Where the reading of a value stands: outside quotes, in quotes of either kind, after a
backslash, in the name of a variable, after the value, or in a comment. Names are kept backwards. -/
inductive Mode
  | bare
  | single
  | double
  | escaped (quoted : Bool)
  | name (quoted : Bool) (letters : List Char)
  | braced (quoted : Bool) (letters : List Char)
  | after
  | comment
  deriving DecidableEq

namespace Mode

def around (quoted : Bool) : Mode := if quoted then .double else .bare

/-- The variable of a name that was kept backwards. -/
def reference (letters : List Char) : Piece := .variable (String.ofList letters.reverse)

/-- The character for which a backslash and this character stand. -/
def escape? (c : Char) : Option Char :=
  if c = '\\' || c = '\'' || c = '"' || c = '$' || c = ' ' then some c
  else if c = 'n' then some '\n'
  else none

/-- Reading one character: where the reading stands then, and what the value gains. The character
after a name without braces is taken as it is, even if it is a quote. -/
def next? : Mode → Char → Option (Mode × List Piece)
  | .bare, c =>
    if c = '$' then some (.name false [], [])
    else if c = '\'' then some (.single, [])
    else if c = '"' then some (.double, [])
    else if c = '\\' then some (.escaped false, [])
    else if c = ' ' || c = '\t' then some (.after, [])
    else some (.bare, [.char c])
  | .single, c => if c = '\'' then some (.bare, []) else some (.single, [.char c])
  | .double, c =>
    if c = '$' then some (.name true [], [])
    else if c = '"' then some (.bare, [])
    else if c = '\\' then some (.escaped true, [])
    else some (.double, [.char c])
  | .escaped quoted, c => (escape? c).map fun c => (around quoted, [.char c])
  | .name quoted letters, c =>
    if Text.isAlphanumeric c then some (.name quoted (c :: letters), [])
    else if c = '\x7b' && letters.isEmpty then some (.braced quoted [], [])
    else if c = '$' then some (.name quoted [], [reference letters])
    else some (around quoted, [reference letters, .char c])
  | .braced quoted letters, c =>
    if c = '\x7d' then some (around quoted, [reference letters])
    else some (.braced quoted (c :: letters), [])
  | .after, c =>
    if c = ' ' || c = '\t' then some (.after, [])
    else if c = '#' then some (.comment, [])
    else none
  | .comment, _ => some (.comment, [])

/-- What the value gains at its end, where neither quotes nor braces may be open. -/
def last? : Mode → Option (List Piece)
  | .bare => some []
  | .single => none
  | .double => none
  | .escaped quoted => if quoted then none else some []
  | .name quoted letters => if quoted then none else some [reference letters]
  | .braced _ _ => none
  | .after => some []
  | .comment => some []

end Mode

def value? : Mode → List Char → Option (List Piece)
  | mode, [] => mode.last?
  | mode, c :: rest => do
    let (next, gained) ← mode.next? c
    let pieces ← value? next rest
    return gained ++ pieces

/-! ## Lines -/

def isNameChar (c : Char) : Bool := c.isAlphanum || c = '_' || c = '.'

/-- A name at the beginning of a text, what follows it, and the blanks between them left out. -/
def name? (cs : List Char) : Option (String × List Char) :=
  match cs.head? with
  | some c =>
    if c.isAlpha || c = '_' then
      some (String.ofList (cs.takeWhile isNameChar),
        (cs.dropWhile isNameChar).dropWhile Text.isBlank)
    else none
  | none => none

def afterEquals? : List Char → Option (List Char)
  | '=' :: rest => some rest
  | _ => none

/-- A name and what follows the sign `=`. The word `export` may come before the name. -/
def defined? (cs : List Char) : Option (String × List Char) := do
  let (name, rest) ← name? cs
  match afterEquals? rest with
  | some value => return (name, value)
  | none =>
    if name = "export" then
      let (name, rest) ← name? rest
      return (name, ← afterEquals? rest)
    else none

def isIdle (cs : List Char) : Bool := cs.isEmpty || cs.head? = some '#'

/-- The definition in a line, if the line is not idle. The outer answer is missing for a line that
is neither. -/
def definition? (line : List Char) : Option (Option Definition) := do
  let cs := Text.trimChars line
  if isIdle cs then return none
  let (name, rest) ← defined? cs
  let value := rest.dropWhile Text.isBlank
  if isIdle value then return some ⟨name, []⟩
  return some ⟨name, ← value? .bare value⟩

/-- The definitions in a text, in order; a byte order mark may come first. -/
def parse? (text : String) : Option (List Definition) := do
  let cs := match text.toList with
    | '\uFEFF' :: rest => rest
    | cs => cs
  let lines ← lines? cs
  return (← lines.mapM definition?).filterMap id

end DesiredState.EnvFile
