import DesiredState.Files.Path
import DesiredState.View.Report

/-!
# Arguments

What a user may ask for on the command line. Arguments come in two levels: those before the verb and
those after it. What holds for every verb may stand at either level, and the later level counts.

Contents:

* `Verb`, `Switch`, `Setting`: the words of the command line.
* `Command`, `Request`: what a user asks for.
* `Ending`: why there is nothing to do.
* `Level`: what the arguments of one level give, and how they are read.
* `Request.ofArguments`: the request in arguments and environment.
-/

namespace DesiredState.CommandLine

/-! ## Words -/

/-- What is to be done. -/
inductive Verb
  | validate
  | sync
  | delete
  | view
  deriving DecidableEq

namespace Verb

def all : List Verb := [.validate, .sync, .delete, .view]

def label : Verb → String
  | .validate => "validate"
  | .sync => "sync"
  | .delete => "delete"
  | .view => "show"

/-- The verb of a word; there are no abbreviations. -/
def ofLabel? (word : String) : Option Verb := all.find? (·.label = word)

end Verb

/-- What is on or off. -/
inductive Switch
  | verbose
  | help
  | version
  | warnings
  | yes
  | continueOnError
  deriving DecidableEq

namespace Switch

def all : List Switch := [.verbose, .help, .version, .warnings, .yes, .continueOnError]

def name : Switch → String
  | .verbose => "verbose"
  | .help => "help"
  | .version => "version"
  | .warnings => "warnings"
  | .yes => "yes"
  | .continueOnError => "continue-on-error"

def letter? : Switch → Option Char
  | .verbose => some 'v'
  | .help => some 'h'
  | .version => some 'V'
  | .warnings => some 'w'
  | .yes => some 'y'
  | .continueOnError => none

/-- The switch exists after a verb, or before it. -/
def isOffered (verb? : Option Verb) : Switch → Bool
  | .verbose | .help | .version => true
  | .warnings => verb? = some .validate
  | .yes => verb? = some .delete
  | .continueOnError => verb? = some .sync || verb? = some .delete

def offered (verb? : Option Verb) : List Switch := all.filter (isOffered verb?)

end Switch

/-- What has a value. -/
inductive Setting
  | manifest
  | state
  | output
  | logFormat
  deriving DecidableEq

namespace Setting

def all : List Setting := [.manifest, .state, .output, .logFormat]

def name : Setting → String
  | .manifest => "manifest"
  | .state => "state"
  | .output => "output"
  | .logFormat => "log-format"

def letter? : Setting → Option Char
  | .manifest => some 'm'
  | .state => some 's'
  | .output => none
  | .logFormat => none

/-- The environment variable that counts where the setting is not given. -/
def variableName? : Setting → Option String
  | .manifest => some "INFRA_RECONCILE_MANIFEST"
  | .state => some "INFRA_RECONCILE_STATE"
  | .output => none
  | .logFormat => none

def format? (word : String) : Option OutputFormat :=
  if word = "text" then some .text else if word = "json" then some .json else none

/-- A value can be used: a path must not be empty, a format must exist. -/
def accepts (s : Setting) (value : String) : Bool :=
  match s with
  | .manifest | .state => !value.isEmpty
  | .output | .logFormat => (format? value).isSome

end Setting

/-! ## Requests -/

/-- A verb with what it may be told. -/
inductive Command
  | validate (warnings : Bool)
  | sync (continueOnError : Bool)
  | delete (yes continueOnError : Bool)
  | view
  deriving DecidableEq

/-- What a user asks for. How much is logged, and how, does not change what is done. -/
structure Request where
  command : Command
  manifest : Option Path
  state : Option Path
  output : OutputFormat
  verbose : Bool
  logFormat : OutputFormat
  deriving DecidableEq

/-- Why there is nothing to do: the arguments are refused, or ask for help or for the version. -/
inductive Ending
  | refused
  | help
  | version (verb? : Option Verb)
  deriving DecidableEq

/-! ## Levels -/

/-- What the arguments of one level give. -/
structure Level where
  switches : List Switch := []
  settings : List (Setting × String) := []

/-- A setting that was named last: its value may be missing yet, and is judged later. -/
abbrev Pending := Option (Setting × Option String)

namespace Level

def value? (given : Level) (s : Setting) : Option String := given.settings.lookup s

def set (given : Level) (s : Setting) (value : String) : Except Ending Level :=
  if (given.value? s).isSome || !s.accepts value then .error .refused
  else .ok { given with settings := (s, value) :: given.settings }

def turnOn (verb? : Option Verb) (given : Level) (s : Switch) : Except Ending Level :=
  if s = .help then .error .help
  else if s = .version then .error (.version verb?)
  else if s ∈ given.switches then .error .refused
  else .ok { given with switches := s :: given.switches }

def settle (given : Level) : Pending → Except Ending Level
  | none => .ok given
  | some (s, some value) => given.set s value
  | some (_, none) => .error .refused

/-- Names a setting whose value stands in the same argument or in the next one. -/
def assign (given : Level) (s : Setting) : Option String → Except Ending (Level × Pending)
  | some value => do return (← given.set s value, none)
  | none => .ok (given, some (s, none))

/-- Reads an argument of a name, and a value if the sign `=` follows the name. -/
def readName (verb? : Option Verb) (given : Level) (pending : Pending) (name : String)
    (value? : Option String) : Except Ending (Level × Pending) := do
  match (Switch.offered verb?).find? (·.name = name), Setting.all.find? (·.name = name) with
  | some s, _ =>
    if value?.isSome then .error .refused
    else return (← (← given.settle pending).turnOn verb? s, none)
  | none, some s => (← given.settle pending).assign s value?
  | none, none => .error .refused

/-- Reads an argument of letters; what follows the letter of a setting is its value. -/
def readLetters (verb? : Option Verb) (given : Level) (pending : Pending) :
    List Char → Except Ending (Level × Pending)
  | [] => .ok (given, pending)
  | c :: rest => do
    match (Switch.offered verb?).find? (·.letter? = some c),
        Setting.all.find? (·.letter? = some c) with
    | some s, _ => readLetters verb? (← (← given.settle pending).turnOn verb? s) none rest
    | none, some s =>
      (← given.settle pending).assign s (match rest with
        | [] => none
        | '=' :: value => some (String.ofList value)
        | value => some (String.ofList value))
    | none, none => .error .refused

/-- Reads an argument without dashes: the value of the setting that was named last. -/
def readPlain (given : Level) (pending : Pending) (word : String) :
    Except Ending (Level × Pending) :=
  match pending with
  | some (s, none) => .ok (given, some (s, some word))
  | _ => .error .refused

/-- The name and the value around the sign `=`. -/
def splitName (cs : List Char) : String × Option String :=
  let name := String.ofList (cs.takeWhile (· ≠ '='))
  match cs.dropWhile (· ≠ '=') with
  | [] => (name, none)
  | _ :: value => (name, some (String.ofList value))

def readArgument (verb? : Option Verb) (given : Level) (pending : Pending) (word : String) :
    Except Ending (Level × Pending) :=
  match word.toList with
  | '-' :: '-' :: cs => given.readName verb? pending (splitName cs).1 (splitName cs).2
  | '-' :: c :: cs => given.readLetters verb? pending (c :: cs)
  | _ => given.readPlain pending word

/-- The end of a level that a verb in the right place makes. -/
def verbAt? (verb? : Option Verb) (pending : Pending) (word : String) : Option Verb :=
  match verb?, pending with
  | some _, _ => none
  | none, some (_, none) => none
  | none, _ => Verb.ofLabel? word

def helpOn (words : List String) : Ending :=
  match words with
  | [] => .help
  | [word] => if (Verb.ofLabel? word).isSome || word = "help" then .help else .refused
  | _ => .refused

/-- Reads the arguments of a level up to the verb that ends it; nothing may follow two dashes. -/
def read (verb? : Option Verb) (given : Level) (pending : Pending) :
    List String → Except Ending (Level × Pending × Option (Verb × List String))
  | [] => .ok (given, pending, none)
  | word :: rest =>
    match verbAt? verb? pending word with
    | some verb => .ok (given, pending, some (verb, rest))
    | none => do
      if verb?.isNone && word = "help" && !pending.any (·.2.isNone) then .error (helpOn rest)
      else if word = "--" then
        if rest.isEmpty then return (given, pending, none) else .error .refused
      else
        let (given, pending) ← given.readArgument verb? pending word
        given.read verb? pending rest

/-- The level is complete: the last setting is judged, and what the environment gives in place of
settings. -/
def complete (environment : Setting → Option String) (given : Level) (pending : Pending) :
    Except Ending Level := do
  let given ← given.settle pending
  if Setting.all.all fun s =>
    (given.value? s).isSome || (environment s).all s.accepts
  then return given else .error .refused

end Level

/-! ## Reading requests -/

def Command.ofVerb (on : Switch → Bool) : Verb → Command
  | .validate => .validate (on .warnings)
  | .sync => .sync (on .continueOnError)
  | .delete => .delete (on .yes) (on .continueOnError)
  | .view => .view

/-- The request of two levels: a setting after the verb counts before one in front of it, and the
environment comes last. -/
def Request.ofLevels (environment : Setting → Option String) (outer inner : Level) (verb : Verb) :
    Request :=
  let on (s : Switch) : Bool := s ∈ inner.switches || s ∈ outer.switches
  let value? (s : Setting) : Option String :=
    inner.value? s <|> outer.value? s <|> environment s
  let format (s : Setting) : OutputFormat := ((value? s).bind Setting.format?).getD .text
  { command := .ofVerb on verb
    manifest := (value? .manifest).map Path.ofText
    state := (value? .state).map Path.ofText
    output := format .output
    verbose := on .verbose
    logFormat := format .logFormat }

def Request.ofArguments (environment : Setting → Option String) (arguments : List String) :
    Except Ending Request := do
  let (outer, outerPending, next) ← Level.read none {} none arguments
  match next with
  | none => .error .refused
  | some (verb, rest) =>
    let (inner, innerPending, _) ← Level.read (some verb) {} none rest
    let inner ← inner.complete environment innerPending
    let outer ← outer.complete environment outerPending
    return .ofLevels environment outer inner verb

end DesiredState.CommandLine
