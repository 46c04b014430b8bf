/-!
# Tokens of YAML

Contents:

* `Token`: what a YAML text is made of, with the borders of its block collections made explicit.
-/

namespace DesiredState.Yaml

/-- What a YAML text is made of. Block collections begin with a token of their own and end with
`blockEnd`; an item begins with `item`, and the two sides of an entry with `key` and `value`. -/
inductive Token
  | version (major minor : Nat)
  | handle (name uri : String)
  | documentStart
  | documentEnd
  | blockList
  | blockRecord
  | blockEnd
  | listOpen
  | listClose
  | recordOpen
  | recordClose
  | item
  | comma
  | key
  | value
  | alias (name : String)
  | anchor (name : String)
  | tag (handle suffix : String)
  | scalar (plain : Bool) (text : String)
  | finish
  deriving DecidableEq

end DesiredState.Yaml
