import DesiredState.Digest.Sha256
import DesiredState.Resource.Rules

/-!
# Functions

Functions that run on demand. Their tags are exactly the desired ones, and a package is recognised
by the digest of its source.

Contents:

* `CloudFunction.Code`: where a package comes from, and its digest.
* `CloudFunction.Desired`, `CloudFunction.Attributes`, `CloudFunction.Observed`,
  `CloudFunction.Change`: the four sides of a function.
* `CloudFunction.rules`: how they hang together.
-/

namespace DesiredState.CloudFunction

/-! ## Packages -/

/-- Where a package comes from: an archive, an object in a store, or an image. -/
structure Code where
  zipFile : Option String
  s3Bucket : Option String
  s3Key : Option String
  imageUri : Option String
  deriving DecidableEq

def Code.isImage (c : Code) : Bool := c.imageUri.isSome

/-- The bytes that identify a package: its four parts, each followed by a zero byte. -/
def Code.sourceBytes (c : Code) : List UInt8 :=
  [c.zipFile, c.s3Bucket, c.s3Key, c.imageUri].flatMap fun part =>
    Sha256.utf8 (part.getD "") ++ [0]

def Code.sha256 (c : Code) : String := Sha256.digestHex c.sourceBytes

/-! ## The sides of a function -/

/-- What can be desired of a function. -/
structure Desired where
  runtime : String
  handler : Option String
  role : String
  code : Code
  timeout : Option UInt32
  memorySize : Option UInt32
  environment : Dict String
  deriving DecidableEq

/-- What is reported of a function. -/
structure Attributes where
  runtime : String
  handler : Option String
  timeout : UInt32
  memorySize : UInt32
  environment : Dict String
  codeSha256 : String
  state : String
  version : String
  deriving DecidableEq

/-- What is copied from a hosted function. -/
structure Observed where
  arn : String
  state : String
  codeSha256 : String
  version : String
  deriving DecidableEq

/-- One change of a hosted function. -/
inductive Change
  | code (value : Code)
  | timeout (value : UInt32)
  | memorySize (value : UInt32)
  | environment (value : Dict String)
  | handler (value : String)
  | runtime (value : String)
  deriving DecidableEq

/-! ## Documents -/

def Code.form : Form Code := Layout.record <|
  Code.mk <$> .optional "zip_file" Code.zipFile Form.text
    <*> .optional "s3_bucket" Code.s3Bucket Form.text
    <*> .optional "s3_key" Code.s3Key Form.text
    <*> .optional "image_uri" Code.imageUri Form.text

def Desired.layout : Layout Desired Desired :=
  Desired.mk <$> .defaulted "runtime" Desired.runtime Form.text ""
    <*> .optional "handler" Desired.handler Form.text
    <*> .required "role" Desired.role Form.text
    <*> .required "code" Desired.code Code.form
    <*> .optional "timeout" Desired.timeout Form.word32
    <*> .optional "memory_size" Desired.memorySize Form.word32
    <*> .unlessEmpty "environment" Desired.environment (Form.dictOf Form.text) Dict.isEmpty .empty

def Observed.layout : Layout Observed Observed :=
  Observed.mk <$> .unlessEmptyText "arn" Observed.arn
    <*> .unlessEmptyText "state" Observed.state
    <*> .unlessEmptyText "code_sha256" Observed.codeSha256
    <*> .unlessEmptyText "version" Observed.version

def hostedLayout : Layout (Hosted Attributes) (Hosted Attributes) :=
  (fun arn name runtime handler timeout memory environment sha state version tags =>
      ⟨arn, name, tags, ⟨runtime, handler, timeout, memory, environment, sha, state, version⟩⟩)
    <$> .required "arn" Hosted.identifier Form.text
    <*> .required "name" Hosted.name Form.text
    <*> .required "runtime" (·.attributes.runtime) Form.text
    <*> .nullable "handler" (·.attributes.handler) Form.text
    <*> .required "timeout" (·.attributes.timeout) Form.word32
    <*> .required "memory_size" (·.attributes.memorySize) Form.word32
    <*> .required "environment" (·.attributes.environment) (Form.dictOf Form.text)
    <*> .required "code_sha256" (·.attributes.codeSha256) Form.text
    <*> .required "state" (·.attributes.state) Form.text
    <*> .required "version" (·.attributes.version) Form.text
    <*> .required "tags" Hosted.tags Form.tags

/-! ## Rules -/

/-- Seconds that a function may run, unless desired otherwise. -/
def defaultTimeout : UInt32 := 3

/-- Memory in mebibytes, unless desired otherwise. -/
def defaultMemory : UInt32 := 128

/-- The state of a function that can be used. -/
def activeState : String := "Active"

def fill (d : Desired) : Desired :=
  { d with
    timeout := some (d.timeout.getD defaultTimeout)
    memorySize := some (d.memorySize.getD defaultMemory) }

def Code.sources (c : Code) : Nat :=
  [c.zipFile, c.s3Bucket, c.imageUri].countP Option.isSome

/-- A package has exactly one source, and an object in a store needs its key. -/
def Code.validate (c : Code) : Check := do
  Check.refuseIf (c.sources == 0) "code" "one of zip_file, s3_bucket or image_uri is required"
  Check.refuseIf (c.sources > 1) "code" "only one code source may be set"
  Check.refuseIf (c.s3Bucket.isSome && c.s3Key.isNone) "code.s3_key"
    "s3_key is required with s3_bucket"

/-- There are a name, a role and one package; what is no image needs a runtime and an entry point;
time and memory lie in their ranges. -/
def validate (name : String) (d : Desired) : Check := do
  Check.needed "name" name
  Check.needed "role" d.role
  d.code.validate
  if d.code.isImage then .ok ()
  else
    Check.needed "runtime" d.runtime
    Check.needed "handler" (d.handler.getD "")
  Check.withinIfSet "timeout" 1 900 d.timeout
  Check.withinIfSet "memory_size" 128 10240 d.memorySize

/-- The package is changed when its digest differs; an entry point or a runtime that is not desired
is left alone. -/
def diff (d : Desired) (a : Attributes) : List Change :=
  (if d.code.sha256 = a.codeSha256 then [] else [.code d.code])
    ++ ((d.timeout.filter (· != a.timeout)).map Change.timeout).toList
    ++ ((d.memorySize.filter (· != a.memorySize)).map Change.memorySize).toList
    ++ (if d.environment = a.environment then [] else [.environment d.environment])
    ++ ((d.handler.filter (some · != a.handler)).map Change.handler).toList
    ++ (if d.runtime.isEmpty || d.runtime = a.runtime then [] else [.runtime d.runtime])

def materialize (d : Desired) : Attributes where
  runtime := d.runtime
  handler := d.handler
  timeout := d.timeout.getD defaultTimeout
  memorySize := d.memorySize.getD defaultMemory
  environment := d.environment
  codeSha256 := d.code.sha256
  state := activeState
  version := "$LATEST"

def apply : Change → Attributes → Attributes
  | .code v, a => { a with codeSha256 := v.sha256 }
  | .timeout v, a => { a with timeout := v }
  | .memorySize v, a => { a with memorySize := v }
  | .environment v, a => { a with environment := v }
  | .handler v, a => { a with handler := some v }
  | .runtime v, a => { a with runtime := v }

def Code.text (c : Code) : String :=
  let part (p : Option String) : String := Text.optionText (p.map Text.quote)
  Text.recordText "FunctionCode" [("zip_file", part c.zipFile), ("s3_bucket", part c.s3Bucket),
    ("s3_key", part c.s3Key), ("image_uri", part c.imageUri)]

def Change.text : Change → String
  | .code v => "Code(" ++ v.text ++ ")"
  | .timeout v => "Timeout(" ++ toString v.toNat ++ ")"
  | .memorySize v => "MemorySize(" ++ toString v.toNat ++ ")"
  | .environment v => "Environment(" ++ Text.quoteDict v ++ ")"
  | .handler v => "Handler(" ++ Text.quote v ++ ")"
  | .runtime v => "Runtime(" ++ Text.quote v ++ ")"

/-- The rules of functions; tags that are not desired are removed. -/
def rules : Rules Desired Attributes Observed Change where
  label := "function"
  idStem := "fn"
  tagStrategy := .additiveWithRemoval
  desiredLayout := Desired.layout
  observedLayout := Observed.layout
  hostedLayout := hostedLayout
  normalizeName := Text.trim
  fill := fill
  validate := validate
  observe identifier a := ⟨identifier, a.state, a.codeSha256, a.version⟩
  unobserved := ⟨"", "", "", ""⟩
  diff := diff
  materialize _ _ _ d := materialize d
  apply := apply
  isReady _ _ o := o.state = activeState
  changeText := Change.text

end DesiredState.CloudFunction
