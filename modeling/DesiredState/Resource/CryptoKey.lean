import DesiredState.Resource.Rules
import DesiredState.Text.Affix

/-!
# Encryption keys

Keys are left in place when they are deleted, unless their policy says otherwise.

Contents:

* `CryptoKey.Usage`, `CryptoKey.Material`: what a key is for and what it is made of.
* `CryptoKey.Desired`, `CryptoKey.Attributes`, `CryptoKey.Observed`, `CryptoKey.Change`: its sides.
* `CryptoKey.rules`: how they hang together.
-/

namespace DesiredState.CryptoKey

/-! ## The sides of a key -/

/-- What a key is for. -/
inductive Usage
  | encryptDecrypt
  | signVerify
  deriving DecidableEq

def Usage.all : List Usage := [.encryptDecrypt, .signVerify]

def Usage.label : Usage → String
  | .encryptDecrypt => "ENCRYPT_DECRYPT"
  | .signVerify => "SIGN_VERIFY"

/-- What a key is made of. -/
inductive Material
  | symmetricDefault
  | rsa2048
  | rsa4096
  | eccNistP256
  deriving DecidableEq

def Material.all : List Material := [.symmetricDefault, .rsa2048, .rsa4096, .eccNistP256]

def Material.label : Material → String
  | .symmetricDefault => "SYMMETRIC_DEFAULT"
  | .rsa2048 => "RSA_2048"
  | .rsa4096 => "RSA_4096"
  | .eccNistP256 => "ECC_NIST_P256"

def Material.isSymmetric : Material → Bool
  | .symmetricDefault => true
  | _ => false

/-- What can be desired of a key. -/
structure Desired where
  description : String
  usage : Usage
  material : Material
  enabled : Option Bool
  enableRotation : Bool
  pendingWindowInDays : Option UInt32
  deriving DecidableEq

/-- What is reported of a key. -/
structure Attributes where
  arn : String
  description : String
  material : Material
  enabled : Bool
  rotationEnabled : Bool
  deriving DecidableEq

/-- What is copied from a hosted key. -/
structure Observed where
  arn : String
  state : String
  deriving DecidableEq

/-- One change of a hosted key. -/
inductive Change
  | description (value : String)
  | enabled (value : Bool)
  | rotation (value : Bool)
  deriving DecidableEq

/-! ## Documents -/

def Usage.form : Form Usage := .choice Usage.label Usage.all

def Material.form : Form Material := .choice Material.label Material.all

def Desired.layout : Layout Desired Desired :=
  Desired.mk <$> .defaulted "description" Desired.description Form.text ""
    <*> .defaulted "key_usage" Desired.usage Usage.form .encryptDecrypt
    <*> .defaulted "key_spec" Desired.material Material.form .symmetricDefault
    <*> .optional "enabled" Desired.enabled Form.flag
    <*> .defaulted "enable_key_rotation" Desired.enableRotation Form.flag false
    <*> .optional "pending_window_in_days" Desired.pendingWindowInDays Form.word32

def Observed.layout : Layout Observed Observed :=
  Observed.mk <$> .unlessEmptyText "arn" Observed.arn
    <*> .unlessEmptyText "key_state" Observed.state

def hostedLayout : Layout (Hosted Attributes) (Hosted Attributes) :=
  (fun id name arn description material enabled rotation tags =>
      ⟨id, name, tags, ⟨arn, description, material, enabled, rotation⟩⟩)
    <$> .required "key_id" Hosted.identifier Form.text
    <*> .required "alias" Hosted.name Form.text
    <*> .required "arn" (·.attributes.arn) Form.text
    <*> .required "description" (·.attributes.description) Form.text
    <*> .required "key_spec" (·.attributes.material) Material.form
    <*> .required "enabled" (·.attributes.enabled) Form.flag
    <*> .required "rotation_enabled" (·.attributes.rotationEnabled) Form.flag
    <*> .required "tags" Hosted.tags Form.tags

/-! ## Rules -/

/-- Days before a deletion is final, unless desired otherwise. -/
def defaultPendingWindow : UInt32 := 30

def aliasStem : String := "alias/"

/-- A name without blanks around it; a name that holds anything begins with `aliasStem`. -/
def normalizeName (name : String) : String :=
  let trimmed := Text.trim name
  if !trimmed.isEmpty && !Text.startsWith aliasStem trimmed then aliasStem ++ trimmed else trimmed

/-- Fills in that the key can be used, and the pending window. -/
def fill (d : Desired) : Desired :=
  { d with
    enabled := some (d.enabled.getD true)
    pendingWindowInDays := some (d.pendingWindowInDays.getD defaultPendingWindow) }

/-- There is a name, the window lasts 7 to 30 days, and material, rotation and usage agree. -/
def validate (name : String) (d : Desired) : Check := do
  Check.needed "alias" name
  Check.withinIfSet "pending_window_in_days" 7 30 d.pendingWindowInDays
  Check.refuseIf (d.enableRotation && !d.material.isSymmetric) "enable_key_rotation"
    "rotation is only supported for symmetric keys"
  Check.refuseIf (d.usage = .signVerify && d.material.isSymmetric) "key_usage"
    "symmetric keys cannot sign"

/-- Description and use can be changed, and the rotation of symmetric keys. -/
def diff (d : Desired) (a : Attributes) : List Change :=
  (if d.description = a.description then [] else [.description d.description])
    ++ ((d.enabled.filter (· != a.enabled)).map Change.enabled).toList
    ++ (if d.material.isSymmetric && d.enableRotation != a.rotationEnabled then
        [.rotation d.enableRotation]
      else [])

/-- Rotation is switched on after creation. -/
def postCreate (d : Desired) : List Change :=
  if d.enableRotation then [.rotation true] else []

/-- The attributes of a new key: it does not rotate. -/
def materialize (identifier : String) (d : Desired) : Attributes where
  arn := "arn:sim:key:" ++ identifier
  description := d.description
  material := d.material
  enabled := d.enabled.getD true
  rotationEnabled := false

def apply : Change → Attributes → Attributes
  | .description v, a => { a with description := v }
  | .enabled v, a => { a with enabled := v }
  | .rotation v, a => { a with rotationEnabled := v }

/-- The state of a key that can be used. -/
def enabledState : String := "Enabled"

def stateText (enabled : Bool) : String :=
  if enabled then enabledState else "Disabled"

def Change.text : Change → String
  | .description v => "Description(" ++ Text.quote v ++ ")"
  | .enabled v => "Enabled(" ++ Text.flagText v ++ ")"
  | .rotation v => "Rotation(" ++ Text.flagText v ++ ")"

def rules : Rules Desired Attributes Observed Change where
  label := "key"
  idStem := "key"
  defaultPolicy := .retain
  nameField := "alias"
  desiredLayout := Desired.layout
  observedLayout := Observed.layout
  hostedLayout := hostedLayout
  normalizeName := normalizeName
  fill := fill
  validate := validate
  observe _ a := ⟨a.arn, stateText a.enabled⟩
  unobserved := ⟨"", ""⟩
  diff := diff
  postCreate := postCreate
  materialize _ identifier _ d := materialize identifier d
  apply := apply
  isReady _ _ o := o.state = enabledState
  changeText := Change.text

end DesiredState.CryptoKey
