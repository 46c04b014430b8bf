import DesiredState.Resource.Rules

/-!
# Tables

Key-value tables. Continuous backups are switched on after creation; a failure of that step does
not fail the sync.

Contents:

* `Table.KeyAttribute`, `Table.BillingMode`, `Table.Throughput`: parts of a table.
* `Table.Desired`, `Table.Attributes`, `Table.Observed`, `Table.Change`: its four sides.
* `Table.rules`: how they hang together.
-/

namespace DesiredState.Table

/-! ## The sides of a table -/

/-- The types of key attributes: text, number, bytes. -/
inductive AttributeType
  | text
  | number
  | binary
  deriving DecidableEq

def AttributeType.all : List AttributeType := [.text, .number, .binary]

def AttributeType.label : AttributeType → String
  | .text => "S"
  | .number => "N"
  | .binary => "B"

/-- A part of a table's key. -/
structure KeyAttribute where
  name : String
  type : AttributeType
  deriving DecidableEq

/-- How the use of a table is charged. -/
inductive BillingMode
  | payPerRequest
  | provisioned
  deriving DecidableEq

def BillingMode.all : List BillingMode := [.payPerRequest, .provisioned]

def BillingMode.label : BillingMode → String
  | .payPerRequest => "PAY_PER_REQUEST"
  | .provisioned => "PROVISIONED"

def BillingMode.text : BillingMode → String
  | .payPerRequest => "PayPerRequest"
  | .provisioned => "Provisioned"

/-- Capacity that is paid for in advance. -/
structure Throughput where
  readCapacity : UInt64
  writeCapacity : UInt64
  deriving DecidableEq

/-- What can be desired of a table. -/
structure Desired where
  hashKey : KeyAttribute
  rangeKey : Option KeyAttribute
  billingMode : Option BillingMode
  throughput : Option Throughput
  pointInTimeRecovery : Bool
  streamEnabled : Bool
  streamViewType : Option String
  deriving DecidableEq

/-- What is reported of a table. -/
structure Attributes where
  billingMode : BillingMode
  throughput : Option Throughput
  pointInTimeRecovery : Bool
  status : String
  itemCount : UInt64
  deriving DecidableEq

/-- What is copied from a hosted table. -/
structure Observed where
  arn : String
  status : String
  itemCount : UInt64
  deriving DecidableEq

/-- One change of a hosted table. -/
inductive Change
  | billing (mode : BillingMode) (throughput : Option Throughput)
  | pointInTimeRecovery (value : Bool)
  deriving DecidableEq

/-! ## Documents -/

def AttributeType.form : Form AttributeType := .choice AttributeType.label AttributeType.all

def KeyAttribute.form : Form KeyAttribute := Layout.record <|
  KeyAttribute.mk <$> .required "name" KeyAttribute.name Form.text
    <*> .required "type" KeyAttribute.type AttributeType.form

def BillingMode.form : Form BillingMode := .choice BillingMode.label BillingMode.all

def Throughput.form : Form Throughput := Layout.record <|
  Throughput.mk <$> .required "read_capacity" Throughput.readCapacity Form.word64
    <*> .required "write_capacity" Throughput.writeCapacity Form.word64

def Desired.layout : Layout Desired Desired :=
  Desired.mk <$> .required "hash_key" Desired.hashKey KeyAttribute.form
    <*> .optional "range_key" Desired.rangeKey KeyAttribute.form
    <*> .optional "billing_mode" Desired.billingMode BillingMode.form
    <*> .optional "throughput" Desired.throughput Throughput.form
    <*> .defaulted "point_in_time_recovery" Desired.pointInTimeRecovery Form.flag false
    <*> .defaulted "stream_enabled" Desired.streamEnabled Form.flag false
    <*> .optional "stream_view_type" Desired.streamViewType Form.text

def Observed.layout : Layout Observed Observed :=
  Observed.mk <$> .unlessEmptyText "arn" Observed.arn
    <*> .unlessEmptyText "status" Observed.status
    <*> .defaulted "item_count" Observed.itemCount Form.word64 0

def hostedLayout : Layout (Hosted Attributes) (Hosted Attributes) :=
  (fun arn name mode throughput recovery status itemCount tags =>
      ⟨arn, name, tags, ⟨mode, throughput, recovery, status, itemCount⟩⟩)
    <$> .required "arn" Hosted.identifier Form.text
    <*> .required "name" Hosted.name Form.text
    <*> .required "billing_mode" (·.attributes.billingMode) BillingMode.form
    <*> .nullable "throughput" (·.attributes.throughput) Throughput.form
    <*> .required "point_in_time_recovery" (·.attributes.pointInTimeRecovery) Form.flag
    <*> .required "status" (·.attributes.status) Form.text
    <*> .required "item_count" (·.attributes.itemCount) Form.word64
    <*> .required "tags" Hosted.tags Form.tags

/-! ## Rules -/

/-- The status of a table that can be used. -/
def activeStatus : String := "ACTIVE"

/-- What a stream of changes carries, unless desired otherwise. -/
def defaultStreamView : String := "NEW_AND_OLD_IMAGES"

/-- A table with a text key, and nothing else desired. -/
def Desired.ofKey (hashKey : String) : Desired :=
  ⟨⟨hashKey, .text⟩, none, none, none, false, false, none⟩

/-- The desired mode; on demand, unless desired otherwise. -/
def Desired.billing (d : Desired) : BillingMode := d.billingMode.getD .payPerRequest

/-- Fills in the mode, and what an enabled stream carries. -/
def fill (d : Desired) : Desired :=
  { d with
    billingMode := some d.billing
    streamViewType :=
      if d.streamEnabled then some (d.streamViewType.getD defaultStreamView)
      else d.streamViewType }

/-- Exactly the tables with provisioned capacity name one, and it is positive. -/
def validateCapacity (mode : BillingMode) (throughput : Option Throughput) : Check :=
  match mode, throughput with
  | .provisioned, none =>
    Check.refuse "throughput" "provisioned billing requires read and write capacity"
  | .provisioned, some t =>
    Check.refuseIf (t.readCapacity == 0 || t.writeCapacity == 0) "throughput"
      "capacity units must be positive"
  | .payPerRequest, some _ =>
    Check.refuse "throughput" "on-demand tables take no provisioned capacity"
  | .payPerRequest, none => .ok ()

/-- There are names for the table and its keys, and mode and capacity agree. -/
def validate (name : String) (d : Desired) : Check := do
  Check.needed "name" name
  Check.needed "hash_key.name" d.hashKey.name
  match d.rangeKey with
  | some key => Check.needed "range_key.name" key.name
  | none => .ok ()
  validateCapacity d.billing d.throughput

/-- Mode and capacity are changed together, backups on their own. -/
def diff (d : Desired) (a : Attributes) : List Change :=
  (if d.billing = a.billingMode ∧ d.throughput = a.throughput then []
    else [.billing d.billing d.throughput])
    ++ (if d.pointInTimeRecovery = a.pointInTimeRecovery then []
      else [.pointInTimeRecovery d.pointInTimeRecovery])

/-- Continuous backups are switched on after creation. -/
def postCreate (d : Desired) : List Change :=
  if d.pointInTimeRecovery then [.pointInTimeRecovery true] else []

/-- Continuous backups may fail. -/
def isBestEffort : Change → Bool
  | .pointInTimeRecovery _ => true
  | .billing _ _ => false

/-- The attributes of a new table: it is empty and has no continuous backups. -/
def materialize (d : Desired) : Attributes where
  billingMode := d.billing
  throughput := d.throughput
  pointInTimeRecovery := false
  status := activeStatus
  itemCount := 0

def apply : Change → Attributes → Attributes
  | .billing mode throughput, a => { a with billingMode := mode, throughput := throughput }
  | .pointInTimeRecovery v, a => { a with pointInTimeRecovery := v }

def Throughput.text (t : Throughput) : String :=
  Text.recordText "Throughput" [("read_capacity", toString t.readCapacity.toNat),
    ("write_capacity", toString t.writeCapacity.toNat)]

def Change.text : Change → String
  | .billing mode throughput => Text.recordText "Billing" [("mode", mode.text),
      ("throughput", Text.optionText (throughput.map Throughput.text))]
  | .pointInTimeRecovery v => "PointInTimeRecovery(" ++ Text.flagText v ++ ")"

def rules : Rules Desired Attributes Observed Change where
  label := "table"
  idStem := "table"
  allowedPolicies := [.delete, .retain, .orphan, .snapshot]
  desiredLayout := Desired.layout
  observedLayout := Observed.layout
  hostedLayout := hostedLayout
  normalizeName := Text.trim
  fill := fill
  validate := validate
  observe identifier a := ⟨identifier, a.status, a.itemCount⟩
  unobserved := ⟨"", "", 0⟩
  diff := diff
  postCreate := postCreate
  isBestEffort := isBestEffort
  materialize _ _ _ d := materialize d
  apply := apply
  isReady _ _ o := o.status = activeStatus
  changeText := Change.text

end DesiredState.Table
