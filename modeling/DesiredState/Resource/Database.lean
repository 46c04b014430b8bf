import DesiredState.Resource.Rules
import DesiredState.Text.Lowercase

/-!
# Databases

Managed relational databases. A final snapshot can be taken when one is deleted.

Contents:

* `Database.Engine`: the engines and their ports.
* `Database.Desired`, `Database.Attributes`, `Database.Observed`, `Database.Change`: the four sides.
* `Database.rules`: how they hang together.
-/

namespace DesiredState.Database

/-! ## The sides of a database -/

/-- The engines that can run a database. -/
inductive Engine
  | postgres
  | mysql
  | mariadb
  deriving DecidableEq

def Engine.all : List Engine := [.postgres, .mysql, .mariadb]

def Engine.label : Engine → String
  | .postgres => "postgres"
  | .mysql => "mysql"
  | .mariadb => "mariadb"

/-- The port that an engine listens on, unless desired otherwise. -/
def Engine.defaultPort : Engine → UInt16
  | .postgres => 5432
  | .mysql => 3306
  | .mariadb => 3306

/-- What can be desired of a database. -/
structure Desired where
  engine : Engine
  engineVersion : Option String
  instanceClass : String
  allocatedStorage : UInt32
  masterUsername : String
  masterPassword : String
  port : Option UInt16
  backupRetentionPeriod : Option UInt32
  multiAz : Bool
  deriving DecidableEq

/-- What is reported of a database. -/
structure Attributes where
  engine : Engine
  instanceClass : String
  allocatedStorage : UInt32
  backupRetentionPeriod : UInt32
  multiAz : Bool
  status : String
  endpoint : Option String
  deriving DecidableEq

/-- What is copied from a hosted database. -/
structure Observed where
  arn : String
  status : String
  endpoint : Option String
  deriving DecidableEq

/-- One change of a hosted database. -/
inductive Change
  | instanceClass (value : String)
  | allocatedStorage (value : UInt32)
  | backupRetentionPeriod (value : UInt32)
  | multiAz (value : Bool)
  deriving DecidableEq

/-! ## Documents -/

def Engine.form : Form Engine := .choice Engine.label Engine.all

/-- The desired fields; the password is never written. -/
def Desired.layout : Layout Desired Desired :=
  Desired.mk <$> .required "engine" Desired.engine Engine.form
    <*> .optional "engine_version" Desired.engineVersion Form.text
    <*> .required "instance_class" Desired.instanceClass Form.text
    <*> .required "allocated_storage" Desired.allocatedStorage Form.word32
    <*> .required "master_username" Desired.masterUsername Form.text
    <*> .unwritten "master_password" Form.text ""
    <*> .optional "port" Desired.port Form.word16
    <*> .optional "backup_retention_period" Desired.backupRetentionPeriod Form.word32
    <*> .defaulted "multi_az" Desired.multiAz Form.flag false

def Observed.layout : Layout Observed Observed :=
  Observed.mk <$> .unlessEmptyText "arn" Observed.arn
    <*> .unlessEmptyText "status" Observed.status
    <*> .optional "endpoint" Observed.endpoint Form.text

def hostedLayout : Layout (Hosted Attributes) (Hosted Attributes) :=
  (fun arn name engine instanceClass storage retention multiAz status endpoint tags =>
      ⟨arn, name, tags, ⟨engine, instanceClass, storage, retention, multiAz, status, endpoint⟩⟩)
    <$> .required "arn" Hosted.identifier Form.text
    <*> .required "name" Hosted.name Form.text
    <*> .required "engine" (·.attributes.engine) Engine.form
    <*> .required "instance_class" (·.attributes.instanceClass) Form.text
    <*> .required "allocated_storage" (·.attributes.allocatedStorage) Form.word32
    <*> .required "backup_retention_period" (·.attributes.backupRetentionPeriod) Form.word32
    <*> .required "multi_az" (·.attributes.multiAz) Form.flag
    <*> .required "status" (·.attributes.status) Form.text
    <*> .nullable "endpoint" (·.attributes.endpoint) Form.text
    <*> .required "tags" Hosted.tags Form.tags

/-! ## Rules -/

/-- Days that backups are kept, unless desired otherwise. -/
def defaultRetention : UInt32 := 7

/-- The least storage in gibibytes. -/
def leastStorage : UInt32 := 20

/-- The status of a database that can be used. -/
def availableStatus : String := "available"

def Desired.effectivePort (d : Desired) : UInt16 :=
  d.port.getD d.engine.defaultPort

def fill (d : Desired) : Desired :=
  { d with
    port := some d.effectivePort
    backupRetentionPeriod := some (d.backupRetentionPeriod.getD defaultRetention) }

/-- There are a name, a class and a user, enough storage, and at most 35 days of backups. -/
def validate (name : String) (d : Desired) : Check := do
  Check.needed "name" name
  Check.needed "instance_class" d.instanceClass
  Check.needed "master_username" d.masterUsername
  Check.refuseIf (d.allocatedStorage < leastStorage) "allocated_storage"
    ("allocated storage must be at least " ++ toString leastStorage.toNat ++ " GiB")
  Check.withinIfSet "backup_retention_period" 0 35 d.backupRetentionPeriod

/-- Class, storage, retention and standby can be changed. -/
def diff (d : Desired) (a : Attributes) : List Change :=
  (if d.instanceClass = a.instanceClass then [] else [.instanceClass d.instanceClass])
    ++ (if d.allocatedStorage = a.allocatedStorage then []
      else [.allocatedStorage d.allocatedStorage])
    ++ ((d.backupRetentionPeriod.filter (· != a.backupRetentionPeriod)).map
      Change.backupRetentionPeriod).toList
    ++ (if d.multiAz = a.multiAz then [] else [.multiAz d.multiAz])

def materialize (name : String) (d : Desired) : Attributes where
  engine := d.engine
  instanceClass := d.instanceClass
  allocatedStorage := d.allocatedStorage
  backupRetentionPeriod := d.backupRetentionPeriod.getD defaultRetention
  multiAz := d.multiAz
  status := availableStatus
  endpoint := some (name ++ ".db.internal:" ++ toString d.effectivePort.toNat)

def apply : Change → Attributes → Attributes
  | .instanceClass v, a => { a with instanceClass := v }
  | .allocatedStorage v, a => { a with allocatedStorage := v }
  | .backupRetentionPeriod v, a => { a with backupRetentionPeriod := v }
  | .multiAz v, a => { a with multiAz := v }

def Change.text : Change → String
  | .instanceClass v => "InstanceClass(" ++ Text.quote v ++ ")"
  | .allocatedStorage v => "AllocatedStorage(" ++ toString v.toNat ++ ")"
  | .backupRetentionPeriod v => "BackupRetentionPeriod(" ++ toString v.toNat ++ ")"
  | .multiAz v => "MultiAz(" ++ Text.flagText v ++ ")"

/-- The rules of databases; names are lower case. -/
def rules : Rules Desired Attributes Observed Change where
  label := "db_instance"
  idStem := "db"
  allowedPolicies := [.delete, .retain, .orphan, .snapshot]
  desiredLayout := Desired.layout
  observedLayout := Observed.layout
  hostedLayout := hostedLayout
  normalizeName name := Text.lowercase (Text.trim name)
  fill := fill
  validate := validate
  observe identifier a := ⟨identifier, a.status, a.endpoint⟩
  unobserved := ⟨"", "", none⟩
  diff := diff
  materialize _ _ name d := materialize name d
  apply := apply
  isReady _ _ o := o.status = availableStatus
  changeText := Change.text

end DesiredState.Database
