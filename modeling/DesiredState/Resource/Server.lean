import DesiredState.Resource.Rules

/-!
# Servers

Compute instances. A server is the one kind that can be stopped instead of being deleted.

Contents:

* `Server.Status`: the stages of a server's life.
* `Server.Desired`, `Server.Attributes`, `Server.Observed`, `Server.Change`: its four sides.
* `Server.rules`: how they hang together.
-/

namespace DesiredState.Server

/-! ## The sides of a server -/

/-- The stages of a server's life. -/
inductive Status
  | pending
  | running
  | stopping
  | stopped
  | shuttingDown
  | terminated
  deriving DecidableEq

def Status.all : List Status := [.pending, .running, .stopping, .stopped, .shuttingDown, .terminated]

def Status.label : Status → String
  | .pending => "pending"
  | .running => "running"
  | .stopping => "stopping"
  | .stopped => "stopped"
  | .shuttingDown => "shutting_down"
  | .terminated => "terminated"

def Status.text : Status → String
  | .shuttingDown => "shutting-down"
  | s => s.label

/-- The disk that a server starts from. -/
structure RootVolume where
  sizeGb : UInt32
  volumeType : Option String
  deriving DecidableEq

/-- What can be desired of a server. -/
structure Desired where
  instanceType : String
  imageId : String
  subnetId : Option String
  keyName : Option String
  monitoring : Bool
  rootVolume : Option RootVolume
  deriving DecidableEq

/-- What is reported of a server. -/
structure Attributes where
  instanceType : String
  imageId : String
  monitoring : Bool
  status : Status
  privateIp : Option String
  launchTime : Option Instant
  deriving DecidableEq

/-- What is copied from a hosted server. -/
structure Observed where
  status : Status
  privateIp : Option String
  launchTime : Option Instant
  deriving DecidableEq

/-- One change of a hosted server. -/
inductive Change
  | instanceType (value : String)
  | monitoring (value : Bool)
  deriving DecidableEq

/-! ## Documents -/

def Status.form : Form Status := .choice Status.label Status.all

def RootVolume.form : Form RootVolume := Layout.record <|
  RootVolume.mk <$> .required "size_gb" RootVolume.sizeGb Form.word32
    <*> .optional "volume_type" RootVolume.volumeType Form.text

def Desired.layout : Layout Desired Desired :=
  Desired.mk <$> .required "instance_type" Desired.instanceType Form.text
    <*> .required "image_id" Desired.imageId Form.text
    <*> .optional "subnet_id" Desired.subnetId Form.text
    <*> .optional "key_name" Desired.keyName Form.text
    <*> .defaulted "monitoring" Desired.monitoring Form.flag false
    <*> .optional "root_volume" Desired.rootVolume RootVolume.form

def Observed.layout : Layout Observed Observed :=
  Observed.mk <$> .defaulted "status" Observed.status Status.form .pending
    <*> .optional "private_ip" Observed.privateIp Form.text
    <*> .optional "launch_time" Observed.launchTime Form.instant

def hostedLayout : Layout (Hosted Attributes) (Hosted Attributes) :=
  (fun id name instanceType imageId monitoring status privateIp tags launchTime =>
      ⟨id, name, tags, ⟨instanceType, imageId, monitoring, status, privateIp, launchTime⟩⟩)
    <$> .required "instance_id" Hosted.identifier Form.text
    <*> .required "name" Hosted.name Form.text
    <*> .required "instance_type" (·.attributes.instanceType) Form.text
    <*> .required "image_id" (·.attributes.imageId) Form.text
    <*> .required "monitoring" (·.attributes.monitoring) Form.flag
    <*> .required "status" (·.attributes.status) Status.form
    <*> .nullable "private_ip" (·.attributes.privateIp) Form.text
    <*> .required "tags" Hosted.tags Form.tags
    <*> .nullable "launch_time" (·.attributes.launchTime) Form.instant

/-! ## Rules -/

def defaultVolumeType : String := "gp3"

def firstAddress : String := "10.0.0.10"

/-- A server of some type from some image, and nothing else desired. -/
def Desired.ofImage (instanceType imageId : String) : Desired :=
  ⟨instanceType, imageId, none, none, false, none⟩

def fill (d : Desired) : Desired :=
  { d with rootVolume := d.rootVolume.map fun v =>
      { v with volumeType := some (v.volumeType.getD defaultVolumeType) } }

/-- There are a name, a type and an image, and the disk has a size. -/
def validate (name : String) (d : Desired) : Check := do
  Check.needed "name" name
  Check.needed "instance_type" d.instanceType
  Check.needed "image_id" d.imageId
  Check.refuseIf (d.rootVolume.any (·.sizeGb == 0)) "root_volume.size_gb"
    "root volume size must be positive"

/-- Type and monitoring can be changed. -/
def diff (d : Desired) (a : Attributes) : List Change :=
  (if d.instanceType = a.instanceType then [] else [.instanceType d.instanceType])
    ++ (if d.monitoring = a.monitoring then [] else [.monitoring d.monitoring])

def materialize (now : Instant) (d : Desired) : Attributes where
  instanceType := d.instanceType
  imageId := d.imageId
  monitoring := d.monitoring
  status := .running
  privateIp := some firstAddress
  launchTime := some now

def apply : Change → Attributes → Attributes
  | .instanceType v, a => { a with instanceType := v }
  | .monitoring v, a => { a with monitoring := v }

def Change.text : Change → String
  | .instanceType v => "InstanceType(" ++ Text.quote v ++ ")"
  | .monitoring v => "Monitoring(" ++ Text.flagText v ++ ")"

/-- The rules of servers; the name is taken as it is. -/
def rules : Rules Desired Attributes Observed Change where
  label := "instance"
  idStem := "i"
  allowedPolicies := [.delete, .retain, .orphan, .stop]
  desiredLayout := Desired.layout
  observedLayout := Observed.layout
  hostedLayout := hostedLayout
  normalizeName name := name
  fill := fill
  validate := validate
  observe _ a := ⟨a.status, a.privateIp, a.launchTime⟩
  unobserved := ⟨.pending, none, none⟩
  diff := diff
  materialize now _ _ d := materialize now d
  apply := apply
  stop a := some { a with status := .stopped }
  isReady _ _ o := o.status = .running
  isQuiesced o := o.status = .stopped
  changeText := Change.text

end DesiredState.Server
