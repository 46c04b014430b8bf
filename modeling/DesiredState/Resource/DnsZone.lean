import DesiredState.Resource.Rules
import DesiredState.Text.Affix
import DesiredState.Text.Lowercase

/-!
# DNS zones

Zones of the domain name system, public or attached to one network.

Contents:

* `DnsZone.Desired`, `DnsZone.Attributes`, `DnsZone.Observed`, `DnsZone.Change`: its four sides.
* `DnsZone.rules`: how they hang together.
-/

namespace DesiredState.DnsZone

/-! ## The sides of a zone -/

/-- What can be desired of a zone. -/
structure Desired where
  privateZone : Bool
  vpcId : Option String
  vpcRegion : Option String
  comment : Option String
  deriving DecidableEq

/-- What is reported of a zone. -/
structure Attributes where
  privateZone : Bool
  comment : String
  nameServers : List String
  recordCount : UInt64
  deriving DecidableEq

/-- What is copied from a hosted zone. -/
structure Observed where
  nameServers : List String
  recordCount : UInt64
  deriving DecidableEq

/-- One change of a hosted zone. -/
inductive Change
  | comment (value : String)
  deriving DecidableEq

/-! ## Documents -/

def Desired.layout : Layout Desired Desired :=
  Desired.mk <$> .defaulted "private_zone" Desired.privateZone Form.flag false
    <*> .optional "vpc_id" Desired.vpcId Form.text
    <*> .optional "vpc_region" Desired.vpcRegion Form.text
    <*> .optional "comment" Desired.comment Form.text

def Observed.layout : Layout Observed Observed :=
  Observed.mk
    <$> .unlessEmpty "name_servers" Observed.nameServers (Form.listOf Form.text) List.isEmpty []
    <*> .defaulted "record_count" Observed.recordCount Form.word64 0

def hostedLayout : Layout (Hosted Attributes) (Hosted Attributes) :=
  (fun id name privateZone comment nameServers recordCount tags =>
      ⟨id, name, tags, ⟨privateZone, comment, nameServers, recordCount⟩⟩)
    <$> .required "zone_id" Hosted.identifier Form.text
    <*> .required "name" Hosted.name Form.text
    <*> .required "private_zone" (·.attributes.privateZone) Form.flag
    <*> .required "comment" (·.attributes.comment) Form.text
    <*> .required "name_servers" (·.attributes.nameServers) (Form.listOf Form.text)
    <*> .required "record_count" (·.attributes.recordCount) Form.word64
    <*> .required "tags" Hosted.tags Form.tags

/-! ## Rules -/

def defaultComment : String := "Managed by infra-reconcile"

/-- A name in lower case without blanks around it; a name that holds anything ends with a dot. -/
def normalizeName (name : String) : String :=
  let lower := Text.lowercase (Text.trim name)
  if !lower.isEmpty && !Text.endsWith "." lower then lower ++ "." else lower

def fill (d : Desired) : Desired :=
  { d with comment := some (d.comment.getD defaultComment) }

/-- There is a name, and exactly the private zones are attached to a network. -/
def validate (name : String) (d : Desired) : Check := do
  Check.needed "name" name
  if d.privateZone then
    Check.needed "vpc_id" (d.vpcId.getD "")
    Check.needed "vpc_region" (d.vpcRegion.getD "")
  else
    Check.refuseIf (d.vpcId.isSome || d.vpcRegion.isSome) "vpc_id"
      "public hosted zone cannot be attached to a network"

/-- Only the comment can be changed. -/
def diff (d : Desired) (a : Attributes) : List Change :=
  ((d.comment.filter (· != a.comment)).map Change.comment).toList

def publicNameServers : List String :=
  ["ns-1.dns.sim.", "ns-2.dns.sim.", "ns-3.dns.sim.", "ns-4.dns.sim."]

/-- The attributes of a new zone; it has two records from the start. -/
def materialize (d : Desired) : Attributes where
  privateZone := d.privateZone
  comment := d.comment.getD ""
  nameServers := if d.privateZone then [] else publicNameServers
  recordCount := 2

def apply : Change → Attributes → Attributes
  | .comment v, a => { a with comment := v }

def Change.text : Change → String
  | .comment v => "Comment(" ++ Text.quote v ++ ")"

def rules : Rules Desired Attributes Observed Change where
  label := "hosted_zone"
  idStem := "zone"
  desiredLayout := Desired.layout
  observedLayout := Observed.layout
  hostedLayout := hostedLayout
  normalizeName := normalizeName
  fill := fill
  validate := validate
  observe _ a := ⟨a.nameServers, a.recordCount⟩
  unobserved := ⟨[], 0⟩
  diff := diff
  materialize _ _ _ d := materialize d
  apply := apply
  isReady created d o := created && (d.privateZone || !o.nameServers.isEmpty)
  changeText := Change.text

end DesiredState.DnsZone
