import DesiredState.Host.Simulator

/-!
# Providers

A simulated host for each kind of resources, all of them numbering their resources together, and
copies of what they host.

Contents:

* `Provider`: the hosts.
* `Provider.simulator`, `Provider.withSimulator`: one of the hosts.
* `Snapshot`: a copy of what is hosted.
* `Provider.snapshot`, `Provider.ofSnapshot`: from the hosts to the copy and back.
-/

namespace DesiredState

/-- A host for each kind, and the numbers of the next identifiers. -/
structure Provider where
  serial : Numbering
  host : (k : Kind) → Host k

namespace Provider

def setHost (p : Provider) {k : Kind} (h : Host k) : Provider :=
  { p with host := fun k' => if e : k = k' then e ▸ h else p.host k' }

/-- The host of a kind as a simulator of its own. -/
def simulator (p : Provider) (k : Kind) : Simulator k := ⟨p.host k, p.serial⟩

/-- The hosts after a simulator of one kind went on by itself. -/
def withSimulator (p : Provider) {k : Kind} (s : Simulator k) : Provider :=
  { p.setHost s.toHost with serial := s.serial }

theorem host_setHost (p : Provider) {k : Kind} (h : Host k) : (p.setHost h).host k = h := by
  simp [setHost]

theorem host_setHost_of_ne (p : Provider) {k k' : Kind} (h : Host k) (hk : k ≠ k') :
    (p.setHost h).host k' = p.host k' := by
  simp [setHost, hk]

end Provider

/-! ## Snapshots -/

/-- The resources hosted of each kind. -/
structure Snapshot where
  hosted : (k : Kind) → List (HostedOf k)

namespace Snapshot

def empty : Snapshot := ⟨fun _ => []⟩

instance : Inhabited Snapshot := ⟨empty⟩

def size (s : Snapshot) : Nat := Kind.all.foldl (fun n k => n + (s.hosted k).length) 0

def isEmpty (s : Snapshot) : Bool := s.size == 0

def ofParts (queues : List (HostedOf .queue)) (servers : List (HostedOf .server))
    (databases : List (HostedOf .database)) (keys : List (HostedOf .cryptoKey))
    (zones : List (HostedOf .dnsZone)) (functions : List (HostedOf .cloudFunction))
    (tables : List (HostedOf .table)) : Snapshot where
  hosted
    | .queue => queues
    | .server => servers
    | .database => databases
    | .cryptoKey => keys
    | .dnsZone => zones
    | .cloudFunction => functions
    | .table => tables

def column (name : String) (k : Kind) : Layout Snapshot (List (HostedOf k)) :=
  .defaulted name (fun s => s.hosted k) (Form.listOf (Hosted.form k)) []

def layout : Layout Snapshot Snapshot :=
  ofParts <$> column "queues" .queue
    <*> column "instances" .server
    <*> column "db_instances" .database
    <*> column "keys" .cryptoKey
    <*> column "hosted_zones" .dnsZone
    <*> column "functions" .cloudFunction
    <*> column "tables" .table

def form : Form Snapshot := layout.record

end Snapshot

namespace Provider

def snapshot (p : Provider) : Snapshot := ⟨fun k => (p.host k).resources⟩

/-- Hosts with these resources, whose next identifier has this number. -/
def ofSnapshot (serial : Numbering) (s : Snapshot) : Provider :=
  ⟨serial, fun k => Host.ofResources (s.hosted k)⟩

instance : Inhabited Provider := ⟨ofSnapshot 1 .empty⟩

end Provider

end DesiredState
