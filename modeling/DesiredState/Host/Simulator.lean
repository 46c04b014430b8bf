import DesiredState.Host.Gateway
import DesiredState.Host.Numbering

/-!
# Simulated hosts

A host that keeps its resources in memory, writes down every request, and can be told to refuse the
next request of an operation. It answers at once: delays are left out.

Contents:

* `Call`: a request as it is written down.
* `Host`: resources, journal and faults of one kind.
* `Simulator`: a host and the numbers of its next identifiers.
* `Simulator.gateway`: the requests to a simulated host.
* `Simulator.mutate`, `Simulator.remove`: changes behind the back of whoever made the requests.
-/

namespace DesiredState

/-! ## The journal -/

/-- A request as it is written down. -/
inductive Call (k : Kind)
  | presence (key : String)
  | create (key : String)
  | get (key : String)
  | update (identifier : String) (change : k.Change)
  | delete (identifier : String) (finalSnapshotId : Option String)
  | stop (identifier : String)
  | tag (identifier : String) (tags : Tags)
  | untag (identifier : String) (keys : List String)
  deriving DecidableEq

def Call.operation {k : Kind} : Call k → Operation
  | .presence _ => .presence
  | .create _ => .create
  | .get _ => .get
  | .update _ _ => .update
  | .delete _ _ => .delete
  | .stop _ => .stop
  | .tag _ _ => .tag
  | .untag _ _ => .untag

/-! ## Hosts -/

/-- The resources of one kind by their identifiers, all calls in order, and at most one fault for
each operation. -/
structure Host (k : Kind) where
  hosted : Dict (HostedOf k)
  journal : List (Call k)
  faults : Operation → Option GatewayError

namespace Host

variable {k : Kind}

/-- The resources under their own identifiers; of two with one identifier the later one stays. -/
def ofResources (hs : List (HostedOf k)) : Host k :=
  ⟨.ofList (hs.map fun h => (h.identifier, h)), [], fun _ => none⟩

instance : Inhabited (Host k) := ⟨ofResources []⟩

/-- The identifier under which something is found: the key itself, or the identifier of the first
resource of that name. -/
def find? (hosted : Dict (HostedOf k)) (key : String) : Option String :=
  if hosted.contains key then some key
  else (hosted.findValue? fun h => h.name == key).map Hosted.identifier

/-- The resource found under an identifier or a name. -/
def current? (h : Host k) (key : String) : Option (HostedOf k) :=
  (find? h.hosted key).bind h.hosted.get?

def load (h : Host k) (hs : List (HostedOf k)) : Host k :=
  { h with hosted := (ofResources hs).hosted }

def resources (h : Host k) : List (HostedOf k) := h.hosted.values

/-- The next call of an operation will be refused. -/
def failNext (h : Host k) (op : Operation) (e : GatewayError) : Host k :=
  { h with faults := fun op' => if op' = op then some e else h.faults op' }

def mutatingCalls (h : Host k) : List (Call k) :=
  h.journal.filter fun c => c.operation.isMutating

def count (h : Host k) (op : Operation) : Nat :=
  h.journal.countP fun c => c.operation = op

def clearJournal (h : Host k) : Host k := { h with journal := [] }

/-- Takes a resource away, if one is found. -/
def remove (h : Host k) (key : String) : Option (HostedOf k) × Host k :=
  match find? h.hosted key with
  | none => (none, h)
  | some id => (h.hosted.get? id, { h with hosted := h.hosted.erase id })

def mutate (h : Host k) (key : String) (f : HostedOf k → HostedOf k) : Bool × Host k :=
  match find? h.hosted key with
  | none => (false, h)
  | some id =>
    match h.hosted.get? id with
    | none => (false, h)
    | some r => (true, { h with hosted := h.hosted.insert id (f r) })

end Host

/-! ## Requests -/

/-- A host and the numbers of the identifiers that it will make. -/
structure Simulator (k : Kind) extends Host k where
  serial : Numbering

def serialText (n : Nat) : String :=
  let ds := Nat.toDigits 16 n
  String.ofList (List.replicate (12 - ds.length) '0' ++ ds)

def Kind.identifier (k : Kind) (n : Nat) : String :=
  k.rules.idStem ++ "-" ++ serialText n

namespace Simulator

variable {k : Kind} {α : Type}

/-- Writes a call down, and refuses it if its operation is to fail; a fault is used up. -/
def enter (c : Call k) (act : Request (Simulator k) α) : Request (Simulator k) α := fun s =>
  let s := { s with journal := s.journal ++ [c] }
  match s.faults c.operation with
  | some e => (.error e, { s with faults := fun op => if op = c.operation then none else s.faults op })
  | none => act s

/-- Changes the resource with exactly this identifier. -/
def modifyHosted (identifier : String) (f : HostedOf k → Except GatewayError (HostedOf k)) :
    Request (Simulator k) Unit := fun s =>
  match s.hosted.get? identifier with
  | none => (.error (.notFound identifier), s)
  | some h =>
    match f h with
    | .error e => (.error e, s)
    | .ok h => (.ok (), { s with hosted := s.hosted.insert identifier h })

/-- Hosts a new resource unless its name is taken. -/
def host (now : Instant) (spec : Spec k) : Request (Simulator k) (Spec k) := fun s =>
  if (Host.find? s.hosted spec.name).isSome then
    (.error (.rejected (k.label ++ " '" ++ spec.name ++ "' already exists")), s)
  else
    let id := k.identifier s.serial.next
    let h := spec.materialize now id
    (.ok ((spec.withIdentifier id).observe h),
      { s with hosted := s.hosted.insert id h, serial := s.serial.succ })

/-- The requests to a simulated host. -/
def gateway (k : Kind) (now : Instant) : Gateway k (Simulator k) where
  presence key := enter (.presence key) fun s => (.ok (Host.find? s.hosted key).isSome, s)
  create spec := enter (.create spec.name) (host now spec)
  get key := enter (.get key) fun s =>
    match s.current? key with
    | some h => (.ok h, s)
    | none => (.error (.notFound key), s)
  update spec c := enter (.update spec.identifier c) <|
    modifyHosted spec.identifier fun h => .ok (h.apply c)
  delete spec snapshot := enter (.delete spec.identifier snapshot) fun s =>
    (.ok (), { s with hosted := s.hosted.erase spec.identifier })
  stop spec := enter (.stop spec.identifier) <|
    modifyHosted spec.identifier fun h =>
      match Hosted.stop h with
      | some h => .ok h
      | none => .error (.unsupported .stop)
  tag identifier tags := enter (.tag identifier tags) <|
    modifyHosted identifier fun h => .ok { h with tags := h.tags.overwrite tags }
  untag identifier keys := enter (.untag identifier keys) <|
    modifyHosted identifier fun h => .ok { h with tags := h.tags.eraseAll keys }

end Simulator

end DesiredState
