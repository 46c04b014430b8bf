import DesiredState.Proofs.Host.Provider
import DesiredState.Proofs.Resource.Documents
import DesiredState.Record.Store

/-!
# The recorded state in its file

The text that is written for a recorded state is read back as that state, but for the passwords of
databases: the hosted resources, the history and all else that is recorded of a resource survive.

Contents:

* `Snapshot.lossless_form`, `HistoryEntry.lossless_form` — the parts.
* `RecordedState.kept` — what is kept of a state.
* `RecordedState.ofJson_json` — the whole file.
* `Resource.withoutPassword`, `form_read_write` — what is lost, and what the provider hosts afterwards.
-/

namespace DesiredState

open Form (Lossless)
open Layout (Returns)

namespace Snapshot

theorem returns_column (name : String) (k : Kind) :
    (column name k).Returns 3 fun s => s.hosted k :=
  .defaulted (Lossless.listOf (Hosted.lossless_form k))

theorem lossless_form : form.Lossless 4 := by
  refine Returns.record (.of_eq (Returns.map ofParts (returns_column _ .queue)
    |>.seq (returns_column _ .server)
    |>.seq (returns_column _ .database)
    |>.seq (returns_column _ .cryptoKey)
    |>.seq (returns_column _ .dnsZone)
    |>.seq (returns_column _ .cloudFunction)
    |>.seq (returns_column _ .table)) fun s => ?_) (by decide)
  exact congrArg Snapshot.mk (funext fun k => by cases k <;> rfl)

end Snapshot

theorem RunOperation.lossless_form {levels : Nat} : RunOperation.form.Lossless levels :=
  .choice fun operation => by cases operation <;> rfl

theorem HistoryEntry.lossless_form : HistoryEntry.layout.record.Lossless 3 :=
  Returns.record (.of_eq (Returns.map HistoryEntry.mk (.required .instant)
    |>.seq (.required RunOperation.lossless_form)
    |>.seq (.required (Lossless.listOf .text))
    |>.seq (.required .flag)
    |>.seq (.optional .text)) fun _ => rfl) (by decide)

namespace RecordedState

/-- What documents keep of a state. -/
def kept (s : RecordedState) : RecordedState := { s with resources := s.resources.map Resource.kept }

theorem returns_form : form.Returns 5 kept :=
  Returns.record (.of_eq (Returns.map RecordedState.mk (.required .text)
    |>.seq (.required .instant)
    |>.seq (.defaulted Snapshot.lossless_form)
    |>.seq (.defaulted (Resource.returns_form.upTo (by decide)).listOf)
    |>.seq (.defaulted (Lossless.listOf HistoryEntry.lossless_form))) fun _ => rfl) (by decide)

/-- A state of the current version is read back from its file. -/
theorem ofJson_json {s : RecordedState} (current : s.version = currentVersion) :
    ofJson s.json = .ok s.kept := by
  have version : s.kept.version = currentVersion := current
  rw [ofJson, json, Json.read_pretty (returns_form.plain s), Json.Text.decode,
    returns_form.read_write]
  exact if_pos version

end RecordedState

/-! ## What is lost -/

/-- The resource, without its password if it is a database. -/
def Resource.withoutPassword : Resource → Resource
  | ⟨.database, s⟩ => ⟨.database, { s with desired := { s.desired with masterPassword := "" } }⟩
  | r => r

theorem Resource.kept_eq (r : Resource) : r.kept = r.withoutPassword := by
  obtain ⟨k, s⟩ := r
  cases k <;> rfl

theorem RecordedState.kept_eq (s : RecordedState) :
    s.kept = { s with resources := s.resources.map Resource.withoutPassword } := by
  rw [kept, funext Resource.kept_eq]

/-- Documents and their text keep all of a state but the passwords of databases, and a provider that
is made of the documents of another one hosts the same. -/
theorem form_read_write (s : RecordedState) (current : s.version = RecordedState.currentVersion)
    (p : Provider)
    (keyed : ∀ k key h, (p.hosted k).get? key = some h → h.identifier = key) :
    let known := { s with resources := s.resources.map Resource.withoutPassword }
    RecordedState.form.read (RecordedState.form.write s) = .ok known ∧
      RecordedState.ofJson s.json = .ok known ∧
      ∃ copy, Snapshot.form.read (Snapshot.form.write p.snapshot) = .ok copy ∧
        ∀ serial k, (Provider.ofSnapshot serial copy).hosted k = p.hosted k := by
  intro known
  have same : s.kept = known := s.kept_eq
  refine ⟨same ▸ RecordedState.returns_form.read_write s,
    same ▸ RecordedState.ofJson_json current, p.snapshot, ?_, fun serial k => ?_⟩
  · exact Snapshot.lossless_form.read_write p.snapshot
  · exact Provider.hosted_ofSnapshot_of_keyed (keyed k) serial

namespace Sample

/-- A database, which has a password. -/
def orders : Spec .database :=
  .ofDesired .database "orders"
    ⟨.postgres, none, "db.t3.micro", 20, "admin", "secret", none, some 7, false⟩

def hostedOrders : HostedOf .database :=
  ⟨"db-1", "orders", .empty, ⟨.postgres, "db.t3.micro", 20, 7, false, "available", none⟩⟩

/-- The database is hosted, and nothing else. -/
def storage : Provider where
  serial := 2
  host
    | .database => ⟨Dict.empty.insert "db-1" hostedOrders, [], fun _ => none⟩
    | _ => default

/-- A zone and the database, after a run that failed. -/
def recorded : RecordedState where
  version := RecordedState.currentVersion
  lastUpdated := .epoch
  provider := storage.snapshot
  resources := [⟨.dnsZone, .ofDesired .dnsZone "example.com." ⟨false, none, none, some "main"⟩⟩,
    ⟨.database, orders.withIdentifier "db-1"⟩]
  history := [.ofRun .epoch .sync ["db_instance/orders"] (some "db_instance update failed")]

theorem consistent_storage (k : Kind) : Consistent (storage.hosted k) := by
  cases k with
  | database => exact Consistent.empty.insert (h := hostedOrders) (by decide)
  | _ => exact .empty

end Sample

/-- The password is lost, and the identifier, the history and the hosted database are not. -/
theorem form_read_write_recorded :
    Sample.orders.desired.masterPassword = "secret" ∧
      (∃ s, RecordedState.ofJson Sample.recorded.json = .ok s ∧
        s.history = Sample.recorded.history ∧ s.resources.map Resource.identifier = ["", "db-1"] ∧
        ⟨.database, { Sample.orders.withIdentifier "db-1" with
          desired := { Sample.orders.desired with masterPassword := "" } }⟩ ∈ s.resources) ∧
      ∃ copy, Snapshot.form.read (Snapshot.form.write Sample.storage.snapshot) = .ok copy ∧
        ((Provider.ofSnapshot 3 copy).hosted .database).get? "db-1" = some Sample.hostedOrders := by
  obtain ⟨-, known, copy, read, same⟩ := form_read_write Sample.recorded rfl Sample.storage
    fun k key h there => (Sample.consistent_storage k key h there).2
  refine ⟨rfl, ⟨_, known, rfl, rfl, List.mem_of_getElem? (i := 1) rfl⟩, copy, read, ?_⟩
  rw [same]
  exact Dict.get?_insert_self ..

end DesiredState
