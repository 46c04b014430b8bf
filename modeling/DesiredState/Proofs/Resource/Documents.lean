import DesiredState.Proofs.Doc.Form
import DesiredState.Resource.Basic

/-!
# Resources in documents

A resource of any kind is read back from its document as it was written; a hosted resource too.  The
one exception is the password of a database, which is never written.

Contents:

* `Rules.DocumentLaws` — the layouts of a kind return what was written, and no two of its fields
  have one name.
* `Kind.kept`, `Kind.documentLaws` — what is kept of a specification, and the laws for all kinds.
* `Hosted.lossless_form`, `Resource.returns_form` — hosted resources and specifications.
-/

namespace DesiredState

open Form (Lossless)
open Layout (Returns)

theorem Meta.returns_layout : Meta.layout.Returns 2 id :=
  .of_eq (Returns.map Meta.mk .unlessEmptyText
    |>.seq (.defaulted .tags)
    |>.seq (.optional .text)
    |>.seq (.optional .text)
    |>.seq (.optional .instant)) fun _ => rfl

/-- The layouts of a kind return what was written, up to what is never written of a specification;
and the fields of one record have different names. -/
structure Rules.DocumentLaws {D A O C : Type} (r : Rules D A O C) (kept : D → D) : Prop where
  desired : r.desiredLayout.Returns 2 kept
  observed : r.observedLayout.Returns 1 id
  hosted : r.hostedLayout.Returns 1 id
  distinct : (r.nameField :: r.desiredLayout.names ++ ["observed"] ++ Meta.layout.names ++
    ["kind"]).Nodup
  distinct_observed : r.observedLayout.names.Nodup
  distinct_hosted : r.hostedLayout.names.Nodup

/-! ## The kinds -/

theorem Queue.lossless_deadLetter {levels : Nat} : Queue.DeadLetter.form.Lossless (levels + 1) :=
  Returns.record (.of_eq (Returns.map Queue.DeadLetter.mk (.required .text)
    |>.seq (.required .word32)) fun _ => rfl) (by decide)

theorem Queue.documentLaws : Queue.rules.DocumentLaws id where
  desired := .of_eq (Returns.map Queue.Desired.mk (.defaulted .flag)
    |>.seq (.optional .word32)
    |>.seq (.optional .word32)
    |>.seq (.optional .word32)
    |>.seq (.optional .word32)
    |>.seq (.optional .word32)
    |>.seq (.optional lossless_deadLetter)) fun _ => rfl
  observed := .of_eq (Returns.map Queue.Observed.mk .unlessEmptyText
    |>.seq .unlessEmptyText
    |>.seq (.optional .instant)) fun _ => rfl
  hosted := .of_eq (Returns.map _ (.required .text)
    |>.seq (.required .text)
    |>.seq (.required .text)
    |>.seq (.required .flag)
    |>.seq (.required .word32)
    |>.seq (.required .word32)
    |>.seq (.required .word32)
    |>.seq (.required .word32)
    |>.seq (.required .word32)
    |>.seq (.nullable lossless_deadLetter)
    |>.seq (.required .tags)
    |>.seq (.nullable .instant)) fun _ => rfl
  distinct := by decide
  distinct_observed := by decide
  distinct_hosted := by decide

theorem Server.lossless_rootVolume {levels : Nat} : Server.RootVolume.form.Lossless (levels + 1) :=
  Returns.record (.of_eq (Returns.map Server.RootVolume.mk (.required .word32)
    |>.seq (.optional .text)) fun _ => rfl) (by decide)

theorem Server.lossless_status {levels : Nat} : Server.Status.form.Lossless levels :=
  .choice fun status => by cases status <;> rfl

theorem Server.documentLaws : Server.rules.DocumentLaws id where
  desired := .of_eq (Returns.map Server.Desired.mk (.required .text)
    |>.seq (.required .text)
    |>.seq (.optional .text)
    |>.seq (.optional .text)
    |>.seq (.defaulted .flag)
    |>.seq (.optional lossless_rootVolume)) fun _ => rfl
  observed := .of_eq (Returns.map Server.Observed.mk (.defaulted lossless_status)
    |>.seq (.optional .text)
    |>.seq (.optional .instant)) fun _ => rfl
  hosted := .of_eq (Returns.map _ (.required .text)
    |>.seq (.required .text)
    |>.seq (.required .text)
    |>.seq (.required .text)
    |>.seq (.required .flag)
    |>.seq (.required lossless_status)
    |>.seq (.nullable .text)
    |>.seq (.required .tags)
    |>.seq (.nullable .instant)) fun _ => rfl
  distinct := by decide
  distinct_observed := by decide
  distinct_hosted := by decide

theorem Database.lossless_engine {levels : Nat} : Database.Engine.form.Lossless levels :=
  .choice fun engine => by cases engine <;> rfl

/-- A specification without its password. -/
def Database.Desired.kept (d : Database.Desired) : Database.Desired := { d with masterPassword := "" }

theorem Database.documentLaws : Database.rules.DocumentLaws Database.Desired.kept where
  desired := .of_eq (Returns.map Database.Desired.mk (.required lossless_engine)
    |>.seq (.optional .text)
    |>.seq (.required .text)
    |>.seq (.required .word32)
    |>.seq (.required .text)
    |>.seq .unwritten
    |>.seq (.optional .word16)
    |>.seq (.optional .word32)
    |>.seq (.defaulted .flag)) fun _ => rfl
  observed := .of_eq (Returns.map Database.Observed.mk .unlessEmptyText
    |>.seq .unlessEmptyText
    |>.seq (.optional .text)) fun _ => rfl
  hosted := .of_eq (Returns.map _ (.required .text)
    |>.seq (.required .text)
    |>.seq (.required lossless_engine)
    |>.seq (.required .text)
    |>.seq (.required .word32)
    |>.seq (.required .word32)
    |>.seq (.required .flag)
    |>.seq (.required .text)
    |>.seq (.nullable .text)
    |>.seq (.required .tags)) fun _ => rfl
  distinct := by decide
  distinct_observed := by decide
  distinct_hosted := by decide

theorem CryptoKey.lossless_usage {levels : Nat} : CryptoKey.Usage.form.Lossless levels :=
  .choice fun usage => by cases usage <;> rfl

theorem CryptoKey.lossless_material {levels : Nat} : CryptoKey.Material.form.Lossless levels :=
  .choice fun material => by cases material <;> rfl

theorem CryptoKey.documentLaws : CryptoKey.rules.DocumentLaws id where
  desired := .of_eq (Returns.map CryptoKey.Desired.mk (.defaulted .text)
    |>.seq (.defaulted lossless_usage)
    |>.seq (.defaulted lossless_material)
    |>.seq (.optional .flag)
    |>.seq (.defaulted .flag)
    |>.seq (.optional .word32)) fun _ => rfl
  observed := .of_eq (Returns.map CryptoKey.Observed.mk .unlessEmptyText
    |>.seq .unlessEmptyText) fun _ => rfl
  hosted := .of_eq (Returns.map _ (.required .text)
    |>.seq (.required .text)
    |>.seq (.required .text)
    |>.seq (.required .text)
    |>.seq (.required lossless_material)
    |>.seq (.required .flag)
    |>.seq (.required .flag)
    |>.seq (.required .tags)) fun _ => rfl
  distinct := by decide
  distinct_observed := by decide
  distinct_hosted := by decide

theorem DnsZone.documentLaws : DnsZone.rules.DocumentLaws id where
  desired := .of_eq (Returns.map DnsZone.Desired.mk (.defaulted .flag)
    |>.seq (.optional .text)
    |>.seq (.optional .text)
    |>.seq (.optional .text)) fun _ => rfl
  observed := .of_eq (Returns.map DnsZone.Observed.mk
      (.unlessEmpty (Lossless.listOf .text) fun _ empty => List.isEmpty_iff.mp empty)
    |>.seq (.defaulted .word64)) fun _ => rfl
  hosted := .of_eq (Returns.map _ (.required .text)
    |>.seq (.required .text)
    |>.seq (.required .flag)
    |>.seq (.required .text)
    |>.seq (.required (Lossless.listOf .text))
    |>.seq (.required .word64)
    |>.seq (.required .tags)) fun _ => rfl
  distinct := by decide
  distinct_observed := by decide
  distinct_hosted := by decide

theorem CloudFunction.lossless_code {levels : Nat} : CloudFunction.Code.form.Lossless (levels + 1) :=
  Returns.record (.of_eq (Returns.map CloudFunction.Code.mk (.optional .text)
    |>.seq (.optional .text)
    |>.seq (.optional .text)
    |>.seq (.optional .text)) fun _ => rfl) (by decide)

theorem CloudFunction.documentLaws : CloudFunction.rules.DocumentLaws id where
  desired := .of_eq (Returns.map CloudFunction.Desired.mk (.defaulted .text)
    |>.seq (.optional .text)
    |>.seq (.required .text)
    |>.seq (.required lossless_code)
    |>.seq (.optional .word32)
    |>.seq (.optional .word32)
    |>.seq (.unlessEmpty (.dictOf .text) fun _ empty => Dict.isEmpty_iff.mp empty)) fun _ => rfl
  observed := .of_eq (Returns.map CloudFunction.Observed.mk .unlessEmptyText
    |>.seq .unlessEmptyText
    |>.seq .unlessEmptyText
    |>.seq .unlessEmptyText) fun _ => rfl
  hosted := .of_eq (Returns.map _ (.required .text)
    |>.seq (.required .text)
    |>.seq (.required .text)
    |>.seq (.nullable .text)
    |>.seq (.required .word32)
    |>.seq (.required .word32)
    |>.seq (.required (.dictOf .text))
    |>.seq (.required .text)
    |>.seq (.required .text)
    |>.seq (.required .text)
    |>.seq (.required .tags)) fun _ => rfl
  distinct := by decide
  distinct_observed := by decide
  distinct_hosted := by decide

theorem Table.lossless_billingMode {levels : Nat} : Table.BillingMode.form.Lossless levels :=
  .choice fun mode => by cases mode <;> rfl

theorem Table.lossless_keyAttribute {levels : Nat} : Table.KeyAttribute.form.Lossless (levels + 1) :=
  Returns.record (.of_eq (Returns.map Table.KeyAttribute.mk (.required .text)
    |>.seq (.required (.choice fun type => by cases type <;> rfl))) fun _ => rfl) (by decide)

theorem Table.lossless_throughput {levels : Nat} : Table.Throughput.form.Lossless (levels + 1) :=
  Returns.record (.of_eq (Returns.map Table.Throughput.mk (.required .word64)
    |>.seq (.required .word64)) fun _ => rfl) (by decide)

theorem Table.documentLaws : Table.rules.DocumentLaws id where
  desired := .of_eq (Returns.map Table.Desired.mk (.required lossless_keyAttribute)
    |>.seq (.optional lossless_keyAttribute)
    |>.seq (.optional lossless_billingMode)
    |>.seq (.optional lossless_throughput)
    |>.seq (.defaulted .flag)
    |>.seq (.defaulted .flag)
    |>.seq (.optional .text)) fun _ => rfl
  observed := .of_eq (Returns.map Table.Observed.mk .unlessEmptyText
    |>.seq .unlessEmptyText
    |>.seq (.defaulted .word64)) fun _ => rfl
  hosted := .of_eq (Returns.map _ (.required .text)
    |>.seq (.required .text)
    |>.seq (.required lossless_billingMode)
    |>.seq (.nullable lossless_throughput)
    |>.seq (.required .flag)
    |>.seq (.required .text)
    |>.seq (.required .word64)
    |>.seq (.required .tags)) fun _ => rfl
  distinct := by decide
  distinct_observed := by decide
  distinct_hosted := by decide

namespace Kind

/-- What documents keep of what is desired: everything but the password of a database. -/
def kept : (k : Kind) → k.Desired → k.Desired
  | .queue => id
  | .server => id
  | .database => Database.Desired.kept
  | .cryptoKey => id
  | .dnsZone => id
  | .cloudFunction => id
  | .table => id

theorem documentLaws : (k : Kind) → k.rules.DocumentLaws k.kept
  | .queue => Queue.documentLaws
  | .server => Server.documentLaws
  | .database => Database.documentLaws
  | .cryptoKey => CryptoKey.documentLaws
  | .dnsZone => DnsZone.documentLaws
  | .cloudFunction => CloudFunction.documentLaws
  | .table => Table.documentLaws

end Kind

/-! ## Hosted resources and specifications -/

theorem Hosted.lossless_form (k : Kind) : (Hosted.form k).Lossless 2 :=
  k.documentLaws.hosted.record k.documentLaws.distinct_hosted

namespace Spec

variable {k : Kind}

/-- What documents keep of a specification. -/
def kept (s : Spec k) : Spec k := { s with desired := k.kept s.desired }

theorem returns_ownLayout (k : Kind) :
    (ownLayout k).Returns 2 fun s shared => ⟨s.name, k.kept s.desired, shared, s.observed⟩ :=
  .of_eq (Returns.map _ (.required .text)
    |>.seq (k.documentLaws.desired.within Spec.desired)
    |>.seq (.defaulted (k.documentLaws.observed.record k.documentLaws.distinct_observed)))
    fun _ => rfl

theorem distinct_names (k : Kind) :
    ((ownLayout k).names ++ Meta.layout.names).Nodup ∧
      "kind" ∉ (ownLayout k).names ++ Meta.layout.names := by
  obtain ⟨distinct, -, apart⟩ := List.nodup_append.mp k.documentLaws.distinct
  exact ⟨distinct, fun member => apart _ member "kind" List.mem_cons_self rfl⟩

theorem plain_fields (s : Spec k) : ∀ f ∈ s.fields, f.2.Plain 2 := fun f member =>
  (List.mem_append.mp member).elim ((returns_ownLayout k).plain s f)
    (Meta.returns_layout.plain s.shared f)

/-- No field of a specification has the name of the field that tells the kind. -/
theorem apart_of_mem_fields {s : Spec k} {f : String × Doc} (member : f ∈ s.fields) :
    f.1 ≠ "kind" := fun same =>
  (distinct_names k).2 <| same ▸ List.mem_append.mpr ((List.mem_append.mp member).imp
    ((returns_ownLayout k).named s f) (Meta.returns_layout.named s.shared f))

theorem read_write (s : Spec k) : (form k).read ((form k).write s) = .ok s.kept :=
  (returns_ownLayout k).flattened Meta.returns_layout (distinct_names k).1 s s.shared

end Spec

namespace Resource

/-- What documents keep of a resource. -/
def kept (r : Resource) : Resource := ⟨r.kind, r.spec.kept⟩

theorem read_kindForm (k : Kind) : kindForm.read (kindForm.write k) = .ok k := by
  cases k <;> rfl

/-- The kind is read from the first field, and no other field breaks off before it. -/
theorem readKind_write {levels : Nat} {k : Kind} {fields : List (String × Doc)}
    (plain : ∀ f ∈ fields, f.2.Plain levels) (apart : ∀ f ∈ fields, f.1 ≠ "kind") :
    readKind ((("kind", kindForm.write k) :: fields).map fun f => (.name f.1, f.2)) = .ok k := by
  have only : Source.valuesOf "kind" ([("kind", kindForm.write k)] ++ fields) =
      Source.valuesOf "kind" [("kind", kindForm.write k)] := Source.valuesOf_append_left apart
  have carries : Source.Carries
      ⟨(("kind", kindForm.write k) :: fields).map fun f => (.name f.1, f.2), false⟩ ["kind"]
      [("kind", kindForm.write k)] := by
    refine ⟨rfl, fun n member => ?_⟩
    obtain rfl := List.mem_singleton.mp member
    exact (Source.places_object _ _).trans only
  have column : Layout.readColumn "kind" kindForm .refused _ = .ok k :=
    Returns.readColumn_present carries (read_kindForm k)
  unfold readKind
  extract_lets others kind
  cases same : others with
  | nil => exact column
  | cons e rest =>
    have first : e ∈ others := same ▸ List.mem_cons_self
    obtain ⟨⟨entry, i⟩, member, fault⟩ := List.mem_filterMap.mp first
    obtain ⟨f, there, rfl⟩ := List.mem_map.mp (List.fst_mem_of_mem_zipIdx member)
    rcases List.mem_cons.mp there with rfl | there
    · simp at fault
    · simp [Doc.firstFault_of_plain f.2 (plain f there)] at fault

theorem filter_fields {k : Kind} {fields : List (String × Doc)}
    (apart : ∀ f ∈ fields, f.1 ≠ "kind") :
    ((("kind", kindForm.write k) :: fields).map fun f => (Key.name f.1, f.2)).filter
      (fun e => e.1 ≠ .name "kind") = fields.map fun f => (.name f.1, f.2) := by
  simp only [List.map_cons, ne_eq, not_true_eq_false, decide_false, Bool.false_eq_true,
    not_false_eq_true, List.filter_cons_of_neg]
  refine List.filter_eq_self.mpr fun e member => ?_
  obtain ⟨f, there, rfl⟩ := List.mem_map.mp member
  simpa using apart f there

theorem returns_form : form.Returns 3 kept where
  plain r := Doc.plain_object fun f member => by
    rcases List.mem_cons.mp member with rfl | member
    · trivial
    · exact r.spec.plain_fields f member
  solid _ := nofun
  read_write r := by
    have apart : ∀ f ∈ r.spec.fields, f.1 ≠ "kind" := fun f => r.spec.apart_of_mem_fields
    have spec : (Spec.form r.kind).read (.record (r.spec.fields.map fun f => (.name f.1, f.2))) =
        .ok r.spec.kept := r.spec.read_write
    simp only [form, Doc.object]
    rw [readKind_write r.spec.plain_fields apart]
    show ((Spec.form r.kind).read (.record (List.filter _ _)) >>= fun spec =>
      .ok (⟨r.kind, spec⟩ : Resource)) = _
    rw [filter_fields apart, spec]
    rfl

end Resource

end DesiredState
