import DesiredState.Proofs.Reconcile.SnapshotName
import DesiredState.Proofs.Record.Runs

/-!
# Remarks on final snapshots

Whether the final snapshot of a resource gets a generated name is decided twice: validation remarks on
it, and deletion acts on it.  The remark is made if no name was declared; the name is generated if none
was declared or the declared one is blank.  So the two agree, except that nothing is remarked when the
declared name is blank.

Contents:

* `Kind.label_inj`, `Manifest.mention_inj` — remarks tell resources apart.
* `Manifest.snapshotRemark`, `mem_warnings_iff` — when validation makes the remark.
* `DeletionContext.Generates`, `generates_iff` — when deletion generates the name.
* `Resource.BlanksSnapshot`, `snapshotRemark_agrees` — the two compared.
-/

namespace DesiredState

/-! ## Remarks tell resources apart -/

namespace Kind

theorem ofLabel?_label (k : Kind) : ofLabel? k.label = some k := by
  cases k <;> decide +kernel

theorem label_inj {k k' : Kind} (same : k.label = k'.label) : k = k' := by
  have found := congrArg ofLabel? same
  rw [ofLabel?_label, ofLabel?_label] at found
  exact Option.some.inj found

/-- Labels hold no space: one that is followed by a space ends at the first one. -/
theorem takeWhile_label_append (k : Kind) (more : List Char) :
    (k.label.toList ++ ' ' :: more).takeWhile (· ≠ ' ') = k.label.toList := by
  cases k <;> rfl

end Kind

namespace Manifest

variable {m : Manifest} {allowUntagged : Bool} {r q : Resource}

theorem label_eq_of_mention (same : mention r = mention q) : r.kind.label = q.kind.label := by
  have fronts := congrArg (fun text : String => text.toList.takeWhile (· ≠ ' ')) same
  simp only [mention, String.toList_append, List.append_assoc] at fronts
  -- The text between label and name begins with a space.
  have front (k : Kind) (more : List Char) :
      (k.label.toList ++ (" '".toList ++ more)).takeWhile (· ≠ ' ') = k.label.toList :=
    k.takeWhile_label_append _
  rw [front, front] at fronts
  exact String.toList_inj.mp fronts

/-- A mention tells the kind and the name of its resource. -/
theorem mention_inj (same : mention r = mention q) : r.key = q.key := by
  have labels := label_eq_of_mention same
  rw [mention, mention, labels] at same
  have names : r.name = q.name := by
    simpa only [String.append_left_inj, String.append_right_inj] using same
  exact Prod.ext (Kind.label_inj labels) names

/-- Texts with the same ending agree in what is shorter of their last parts. -/
theorem suffix_of_append_eq {front front' last last' : String} (same : front ++ last = front' ++ last') :
    last.toList <:+ last'.toList ∨ last'.toList <:+ last.toList := by
  have ends : last.toList <:+ (front ++ last).toList := by
    rw [String.toList_append]
    exact List.suffix_append ..
  have ends' : last'.toList <:+ (front ++ last).toList := by
    rw [same, String.toList_append]
    exact List.suffix_append ..
  exact List.suffix_or_suffix_of_suffix ends ends'

/-! ## What validation remarks -/

/-- The remark that the final snapshot of a resource will get a generated name. -/
def snapshotRemark (r : Resource) : String :=
  mention r ++ " will get a generated final snapshot name"

theorem snapshotRemark_not_mem_untaggedWarning : snapshotRemark r ∉ untaggedWarning q := by
  intro member
  have same : snapshotRemark r = mention q ++ " has no tags" := by
    unfold untaggedWarning at member
    split at member <;> simp_all
  exact absurd (suffix_of_append_eq same) (by decide)

theorem snapshotRemark_mem_policyWarning_iff :
    snapshotRemark r ∈ policyWarning q ↔
      q.shared.deletionPolicy.bind DeletionPolicy.parse? = some .snapshot ∧
        q.shared.finalSnapshotId = none ∧ mention r = mention q := by
  unfold policyWarning
  cases q.shared.deletionPolicy.bind DeletionPolicy.parse? with
  | none => simp
  | some policy =>
    cases policy with
    | orphan =>
      have apart : snapshotRemark r ≠ mention q ++ " will be orphaned on delete" := fun same =>
        absurd (suffix_of_append_eq same) (by decide)
      simp [apart]
    | snapshot => cases q.shared.finalSnapshotId <;> simp [snapshotRemark]
    | delete => simp
    | retain => simp
    | stop => simp

/-- A resource gets the remark if its policy asks for a snapshot and it declares no name for it. -/
theorem mem_warnings_iff (distinct : (m.resources.map Resource.key).Nodup) (member : r ∈ m.resources) :
    snapshotRemark r ∈ m.warnings allowUntagged ↔
      r.shared.deletionPolicy.bind DeletionPolicy.parse? = some .snapshot ∧
        r.shared.finalSnapshotId = none := by
  rw [warnings, List.mem_flatMap]
  constructor
  · rintro ⟨q, member', remarked⟩
    have ofPolicy : snapshotRemark r ∈ policyWarning q := by
      rcases List.mem_append.mp remarked with ofTags | ofPolicy
      · -- The other remarks end otherwise.
        split at ofTags
        · cases ofTags
        · exact absurd ofTags snapshotRemark_not_mem_untaggedWarning
      · exact ofPolicy
    obtain ⟨policy, unnamed, same⟩ := snapshotRemark_mem_policyWarning_iff.mp ofPolicy
    rw [List.inj_on_of_nodup_map distinct member member' (mention_inj same)]
    exact ⟨policy, unnamed⟩
  · rintro ⟨policy, unnamed⟩
    have ofPolicy := snapshotRemark_mem_policyWarning_iff.mpr ⟨policy, unnamed, rfl⟩
    exact ⟨r, member, List.mem_append_right _ ofPolicy⟩

theorem warnings_of_validate {report : ValidationReport}
    (accepts : (m.validate allowUntagged).2 = .ok report) :
    report.warnings = (m.validate allowUntagged).1.warnings allowUntagged := by
  obtain ⟨repeated, refused⟩ := of_verdict accepts
  simp only [validate, verdict, repeated, refused, Except.ok.injEq] at accepts
  rw [← accepts]
  rfl

end Manifest

/-- The policy that holds for a prepared specification is the declared one. -/
theorem Spec.Prepared.declared_eq {k : Kind} {s : Spec k} (prepared : s.Prepared)
    {policy : DeletionPolicy} (effective : s.effectivePolicy = .ok policy) :
    s.shared.deletionPolicy.bind DeletionPolicy.parse? = some policy := by
  have declared : some (s.shared.deletionPolicy.getD k.rules.defaultPolicy.label) =
      s.shared.deletionPolicy := congrArg (·.shared.deletionPolicy) prepared.complete
  unfold effectivePolicy at effective
  rw [← declared] at effective ⊢
  simp only [Option.bind_some] at effective ⊢
  split at effective
  · cases effective
  next declared' parsed =>
    split at effective
    · rw [parsed, Except.ok.inj effective]
    · cases effective

/-! ## What deletion does -/

theorem Text.isBlank_of_isLower {c : Char} (lower : c.isLower = true) : isBlank c = false := by
  unfold Char.isLower at lower
  simp only [Bool.and_eq_true, decide_eq_true_eq, UInt32.le_iff_toNat_le] at lower
  have first : 97 ≤ c.toNat := lower.1
  have last : c.toNat ≤ 122 := lower.2
  simp only [isBlank, Bool.or_eq_false_iff, Bool.and_eq_false_iff, decide_eq_false_iff_not,
    beq_eq_false_iff_ne]
  omega

namespace DeletionContext

variable {c : DeletionContext}

/-- The final snapshot gets the generated name, and not because somebody declared it. -/
def Generates (c : DeletionContext) : Prop :=
  DeleteAction.resolve .snapshot c = .snapshotThenDelete c.snapshotId ∧
    c.finalSnapshotId ≠ some c.snapshotId

theorem isBlankText_snapshotId (c : DeletionContext) : Text.isBlankText c.snapshotId = false := by
  obtain ⟨first, rest, text, lower⟩ := c.snapshotName_snapshotId.leads
  rw [Text.isBlankText, text, List.all_cons, Text.isBlank_of_isLower lower, Bool.false_and]

/-- A name is generated if none was declared or the declared one is blank. -/
theorem generates_iff (known : c.identifier ≠ "") :
    c.Generates ↔ ∀ id, c.finalSnapshotId = some id → Text.isBlankText id = true := by
  have resolved : DeleteAction.resolve .snapshot c =
      .snapshotThenDelete (c.chosenSnapshotId?.getD c.snapshotId) := by
    simp [DeleteAction.resolve, known]
  rw [Generates, resolved, chosenSnapshotId?]
  cases c.finalSnapshotId with
  | none => simp
  | some id =>
    cases blank : Text.isBlankText id with
    | true =>
      have apart : id ≠ c.snapshotId := by
        rintro rfl
        rw [c.isBlankText_snapshotId] at blank
        cases blank
      simp [Option.filter, blank, apart]
    | false => simp [Option.filter, blank]

end DeletionContext

/-! ## The two compared -/

/-- A name was declared for the final snapshot, and it is blank. -/
def Resource.DeclaresBlank (r : Resource) : Prop :=
  ∃ id, r.shared.finalSnapshotId = some id ∧ Text.isBlankText id = true

namespace Manifest

/-- Validation remarks on the final snapshot of a resource exactly if deletion will generate its name,
whatever identifier the resource gets until then, unless the declared name is blank: then the name is
generated without a remark. -/
theorem snapshotRemark_agrees {m : Manifest} {allowUntagged : Bool} {report : ValidationReport}
    (accepts : (m.validate allowUntagged).2 = .ok report) {r : Resource}
    (member : r ∈ (m.validate allowUntagged).1.resources)
    (effective : r.spec.effectivePolicy = .ok .snapshot) {σ : Type} (e : Engine r.kind σ)
    {t : Spec r.kind} (same : t.intent = r.spec.intent) (known : t.identifier ≠ "") :
    (¬r.DeclaresBlank →
      (snapshotRemark r ∈ report.warnings ↔ (e.deletionContext t).Generates)) ∧
    (r.DeclaresBlank →
      snapshotRemark r ∉ report.warnings ∧ (e.deletionContext t).Generates) := by
  have accepted := accepted_of_validate (Prod.ext rfl accepts)
  have remarked : snapshotRemark r ∈ report.warnings ↔ r.shared.finalSnapshotId = none := by
    rw [warnings_of_validate accepts, mem_warnings_iff accepted.distinct member]
    exact and_iff_right ((accepted.prepared r member).declared_eq effective)
  have declared : t.shared.finalSnapshotId = r.shared.finalSnapshotId :=
    congrArg (·.shared.finalSnapshotId) same
  have generated : (e.deletionContext t).Generates ↔
      ∀ id, r.shared.finalSnapshotId = some id → Text.isBlankText id = true := by
    rw [DeletionContext.generates_iff known, ← declared]
    rfl
  rw [remarked, generated, Resource.DeclaresBlank]
  cases r.shared.finalSnapshotId with
  | none => simp
  | some id => simp

end Manifest

namespace Sample

/-- A table that is saved before it is removed. -/
def saved (name : String) (finalSnapshotId : Option String) : Resource :=
  ⟨.table, name, Table.Desired.ofKey "id",
    { Meta.empty with deletionPolicy := some "Snapshot", finalSnapshotId }, Table.rules.unobserved⟩

/-- Two such tables; the name that is declared for the snapshot of the second one is blank. -/
def savedTables : Manifest where
  defaultTags := .empty
  snapshotStem := "final"
  resources := [saved "events" none, saved "drafts" (some " ")]

end Sample

namespace Manifest

/-- Both final snapshots get a generated name, and one of them gets the remark. -/
theorem snapshotRemark_agrees_savedTables :
    let e := (⟨"final", true⟩ : RunSettings).engine .epoch .table
    let events := (Sample.saved "events" none).prepare.1
    let drafts := (Sample.saved "drafts" (some " ")).prepare.1
    (Sample.savedTables.validate true).2 = .ok ⟨2, [snapshotRemark events]⟩ ∧
      (e.deletionContext (events.spec.withIdentifier "table-7")).Generates ∧
      snapshotRemark drafts ∉ [snapshotRemark events] ∧
      (e.deletionContext (drafts.spec.withIdentifier "table-8")).Generates := by
  intro e events drafts
  have accepts : (Sample.savedTables.validate true).2 = .ok ⟨2, [snapshotRemark events]⟩ := by
    decide +kernel
  have first := snapshotRemark_agrees accepts (r := events) (.head _) (by decide +kernel) e
    (t := events.spec.withIdentifier "table-7") rfl (by decide)
  have second := snapshotRemark_agrees accepts (r := drafts) (.tail _ (.head _)) (by decide +kernel) e
    (t := drafts.spec.withIdentifier "table-8") rfl (by decide)
  obtain ⟨unremarked, generates⟩ := second.2 ⟨" ", rfl, by decide⟩
  refine ⟨accepts, (first.1 ?_).mp (.head _), unremarked, generates⟩
  rintro ⟨id, declared, -⟩
  cases declared

/-- A blank name is replaced by a generated one without a remark. -/
theorem not_snapshotRemark_iff_generates :
    ¬∀ (m : Manifest) (allowUntagged : Bool) (report : ValidationReport),
      (m.validate allowUntagged).2 = .ok report →
        ∀ r ∈ (m.validate allowUntagged).1.resources, r.spec.effectivePolicy = .ok .snapshot →
          ∀ (e : Engine r.kind (Simulator r.kind)) (t : Spec r.kind), t.intent = r.spec.intent →
            t.identifier ≠ "" →
              (snapshotRemark r ∈ report.warnings ↔ (e.deletionContext t).Generates) := by
  intro agrees
  let drafts := (Sample.saved "drafts" (some " ")).prepare.1
  let e := (⟨"final", true⟩ : RunSettings).engine .epoch .table
  have remarked := (agrees Sample.savedTables true
    ⟨2, [snapshotRemark (Sample.saved "events" none).prepare.1]⟩ (by decide +kernel) drafts
    (.tail _ (.head _)) (by decide +kernel) e (drafts.spec.withIdentifier "table-8") rfl
    (by decide)).mpr
  have generates : (e.deletionContext (drafts.spec.withIdentifier "table-8")).Generates := by
    rw [DeletionContext.generates_iff (by decide)]
    rintro id declared
    cases declared
    decide
  exact absurd (remarked generates) (by decide +kernel)

end Manifest

end DesiredState
