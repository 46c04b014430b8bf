import DesiredState.Proofs.Resource.Laws
import DesiredState.Proofs.Text.Lowercase
import DesiredState.Resource.DnsZone

/-!
# DNS zones keep the laws

The only change of a zone, what its specification wants, and the laws of `Rules` for it.
-/

namespace DesiredState.DnsZone

def wants (d : Desired) : List Change := (d.comment.map Change.comment).toList

def shows : Change → Attributes → Bool
  | .comment v, a => v == a.comment

def changeLaws : rules.ChangeLaws where
  slot _ := 0
  wants := wants
  shows := shows
  diff_eq d a := (Rules.filter_changes Change.comment (fun c => !shows c a) d.comment).symm
  nodup_slots d := by cases comment : d.comment <;> simp [wants, comment]
  shows_apply c a := by cases c; simp [rules, apply, shows]
  shows_apply_of_ne c c' a apart := absurd rfl apart
  apply_comm c c' a apart := absurd rfl apart

structure Untouched (cs : List Change) (a b : Attributes) : Prop where
  privateZone : b.privateZone = a.privateZone
  comment : (∀ v, .comment v ∉ cs) → b.comment = a.comment
  nameServers : b.nameServers = a.nameServers
  recordCount : b.recordCount = a.recordCount

theorem Untouched.cons {c : Change} {cs : List Change} {a b : Attributes}
    (rest : Untouched cs (apply c a) b) : Untouched (c :: cs) a b := by
  obtain ⟨visibility, comment, servers, count⟩ := rest
  cases c; constructor <;> grind [apply]

theorem frameLaws : rules.FrameLaws Untouched where
  nil a := by constructor <;> intros <;> rfl
  cons := Untouched.cons

/-! ## Completion and the clock -/

structure Filled (d d' : Desired) : Prop where
  privateZone : d'.privateZone = d.privateZone
  vpcId : d'.vpcId = d.vpcId
  vpcRegion : d'.vpcRegion = d.vpcRegion
  comment : Rules.KeptIfSet d.comment d'.comment

theorem filled_fill (d : Desired) : Filled d (fill d) where
  privateZone := rfl
  vpcId := rfl
  vpcRegion := rfl
  comment := .getD _ _

/-- A trimmed name in lower case that ends with a dot, or that holds nothing. -/
structure Normal (name : String) : Prop where
  trimmed : Text.Trimmed name.toList
  lower : ∀ c ∈ name.toList, Text.IsLower c
  closed : name = "" ∨ Text.endsWith "." name = true

theorem normalizeName_of_normal {name : String} (normal : Normal name) :
    normalizeName name = name := by
  simp only [normalizeName, Text.trim_of_trimmed normal.trimmed,
    Text.lowercase_of_isLower normal.lower]
  rcases normal.closed with rfl | closed
  · rfl
  · simp [closed]

theorem normal_normalizeName (name : String) : Normal (normalizeName name) := by
  have trimmed := Text.trimmed_lowercase (Text.trimmed_trim name)
  simp only [normalizeName]
  split
  next lacking =>
    have filled : (Text.lowercase (Text.trim name)).toList ≠ [] := by
      intro empty
      rw [String.toList_eq_nil_iff] at empty
      simp [empty] at lacking
    have dot : Text.Trimmed ".".toList := Text.trimmed_iff.mpr (by decide)
    constructor
    · simpa using trimmed.append [] dot filled (by decide)
    · intro c member
      rw [String.toList_append, List.mem_append] at member
      rcases member with member | member
      · exact Text.isLower_of_mem_lowercase member
      · obtain rfl : c = '.' := by simpa using member
        decide
    · right
      simp [Text.endsWith]
  next complete =>
    refine ⟨trimmed, fun c => Text.isLower_of_mem_lowercase, ?_⟩
    simpa [or_iff_not_imp_left] using complete

theorem normalizeName_normalizeName (name : String) :
    rules.normalizeName (rules.normalizeName name) = rules.normalizeName name := by
  simp only [rules]
  exact normalizeName_of_normal (normal_normalizeName name)

theorem completionLaws : rules.CompletionLaws where
  fill_fill d := by simp [rules, fill]
  normalizeName_normalizeName := normalizeName_normalizeName
  diff_materialize now identifier name d _ := by simp [rules, diff, fill, materialize, Option.filter]

theorem clockLaws : rules.ClockLaws id id := .idle fun _ _ _ _ _ => rfl

end DesiredState.DnsZone
