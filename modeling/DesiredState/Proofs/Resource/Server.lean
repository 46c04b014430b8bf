import DesiredState.Proofs.Resource.Laws
import DesiredState.Resource.Server

/-!
# Servers keep the laws

The slots of a server's changes, what its specification wants, and the laws of `Rules` for it.
-/

namespace DesiredState.Server

def Change.slot : Change → Nat
  | .instanceType _ => 0
  | .monitoring _ => 1

def wants (d : Desired) : List Change :=
  [.instanceType d.instanceType, .monitoring d.monitoring]

def shows : Change → Attributes → Bool
  | .instanceType v, a => v == a.instanceType
  | .monitoring v, a => v == a.monitoring

theorem diff_eq (d : Desired) (a : Attributes) :
    diff d a = (wants d).filter fun c => !shows c a := by
  by_cases type : d.instanceType = a.instanceType <;>
    by_cases monitoring : d.monitoring = a.monitoring <;>
    simp [diff, wants, shows, type, monitoring]

def changeLaws : rules.ChangeLaws where
  slot := Change.slot
  wants := wants
  shows := shows
  diff_eq := diff_eq
  nodup_slots d := by simp [wants, Change.slot]
  shows_apply c a := by cases c <;> simp [rules, apply, shows]
  shows_apply_of_ne c c' a apart := by
    cases c <;> cases c' <;> first | rfl | exact absurd rfl apart
  apply_comm c c' a apart := by
    cases c <;> cases c' <;> first | rfl | exact absurd rfl apart

structure Untouched (cs : List Change) (a b : Attributes) : Prop where
  instanceType : (∀ v, .instanceType v ∉ cs) → b.instanceType = a.instanceType
  imageId : b.imageId = a.imageId
  monitoring : (∀ v, .monitoring v ∉ cs) → b.monitoring = a.monitoring
  status : b.status = a.status
  privateIp : b.privateIp = a.privateIp
  launchTime : b.launchTime = a.launchTime

theorem Untouched.cons {c : Change} {cs : List Change} {a b : Attributes}
    (rest : Untouched cs (apply c a) b) : Untouched (c :: cs) a b := by
  obtain ⟨type, image, monitoring, status, address, launch⟩ := rest
  cases c <;> constructor <;> grind [apply]

theorem frameLaws : rules.FrameLaws Untouched where
  nil a := by constructor <;> intros <;> rfl
  cons := Untouched.cons

/-! ## Completion and the clock -/

structure RootVolume.Filled (v v' : RootVolume) : Prop where
  sizeGb : v'.sizeGb = v.sizeGb
  volumeType : Rules.KeptIfSet v.volumeType v'.volumeType

structure Filled (d d' : Desired) : Prop where
  instanceType : d'.instanceType = d.instanceType
  imageId : d'.imageId = d.imageId
  subnetId : d'.subnetId = d.subnetId
  keyName : d'.keyName = d.keyName
  monitoring : d'.monitoring = d.monitoring
  rootVolume : Option.Rel RootVolume.Filled d.rootVolume d'.rootVolume

theorem filled_fill (d : Desired) : Filled d (fill d) where
  instanceType := rfl
  imageId := rfl
  subnetId := rfl
  keyName := rfl
  monitoring := rfl
  rootVolume := by
    cases volume : d.rootVolume with
    | none =>
      rw [fill, volume]
      exact .none
    | some v =>
      rw [fill, volume]
      exact .some ⟨rfl, .getD _ _⟩

theorem fill_fill (d : Desired) : fill (fill d) = fill d := by
  cases volume : d.rootVolume <;> simp [fill, volume]

theorem completionLaws : rules.CompletionLaws where
  fill_fill := fill_fill
  normalizeName_normalizeName _ := rfl
  diff_materialize now identifier name d _ := by simp [rules, diff, fill, materialize]

def Attributes.timeless (a : Attributes) : Attributes := { a with launchTime := none }

def Observed.timeless (o : Observed) : Observed := { o with launchTime := none }

theorem clockLaws : rules.ClockLaws Attributes.timeless Observed.timeless where
  diff_timeless _ _ := rfl
  apply_timeless c a := by cases c <;> rfl
  observe_timeless _ _ := rfl
  materialize_timeless _ _ _ _ _ := rfl

end DesiredState.Server
