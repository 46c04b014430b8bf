import DesiredState.Fleet.Run
import DesiredState.Proofs.Host.Consistent
import DesiredState.Proofs.Reconcile.Ensures

/-!
# Calls to a simulated host

One rule for each call of a sync.  Either a fault refuses the call, and nothing but the faults
changes; or the call does what it is for.

Contents:

* `Made`, `Broken` — the host after calls that were made, and after calls of which a fault refused one.
* `presence`, `get`, `create`, `update`, `tag`, `untag` — the rules.
-/

namespace DesiredState

variable {k : Kind} {α : Type}

/-- Calls were made and none was refused; they left these resources and this serial number behind. -/
structure Made (w : Simulator k) (hosted : Dict (HostedOf k)) (serial : Numbering) (w' : Simulator k) :
    Prop where
  spent : Spent w w'
  hosted : w'.hosted = hosted
  serial : w'.serial = serial

/-- Calls were made and a fault refused at least one of them. -/
structure Broken (w : Simulator k) (hosted : Dict (HostedOf k)) (serial : Numbering)
    (w' : Simulator k) : Prop where
  struck : Struck w w'
  hosted : w'.hosted = hosted
  serial : w'.serial = serial

section Sequence

variable {w w' w'' : Simulator k} {hosted hosted' : Dict (HostedOf k)} {serial serial' : Numbering}
  {key : String} {h h' : HostedOf k}

theorem Made.refl (w : Simulator k) : Made w w.hosted w.serial w := ⟨.refl w, rfl, rfl⟩

theorem Made.made (first : Made w hosted serial w') (second : Made w' hosted' serial' w'') :
    Made w hosted' serial' w'' :=
  ⟨first.spent.trans second.spent, second.hosted, second.serial⟩

theorem Made.broken (first : Made w hosted serial w') (second : Broken w' hosted' serial' w'') :
    Broken w hosted' serial' w'' :=
  ⟨second.struck.after first.spent, second.hosted, second.serial⟩

theorem Broken.made (first : Broken w hosted serial w') (second : Made w' hosted' serial' w'') :
    Broken w hosted' serial' w'' :=
  ⟨first.struck.before second.spent, second.hosted, second.serial⟩

theorem Broken.broken (first : Broken w hosted serial w')
    (second : Broken w' hosted' serial' w'') : Broken w hosted' serial' w'' :=
  ⟨first.struck.before second.struck.spent, second.hosted, second.serial⟩

theorem Made.still (first : Made w hosted serial w') (second : Made w' w'.hosted w'.serial w'') :
    Made w hosted serial w'' :=
  ⟨first.spent.trans second.spent, second.hosted.trans first.hosted,
    second.serial.trans first.serial⟩

theorem Made.cut (first : Made w hosted serial w') (second : Broken w' w'.hosted w'.serial w'') :
    Broken w hosted serial w'' :=
  ⟨second.struck.after first.spent, second.hosted.trans first.hosted,
    second.serial.trans first.serial⟩

/-- A resource is put somewhere after calls that left some resources behind. -/
theorem Made.insert (first : Made w hosted serial w')
    (second : Made w' (w'.hosted.insert key h) w'.serial w'') :
    Made w (hosted.insert key h) serial w'' := by
  have whole := first.made second
  rwa [first.hosted, first.serial] at whole

theorem Made.insert_broken (first : Made w hosted serial w')
    (second : Broken w' (w'.hosted.insert key h) w'.serial w'') :
    Broken w (hosted.insert key h) serial w'' := by
  have whole := first.broken second
  rwa [first.hosted, first.serial] at whole

theorem Broken.insert (first : Broken w hosted serial w')
    (second : Made w' (w'.hosted.insert key h) w'.serial w'') :
    Broken w (hosted.insert key h) serial w'' := by
  have whole := first.made second
  rwa [first.hosted, first.serial] at whole

theorem Broken.insert_broken (first : Broken w hosted serial w')
    (second : Broken w' (w'.hosted.insert key h) w'.serial w'') :
    Broken w (hosted.insert key h) serial w'' := by
  have whole := first.broken second
  rwa [first.hosted, first.serial] at whole

/-- What was put under a key first does not matter once something else is put there. -/
theorem Made.replace (first : Made w (hosted.insert key h) serial w')
    (second : Made w' (w'.hosted.insert key h') w'.serial w'') :
    Made w (hosted.insert key h') serial w'' := by
  have whole := first.insert second
  rwa [Dict.insert_insert] at whole

theorem Made.replace_broken (first : Made w (hosted.insert key h) serial w')
    (second : Broken w' (w'.hosted.insert key h') w'.serial w'') :
    Broken w (hosted.insert key h') serial w'' := by
  have whole := first.insert_broken second
  rwa [Dict.insert_insert] at whole

theorem Made.current?_eq (made : Made w w.hosted serial w') (key : String) :
    w'.current? key = w.current? key := by
  rw [Host.current?, Host.current?, made.hosted]

end Sequence

namespace Run.Ensures

variable {settings : RunSettings} {clock : Instant} {s : Spec k} {w : Simulator k}

theorem entered {post : Except Failure α → Spec k → Simulator k → Prop} {c : Call k}
    {act : Request (Simulator k) α} {keep : α → Spec k → Spec k}
    (refused : ∀ f w', Broken w w.hosted w.serial w' → post (.error f) s w')
    (answered : ∃ a w', act (w.noted c) = (.ok a, w') ∧ post (.ok a) (keep a s) w') :
    Run.Ensures (Engine.callKeeping c.operation (Simulator.enter c act) keep) s w post := by
  obtain ⟨a, w', acted, holds⟩ := answered
  refine enter (fun e pending => ?_) fun _ => callKeeping ?_ ?_
  · exact refused _ _ ⟨struck_struck pending, rfl, rfl⟩
  · intro a' w'' acted'
    cases acted.symm.trans acted'
    exact holds
  · intro e w'' acted'
    cases acted.symm.trans acted'

theorem presence {post : Except Failure Bool → Spec k → Simulator k → Prop} {key : String}
    (refused : ∀ f w', Broken w w.hosted w.serial w' → post (.error f) s w')
    (made : ∀ w', Made w w.hosted w.serial w' →
      post (.ok (Host.find? w.hosted key).isSome) s w') :
    Run.Ensures (Engine.call .presence ((settings.engine clock k).gateway.presence key)) s w post :=
  entered (c := .presence key) refused ⟨_, _, rfl, made _ ⟨spent_noted w _, rfl, rfl⟩⟩

theorem get {post : Except Failure (HostedOf k) → Spec k → Simulator k → Prop} {key : String}
    {h : HostedOf k} (found : w.current? key = some h)
    (refused : ∀ f w', Broken w w.hosted w.serial w' → post (.error f) s w')
    (made : ∀ w', Made w w.hosted w.serial w' → post (.ok h) s w') :
    Run.Ensures (Engine.call .get ((settings.engine clock k).gateway.get key)) s w post := by
  simp only [Engine.call, RunSettings.engine, Simulator.gateway]
  refine entered (c := .get key) refused ?_
  refine ⟨h, w.noted (.get key), ?_, made _ ⟨spent_noted w _, rfl, rfl⟩⟩
  have found' : (w.noted (.get key)).current? key = some h := found
  simp only [found']

theorem create {post : Except Failure (Spec k) → Spec k → Simulator k → Prop}
    (free : Host.find? w.hosted s.name = none)
    (refused : ∀ f w', Broken w w.hosted w.serial w' → post (.error f) s w')
    (made : ∀ w',
      Made w (w.hosted.insert (k.identifier w.serial.next)
          (s.materialize clock (k.identifier w.serial.next))) w.serial.succ w' →
      ∀ s', s' = (s.withIdentifier (k.identifier w.serial.next)).observe
          (s.materialize clock (k.identifier w.serial.next)) →
        post (.ok s') s' w') :
    Run.Ensures (Engine.callKeeping .create ((settings.engine clock k).gateway.create s)
      fun created _ => created) s w post := by
  let id := k.identifier w.serial.next
  let w' : Simulator k := { w.noted (.create s.name) with
    hosted := w.hosted.insert id (s.materialize clock id), serial := w.serial.succ }
  refine entered (c := .create s.name) refused ?_
  refine ⟨_, w', ?_, made w' ⟨.of_eq rfl, rfl, rfl⟩ _ rfl⟩
  have free' : Host.find? (w.noted (.create s.name)).hosted s.name = none := free
  simp only [Simulator.host, free', Option.isSome_none, Bool.false_eq_true, if_false]
  rfl

/-- The rule of the calls that change one resource. -/
theorem modified {post : Except Failure Unit → Spec k → Simulator k → Prop} {c : Call k}
    {identifier : String} {h : HostedOf k} {f : HostedOf k → HostedOf k}
    (found : w.hosted.get? identifier = some h)
    (refused : ∀ f w', Broken w w.hosted w.serial w' → post (.error f) s w')
    (made : ∀ w', Made w (w.hosted.insert identifier (f h)) w.serial w' → post (.ok ()) s w') :
    Run.Ensures (Engine.call c.operation
      (Simulator.enter c (Simulator.modifyHosted identifier fun h => .ok (f h)))) s w post := by
  let w' : Simulator k := { w.noted c with hosted := w.hosted.insert identifier (f h) }
  refine entered refused ?_
  refine ⟨(), w', ?_, made w' ⟨.of_eq rfl, rfl, rfl⟩⟩
  have found' : (w.noted c).hosted.get? identifier = some h := found
  simp only [Simulator.modifyHosted, found']
  rfl

theorem update {post : Except Failure Unit → Spec k → Simulator k → Prop} {t : Spec k}
    {c : k.Change} {h : HostedOf k} (found : w.hosted.get? t.identifier = some h)
    (refused : ∀ f w', Broken w w.hosted w.serial w' → post (.error f) s w')
    (made : ∀ w', Made w (w.hosted.insert t.identifier (h.apply c)) w.serial w' →
      post (.ok ()) s w') :
    Run.Ensures (Engine.call .update ((settings.engine clock k).gateway.update t c)) s w post :=
  modified (c := .update t.identifier c) found refused made

theorem tag {post : Except Failure Unit → Spec k → Simulator k → Prop} {identifier : String}
    {tags : Tags} {h : HostedOf k} (found : w.hosted.get? identifier = some h)
    (refused : ∀ f w', Broken w w.hosted w.serial w' → post (.error f) s w')
    (made : ∀ w',
      Made w (w.hosted.insert identifier { h with tags := h.tags.overwrite tags }) w.serial w' →
      post (.ok ()) s w') :
    Run.Ensures (Engine.call .tag ((settings.engine clock k).gateway.tag identifier tags)) s w post :=
  modified (c := .tag identifier tags) found refused made

theorem untag {post : Except Failure Unit → Spec k → Simulator k → Prop} {identifier : String}
    {keys : List String} {h : HostedOf k} (found : w.hosted.get? identifier = some h)
    (refused : ∀ f w', Broken w w.hosted w.serial w' → post (.error f) s w')
    (made : ∀ w',
      Made w (w.hosted.insert identifier { h with tags := h.tags.eraseAll keys }) w.serial w' →
      post (.ok ()) s w') :
    Run.Ensures (Engine.call .untag ((settings.engine clock k).gateway.untag identifier keys)) s w
      post :=
  modified (c := .untag identifier keys) found refused made

/-- The rule of the calls that would change a resource that is not there. -/
theorem modified_absent {post : Except Failure Unit → Spec k → Simulator k → Prop} {c : Call k}
    {identifier : String} {f : HostedOf k → HostedOf k} (absent : w.hosted.get? identifier = none)
    (refused : ∀ f w', Spent w w' → w'.hosted = w.hosted → post (.error f) s w') :
    Run.Ensures (Engine.call c.operation
      (Simulator.enter c (Simulator.modifyHosted identifier fun h => .ok (f h)))) s w post := by
  refine enter (fun e pending => refused _ _ (struck_struck pending).spent rfl) fun _ =>
    callKeeping ?_ ?_
  all_goals
    have absent' : (w.noted c).hosted.get? identifier = none := absent
    simp only [Simulator.modifyHosted, absent']
  · nofun
  · rintro e w' ⟨⟩
    exact refused _ _ (spent_noted w c) rfl

end Run.Ensures

end DesiredState
