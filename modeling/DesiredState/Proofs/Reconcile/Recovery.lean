import DesiredState.Proofs.Host.Numbering
import DesiredState.Proofs.Reconcile.Convergence
import DesiredState.Proofs.Reconcile.Timeless

/-!
# Recovery

A sync that a fault struck is taken up by the next one where it broke off: every state on the way
leads to one and the same resource, and every further failure uses up a fault.  So syncing again and
again succeeds after as many failures as there are faults at most, creates one resource at most, and
ends like a single sync without faults.

Contents:

* `Underway` — the invariant of all states on the way.
* `Underway.step` — a sync keeps it or ends cleanly.
* `retried` — the states of repeated syncs.
* `sync_recovers` — the main result.
-/

namespace DesiredState

variable {k : Kind} {settings : RunSettings} {clock now : Instant} {s s' s'' : Spec k}
  {w w' w'' : Simulator k} {goal : HostedOf k}

/-- A specification that is being looked for speaks of the same resource. -/
theorem Looking.resource?_eq (looking : Looking s w.hosted s') (consistent : Consistent w.hosted)
    (hosted : w'.hosted = w.hosted) : s'.resource? w'.toHost = s.resource? w.toHost := by
  have name : w'.current? s'.name = w.current? s.name := by
    rw [Host.current?, Host.current?, hosted, Spec.name_eq_of_intent looking.intent]
  rw [Spec.resource?, Spec.resource?, hosted, name]
  rcases looking.identifier with same | ⟨unknown, absent⟩
  · rw [same]
  · rw [unknown, absent, consistent.get?_empty_text]

/-- The prepared specification `s'` and the host `w'` are on the way from `s` and `w` to `goal`. -/
structure Underway (s : Spec k) (w : Simulator k) (goal : HostedOf k) (s' : Spec k)
    (w' : Simulator k) : Prop where
  prepared : s'.Prepared
  consistent : Consistent w'.hosted
  placed : s'.Placed w'.hosted
  intent : s'.intent = s.intent
  leads : ∀ clock, (s'.settled (s'.origin clock w')).timeless = goal
  others : ∀ key, key ≠ goal.identifier → w'.hosted.get? key = w.hosted.get? key
  serial : s'.nextSerial w' = s.nextSerial w

namespace Underway

theorem start (prepared : s.Prepared) (consistent : Consistent w.hosted) (placed : s.Placed w.hosted)
    (clock : Instant) : Underway s w (s.settled (s.origin clock w)).timeless s w where
  prepared := prepared
  consistent := consistent
  placed := placed
  intent := rfl
  leads clock' := s.timeless_settled_origin clock' clock w
  others _ _ := rfl
  serial := rfl

theorem identifier_origin (underway : Underway s w goal s' w') (clock : Instant) :
    (s'.origin clock w').identifier = goal.identifier := by
  rw [← underway.leads clock]
  rfl

theorem halfway (underway : Underway s w goal s' w') (halfway : Halfway s' clock w' s'' w'') :
    Underway s w goal s'' w'' := by
  cases halfway with
  | waiting looking broken =>
    -- Nothing was changed, and the next sync finds the same resource or none again.
    have intent := looking.intent
    have found := looking.resource?_eq underway.consistent broken.hosted
    refine ⟨underway.prepared.of_intent intent, broken.hosted ▸ underway.consistent, ?_,
      intent.trans underway.intent, ?_, ?_, ?_⟩
    · rcases looking.identifier with same | ⟨unknown, -⟩
      · rw [Spec.Placed, same, broken.hosted]
        exact underway.placed
      · exact .inl unknown
    · intro clock'
      rw [Spec.origin_congr intent found broken.serial, Spec.settled_eq_of_intent intent,
        underway.leads]
    · rw [broken.hosted]
      exact underway.others
    · rw [Spec.nextSerial_congr found broken.serial]
      exact underway.serial
  | begun h intent identifier toward broken =>
    -- The resource stands under the identifier that the specification has learnt, part of the way
    -- to the goal.
    have known := s'.identifier_origin_ne_empty underway.consistent clock
    have same := underway.identifier_origin clock
    have there : w''.hosted.get? s''.identifier = some h := by
      rw [broken.hosted, identifier, Dict.get?_insert_self]
    have found : s''.resource? w''.toHost = some h := Spec.resource?_of_get? there
    have intents := intent.trans underway.intent
    refine ⟨underway.prepared.of_intent intent, ?_, .inr (.inl ?_), intents, ?_, ?_, ?_⟩
    · rw [broken.hosted, ← toward.identifier]
      exact underway.consistent.insert (toward.identifier ▸ known)
    · exact Dict.contains_iff.mpr ⟨h, there⟩
    · intro clock'
      rw [Spec.origin_of_resource? found, Spec.settled_eq_of_intent intent, toward.settled,
        underway.leads]
    · intro key other
      rw [broken.hosted, Dict.get?_insert_of_ne _ _ (same ▸ other)]
      exact underway.others key other
    · rw [Spec.nextSerial, if_pos (by rw [found]; rfl), broken.serial, underway.serial]

theorem of_eq (underway : Underway s w goal s' w') (hosted : w''.hosted = w'.hosted)
    (serial : w''.serial = w'.serial) : Underway s w goal s' w'' := by
  have found : s'.resource? w''.toHost = s'.resource? w'.toHost := Spec.resource?_congr hosted
  obtain ⟨prepared, consistent, placed, intent, leads, others, serial'⟩ := underway
  refine ⟨prepared, hosted ▸ consistent, hosted ▸ placed, intent, ?_, hosted ▸ others, ?_⟩
  · intro clock
    rw [Spec.origin_congr rfl found serial, leads]
  · rw [Spec.nextSerial_congr found serial, serial']

end Underway

/-- The resource is as it should be, and all other resources are as they were. -/
structure Arrived (s : Spec k) (w : Simulator k) (goal : HostedOf k) (s' : Spec k)
    (w' : Simulator k) : Prop where
  resource : ∃ h, h.timeless = goal ∧ w'.hosted.get? goal.identifier = some h ∧
    s'.timeless = (s.synced .epoch h).timeless
  others : ∀ key, key ≠ goal.identifier → w'.hosted.get? key = w.hosted.get? key
  serial : w'.serial = s.nextSerial w

theorem Underway.arrived {o : SyncOutcome k} (underway : Underway s w goal s' w')
    (finished : Finished s' clock now w' o s'' w'') : Arrived s w goal s'' w'' := by
  obtain ⟨-, -, rfl, world⟩ := finished
  have same := underway.identifier_origin clock
  refine ⟨⟨_, underway.leads clock, ?_, ?_⟩, ?_, world.serial.trans underway.serial⟩
  · rw [world.hosted, same, Dict.get?_insert_self]
  · rw [Spec.synced_eq_of_intent underway.intent]
    exact s.timeless_synced now .epoch rfl
  · intro key other
    rw [world.hosted, Dict.get?_insert_of_ne _ _ (same ▸ other)]
    exact underway.others key other

/-- Whoever arrives at one goal arrives at the same hosts and specifications, apart from times. -/
theorem Arrived.alike (first : Arrived s w goal s' w') (second : Arrived s w goal s'' w'') :
    s'.timeless = s''.timeless ∧
      ∀ key, (w'.hosted.get? key).map Hosted.timeless = (w''.hosted.get? key).map Hosted.timeless := by
  obtain ⟨⟨h, leads, there, spec⟩, others, -⟩ := first
  obtain ⟨⟨h', leads', there', spec'⟩, others', -⟩ := second
  refine ⟨?_, fun key => ?_⟩
  · rw [spec, spec']
    exact s.timeless_synced .epoch .epoch (leads.trans leads'.symm)
  · by_cases same : key = goal.identifier
    · rw [same, there, there', Option.map_some, Option.map_some, leads, leads']
    · rw [others key same, others' key same]

/-! ## Again and again -/

/-- The session before the sync of a given number, each one at its own times. -/
def retried (settings : RunSettings) (clock now : Nat → Instant) (x : Session k (Simulator k)) :
    Nat → Session k (Simulator k)
  | 0 => x
  | n + 1 =>
    (((settings.engine (clock n) k).sync (now n)).run (retried settings clock now x n)).2

structure Along (s : Spec k) (w : Simulator k) (goal : HostedOf k)
    (x : Session k (Simulator k)) : Prop where
  live : x.token = .live
  accepted : x.spec.prepare.2 = .ok ()
  underway : Underway s w goal x.spec.prepare.1 x.world

/-- A sync on the way arrives, or a fault is used up and it is on the way still. -/
theorem Along.step {x x' : Session k (Simulator k)} {answer : Except Failure (SyncOutcome k)}
    (along : Along s w goal x) (ran : ((settings.engine clock k).sync now).run x = (answer, x')) :
    (∃ o, answer = .ok o ∧ o.warnings = [] ∧ Arrived s w goal x'.spec x'.world) ∨
      Along s w goal x' ∧ x'.world.pendingFaults < x.world.pendingFaults := by
  obtain ⟨live, accepted, underway⟩ := along
  have begins : x = ⟨x.spec, x.world, .live⟩ := by rw [← live]
  rw [begins] at ran
  obtain ⟨ends, live'⟩ :=
    (Run.Ensures.sync accepted underway.consistent underway.placed).elim ran
  rcases ends with ⟨o, rfl, finished⟩ | ⟨-, halfway⟩
  · exact .inl ⟨o, rfl, finished.warnings, underway.arrived finished⟩
  · have underway' := underway.halfway halfway
    have same := underway'.prepared.prepare_eq
    refine .inr ⟨⟨live', ?_, ?_⟩, ?_⟩
    · rw [same]
    · rw [same]
      exact underway'
    · cases halfway with
      | waiting _ broken => exact broken.struck.pendingFaults_lt
      | begun _ _ _ _ broken => exact broken.struck.pendingFaults_lt

/-- The sync of a number answers without warnings and arrives; the sessions before are on the way. -/
structure ArrivesAt (settings : RunSettings) (clock now : Nat → Instant) (s : Spec k)
    (w : Simulator k) (goal : HostedOf k) (x : Session k (Simulator k)) (n : Nat) : Prop where
  along : ∀ m ≤ n, Along s w goal (retried settings clock now x m)
  clean : ∃ o, (((settings.engine (clock n) k).sync (now n)).run
    (retried settings clock now x n)).1 = .ok o ∧ o.warnings = []
  arrived : Arrived s w goal (retried settings clock now x (n + 1)).spec
    (retried settings clock now x (n + 1)).world

/-- After a number of syncs one has arrived, or that many faults are used up. -/
theorem arrivesAt_or_along {x : Session k (Simulator k)} (along : Along s w goal x)
    (settings : RunSettings) (clock now : Nat → Instant) (n : Nat) :
    (∃ m < n, ArrivesAt settings clock now s w goal x m) ∨
      (∀ m ≤ n, Along s w goal (retried settings clock now x m)) ∧
        (retried settings clock now x n).world.pendingFaults + n ≤ x.world.pendingFaults := by
  induction n with
  | zero =>
    refine .inr ⟨fun m below => ?_, Nat.le_refl _⟩
    obtain rfl := Nat.le_zero.mp below
    exact along
  | succ n inductionHypothesis =>
    -- Either one has arrived already, or the next sync arrives, or it uses up one more fault.
    rcases inductionHypothesis with ⟨m, below, arrives⟩ | ⟨alongs, used⟩
    · exact .inl ⟨m, Nat.lt_succ_of_lt below, arrives⟩
    · rcases ran : ((settings.engine (clock n) k).sync (now n)).run
        (retried settings clock now x n) with ⟨answer, x'⟩
      have next : retried settings clock now x (n + 1) = x' := by rw [retried, ran]
      rcases (alongs n (Nat.le_refl n)).step ran with
        ⟨o, answered, clean, arrived⟩ | ⟨along', fewer⟩
      · refine .inl ⟨n, Nat.lt_succ_self n, alongs, ⟨o, ?_, clean⟩, ?_⟩
        · rw [ran, answered]
        · rw [next]
          exact arrived
      -- Another failure, and a fault less.
      · rw [next]
        refine .inr ⟨fun m below => ?_, by omega⟩
        rcases Nat.lt_or_eq_of_le below with below | rfl
        · exact alongs m (Nat.le_of_lt_succ below)
        · rw [next]
          exact along'

theorem exists_arrivesAt {x : Session k (Simulator k)} (along : Along s w goal x)
    (settings : RunSettings) (clock now : Nat → Instant) :
    ∃ n ≤ x.world.pendingFaults, ArrivesAt settings clock now s w goal x n := by
  rcases arrivesAt_or_along along settings clock now (x.world.pendingFaults + 1) with
    ⟨n, below, arrives⟩ | ⟨-, used⟩
  · exact ⟨n, Nat.le_of_lt_succ below, arrives⟩
  · omega

/-- What has been created between two hosts: one resource with the next identifier at most. -/
structure AtMostOneCreated (w w' : Simulator k) : Prop where
  serial : w'.serial ≤ w.serial.succ
  keys : ∀ key, w'.hosted.contains key = true →
    w.hosted.contains key = true ∨ key = k.identifier w.serial.next

theorem Spec.nextSerial_le (s : Spec k) (w : Simulator k) : s.nextSerial w ≤ w.serial.succ := by
  unfold nextSerial
  split
  · exact w.serial.le_succ
  · exact le_rfl

theorem Spec.le_nextSerial (s : Spec k) (w : Simulator k) : w.serial ≤ s.nextSerial w := by
  unfold nextSerial
  split
  · exact le_rfl
  · exact w.serial.le_succ

theorem atMostOneCreated {clock : Instant} (consistent : Consistent w.hosted)
    (goes : (s.origin clock w).identifier = goal.identifier)
    (others : ∀ key, key ≠ goal.identifier → w'.hosted.get? key = w.hosted.get? key)
    (serial : w'.serial ≤ s.nextSerial w) : AtMostOneCreated w w' := by
  refine ⟨serial.trans (s.nextSerial_le w), fun key present => ?_⟩
  by_cases same : key = goal.identifier
  · rw [same, ← goes]
    cases found : s.resource? w.toHost with
    | some h =>
      rw [Spec.origin_of_resource? found]
      exact .inl (Dict.contains_iff.mpr ⟨h, (Spec.get?_of_resource? consistent found).2⟩)
    | none =>
      rw [Spec.origin_of_missing found]
      exact .inr rfl
  · rw [Dict.contains, others key same] at present
    exact .inl present

/-- Syncing an accepted specification again and again, whatever faults are pending, succeeds without
warnings after as many failures as there are faults at most.  At no time more than one resource has
been created, and in the end everything is as after a single sync without faults. -/
theorem sync_recovers (settings : RunSettings) (clock now : Nat → Instant) (clock' now' : Instant)
    (consistent : Consistent w.hosted) (accepted : s.prepare.2 = .ok ()) (placed : s.Placed w.hosted) :
    ∃ n ≤ w.pendingFaults,
      (∃ o, (((settings.engine (clock n) k).sync (now n)).run
        (retried settings clock now ⟨s, w, .live⟩ n)).1 = .ok o ∧ o.warnings = []) ∧
      (∀ m ≤ n + 1, AtMostOneCreated w (retried settings clock now ⟨s, w, .live⟩ m).world) ∧
      ((settings.engine clock' k).sync now').Ensures s w.calm
        fun answer s' w' => (∃ o, answer = .ok o) ∧
          (retried settings clock now ⟨s, w, .live⟩ (n + 1)).spec.timeless = s'.timeless ∧
          ∀ key, ((retried settings clock now ⟨s, w, .live⟩ (n + 1)).world.hosted.get? key).map
            Hosted.timeless = (w'.hosted.get? key).map Hosted.timeless := by
  have start := Underway.start (Spec.prepared_prepare accepted) consistent placed clock'
  have goes := start.identifier_origin clock'
  have along : Along s.prepare.1 w (s.prepare.1.settled (s.prepare.1.origin clock' w)).timeless
      ⟨s, w, .live⟩ := ⟨rfl, accepted, start⟩
  obtain ⟨n, bound, alongs, clean, arrived⟩ := exists_arrivesAt along settings clock now
  refine ⟨n, bound, clean, fun m below => ?_, ?_⟩
  · rcases Nat.lt_or_eq_of_le below with below | rfl
    · obtain ⟨-, -, underway⟩ := alongs m (Nat.le_of_lt_succ below)
      apply atMostOneCreated consistent goes underway.others
      rw [← underway.serial]
      exact Spec.le_nextSerial _ _
    · exact atMostOneCreated consistent goes arrived.others arrived.serial.le
  -- The sync without faults begins at the same place, so it arrives at the same goal.
  · refine (Run.Ensures.sync_quiet (w := w.calm) accepted consistent placed fun _ => rfl).mono ?_
    rintro _ s' w' ⟨o, rfl, finished⟩
    have calm : Underway s.prepare.1 w _ s.prepare.1 w.calm := start.of_eq rfl rfl
    exact ⟨⟨o, rfl⟩, arrived.alike (calm.arrived finished)⟩

/-- A host of the key that needs work, the first update of which fails. -/
def Sample.faulty : Simulator .cryptoKey :=
  host fun op => if op = .update then some (.transport "connection reset") else none

/-- The second sync of that key succeeds at the latest. -/
theorem sync_recovers_key :
    ∃ n ≤ 1,
      (∃ o, (((({} : RunSettings).engine .epoch .cryptoKey).sync .epoch).run
        (retried {} (fun _ => .epoch) (fun _ => .epoch) ⟨Sample.spec, Sample.faulty, .live⟩ n)).1 =
          .ok o ∧ o.warnings = []) ∧
      (∀ m ≤ n + 1, AtMostOneCreated Sample.faulty
        (retried {} (fun _ => .epoch) (fun _ => .epoch)
          ⟨Sample.spec, Sample.faulty, .live⟩ m).world) := by
  obtain ⟨n, bound, clean, created, -⟩ := sync_recovers (w := Sample.faulty) {} (fun _ => .epoch)
    (fun _ => .epoch) .epoch .epoch (Sample.consistent_host _) Sample.accepted (.inl rfl)
  have one : Sample.faulty.pendingFaults = 1 := by decide
  exact ⟨n, one ▸ bound, clean, created⟩

end DesiredState
