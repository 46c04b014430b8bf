import DesiredState.Proofs.CommandLine.Visits
import DesiredState.Proofs.Record.Repeat

/-!
# Visits that share a store

Two results about visits that follow each other, from no file on.  What they record and what is hosted
stay in accord, whatever is synced and deleted, and wherever a visit fails or is interrupted.  And a
visit that syncs once more what the visit before it synced changes nothing.

Contents:

* `succession_accords` — the accord.
* `interrupted_sync_misses` — a visit that syncs need not come as far as to learn of what it syncs.
* `sync_repeats` — the repeated sync.
-/

namespace DesiredState.CommandLine

open Computer (platform)

/-! ## Accord -/

/-- After any visits the file holds a state that can be read back.  The hosted resources of each kind
are keyed by their identifiers and have names of their own; what is recorded has kinds and names of its
own, and is hosted under its identifier and its name; and what is hosted is recorded under its kind, its
name and its identifier, unless a visit gave it up under policy `Orphan` and none has learnt of it
since.  A visit that syncs learns of all its resources unless it is interrupted.  Where manifest or state
cannot be had, a run leaves all files as they are. -/
theorem succession_accords {vs : List Visit} (succession : Succession vs)
    (natural : Natural (Issued vs) (Named vs)) :
    (∀ now serial, ∃ s, stateIn (leftBy vs) now = .ok s ∧
      (Provider.ofSnapshot serial s.provider).snapshot = s.provider ∧
      Accord (Released vs) s.resources (.ofSnapshot serial s.provider) ∧
      ∀ r ∈ s.resources, r.identifier ≠ "") ∧
    (∀ v ∈ vs, v.computer.interruption = none → ∀ key, v.Syncs key → v.Learns key) ∧
    ∀ (palette : Palette) (arguments : List String) (c : Computer) (request : Request)
      (work : Work) (e : ProgramError),
      requestOn c arguments = .ok request → request.command = work.command →
      request.found c = .error e →
      runProgram platform palette arguments c =
        (1, { c with errors := c.errors ++ ("Error: " ++ e.message ++ "\n") }) := by
  refine ⟨fun now serial => ?_, succession.learns natural, ?_⟩
  · obtain ⟨s, read, coherent⟩ := succession.coherent natural now
    obtain ⟨accord, -⟩ := coherent.provider serial
    refine ⟨s, read, coherent.snapshot_provider serial, accord, fun r member => ?_⟩
    obtain ⟨h, there, -⟩ := accord.hosts r member
    exact (accord.consistent r.kind _ h there).1
  · intro palette arguments c request work e asked command lost
    rw [runProgram_eq palette asked, run_of_lost palette command lost]
    rfl

/-- A key is synced, given up, missed by an interrupted visit, and then synced to the end. -/
theorem succession_accords_key :
    Succession (Sample.later :: Sample.visits Sample.history) ∧
      Natural (Issued (Sample.later :: Sample.visits Sample.history))
        (Named (Sample.later :: Sample.visits Sample.history)) ∧
      ∃ s, stateIn Sample.later.after .epoch = .ok s ∧
        Accord (Released (Sample.later :: Sample.visits Sample.history)) s.resources
          (.ofSnapshot 1 s.provider) := by
  refine ⟨Sample.succession_later, Sample.natural_later, ?_⟩
  obtain ⟨s, read, -, accord, -⟩ :=
    (succession_accords Sample.succession_later Sample.natural_later).1 .epoch 1
  exact ⟨s, read, accord⟩

/-- That a later visit syncs what was given up does not suffice: interrupted before its first call, it
leaves a key hosted that is not recorded. -/
theorem interrupted_sync_misses :
    Succession (Sample.visits Sample.history) ∧
      Natural (Issued (Sample.visits Sample.history)) (Named (Sample.visits Sample.history)) ∧
      ∃ s h, stateIn (leftBy (Sample.visits Sample.history)) .epoch = .ok s ∧
        ((Provider.ofSnapshot 1 s.provider).hosted .cryptoKey).get? "key-000000000000" = some h ∧
        s.resources = [] ∧
        ¬GivenUp Visit.Syncs (Sample.visits Sample.history) (.cryptoKey, h.name) := by
  have hosted : (((Provider.ofSnapshot 1 (Sample.left Sample.history).provider).hosted .cryptoKey).get?
      "key-000000000000").map Hosted.name = some "alias/primary" := by
    decide +kernel
  obtain ⟨h, there, name⟩ := Option.map_eq_some_iff.mp hosted
  refine ⟨Sample.succession _, Sample.natural _, _, h, Sample.stateIn_leftBy _, there,
    by decide +kernel, ?_⟩
  rw [name]
  -- The last visit gave nothing up, and it was about the key.
  rintro (⟨cont, -, -, work, -⟩ | ⟨-, missed⟩)
  · cases work
  · refine missed ⟨false, Sample.manifest, _, rfl,
      Sample.done_visit (Sample.stateIn_leftBy _) (.sync false) (some 0) 2, ?_⟩
    decide +kernel

/-! ## Repetition -/

/-- A visit that syncs and is not interrupted ends well, whatever the visits before it were.  One that
syncs the same manifest after it reports that there was nothing to do for any of its resources, with the
identifiers of the first report, and leaves what the file says is hosted as it was. -/
theorem sync_repeats {vs : List Visit} {v w : Visit} {m : Manifest} {cont cont' : Bool}
    (succession : Succession (v :: vs)) (natural : Natural (Issued (v :: vs)) (Named (v :: vs)))
    (sync : v.work = .sync cont) (manifest : v.manifest = .ok m)
    (whole : v.computer.interruption = none) (writable : Writable v.store v.computer)
    (finds : w.before = v.after) (again : w.work = .sync cont') (manifest' : w.manifest = .ok m)
    (whole' : w.computer.interruption = none) (writable' : Writable w.store w.computer) :
    v.ends.1 = 0 ∧ w.ends.1 = 0 ∧
    ∃ s s', v.Done m s ∧ v.Shows (v.outcome m s).1 ∧ w.Done m s' ∧ w.Shows (w.outcome m s').1 ∧
      (w.outcome m s').1.entries.map ReportEntry.key = m.resources.map Resource.key ∧
      (∀ e ∈ (w.outcome m s').1.entries, e.Idle) ∧
      (w.outcome m s').1.entries.map ReportEntry.identifier =
        (v.outcome m s).1.entries.map ReportEntry.identifier ∧
      ∀ now, ∃ s'', stateIn w.after now = .ok s'' ∧ s''.provider = s'.provider := by
  obtain _ | ⟨earlier, found, unidentified, fresh⟩ := succession
  obtain ⟨s, read, coherent⟩ := earlier.coherent (natural_of_cons natural) v.computer.clock
  rw [← found] at read
  -- The first of the two visits works on the coherent state that the earlier ones left.
  have coherent := coherent_cons_names (v := v) coherent
  obtain ⟨done, code, shows⟩ :=
    Visit.done_of_writable manifest read (Visit.begun_of_sync sync ▸ writable)
  have leaves := done.leaves sync
  have coherent' := done.coherent coherent (unidentified m manifest) fresh natural
  have left := done.stateIn_after coherent'.current w.computer.clock
  -- The second one works on what documents keep of the state after the first.
  rw [← finds] at left
  obtain ⟨done', code', shows'⟩ :=
    Visit.done_of_writable manifest' left (Visit.begun_of_sync again ▸ writable')
  have token : v.computer.token = .live := by rw [Computer.token, whole]; rfl
  have token' : w.computer.token = .live := by rw [Computer.token, whole']; rfl
  have syncs : s.sync v.computer.clock v.computer.numbering .live cont m = v.outcome m s := by
    rw [Visit.outcome_of_sync sync, token]
  have syncs' : (v.outcome m s).2.kept.sync w.computer.clock w.computer.numbering .live cont' m =
      w.outcome m (v.outcome m s).2.kept := by
    rw [Visit.outcome_of_sync again, token']
  rw [token] at leaves
  obtain ⟨success, success', keys, idle, identifiers, provider⟩ :=
    coherent.sync_again (Visit.accepted manifest) (unidentified m manifest) done.named
      (fresh _ leaves) (natural.mono leaves.issued) syncs syncs'
  refine ⟨?_, ?_, s, _, done, shows, done', shows', keys, idle, identifiers, fun now => ?_⟩
  · rw [code, exitCode, if_pos success]
  · rw [code', exitCode, if_pos success']
  · refine ⟨_, done'.stateIn_after ?_ now, provider⟩
    rw [← syncs']
    exact coherent'.current

/-- A key that is synced after it was given up, and after an interrupted visit, is not touched when it
is synced again. -/
theorem sync_repeats_key :
    Succession (Sample.later :: Sample.visits Sample.history) ∧
      Sample.later.ends.1 = 0 ∧ Sample.again.ends.1 = 0 ∧
      ∃ s, Sample.again.Done Sample.manifest s ∧
        ∀ e ∈ (Sample.again.outcome Sample.manifest s).1.entries, e.Idle := by
  obtain ⟨code, code', s, s', -, -, done, -, -, idle, -⟩ := sync_repeats
    Sample.succession_later Sample.natural_later rfl (Sample.manifest_visit ..) rfl
    (Sample.writable none 3 _ "") Sample.before_again rfl (Sample.manifest_visit ..) rfl
    (Sample.writable none 4 _ "")
  exact ⟨Sample.succession_later, code, code', s', done, idle⟩

end DesiredState.CommandLine
