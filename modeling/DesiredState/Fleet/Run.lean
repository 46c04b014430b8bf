import DesiredState.Fleet.Report
import DesiredState.Host.Provider

/-!
# Runs over many resources

A run works on one resource after the other: in the order of the manifest to bring them about, in
the opposite order to delete them. A failure halts the run, unless it is to go on; a cancellation
always halts it. What comes after is left as it is.

Contents:

* `World`: the provider and the token of a run.
* `Turn`: what working on one resource comes to.
* `syncOne`, `deleteOne`: the work on one resource.
* `runAll`: the work on all of them.
* `syncAll`, `deleteAll`: the two runs.
-/

namespace DesiredState

/-- The provider, and the token that may cancel the run. -/
structure World where
  provider : Provider
  token : Token

/-- The settings of a run. -/
structure RunSettings where
  snapshotStem : String := defaultSnapshotStem
  continueOnError : Bool := false

/-- What working on one resource comes to: the resource afterwards, what is reported of it, its
failure if it failed, and the world afterwards. -/
structure Turn where
  resource : Resource
  entry : ReportEntry
  failure : Option Failure
  world : World

namespace Turn

def isCancelled (t : Turn) : Bool := t.failure.any Failure.isCancelled

def halts (continueOnError : Bool) (t : Turn) : Bool :=
  t.failure.isSome && (!continueOnError || t.isCancelled)

end Turn

/-! ## One resource -/

/-- The engine of a kind over the simulated provider. -/
def RunSettings.engine (settings : RunSettings) (now : Instant) (k : Kind) :
    Engine k (Simulator k) :=
  ⟨Simulator.gateway k now, settings.snapshotStem⟩

/-- Runs an engine on one resource, and reports what it answers. -/
def workOn (r : Resource) (w : World) (run : Run r.kind (Simulator r.kind) α)
    (report : Spec r.kind → α → ReportEntry) : Turn :=
  let (answer, after) := run.run ⟨r.spec, w.provider.simulator r.kind, w.token⟩
  let resource : Resource := ⟨r.kind, after.spec⟩
  let world : World := ⟨w.provider.withSimulator after.world, after.token⟩
  match answer with
  | .ok a => ⟨resource, report after.spec a, none, world⟩
  | .error f => ⟨resource, .failed resource f.message, some f, world⟩

def syncOne (settings : RunSettings) (now : Instant) (r : Resource) (w : World) : Turn :=
  workOn r w ((settings.engine now r.kind).sync now) ReportEntry.synced

/-- Deletes one resource in the way of its policy. -/
def deleteOne (settings : RunSettings) (now : Instant) (r : Resource) (w : World) : Turn :=
  workOn r w (settings.engine now r.kind).delete ReportEntry.deleted

/-! ## All resources -/

/-- What a run leaves behind: the resources and the report in the order of the run, and the world. -/
structure RunResult where
  resources : List Resource
  report : Report
  world : World

def RunResult.untouched (rs : List Resource) (cancelled : Bool) (w : World) : RunResult :=
  ⟨rs, ⟨rs.map fun r => .ofStatus r .notRun, cancelled⟩, w⟩

def RunResult.after (t : Turn) (rest : RunResult) : RunResult :=
  ⟨t.resource :: rest.resources, { rest.report with entries := t.entry :: rest.report.entries },
    rest.world⟩

/-- Works on one resource after the other until a failure halts the run. -/
def runAll (work : Resource → World → Turn) (continueOnError : Bool) :
    List Resource → World → RunResult
  | [], w => .untouched [] false w
  | r :: rest, w =>
    let t := work r w
    if t.halts continueOnError then .after t (.untouched rest t.isCancelled t.world)
    else .after t (runAll work continueOnError rest t.world)

/-- Brings all resources to their desired states, in order. -/
def syncAll (settings : RunSettings) (now : Instant) (rs : List Resource) (w : World) : RunResult :=
  runAll (syncOne settings now) settings.continueOnError rs w

/-- Deletes all resources, the last one first. -/
def deleteAll (settings : RunSettings) (now : Instant) (rs : List Resource) (w : World) :
    RunResult :=
  runAll (deleteOne settings now) settings.continueOnError rs.reverse w

end DesiredState
