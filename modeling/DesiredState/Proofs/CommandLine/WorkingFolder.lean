import DesiredState.Proofs.CommandLine.Commands
import DesiredState.Proofs.Manifest.Discovery

/-!
# Requests without a manifest

A request that names no manifest goes with the manifest of the working folder, exactly as if that one
had been named.  The search starts from the dot that stands for the working folder, and a dot has nothing
above it but the empty path, which is the working folder again.  So a manifest in a folder above is not
found, though a search that starts from a path from the top would find it.

Contents:

* `run_find_here` — what the search from the working folder finds.
* `Provided` — programs that do not end because a manifest is missing.
* `Request.named`, `run_named`, `run_of_missing` — a request by what the search finds.
* `Consults`, `Unprovided`, `consults_working` — the main result.
-/

namespace DesiredState

open Manifest (fileNames candidates)

variable {c : Computer} {name : String}

/-! ## The search from the working folder -/

/-- The working folder of a computer can be reached from the top. -/
def Computer.Stands (c : Computer) : Prop :=
  ∀ above, above <+: c.working → c.tree.isFolder above = true

theorem Computer.Stands.isFolder (stands : c.Stands) : c.tree.isFolder c.working = true :=
  stands c.working List.prefix_rfl

theorem Path.ancestors_here : Path.here.ancestors = [Path.here, ⟨false, []⟩] := by
  rw [Path.ancestors_of_parent (q := ⟨false, []⟩) (by decide), Path.ancestors_of_top (by decide)]

/-- The path of a dot and a name leads to that name in the working folder. -/
theorem FileTree.place?_here_child (stands : c.Stands) (file : Path.IsFileName name) :
    c.tree.place? c.working (Path.here.child name) = some (c.working ++ [name]) := by
  rw [Path.child_eq file]
  show c.tree.walk? c.working [".", name] = _
  rw [FileTree.walk?_cons_iff, FileTree.step_of_idle (by decide), FileTree.walk?_cons_iff,
    FileTree.step_of_isName file.named file.down]
  exact ⟨stands.isFolder, stands.isFolder, rfl⟩

/-- So does the name alone. -/
theorem FileTree.place?_child_empty (stands : c.Stands) (file : Path.IsFileName name) :
    c.tree.place? c.working (Path.child ⟨false, []⟩ name) = some (c.working ++ [name]) := by
  rw [Path.child_eq file]
  show c.tree.walk? c.working [name] = _
  rw [FileTree.walk?_cons_iff, FileTree.step_of_isName file.named file.down]
  exact ⟨stands.isFolder, rfl⟩

theorem FileTree.place?_here (stands : c.Stands) : c.tree.place? c.working .here = some c.working := by
  show c.tree.walk? c.working ["."] = _
  rw [FileTree.walk?_cons_iff, FileTree.step_of_idle (by decide)]
  exact ⟨stands.isFolder, rfl⟩

/-- A path that leads to a name in the working folder is there exactly if that folder holds the name. -/
theorem FileTree.isPresent_iff_holds (stands : c.Stands) {p : Path}
    (leads : c.tree.place? c.working p = some (c.working ++ [name])) :
    c.tree.isPresent c.working p = true ↔ c.tree.Holds c.working name := by
  rw [FileTree.isPresent, leads, Option.bind_some]
  exact ⟨fun there => ⟨stands, there⟩, And.right⟩

theorem candidates_here :
    candidates .here = fileNames.map Path.here.child ++ fileNames.map (Path.child ⟨false, []⟩) := by
  rw [candidates, Path.ancestors_here, List.flatMap_cons, List.flatMap_singleton]

/-- The first manifest of the working folder is found. -/
theorem run_find_here (stands : c.Stands) (nearest : c.tree.Nearest c.working c.working name) :
    (Manifest.find Computer.platform .here).run c = (.ok (Path.here.child name), c) := by
  obtain ⟨before, after, names, none⟩ := nearest.first
  have present {other : String} (member : other ∈ fileNames) :=
    FileTree.isPresent_iff_holds stands
      (FileTree.place?_here_child stands (FileTree.isFileName_of_mem member))
  -- The candidates of the dot come first, so those of the empty path do not matter.
  have found : (candidates .here).find? (c.tree.isPresent c.working) = some (Path.here.child name) := by
    rw [candidates_here, List.find?_append, List.find?_eq_some_iff_append.mpr, Option.some_or]
    refine ⟨(present nearest.mem_fileNames).mpr nearest.holds, before.map Path.here.child,
      after.map Path.here.child, by rw [names, List.map_append, List.map_cons], fun p member => ?_⟩
    obtain ⟨other, earlier, rfl⟩ := List.mem_map.mp member
    have absent := mt (present (by simp [names, earlier])).mp (none other earlier)
    simpa using absent
  rw [Manifest.find, Attempt.run_bind, Attempt.run_lift, Computer.run_findM?_isPresent, found]
  rfl

/-- Without a manifest in the working folder none is found, whatever the folders above hold. -/
theorem run_find_here_of_none (stands : c.Stands)
    (none : ∀ name ∈ fileNames, ¬c.tree.Holds c.working name) :
    (Manifest.find Computer.platform .here).run c =
      (.error (.manifest (.fileNotFound "./infra.yaml")), c) := by
  have absent {p : Path} (member : p ∈ candidates .here) : ¬c.tree.isPresent c.working p = true := by
    rw [candidates_here, List.mem_append, List.mem_map, List.mem_map] at member
    rcases member with ⟨name, manifest, rfl⟩ | ⟨name, manifest, rfl⟩
    · rw [FileTree.isPresent_iff_holds stands
        (FileTree.place?_here_child stands (FileTree.isFileName_of_mem manifest))]
      exact none name manifest
    · rw [FileTree.isPresent_iff_holds stands
        (FileTree.place?_child_empty stands (FileTree.isFileName_of_mem manifest))]
      exact none name manifest
  have missing : (candidates .here).find? (c.tree.isPresent c.working) = Option.none :=
    List.find?_eq_none.mpr fun _ => absent
  have text : (Path.here.child "infra.yaml").text = "./infra.yaml" := by decide
  rw [Manifest.find, Attempt.run_bind, Attempt.run_lift, Computer.run_findM?_isPresent, missing, text]
  rfl

/-! ## Programs that miss no manifest -/

/-- The error is that a manifest is missing. -/
def ProgramError.isMissing : ProgramError → Bool
  | .manifest (.fileNotFound _) => true
  | _ => false

theorem Manifest.isMissing_of_verdict {m : Manifest} {e : ManifestError} {allowUntagged : Bool}
    (judged : m.verdict allowUntagged = .error e) : (ProgramError.manifest e).isMissing = false := by
  unfold Manifest.verdict at judged
  split at judged
  · obtain rfl := Except.error.inj judged
    rfl
  · obtain rfl := Except.error.inj judged
    rfl
  · cases judged

namespace CommandLine

open Computer (platform)

variable {α β : Type} {request : Request} {p : Path}

/-- On a computer a program does not end because a manifest is missing. -/
def Provided (act : Attempt (StateM Computer) α) (c : Computer) : Prop :=
  ∀ e, (act.run c).1 = .error e → e.isMissing = false

namespace Provided

theorem pure (a : α) (c : Computer) : Provided (Pure.pure a) c := nofun

theorem lift (act : StateM Computer α) (c : Computer) : Provided (liftM act) c := nofun

theorem throw {e : ProgramError} (other : e.isMissing = false) (c : Computer) :
    Provided (MonadExcept.throw e : Attempt (StateM Computer) α) c := by
  intro e' same
  rwa [← Except.error.inj same]

theorem andThen {act : Attempt (StateM Computer) β} {rest : β → Attempt (StateM Computer) α}
    (first : Provided act c) (second : ∀ b c', act.run c = (.ok b, c') → Provided (rest b) c') :
    Provided (act >>= rest) c := by
  intro e
  rw [Attempt.run_bind]
  cases ran : act.run c with
  | mk answer c' =>
    cases answer with
    | ok b => exact second b c' ran e
    | error e' =>
      intro same
      rw [← Except.error.inj same]
      exact first e' (by rw [ran])

theorem attempt (action : StateM Computer (Except String α)) (c : Computer) :
    Provided (DesiredState.attempt action) c := by
  refine andThen (lift action c) fun answer c' _ => ?_
  cases answer with
  | ok a => exact pure a c'
  | error message => exact throw rfl c'

theorem loadEnvironment (folder : Path) (c : Computer) : Provided (EnvFile.load platform folder) c := by
  unfold EnvFile.load
  refine andThen (lift _ c) fun present c' _ => ?_
  cases present with
  | false => exact pure _ c'
  | true =>
    refine andThen (lift _ c') fun answer c' _ => ?_
    cases answer with
    | error cause => exact throw rfl c'
    | ok text =>
      dsimp only
      split
      · exact throw rfl c'
      · exact lift _ c'

theorem loadManifest {p : Path} (present : c.tree.isPresent c.working p = true) (defined : Dict String) :
    Provided (Manifest.load platform defined p) c := by
  have read : Provided (Manifest.read platform p) c := by
    unfold Manifest.read
    refine andThen (lift _ c) fun there c' looked => ?_
    obtain ⟨same, -⟩ := Prod.mk.inj looked
    obtain rfl : c.tree.isPresent c.working p = there := Except.ok.inj same
    rw [present]
    refine andThen (lift _ c') fun answer c' _ => ?_
    cases answer with
    | error cause => exact throw rfl c'
    | ok text =>
      dsimp only [Manifest.parse]
      cases Manifest.ofYaml text with
      | ok manifest => exact pure _ c'
      | error fault => exact throw rfl c'
  exact andThen read fun _ c' _ => andThen (lift _ c') fun _ c' _ => pure _ c'

/-- A manifest that is there is opened, or refused for what is in it. -/
theorem openManifest {p : Path} (present : c.tree.isPresent c.working p = true) :
    Provided (openManifest platform (some p)) c := by
  unfold CommandLine.openManifest
  refine andThen (pure p c) fun path c' named => ?_
  obtain ⟨same, rfl⟩ := Prod.mk.inj named
  obtain rfl := Except.ok.inj same
  refine andThen (loadEnvironment _ c) fun defined c' loaded => ?_
  -- Reading the variables changes nothing, so the manifest is still there.
  obtain rfl : c = c' := by
    have looks := Looks.loadEnvironment p.folder c
    rw [loaded] at looks
    exact looks.symm
  refine andThen (loadManifest present defined) fun manifest c' _ => ?_
  split
  next => exact pure _ c'
  next m e judged =>
    exact throw (Manifest.isMissing_of_verdict (congrArg Prod.snd judged)) c'

theorem loadState (store : Store) (c : Computer) : Provided (store.load platform) c := by
  unfold Store.load
  refine andThen (lift _ c) fun present c' _ => ?_
  cases present with
  | false => exact pure _ c'
  | true =>
    refine andThen (lift _ c') fun answer c' _ => ?_
    cases answer with
    | error cause => exact throw rfl c'
    | ok text =>
      dsimp only
      split
      · exact pure _ c'
      · exact throw rfl c'

theorem openState (store : Store) (c : Computer) : Provided (openState platform store) c := by
  refine andThen (loadState store c) fun state c' _ => ?_
  cases state with
  | some s => exact pure s c'
  | none => exact andThen (lift _ c') fun _ c' _ => pure _ c'

theorem save (store : Store) (s : RecordedState) (c : Computer) : Provided (store.save platform s) c := by
  have makeFolder : Provided (store.makeFolder platform) c := by
    unfold Store.makeFolder
    split
    · refine andThen (lift _ c) fun present c' _ => ?_
      cases present with
      | true => exact pure _ c'
      | false => exact attempt _ c'
    · exact pure _ c
  exact andThen makeFolder fun _ c' _ => andThen (attempt _ c') fun _ c' _ => attempt _ c'

theorem finish (palette : Palette) (request : Request) (store : Store) (outcome : Report × RecordedState)
    (c : Computer) : Provided (finish platform palette request store outcome) c :=
  andThen (save store outcome.2 c) fun _ c' _ => andThen (lift _ c') fun _ c' _ => pure _ c'

theorem confirm (rs : List Resource) (c : Computer) : Provided (confirm platform rs) c :=
  andThen (lift _ c) fun _ c' _ => andThen (attempt _ c') fun _ c' _ => pure _ c'

end Provided

/-! ## Requests that name a manifest -/

/-- The request with the path of a manifest. -/
def Request.named (request : Request) (p : Path) : Request := { request with manifest := some p }

@[simp]
theorem Request.named_manifest : (request.named p).manifest = some p := rfl

@[simp]
theorem Request.named_command : (request.named p).command = request.command := rfl

@[simp]
theorem Request.named_state : (request.named p).state = request.state := rfl

@[simp]
theorem Request.named_output : (request.named p).output = request.output := rfl

@[simp]
theorem finish_named (palette : Palette) :
    finish platform palette (request.named p) = finish platform palette request := rfl

theorem run_openManifest_none (c : Computer) :
    (openManifest platform none).run c =
      match (Manifest.find platform .here).run c with
      | (.ok p, c') => (openManifest platform (some p)).run c'
      | (.error e, c') => (.error e, c') := by
  unfold openManifest
  rw [Attempt.run_bind]
  rcases (Manifest.find platform .here).run c with ⟨e | p, c'⟩ <;> rfl

/-- The folder beside which the state is kept is that of a named manifest, if the search ends there. -/
theorem stateFolder_named (unnamed : request.manifest = none) {answer : Except ProgramError Path}
    (found : (Manifest.find platform .here).run c = (answer, c))
    (beside : (match answer with
      | .ok q => q.folder
      | .error _ => .here) = p.folder) :
    stateFolder platform request c = stateFolder platform (request.named p) c := by
  unfold stateFolder
  rw [unnamed, Request.named_manifest, Request.named_state]
  cases request.state with
  | some path => rfl
  | none =>
    show ((Manifest.find platform .here).run >>= _ : StateM Computer Path) c = (p.folder, c)
    rw [← beside]
    simp only [StateT.bind, Bind.bind, found]
    cases answer <;> rfl

/-- A request goes with the manifest that is found as if it had been named. -/
theorem run_named (palette : Palette) (unnamed : request.manifest = none)
    (found : (Manifest.find platform .here).run c = (.ok p, c)) :
    (request.run platform palette).run c = ((request.named p).run platform palette).run c := by
  have opens (rest : OpenManifest → Attempt (StateM Computer) UInt32) :
      (openManifest platform none >>= rest).run c = (openManifest platform (some p) >>= rest).run c := by
    rw [Attempt.run_bind, Attempt.run_bind, run_openManifest_none, found]
  unfold Request.run
  rw [Request.named_command]
  cases request.command with
  | validate warnings =>
    simp only [validate, unnamed, Request.named_manifest, Request.named_output]
    exact opens _
  | sync cont =>
    simp only [sync, unnamed, Request.named_manifest, Request.named_state, finish_named]
    exact opens _
  | delete yes cont =>
    simp only [delete, unnamed, Request.named_manifest, Request.named_state, finish_named]
    exact opens _
  | view =>
    simp only [view, Attempt.run_bind, Attempt.run_lift, stateFolder_named unnamed found rfl,
      Request.named_state, Request.named_output]

/-- Where none is found there is nothing to work with. -/
theorem run_of_missing (palette : Palette) (unnamed : request.manifest = none)
    (works : request.command ≠ .view) {e : ProgramError}
    (missing : (Manifest.find platform .here).run c = (.error e, c)) :
    (request.run platform palette).run c = (.error e, c) := by
  have ends (rest : OpenManifest → Attempt (StateM Computer) UInt32) :
      (openManifest platform none >>= rest).run c = (.error e, c) := by
    rw [Attempt.run_bind, run_openManifest_none, missing]
  unfold Request.run
  cases command : request.command with
  | view => exact absurd command works
  | validate warnings =>
    unfold validate
    rw [unnamed]
    exact ends _
  | sync cont =>
    unfold sync
    rw [unnamed]
    exact ends _
  | delete yes cont =>
    unfold delete
    rw [unnamed]
    exact ends _

/-- With a manifest that is there no command misses one. -/
theorem run_provided (palette : Palette) (request : Request)
    (present : c.tree.isPresent c.working p = true) :
    Provided ((request.named p).run platform palette) c := by
  have opened := Provided.openManifest present
  unfold Request.run
  cases (request.named p).command with
  | validate warnings =>
    exact Provided.andThen opened fun _ c' _ => .andThen (.lift _ c') fun _ c' _ => .pure _ c'
  | sync cont =>
    refine Provided.andThen opened fun o c' _ => .andThen (.openState _ c') fun s c' _ => ?_
    exact .andThen (.lift _ c') fun _ c' _ => .andThen (.lift _ c') fun _ c' _ =>
      .andThen (.lift _ c') fun _ c' _ => .finish _ _ _ _ c'
  | delete yes cont =>
    refine Provided.andThen opened fun o c' _ => .andThen (.openState _ c') fun s c' _ => ?_
    dsimp only
    have deletes (c : Computer) : Provided (do
        finish platform palette (request.named p) (openStore (request.named p).state o.folder)
          (s.delete (← platform.now) (← platform.serial) (← platform.token) cont o.manifest)) c :=
      .andThen (.lift _ c) fun _ c' _ => .andThen (.lift _ c') fun _ c' _ =>
        .andThen (.lift _ c') fun _ c' _ => .finish _ _ _ _ c'
    -- With the remark or without it, a deletion is finished unless the question is answered otherwise.
    split
    case' isTrue => refine Provided.andThen (.lift _ c') fun _ c' _ => ?_
    all_goals
      split
      · refine Provided.andThen (.confirm _ _) fun agreed c' _ => ?_
        split
        · exact .andThen (.lift _ c') fun _ c' _ => .pure _ c'
        · exact deletes c'
      · exact deletes _
  | view =>
    refine Provided.andThen (.lift _ c) fun folder c' _ => .andThen (.loadState _ c') fun state c' _ => ?_
    cases state with
    | some s => exact .andThen (.lift _ c') fun _ c' _ => .pure _ c'
    | none => exact .andThen (.lift _ c') fun _ c' _ => .pure _ c'

theorem folder_here_child (member : name ∈ fileNames) : (Path.here.child name).folder = .here := by
  simp only [fileNames, List.mem_cons, List.not_mem_nil, or_false] at member
  rcases member with rfl | rfl | rfl <;> decide

/-- Where none is found the state is looked for as if the working folder held one. -/
theorem run_view_of_missing (palette : Palette) (unnamed : request.manifest = none)
    (views : request.command = .view) (member : name ∈ fileNames) {e : ProgramError}
    (missing : (Manifest.find platform .here).run c = (.error e, c)) :
    (request.run platform palette).run c =
      ((request.named (Path.here.child name)).run platform palette).run c := by
  have same := stateFolder_named unnamed missing (folder_here_child member).symm
  unfold Request.run
  rw [Request.named_command, views]
  simp only [view, Attempt.run_bind, Attempt.run_lift, same, Request.named_state, Request.named_output]

/-! ## Requests that name none -/

/-- A request goes with the nearest manifest of the working folder and the folders above: exactly as if a
path to that manifest had been named, and with the state beside it.  That a manifest is missing is reported
only if none of these folders holds one. -/
structure Consults (palette : Palette) (request : Request) (c : Computer) : Prop where
  uses : ∀ folder name, c.tree.Nearest c.working folder name →
    ∃ p, c.tree.place? c.working p = some (folder ++ [name]) ∧
      c.tree.place? c.working p.folder = some folder ∧
      (request.run platform palette).run c = ((request.named p).run platform palette).run c
  missing : ∀ path, ((request.run platform palette).run c).1 = .error (.manifest (.fileNotFound path)) →
    c.tree.Bare c.working

/-- What a request comes to if the working folder holds no manifest, whatever the folders above hold: it
ends, or the state is looked for beside a manifest of the working folder that is not there. -/
structure Unprovided (palette : Palette) (request : Request) (c : Computer) : Prop where
  refused : request.command ≠ .view → (request.run platform palette).run c =
    (.error (.manifest (.fileNotFound "./infra.yaml")), c)
  views : request.command = .view → ∀ name ∈ fileNames, (request.run platform palette).run c =
    ((request.named (Path.here.child name)).run platform palette).run c

/-- A request with a manifest in the working folder goes with that one. -/
theorem consults_of_nearest (palette : Palette) (unnamed : request.manifest = none) (stands : c.Stands)
    (nearest : c.tree.Nearest c.working c.working name) : Consults palette request c := by
  have file := FileTree.isFileName_of_mem nearest.mem_fileNames
  have leads := FileTree.place?_here_child stands file
  have ran := run_named palette unnamed (run_find_here stands nearest)
  refine ⟨fun folder name' nearest' => ?_, fun path missing => ?_⟩
  · obtain rfl := nearest.folder_eq nearest'
    obtain rfl := nearest.name_eq nearest'
    refine ⟨_, leads, ?_, ran⟩
    rw [folder_here_child nearest.mem_fileNames]
    exact FileTree.place?_here stands
  · have present := (FileTree.isPresent_iff_holds stands leads).mpr nearest.holds
    rw [ran] at missing
    have other : true = false := run_provided palette request present _ missing
    cases other

/-- Where the nearest manifest is not in a folder above the working folder, a request without a manifest
goes with it.  Whatever the folders above hold, they do not count if the working folder holds none. -/
theorem consults_working (palette : Palette) {arguments : List String}
    (asked : requestOn c arguments = .ok request) (unnamed : request.manifest = none)
    (stands : c.Stands) :
    runProgram platform palette arguments c = ended ((request.run platform palette).run c) ∧
      ((∃ name, c.tree.Nearest c.working c.working name) ∨ c.tree.Bare c.working →
        Consults palette request c) ∧
      ((∀ name ∈ fileNames, ¬c.tree.Holds c.working name) → Unprovided palette request c) := by
  refine ⟨runProgram_eq palette asked, ?_, fun none => ⟨?_, ?_⟩⟩
  · rintro (⟨name, nearest⟩ | bare)
    · exact consults_of_nearest palette unnamed stands nearest
    · exact ⟨fun folder name nearest => absurd bare nearest.not_bare, fun _ _ => bare⟩
  · intro works
    exact run_of_missing palette unnamed works (run_find_here_of_none stands none)
  · intro views name member
    exact run_view_of_missing palette unnamed views member (run_find_here_of_none stands none)

namespace Sample

/-- A manifest at the top, and the working folder below it with manifests of these names. -/
def nested (names : List String) : Computer where
  tree := ⟨(["sub"], .folder) :: (["infra.yaml"], .file "resources: []\n") ::
    names.map fun name => (["sub", name], .file "resources: []\n")⟩
  working := ["sub"]
  environment := .empty
  input := []
  output := ""
  errors := ""
  clock := .epoch
  serial := 0

def validation : Request := ⟨.validate false, none, none, .text, false, .text⟩

theorem asked_nested (names : List String) :
    requestOn (nested names) ["validate"] = .ok validation := by
  rfl

theorem stands_nested (names : List String) : (nested names).Stands := by
  show ∀ above, above <+: ["sub"] → _
  rw [forall_prefix_cons_iff]
  simp only [List.prefix_nil, forall_eq]
  exact ⟨rfl, rfl⟩

theorem nearest_below : (nested ["manifest.yaml"]).tree.Nearest ["sub"] ["sub"] "manifest.yaml" where
  above := List.prefix_rfl
  holds := ⟨stands_nested _, by decide⟩
  closest nearer within longer := absurd within.length_le (not_le.mpr longer)
  first := by
    refine ⟨["infra.yaml", "infra.yml"], [], rfl, fun other member holds => ?_⟩
    simp only [List.mem_cons, List.not_mem_nil, or_false] at member
    rcases member with rfl | rfl <;> exact absurd holds.2 (by decide)

theorem none_below : ∀ name ∈ fileNames, ¬(nested []).tree.Holds ["sub"] name := by
  intro name member holds
  simp only [fileNames, List.mem_cons, List.not_mem_nil, or_false] at member
  rcases member with rfl | rfl | rfl <;> exact absurd holds.2 (by decide)

theorem nearest_above : (nested []).tree.Nearest ["sub"] [] "infra.yaml" where
  above := List.nil_prefix
  holds := ⟨fun above within => stands_nested [] above (within.trans List.nil_prefix), by decide⟩
  closest nearer within longer := by
    -- Only the working folder is nearer.
    obtain rfl := within.eq_of_length_le longer
    exact none_below
  first := ⟨[], ["infra.yml", "manifest.yaml"], rfl, nofun⟩

end Sample

/-- The manifest of the working folder counts, though its name comes last and the top has one, too. -/
theorem consults_working_below :
    ∃ p, (Sample.nested ["manifest.yaml"]).tree.place? ["sub"] p = some ["sub", "manifest.yaml"] ∧
      runProgram platform .plain ["validate"] (Sample.nested ["manifest.yaml"]) =
        ended (((Sample.validation.named p).run platform .plain).run
          (Sample.nested ["manifest.yaml"])) := by
  obtain ⟨ran, consults, -⟩ :=
    consults_working .plain (Sample.asked_nested ["manifest.yaml"]) rfl (Sample.stands_nested _)
  obtain ⟨p, leads, -, same⟩ :=
    (consults (.inl ⟨_, Sample.nearest_below⟩)).uses ["sub"] "manifest.yaml" Sample.nearest_below
  exact ⟨p, leads, ran.trans (congrArg ended same)⟩

/-- The manifest of the folder above is the nearest one, and is reported to be missing. -/
theorem not_consults_above :
    Sample.validation.manifest = none ∧ (Sample.nested []).Stands ∧
      (Sample.nested []).tree.Nearest ["sub"] [] "infra.yaml" ∧
      runProgram platform .plain ["validate"] (Sample.nested []) = (1, { Sample.nested [] with
        errors := "Error: Manifest error: Manifest file not found: ./infra.yaml\n" }) ∧
      ¬Consults .plain Sample.validation (Sample.nested []) := by
  have missing := run_find_here_of_none (Sample.stands_nested []) Sample.none_below
  have ran : (Sample.validation.run platform .plain).run (Sample.nested []) =
      (.error (.manifest (.fileNotFound "./infra.yaml")), Sample.nested []) :=
    run_of_missing .plain rfl (by decide) missing
  refine ⟨rfl, Sample.stands_nested [], Sample.nearest_above, ?_, fun consults => ?_⟩
  · rw [runProgram_eq .plain (Sample.asked_nested []), ran]
    rfl
  · exact Sample.nearest_above.not_bare (consults.missing "./infra.yaml" (congrArg Prod.fst ran))

end CommandLine

end DesiredState
