import DesiredState.Proofs.Files.Ancestors
import DesiredState.Proofs.Machine.Computer

/-!
# The nearest manifest

The manifest of a folder is looked for in it and in the folders above it, up to the top.  The nearest
folder that holds a file with one of the names of manifests decides, whichever of the names it is; only
within that folder the preferred name comes first.

Contents:

* `FileTree.Nearest`, `FileTree.Bare` — the manifest that should be found, and that there is none.
* `FileTree.Sought`, `sought_candidates` — what the search among the candidates finds.
* `Discovered`, `find_discovers` — the main result.
-/

namespace DesiredState

open Manifest (fileNames candidates)

variable {t : FileTree} {start p q : Path}

/-- Of two elements of a list one stands before the other one, unless they are at the same place. -/
theorem eq_or_mem_of_append_cons {α : Type} {front back front' back' : List α} {x y : α}
    (same : front ++ x :: back = front' ++ y :: back') : x = y ∨ x ∈ front' ∨ y ∈ front := by
  induction front generalizing front' with
  | nil => cases front' <;> simp_all
  | cons a front inductionHypothesis =>
    cases front' with
    | nil => simp_all
    | cons b front' =>
      obtain ⟨-, rest⟩ := List.cons.inj same
      rcases inductionHypothesis rest with equal | before | before
      · exact .inl equal
      · exact .inr (.inl (.tail b before))
      · exact .inr (.inr (.tail a before))

namespace FileTree

/-- Of the folders from `start` up to the top, `folder` is the nearest one that holds a manifest, and of
its manifests `name` comes first. -/
structure Nearest (t : FileTree) (start folder : List String) (name : String) : Prop where
  above : folder <+: start
  holds : t.Holds folder name
  closest : ∀ nearer, nearer <+: start → folder.length < nearer.length →
    ∀ other ∈ fileNames, ¬t.Holds nearer other
  first : ∃ before after, fileNames = before ++ name :: after ∧
    ∀ other ∈ before, ¬t.Holds folder other

/-- No folder from `start` up to the top holds a manifest. -/
def Bare (t : FileTree) (start : List String) : Prop :=
  ∀ folder, folder <+: start → ∀ name ∈ fileNames, ¬t.Holds folder name

namespace Nearest

variable {way folder folder' : List String} {name name' : String}

theorem mem_fileNames (nearest : t.Nearest way folder name) : name ∈ fileNames := by
  obtain ⟨before, after, names, -⟩ := nearest.first
  simp [names]

theorem length_le (nearest : t.Nearest way folder name) (nearest' : t.Nearest way folder' name') :
    folder'.length ≤ folder.length := by
  by_contra nearer
  exact nearest.closest folder' nearest'.above (not_le.mp nearer) name' nearest'.mem_fileNames
    nearest'.holds

theorem folder_eq (nearest : t.Nearest way folder name) (nearest' : t.Nearest way folder' name') :
    folder = folder' := by
  have within : folder <+: folder' :=
    List.prefix_of_prefix_length_le nearest.above nearest'.above (nearest'.length_le nearest)
  exact within.eq_of_length_le (nearest.length_le nearest')

/-- There is at most one nearest manifest. -/
theorem name_eq (nearest : t.Nearest way folder name) (nearest' : t.Nearest way folder name') :
    name = name' := by
  obtain ⟨before, after, names, none⟩ := nearest.first
  obtain ⟨before', after', names', none'⟩ := nearest'.first
  -- If one of them stood before the other one, then it would not be held.
  rcases eq_or_mem_of_append_cons (names.symm.trans names') with same | earlier | earlier
  · exact same
  · exact absurd nearest.holds (none' name earlier)
  · exact absurd nearest'.holds (none name' earlier)

theorem not_bare (nearest : t.Nearest way folder name) : ¬t.Bare way := fun bare =>
  bare folder nearest.above name nearest.mem_fileNames nearest.holds

end Nearest

/-! ## The candidates -/

/-- What the search for the manifest of a folder should find. -/
inductive Sought (t : FileTree) (start : Path) : Option Path → Prop
  | found {folder : Path} {name : String} (up : folder ∈ start.ancestors) (descends : folder.Descends)
      (nearest : t.Nearest start.names folder.names name) : Sought t start (some (folder.child name))
  | missing (bare : t.Bare start.names) : Sought t start none

theorem isFileName_of_mem {name : String} (member : name ∈ fileNames) : Path.IsFileName name := by
  simp only [fileNames, List.mem_cons, List.not_mem_nil, or_false] at member
  rcases member with rfl | rfl | rfl <;> exact ⟨by decide, by decide, by decide⟩

/-- The first manifest in the folder itself is the nearest one. -/
theorem sought_here (descends : start.Descends) {working : List String}
    (found : (fileNames.map start.child).find? (t.isPresent working) = some p) :
    t.Sought start (some p) := by
  rw [List.find?_map, Option.map_eq_some_iff] at found
  obtain ⟨name, first, rfl⟩ := found
  obtain ⟨present, before, after, names, none⟩ := List.find?_eq_some_iff_append.mp first
  have file : ∀ other ∈ fileNames, Path.IsFileName other := fun _ => isFileName_of_mem
  rw [names] at file
  refine .found (by rw [Path.ancestors]; exact .head _) descends ⟨List.prefix_rfl, ?_, ?_, ?_⟩
  · exact (isPresent_child_iff descends (file name (by simp)) working).mp present
  · intro nearer within longer
    exact absurd within.length_le (not_le.mpr longer)
  · refine ⟨before, after, names, fun other member holds => ?_⟩
    have there := (isPresent_child_iff descends (file other (by simp [member])) working).mpr holds
    have absent := none other member
    simp [there] at absent

/-- What is sought from the folder above is sought from the folder itself, if that one holds no
manifest. -/
theorem Sought.up {found : Option Path} (sought : t.Sought q found) (parent : start.parent? = some q)
    {last : String} (names : start.names = q.names ++ [last])
    (none : ∀ name ∈ fileNames, ¬t.Holds start.names name) : t.Sought start found := by
  -- The folders from here are those from above and this one.
  have within (folder : List String) : folder <+: start.names ↔
      folder = start.names ∨ folder <+: q.names := by
    rw [names, List.prefix_concat_iff]
  cases sought with
  | found up descends nearest =>
    refine .found ?_ descends ⟨(within _).mpr (.inr nearest.above), nearest.holds, ?_, nearest.first⟩
    · rw [Path.ancestors_of_parent parent]
      exact .tail _ up
    · intro nearer nearby longer
      rcases (within nearer).mp nearby with rfl | above
      · exact none
      · exact nearest.closest nearer above longer
  | missing bare =>
    refine .missing fun folder nearby => ?_
    rcases (within folder).mp nearby with rfl | above
    · exact none
    · exact bare folder above

theorem candidates_of_top (top : start.parent? = none) :
    candidates start = fileNames.map start.child := by
  rw [candidates, Path.ancestors_of_top top, List.flatMap_singleton]

theorem candidates_of_parent (up : start.parent? = some q) :
    candidates start = fileNames.map start.child ++ candidates q := by
  rw [candidates, Path.ancestors_of_parent up, List.flatMap_cons, candidates]

/-- The first of the candidates that is there is the nearest manifest. -/
theorem sought_candidates (descends : start.Descends) (working : List String) :
    t.Sought start ((candidates start).find? (t.isPresent working)) := by
  have notHere {p : Path} (descends : p.Descends)
      (absent : (fileNames.map p.child).find? (t.isPresent working) = none) :
      ∀ name ∈ fileNames, ¬t.Holds p.names name := by
    intro name member holds
    have there := (isPresent_child_iff descends (isFileName_of_mem member) working).mpr holds
    exact List.find?_eq_none.mp absent _ (List.mem_map_of_mem member) there
  -- The names of the folder become fewer by the last one with every step up.
  generalize way : start.names = names
  induction names using List.reverseRecOn generalizing start with
  | nil =>
    rcases Path.parent?_cases descends with ⟨-, top⟩ | ⟨q, last, -, -, more⟩
    · rw [candidates_of_top top]
      cases found : (fileNames.map start.child).find? (t.isPresent working) with
      | some p => exact sought_here descends found
      | none =>
        refine .missing fun folder within => ?_
        rw [way, List.prefix_nil] at within
        rw [within, ← way]
        exact notHere descends found
    · simp [way] at more
  | append_singleton names name inductionHypothesis =>
    rcases Path.parent?_cases descends with ⟨top, -⟩ | ⟨q, last, parent, down, more⟩
    · simp [way] at top
    · rw [candidates_of_parent parent, List.find?_append]
      cases found : (fileNames.map start.child).find? (t.isPresent working) with
      | some p => exact sought_here descends found
      | none =>
        have above : q.names = names := (List.append_inj' (more.symm.trans way) rfl).1
        exact (inductionHypothesis down above).up parent more (notHere descends found)

end FileTree

/-! ## The search -/

/-- What finding the manifest of a folder answers: the nearest one if there is one, else that there is
none under the preferred name. -/
structure Discovered (t : FileTree) (start : Path) (answer : Except ProgramError Path) : Prop where
  found : ∀ p, answer = .ok p → ∃ folder ∈ start.ancestors, ∃ name,
    t.Nearest start.names folder.names name ∧ p = folder.child name
  finds : ∀ folder name, t.Nearest start.names folder name →
    ∃ p, answer = .ok p ∧ p.absolute = true ∧ p.names = folder ++ [name]
  missing : answer = .error (.manifest (.fileNotFound (start.child "infra.yaml").text)) ↔
    t.Bare start.names

/-- The manifest of a folder is the nearest one, whatever the file tree; the folder need not exist. -/
theorem find_discovers (c : Computer) (descends : start.Descends) :
    ∃ answer, (Manifest.find Computer.platform start).run c = (answer, c) ∧
      Discovered c.tree start answer := by
  have sought := c.tree.sought_candidates descends c.working
  rw [Manifest.find, Attempt.run_bind, Attempt.run_lift, Computer.run_findM?_isPresent]
  generalize (candidates start).find? (c.tree.isPresent c.working) = found at sought
  cases sought with
  | @found folder name up descends nearest =>
    refine ⟨.ok (folder.child name), rfl, ?_, ?_, ?_⟩
    · rintro p answered
      exact ⟨folder, up, name, nearest, (Except.ok.inj answered).symm⟩
    · intro folder' name' nearest'
      obtain rfl := nearest.folder_eq nearest'
      obtain rfl := nearest.name_eq nearest'
      have file := FileTree.isFileName_of_mem nearest.mem_fileNames
      refine ⟨_, rfl, ?_, Path.names_child file folder⟩
      rw [Path.child_eq file]
      exact descends.absolute
    · exact ⟨nofun, fun bare => absurd bare nearest.not_bare⟩
  | missing bare =>
    refine ⟨_, rfl, nofun, ?_, ?_⟩
    · intro folder name nearest
      exact absurd bare nearest.not_bare
    · exact ⟨fun _ => bare, fun _ => rfl⟩

namespace Sample

/-- A manifest at the top, and one with another name in the folder `work`. -/
def nested : Computer where
  tree := ⟨[(["work"], .folder), (["work", "manifest.yaml"], .file ""), (["infra.yaml"], .file "")]⟩
  working := []
  environment := .empty
  input := []
  output := ""
  errors := ""
  clock := .epoch
  serial := 0

theorem nearest_nested : nested.tree.Nearest ["work", "app"] ["work"] "manifest.yaml" where
  above := by decide
  holds := by
    refine ⟨?_, by decide⟩
    rw [forall_prefix_cons_iff]
    simp only [List.prefix_nil, forall_eq]
    decide
  closest nearer within longer other _ := by
    -- Only the folder that does not exist is nearer.
    obtain rfl := within.eq_of_length_le longer
    rintro ⟨folders, -⟩
    exact absurd (folders _ List.prefix_rfl) (by decide)
  first := by
    refine ⟨["infra.yaml", "infra.yml"], [], rfl, fun other member holds => ?_⟩
    simp only [List.mem_cons, List.not_mem_nil, or_false] at member
    rcases member with rfl | rfl <;> exact absurd holds.2 (by decide)

end Sample

/-- The nearer manifest is found from a folder that does not exist, though its name comes last. -/
theorem find_discovers_nested :
    ∃ p, (Manifest.find Computer.platform ⟨true, ["work", "", "app"]⟩).run Sample.nested =
      (.ok p, Sample.nested) ∧ p.names = ["work", "manifest.yaml"] := by
  have descends : Path.Descends ⟨true, ["work", "", "app"]⟩ := ⟨rfl, by decide⟩
  obtain ⟨answer, ran, discovered⟩ := find_discovers Sample.nested descends
  obtain ⟨p, rfl, -, names⟩ := discovered.finds ["work"] "manifest.yaml" Sample.nearest_nested
  exact ⟨p, ran, names⟩

end DesiredState
