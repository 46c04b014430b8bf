import DesiredState.Proofs.Digest.Sha256
import DesiredState.Proofs.Reconcile.Lasting

/-!
# Deployed packages

A host does not report the package of a function but a digest of its source.  The four parts of a
source can be told from the bytes that are digested, so that a package is deployed anew exactly if its
source is another one than that of the last deployment, unless two sources have one digest.

Contents:

* `Code.sourceBytes_eq_iff`, `Code.sourceBytes_inj` — which sources are digested alike.
* `Deployed`, `Deployed.codeSha256_eq` — the source of the last deployment, and what is reported of it.
* `hasSource_afterAll` — every function on a host has such a source.
* `redeploys_iff` — when a package is deployed anew.
-/

namespace DesiredState

namespace CloudFunction

/-! ## Sources as bytes -/

namespace Code

variable {a b : Code}

def parts (c : Code) : List (Option String) := [c.zipFile, c.s3Bucket, c.s3Key, c.imageUri]

/-- No part holds a zero character, which separates the parts. -/
def Separable (c : Code) : Prop := ∀ text, some text ∈ c.parts → '\x00' ∉ text.toList

/-- No part is given as an empty text. -/
def Proper (c : Code) : Prop := some "" ∉ c.parts

/-- The sources agree part by part, where an absent part is an empty one. -/
structure Agrees (a b : Code) : Prop where
  zipFile : a.zipFile.getD "" = b.zipFile.getD ""
  s3Bucket : a.s3Bucket.getD "" = b.s3Bucket.getD ""
  s3Key : a.s3Key.getD "" = b.s3Key.getD ""
  imageUri : a.imageUri.getD "" = b.imageUri.getD ""

/-- The parts as they are digested. -/
def partBytes (c : Code) : List (List UInt8) := c.parts.map fun part => Sha256.utf8 (part.getD "")

theorem sourceBytes_eq_flatMap (c : Code) : c.sourceBytes = c.partBytes.flatMap (· ++ [0]) := by
  rw [partBytes, List.flatMap_map]
  rfl

theorem Separable.zero_not_mem (separable : a.Separable) : ∀ part ∈ a.partBytes, 0 ∉ part := by
  intro bytes member
  obtain ⟨part, there, rfl⟩ := List.mem_map.mp member
  apply Sha256.zero_not_mem_utf8
  cases part with
  | none => decide
  | some text => exact separable text there

/-- Sources are digested alike exactly if they agree. -/
theorem sourceBytes_eq_iff (separable : a.Separable) (separable' : b.Separable) :
    a.sourceBytes = b.sourceBytes ↔ a.Agrees b := by
  constructor
  · intro same
    rw [sourceBytes_eq_flatMap, sourceBytes_eq_flatMap] at same
    have parts := Sha256.flatMap_append_zero_inj separable.zero_not_mem separable'.zero_not_mem same
    simp only [partBytes, Code.parts, List.map_cons, List.map_nil, List.cons.injEq, and_true] at parts
    obtain ⟨zip, bucket, key, image⟩ := parts
    exact ⟨Sha256.utf8_injective zip, Sha256.utf8_injective bucket, Sha256.utf8_injective key,
      Sha256.utf8_injective image⟩
  · rintro ⟨zip, bucket, key, image⟩
    simp only [sourceBytes_eq_flatMap, partBytes, parts, List.map_cons, List.map_nil, zip, bucket, key,
      image]

theorem eq_of_getD_eq {part part' : Option String} (proper : some "" ≠ part) (proper' : some "" ≠ part')
    (same : part.getD "" = part'.getD "") : part = part' := by
  cases part <;> cases part' <;> simp_all

theorem Agrees.eq (agrees : a.Agrees b) (proper : a.Proper) (proper' : b.Proper) : a = b := by
  simp only [Proper, parts, List.mem_cons, List.not_mem_nil, or_false, not_or] at proper proper'
  obtain ⟨zip, bucket, key, image⟩ := proper
  obtain ⟨zip', bucket', key', image'⟩ := proper'
  cases a
  cases b
  rw [mk.injEq]
  exact ⟨eq_of_getD_eq zip zip' agrees.zipFile, eq_of_getD_eq bucket bucket' agrees.s3Bucket,
    eq_of_getD_eq key key' agrees.s3Key, eq_of_getD_eq image image' agrees.imageUri⟩

/-- Sources without empty parts are told apart by the bytes that are digested. -/
theorem sourceBytes_inj (separable : a.Separable) (separable' : b.Separable) (proper : a.Proper)
    (proper' : b.Proper) : a.sourceBytes = b.sourceBytes ↔ a = b := by
  rw [sourceBytes_eq_iff separable separable']
  refine ⟨fun agrees => agrees.eq proper proper', ?_⟩
  rintro rfl
  exact ⟨rfl, rfl, rfl, rfl⟩

end Code

/-- The package is the one change of a difference that is decided by a digest. -/
theorem code_mem_diff_iff {d : Desired} {a : Attributes} {next : Code} :
    .code next ∈ diff d a ↔ next = d.code ∧ d.code.sha256 ≠ a.codeSha256 := by
  by_cases same : d.code.sha256 = a.codeSha256 <;> simp [diff, same]

/-! ## Deployments -/

/-- What a hosted function has been through, and the source of its last deployment: it was created with
one, and some changes have deployed another one. -/
inductive Deployed : Code → HostedOf .cloudFunction → Prop
  | created (s : Spec .cloudFunction) (now : Instant) (identifier : String) :
    Deployed s.desired.code (s.materialize now identifier)
  | redeployed {source : Code} {h : HostedOf .cloudFunction} (next : Code) :
    Deployed source h → Deployed next (h.apply (.code next))
  | changed {source : Code} {h : HostedOf .cloudFunction} {c : Change} (other : ∀ next, c ≠ .code next) :
    Deployed source h → Deployed source (h.apply c)
  | tagged {source : Code} {h : HostedOf .cloudFunction} (tags : Tags) :
    Deployed source h → Deployed source { h with tags := tags }

/-- What is reported of a function is the digest of the source that was deployed last. -/
theorem Deployed.codeSha256_eq {source : Code} {h : HostedOf .cloudFunction}
    (deployed : Deployed source h) : h.attributes.codeSha256 = source.sha256 := by
  induction deployed with
  | created s now identifier => rfl
  | redeployed next _ _ => rfl
  | @changed source h c other _ inductionHypothesis =>
    rw [← inductionHypothesis]
    cases c with
    | code next => exact absurd rfl (other next)
    | timeout _ => rfl
    | memorySize _ => rfl
    | environment _ => rfl
    | handler _ => rfl
    | runtime _ => rfl
  | tagged _ _ inductionHypothesis => exact inductionHypothesis

/-- Some source was deployed last. -/
def HasSource (h : HostedOf .cloudFunction) : Prop := ∃ source, Deployed source h

theorem lasting_hasSource : Lasting HasSource where
  created s now identifier := ⟨_, .created s now identifier⟩
  changed c := by
    rintro ⟨source, deployed⟩
    -- A change of the package deploys its own source, any other change leaves the source as it was.
    by_cases redeploys : ∃ next, c = .code next
    · obtain ⟨next, rfl⟩ := redeploys
      exact ⟨next, deployed.redeployed next⟩
    · exact ⟨source, deployed.changed fun next same => redeploys ⟨next, same⟩⟩
  stopped := nofun
  tagged tags := fun ⟨source, deployed⟩ => ⟨source, deployed.tagged tags⟩

/-- Whatever is done to a host, all its functions have a source that was deployed last. -/
theorem hasSource_afterAll {w : Simulator .cloudFunction} (all : AllHosted HasSource w)
    (deeds : List (Deed .cloudFunction)) : AllHosted HasSource (Deed.afterAll w deeds) :=
  Deed.allHosted_afterAll lasting_hasSource all deeds

/-! ## Deploying anew -/

/-- Sources are digested alike exactly if they agree part by part, and without empty parts exactly if they
are the same.  So a function is deployed anew exactly if its source is another one than that of its last
deployment, or the digests of two different sources collide. -/
theorem redeploys_iff {a b : Code} (separable : a.Separable) (separable' : b.Separable) :
    (a.sourceBytes = b.sourceBytes ↔ a.Agrees b) ∧
    (a.Proper → b.Proper →
      (a.sourceBytes = b.sourceBytes ↔ a = b) ∧
      ∀ (s : Spec .cloudFunction) (h : HostedOf .cloudFunction), s.desired.code = a → Deployed b h →
        (∀ next, .code next ∈ s.diff h ↔ next = a ∧ a ≠ b) ∨
          Sha256.Collides a.sourceBytes b.sourceBytes) := by
  refine ⟨Code.sourceBytes_eq_iff separable separable', fun proper proper' => ?_⟩
  have bytes := Code.sourceBytes_inj separable separable' proper proper'
  refine ⟨bytes, ?_⟩
  rintro s h rfl deployed
  -- Without a collision the digest that is reported tells the source of the last deployment.
  by_cases collides : Sha256.Collides s.desired.code.sourceBytes b.sourceBytes
  · exact .inr collides
  · refine .inl fun next => ?_
    have digests : s.desired.code.sha256 = b.sha256 ↔ s.desired.code = b :=
      (Sha256.digestHex_eq_iff_of_not_collides collides).trans bytes
    rw [Spec.diff, show .code next ∈ Kind.cloudFunction.rules.diff s.desired h.attributes ↔ _ from
      code_mem_diff_iff, deployed.codeSha256_eq, ne_eq, digests]

end CloudFunction

namespace Sample

/-- A package in a store. -/
def stored (key : String) : CloudFunction.Code := ⟨none, some "packages", some key, none⟩

/-- A function of that package. -/
def resize (key : String) : Spec .cloudFunction :=
  .ofDesired .cloudFunction "resize" ⟨"python3.12", some "app.handler", "resizer", stored key, none, none,
    .empty⟩

theorem separable_stored {key : String} (pure : '\x00' ∉ key.toList) : (stored key).Separable := by
  intro text member
  simp only [CloudFunction.Code.parts, stored, List.mem_cons, List.not_mem_nil, or_false, reduceCtorEq,
    false_or, Option.some.injEq] at member
  rcases member with rfl | rfl
  · decide
  · exact pure

theorem proper_stored {key : String} (given : key ≠ "") : (stored key).Proper := by
  simp [CloudFunction.Code.Proper, CloudFunction.Code.parts, stored, given.symm]

end Sample

namespace CloudFunction

/-- A function that was created with one package and then changed otherwise is deployed anew with another
package of the same store. -/
theorem redeploys_iff_resize :
    let old := Sample.stored "resize.zip"
    let new := Sample.stored "resize-v2.zip"
    let h := ((Sample.resize "resize.zip").materialize .epoch "fn-1").apply (Change.timeout 30)
    (old.Separable ∧ new.Separable ∧ old.Proper ∧ new.Proper ∧ Deployed old h) ∧
      new.sourceBytes ≠ old.sourceBytes ∧ .code new ∈ (Sample.resize "resize-v2.zip").diff h := by
  intro old new h
  have separable : old.Separable := Sample.separable_stored (by decide)
  have separable' : new.Separable := Sample.separable_stored (by decide)
  have proper : old.Proper := Sample.proper_stored (by decide)
  have proper' : new.Proper := Sample.proper_stored (by decide)
  have deployed : Deployed old h :=
    (Deployed.created (Sample.resize "resize.zip") .epoch "fn-1").changed nofun
  have differ : new ≠ old := by decide
  obtain ⟨bytes, redeploys⟩ := (redeploys_iff separable' separable).2 proper' proper
  refine ⟨⟨separable, separable', proper, proper', deployed⟩, mt bytes.mp differ, ?_⟩
  rcases redeploys (Sample.resize "resize-v2.zip") h rfl deployed with apart | ⟨-, collide⟩
  · exact (apart new).mpr ⟨rfl, differ⟩
  · exact absurd collide (by decide +kernel)

end CloudFunction

end DesiredState
