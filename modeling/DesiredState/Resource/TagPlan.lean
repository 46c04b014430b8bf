import DesiredState.Text.Quoted

/-!
# Tag plans

The smallest set of tag writes that moves the tags of a hosted resource to the desired ones.

Contents:

* `TagStrategy`: what happens to tags that nobody asked for.
* `TagPlan`, `TagPlan.of`: the writes, and the plan for two sets of tags.
* `TagPlan.result`: the tags after a plan.
-/

namespace DesiredState

/-- What happens to tags that are not desired: they stay, or they go. -/
inductive TagStrategy
  | additive
  | additiveWithRemoval
  deriving DecidableEq

def TagStrategy.label : TagStrategy → String
  | .additive => "additive"
  | .additiveWithRemoval => "additive_with_removal"

/-- Tags to write, and keys to remove in ascending order. -/
structure TagPlan where
  upsert : Tags
  remove : List String
  deriving DecidableEq

namespace TagPlan

def empty : TagPlan := ⟨.empty, []⟩

def isEmpty (p : TagPlan) : Bool :=
  p.upsert.isEmpty && p.remove.isEmpty

/-- The desired tags that are lacking or different. -/
def lacking (desired current : Tags) : Tags :=
  desired.filter fun k v => current.get? k != some v

/-- The keys that are not desired. -/
def stale (desired current : Tags) : List String :=
  current.keys.filter fun k => !desired.contains k

/-- The writes that move the current tags to the desired ones. -/
def of (desired current : Tags) (strategy : TagStrategy) : TagPlan where
  upsert := lacking desired current
  remove := match strategy with
    | .additive => []
    | .additiveWithRemoval => stale desired current

def result (p : TagPlan) (current : Tags) : Tags :=
  (current.overwrite p.upsert).eraseAll p.remove

def text (p : TagPlan) : String :=
  "+" ++ Text.quoteList p.upsert.keys ++ " -" ++ Text.quoteList p.remove

end TagPlan

end DesiredState
