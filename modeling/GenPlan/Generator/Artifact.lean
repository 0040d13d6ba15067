import GenPlan.Generator.Target

namespace GenPlan

structure Artifact where
  name : String
  routing : Routing := {}
  targets : List Target := []
  outer : Routing := {}
  scope : Scope := {}
  deriving DecidableEq

namespace Artifact

instance : Named Artifact := ⟨name⟩

instance : Scoped Artifact := ⟨scope, fun artifact scope => { artifact with scope }⟩

instance : Routed Artifact := ⟨routing, outer⟩

def init (files : Files) (parent : NameMap String) (outer : Routing) (artifact : Artifact) :
    Progress InitError Artifact :=
  (Scoped.inherit files parent artifact).andThen fun artifact =>
    let artifact := { artifact with
      name := artifact.scope.replace artifact.name
      routing := artifact.routing.map artifact.scope.replace
      outer }
    (Progress.each (Target.init files artifact.scope.resolved (Routed.defined artifact))
      artifact.targets).map fun targets => { artifact with targets }

def findTarget (artifact : Artifact) (path : String) : Option Target :=
  artifact.targets.find? (·.isMatch path)

end Artifact

end GenPlan
