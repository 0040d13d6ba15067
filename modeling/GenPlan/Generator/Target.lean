import GenPlan.Pattern.Selector
import GenPlan.Routing
import GenPlan.Scope

namespace GenPlan

/-- Routes those files of an artifact whose paths the pattern occurs in; without a pattern all of them. -/
structure Target where
  pattern : Selector := {}
  routing : Routing := {}
  outer : Routing := {}
  scope : Scope := {}
  deriving DecidableEq

namespace Target

instance : Scoped Target := ⟨scope, fun target scope => { target with scope }⟩

instance : Routed Target := ⟨routing, outer⟩

def init (files : Files) (parent : NameMap String) (outer : Routing) (target : Target) :
    Progress InitError Target :=
  (Scoped.inherit files parent target).andThen fun target =>
    let target := { target with
      pattern.text := target.pattern.text.map target.scope.replace
      routing := target.routing.map target.scope.replace
      outer }
    match target.pattern.compile with
    | .ok pattern => .done { target with pattern }
    | .error source => .stop target (.pattern (.target source))

def isMatch (target : Target) (path : String) : Bool :=
  (target.pattern.occursIn? path).getD true

end Target

end GenPlan
