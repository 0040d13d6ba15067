namespace GenPlan

structure Routing where
  project : Option String := none
  folder : Option String := none
  deriving DecidableEq

namespace Routing

/-- Each name as it is defined, else as it is defined further out. An empty name is defined. -/
def orElse (own outer : Routing) : Routing :=
  ⟨own.project <|> outer.project, own.folder <|> outer.folder⟩

def map (f : String → String) (routing : Routing) : Routing :=
  ⟨routing.project.map f, routing.folder.map f⟩

end Routing

/-- Entities that may route output and know what the entity around them has defined. -/
class Routed (α : Type) where
  routing : α → Routing
  outer : α → Routing

def Routed.defined {α : Type} [Routed α] (a : α) : Routing := (routing a).orElse (outer a)

end GenPlan
