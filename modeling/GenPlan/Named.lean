namespace GenPlan

class Named (α : Type) where
  name : α → String

namespace Named

variable {α : Type} [Named α]

/-- The first entity of a name, whatever its other fields hold. -/
def find? (items : List α) (name : String) : Option α :=
  items.find? fun item => Named.name item = name

def contains (items : List α) (name : String) : Bool := (find? items name).isSome

def modify (f : α → α) (name : String) : List α → List α
  | [] => []
  | item :: items =>
    if Named.name item = name then f item :: items else item :: modify f name items

/-- Puts an entity in the place of the first one with its name, or at the end. -/
def put (item : α) : List α → List α
  | [] => [item]
  | old :: items =>
    if Named.name old = Named.name item then item :: items else old :: put item items

/-- Entities with one name are equal. -/
def Same (a b : α) : Prop := Named.name a = Named.name b

instance (a b : α) : Decidable (Same a b) := inferInstanceAs (Decidable (_ = _))

def distinct (items : List α) : Nat := (items.map Named.name).eraseDups.length

end Named

end GenPlan
