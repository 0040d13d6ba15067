import GenPlan.Binary64

namespace GenPlan.Kdl

inductive Value
  | text (s : String)
  | integer (n : Int)
  | number (x : Binary64)
  | boolean (b : Bool)
  | null
  deriving DecidableEq

/-- The last of several entries with one key counts. An entry without a key is an argument. -/
structure Entry where
  key : Option String
  value : Value
  deriving DecidableEq

/-- Arguments and properties are in the order they are written; annotations of types are not kept. -/
inductive Node
  | mk (name : String) (entries : List Entry) (children : List Node)

namespace Value

/-- A value read as text. Only the null value has none. -/
def text? : Value → Option String
  | text s => some s
  | integer n => some (toString n)
  | number x => some (x.write .plain (fun negative => if negative then "-inf" else "inf") "NaN")
  | boolean b => some (toString b)
  | null => none

def boolean? : Value → Option Bool
  | boolean b => some b
  | _ => none

end Value

namespace Node

def name : Node → String
  | mk name _ _ => name

def entries : Node → List Entry
  | mk _ entries _ => entries

def children : Node → List Node
  | mk _ _ children => children

def arguments (node : Node) : List Value :=
  node.entries.filterMap fun e => if e.key.isNone then some e.value else none

def property? (node : Node) (key : String) : Option Value :=
  (node.entries.reverse.find? fun e => e.key = some key).map Entry.value

def argumentText? (node : Node) (i : Nat) : Option String :=
  node.arguments[i]?.bind Value.text?

def propertyText? (node : Node) (key : String) : Option String :=
  (node.property? key).bind Value.text?

end Node

end GenPlan.Kdl
