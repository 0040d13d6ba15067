import GenPlan.NameMap

namespace GenPlan

/-- A marker runs from a dollar sign and an opening brace to the first closing brace after them; the text
between is the name it refers to. An opening that is never closed is plain text. -/
inductive Segment
  | plain (c : Char)
  | marker (name : List Char)
  deriving DecidableEq

namespace Segment

def source : Segment → List Char
  | plain c => [c]
  | marker name => '$' :: '\x7b' :: name ++ ['\x7d']

mutual

def scan : List Char → List Segment
  | [] => []
  | '$' :: '\x7b' :: cs =>
    match scanName cs with
    | some (name, segments) => marker name :: segments
    | none => plain '$' :: plain '\x7b' :: scan cs
  | c :: cs => plain c :: scan cs

def scanName : List Char → Option (List Char × List Segment)
  | [] => none
  | '\x7d' :: cs => some ([], scan cs)
  | c :: cs => (scanName cs).map fun (name, segments) => (c :: name, segments)

end

def reference? : Segment → Option String
  | plain _ => none
  | marker name => some (String.ofList name)

def expand (vars : NameMap String) : Segment → List Char
  | plain c => [c]
  | marker name => ((vars.get? (String.ofList name)).map String.toList).getD (source (marker name))

end Segment

def references (text : String) : List String :=
  (Segment.scan text.toList).filterMap Segment.reference?

/-- Replaces each marker of a known name by the value of that name. -/
def substitute (vars : NameMap String) (text : String) : String :=
  String.ofList ((Segment.scan text.toList).flatMap (Segment.expand vars))

/-- Every dollar sign of the text belongs to a marker. -/
def Clean (text : String) : Prop := Segment.plain '$' ∉ Segment.scan text.toList

instance (text : String) : Decidable (Clean text) :=
  inferInstanceAs (Decidable (Segment.plain '$' ∉ Segment.scan text.toList))

end GenPlan
