namespace GenPlan

inductive Json
  | null
  | boolean (b : Bool)
  | number (n : Int)
  | text (s : String)
  | array (items : List Json)
  | object (members : List (String × Json))
  deriving Inhabited

namespace Json

def ofOption {α : Type} (f : α → Json) (a : Option α) : Json := (a.map f).getD null

def optionalText : Option String → Json := ofOption text

def member? (key : String) (members : List (String × Json)) : Option Json :=
  (members.find? (·.1 = key)).map Prod.snd

def control (c : Char) : String :=
  let digits := String.ofList (Nat.toDigits 16 c.toNat)
  if c.toNat < 16 then "\\u000" ++ digits else "\\u00" ++ digits

def escape : Char → String
  | '"' => "\\\""
  | '\\' => "\\\\"
  | '\x08' => "\\b"
  | '\x0c' => "\\f"
  | '\n' => "\\n"
  | '\r' => "\\r"
  | '\t' => "\\t"
  | c => if c < ' ' then control c else String.singleton c

def quote (s : String) : String := "\"" ++ String.join (s.toList.map escape) ++ "\""

def newLine (level : Nat) : String := "\n" ++ String.ofList (List.replicate (2 * level) ' ')

def bracket (opening closing : String) (level : Nat) (members : List String) : String :=
  if members.isEmpty then opening ++ closing
  else
    opening ++ newLine (level + 1) ++ (("," ++ newLine (level + 1)).intercalate members) ++
      newLine level ++ closing

mutual

def print (level : Nat) : Json → String
  | null => "null"
  | boolean b => toString b
  | number n => toString n
  | text s => quote s
  | array items => bracket "[" "]" level (printItems (level + 1) items)
  | object members => bracket "\x7b" "\x7d" level (printMembers (level + 1) members)

def printItems (level : Nat) : List Json → List String
  | [] => []
  | item :: items => print level item :: printItems level items

def printMembers (level : Nat) : List (String × Json) → List String
  | [] => []
  | (key, value) :: members => (quote key ++ ": " ++ print level value) :: printMembers level members

end

def pretty (json : Json) : String := json.print 0

end Json

end GenPlan
