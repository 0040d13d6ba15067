import GenPlan.Unicode.Category
import GenPlan.Unicode.Folding
import GenPlan.Unicode.Property
import GenPlan.Unicode.Script

namespace GenPlan

open Unicode (Ranges)

inductive CharSet
  | empty
  | range (first last : Char)
  | ranges (r : Ranges)
  | union (a b : CharSet)
  | inter (a b : CharSet)
  | diff (a b : CharSet)
  | symmDiff (a b : CharSet)
  | compl (a : CharSet)
  /-- With a character all that differ from it in case; without `unicode` only letters of ASCII do. -/
  | folded (unicode : Bool) (a : CharSet)
  deriving DecidableEq

namespace CharSet

def single (c : Char) : CharSet := range c c

def asciiVariants (c : Char) : List Char := [c, c.toLower, c.toUpper]

def variants (unicode : Bool) (c : Char) : List Char :=
  if unicode then Unicode.caseVariants c else asciiVariants c

def contains : CharSet → Char → Bool
  | empty, _ => false
  | range first last, c => first ≤ c && c ≤ last
  | ranges r, c => r.contains c
  | union a b, c => contains a c || contains b c
  | inter a b, c => contains a c && contains b c
  | diff a b, c => contains a c && !contains b c
  | symmDiff a b, c => contains a c != contains b c
  | compl a, c => !contains a c
  | folded unicode a, c => (variants unicode c).any fun d => contains a d

def unions : List CharSet → CharSet := List.foldr union empty

def ofChars (s : String) : CharSet := unions (s.toList.map single)

def asciiDigit : CharSet := range '0' '9'

def asciiSpace : CharSet := union (range '\t' '\r') (single ' ')

def asciiAlnum : CharSet := unions [range '0' '9', range 'A' 'Z', range 'a' 'z']

def asciiWord : CharSet := union asciiAlnum (single '_')

def digit : CharSet := ranges (Unicode.ofCategories ["Nd"])

def space : CharSet := ranges Unicode.whiteSpace

def word : CharSet :=
  unions [asciiWord, ranges Unicode.alphabetic,
    ranges (Unicode.ofCategories ["Mn", "Mc", "Me", "Nd", "Pc"]), ranges Unicode.joinControl]

def isWord (unicode : Bool) (c : Char) : Bool := (if unicode then word else asciiWord).contains c

def posix? : String → Option CharSet
  | "alnum" => some asciiAlnum
  | "alpha" => some (union (range 'A' 'Z') (range 'a' 'z'))
  | "ascii" => some (range '\x00' '\x7f')
  | "blank" => some (ofChars "\t ")
  | "cntrl" => some (union (range '\x00' '\x1f') (single '\x7f'))
  | "digit" => some asciiDigit
  | "graph" => some (range '!' '~')
  | "lower" => some (range 'a' 'z')
  | "print" => some (range ' ' '~')
  | "punct" => some (unions [range '!' '/', range ':' '@', range '[' (Char.ofNat 96),
      range '\x7b' '~'])
  | "space" => some asciiSpace
  | "upper" => some (range 'A' 'Z')
  | "word" => some asciiWord
  | "xdigit" => some (unions [range '0' '9', range 'A' 'F', range 'a' 'f'])
  | _ => none

/-- Case, blanks and joining marks do not count in the name of a property. -/
def propertyKey (name : List Char) : String :=
  let key := (name.map Char.toLower).filter fun c => c ∉ [' ', '_', '-', '\t']
  let key := if "is".toList <+: key && 2 < key.length then key.drop 2 else key
  String.ofList key

def category? (key : String) : Option CharSet :=
  match key with
  | "any" => some (range '\x00' (Char.ofNat 0x10ffff))
  | "assigned" => some (compl (ranges (Unicode.ofCategories ["Cn"])))
  | "ascii" => some (range '\x00' '\x7f')
  | _ => (Unicode.categoryNames.find? fun e => key ∈ e.1).map fun e =>
      ranges (Unicode.ofCategories e.2)

def binary? (key : String) : Option CharSet :=
  if key ∈ ["cf", "sc", "lc"] then none
  else (Unicode.properties.find? fun e => key ∈ e.1).map fun e => ranges e.2

def named? (name : List Char) : Option CharSet :=
  let key := propertyKey name
  binary? key <|> category? key <|> (Unicode.script? key).map ranges

def valued? (name value : List Char) : Option CharSet :=
  match propertyKey name with
  | "gc" | "generalcategory" => category? (propertyKey value)
  | "sc" | "script" | "scx" | "scriptextensions" =>
    (Unicode.script? (propertyKey value)).map ranges
  | _ => none

/-- The space a set takes in a compiled pattern, in bytes. -/
def weight : CharSet → Nat
  | empty => 32
  | range first last => if first = last then 32 * first.utf8Size else 32 * last.utf8Size
  | ranges r => 32 + 62 * r.length
  | union a b | inter a b | diff a b | symmDiff a b => max (weight a) (weight b) + 8
  | compl a => weight a + 96
  | folded _ a => weight a + 32

end CharSet

end GenPlan
