import GenPlan.Pattern.CharSet

namespace GenPlan

/-- Places at and around the edges of words. The half edges look at one side only. -/
inductive WordEdge
  | boundary
  | inside
  | opening
  | closing
  | openingHalf
  | closingHalf
  deriving DecidableEq

inductive Assertion
  | textStart
  | textEnd
  /-- With `crlf` a carriage return and a line feed end a line, alone or as a pair. -/
  | lineStart (crlf : Bool)
  | lineEnd (crlf : Bool)
  | word (edge : WordEdge) (unicode : Bool)
  deriving DecidableEq

inductive Pattern
  | empty
  | set (s : CharSet)
  | assertion (a : Assertion)
  | seq (p q : Pattern)
  | alt (p q : Pattern)
  | iter (p : Pattern) (min : Nat) (max : Option Nat)
  deriving DecidableEq

namespace Pattern

def isNarrow : Pattern → Bool
  | empty | assertion _ => true
  | set _ => false
  | seq p q | alt p q => isNarrow p && isNarrow q
  | iter p _ max => isNarrow p || max = some 0

/-- The space a compiled pattern takes, in bytes; repetitions are written out. -/
def weight : Pattern → Nat
  | empty => 0
  | set s => s.weight
  | assertion _ => 32
  | seq p q => weight p + weight q
  | alt p q => weight p + weight q + 40
  | iter p min max =>
    let copies := if isNarrow p then 1 else (max.getD (Nat.max min 1))
    32 + (weight p + 16) * copies

end Pattern

end GenPlan
