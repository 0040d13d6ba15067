import GenPlan.Pattern.Syntax

namespace GenPlan.Pattern

def mask {α : Type} (f : α → Bool) : List α → Nat
  | [] => 0
  | a :: as => (if f a then 1 else 0) + 2 * mask f as

def places (previous : Option Char) : List Char → List (Option Char × Option Char)
  | [] => [(previous, none)]
  | c :: cs => (previous, some c) :: places (some c) cs

def edgeHolds (before after : Bool) : WordEdge → Bool
  | .boundary => before != after
  | .inside => before == after
  | .opening => !before && after
  | .closing => before && !after
  | .openingHalf => !before
  | .closingHalf => !after

def holds (a : Assertion) (place : Option Char × Option Char) : Bool :=
  let (before, after) := place
  match a with
  | .textStart => before.isNone
  | .textEnd => after.isNone
  | .lineStart false => before.isNone || before = some '\n'
  | .lineStart true =>
    before.isNone || before = some '\n' || (before = some '\r' && after ≠ some '\n')
  | .lineEnd false => after.isNone || after = some '\n'
  | .lineEnd true =>
    after.isNone || after = some '\r' || (after = some '\n' && before ≠ some '\r')
  | .word edge unicode =>
    edgeHolds (before.any (CharSet.isWord unicode)) (after.any (CharSet.isWord unicode)) edge

def iterate (f : Nat → Nat) : Nat → Nat → Nat
  | 0, s => s
  | n + 1, s =>
    let t := f s
    if t = s then s else iterate f n t

/-- The ends of the matches that start in a set, where the bits of a number stand for a set of places
between the characters. After as many repetitions as there are places the set does not change any more. -/
def ends (text : List Char) : Pattern → Nat → Nat
  | empty, s => s
  | set c, s => 2 * (s &&& mask c.contains text)
  | assertion a, s => s &&& mask (holds a) (places none text)
  | seq p q, s => ends text q (ends text p s)
  | alt p q, s => ends text p s ||| ends text q s
  | iter p min max, s =>
    let bound := text.length + 1
    let more := match max with
      | none => bound
      | some max => Nat.min (max - min) bound
    iterate (fun s => s ||| ends text p s) more (iterate (ends text p) (Nat.min min bound) s)

def occursIn (p : Pattern) (text : String) : Bool :=
  ends text.toList p (Nat.pow 2 (text.length + 1) - 1) ≠ 0

end GenPlan.Pattern
