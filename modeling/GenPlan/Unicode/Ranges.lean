import GenPlan.Digits

namespace GenPlan.Unicode

/-- First and last code point of each range, in ascending order. -/
abbrev Ranges := List (Nat × Nat)

def words (text : String) : List (List Char) :=
  (text.toList.splitOnP fun c => c = ' ' || c = '\n').filter (!·.isEmpty)

namespace Ranges

/-- Numbers in hexadecimal: how many code points are left out, how many are in, and so on. -/
def decode (text : String) : Ranges :=
  go 0 ((words text).map (ofDigits 16))
where
  go (start : Nat) : List Nat → Ranges
    | out :: inside :: rest =>
      (start + out, start + out + inside - 1) :: go (start + out + inside) rest
    | _ => []

def contains (ranges : Ranges) (c : Char) : Bool :=
  ranges.any fun (first, last) => first ≤ c.toNat && c.toNat ≤ last

end Ranges

end GenPlan.Unicode
