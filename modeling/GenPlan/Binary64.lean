namespace GenPlan

/-- A finite number is `mantissa * 2 ^ exponent`, with a mantissa below `2 ^ 53` and an exponent of at
least `-1074`. -/
inductive Binary64
  | finite (negative : Bool) (mantissa : Nat) (exponent : Int)
  | infinite (negative : Bool)
  | nan
  deriving DecidableEq

structure Decimal where
  coefficient : Nat
  exponent : Int
  deriving DecidableEq

namespace Decimal

def size (n : Nat) : Nat := (Nat.toDigits 10 n).length

def quotient (d : Decimal) : Nat × Nat :=
  (d.coefficient * Nat.pow 10 d.exponent.toNat, Nat.pow 10 (-d.exponent).toNat)

def dropZeros : Nat → Decimal → Decimal
  | 0, d => d
  | fuel + 1, d =>
    if d.coefficient % 10 = 0 ∧ d.coefficient ≠ 0 then
      dropZeros fuel ⟨d.coefficient / 10, d.exponent + 1⟩
    else d

def normalize (d : Decimal) : Decimal := dropZeros (size d.coefficient) d

/-- How a number is written: the powers of ten that get an exponent, and whether a whole number ends
in a point and a zero. -/
structure Layout where
  exponential : Int → Bool
  pointed : Bool

namespace Layout

def plain : Layout := ⟨fun _ => false, false⟩

def literal : Layout := ⟨fun power => 16 ≤ power || power < -4, true⟩

end Layout

def zeros (n : Int) : List Char := List.replicate n.toNat '0'

def digits (d : Decimal) : List Char := Nat.toDigits 10 d.coefficient

def power (d : Decimal) : Int := d.exponent + d.digits.length - 1

def positional (pointed : Bool) (d : Decimal) : List Char :=
  let digits := d.digits
  if 0 ≤ d.exponent then
    digits ++ zeros d.exponent ++ if pointed then ['.', '0'] else []
  else
    let whole := digits.length + d.exponent
    if 0 < whole then digits.take whole.toNat ++ '.' :: digits.drop whole.toNat
    else '0' :: '.' :: zeros (-whole) ++ digits

def scientific (d : Decimal) : List Char :=
  let mantissa := match d.digits with
    | [] => []
    | [c] => [c]
    | c :: cs => c :: '.' :: cs
  mantissa ++ 'e' :: (toString d.power).toList

def write (layout : Layout) (d : Decimal) : List Char :=
  if d.coefficient = 0 then positional layout.pointed ⟨0, 0⟩
  else if layout.exponential d.power then scientific d
  else positional layout.pointed d

end Decimal

namespace Binary64

def bits : Nat := 53

def leastExponent : Int := -1074

def greatestExponent : Int := 971

/-- The quotient rounded to the nearest whole number, a half to the even one. -/
def roundDiv (num den : Nat) : Nat :=
  let q := num / den
  let rest := 2 * (num % den)
  if rest < den ∨ (rest = den ∧ q % 2 = 0) then q else q + 1

def binaryPower (num den : Nat) : Int :=
  let l : Int := (Nat.log2 num : Int) - Nat.log2 den
  if num * Nat.pow 2 (-l).toNat < den * Nat.pow 2 l.toNat then l - 1 else l

def ofQuotient (negative : Bool) (num den : Nat) : Binary64 :=
  if num = 0 then .finite negative 0 0
  else
    let e := max (binaryPower num den - (bits - 1)) leastExponent
    let m := roundDiv (num * Nat.pow 2 (-e).toNat) (den * Nat.pow 2 e.toNat)
    let (m, e) := if m = Nat.pow 2 bits then (m / 2, e + 1) else (m, e)
    if greatestExponent < e then .infinite negative else .finite negative m e

def ofDecimal (negative : Bool) (d : Decimal) : Binary64 :=
  if d.coefficient = 0 then .finite negative 0 0
  else if 400 < d.power then .infinite negative
  else if d.power < -400 then .finite negative 0 0
  else let (num, den) := d.quotient; ofQuotient negative num den

def decimalPower (num den : Nat) : Int :=
  if den ≤ num then (Decimal.size (num / den) : Int) - 1
  else -(Decimal.size ((den + num - 1) / num - 1) : Int)

/-- Whether a decimal rounds to the mantissa and exponent: it lies between the middles to the two
neighbours, which themselves go to an even mantissa. -/
def roundsTo (m : Nat) (e : Int) (d : Decimal) : Bool :=
  let (num, den) := d.quotient
  -- all three numbers in quarters of the last place
  let here := num * 4 * Nat.pow 2 (-e).toNat
  let unit := den * Nat.pow 2 e.toNat
  let below := if m = Nat.pow 2 (bits - 1) ∧ leastExponent < e then 4 * m - 1 else 4 * m - 2
  let above := 4 * m + 2
  if m % 2 = 0 then below * unit ≤ here && here ≤ above * unit
  else below * unit < here && here < above * unit

/-- The nearer of the two neighbours with the given number of digits, the greater of two equally
near, if it rounds back. -/
def candidate (m : Nat) (e : Int) (digits : Nat) : Option Decimal :=
  let num := m * Nat.pow 2 e.toNat
  let den := Nat.pow 2 (-e).toNat
  let p := decimalPower num den - (digits - 1)
  let num := num * Nat.pow 10 (-p).toNat
  let den := den * Nat.pow 10 p.toNat
  let low : Decimal := ⟨num / den, p⟩
  let high : Decimal := ⟨num / den + 1, p⟩
  let lowFits := roundsTo m e low
  let highFits := roundsTo m e high
  if lowFits && (!highFits || 2 * (num % den) < den) then some low
  else if highFits then some high
  else none

/-- The shortest decimal that rounds to a positive number; seventeen digits always do. -/
def shortest (m : Nat) (e : Int) : Decimal :=
  (((List.range 17).findSome? fun n => candidate m e (n + 1)).getD ⟨m, 0⟩).normalize

def sign (negative : Bool) : List Char := if negative then ['-'] else []

def write (layout : Decimal.Layout) (infinity : Bool → String) (notANumber : String) :
    Binary64 → String
  | finite negative 0 _ => String.ofList (sign negative ++ Decimal.write layout ⟨0, 0⟩)
  | finite negative m e => String.ofList (sign negative ++ Decimal.write layout (shortest m e))
  | infinite negative => infinity negative
  | nan => notANumber

end Binary64

end GenPlan
