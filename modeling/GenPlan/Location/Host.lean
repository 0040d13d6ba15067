import GenPlan.Digits

namespace GenPlan.Location

def hexByte? (hi lo : UInt8) : Option UInt8 := do
  let h ← hexDigit? (Char.ofNat hi.toNat)
  let l ← hexDigit? (Char.ofNat lo.toNat)
  return UInt8.ofNat (16 * h + l)

def percentDecode : List UInt8 → List UInt8
  | 37 :: hi :: lo :: bs =>
    match hexByte? hi lo with
    | some b => b :: percentDecode bs
    | none => 37 :: percentDecode (hi :: lo :: bs)
  | b :: bs => b :: percentDecode bs
  | [] => []

def decodeText? (text : List Char) : Option (List Char) :=
  (String.fromUTF8? ⟨(percentDecode (String.ofList text).toUTF8.toList).toArray⟩).map String.toList

/-- A number in decimal, or in octal after a zero, or in hexadecimal. -/
def number4? (s : List Char) : Option Nat :=
  let (base, digits) := match s with
    | '0' :: 'x' :: r | '0' :: 'X' :: r => (16, r)
    | '0' :: c :: r => (8, c :: r)
    | _ => (10, s)
  if s.isEmpty then none
  else digits.foldlM (fun n c => do
    let d ← hexDigit? c
    if d < base then some (n * base + d) else none) 0

/-- A last part that is a number makes the whole host an address. -/
def endsInNumber (labels : List (List Char)) : Bool :=
  let labels := if labels.getLast? = some [] then labels.dropLast else labels
  match labels.getLast? with
  | some last => (!last.isEmpty && last.all Char.isDigit) || (number4? last).isSome
  | none => false

def isAddress4 (labels : List (List Char)) : Bool :=
  let labels := if labels.getLast? = some [] then labels.dropLast else labels
  match labels.mapM number4? with
  | none => false
  | some numbers =>
    numbers.length ≤ 4 && numbers.dropLast.all (· ≤ 255) &&
      numbers.getLast?.any (· < Nat.pow 256 (5 - numbers.length))

def isPiece6 (s : List Char) : Bool :=
  1 ≤ s.length && s.length ≤ 4 && s.all isHexDigit

def isByte10 (s : List Char) : Bool :=
  1 ≤ s.length && s.length ≤ 3 && s.all Char.isDigit && (s.head? ≠ some '0' || s.length = 1) &&
    ofDigits 10 s ≤ 255

def isQuad (s : List Char) : Bool :=
  let bytes := s.splitOn '.'
  bytes.length = 4 && bytes.all isByte10

def pieces6? (last : Bool) (s : List Char) : Option Nat :=
  if s.isEmpty then some 0
  else
    let pieces := s.splitOn ':'
    let tail := pieces.getLast?.getD []
    if last && isQuad tail && pieces.dropLast.all isPiece6 then some (pieces.length + 1)
    else if pieces.all isPiece6 then some pieces.length
    else none

def splitGap : List Char → Option (List Char × List Char)
  | ':' :: ':' :: s => some ([], s)
  | c :: s => (splitGap s).map fun (before, after) => (c :: before, after)
  | [] => none

/-- Eight pieces, of which a double colon may stand for one or more. -/
def isAddress6 (s : List Char) : Bool :=
  match splitGap s with
  | none => pieces6? true s = some 8
  | some (before, after) =>
    match pieces6? false before, pieces6? true after with
    | some m, some n => m + n ≤ 7
    | _, _ => false

def isBracketed (s : List Char) : Bool :=
  s.getLast? = some ']' && isAddress6 s.tail.dropLast

def hostMarks : List Char :=
  [' ', '#', '/', ':', '<', '>', '?', '@', '[', '\\', ']', '^', '|']

def isOpaqueHost (s : List Char) : Bool :=
  if s.head? = some '[' then isBracketed s
  else s.all fun c => c ∉ hostMarks && c ∉ ['\x00', '\t', '\n', '\r']

/-- The name a host is written for, in lower case; none for a text that is no host. An address is
its own name. -/
def hostName? (s : List Char) : Option (List Char) :=
  if s.head? = some '[' then if isBracketed s then some s else none
  else do
    let name := (← decodeText? s).map Char.toLower
    guard (!name.isEmpty)
    guard (name.all fun c => c ∉ hostMarks && ' ' < c && c ≠ '%' && c ≠ '\x7f')
    let labels := name.splitOn '.'
    guard (!endsInNumber labels || isAddress4 labels)
    return name

def isService (s : List Char) : Bool :=
  s.all Char.isDigit && ofDigits 10 s < Nat.pow 2 16

end GenPlan.Location
