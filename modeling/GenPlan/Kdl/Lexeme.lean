import GenPlan.Digits
import GenPlan.Kdl.Value

namespace GenPlan.Kdl

def isSpace (c : Char) : Bool :=
  c ∈ ['\t', ' ', '\u00a0', '\u1680', '\u202f', '\u205f', '\u3000'] ||
    ('\u2000' ≤ c && c ≤ '\u200a')

def isNewline (c : Char) : Bool :=
  c ∈ ['\n', '\x0b', '\x0c', '\r', '\u0085', '\u2028', '\u2029']

/-- Control characters, marks of direction and the byte order mark may stand in no string. -/
def isForbidden (c : Char) : Bool :=
  c ≤ '\x08' || ('\x0e' ≤ c && c ≤ '\x1f') || ('\u200e' ≤ c && c ≤ '\u200f') ||
    ('\u202a' ≤ c && c ≤ '\u202e') || ('\u2066' ≤ c && c ≤ '\u2069') || c = '\ufeff'

def isIdentifierChar (c : Char) : Bool :=
  !isSpace c && !isNewline c && !isForbidden c &&
    c ∉ ['\\', '/', '(', ')', '\x7b', '\x7d', '[', ']', ';', '"', '#', '=']

/-- Takes steps until one fails. Every step has to take a character. -/
def exhaust (step : List Char → Option (List Char)) (s : List Char) : List Char :=
  go s.length s
where
  go : Nat → List Char → List Char
    | 0, s => s
    | fuel + 1, s =>
      match step s with
      | some r => go fuel r
      | none => s

def newline? : List Char → Option (List Char)
  | '\r' :: '\n' :: s => some s
  | c :: s => if isNewline c then some s else none
  | [] => none

/-- The text after a comment in which so many comments are open. -/
def blockEnd? : Nat → List Char → Option (List Char)
  | _, [] => none
  | 0, '*' :: '/' :: s => some s
  | depth + 1, '*' :: '/' :: s => blockEnd? depth s
  | depth, '/' :: '*' :: s => blockEnd? (depth + 1) s
  | depth, _ :: s => blockEnd? depth s

def space? : List Char → Option (List Char)
  | '/' :: '*' :: s => blockEnd? 0 s
  | c :: s => if isSpace c then some s else none
  | [] => none

def afterNewline (s : List Char) : List Char := (newline? s).getD s

def lineComment? : List Char → Option (List Char)
  | '/' :: '/' :: s => some (afterNewline (s.dropWhile (!isNewline ·)))
  | _ => none

def lineContinuation? : List Char → Option (List Char)
  | '\\' :: s =>
    let s := exhaust space? s
    if s = [] then some [] else lineComment? s <|> newline? s
  | _ => none

def nodeSpace? (s : List Char) : Option (List Char) := space? s <|> lineContinuation? s

def lineSpace? (s : List Char) : Option (List Char) :=
  nodeSpace? s <|> newline? s <|> lineComment? s

def skipNodeSpace : List Char → List Char := exhaust nodeSpace?

def skipLineSpace : List Char → List Char := exhaust lineSpace?

inductive Item
  | literal (c : Char)
  | escaped (c : Char)
  | lineBreak
  deriving DecidableEq

namespace Item

def isBlank : Item → Bool
  | literal c => isSpace c
  | _ => false

def char : Item → Char
  | literal c | escaped c => c
  | lineBreak => '\n'

end Item

def scalar? (n : Nat) : Option Char := if n.isValidChar then some (Char.ofNat n) else none

def codePoint? (s : List Char) : Option (Char × List Char) :=
  let hex := s.takeWhile isHexDigit
  match s.drop hex.length with
  | '\x7d' :: r =>
    if 1 ≤ hex.length ∧ hex.length ≤ 6 then
      (scalar? (ofDigits 16 hex)).map (·, r)
    else none
  | _ => none

/-- The text after a backslash. A backslash before blank space and line breaks takes them away. -/
def escape? : List Char → Option (Option Char × List Char)
  | 'n' :: s => some ('\n', s)
  | 'r' :: s => some ('\r', s)
  | 't' :: s => some ('\t', s)
  | 'b' :: s => some ('\x08', s)
  | 'f' :: s => some ('\x0c', s)
  | 's' :: s => some (' ', s)
  | '\\' :: s => some ('\\', s)
  | '"' :: s => some ('"', s)
  | 'u' :: '\x7b' :: s => (codePoint? s).map fun (c, r) => (some c, r)
  | s =>
    let r := s.dropWhile fun c => isSpace c || isNewline c
    if r.length < s.length then some (none, r) else none

def items? (raw : Bool) (closing : List Char) : Nat → List Char → Option (List Item × List Char)
  | 0, _ => none
  | fuel + 1, s =>
    if closing <+: s then some ([], s.drop closing.length)
    else
      match newline? s with
      | some r => (items? raw closing fuel r).map fun (items, r) => (.lineBreak :: items, r)
      | none =>
        match s with
        | [] => none
        | c :: r =>
          if !raw && c = '\\' then do
            let (e, r) ← escape? r
            let (items, r) ← items? raw closing fuel r
            return ((e.map Item.escaped).toList ++ items, r)
          else if isForbidden c then none
          else (items? raw closing fuel r).map fun (items, r) => (.literal c :: items, r)

def unindent? (indent line : List Item) : Option (List Item) :=
  if line.all Item.isBlank then some []
  else if indent <+: line then some (line.drop indent.length)
  else none

/-- The indentation of the closing quotes is taken away from every line. -/
def dedent? (items : List Item) : Option (List Item) := do
  let lines := items.splitOnP (· = .lineBreak)
  let indent := lines.getLast?.getD []
  guard (indent.all Item.isBlank)
  let lines ← lines.dropLast.mapM (unindent? indent)
  return List.intercalate [.lineBreak] lines

def textOf (items : List Item) : String := String.ofList (items.map Item.char)

/-- A string in quotes, after the hash signs that make it raw. Three quotes have to end their line. -/
def quoted? (raw : Bool) (hashes : List Char) : List Char → Option (String × List Char)
  | '"' :: '"' :: '"' :: s => do
    let s ← newline? s
    let (items, r) ← items? raw (['"', '"', '"'] ++ hashes) (s.length + 1) s
    return (textOf (← dedent? items), r)
  | '"' :: s => do
    let (items, r) ← items? raw ('"' :: hashes) (s.length + 1) s
    guard (.lineBreak ∉ items)
    return (textOf items, r)
  | _ => none

def isKeyword (s : List Char) : Bool :=
  String.ofList s ∈ ["true", "false", "null", "inf", "nan"]

def dropSign : List Char → List Char
  | '+' :: s | '-' :: s => s
  | s => s

/-- A string without quotes: nothing that starts like a number, and no keyword. -/
def isIdentifier (s : List Char) : Bool :=
  let unsigned := dropSign s
  let body := if unsigned.head? = some '.' then unsigned.tail else unsigned
  !s.isEmpty && s.all isIdentifierChar && !body.head?.any Char.isDigit && !isKeyword s

def string? : List Char → Option (String × List Char)
  | '"' :: s => quoted? false [] ('"' :: s)
  | '#' :: s =>
    let hashes := ('#' :: s).takeWhile (· = '#')
    quoted? true hashes (('#' :: s).drop hashes.length)
  | s =>
    let word := s.takeWhile isIdentifierChar
    if isIdentifier word then some (String.ofList word, s.drop word.length) else none

def integerLimit : Nat := Nat.pow 2 127

def digits? (base : Nat) (s : List Char) : Option (Nat × List Char) := do
  let isDigit c := (hexDigit? c).any (· < base)
  guard (s.head?.any isDigit)
  let all := s.takeWhile fun c => isDigit c || c = '_'
  let value := ofDigits base (all.filter (· ≠ '_'))
  guard (value < integerLimit)
  return (value, s.drop all.length)

def signed (negative : Bool) (n : Nat) : Int := if negative then -n else n

def radix? : List Char → Option (Nat × List Char)
  | '0' :: 'x' :: s | '0' :: 'X' :: s => some (16, s)
  | '0' :: 'o' :: s | '0' :: 'O' :: s => some (8, s)
  | '0' :: 'b' :: s | '0' :: 'B' :: s => some (2, s)
  | _ => none

def fraction? (s : List Char) : Option (Nat × Nat × List Char) := do
  let (value, r) ← digits? 10 s
  return (value, ((s.take (s.length - r.length)).filter (· ≠ '_')).length, r)

def exponent? : List Char → Option (Int × List Char)
  | 'e' :: s | 'E' :: s => do
    let (value, r) ← digits? 10 (dropSign s)
    return (signed (s.head? = some '-') value, r)
  | s => some (0, s)

def decimal? (negative : Bool) (s : List Char) : Option Value := do
  let (whole, r) ← digits? 10 s
  match r with
  | [] => return .integer (signed negative whole)
  | '.' :: r =>
    let (part, places, r) ← fraction? r
    let (exponent, r) ← exponent? r
    guard r.isEmpty
    return .number (.ofDecimal negative ⟨whole * Nat.pow 10 places + part, exponent - places⟩)
  | _ =>
    let (exponent, r) ← exponent? r
    guard r.isEmpty
    return .number (.ofDecimal negative ⟨whole, exponent⟩)

def number? (word : List Char) : Option Value :=
  let negative := word.head? = some '-'
  let unsigned := dropSign word
  match radix? unsigned with
  | some (base, s) => do
    let (n, r) ← digits? base s
    guard r.isEmpty
    return .integer (signed negative n)
  | none => decimal? negative unsigned

def keyword? (word : List Char) : Option Value :=
  match String.ofList word with
  | "true" => some (.boolean true)
  | "false" => some (.boolean false)
  | "null" => some .null
  | "inf" => some (.number (.infinite false))
  | "-inf" => some (.number (.infinite true))
  | "nan" => some (.number .nan)
  | _ => none

def bareValue? (s : List Char) : Option (Value × List Char) :=
  match string? s with
  | some (text, r) => some (.text text, r)
  | none =>
    match s with
    | '#' :: r =>
      let word := r.takeWhile isIdentifierChar
      (keyword? word).map (·, r.drop word.length)
    | _ =>
      let word := s.takeWhile isIdentifierChar
      (number? word).map (·, s.drop word.length)

end GenPlan.Kdl
