import GenPlan.Pattern.Match

namespace GenPlan.Pattern

structure Flags where
  ignoreCase : Bool := false
  multiLine : Bool := false
  dotAll : Bool := false
  unicode : Bool := true
  crlf : Bool := false
  verbose : Bool := false

/-- The text that is left, the flags that hold there and the names of groups so far. -/
structure Cursor where
  rest : List Char
  flags : Flags := {}
  names : List (List Char) := []

abbrev Reader := StateT Cursor Option

namespace Reader

def fail {α : Type} : Reader α := fun _ => none

def require (b : Bool) : Reader Unit := if b then pure () else fail

def rest : Reader (List Char) := return (← get).rest

def flags : Reader Flags := return (← get).flags

def setFlags (flags : Flags) : Reader Unit := modify fun c => { c with flags }

def peek? : Reader (Option Char) := return (← rest).head?

def peek : Reader Char := do
  match ← peek? with
  | some c => return c
  | none => fail

def drop (n : Nat) : Reader Unit := modify fun c => { c with rest := c.rest.drop n }

def take? (mark : String) : Reader Bool := do
  if mark.toList <+: (← rest) then
    drop mark.length
    return true
  else return false

def afterBlank : Bool → List Char → List Char
  | _, [] => []
  | true, c :: cs => afterBlank (c ≠ '\n') cs
  | false, c :: cs =>
    if Unicode.whiteSpace.contains c then afterBlank false cs
    else if c = '#' then afterBlank true cs
    else c :: cs

def skipBlank : Reader Unit :=
  modify fun c => if c.flags.verbose then { c with rest := afterBlank false c.rest } else c

def next : Reader Unit := do
  drop 1
  skipBlank

def nextChar : Reader Char := do
  next
  peek

def takeWhile (f : Char → Bool) : Reader (List Char) := do
  go (← rest).length
where
  go : Nat → Reader (List Char)
    | 0 => return []
    | fuel + 1 => do
      match ← peek? with
      | some c =>
        if f c then
          next
          return c :: (← go fuel)
        else return []
      | none => return []

end Reader

open Reader

/-- What a single item of a pattern or a class can be. A byte is a character written by two digits. -/
inductive Primitive
  | char (c : Char) (byte : Bool)
  | set (s : CharSet)
  | assertion (a : Assertion)

def scalar (digits : List Char) : Reader Char :=
  let n := ofDigits 16 digits
  if n.isValidChar then return Char.ofNat n else fail

def hexDigits : Nat → Reader (List Char)
  | 0 => return []
  | n + 1 => do
    let c ← peek
    require (isHexDigit c)
    next
    return c :: (← hexDigits n)

def hexEscape (letter : Char) : Reader Primitive := do
  if (← nextChar) = '\x7b' then
    next
    let digits ← takeWhile (· ≠ '\x7d')
    require (!digits.isEmpty && digits.all isHexDigit && (← peek?) = some '\x7d')
    next
    return .char (← scalar digits) false
  else
    let digits ← hexDigits (if letter = 'x' then 2 else if letter = 'u' then 4 else 8)
    return .char (← scalar digits) (letter = 'x')

def foldSet (flags : Flags) (s : CharSet) : CharSet :=
  if flags.ignoreCase then .folded flags.unicode s else s

/-- A negated set of ASCII would hold parts of characters, so it needs the Unicode flag. -/
def negate (negated : Bool) (s : CharSet) : Reader CharSet := do
  require (!negated || (← flags).unicode)
  return if negated then .compl s else s

def splitAt? (mark : Char) (name : List Char) : Option (List Char × List Char) :=
  if mark ∈ name then
    let before := name.takeWhile (· ≠ mark)
    some (before, name.drop (before.length + 1))
  else none

def splitUnequal? : List Char → Option (List Char × List Char)
  | '!' :: '=' :: s => some ([], s)
  | c :: s => (splitUnequal? s).map fun (before, after) => (c :: before, after)
  | [] => none

def ofOption {α : Type} (a : Option α) : Reader α := fun c => a.map (·, c)

def propertyClass (negated : Bool) : Reader Primitive := do
  let flags ← flags
  require flags.unicode
  let c ← nextChar
  let (s, negated) ←
    if c = '\x7b' then
      next
      let name ← takeWhile (· ≠ '\x7d')
      require ((← peek?) = some '\x7d')
      drop 1
      match splitUnequal? name with
      | some (name, value) => pure (← ofOption (CharSet.valued? name value), !negated)
      | none =>
        match splitAt? ':' name <|> splitAt? '=' name with
        | some (name, value) => pure (← ofOption (CharSet.valued? name value), negated)
        | none => pure (← ofOption (CharSet.named? name), negated)
    else
      require (c ≠ '\\')
      next
      pure (← ofOption (CharSet.category? (CharSet.propertyKey [c])), negated)
  return .set (← negate negated (foldSet flags s))

def perlClass (letter : Char) : Reader Primitive := do
  drop 1
  let unicode := (← flags).unicode
  let s := match letter.toLower with
    | 'd' => if unicode then CharSet.digit else CharSet.asciiDigit
    | 's' => if unicode then CharSet.space else CharSet.asciiSpace
    | _ => if unicode then CharSet.word else CharSet.asciiWord
  return .set (← negate letter.isUpper s)

def wordEdge (edge : WordEdge) : Reader Primitive :=
  return .assertion (.word edge (← flags).unicode)

/-- A word boundary, possibly with a kind in braces. Other braces are those of a repetition. -/
def boundary : Reader Primitive := do
  if (← peek?) ≠ some '\x7b' then wordEdge .boundary
  else
    let before ← get
    let isNameChar (c : Char) := c.isAlpha || c = '-'
    if !isNameChar (← nextChar) then
      modify fun _ => before
      wordEdge .boundary
    else
      let name ← takeWhile isNameChar
      require ((← peek?) = some '\x7d')
      drop 1
      match String.ofList name with
      | "start" => wordEdge .opening
      | "end" => wordEdge .closing
      | "start-half" => wordEdge .openingHalf
      | "end-half" => wordEdge .closingHalf
      | _ => fail

def isEscapable (c : Char) : Bool :=
  c.toNat < 128 && !c.isAlphanum && c ≠ '<' && c ≠ '>'

def escape : Reader Primitive := do
  drop 1
  let c ← peek
  if c ∈ ['x', 'u', 'U'] then hexEscape c
  else if c = 'p' || c = 'P' then propertyClass (c = 'P')
  else if c ∈ ['d', 's', 'w', 'D', 'S', 'W'] then perlClass c
  else
    drop 1
    if isEscapable c then return .char c false
    else match c with
      | 'a' => return .char '\x07' false
      | 'f' => return .char '\x0c' false
      | 't' => return .char '\t' false
      | 'n' => return .char '\n' false
      | 'r' => return .char '\r' false
      | 'v' => return .char '\x0b' false
      | 'A' => return .assertion .textStart
      | 'z' => return .assertion .textEnd
      | 'b' => boundary
      | 'B' => wordEdge .inside
      | '<' => wordEdge .opening
      | '>' => wordEdge .closing
      | _ => fail

structure Depth (α : Type) where
  value : α
  depth : Nat

def join (items : List (Depth CharSet)) : Depth CharSet :=
  let deepest := (items.map Depth.depth).foldl Nat.max 0
  ⟨CharSet.unions (items.map Depth.value), if items.length < 2 then deepest else deepest + 1⟩

def classItem : Reader Primitive := do
  let c ← peek
  if c = '\\' then escape
  else
    drop 1
    return .char c false

def classChar : Primitive → Reader Char
  | .char c _ => do
    require ((← flags).unicode || c.toNat < 128)
    return c
  | _ => fail

def classRange : Reader CharSet := do
  let first ← classItem
  skipBlank
  let dash := (← peek) = '-'
  let verbose := (← flags).verbose
  let after := (← rest).drop 1
  let after := (if verbose then afterBlank false after else after).head?
  if !dash || after = some ']' || after = some '-' then
    match first with
    | .set s => return s
    | first => return .single (← classChar first)
  else
    discard nextChar
    let last ← classChar (← classItem)
    let first ← classChar first
    require (first ≤ last)
    return .range first last

def posixClass? (s : List Char) : Option (Bool × CharSet × List Char) :=
  match s with
  | '[' :: ':' :: s =>
    let negated := s.head? = some '^'
    let s := if negated then s.tail else s
    let name := s.takeWhile (· ≠ ':')
    match s.drop name.length with
    | ':' :: ']' :: r => (CharSet.posix? (String.ofList name)).map (negated, ·, r)
    | _ => none
  | _ => none

inductive SetOperator
  | inter
  | diff
  | symmDiff

def SetOperator.apply : SetOperator → CharSet → CharSet → CharSet
  | inter => .inter
  | diff => .diff
  | symmDiff => .symmDiff

/-- The operand of an operator between sets, after the operators before it. -/
def operand (flags : Flags) (left : Option (Depth CharSet × SetOperator)) (right : Depth CharSet) :
    Depth CharSet :=
  match left with
  | none => right
  | some (left, op) =>
    ⟨op.apply (foldSet flags left.value) (foldSet flags right.value),
      Nat.max left.depth right.depth + 1⟩

def leadingDashes : Nat → Reader (List (Depth CharSet))
  | 0 => return []
  | fuel + 1 => do
    if (← peek) = '-' then
      next
      return ⟨.single '-', 0⟩ :: (← leadingDashes fuel)
    else return []

mutual

def bracketed : Nat → Reader (Depth CharSet)
  | 0 => fail
  | fuel + 1 => do
    let negated := (← nextChar) = '^'
    if negated then discard nextChar
    let dashes ← leadingDashes (← rest).length
    if dashes.isEmpty && (← peek) = ']' then
      discard nextChar
      members fuel negated none [⟨.single ']', 0⟩]
    else members fuel negated none dashes

def members : Nat → Bool → Option (Depth CharSet × SetOperator) → List (Depth CharSet) →
    Reader (Depth CharSet)
  | 0, _, _, _ => fail
  | fuel + 1, negated, left, items => do
    skipBlank
    let s ← rest
    let flags ← flags
    let operate (op : SetOperator) : Reader (Depth CharSet) := do
      drop 2
      members fuel negated (some (operand flags left (join items), op)) []
    match s with
    | [] => fail
    | ']' :: _ =>
      drop 1
      let all := operand flags left (join items)
      return ⟨← negate negated (foldSet flags all.value), all.depth + 1⟩
    | '&' :: '&' :: _ => operate .inter
    | '-' :: '-' :: _ => operate .diff
    | '~' :: '~' :: _ => operate .symmDiff
    | '[' :: _ =>
      match posixClass? s with
      | some (negatedItem, item, r) =>
        modify fun c => { c with rest := r }
        let item ← negate negatedItem (foldSet flags item)
        members fuel negated left (items ++ [⟨item, 0⟩])
      | none => members fuel negated left (items ++ [← bracketed fuel])
    | _ => members fuel negated left (items ++ [⟨← classRange, 0⟩])

end

def isNameStart (c : Char) : Bool := c = '_' || Unicode.alphabetic.contains c

def isNameChar (c : Char) : Bool :=
  c ∈ ['_', '.', '[', ']'] || Unicode.alphabetic.contains c ||
    Unicode.category c ∈ ["Nd", "Nl", "No"]

def groupName : Reader Unit := do
  let name := (← rest).takeWhile (· ≠ '>')
  drop name.length
  require ((← peek?) = some '>')
  drop 1
  require (name.head?.any isNameStart && name.tail.all isNameChar && name ∉ (← get).names)
  modify fun c => { c with names := name :: c.names }

def setFlag (value : Bool) (flags : Flags) : Char → Option Flags
  | 'i' => some { flags with ignoreCase := value }
  | 'm' => some { flags with multiLine := value }
  | 's' => some { flags with dotAll := value }
  | 'u' => some { flags with unicode := value }
  | 'R' => some { flags with crlf := value }
  | 'x' => some { flags with verbose := value }
  | 'U' => some flags
  | _ => none

def readFlags (value : Bool) (seen : List Char) (flags : Flags) :
    List Char → Option Flags
  | [] => if seen.head? = some '-' then none else some flags
  | '-' :: cs => if value then readFlags false ('-' :: seen) flags cs else none
  | c :: cs =>
    if c ∈ seen then none
    else (setFlag value flags c).bind fun flags => readFlags value (c :: seen) flags cs

/-- A member of a sequence. What only sets flags cannot be repeated. -/
structure Piece where
  pattern : Depth Pattern
  repeatable : Bool := true

def sequence (pieces : List Piece) : Depth Pattern :=
  let patterns := pieces.map Piece.pattern
  match patterns with
  | [] => ⟨.empty, 0⟩
  | [p] => p
  | p :: ps =>
    ⟨(p :: ps).foldr (fun a b => .seq a.value b) .empty,
      ((p :: ps).map Depth.depth).foldl Nat.max 0 + 1⟩

def alternatives (branches : List (Depth Pattern)) : Depth Pattern :=
  match branches with
  | [] => ⟨.empty, 0⟩
  | [p] => p
  | p :: ps =>
    ⟨ps.foldl (fun a b => .alt a b.value) p.value,
      ((p :: ps).map Depth.depth).foldl Nat.max 0 + 1⟩

def repeatLast (min : Nat) (max : Option Nat) (pieces : List Piece) : Reader (List Piece) :=
  match pieces.getLast? with
  | some ⟨p, true⟩ => return pieces.dropLast ++ [⟨⟨.iter p.value min max, p.depth + 1⟩, true⟩]
  | _ => fail

def decimal? : Reader (Option Nat) := do
  modify fun c => { c with rest := c.rest.dropWhile Unicode.whiteSpace.contains }
  let digits ← takeWhile Char.isDigit
  modify fun c => { c with rest := c.rest.dropWhile Unicode.whiteSpace.contains }
  skipBlank
  if digits.isEmpty then return none
  else
    let n := ofDigits 10 digits
    require (n < Nat.pow 2 32)
    return some n

def bounds : Reader (Nat × Option Nat) := do
  discard nextChar
  let some min ← decimal? | fail
  let max ←
    if (← peek) = ',' then
      if (← nextChar) = '\x7d' then pure none
      else
        let some max ← decimal? | fail
        pure (some max)
    else pure (some min)
  require ((← peek) = '\x7d' && max.all (min ≤ ·))
  next
  return (min, max)

def literal (c : Char) (byte : Bool) : Reader Pattern := do
  let flags ← flags
  require (flags.unicode || !byte || c.toNat < 128)
  return .set (foldSet flags (.single c))

def primitive : Reader Pattern := do
  let flags ← flags
  match ← peek with
  | '\\' =>
    match ← escape with
    | .char c byte => literal c byte
    | .set s => return .set s
    | .assertion a => return .assertion a
  | '.' =>
    drop 1
    require flags.unicode
    return .set (if flags.dotAll then .range '\x00' (Char.ofNat 0x10ffff)
      else if flags.crlf then .compl (CharSet.ofChars "\r\n") else .compl (.single '\n'))
  | '^' =>
    drop 1
    return .assertion (if flags.multiLine then .lineStart flags.crlf else .textStart)
  | '$' =>
    drop 1
    return .assertion (if flags.multiLine then .lineEnd flags.crlf else .textEnd)
  | c =>
    drop 1
    literal c false

def takeLazy : Reader Unit := discard (take? "?")

mutual

def branches : Nat → List (Depth Pattern) → Reader (Depth Pattern)
  | 0, _ => fail
  | fuel + 1, done => do
    let branch ← pieces fuel []
    if ← take? "|" then branches fuel (done ++ [branch])
    else return alternatives (done ++ [branch])

def pieces : Nat → List Piece → Reader (Depth Pattern)
  | 0, _ => fail
  | fuel + 1, done => do
    skipBlank
    match ← peek? with
    | none | some ')' | some '|' => return sequence done
    | some '(' => pieces fuel (done ++ [← group fuel])
    | some '[' =>
      let s ← bracketed fuel
      pieces fuel (done ++ [⟨⟨.set s.value, s.depth⟩, true⟩])
    | some '?' =>
      drop 1
      takeLazy
      pieces fuel (← repeatLast 0 (some 1) done)
    | some '*' =>
      drop 1
      takeLazy
      pieces fuel (← repeatLast 0 none done)
    | some '+' =>
      drop 1
      takeLazy
      pieces fuel (← repeatLast 1 none done)
    | some '\x7b' =>
      require (!done.isEmpty)
      let (min, max) ← bounds
      takeLazy
      pieces fuel (← repeatLast min max done)
    | some _ => pieces fuel (done ++ [⟨⟨← primitive, 0⟩, true⟩])

/-- A group, or flags for the rest of the group around. Flags set inside end with the group. -/
def group : Nat → Reader Piece
  | 0 => fail
  | fuel + 1 => do
    drop 1
    skipBlank
    let outer ← flags
    let inner : Reader Piece := do
      let p ← branches fuel []
      require (← take? ")")
      setFlags outer
      return ⟨⟨p.value, p.depth + 1⟩, true⟩
    let s ← rest
    if ["?=", "?!", "?<=", "?<!"].any fun mark => mark.toList <+: s then fail
    else if (← take? "?P<") || (← take? "?<") then
      groupName
      inner
    else if ← take? "?" then
      let letters := (← rest).takeWhile fun c => c ≠ ':' && c ≠ ')'
      drop letters.length
      setFlags (← ofOption (readFlags true [] outer letters))
      if ← take? ":" then inner
      else
        require (!letters.isEmpty && (← take? ")"))
        return ⟨⟨.empty, 0⟩, false⟩
    else inner

end

def nestingLimit : Nat := 250

def weightLimit : Nat := 10 * Nat.pow 2 20

/-- Groups, classes and repetitions may be nested up to a limit, and a compiled pattern may take a limited
space; there is no looking around and no reference back. -/
def compile? (text : String) : Option Pattern := do
  let s := text.toList
  let (p, cursor) ← (branches (2 * s.length + 4) []).run { rest := s }
  guard (cursor.rest.isEmpty && p.depth ≤ nestingLimit && p.value.weight ≤ weightLimit)
  return p.value

end GenPlan.Pattern
