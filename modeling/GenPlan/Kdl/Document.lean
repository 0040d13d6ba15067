import GenPlan.Kdl.Lexeme

namespace GenPlan.Kdl

def annotation? : List Char → Option (List Char)
  | '(' :: s => do
    let (_, r) ← string? (skipNodeSpace s)
    match skipNodeSpace r with
    | ')' :: r => return skipNodeSpace r
    | _ => none
  | _ => none

def value? (s : List Char) : Option (Value × List Char) := bareValue? ((annotation? s).getD s)

def property? (s : List Char) : Option (Entry × List Char) := do
  let (key, r) ← string? s
  match skipNodeSpace r with
  | '=' :: r =>
    let (value, r) ← value? (skipNodeSpace r)
    return (⟨some key, value⟩, r)
  | _ => none

def entry? (s : List Char) : Option (Entry × List Char) :=
  property? s <|> (value? s).map fun (value, r) => (⟨none, value⟩, r)

/-- The text after a mark that takes out what follows. -/
def slashdash? : List Char → Option (List Char)
  | '/' :: '-' :: s => some (skipLineSpace s)
  | _ => none

def entries : Nat → List Char → List Entry × List Char
  | 0, s => ([], s)
  | fuel + 1, s =>
    if (nodeSpace? s).isNone then ([], s)
    else
      let r := skipNodeSpace s
      match slashdash? r with
      | some r =>
        match entry? r with
        | some (_, r) => entries fuel r
        | none => ([], s)
      | none =>
        match entry? r with
        | some (entry, r) =>
          let (rest, r) := entries fuel r
          (entry :: rest, r)
        | none => ([], s)

/-- A node ends at a line break, a semicolon, a comment or the end of the text around it. -/
def terminator? : List Char → Option (List Char)
  | ';' :: s => some s
  | s => newline? s <|> lineComment? s

mutual

def block? : Nat → List Char → Option (List Node × List Char)
  | fuel + 1, '\x7b' :: s =>
    match nodes fuel s with
    | (children, '\x7d' :: r) => some (children, r)
    | _ => none
  | _, _ => none

def skipBlocks : Nat → List Char → List Char
  | 0, s => s
  | fuel + 1, s =>
    match (slashdash? s).bind (block? fuel) with
    | some (_, r) => skipBlocks fuel (skipNodeSpace r)
    | none => s

def node? : Nat → List Char → Option (Node × List Char)
  | 0, _ => none
  | fuel + 1, s => do
    let (name, r) ← string? ((annotation? s).getD s)
    let (entries, r) := entries r.length r
    let r := skipBlocks fuel (skipNodeSpace r)
    match block? fuel r with
    | some (children, r) => return (.mk name entries children, skipBlocks fuel (skipNodeSpace r))
    | none => return (.mk name entries [], r)

def skipToNode : Nat → List Char → List Char
  | 0, s => s
  | fuel + 1, s =>
    let s := skipLineSpace s
    match (slashdash? s).bind (node? fuel) with
    | some (_, r) => skipToNode fuel r
    | none => s

def nodes : Nat → List Char → List Node × List Char
  | 0, s => ([], s)
  | fuel + 1, s =>
    let s := skipToNode fuel s
    match node? fuel s with
    | none => ([], s)
    | some (node, r) =>
      match terminator? r with
      | none => ([node], r)
      | some r =>
        let (rest, r) := nodes fuel r
        (node :: rest, r)

end

def dropMark : List Char → List Char
  | '\ufeff' :: s => s
  | s => s

def parse? (text : String) : Option (List Node) :=
  let s := dropMark text.toList
  match nodes (4 * s.length + 4) s with
  | (nodes, []) => some nodes
  | _ => none

end GenPlan.Kdl
