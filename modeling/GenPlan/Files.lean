import GenPlan.Path

namespace GenPlan

inductive ReadFailure
  | notFound
  | notADirectory
  | isADirectory
  | invalidText
  | nulInName
  | other (reason : String)
  deriving DecidableEq

def ReadFailure.message : ReadFailure → String
  | notFound => "No such file or directory (os error 2)"
  | notADirectory => "Not a directory (os error 20)"
  | isADirectory => "Is a directory (os error 21)"
  | invalidText => "stream did not contain valid UTF-8"
  | nulInName => "file name contained an unexpected NUL byte"
  | other reason => reason

/-- The text of a file, and the absolute path of a directory, as they are at one moment. File names are
bytes. -/
structure Files where
  read : List UInt8 → Except ReadFailure String
  absolute : String → Except ReadFailure String

def utf8 (text : String) : List UInt8 := text.toUTF8.toList

inductive FileTree
  | file (bytes : ByteArray)
  | directory (entries : List (String × FileTree))
  deriving Inhabited

namespace FileTree

def empty : FileTree := directory []

def entries : FileTree → List (String × FileTree)
  | file _ => []
  | directory entries => entries

def write (bytes : ByteArray) : List String → FileTree → FileTree
  | [], _ => file bytes
  | name :: names, tree =>
    let child := ((tree.entries.find? (·.1 = name)).map Prod.snd).getD empty
    directory ((tree.entries.filter (·.1 ≠ name)) ++ [(name, write bytes names child)])

/-- A node with the names and nodes above it, innermost first. -/
structure Place where
  above : List (String × FileTree)
  here : FileTree

namespace Place

def enter (place : Place) (name : List UInt8) : Except ReadFailure Place :=
  match place.here with
  | file _ => .error .notADirectory
  | directory entries =>
    if name = [] ∨ name = utf8 "." then .ok place
    else if name = utf8 ".." then
      match place.above with
      | [] => .ok place
      | (_, outer) :: above => .ok ⟨above, outer⟩
    else
      match entries.find? fun e => utf8 e.1 = name with
      | some (found, child) => .ok ⟨(found, place.here) :: place.above, child⟩
      | none => .error .notFound

def text (place : Place) : String :=
  "/" ++ "/".intercalate (place.above.reverse.map Prod.fst)

end Place

/-- Follows a path from the working directory, or from the root if it is absolute. -/
def follow (root : FileTree) (workingDirectory : String) (path : List UInt8) :
    Except ReadFailure Place := do
  if 0 ∈ path then throw .nulInName
  if path = [] then throw .notFound
  let start ←
    if path.head? = some 47 then pure ⟨[], root⟩
    else ((utf8 workingDirectory).splitOn 47).foldlM Place.enter ⟨[], root⟩
  (path.splitOn 47).foldlM Place.enter start

def readText : FileTree → Except ReadFailure String
  | file bytes => (String.fromUTF8? bytes).elim (.error .invalidText) .ok
  | directory _ => .error .isADirectory

def files (root : FileTree) (workingDirectory : String) : Files where
  read path := do (← follow root workingDirectory path).here.readText
  absolute path := return (← follow root workingDirectory (utf8 path)).text

end FileTree

end GenPlan
