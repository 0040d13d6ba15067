import GenPlan.Files
import GenPlan.Location.Host

namespace GenPlan

/-- Only URLs of local files can be read. A text that is no absolute URL is a path, and so is one with a
scheme of a single letter, which names a drive. -/
inductive Location
  | path (bytes : List UInt8)
  | elsewhere
  | remote (scheme : String)
  deriving DecidableEq

namespace Location

/-- Control characters and spaces around a URL, and line breaks and tabs in it, do not count. -/
def clean (text : String) : List Char :=
  let s := text.toList.dropWhile (· ≤ ' ')
  let s := (s.reverse.dropWhile (· ≤ ' ')).reverse
  s.filter fun c => c ∉ ['\t', '\n', '\r']

def isSchemeChar (c : Char) : Bool := c.isAlphanum || c ∈ ['+', '-', '.']

def scheme? (s : List Char) : Option (String × List Char) :=
  let name := s.takeWhile isSchemeChar
  match s.drop name.length with
  | ':' :: rest =>
    if s.head?.any Char.isAlpha then some (String.ofList (name.map Char.toLower), rest) else none
  | _ => none

def webSchemes : List String := ["http", "https", "ws", "wss", "ftp"]

def beforePath (special : Bool) (s : List Char) : List Char :=
  s.takeWhile fun c => c ∉ ['/', '?', '#'] && !(special && c = '\\')

def afterUser (s : List Char) : Option (List Char) :=
  if '@' ∈ s then some (s.reverse.takeWhile (· ≠ '@')).reverse else none

def splitService : Bool → List Char → List Char × Option (List Char)
  | _, [] => ([], none)
  | inBrackets, c :: s =>
    if c = ':' && !inBrackets then ([], some s)
    else
      let (host, service) := splitService (c = '[' || (inBrackets && c ≠ ']')) s
      (c :: host, service)

def isAuthority (special : Bool) (s : List Char) : Bool :=
  let authority := beforePath special s
  let user := afterUser authority
  let (host, service) := splitService false (user.getD authority)
  if host.isEmpty then !special && service.isNone && user.isNone
  else
    (if special then (hostName? host).isSome else isOpaqueHost host) && service.all isService

/-- Whether the text after the scheme makes a URL, for schemes other than that of files. -/
def isRest (scheme : String) (s : List Char) : Bool :=
  if scheme ∈ webSchemes then isAuthority true (s.dropWhile fun c => c = '/' || c = '\\')
  else
    match s with
    | '/' :: '/' :: s => isAuthority false s
    | _ => true

def isSlash (c : Char) : Bool := c = '/' || c = '\\'

def isDrive : List Char → Bool
  | [c, mark] => c.isAlpha && (mark = ':' || mark = '|')
  | _ => false

def isDot (s : List Char) : Bool := String.ofList (s.map Char.toLower) ∈ [".", "%2e"]

def isDoubleDot (s : List Char) : Bool :=
  String.ofList (s.map Char.toLower) ∈ ["..", "%2e.", ".%2e", "%2e%2e"]

def parentOf (directories : List (List Char)) : List (List Char) :=
  if directories.getLast?.any isDrive then directories else directories.dropLast

def fixDrive (directories : List (List Char)) (segment : List Char) : List Char :=
  if directories.isEmpty && isDrive segment then segment.take 1 ++ [':'] else segment

/-- The directories and the last name after dots are followed. -/
def followDots (directories : List (List Char)) : List (List Char) → List (List Char)
  | [] => directories
  | [last] =>
    if isDoubleDot last then parentOf directories ++ [[]]
    else if isDot last then directories ++ [[]]
    else directories ++ [fixDrive directories last]
  | segment :: rest =>
    if isDoubleDot segment then followDots (parentOf directories) rest
    else if isDot segment then followDots directories rest
    else followDots (directories ++ [fixDrive directories segment]) rest

def closeDrive (bytes : List UInt8) : List UInt8 :=
  match bytes.reverse with
  | mark :: c :: _ :: _ =>
    if (Char.ofNat c.toNat).isAlpha && (mark = 58 || mark = 124) then bytes ++ [47] else bytes
  | _ => bytes

def fileNames (s : List Char) : List (List Char) :=
  followDots [] ((s.takeWhile fun c => c ≠ '?' && c ≠ '#').splitOnP isSlash)

def filePath (s : List Char) : List UInt8 :=
  let names := match (fileNames s).dropWhile List.isEmpty with
    | [] => [[]]
    | names => names
  closeDrive (percentDecode (utf8 (String.ofList (names.flatMap ('/' :: ·)))))

def startsWithDrive (s : List Char) : Bool := isDrive ((fileNames s).head?.getD [])

/-- A host before a drive is dropped. -/
def ofFileHost (s : List Char) : Option Location :=
  let host := s.takeWhile fun c => c ∉ ['/', '\\', '?', '#']
  let rest := s.drop host.length
  let rest := if rest.head?.any isSlash then rest.tail else rest
  if isDrive host then some (path (filePath s))
  else if host.isEmpty then some (path (filePath rest))
  else do
    let name ← hostName? host
    return if String.ofList name = "localhost" || startsWithDrive rest then path (filePath rest)
      else elsewhere

def ofFile : List Char → Option Location
  | c :: d :: s =>
    if isSlash c && isSlash d then ofFileHost s
    else if isSlash c then some (path (filePath (d :: s)))
    else some (path (filePath (c :: d :: s)))
  | [c] => some (path (filePath (if isSlash c then [] else [c])))
  | [] => some (path (filePath []))

def ofUrl? (text : String) : Option Location := do
  let (scheme, rest) ← scheme? (clean text)
  if scheme = "file" then ofFile rest
  else if isRest scheme rest && 1 < scheme.length then return remote scheme
  else none

def ofText (text : String) : Location := (ofUrl? text).getD (path (utf8 text))

end Location

end GenPlan
