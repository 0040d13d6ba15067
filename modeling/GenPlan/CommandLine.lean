import GenPlan.Binding

namespace GenPlan

namespace CommandLine

inductive Word
  | separator
  | long (name : String) (value : Option String)
  | short (letters : List Char)
  | plain (text : String)
  deriving DecidableEq

def Word.ofText (text : String) : Word :=
  match text.toList with
  | ['-', '-'] => separator
  | '-' :: '-' :: cs =>
    let name := cs.takeWhile (· ≠ '=')
    let rest := cs.drop name.length
    long (String.ofList name)
      (if rest.isEmpty then none else some (String.ofList rest.tail))
  | '-' :: c :: cs => short (c :: cs)
  | _ => plain text

/-- The names of the options with a value, those without one with their letters, and whether the
reading ends at the first plain word. -/
structure Grammar where
  valued : List String := []
  plain : List (String × Char) := []
  leading : Bool := false

structure Given where
  values : List (String × String) := []
  flags : List String := []
  words : List String := []

namespace Given

def value? (given : Given) (name : String) : Option String :=
  (given.values.find? (·.1 = name)).map Prod.snd

def addValue (grammar : Grammar) (name value : String) (given : Given) : Option Given :=
  if name ∈ grammar.valued ∧ (given.value? name).isNone then
    some { given with values := (name, value) :: given.values }
  else none

def addFlag (grammar : Grammar) (name : String) (given : Given) : Option Given :=
  if name ∈ grammar.plain.map Prod.fst ∧ name ∉ given.flags then
    some { given with flags := name :: given.flags }
  else none

def addLetter (grammar : Grammar) (given : Given) (letter : Char) : Option Given :=
  (grammar.plain.find? (·.2 = letter)).bind fun option => given.addFlag grammar option.1

end Given

/-- Reads words from left to right. An option may be given once, and after two dashes alone only plain
words follow. At the first plain word of a leading part all the rest counts as words. -/
def read (grammar : Grammar) : List String → Given → Option Given
  | [], given => some given
  | text :: texts, given =>
    match Word.ofText text with
    | .separator =>
      if grammar.leading then none else some { given with words := given.words ++ texts }
    | .long name (some value) => (given.addValue grammar name value).bind (read grammar texts)
    | .long name none =>
      if name ∈ grammar.valued then
        match texts with
        | [] => none
        | value :: texts =>
          match Word.ofText value with
          | .plain value => (given.addValue grammar name value).bind (read grammar texts)
          | _ => none
      else (given.addFlag grammar name).bind (read grammar texts)
    | .short letters => (letters.foldlM (Given.addLetter grammar) given).bind (read grammar texts)
    | .plain word =>
      if grammar.leading then some { given with words := word :: texts }
      else read grammar texts { given with words := given.words ++ [word] }

end CommandLine

inductive Command
  | validate
  | vars (project : Option String)
  | json
  | target (query : BindingQuery)
  deriving DecidableEq

open CommandLine in
def Command.ofWords : List String → Option Command
  | "validate" :: texts => do
    let given ← read {} texts {}
    if given.words.isEmpty then some validate else none
  | "vars" :: texts => do
    let given ← read { valued := ["project"] } texts {}
    if given.words.isEmpty then some (vars (given.value? "project")) else none
  | "show" :: texts => do
    let given ← read {} texts {}
    if given.words.isEmpty then some json else none
  | "target" :: texts => do
    let given ← read { valued := ["path"] } texts {}
    match given.words with
    | [generator, artifact] => some (target ⟨generator, artifact, given.value? "path"⟩)
    | _ => none
  | _ => none

/-- Without a `root` the directory of the configuration file is the root directory. -/
structure Invocation where
  config : String
  root : Option String
  command : Command
  deriving DecidableEq

namespace Invocation

def defaultConfig : String := "srcgen.kdl"

def configVariable : String := "SRCGEN_CONFIG"

def grammar : CommandLine.Grammar where
  valued := ["config", "root-dir"]
  plain := [("verbose", 'v')]
  leading := true

/-- The configuration file is named by an option, else by the environment. -/
def ofWords (environment : Option String) (texts : List String) : Option Invocation := do
  let given ← CommandLine.read grammar texts {}
  let command ← Command.ofWords given.words
  return ⟨(given.value? "config" <|> environment).getD defaultConfig, given.value? "root-dir",
    command⟩

end Invocation

end GenPlan
