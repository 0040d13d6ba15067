import GenPlan.Progress
import GenPlan.Resolution
import GenPlan.Variable

namespace GenPlan

inductive PatternUse
  | target (pattern : String)
  | cleanExclude (folder : String)
  deriving DecidableEq

inductive InitError
  | load (reason : LoadError)
  | cycle (names : List String)
  | pattern (use : PatternUse)
  deriving DecidableEq

def patternDiagnostic : String := "<regex error>"

def PatternUse.message : PatternUse → String
  | target pattern => s!"invalid value for target pattern: '{pattern}': {patternDiagnostic}"
  | cleanExclude folder =>
    s!"invalid value for clean-exclude of folder '{folder}': {patternDiagnostic}"

def InitError.message : InitError → String
  | load reason => reason.message
  | cycle names => "cycle detected in variables: " ++ " > ".intercalate names
  | pattern use => use.message

/-- Declared names shadow those whose resolved values are inherited from the scope around. -/
structure Scope where
  declared : List Variable := []
  resolved : NameMap String := ∅
  deriving DecidableEq

namespace Scope

def declare (v : Variable) (s : Scope) : Scope := { s with declared := Named.put v s.declared }

/-- Substitutes into each variable what is known so far, from the first to the last. The text is
stored in the variable and known from then on. A source that cannot be read ends the pass. -/
def pass (files : Files) : NameMap String → List Variable →
    List Variable × Except LoadError (NameMap String)
  | known, [] => ([], .ok known)
  | known, v :: vs =>
    match v.value files with
    | .error e => (v :: vs, .error e)
    | .ok (text, v) =>
      let text := substitute known text
      let (vs, result) := pass files (known.insert v.name text) vs
      (v.set text :: vs, result)

/-- Resolves the declared variables together with the values of the scope around. Resolved values are
replaced only if all goes well. -/
def inherit (files : Files) (parent : NameMap String) (s : Scope) : Progress InitError Scope :=
  let (declared, result) := pass files parent s.declared
  match result with
  | .error e => .stop { s with declared } (.load e)
  | .ok known =>
    match resolve known with
    | .error names => .stop { s with declared } (.cycle names)
    | .ok resolution => .done ⟨declared, resolution.resolved⟩

def replace (s : Scope) (text : String) : String := substitute s.resolved text

end Scope

class Scoped (α : Type) where
  scope : α → Scope
  withScope : α → Scope → α

namespace Scoped

variable {α : Type} [Scoped α]

def vars (a : α) : NameMap String := (scope a).resolved

def declare (v : Variable) (a : α) : α := withScope a ((scope a).declare v)

def declareAll (vs : List Variable) (a : α) : α := vs.foldl (fun a v => declare v a) a

def inherit (files : Files) (parent : NameMap String) (a : α) : Progress InitError α :=
  ((scope a).inherit files parent).map (withScope a)

def replace (a : α) (text : String) : String := (scope a).replace text

end Scoped

end GenPlan
