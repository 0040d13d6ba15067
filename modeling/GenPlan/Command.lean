import GenPlan.CommandLine
import GenPlan.Json.Encode
import GenPlan.Plan.Document

namespace GenPlan

/-- An error in words, and what caused it, from the outside in. -/
structure Failure where
  outermost : String
  causes : List String := []
  deriving DecidableEq

namespace Failure

def indent (label margin : String) (cause : String) : String :=
  label ++ ("\n" ++ margin).intercalate (cause.splitOn "\n")

def number : Nat → List String → List String
  | _, [] => []
  | n, cause :: causes =>
    let digits := toString n
    let label := String.ofList (List.replicate (5 - digits.length) ' ') ++ digits ++ ": "
    indent label "       " cause :: number (n + 1) causes

def causeLines : List String → List String
  | [cause] => [indent "    " "    " cause]
  | causes => number 0 causes

def report (failure : Failure) : String :=
  let causes := if failure.causes.isEmpty then ""
    else "\n\nCaused by:\n" ++ "\n".intercalate (causeLines failure.causes)
  "Error: " ++ failure.outermost ++ causes ++ "\n"

def inline (failure : Failure) : String :=
  ": ".intercalate (failure.outermost :: failure.causes)

end Failure

/-- The reason a text or a file could not be read is a cause of its own. -/
def PlanError.causes (e : PlanError) : List String :=
  match e with
  | malformed => [e.message, malformedText]
  | unreadable _ reason => [e.message, reason.message]
  | invalid _ => [e.message]

def InitError.causes (e : InitError) : List String :=
  match e with
  | load (.unreadable _ reason) => [e.message, reason.message]
  | _ => [e.message]

structure Outcome where
  code : Nat
  output : String := ""
  errors : String := ""
  deriving DecidableEq

namespace Invocation

def root? (files : Files) (invocation : Invocation) : Except Failure String :=
  match invocation.root with
  | some root => .ok root
  | none => (files.absolute (Path.parent invocation.config)).mapError fun reason =>
      ⟨"Failed to resolve root directory", [reason.message]⟩

def load (files : Files) (invocation : Invocation) : Except Failure Session := do
  let plan ← (Plan.load files invocation.config).mapError fun e =>
    ⟨s!"Failed to parse config file: {invocation.config}", e.causes⟩
  let root ← invocation.root? files
  match Session.init files {} root { plan } with
  | ⟨session, none⟩ => return session
  | ⟨_, some e⟩ => throw ⟨s!"Failed to initialize config: {invocation.config}", e.causes⟩

def varLines (vars : NameMap String) : String :=
  String.join (vars.entries.map fun (name, value) => name ++ " = " ++ value ++ "\n")

def targetDirectory (session : Session) (query : BindingQuery) : Except Failure String := do
  let binding ← (session.bind query).mapError fun e => ⟨"Failed to bind artifact", [e.message]⟩
  match session.root with
  | some root => return binding.directory root
  | none => throw ⟨"Configuration has no root directory", []⟩

def answer (session : Session) : Command → Except Failure String
  | .validate => .ok "Configuration is valid\n"
  | .vars none => .ok (varLines session.plan.scope.resolved)
  | .vars (some name) =>
    match session.plan.findProject name with
    | some project => .ok (varLines project.scope.resolved)
    | none => .error ⟨"Project not found: " ++ name, []⟩
  | .json => .ok (session.toJson.pretty ++ "\n")
  | .target query => (targetDirectory session query).map (· ++ "\n")

/-- Validating prints what is wrong; the other commands report it as an error. -/
def run (files : Files) (invocation : Invocation) : Outcome :=
  match (invocation.load files).bind (answer · invocation.command) with
  | .ok output => { code := 0, output }
  | .error failure =>
    if invocation.command = .validate then
      { code := 1, output := "Configuration error: " ++ failure.inline ++ "\n" }
    else { code := 1, errors := failure.report }

end Invocation

/-- Runs the program; words that make no command line end it with the code 2. -/
def Outcome.ofWords (files : Files) (environment : Option String) (words : List String) : Outcome :=
  match Invocation.ofWords environment words with
  | some invocation => invocation.run files
  | none => { code := 2 }

end GenPlan
