import GenPlan.NameMap

namespace GenPlan

inductive PluginKind
  | parser
  | generator
  deriving DecidableEq

def PluginKind.text : PluginKind → String
  | parser => "parser"
  | generator => "generator"

/-- What an entry of the configuration hands to its plugin. -/
structure Settings where
  name : String
  className : String
  properties : NameMap String
  vars : NameMap String
  deriving DecidableEq

def Settings.property? (settings : Settings) (key : String) : Option String :=
  settings.properties.get? key

inductive PluginError
  | notFound (kind : PluginKind) (id : String)
  | failed (kind : PluginKind) (name reason : String)
  deriving DecidableEq

def PluginError.message : PluginError → String
  | notFound kind id => s!"no {kind.text} plugin registered for '{id}'"
  | failed kind name reason => s!"{kind.text} plugin '{name}' failed: {reason}"

inductive Model
  | text (s : String)
  | number (n : Nat)
  | nothing
  deriving DecidableEq

namespace Model

def text? : Model → Option String
  | text s => some s
  | _ => none

def number? : Model → Option Nat
  | number n => some n
  | _ => none

def describe (_ : Model) : String := "Model \x7b .. \x7d"

end Model

/-- What plugins do: they write a log and may fail. -/
abbrev PluginRun (α : Type) := List String → Except PluginError α × List String

/-- These plugins write down what they are asked to do, and fail or answer as their properties tell them. -/
structure Plugin where
  kind : PluginKind
  tag : String
  settings : Settings
  deriving DecidableEq

namespace Plugin

def failure (plugin : Plugin) (reason : String) : PluginError :=
  .failed plugin.kind plugin.settings.name reason

def failIf (plugin : Plugin) (key : String) : Except PluginError Unit :=
  match plugin.settings.property? key with
  | some reason => .error (plugin.failure reason)
  | none => .ok ()

def start (kind : PluginKind) (tag : String) (settings : Settings) : PluginRun Plugin :=
  fun log =>
    let plugin : Plugin := ⟨kind, tag, settings⟩
    ((plugin.failIf "fail-init").map fun _ => plugin,
      log ++ [s!"{kind.text} {tag} init {settings.name}"])

def parse (plugin : Plugin) : Except PluginError Model := do
  plugin.failIf "fail-parse"
  if (plugin.settings.property? "number").isSome then return .number 42
  else return .text (plugin.tag ++ ":" ++ (plugin.settings.property? "input").getD "")

def generate (plugin : Plugin) (incremental : Bool) : Model → PluginRun Unit
  | .text s, log => (.ok (), log ++ [s!"{plugin.tag} generate {s} incremental={incremental}"])
  | _, log => (.error (plugin.failure "unexpected model type"), log)

end Plugin

end GenPlan
