import GenPlan.Path
import GenPlan.Plugin
import GenPlan.Quoted

namespace GenPlan

/-- The tags of the known plugins by the names they are registered under. -/
structure Registry where
  parsers : NameMap String := ∅
  generators : NameMap String := ∅
  deriving DecidableEq

namespace Registry

def plugins (registry : Registry) : PluginKind → NameMap String
  | .parser => registry.parsers
  | .generator => registry.generators

def register (kind : PluginKind) (id tag : String) (registry : Registry) : Registry :=
  match kind with
  | .parser => { registry with parsers := registry.parsers.insert id tag }
  | .generator => { registry with generators := registry.generators.insert id tag }

def start (registry : Registry) (kind : PluginKind) (id : String) (settings : Settings) :
    PluginRun Plugin := fun log =>
  match (registry.plugins kind).get? id with
  | some tag => Plugin.start kind tag settings log
  | none => (.error (.notFound kind id), log)

def parse (registry : Registry) (id : String) (settings : Settings) : PluginRun Model := fun log =>
  let (plugin, log) := registry.start .parser id settings log
  (plugin.bind Plugin.parse, log)

def generate (registry : Registry) (id : String) (settings : Settings) (incremental : Bool)
    (model : Model) : PluginRun Unit := fun log =>
  match registry.start .generator id settings log with
  | (.ok plugin, log) => plugin.generate incremental model log
  | (.error e, log) => (.error e, log)

def describeNames (names : List String) : String :=
  "[" ++ ", ".intercalate (names.map Quoted.encode) ++ "]"

def describe (registry : Registry) : String :=
  "PluginRegistry \x7b parsers: " ++ describeNames registry.parsers.keys ++ ", generators: " ++
    describeNames registry.generators.keys ++ " \x7d"

end Registry

structure Context where
  registry : Registry := {}
  classpath : List String := []
  deriving DecidableEq

def Context.addClasspath (path : String) (context : Context) : Context :=
  { context with classpath := Path.addNew context.classpath path }

end GenPlan
