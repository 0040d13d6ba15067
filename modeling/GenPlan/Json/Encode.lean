import GenPlan.Json
import GenPlan.Session

namespace GenPlan

open Json

def NameMap.toJson (m : NameMap String) : Json := object (m.entries.map fun e => (e.1, text e.2))

def Source.toJson (source : Source) : Json :=
  object [("location", text source.location), ("encoding", optionalText source.encoding)]

def Variable.toJson (v : Variable) : Json :=
  object [("name", text v.name), ("value", optionalText v.cached),
    ("source", ofOption Source.toJson v.source)]

def Scope.members (scope : Scope) : List (String × Json) :=
  if scope.declared.isEmpty then []
  else [("variables", array (scope.declared.map Variable.toJson))]

def Scope.toJson (scope : Scope) : Json := object scope.members

def Routing.members (routing : Routing) : List (String × Json) :=
  [("project", optionalText routing.project), ("folder", optionalText routing.folder)]

def Routing.toJson (routing : Routing) : Json := object routing.members

def EntryKind.text : EntryKind → String
  | .bin => "bin"
  | .jar => "jar"

def ClasspathEntry.toJson (entry : ClasspathEntry) : Json :=
  object ([("kind", text entry.kind.text), ("path", text entry.path)] ++ entry.scope.members)

def Classpath.toJson (classpath : Classpath) : Json :=
  object (("entries", array (classpath.entries.map ClasspathEntry.toJson)) ::
    classpath.scope.members)

def Folder.toJson (folder : Folder) : Json :=
  object ([("name", text folder.name), ("path", text folder.path),
    ("create", boolean folder.create), ("override_existing", boolean folder.overrideExisting),
    ("clean", boolean folder.clean), ("clean_exclude", optionalText folder.cleanExclude.text)] ++
    folder.scope.members)

def Project.toJson (project : Project) : Json :=
  object ([("name", text project.name), ("path", text project.path),
    ("maven", boolean project.maven), ("folders", array (project.folders.map Folder.toJson))] ++
    project.scope.members)

def Parser.toJson (parser : Parser) : Json :=
  object ([("name", text parser.name), ("class_name", text parser.className),
    ("properties", parser.properties.toJson)] ++ parser.scope.members)

def Parsers.toJson (parsers : Parsers) : Json :=
  object (("parsers", array (parsers.parsers.map Parser.toJson)) :: parsers.scope.members)

def Target.toJson (target : Target) : Json :=
  object (("pattern", optionalText target.pattern.text) ::
    (target.routing.members ++ target.scope.members))

def Artifact.toJson (artifact : Artifact) : Json :=
  object (("name", text artifact.name) :: (artifact.routing.members ++
    ("targets", array (artifact.targets.map Target.toJson)) :: artifact.scope.members))

def Generator.toJson (generator : Generator) : Json :=
  object ([("name", text generator.name), ("class_name", text generator.className),
    ("parser", optionalText generator.parser)] ++ generator.routing.members ++
    [("properties", generator.properties.toJson),
      ("artifacts", array (generator.artifacts.map Artifact.toJson))] ++ generator.scope.members)

def Generators.toJson (generators : Generators) : Json :=
  object (generators.routing.members ++
    ("generators", array (generators.generators.map Generator.toJson)) ::
      generators.scope.members)

def Session.toJson (session : Session) : Json :=
  let plan := session.plan
  object (plan.scope.members ++
    [("classpath", plan.classpath.toJson), ("projects", array (plan.projects.map Project.toJson)),
      ("parsers", plan.parsers.toJson), ("generators", plan.generators.toJson),
      ("root_dir", optionalText session.root)])

def Settings.toJson (settings : Settings) : Json :=
  object [("name", text settings.name), ("class_name", text settings.className),
    ("properties", settings.properties.toJson), ("variables", settings.vars.toJson)]

def PluginKind.toJson : PluginKind → Json
  | .parser => .text "Parser"
  | .generator => .text "Generator"

def Model.toJson (model : Model) : Json :=
  object [("string", optionalText model.text?),
    ("number", ofOption (fun n => .number n) model.number?), ("debug", .text model.describe)]

end GenPlan
