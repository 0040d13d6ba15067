import GenPlan.Kdl.Document
import GenPlan.Kdl.Printer
import GenPlan.Plan

namespace GenPlan

/-- What a document lacks or has too much of. Kinds of entities are names of nodes. -/
inductive DocumentError
  | missingName (kind : String)
  | missingProperty (property kind name : String)
  | missingEntryPath
  | missingValue (key : String)
  | notBoolean (property : String) (value : Kdl.Value)
  | duplicate (kind name : String)
  | duplicateBlock (kind : String)
  deriving DecidableEq

def DocumentError.message : DocumentError → String
  | missingName kind => s!"missing required field: {kind} name"
  | missingProperty property kind name =>
    s!"missing required field: {property} for {kind} '{name}'"
  | missingEntryPath => "missing required field: classpath entry path"
  | missingValue key => s!"missing required field: value of property '{key}'"
  | notBoolean property value =>
    s!"invalid value for {property}: expected a boolean, got {value.print}"
  | duplicate kind name => s!"duplicate definition: {kind} '{name}'"
  | duplicateBlock kind => s!"duplicate definition: {kind} block"

abbrev Reading (α : Type) := Except DocumentError α

namespace Reading

def require {α : Type} (a : Option α) (e : DocumentError) : Reading α :=
  match a with
  | some a => .ok a
  | none => .error e

def name (kind : String) (node : Kdl.Node) : Reading String :=
  require (node.argumentText? 0) (.missingName kind)

def property (key kind name : String) (node : Kdl.Node) : Reading String :=
  require (node.propertyText? key) (.missingProperty key kind name)

/-- A flag that is not given is false. -/
def flag (key : String) (node : Kdl.Node) : Reading Bool :=
  match node.property? key with
  | none => .ok false
  | some value => require value.boolean? (.notBoolean key value)

def routing (node : Kdl.Node) : Routing :=
  ⟨node.propertyText? "project", node.propertyText? "folder"⟩

/-- A source counts before a value, and a second argument before a property. -/
def declaration (node : Kdl.Node) : Reading Variable := do
  let name ← name "variable" node
  match node.propertyText? "source" with
  | some location =>
    return { name, source := some ⟨location, node.propertyText? "encoding"⟩ }
  | none => return { name, cached := node.argumentText? 1 <|> node.propertyText? "value" }

def addVariable {α : Type} [Scoped α] (a : α) (node : Kdl.Node) : Reading α := do
  let v ← declaration node
  if Named.contains (Scoped.scope a).declared v.name then throw (.duplicate "variable" v.name)
  return Scoped.declare v a

def propertyHeader (node : Kdl.Node) : Reading (String × String) := do
  let key ← name "property" node
  let value ← require (node.argumentText? 1) (.missingValue key)
  return (key, value)

def addProperty (properties : NameMap String) (node : Kdl.Node) : Reading (NameMap String) := do
  let (key, value) ← propertyHeader node
  if key ∈ properties then throw (.duplicate "property" key)
  return properties.insert key value

def addNew {α : Type} [Named α] (kind : String) (items : List α) (item : α) : Reading (List α) :=
  if Named.contains items (Named.name item) then .error (.duplicate kind (Named.name item))
  else .ok (items ++ [item])

def entryHeader (node : Kdl.Node) : Reading ClasspathEntry := do
  let path ← require (node.argumentText? 0) .missingEntryPath
  return { kind := if node.name = "jar" then .jar else .bin, path }

def addToClasspath (classpath : Classpath) (node : Kdl.Node) : Reading Classpath := do
  match node.name with
  | "variable" => addVariable classpath node
  | "bin" | "jar" =>
    return { classpath with entries := classpath.entries ++ [← entryHeader node] }
  | _ => return classpath

def classpath (node : Kdl.Node) : Reading Classpath := node.children.foldlM addToClasspath {}

def addToFolder (folder : Folder) (node : Kdl.Node) : Reading Folder :=
  if node.name = "variable" then addVariable folder node else .ok folder

def folderHeader (node : Kdl.Node) : Reading Folder := do
  let name ← name "folder" node
  let path ← property "path" "folder" name node
  let create ← flag "create" node
  let overrideExisting ← flag "override" node
  let clean ← flag "clean" node
  let cleanExclude : Selector := { text := node.propertyText? "clean-exclude" }
  return { name, path, create, overrideExisting, clean, cleanExclude }

def folder (node : Kdl.Node) : Reading Folder := do
  node.children.foldlM addToFolder (← folderHeader node)

def addToProject (project : Project) (node : Kdl.Node) : Reading Project := do
  match node.name with
  | "variable" => addVariable project node
  | "folder" => return project.withFolders (← addNew "folder" project.folders (← folder node))
  | _ => return project

def projectHeader (node : Kdl.Node) : Reading Project := do
  let name ← name "project" node
  let path ← property "path" "project" name node
  let maven ← flag "maven" node
  return { name, path, maven }

def project (node : Kdl.Node) : Reading Project := do
  node.children.foldlM addToProject (← projectHeader node)

def addToParser (parser : Parser) (node : Kdl.Node) : Reading Parser := do
  match node.name with
  | "variable" => addVariable parser node
  | "property" => return { parser with properties := ← addProperty parser.properties node }
  | _ => return parser

def parserHeader (node : Kdl.Node) : Reading Parser := do
  let name ← name "parser" node
  let className ← property "class" "parser" name node
  return { name, className }

def parser (node : Kdl.Node) : Reading Parser := do
  node.children.foldlM addToParser (← parserHeader node)

def addToParsers (parsers : Parsers) (node : Kdl.Node) : Reading Parsers := do
  match node.name with
  | "variable" => addVariable parsers node
  | "parser" =>
    return { parsers with parsers := ← addNew "parser" parsers.parsers (← parser node) }
  | _ => return parsers

def parsers (node : Kdl.Node) : Reading Parsers := node.children.foldlM addToParsers {}

def addToTarget (target : Target) (node : Kdl.Node) : Reading Target :=
  if node.name = "variable" then addVariable target node else .ok target

def targetHeader (node : Kdl.Node) : Target :=
  { pattern.text := node.propertyText? "pattern", routing := routing node }

def target (node : Kdl.Node) : Reading Target :=
  node.children.foldlM addToTarget (targetHeader node)

def addToArtifact (artifact : Artifact) (node : Kdl.Node) : Reading Artifact := do
  match node.name with
  | "variable" => addVariable artifact node
  | "target" => return { artifact with targets := artifact.targets ++ [← target node] }
  | _ => return artifact

def artifactHeader (node : Kdl.Node) : Reading Artifact := do
  let name ← name "artifact" node
  return { name, routing := routing node }

def artifact (node : Kdl.Node) : Reading Artifact := do
  node.children.foldlM addToArtifact (← artifactHeader node)

def addToGenerator (generator : Generator) (node : Kdl.Node) : Reading Generator := do
  match node.name with
  | "variable" => addVariable generator node
  | "property" =>
    return { generator with properties := ← addProperty generator.properties node }
  | "artifact" =>
    let artifacts ← addNew "artifact" generator.artifacts (← artifact node)
    return { generator with artifacts }
  | _ => return generator

def generatorHeader (node : Kdl.Node) : Reading Generator := do
  let name ← name "generator" node
  let className ← property "class" "generator" name node
  return { name, className, routing := routing node, parser := node.propertyText? "parser" }

def generator (node : Kdl.Node) : Reading Generator := do
  node.children.foldlM addToGenerator (← generatorHeader node)

def addToGenerators (generators : Generators) (node : Kdl.Node) : Reading Generators := do
  match node.name with
  | "variable" => addVariable generators node
  | "generator" =>
    let members ← addNew "generator" generators.generators (← generator node)
    return { generators with generators := members }
  | _ => return generators

def generatorsHeader (node : Kdl.Node) : Generators := { routing := routing node }

def generators (node : Kdl.Node) : Reading Generators :=
  node.children.foldlM addToGenerators (generatorsHeader node)

/-- A plan with the blocks it has got already. -/
structure Draft where
  plan : Plan := {}
  blocks : List String := []

def isBlock (kind : String) : Bool := kind ∈ ["classpath", "parsers", "generators"]

def addToPlan (plan : Plan) (node : Kdl.Node) : Reading Plan := do
  match node.name with
  | "variable" => addVariable plan node
  | "classpath" => return { plan with classpath := ← classpath node }
  | "project" => return { plan with projects := ← addNew "project" plan.projects (← project node) }
  | "parsers" => return { plan with parsers := ← parsers node }
  | "generators" => return { plan with generators := ← generators node }
  | _ => return plan

def addToDraft (draft : Draft) (node : Kdl.Node) : Reading Draft := do
  if isBlock node.name ∧ node.name ∈ draft.blocks then throw (.duplicateBlock node.name)
  let plan ← addToPlan draft.plan node
  return ⟨plan, if isBlock node.name then node.name :: draft.blocks else draft.blocks⟩

end Reading

/-- The plan that the nodes of a document stand for, before any substitution. Nodes of other names are
passed over; scalars are read as text, and only the null value counts as absent. -/
def Plan.ofDocument (nodes : List Kdl.Node) : Except DocumentError Plan :=
  (nodes.foldlM Reading.addToDraft {}).map Reading.Draft.plan

inductive PlanError
  | unreadable (location : String) (reason : ReadFailure)
  | malformed
  | invalid (reason : DocumentError)
  deriving DecidableEq

def malformedText : String := "Failed to parse KDL document"

def PlanError.message : PlanError → String
  | unreadable location reason => s!"failed to read {location}: {reason.message}"
  | malformed => s!"KDL parse error: {malformedText}"
  | invalid reason => reason.message

namespace Plan

def parse (text : String) : Except PlanError Plan :=
  match Kdl.parse? text with
  | none => .error .malformed
  | some nodes => (ofDocument nodes).mapError .invalid

def load (files : Files) (location : String) : Except PlanError Plan := do
  parse (← (files.read (utf8 location)).mapError (.unreadable location))

end Plan

end GenPlan
