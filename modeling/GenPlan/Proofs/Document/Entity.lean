import GenPlan.Plan.Document
import GenPlan.Proofs.Document.Grammar

namespace GenPlan

namespace Kdl.Node

variable (node : Node)

def text (i : Nat) : String := (node.argumentText? i).getD ""

def propertyText (key : String) : String := (node.propertyText? key).getD ""

def flag (key : String) : Bool := ((node.property? key).bind Value.boolean?).getD false

end Kdl.Node

def Variable.ofNode (node : Kdl.Node) : Variable :=
  match node.propertyText? "source" with
  | some location =>
    { name := node.text 0, source := some ⟨location, node.propertyText? "encoding"⟩ }
  | none => { name := node.text 0, cached := node.argumentText? 1 <|> node.propertyText? "value" }

theorem Variable.name_ofNode (node : Kdl.Node) : (ofNode node).name = node.text 0 := by
  rw [ofNode]
  split <;> rfl

namespace NodeKind

def scope (kind : NodeKind) (nodes : List Kdl.Node) : Scope :=
  ⟨(kind.pick .declaration nodes).map Variable.ofNode, ∅⟩

def propertyMap (kind : NodeKind) (nodes : List Kdl.Node) : NameMap String :=
  .ofList ((kind.pick .property nodes).map fun node => (node.text 0, node.text 1))

end NodeKind

def ClasspathEntry.ofNode (node : Kdl.Node) : ClasspathEntry :=
  { kind := if node.name = "jar" then .jar else .bin, path := node.text 0 }

def Classpath.withNodes (c : Classpath) (nodes : List Kdl.Node) : Classpath :=
  { c with
    entries := (NodeKind.classpath.pick .entry nodes).map ClasspathEntry.ofNode
    scope := NodeKind.classpath.scope nodes }

def Classpath.ofNode (node : Kdl.Node) : Classpath := withNodes {} node.children

def Folder.ofEntries (node : Kdl.Node) : Folder where
  name := node.text 0
  path := node.propertyText "path"
  create := node.flag "create"
  overrideExisting := node.flag "override"
  clean := node.flag "clean"
  cleanExclude.text := node.propertyText? "clean-exclude"

def Folder.withNodes (f : Folder) (nodes : List Kdl.Node) : Folder :=
  { f with scope := NodeKind.folder.scope nodes }

def Folder.ofNode (node : Kdl.Node) : Folder := (ofEntries node).withNodes node.children

def Project.ofEntries (node : Kdl.Node) : Project where
  name := node.text 0
  path := node.propertyText "path"
  maven := node.flag "maven"

def Project.withNodes (p : Project) (nodes : List Kdl.Node) : Project :=
  { p with
    folders := (NodeKind.project.pick .folder nodes).map Folder.ofNode
    scope := NodeKind.project.scope nodes }

def Project.ofNode (node : Kdl.Node) : Project := (ofEntries node).withNodes node.children

def Parser.ofEntries (node : Kdl.Node) : Parser where
  name := node.text 0
  className := node.propertyText "class"

def Parser.withNodes (p : Parser) (nodes : List Kdl.Node) : Parser :=
  { p with
    properties := NodeKind.parser.propertyMap nodes
    scope := NodeKind.parser.scope nodes }

def Parser.ofNode (node : Kdl.Node) : Parser := (ofEntries node).withNodes node.children

def Parsers.withNodes (p : Parsers) (nodes : List Kdl.Node) : Parsers :=
  { p with
    parsers := (NodeKind.parsers.pick .parser nodes).map Parser.ofNode
    scope := NodeKind.parsers.scope nodes }

def Parsers.ofNode (node : Kdl.Node) : Parsers := withNodes {} node.children

def Target.ofEntries (node : Kdl.Node) : Target where
  pattern.text := node.propertyText? "pattern"
  routing := Reading.routing node

def Target.withNodes (t : Target) (nodes : List Kdl.Node) : Target :=
  { t with scope := NodeKind.target.scope nodes }

def Target.ofNode (node : Kdl.Node) : Target := (ofEntries node).withNodes node.children

def Artifact.ofEntries (node : Kdl.Node) : Artifact where
  name := node.text 0
  routing := Reading.routing node

def Artifact.withNodes (a : Artifact) (nodes : List Kdl.Node) : Artifact :=
  { a with
    targets := (NodeKind.artifact.pick .target nodes).map Target.ofNode
    scope := NodeKind.artifact.scope nodes }

def Artifact.ofNode (node : Kdl.Node) : Artifact := (ofEntries node).withNodes node.children

def Generator.ofEntries (node : Kdl.Node) : Generator where
  name := node.text 0
  className := node.propertyText "class"
  routing := Reading.routing node
  parser := node.propertyText? "parser"

def Generator.withNodes (g : Generator) (nodes : List Kdl.Node) : Generator :=
  { g with
    properties := NodeKind.generator.propertyMap nodes
    artifacts := (NodeKind.generator.pick .artifact nodes).map Artifact.ofNode
    scope := NodeKind.generator.scope nodes }

def Generator.ofNode (node : Kdl.Node) : Generator := (ofEntries node).withNodes node.children

def Generators.ofEntries (node : Kdl.Node) : Generators where
  routing := Reading.routing node

def Generators.withNodes (g : Generators) (nodes : List Kdl.Node) : Generators :=
  { g with
    generators := (NodeKind.generators.pick .generator nodes).map Generator.ofNode
    scope := NodeKind.generators.scope nodes }

def Generators.ofNode (node : Kdl.Node) : Generators := (ofEntries node).withNodes node.children

/-- The plan that accepted nodes of a document stand for. A block that is not there is empty. -/
def Plan.ofNodes (nodes : List Kdl.Node) : Plan where
  scope := NodeKind.document.scope nodes
  classpath := ((NodeKind.document.pick .classpath nodes).map Classpath.ofNode).headD {}
  projects := (NodeKind.document.pick .project nodes).map Project.ofNode
  parsers := ((NodeKind.document.pick .parsers nodes).map Parsers.ofNode).headD {}
  generators := ((NodeKind.document.pick .generators nodes).map Generators.ofNode).headD {}

end GenPlan
