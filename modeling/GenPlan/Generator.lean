import GenPlan.Generator.Artifact
import GenPlan.Plugin

namespace GenPlan

/-- Names the plugin that writes its artifacts, and the parser whose model that plugin works on. -/
structure Generator where
  name : String
  className : String
  parser : Option String := none
  routing : Routing := {}
  properties : NameMap String := ∅
  artifacts : List Artifact := []
  outer : Routing := {}
  scope : Scope := {}
  deriving DecidableEq

namespace Generator

instance : Named Generator := ⟨name⟩

instance : Scoped Generator := ⟨scope, fun generator scope => { generator with scope }⟩

instance : Routed Generator := ⟨routing, outer⟩

def init (files : Files) (parent : NameMap String) (outer : Routing) (generator : Generator) :
    Progress InitError Generator :=
  (Scoped.inherit files parent generator).andThen fun generator =>
    let replace := generator.scope.replace
    let generator := { generator with
      name := replace generator.name
      className := replace generator.className
      parser := generator.parser.map replace
      routing := generator.routing.map replace
      properties := generator.properties.mapValues replace
      outer }
    (Progress.each (Artifact.init files generator.scope.resolved (Routed.defined generator))
      generator.artifacts).map fun artifacts => { generator with artifacts }

def findArtifact (generator : Generator) (name : String) : Option Artifact :=
  Named.find? generator.artifacts name

def settings (generator : Generator) : Settings :=
  ⟨generator.name, generator.className, generator.properties, generator.scope.resolved⟩

end Generator

structure Generators where
  routing : Routing := {}
  generators : List Generator := []
  scope : Scope := {}
  deriving DecidableEq

namespace Generators

instance : Scoped Generators := ⟨scope, fun generators scope => { generators with scope }⟩

/-- Nothing stands around the list, so nothing is defined further out. -/
instance : Routed Generators := ⟨routing, fun _ => {}⟩

def init (files : Files) (parent : NameMap String) (generators : Generators) :
    Progress InitError Generators :=
  (Scoped.inherit files parent generators).andThen fun generators =>
    let generators := { generators with
      routing := generators.routing.map generators.scope.replace }
    (Progress.each (Generator.init files generators.scope.resolved (Routed.defined generators))
      generators.generators).map fun members => { generators with generators := members }

def findGenerator (generators : Generators) (name : String) : Option Generator :=
  Named.find? generators.generators name

def forParser (generators : Generators) (parser : String) : List Generator :=
  generators.generators.filter fun generator => generator.parser = some parser

end Generators

end GenPlan
