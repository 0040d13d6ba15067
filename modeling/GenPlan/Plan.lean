import GenPlan.Classpath
import GenPlan.Generator
import GenPlan.Parser
import GenPlan.Project

namespace GenPlan

structure Plan where
  scope : Scope := {}
  classpath : Classpath := {}
  projects : List Project := []
  parsers : Parsers := {}
  generators : Generators := {}
  deriving DecidableEq

namespace Plan

instance : Scoped Plan := ⟨scope, fun plan scope => { plan with scope }⟩

def rootVariable : String := "rootDir"

def init (files : Files) (root : String) (plan : Plan) : Progress InitError Plan :=
  let plan := Scoped.declare { name := rootVariable, cached := root } plan
  (Scoped.inherit files ∅ plan)
    |>.andThen (fun plan => (plan.classpath.init files plan.scope.resolved).map
      fun classpath => { plan with classpath })
    |>.andThen (fun plan => (Progress.each (Project.init files plan.scope.resolved) plan.projects).map
      fun projects => { plan with projects })
    |>.andThen (fun plan => (plan.parsers.init files plan.scope.resolved).map
      fun parsers => { plan with parsers })
    |>.andThen (fun plan => (plan.generators.init files plan.scope.resolved).map
      fun generators => { plan with generators })

def findProject (plan : Plan) (name : String) : Option Project := Named.find? plan.projects name

def findParser (plan : Plan) (name : String) : Option Parser := plan.parsers.findParser name

def findGenerator (plan : Plan) (name : String) : Option Generator :=
  plan.generators.findGenerator name

end Plan

end GenPlan
