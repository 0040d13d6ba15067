import GenPlan.Binding
import GenPlan.Proofs.Named

namespace GenPlan

/-- The same values, without the variables they come from. -/
def Scope.undeclared (s : Scope) : Scope := { s with declared := [] }

def Scoped.undeclared {α : Type} [Scoped α] (a : α) : α := withScope a (scope a).undeclared

def Classpath.undeclared (c : Classpath) : Classpath :=
  Scoped.undeclared { c with entries := c.entries.map Scoped.undeclared }

def Project.undeclared (p : Project) : Project :=
  Scoped.undeclared { p with folders := p.folders.map Scoped.undeclared }

def Parsers.undeclared (p : Parsers) : Parsers :=
  Scoped.undeclared { p with parsers := p.parsers.map Scoped.undeclared }

def Artifact.undeclared (a : Artifact) : Artifact :=
  Scoped.undeclared { a with targets := a.targets.map Scoped.undeclared }

def Generator.undeclared (g : Generator) : Generator :=
  Scoped.undeclared { g with artifacts := g.artifacts.map Artifact.undeclared }

def Generators.undeclared (g : Generators) : Generators :=
  Scoped.undeclared { g with generators := g.generators.map Generator.undeclared }

def Plan.undeclared (p : Plan) : Plan :=
  ⟨p.scope.undeclared, p.classpath.undeclared, p.projects.map Project.undeclared,
    p.parsers.undeclared, p.generators.undeclared⟩

def Session.undeclared (s : Session) : Session := { s with plan := s.plan.undeclared }

def Binding.undeclared (b : Binding) : Binding :=
  ⟨b.project.undeclared, Scoped.undeclared b.folder⟩

section

variable (name : String)

theorem Plan.findGenerator_undeclared (p : Plan) :
    p.undeclared.findGenerator name = (p.findGenerator name).map Generator.undeclared :=
  Named.find?_map Generator.undeclared (fun _ => rfl) p.generators.generators name

theorem Generator.findArtifact_undeclared (g : Generator) :
    g.undeclared.findArtifact name = (g.findArtifact name).map Artifact.undeclared :=
  Named.find?_map Artifact.undeclared (fun _ => rfl) g.artifacts name

theorem Plan.findProject_undeclared (p : Plan) :
    p.undeclared.findProject name = (p.findProject name).map Project.undeclared :=
  Named.find?_map Project.undeclared (fun _ => rfl) p.projects name

theorem Project.findFolder_undeclared (p : Project) :
    p.undeclared.findFolder name = (p.findFolder name).map Scoped.undeclared :=
  Named.find?_map Scoped.undeclared (fun _ => rfl) p.folders name

end

theorem Artifact.findTarget_undeclared (a : Artifact) (path : String) :
    a.undeclared.findTarget path = (a.findTarget path).map Scoped.undeclared := List.find?_map ..

theorem Session.routingFor_undeclared (a : Artifact) (path : Option String) :
    routingFor a.undeclared path = routingFor a path := by
  cases path with
  | none => rfl
  | some path =>
    simp only [routingFor, Option.bind_some, Artifact.findTarget_undeclared]
    cases a.findTarget path <;> rfl

theorem Session.bind_undeclared (s : Session) (query : BindingQuery) :
    s.undeclared.bind query = (s.bind query).map Binding.undeclared := by
  simp only [bind, undeclared, Plan.findGenerator_undeclared, Plan.findProject_undeclared]
  cases s.initialized with
  | false => rfl
  | true =>
    cases s.plan.findGenerator query.generator with
    | none => rfl
    | some g =>
      simp only [Option.map_some, Generator.findArtifact_undeclared]
      cases g.findArtifact query.artifact with
      | none => rfl
      | some a =>
        simp only [Option.map_some, routingFor_undeclared]
        cases (routingFor a query.path).project with
        | none => rfl
        | some project =>
          cases (routingFor a query.path).folder with
          | none => rfl
          | some folder =>
            simp only
            cases s.plan.findProject project with
            | none => rfl
            | some p =>
              simp only [Option.map_some, Project.findFolder_undeclared]
              cases p.findFolder folder <;> rfl

end GenPlan
