import GenPlan.Plan

namespace GenPlan

/-- Where an entity stands: its index in each list on the way to it. -/
inductive Address
  | plan
  | classpath
  | entry (i : Nat)
  | project (i : Nat)
  | folder (i j : Nat)
  | parsers
  | parser (i : Nat)
  | generators
  | generator (i : Nat)
  | artifact (i j : Nat)
  | target (i j k : Nat)
  deriving DecidableEq

inductive Node
  | plan (plan : Plan)
  | classpath (classpath : Classpath)
  | entry (entry : ClasspathEntry)
  | project (project : Project)
  | folder (folder : Folder)
  | parsers (parsers : Parsers)
  | parser (parser : Parser)
  | generators (generators : Generators)
  | generator (generator : Generator)
  | artifact (artifact : Artifact)
  | target (target : Target)
  deriving DecidableEq

namespace Node

def scope : Node → Scope
  | plan p => p.scope
  | classpath c => c.scope
  | entry e => e.scope
  | project p => p.scope
  | folder f => f.scope
  | parsers p => p.scope
  | parser p => p.scope
  | generators g => g.scope
  | generator g => g.scope
  | artifact a => a.scope
  | target t => t.scope

def withScope (node : Node) (scope : Scope) : Node :=
  match node with
  | plan p => plan { p with scope }
  | classpath c => classpath { c with scope }
  | entry e => entry { e with scope }
  | project p => project { p with scope }
  | folder f => folder { f with scope }
  | parsers p => parsers { p with scope }
  | parser p => parser { p with scope }
  | generators g => generators { g with scope }
  | generator g => generator { g with scope }
  | artifact a => artifact { a with scope }
  | target t => target { t with scope }

instance : Scoped Node := ⟨scope, withScope⟩

/-- Initializes an entity below the plan on top of what the entity around it has resolved and
routed. -/
def init (files : Files) (parent : NameMap String) (outer : Routing) (node : Node) :
    Progress InitError Node :=
  match node with
  | plan p => .done (plan p)
  | classpath c => (c.init files parent).map classpath
  | entry e => (e.init files parent).map entry
  | project p => (p.init files parent).map project
  | folder f => (f.init files parent).map folder
  | parsers p => (p.init files parent).map parsers
  | parser p => (p.init files parent).map parser
  | generators g => (g.init files parent).map generators
  | generator g => (g.init files parent outer).map generator
  | artifact a => (a.init files parent outer).map artifact
  | target t => (t.init files parent outer).map target

def children : Node → List Node
  | plan p =>
    classpath p.classpath :: p.projects.map project ++ [parsers p.parsers, generators p.generators]
  | classpath c => c.entries.map entry
  | project p => p.folders.map folder
  | parsers p => p.parsers.map parser
  | generators g => g.generators.map generator
  | generator g => g.artifacts.map artifact
  | artifact a => a.targets.map target
  | entry _ | folder _ | parser _ | target _ => []

def height : Node → Nat
  | plan _ => 4
  | generators _ => 3
  | generator _ => 2
  | artifact _ | classpath _ | project _ | parsers _ => 1
  | entry _ | folder _ | parser _ | target _ => 0

theorem height_lt_of_mem_children {child node : Node} (h : child ∈ node.children) :
    child.height < node.height := by
  cases node <;> simp only [children, List.not_mem_nil, List.cons_append, List.mem_cons,
    List.mem_append, List.mem_map, or_false] at h
  case plan => rcases h with rfl | ⟨_, _, rfl⟩ | rfl | rfl <;> simp [height]
  all_goals obtain ⟨_, _, rfl⟩ := h; simp [height]

/-- An entity with all that it is around, at any depth. -/
def all (node : Node) : List Node :=
  node :: node.children.attach.flatMap fun child => all child.1
termination_by node.height
decreasing_by exact height_lt_of_mem_children child.2

def settings? : Node → Option Settings
  | parser p => some p.settings
  | generator g => some g.settings
  | _ => none

end Node

namespace Plan

def node? (p : Plan) : Address → Option Node
  | .plan => some (.plan p)
  | .classpath => some (.classpath p.classpath)
  | .entry i => p.classpath.entries[i]?.map .entry
  | .project i => p.projects[i]?.map .project
  | .folder i j => do
    let project ← p.projects[i]?
    project.folders[j]?.map .folder
  | .parsers => some (.parsers p.parsers)
  | .parser i => p.parsers.parsers[i]?.map .parser
  | .generators => some (.generators p.generators)
  | .generator i => p.generators.generators[i]?.map .generator
  | .artifact i j => do
    let generator ← p.generators.generators[i]?
    generator.artifacts[j]?.map .artifact
  | .target i j k => do
    let generator ← p.generators.generators[i]?
    let artifact ← generator.artifacts[j]?
    artifact.targets[k]?.map .target

end Plan

structure Change where
  plan : Plan → Plan := id
  classpath : Classpath → Classpath := id
  entry : ClasspathEntry → ClasspathEntry := id
  project : Project → Project := id
  folder : Folder → Folder := id
  parsers : Parsers → Parsers := id
  parser : Parser → Parser := id
  generators : Generators → Generators := id
  generator : Generator → Generator := id
  artifact : Artifact → Artifact := id
  target : Target → Target := id

namespace Change

def declare (v : Variable) : Change where
  plan := Scoped.declare v
  classpath := Scoped.declare v
  entry := Scoped.declare v
  project := Scoped.declare v
  folder := Scoped.declare v
  parsers := Scoped.declare v
  parser := Scoped.declare v
  generators := Scoped.declare v
  generator := Scoped.declare v
  artifact := Scoped.declare v
  target := Scoped.declare v

def clear : Change where
  plan p := { p with projects := [] }
  classpath c := { c with entries := [] }
  project p := { p with folders := [] }
  parsers p := { p with parsers := [] }
  generators g := { g with generators := [] }
  generator g := { g with artifacts := [] }
  artifact a := { a with targets := [] }

end Change

def Plan.change (change : Change) (address : Address) (p : Plan) : Plan :=
  match address with
  | .plan => change.plan p
  | .classpath => { p with classpath := change.classpath p.classpath }
  | .entry i => { p with classpath.entries := p.classpath.entries.modify i change.entry }
  | .project i => { p with projects := p.projects.modify i change.project }
  | .folder i j => { p with projects := p.projects.modify i fun project =>
      { project with folders := project.folders.modify j change.folder } }
  | .parsers => { p with parsers := change.parsers p.parsers }
  | .parser i => { p with parsers.parsers := p.parsers.parsers.modify i change.parser }
  | .generators => { p with generators := change.generators p.generators }
  | .generator i => { p with
      generators.generators := p.generators.generators.modify i change.generator }
  | .artifact i j => { p with
      generators.generators := p.generators.generators.modify i fun generator =>
        { generator with artifacts := generator.artifacts.modify j change.artifact } }
  | .target i j k => { p with
      generators.generators := p.generators.generators.modify i fun generator =>
        { generator with artifacts := generator.artifacts.modify j fun artifact =>
          { artifact with targets := artifact.targets.modify k change.target } } }

end GenPlan
