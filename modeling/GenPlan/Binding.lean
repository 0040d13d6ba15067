import GenPlan.Session

namespace GenPlan

/-- A file to be bound: what generates it, and its path if it is known. -/
structure BindingQuery where
  generator : String
  artifact : String
  path : Option String := none
  deriving DecidableEq

def BindingQuery.describe (query : BindingQuery) : String :=
  let target := match query.path with
    | some path => s!"'{path}'"
    | none => "<none>"
  s!"generator='{query.generator}', artifact='{query.artifact}', target={target}"

inductive BindingError
  | notInitialized
  | generatorNotFound (query : BindingQuery)
  | artifactNotFound (query : BindingQuery)
  | projectNameNotDefined (query : BindingQuery)
  | folderNameNotDefined (query : BindingQuery)
  | projectNotFound (project : String) (query : BindingQuery)
  | folderNotFound (project folder : String) (query : BindingQuery)
  deriving DecidableEq

def BindingError.message : BindingError → String
  | notInitialized => "configuration is not initialized"
  | generatorNotFound query => s!"generator not found ({query.describe})"
  | artifactNotFound query => s!"artifact not found ({query.describe})"
  | projectNameNotDefined query => s!"no project name defined ({query.describe})"
  | folderNameNotDefined query => s!"no folder name defined ({query.describe})"
  | projectNotFound project query => s!"project '{project}' not found ({query.describe})"
  | folderNotFound project folder query =>
    s!"folder '{folder}' not found in project '{project}' ({query.describe})"

structure Binding where
  project : Project
  folder : Folder
  deriving DecidableEq

def Binding.directory (root : String) (binding : Binding) : String :=
  binding.folder.directory (binding.project.directory root)

namespace Session

def routingFor (artifact : Artifact) (path : Option String) : Routing :=
  match path.bind artifact.findTarget with
  | some target => Routed.defined target
  | none => Routed.defined artifact

/-- The folder a file goes to, with the project of that folder. The first matching target counts before the
artifact, the artifact before its generator and the generator before the list of generators. -/
def bind (session : Session) (query : BindingQuery) : Except BindingError Binding := do
  if !session.initialized then throw .notInitialized
  let some generator := session.plan.findGenerator query.generator
    | throw (.generatorNotFound query)
  let some artifact := generator.findArtifact query.artifact
    | throw (.artifactNotFound query)
  let routing := routingFor artifact query.path
  let some projectName := routing.project | throw (.projectNameNotDefined query)
  let some folderName := routing.folder | throw (.folderNameNotDefined query)
  let some project := session.plan.findProject projectName
    | throw (.projectNotFound projectName query)
  let some folder := project.findFolder folderName
    | throw (.folderNotFound projectName folderName query)
  return ⟨project, folder⟩

def bindDirectory (session : Session) (query : BindingQuery) : Except BindingError String := do
  let binding ← session.bind query
  match session.root with
  | some root => return binding.directory root
  | none => throw .notInitialized

end Session

end GenPlan
