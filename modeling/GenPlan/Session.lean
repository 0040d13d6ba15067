import GenPlan.Plan
import GenPlan.Plugin.Context

namespace GenPlan

/-- A plan with what its last successful initialization has established: the root directory and the context
with the classpath of the plan. -/
structure Session where
  plan : Plan := {}
  root : Option String := none
  context : Context := {}
  initialized : Bool := false
  deriving DecidableEq

namespace Session

/-- Initializes the plan. The root directory and the context change only if that succeeds, while the
plan keeps what was substituted up to a failure. -/
def init (files : Files) (context : Context) (root : String) (session : Session) :
    Progress InitError Session :=
  match session.plan.init files root with
  | ⟨plan, some e⟩ => .stop { session with plan, initialized := false } e
  | ⟨plan, none⟩ =>
    let context := (plan.classpath.paths root).foldl (fun c path => c.addClasspath path) context
    .done ⟨plan, some root, context, true⟩

def edit (f : Plan → Plan) (session : Session) : Session :=
  { session with plan := f session.plan }

def parse (session : Session) (parser : Parser) : PluginRun Model :=
  session.context.registry.parse parser.className parser.settings

def generate (session : Session) (generator : Generator) (incremental : Bool) (model : Model) :
    PluginRun Unit :=
  session.context.registry.generate generator.className generator.settings incremental model

end Session

end GenPlan
