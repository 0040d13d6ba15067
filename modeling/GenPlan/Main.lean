import GenPlan.Command
import GenPlan.Plan.Node

namespace GenPlan

def readFailure : IO.Error → ReadFailure
  | .noFileOrDirectory .. => .notFound
  | .inappropriateType _ 20 _ => .notADirectory
  | .inappropriateType _ 21 _ => .isADirectory
  | e => .other (toString e)

def readText (path : String) : IO (Except ReadFailure String) := do
  if path.contains '\x00' then return .error .nulInName
  try
    let bytes ← IO.FS.readBinFile path
    return (String.fromUTF8? bytes).elim (.error .invalidText) .ok
  catch e => return .error (readFailure e)

def sourcePaths (plan : Plan) : List String :=
  (Node.plan plan).all.flatMap fun node => node.scope.declared.filterMap fun v =>
    match v.source.map fun source => Location.ofText source.location with
    | some (.path bytes) => String.fromUTF8? ⟨bytes.toArray⟩
    | _ => none

/-- What the files say that a configuration can ask for. -/
def gather (config : String) : IO Files := do
  let text ← readText config
  let sources := match text.toOption.map Plan.parse with
    | some (.ok plan) => sourcePaths plan
    | _ => []
  let contents ← sources.mapM fun path => return (utf8 path, ← readText path)
  let directory ← try
      pure (.ok (← IO.FS.realPath (Path.parent config)).toString)
    catch e => pure (.error (readFailure e))
  let known := (utf8 config, text) :: contents
  return {
    read := fun path => ((known.find? (·.1 = path)).map Prod.snd).getD (.error .notFound)
    absolute := fun _ => directory }

end GenPlan

open GenPlan

def main (words : List String) : IO UInt32 := do
  let environment ← IO.getEnv Invocation.configVariable
  let config := (Invocation.ofWords environment words).map Invocation.config
  let files ← gather (config.getD "")
  let outcome := Outcome.ofWords files environment words
  IO.print outcome.output
  IO.eprint outcome.errors
  return outcome.code.toUInt32
