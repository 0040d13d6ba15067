import GenPlan.Location
import GenPlan.Named

namespace GenPlan

structure Source where
  location : String
  encoding : Option String := none
  deriving DecidableEq

inductive LoadError
  | unsupportedEncoding (location encoding : String)
  | elsewhere (location : String)
  | unsupportedScheme (scheme : String)
  | unreadable (location : String) (reason : ReadFailure)
  deriving DecidableEq

def LoadError.message : LoadError → String
  | unsupportedEncoding location encoding => s!"unsupported encoding '{encoding}' for {location}"
  | elsewhere location => s!"invalid value for variable source: not a local file URL: {location}"
  | unsupportedScheme scheme =>
    s!"invalid value for variable source: unsupported URL scheme '{scheme}'"
  | unreadable location reason => s!"failed to read {location}: {reason.message}"

namespace Source

def defaultEncoding : String := "UTF-8"

def isSupported (encoding : String) : Bool :=
  String.ofList (encoding.toList.map Char.toLower) ∈ ["utf-8", "utf8"]

/-- The whole text of a source. The encoding is checked before the location. -/
def load (files : Files) (source : Source) : Except LoadError String :=
  let encoding := source.encoding.getD defaultEncoding
  if !isSupported encoding then .error (.unsupportedEncoding source.location encoding)
  else
    match Location.ofText source.location with
    | .path bytes => (files.read bytes).mapError (.unreadable source.location)
    | .elsewhere => .error (.elsewhere source.location)
    | .remote scheme => .error (.unsupportedScheme scheme)

end Source

/-- A value, or a source the value is read from when it is first asked for, or neither; `cached` is the
declared value, or the text once it has been read. -/
structure Variable where
  name : String
  cached : Option String := none
  source : Option Source := none
  deriving DecidableEq

namespace Variable

instance : Named Variable := ⟨name⟩

/-- The value, and the variable that has it from now on. Without a value and a source it is empty. -/
def value (files : Files) (v : Variable) : Except LoadError (String × Variable) :=
  match v.cached, v.source with
  | some text, _ => .ok (text, v)
  | none, none => .ok ("", v)
  | none, some source => (source.load files).map fun text => (text, { v with cached := text })

def set (text : String) (v : Variable) : Variable := { v with cached := some text }

end Variable

end GenPlan
