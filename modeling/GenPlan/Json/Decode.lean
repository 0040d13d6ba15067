import GenPlan.Json
import GenPlan.Plugin
import GenPlan.Variable

namespace GenPlan

open Json

namespace Json

def text? : Json → Option String
  | text s => some s
  | _ => none

def optionalText? : Json → Option (Option String)
  | null => some none
  | text s => some (some s)
  | _ => none

def textMember? : String × Json → Option (String × String)
  | (key, value) => value.text?.map (key, ·)

def map? : Json → Option (NameMap String)
  | object members => (members.mapM textMember?).map NameMap.ofList
  | _ => none

end Json

def Settings.ofJson? : Json → Option Settings
  | object members => do
    return ⟨← (← member? "name" members).text?, ← (← member? "class_name" members).text?,
      ← (← member? "properties" members).map?, ← (← member? "variables" members).map?⟩
  | array [name, className, properties, vars] =>
    return ⟨← name.text?, ← className.text?, ← properties.map?, ← vars.map?⟩
  | _ => none

def Source.ofJson? : Json → Option Source
  | object members => do
    return ⟨← (← member? "location" members).text?,
      ← ((member? "encoding" members).getD null).optionalText?⟩
  | array [location, encoding] => return ⟨← location.text?, ← encoding.optionalText?⟩
  | _ => none

/-- A name stands alone or with a null value. -/
def PluginKind.ofJson? : Json → Option PluginKind
  | .text "Parser" | object [("Parser", null)] => some .parser
  | .text "Generator" | object [("Generator", null)] => some .generator
  | _ => none

end GenPlan
