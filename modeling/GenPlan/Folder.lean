import GenPlan.Pattern.Selector
import GenPlan.Scope

namespace GenPlan

/-- Generated files are written to it; it may be cleaned before, except for the files its pattern spares. -/
structure Folder where
  name : String
  path : String
  create : Bool := false
  overrideExisting : Bool := false
  clean : Bool := false
  cleanExclude : Selector := {}
  scope : Scope := {}
  deriving DecidableEq

namespace Folder

instance : Named Folder := ⟨name⟩

instance : Scoped Folder := ⟨scope, fun folder scope => { folder with scope }⟩

def generated (name path : String) : Folder :=
  { name, path, create := true, overrideExisting := true, clean := true }

/-- Substitutes the variables. Everything is substituted before the pattern is compiled. -/
def init (files : Files) (parent : NameMap String) (folder : Folder) :
    Progress InitError Folder :=
  (Scoped.inherit files parent folder).andThen fun folder =>
    let folder := { folder with
      name := folder.scope.replace folder.name
      path := folder.scope.replace folder.path
      cleanExclude.text := folder.cleanExclude.text.map folder.scope.replace }
    match folder.cleanExclude.compile with
    | .ok cleanExclude => .done { folder with cleanExclude }
    | .error _ => .stop folder (.pattern (.cleanExclude folder.name))

def directory (projectDirectory : String) (folder : Folder) : String :=
  Path.join projectDirectory folder.path

def shouldClean (folder : Folder) (file : String) : Bool :=
  folder.clean && !(folder.cleanExclude.occursIn? file).getD false

end Folder

end GenPlan
