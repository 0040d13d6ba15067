import GenPlan.Folder

namespace GenPlan

structure StandardFolder where
  name : String
  path : String
  generated : Bool

namespace StandardFolder

def all : List StandardFolder :=
  [⟨"mainJava", "src/main/java", false⟩,
   ⟨"mainRes", "src/main/resources", false⟩,
   ⟨"genMainJava", "src-gen/main/java", true⟩,
   ⟨"genMainRes", "src-gen/main/resources", true⟩,
   ⟨"testJava", "src/test/java", false⟩,
   ⟨"testRes", "src/test/resources", false⟩,
   ⟨"genTestJava", "src-gen/test/java", true⟩,
   ⟨"genTestRes", "src-gen/test/resources", true⟩]

def folder (s : StandardFolder) : Folder :=
  if s.generated then .generated s.name s.path else { name := s.name, path := s.path }

end StandardFolder

/-- A directory with folders; one laid out for maven has eight standard folders besides those it declares. -/
structure Project where
  name : String
  path : String
  maven : Bool := false
  folders : List Folder := []
  scope : Scope := {}
  deriving DecidableEq

namespace Project

instance : Named Project := ⟨name⟩

instance : Scoped Project := ⟨scope, fun project scope => { project with scope }⟩

/-- Adds the standard folders whose names are not taken. -/
def addStandard (files : Files) (vars : NameMap String) :
    List StandardFolder → List Folder → Progress InitError (List Folder)
  | [], folders => .done folders
  | s :: ss, folders =>
    if Named.contains folders s.name then addStandard files vars ss folders
    else
      match s.folder.init files vars with
      | ⟨folder, none⟩ => addStandard files vars ss (folders ++ [folder])
      | ⟨_, some e⟩ => .stop folders e

def withFolders (project : Project) (folders : List Folder) : Project := { project with folders }

def init (files : Files) (parent : NameMap String) (project : Project) :
    Progress InitError Project :=
  (Scoped.inherit files parent project)
    |>.andThen (fun project =>
      let project := { project with
        name := project.scope.replace project.name
        path := project.scope.replace project.path }
      (Progress.each (Folder.init files project.scope.resolved) project.folders).map
        project.withFolders)
    |>.andThen fun project =>
      if project.maven then
        (addStandard files project.scope.resolved StandardFolder.all project.folders).map project.withFolders
      else .done project

def findFolder (project : Project) (name : String) : Option Folder :=
  Named.find? project.folders name

def directory (root : String) (project : Project) : String := Path.join root project.path

end Project

end GenPlan
