import GenPlan.Scope

namespace GenPlan

/-- A directory of compiled classes or a single archive. -/
inductive EntryKind
  | bin
  | jar
  deriving DecidableEq

structure ClasspathEntry where
  kind : EntryKind := .bin
  path : String
  scope : Scope := {}
  deriving DecidableEq

namespace ClasspathEntry

instance : Scoped ClasspathEntry := ⟨scope, fun entry scope => { entry with scope }⟩

def init (files : Files) (parent : NameMap String) (entry : ClasspathEntry) :
    Progress InitError ClasspathEntry :=
  (Scoped.inherit files parent entry).andThen fun entry =>
    .done { entry with path := entry.scope.replace entry.path }

def resolve (root : String) (entry : ClasspathEntry) : String := Path.join root entry.path

end ClasspathEntry

structure Classpath where
  entries : List ClasspathEntry := []
  scope : Scope := {}
  deriving DecidableEq

namespace Classpath

instance : Scoped Classpath := ⟨scope, fun classpath scope => { classpath with scope }⟩

def init (files : Files) (parent : NameMap String) (classpath : Classpath) :
    Progress InitError Classpath :=
  (Scoped.inherit files parent classpath).andThen fun classpath =>
    (Progress.each (ClasspathEntry.init files classpath.scope.resolved) classpath.entries).map
      fun entries => { classpath with entries }

def paths (root : String) (classpath : Classpath) : List String :=
  classpath.entries.map (ClasspathEntry.resolve root)

end Classpath

end GenPlan
