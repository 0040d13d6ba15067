import GenPlan.Plugin
import GenPlan.Scope

namespace GenPlan

structure Parser where
  name : String
  className : String
  properties : NameMap String := ∅
  scope : Scope := {}
  deriving DecidableEq

namespace Parser

instance : Named Parser := ⟨name⟩

instance : Scoped Parser := ⟨scope, fun parser scope => { parser with scope }⟩

def init (files : Files) (parent : NameMap String) (parser : Parser) :
    Progress InitError Parser :=
  (Scoped.inherit files parent parser).andThen fun parser =>
    .done { parser with
      name := parser.scope.replace parser.name
      className := parser.scope.replace parser.className
      properties := parser.properties.mapValues parser.scope.replace }

def settings (parser : Parser) : Settings :=
  ⟨parser.name, parser.className, parser.properties, parser.scope.resolved⟩

end Parser

structure Parsers where
  parsers : List Parser := []
  scope : Scope := {}
  deriving DecidableEq

namespace Parsers

instance : Scoped Parsers := ⟨scope, fun parsers scope => { parsers with scope }⟩

def init (files : Files) (parent : NameMap String) (parsers : Parsers) :
    Progress InitError Parsers :=
  (Scoped.inherit files parent parsers).andThen fun parsers =>
    (Progress.each (Parser.init files parsers.scope.resolved) parsers.parsers).map
      fun members => { parsers with parsers := members }

def findParser (parsers : Parsers) (name : String) : Option Parser :=
  Named.find? parsers.parsers name

end Parsers

end GenPlan
