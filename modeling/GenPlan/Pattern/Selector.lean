import GenPlan.Pattern.Reader

namespace GenPlan

/-- A pattern that was compiled stays in use until the next one is compiled, also when its text has changed
in between. -/
structure Selector where
  text : Option String := none
  compiled : Option Pattern := none
  deriving DecidableEq

namespace Selector

/-- Whether the pattern occurs in a text, if there is a pattern. Without a compiled one the text of
the pattern is tried; it occurs nowhere if it is no pattern. -/
def occursIn? (s : Selector) (text : String) : Option Bool :=
  match s.compiled, s.text with
  | some p, _ => some (p.occursIn text)
  | none, some source => some ((Pattern.compile? source).any (·.occursIn text))
  | none, none => none

def compile (s : Selector) : Except String Selector :=
  match s.text with
  | none => .ok { s with compiled := none }
  | some source =>
    match Pattern.compile? source with
    | some p => .ok { s with compiled := p }
    | none => .error source

end Selector

end GenPlan
