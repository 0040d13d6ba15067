namespace GenPlan

/-- A value as it is now, and why its change stopped, if it did. What was changed before stays changed. -/
structure Progress (ε α : Type) where
  value : α
  failure : Option ε := none

namespace Progress

variable {ε α β : Type}

def done (a : α) : Progress ε α := ⟨a, none⟩

def stop (a : α) (e : ε) : Progress ε α := ⟨a, some e⟩

def andThen (p : Progress ε α) (f : α → Progress ε α) : Progress ε α :=
  match p.failure with
  | none => f p.value
  | some _ => p

def map (f : α → β) (p : Progress ε α) : Progress ε β := ⟨f p.value, p.failure⟩

def each (f : α → Progress ε α) : List α → Progress ε (List α)
  | [] => done []
  | a :: as =>
    match f a with
    | ⟨a, none⟩ => (each f as).map (a :: ·)
    | ⟨a, some e⟩ => stop (a :: as) e

end Progress

end GenPlan
