namespace GenPlan.Path

def isAbsolute (path : String) : Bool := path.toList.head? = some '/'

/-- An absolute second part replaces the first. -/
def join (base rest : String) : String :=
  if isAbsolute rest then rest
  else if base.isEmpty || base.toList.getLast? = some '/' then base ++ rest
  else base ++ "/" ++ rest

/-- The leading slash or dot, then every part but empty ones and dots. -/
def components (path : String) : List String :=
  let names := (path.toList.splitOn '/').map String.ofList
  let named := names.filter fun name => name ≠ "" && name ≠ "."
  if isAbsolute path then "/" :: named
  else if names.head? = some "." then "." :: named
  else named

def Same (p q : String) : Prop := components p = components q

instance (p q : String) : Decidable (Same p q) :=
  inferInstanceAs (Decidable (components p = components q))

def parent (path : String) : String :=
  match (components path).dropLast with
  | [] => "."
  | first :: rest => rest.foldl join first

def addNew (paths : List String) (path : String) : List String :=
  if paths.any (Same path ·) then paths else paths ++ [path]

end GenPlan.Path
