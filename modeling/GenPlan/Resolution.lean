import GenPlan.Marker

namespace GenPlan

/-- A name on the current path, with the references it has not followed yet. -/
structure Visit where
  name : String
  pending : List String
  depth : Nat
  deriving DecidableEq

def Visit.start (name value : String) : Visit := ⟨name, references value, 0⟩

/-- The path comes innermost first; `onPath` holds the same names as a set. -/
structure Walk where
  path : List Visit
  onPath : List String
  depths : NameMap Nat

namespace Walk

inductive Step
  | more (w : Walk)
  | done (depths : NameMap Nat) (depth : Nat)
  | cycle (names : List String)

def cycleAt (path : List Visit) (reference : String) : List String :=
  let names := (path.map Visit.name).reverse
  names.drop ((names.findIdx? (· = reference)).getD 0) ++ [reference]

def step (vars : NameMap String) (w : Walk) : Step :=
  match w.path with
  | [] => .done w.depths 0
  | ⟨name, [], depth⟩ :: outer =>
    let depths := w.depths.insert name depth
    match outer with
    | [] => .done depths depth
    | parent :: outer =>
      .more ⟨{ parent with depth := max parent.depth (1 + depth) } :: outer,
        w.onPath.filter (· ≠ name), depths⟩
  | ⟨name, reference :: pending, depth⟩ :: outer =>
    match vars.get? reference with
    | none => .more { w with path := ⟨name, pending, depth⟩ :: outer }
    | some value =>
      match w.depths.get? reference with
      | some known => .more { w with path := ⟨name, pending, max depth (1 + known)⟩ :: outer }
      | none =>
        if reference ∈ w.onPath then .cycle (cycleAt w.path reference)
        else
          .more { w with
            path := .start reference value :: ⟨name, pending, depth⟩ :: outer
            onPath := reference :: w.onPath }

def unvisited (vars : NameMap String) (w : Walk) : Nat :=
  vars.keys.countP fun name => w.depths.get? name = none ∧ name ∉ w.onPath

def work (w : Walk) : Nat := w.path.foldr (fun v n => v.pending.length + 1 + n) 0

theorem countP_lt {α : Type} {p q : α → Bool} {l : List α} (h : ∀ x ∈ l, p x → q x) {x : α}
    (hx : x ∈ l) (hp : p x = false) (hq : q x = true) : l.countP p < l.countP q := by
  induction l with
  | nil => cases hx
  | cons y l ih =>
    have hl := List.countP_mono_left fun z hz => h z (List.mem_cons_of_mem y hz)
    obtain rfl | hx := List.mem_cons.mp hx
    · simp only [List.countP_cons, hp, hq]
      simpa using Nat.lt_succ_of_le hl
    · have ih := ih (fun z hz => h z (List.mem_cons_of_mem y hz)) hx
      have hy := h y List.mem_cons_self
      simp only [List.countP_cons]
      by_cases hpy : p y = true
      · simpa [hpy, hy hpy] using ih
      · rw [if_neg hpy]; split <;> omega

theorem step_decreases {vars : NameMap String} {w w' : Walk} (h : step vars w = .more w') :
    Prod.Lex (· < ·) (· < ·) (unvisited vars w', work w') (unvisited vars w, work w) := by
  obtain ⟨path, onPath, depths⟩ := w
  match path with
  | [] => simp [step] at h
  | [⟨name, [], depth⟩] => simp [step] at h
  | ⟨name, [], depth⟩ :: parent :: outer =>
    simp only [step, Step.more.injEq] at h
    subst h
    have hu : unvisited vars ⟨{ parent with depth := max parent.depth (1 + depth) } :: outer,
        onPath.filter (· ≠ name), depths.insert name depth⟩ ≤
        unvisited vars ⟨⟨name, [], depth⟩ :: parent :: outer, onPath, depths⟩ := by
      refine List.countP_mono_left fun k _ hk => ?_
      simp only [NameMap.get?_insert, List.mem_filter, decide_eq_true_eq] at hk ⊢
      grind
    obtain hu | hu := Nat.lt_or_eq_of_le hu
    · exact .left _ _ hu
    · rw [hu]; exact .right _ (by simp [work])
  | ⟨name, reference :: pending, depth⟩ :: outer =>
    simp only [step] at h
    split at h
    · cases h; exact .right _ (by simp [work])
    next value hv =>
      split at h
      · cases h; exact .right _ (by simp [work])
      next hd =>
        split at h
        · cases h
        next hp =>
          cases h
          refine .left _ _ (countP_lt (fun k _ hk => ?_) (NameMap.mem_keys_of_get? hv) ?_ ?_)
          · simp_all
          · simp
          · simpa using ⟨hd, hp⟩

/-- The measured depths with that of the name the walk started from, or a cycle. -/
def run (vars : NameMap String) (w : Walk) : Except (List String) (NameMap Nat × Nat) :=
  match _h : step vars w with
  | .more w' => run vars w'
  | .done depths depth => .ok (depths, depth)
  | .cycle names => .error names
termination_by (unvisited vars w, work w)
decreasing_by exact step_decreases ‹_›

def measure (vars : NameMap String) (depths : NameMap Nat) (name : String) :
    Except (List String) (NameMap Nat × Nat) :=
  match depths.get? name with
  | some depth => .ok (depths, depth)
  | none =>
    match vars.get? name with
    | none => .ok (depths, 0)
    | some value => run vars ⟨[.start name value], [name], depths⟩

end Walk

structure Resolution where
  resolved : NameMap String
  depth : NameMap Nat
  deriving DecidableEq

/-- The length of the longest chain of references from each name, or a cycle. -/
def depths (vars : NameMap String) : Except (List String) (NameMap Nat) :=
  vars.keys.foldlM (fun known name => (Walk.measure vars known name).map Prod.fst) ∅

def substitutionOrder (vars : NameMap String) (depth : NameMap Nat) : List String :=
  let rank name := (depth.get? name).getD 0
  vars.keys.mergeSort fun a b => rank a ≤ rank b

def listed (vars : NameMap String) (names : List String) : List (String × String) :=
  names.map fun name => (name, (vars.get? name).getD "")

/-- Substitutes into texts one after the other, each time with all that is known by then. -/
def settle (known : NameMap String) (texts : List (String × String)) : NameMap String :=
  texts.foldl (fun known e => known.insert e.1 (substitute known e.2)) known

/-- Fails with the names of a cycle, the first of them again at the end. Values are substituted by depth,
so that every value a marker stands for is final when it is used. -/
def resolve (vars : NameMap String) : Except (List String) Resolution := do
  let depth ← depths vars
  return ⟨settle ∅ (listed vars (substitutionOrder vars depth)), depth⟩

end GenPlan
