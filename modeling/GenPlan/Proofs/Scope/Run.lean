import GenPlan.Proofs.Named
import GenPlan.Proofs.Scope.Outcome

namespace GenPlan.Scope

inductive Action
  | declare (v : Variable)
  | inherit (files : Files) (parent : NameMap String)

/-- What is left of the scope where inheriting fails is what a run goes on with. -/
def step (s : Scope) : Action → Scope
  | .declare v => s.declare v
  | .inherit files parent => (s.inherit files parent).value

def run (s : Scope) (actions : List Action) : Scope := actions.foldl step s

def Action.declared? : Action → Option Variable
  | .declare v => some v
  | .inherit _ _ => none

def declarations (actions : List Action) : List Variable := actions.filterMap Action.declared?

@[simp]
theorem declarations_append (before after : List Action) :
    declarations (before ++ after) = declarations before ++ declarations after :=
  List.filterMap_append

def latest? (vs : List Variable) (name : String) : Option Variable := Named.find? vs.reverse name

/-- The scope has the variables that have been declared one after the other: each name once, where it
first came up, and with the source that it came with last. -/
structure Lists (s : Scope) (vs : List Variable) : Prop where
  distinct : (s.declared.map Variable.name).Nodup
  names : s.declared.map Variable.name = (vs.map Variable.name).eraseDups
  sources : ∀ w ∈ s.declared, (latest? vs w.name).map Variable.source = some w.source

variable {s t : Scope} {vs before after : List Variable} {v : Variable} {name : String}

theorem latest?_concat (vs : List Variable) (v : Variable) (name : String) :
    latest? (vs ++ [v]) name = if v.name = name then some v else latest? vs name := by
  rw [latest?, List.reverse_concat, Named.find?, List.find?_cons]
  by_cases h : v.name = name
  · simp [Named.name, h]
  · simp [Named.name, h, latest?, Named.find?]

theorem eraseDups_concat (names : List String) (name : String) : (names ++ [name]).eraseDups =
    if name ∈ names then names.eraseDups else names.eraseDups ++ [name] := by
  rw [List.eraseDups_append]
  split
  next h => simp [List.removeAll, h]
  next h => simp [List.removeAll, h, List.eraseDups_cons]

theorem lists_nil : Lists {} [] where
  distinct := List.nodup_nil
  names := rfl
  sources := nofun

namespace Lists

theorem mem_names_iff (h : s.Lists vs) :
    name ∈ s.declared.map Variable.name ↔ name ∈ vs.map Variable.name := by
  rw [h.names, List.mem_eraseDups]

theorem declare (h : s.Lists vs) (v : Variable) : (s.declare v).Lists (vs ++ [v]) where
  distinct := Named.nodup_put h.distinct v
  names := by
    rw [List.map_append, List.map_singleton, eraseDups_concat]
    exact Named.map_name_put.trans
      (if_congr h.mem_names_iff h.names (congrArg (· ++ [v.name]) h.names))
  sources := by
    intro w hw
    rw [latest?_concat]
    obtain rfl | ⟨hw, hne⟩ := Named.eq_or_mem_of_mem_put h.distinct hw
    · rw [if_pos rfl, Option.map_some]
    · have hname : v.name ≠ w.name := Ne.symm hne
      rw [if_neg hname]
      exact h.sources w hw

theorem declared_declare (h : s.Lists vs) (v : Variable) : (s.declare v).declared =
    if v.name ∈ s.declared.map Variable.name
      then s.declared.map fun w => if w.name = v.name then v else w
      else s.declared ++ [v] :=
  Named.put_of_nodup h.distinct v

theorem congr (h : s.Lists vs) (he : t.declared.map identity = s.declared.map identity) :
    t.Lists vs := by
  have hnames : t.declared.map Variable.name = s.declared.map Variable.name := by
    simpa [identity, Function.comp_def] using congrArg (List.map Prod.fst) he
  refine ⟨hnames ▸ h.distinct, hnames.trans h.names, fun w hw => ?_⟩
  obtain ⟨old, hold, heq⟩ := List.mem_map.mp (he ▸ List.mem_map_of_mem hw)
  obtain ⟨hname, hsource⟩ : old.name = w.name ∧ old.source = w.source := Prod.mk.inj heq
  rw [← hname, ← hsource]
  exact h.sources old hold

theorem step (h : s.Lists vs) (action : Action) : (s.step action).Lists (vs ++ declarations [action]) := by
  cases action with
  | declare v => exact h.declare v
  | inherit files parent =>
    have hnone : declarations [.inherit files parent] = [] := rfl
    rw [hnone, List.append_nil]
    exact h.congr (outcome_inherit files parent s).map_identity

theorem run (h : s.Lists vs) (actions : List Action) :
    (s.run actions).Lists (vs ++ declarations actions) := by
  induction actions generalizing s vs with
  | nil => rwa [declarations, List.filterMap_nil, List.append_nil]
  | cons action actions ih =>
    rw [← List.singleton_append, declarations_append, ← List.append_assoc]
    exact ih (h.step action)

theorem getElem?_of_not_mem (ht : t.Lists before) (hs : s.Lists (before ++ v :: after))
    (hv : v.name ∉ before.map Variable.name) :
    (s.declared.map Variable.name)[t.declared.length]? = some v.name := by
  have hlength : t.declared.length = (before.map Variable.name).eraseDups.length := by
    rw [← ht.names, List.length_map]
  rw [hs.names, hlength, List.map_append, List.eraseDups_append,
    List.getElem?_append_right (Nat.le_refl _), Nat.sub_self, List.map_cons, List.cons_removeAll,
    if_pos (by simpa using hv), List.eraseDups_cons, List.getElem?_cons_zero]

end Lists

theorem lists_run (actions : List Action) : (run {} actions).Lists (declarations actions) :=
  lists_nil.run actions

end GenPlan.Scope
