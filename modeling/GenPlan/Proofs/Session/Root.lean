import GenPlan.Proofs.Plan.Initialized
import GenPlan.Proofs.Scope.Run
import GenPlan.Proofs.Session.Run

namespace GenPlan

open Progress

theorem Plan.scope_value_init (files : Files) (root : String) (p : Plan) :
    (p.init files root).value.scope =
      ((p.scope.declare (rootDeclaration root)).inherit files ∅).value := by
  have hinherit : (Scoped.inherit files ∅ (Scoped.declare (rootDeclaration root) p)).value.scope =
      ((p.scope.declare (rootDeclaration root)).inherit files ∅).value := rfl
  rw [← hinherit, init]
  iterate 3 refine (value_andThen_eq (g := scope) fun _ => rfl).trans ?_
  exact value_andThen_eq fun _ => rfl

namespace Session

/-- What is done to a session if variables are only declared in the scope of its plan and inherited by it.
All else of the plan is open to changes by hand. -/
inductive Event
  | scope (action : Scope.Action)
  | init (files : Files) (context : Context) (root : String)
  | edit (f : Plan → Plan)

namespace Event

def action : Event → Action
  | scope action => .edit fun p => { p with scope := p.scope.step action }
  | init files context root => .init files context root
  | edit f => .edit fun p => { f p with scope := p.scope }

def within : Event → List Scope.Action
  | scope action => [action]
  | init files _ root => [.declare (Plan.rootDeclaration root), .inherit files ∅]
  | edit _ => []

def declarations (events : List Event) : List Variable :=
  Scope.declarations (events.flatMap within)

theorem exists_declarations_eq {event : Event} {name : String}
    (h : name ∈ (declarations [event]).map Variable.name) :
    ∃ v, declarations [event] = [v] ∧ v.name = name := by
  cases event with
  | scope action =>
    cases action with
    | declare v => exact ⟨v, rfl, (List.mem_singleton.mp h).symm⟩
    | inherit files parent => cases h
  | init files context root => exact ⟨Plan.rootDeclaration root, rfl, (List.mem_singleton.mp h).symm⟩
  | edit f => cases h

theorem declarations_append (before after : List Event) :
    declarations (before ++ after) = declarations before ++ declarations after := by
  rw [declarations, List.flatMap_append, Scope.declarations_append, declarations, declarations]

theorem rootVariable_mem_declarations {events : List Event} {files : Files} {context : Context}
    {root : String} (h : init files context root ∈ events) :
    Plan.rootVariable ∈ (declarations events).map Variable.name := by
  obtain ⟨before, after, rfl⟩ := List.append_of_mem h
  rw [declarations_append, List.map_append]
  exact List.mem_append_right _ List.mem_cons_self

end Event

def reached (events : List Event) : Session := run {} (events.map Event.action)

theorem scope_step (s : Session) (event : Event) :
    (s.step event.action).plan.scope = s.plan.scope.run event.within := by
  cases event with
  | scope action => rfl
  | edit f => rfl
  | init files context root =>
    have hplan : (s.init files context root).value.plan = (s.plan.init files root).value := by
      rw [Session.init]
      obtain ⟨plan, failure⟩ := s.plan.init files root
      cases failure <;> rfl
    exact (congrArg Plan.scope hplan).trans (Plan.scope_value_init files root s.plan)

theorem scope_run (s : Session) (events : List Event) :
    (s.run (events.map Event.action)).plan.scope = s.plan.scope.run (events.flatMap Event.within) := by
  induction events generalizing s with
  | nil => rfl
  | cons event events ih =>
    rw [List.flatMap_cons, Scope.run, List.foldl_append]
    exact (ih _).trans (congrArg (Scope.run · (events.flatMap Event.within)) (scope_step s event))

theorem lists_reached (events : List Event) :
    (reached events).plan.scope.Lists (Event.declarations events) := by
  rw [reached, scope_run]
  exact Scope.lists_run _

/-- A scope in which variables are declared, and which inherits in between with or without success, has
each name once, in the order in which the names first came up, and with the source it was last declared
with; declaring a variable changes the one of its name or adds one at the end. So it is with the scope of a
plan: after any initialization there is one variable for the root directory, at the place where it was
declared or added first. -/
theorem run_lists_once (actions : List Scope.Action) (v : Variable) (events : List Event) :
    (Scope.run {} actions).Lists (Scope.declarations actions) ∧
    ((Scope.run {} actions).declare v).declared =
      (if v.name ∈ (Scope.run {} actions).declared.map Variable.name
        then (Scope.run {} actions).declared.map fun w => if w.name = v.name then v else w
        else (Scope.run {} actions).declared ++ [v]) ∧
    ((Scope.run {} actions).declare v).resolved = (Scope.run {} actions).resolved ∧
    (reached events).plan.scope = Scope.run {} (events.flatMap Event.within) ∧
    (∀ files context root, .init files context root ∈ events →
      ((reached events).plan.scope.declared.map Variable.name).count Plan.rootVariable = 1) ∧
    ∀ before event after, events = before ++ event :: after →
      Plan.rootVariable ∉ (Event.declarations before).map Variable.name →
      Plan.rootVariable ∈ (Event.declarations [event]).map Variable.name →
        ((reached events).plan.scope.declared.map Variable.name)[
          (reached before).plan.scope.declared.length]? = some Plan.rootVariable := by
  have hlists := Scope.lists_run actions
  have hroot := lists_reached events
  refine ⟨hlists, hlists.declared_declare v, rfl, scope_run {} events,
    fun files context root hinit => ?once, ?place⟩
  case once =>
    exact List.count_eq_one_of_mem hroot.distinct
      (hroot.mem_names_iff.mpr (Event.rootVariable_mem_declarations hinit))
  case place =>
    rintro before event after rfl hbefore hevent
    -- the event declares this variable alone, so the place is the one after all earlier names
    obtain ⟨w, hdeclares, hname⟩ := Event.exists_declarations_eq hevent
    have hsplit : Event.declarations (before ++ event :: after) =
        Event.declarations before ++ w :: Event.declarations after := by
      rw [List.append_cons, Event.declarations_append, Event.declarations_append, hdeclares,
        List.append_assoc, List.singleton_append]
    rw [hsplit] at hroot
    rw [← hname] at hbefore ⊢
    exact (lists_reached before).getElem?_of_not_mem hroot hbefore

def retried : List Event :=
  [.scope (.declare ⟨"a", none, some ⟨"/a", none⟩⟩), .init (FileTree.empty.files "/") {} "/r",
    .scope (.declare ⟨"b", some "${a}", none⟩),
    .scope (.declare ⟨"rootDir", some "/old", some ⟨"/root", none⟩⟩),
    .scope (.declare ⟨"a", some "1", some ⟨"/a", none⟩⟩),
    .scope (.inherit (FileTree.empty.files "/") (.ofList [("b", "2")])),
    .edit fun _ => { projects := [{ name := "p", path := "${b}" }] },
    .init (FileTree.empty.files "/") {} "/s"]

theorem reached_retried_failed : reached (retried.take 2) =
    { plan.scope := ⟨[⟨"a", none, some ⟨"/a", none⟩⟩, ⟨"rootDir", some "/r", none⟩], ∅⟩ } := by
  decide +kernel

theorem reached_retried : (reached retried).initialized = true ∧
    (reached retried).plan.scope.declared = [⟨"a", some "1", some ⟨"/a", none⟩⟩,
      ⟨"rootDir", some "/s", none⟩, ⟨"b", some "1", none⟩] := by
  have hrest : reached retried =
      run (reached (retried.take 2)) ((retried.drop 2).map Event.action) := rfl
  rw [hrest, reached_retried_failed]
  exact ⟨by cbv, by cbv⟩

theorem run_lists_once_retried :
    (reached (retried.take 2)).initialized = false ∧ (reached retried).initialized = true ∧
    (Scope.run {} (retried.flatMap Event.within)).Lists
      (Scope.declarations (retried.flatMap Event.within)) ∧
    (reached retried).plan.scope.declared = [⟨"a", some "1", some ⟨"/a", none⟩⟩,
      ⟨"rootDir", some "/s", none⟩, ⟨"b", some "1", none⟩] ∧
    ((reached retried).plan.scope.declared.map Variable.name).count Plan.rootVariable = 1 ∧
    ((reached retried).plan.scope.declared.map Variable.name)[1]? = some Plan.rootVariable := by
  obtain ⟨hlists, -, -, -, honce, hplace⟩ :=
    run_lists_once (retried.flatMap Event.within) ⟨"a", none, none⟩ retried
  have hfailed : (reached (retried.take 2)).initialized = false := by rw [reached_retried_failed]
  have hinit : .init (FileTree.empty.files "/") {} "/r" ∈ retried := by simp [retried]
  have hfirst := hplace (retried.take 1) _ (retried.drop 2) rfl (by decide) (by decide)
  exact ⟨hfailed, reached_retried.1, hlists, reached_retried.2, honce _ _ _ hinit, hfirst⟩

end Session

end GenPlan
