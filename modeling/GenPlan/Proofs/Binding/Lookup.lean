import Mathlib.Data.List.Find
import GenPlan.Binding
import GenPlan.Proofs.Plan.Saturated

namespace GenPlan

open Progress

def Target.covers (target : Target) (path : String) : Bool :=
  match target.pattern.text with
  | none => true
  | some source => (Pattern.compile? source).any (·.occursIn path)

theorem Target.isMatch_eq_covers {target : Target} (h : target.pattern.Compiled) (path : String) :
    target.isMatch path = target.covers path := by
  obtain ⟨⟨text, compiled⟩, _, _, _⟩ := target
  cases text with
  | none =>
    cases h
    rfl
  | some source =>
    obtain ⟨p, hp, rfl⟩ := h
    simp [isMatch, Selector.occursIn?, covers, hp]

namespace Plan

/-- The routings that count for a file, from its target out to the list of generators. -/
def routings (plan : Plan) (generator : Generator) (artifact : Artifact) (path : Option String) :
    List Routing :=
  (path.bind fun path => artifact.targets.find? (·.covers path)).toList.map Target.routing ++
    [artifact.routing, generator.routing, plan.generators.routing]

/-- Looks a file up in the plan alone: each name is the first that is defined on the way out. -/
def locate (plan : Plan) (query : BindingQuery) : Except BindingError Binding := do
  let some generator := plan.generators.generators.find? (·.name = query.generator)
    | throw (.generatorNotFound query)
  let some artifact := generator.artifacts.find? (·.name = query.artifact)
    | throw (.artifactNotFound query)
  let routings := plan.routings generator artifact query.path
  let some projectName := routings.findSome? (·.project) | throw (.projectNameNotDefined query)
  let some folderName := routings.findSome? (·.folder) | throw (.folderNameNotDefined query)
  let some project := plan.projects.find? (·.name = projectName)
    | throw (.projectNotFound projectName query)
  let some folder := project.folders.find? (·.name = folderName)
    | throw (.folderNotFound projectName folderName query)
  return ⟨project, folder⟩

end Plan

namespace Routing

def first (routings : List Routing) : Routing :=
  ⟨routings.findSome? (·.project), routings.findSome? (·.folder)⟩

theorem first_cons (routing : Routing) (routings : List Routing) :
    first (routing :: routings) = routing.orElse (first routings) := by
  obtain ⟨project, folder⟩ := routing
  cases project <;> cases folder <;> rfl

end Routing

theorem Session.routingFor_eq_first {plan : Plan} {generator : Generator} {artifact : Artifact}
    (hgenerator : generator.outer = Routed.defined plan.generators)
    (hartifact : artifact.outer = Routed.defined generator)
    (htargets : ∀ t ∈ artifact.targets, t.outer = Routed.defined artifact ∧ t.pattern.Compiled)
    (path : Option String) :
    routingFor artifact path = Routing.first (plan.routings generator artifact path) := by
  have houter : Routed.defined artifact =
      Routing.first [artifact.routing, generator.routing, plan.generators.routing] := by
    rw [Routing.first_cons, Routing.first_cons, Routing.first_cons]
    simp only [Routed.defined, Routed.routing, Routed.outer] at hgenerator hartifact ⊢
    rw [hartifact, hgenerator]
    rfl
  have hfind (path : String) :
      artifact.findTarget path = artifact.targets.find? (·.covers path) :=
    List.find?_congr fun t ht => Target.isMatch_eq_covers (htargets t ht).2 path
  have hfound : path.bind artifact.findTarget =
      path.bind fun path => artifact.targets.find? (·.covers path) := by
    cases path with
    | none => rfl
    | some path => exact hfind path
  rw [routingFor, hfound, Plan.routings]
  cases ht : path.bind fun path => artifact.targets.find? (·.covers path) with
  | none => exact houter
  | some target =>
    obtain ⟨path, -, hfirst⟩ := Option.bind_eq_some_iff.mp ht
    have htarget := (htargets target (List.mem_of_find?_eq_some hfirst)).1
    rw [Option.toList_some, List.map_singleton, List.singleton_append, Routing.first_cons, ← houter]
    exact congrArg target.routing.orElse htarget

theorem Plan.routingFor_eq_first {files : Files} {root : String} {p p' : Plan}
    (h : p.init files root = done p') {generator : Generator}
    (hg : generator ∈ p'.generators.generators) {artifact : Artifact}
    (ha : artifact ∈ generator.artifacts) (path : Option String) :
    Session.routingFor artifact path = Routing.first (p'.routings generator artifact path) := by
  have hinside := Node.throughout_of_init_plan (I := fun _ => True) (Q := fun _ => True)
    (P := fun _ outer n => n.Prepared outer) (fun _ _ => trivial)
    (fun _ _ hi => ⟨trivial, hi.prepared⟩) trivial (fun _ _ => trivial) h
  have hgenerators := (Node.forall_mem_children_plan.mp hinside).2.2.2
  have hgenerator := hgenerators.inside _ (List.mem_map_of_mem hg)
  have hartifact := hgenerator.inside _ (List.mem_map_of_mem ha)
  exact Session.routingFor_eq_first hgenerator.here hartifact.here
    (fun t ht => (hartifact.inside _ (List.mem_map_of_mem ht)).here) path

namespace Session

variable {files : Files} {context : Context} {root : String} {s t : Session}

/-- Right after an initialization a file is bound to what is found for it in the plan. -/
theorem bind_eq_locate (h : s.init files context root = done t) (query : BindingQuery) :
    t.bind query = t.plan.locate query := by
  obtain ⟨plan, hplan, rfl⟩ := init_eq_done_iff.mp h
  rw [bind, Plan.locate]
  simp only [Plan.findGenerator, Generators.findGenerator, Generator.findArtifact, Plan.findProject,
    Project.findFolder, Named.find?, Named.name]
  cases hg : plan.generators.generators.find? (·.name = query.generator) with
  | none => rfl
  | some generator =>
    simp only
    cases ha : generator.artifacts.find? (·.name = query.artifact) with
    | none => rfl
    | some artifact =>
      simp only [Plan.routingFor_eq_first hplan (List.mem_of_find?_eq_some hg)
        (List.mem_of_find?_eq_some ha)]
      rfl

theorem bind_eq_locate_layered :
    ∃ t, init (FileTree.empty.files "/") {} "/r" { plan := Plan.layered } = done t ∧
      ∀ query, t.bind query = t.plan.locate query := by
  have hinit := eq_done_of_failure failure_init_layered
  exact ⟨_, hinit, bind_eq_locate hinit⟩

end Session

end GenPlan
