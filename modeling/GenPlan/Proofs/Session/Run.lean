import Mathlib.Data.List.ReduceOption
import GenPlan.Binding

namespace GenPlan

open Progress

namespace Session

inductive Action
  | init (files : Files) (context : Context) (root : String)
  | edit (f : Plan → Plan)

/-- What is left of the session where an initialization fails halfway is what a run goes on with. -/
def step (s : Session) : Action → Session
  | .init files context root => (s.init files context root).value
  | .edit f => s.edit f

def run (s : Session) (actions : List Action) : Session := actions.foldl step s

/-- The root directory and the context with the classpath that an initialization establishes, if it
succeeds. -/
def established? (s : Session) (files : Files) (context : Context) (root : String) :
    Option (String × Context) :=
  match s.init files context root with
  | ⟨t, none⟩ =>
    some (root, (t.plan.classpath.paths root).foldl (fun c path => c.addClasspath path) context)
  | ⟨_, some _⟩ => none

def outcome (s : Session) : Action → List (Option (String × Context))
  | .init files context root => [s.established? files context root]
  | .edit _ => []

def outcomes : Session → List Action → List (Option (String × Context))
  | _, [] => []
  | s, action :: actions => s.outcome action ++ (s.step action).outcomes actions

/-- The session is as the initializations that came out like this leave it. -/
structure Follows (outcomes : List (Option (String × Context))) (s : Session) : Prop where
  initialized : s.initialized = true ↔ ∃ e, outcomes.getLast? = some (some e)
  root : s.root = outcomes.reduceOption.getLast?.map Prod.fst
  context : s.context = (outcomes.reduceOption.getLast?.map Prod.snd).getD {}

variable {s : Session} {before : List (Option (String × Context))}

theorem follows_nil (plan : Plan) : Follows [] { plan } where
  initialized := by simp
  root := rfl
  context := rfl

theorem Follows.step (h : s.Follows before) (action : Action) :
    (s.step action).Follows (before ++ s.outcome action) := by
  cases action with
  | edit f =>
    rw [outcome, List.append_nil]
    exact ⟨h.initialized, h.root, h.context⟩
  | init files context root =>
    rw [outcome, Session.step, established?, Session.init]
    obtain ⟨plan, failure⟩ := s.plan.init files root
    cases failure with
    | none => constructor <;> simp [done, List.reduceOption_append]
    | some e =>
      refine ⟨by simp [stop], ?_, ?_⟩
      · simpa [stop, List.reduceOption_append] using h.root
      · simpa [stop, List.reduceOption_append] using h.context

theorem Follows.run (h : s.Follows before) (actions : List Action) :
    (s.run actions).Follows (before ++ s.outcomes actions) := by
  induction actions generalizing s before with
  | nil => rwa [outcomes, List.append_nil]
  | cons action actions ih =>
    rw [outcomes, ← List.append_assoc]
    exact ih (h.step action)

theorem bind_eq_notInitialized_iff {query : BindingQuery} :
    s.bind query = .error .notInitialized ↔ s.initialized = false := by
  rw [bind]
  cases s.initialized with
  | false => exact iff_of_true rfl rfl
  | true =>
    refine iff_of_false (fun h => ?_) Bool.noConfusion
    simp only [Bool.not_true, Bool.false_eq_true, if_false] at h
    repeat' split at h
    all_goals cases h

/-- At every point of a run a session counts as initialized exactly if the last initialization has
succeeded. The root directory and the context are those of the last one that has, whatever was changed
or failed since. Without being initialized nothing is bound. -/
theorem run_follows (plan : Plan) (actions : List Action) :
    ((run { plan } actions).initialized = true ↔
      ∃ e, (outcomes { plan } actions).getLast? = some (some e)) ∧
    (run { plan } actions).root = (outcomes { plan } actions).reduceOption.getLast?.map Prod.fst ∧
    (run { plan } actions).context =
      ((outcomes { plan } actions).reduceOption.getLast?.map Prod.snd).getD {} ∧
    ∀ query, (run { plan } actions).bind query = .error .notInitialized ↔
      (run { plan } actions).initialized = false := by
  have h := (follows_nil plan).run actions
  rw [List.nil_append] at h
  exact ⟨h.initialized, h.root, h.context, fun _ => bind_eq_notInitialized_iff⟩

end Session

end GenPlan
