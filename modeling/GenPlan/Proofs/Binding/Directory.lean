import GenPlan.Command
import GenPlan.Proofs.Session.Run

namespace GenPlan

namespace Session

variable {s : Session} {query : BindingQuery} {binding : Binding} {root : String}

theorem Follows.exists_root {outcomes : List (Option (String × Context))} (h : s.Follows outcomes)
    (hi : s.initialized = true) : ∃ root, s.root = some root := by
  obtain ⟨e, he⟩ := h.initialized.mp hi
  obtain ⟨before, rfl⟩ := List.getLast?_eq_some_iff.mp he
  refine ⟨e.1, ?_⟩
  rw [h.root, List.reduceOption_append]
  simp

theorem initialized_of_bind (h : s.bind query = .ok binding) : s.initialized = true := by
  by_cases hi : s.initialized = true
  · exact hi
  · have herror : s.bind query = .error .notInitialized :=
      bind_eq_notInitialized_iff.mpr (Bool.eq_false_iff.mpr hi)
    cases h.symm.trans herror

theorem exists_root_of_bind (plan : Plan) (actions : List Action)
    (h : (run { plan } actions).bind query = .ok binding) :
    ∃ root, (run { plan } actions).root = some root :=
  ((follows_nil plan).run actions).exists_root (initialized_of_bind h)

theorem bindDirectory_of_bind (hb : s.bind query = .ok binding) (hr : s.root = some root) :
    s.bindDirectory query = .ok (binding.directory root) := by
  rw [bindDirectory, hb, hr]
  rfl

theorem bindDirectory_of_error {e : BindingError} (hb : s.bind query = .error e) :
    s.bindDirectory query = .error e := by
  rw [bindDirectory, hb]
  rfl

end Session

namespace Invocation

variable {s : Session} {query : BindingQuery} {binding : Binding} {root : String}

theorem targetDirectory_of_bind (hb : s.bind query = .ok binding) (hr : s.root = some root) :
    targetDirectory s query = .ok (binding.directory root) := by
  rw [targetDirectory, hb, hr]
  rfl

theorem targetDirectory_of_error {e : BindingError} (hb : s.bind query = .error e) :
    targetDirectory s query = .error ⟨"Failed to bind artifact", [e.message]⟩ := by
  rw [targetDirectory, hb]
  rfl

end Invocation

namespace Session

/-- At every point of a run the two ways to the directory of a file agree: both give the path of the folder
the file is bound to, below the path of its project, below the root directory; or both fail for the reason
the binding fails for. That a root directory is missing is never the reason. -/
theorem bindDirectory_agrees (plan : Plan) (actions : List Action) (query : BindingQuery) :
    (match (run { plan } actions).bind query with
      | .ok binding => ∃ root path, (run { plan } actions).root = some root ∧
          path = Path.join (Path.join root binding.project.path) binding.folder.path ∧
          (run { plan } actions).bindDirectory query = .ok path ∧
          Invocation.targetDirectory (run { plan } actions) query = .ok path
      | .error e => (run { plan } actions).bindDirectory query = .error e ∧
          Invocation.targetDirectory (run { plan } actions) query =
            .error ⟨"Failed to bind artifact", [e.message]⟩) ∧
    ((run { plan } actions).bindDirectory query = .error .notInitialized ↔
      (run { plan } actions).initialized = false) ∧
    Invocation.targetDirectory (run { plan } actions) query ≠
      .error ⟨"Configuration has no root directory", []⟩ := by
  cases hb : (run { plan } actions).bind query with
  | ok binding =>
    obtain ⟨root, hroot⟩ := exists_root_of_bind plan actions hb
    have hdirectory := bindDirectory_of_bind hb hroot
    have htarget := Invocation.targetDirectory_of_bind hb hroot
    refine ⟨⟨root, _, hroot, rfl, hdirectory, htarget⟩, ?_, ?_⟩
    · simp [hdirectory, initialized_of_bind hb]
    · simp [htarget]
  | error e =>
    have hdirectory := bindDirectory_of_error hb
    have htarget := Invocation.targetDirectory_of_error hb
    refine ⟨⟨hdirectory, htarget⟩, ?_, ?_⟩
    · have hiff : (run { plan } actions).bind query = .error .notInitialized ↔ _ :=
        bind_eq_notInitialized_iff
      rw [hb, Except.error.injEq] at hiff
      rwa [hdirectory, Except.error.injEq]
    · simp [htarget]

def routedPlan : Plan where
  projects := [{ name := "p", path := "x", folders := [{ name := "f", path := "y" }] }]
  generators.generators := [{
    name := "g", className := "C", routing := ⟨some "p", some "f"⟩, artifacts := [{ name := "a" }] }]

example : (run { plan := routedPlan } [.init (FileTree.empty.files "/") {} "/r"]).bindDirectory
      ⟨"g", "a", none⟩ = .ok "/r/x/y" ∧
    Invocation.targetDirectory (run { plan := routedPlan } [.init (FileTree.empty.files "/") {} "/r"])
      ⟨"g", "a", none⟩ = .ok "/r/x/y" := by
  constructor <;> cbv

end Session

end GenPlan
