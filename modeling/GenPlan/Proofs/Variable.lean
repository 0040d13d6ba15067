import GenPlan.Variable

namespace GenPlan

namespace Variable

inductive Access
  | value
  | rawValue
  | copy
  | set (text : String)
  | files (files : Files)

/-- A copy has a cache of its own, which starts with what is cached. -/
def copy (v : Variable) : Variable where
  name := v.name
  cached := v.cached
  source := v.source

structure Moment where
  held : Variable
  files : Files

variable {v : Variable} {source : Source} {files : Files} {text : String} {e : LoadError}

theorem value_of_cached (h : v.cached = some text) (files : Files) : v.value files = .ok (text, v) := by
  rw [value, h]

theorem value_eq_map (hs : v.source = some source) (files : Files) :
    v.value files = (v.cached.elim (source.load files) .ok).map fun text => (text, v.set text) := by
  obtain ⟨name, cached, _⟩ := v
  cases hs
  cases cached <;> rfl

namespace Moment

variable {m : Moment} {access : Access} {accesses : List Access}

def answer (m : Moment) : Except LoadError String := (m.held.value m.files).map Prod.fst

/-- A value that fails to be read leaves the variable as it is. Of a variable and its copy it is the copy
that is held from then on. -/
def step (m : Moment) : Access → Moment
  | .value =>
    match m.held.value m.files with
    | .ok (_, v) => { m with held := v }
    | .error _ => m
  | .rawValue => m
  | .copy => { m with held := m.held.copy }
  | .set text => { m with held := m.held.set text }
  | .files files => { m with files }

def run (m : Moment) (accesses : List Access) : Moment := accesses.foldl step m

/-- The text that is fixed by setting it, or by asking for it with success. -/
def fixes? (m : Moment) : Access → Option String
  | .value => m.answer.toOption
  | .set text => some text
  | _ => none

theorem answer_eq (hs : m.held.source = some source) :
    m.answer = m.held.cached.elim (source.load m.files) .ok := by
  rw [answer, value_eq_map hs]
  cases m.held.cached.elim (source.load m.files) .ok <;> rfl

theorem held_step (hs : m.held.source = some source) (access : Access) :
    (m.step access).held = match m.fixes? access with
      | some text => m.held.set text
      | none => m.held := by
  cases access with
  | value =>
    rw [fixes?, answer_eq hs, step, value_eq_map hs]
    cases m.held.cached.elim (source.load m.files) .ok <;> rfl
  | rawValue | copy | set | files => rfl

theorem source_step (hs : m.held.source = some source) (access : Access) :
    (m.step access).held.source = some source := by
  rw [held_step hs]
  cases m.fixes? access <;> exact hs

theorem source_run (hs : m.held.source = some source) (accesses : List Access) :
    (m.run accesses).held.source = some source := by
  induction accesses generalizing m with
  | nil => exact hs
  | cons access accesses ih => exact ih (source_step hs access)

theorem step_of_answer_error (h : m.answer = .error e) : m.step .value = m := by
  rw [answer] at h
  rw [step]
  cases hv : m.held.value m.files with
  | ok result =>
    rw [hv] at h
    cases h
  | error _ => rfl

theorem held_step_of_cached (h : m.held.cached = some text) (ha : ∀ other, access ≠ .set other) :
    (m.step access).held = m.held := by
  cases access with
  | value => rw [step, value_of_cached h]
  | set other => exact absurd rfl (ha other)
  | rawValue | copy | files => rfl

theorem held_run_of_fixes?_eq_none (hs : m.held.source = some source)
    (h : ∀ before access after, accesses = before ++ access :: after →
      (m.run before).fixes? access = none) : (m.run accesses).held = m.held := by
  induction accesses generalizing m with
  | nil => rfl
  | cons access accesses ih =>
    have hnone : m.fixes? access = none := h [] access accesses rfl
    have hstep : (m.step access).held = m.held := by rw [held_step hs, hnone]
    have hrun := ih (source_step hs access) fun before next after he =>
      h (access :: before) next after (congrArg (access :: ·) he)
    exact hrun.trans hstep

theorem held_run_of_cached (h : m.held.cached = some text)
    (ha : ∀ other, Access.set other ∉ accesses) : (m.run accesses).held = m.held := by
  induction accesses generalizing m with
  | nil => rfl
  | cons access accesses ih =>
    have hstep : (m.step access).held = m.held :=
      held_step_of_cached h fun other he => ha other (he ▸ List.mem_cons_self)
    have hrun := ih (hstep ▸ h) fun other hmem => ha other (List.mem_cons_of_mem access hmem)
    exact hrun.trans hstep

theorem run_append (m : Moment) (before after : List Access) :
    m.run (before ++ after) = (m.run before).run after :=
  List.foldl_append

end Moment

open Moment

/-- Until a text is fixed, a variable with a source stays as it is, and what it gives is what its source
gives for the files as they are then. The first text that is fixed, by reading it with success or by
setting it, stays until another one is set: the files no longer matter. A failure changes nothing. -/
theorem source_read_once (v : Variable) (source : Source) (hs : v.source = some source) (files : Files)
    (accesses : List Access) :
    ((∀ before access after, accesses = before ++ access :: after →
        (run ⟨v, files⟩ before).fixes? access = none) →
      (run ⟨v, files⟩ accesses).held = v ∧
      (v.cached = none → (run ⟨v, files⟩ accesses).held.cached = none ∧
        (run ⟨v, files⟩ accesses).answer = source.load (run ⟨v, files⟩ accesses).files)) ∧
    (∀ before access after text, accesses = before ++ access :: after →
      (run ⟨v, files⟩ before).fixes? access = some text → (∀ other, Access.set other ∉ after) →
      (run ⟨v, files⟩ accesses).held.cached = some text ∧
      ∀ now, (run ⟨v, files⟩ accesses).held.value now =
        .ok (text, (run ⟨v, files⟩ accesses).held)) ∧
    (∀ e, (run ⟨v, files⟩ accesses).answer = .error e →
      (run ⟨v, files⟩ accesses).step .value = run ⟨v, files⟩ accesses) := by
  have hsource := source_run (m := ⟨v, files⟩) hs
  refine ⟨fun h => ?unfixed, ?fixed, fun e => step_of_answer_error⟩
  case unfixed =>
    have hheld := held_run_of_fixes?_eq_none (m := ⟨v, files⟩) hs h
    refine ⟨hheld, fun hc => ⟨by rw [hheld, hc], ?_⟩⟩
    rw [answer_eq (hsource accesses), hheld, hc, Option.elim_none]
  case fixed =>
    rintro before access after text rfl h hset
    have hstep : ((run ⟨v, files⟩ before).step access).held.cached = some text := by
      rw [held_step (hsource before), h]
      rfl
    have hrun := held_run_of_cached hstep hset
    have hcached : (run ⟨v, files⟩ (before ++ access :: after)).held.cached = some text := by
      rw [run_append]
      exact (congrArg cached hrun).trans hstep
    exact ⟨hcached, value_of_cached hcached⟩

theorem source_read_once_missing_first :
    let v : Variable := ⟨"a", none, some ⟨"/f", none⟩⟩
    let files (text : String) : Files := (FileTree.empty.write text.toUTF8 ["f"]).files "/"
    let start : Moment := ⟨v, FileTree.empty.files "/"⟩
    v.source = some ⟨"/f", none⟩ ∧ (start.run [.value]).held.cached = none ∧
    (start.run [.value, .files (files "x"), .value, .copy, .files (files "y")]).held.cached = some "x" ∧
    (start.run [.value, .files (files "x"), .set "z", .value]).held.cached = some "z" := by
  intro v files start
  have hs : v.source = some ⟨"/f", none⟩ := rfl
  have hfixes : (start.run [.value, .files (files "x")]).fixes? .value = some "x" := by decide +kernel
  refine ⟨hs, ?_, ?_, ?_⟩
  · have hunfixed := (source_read_once v _ hs start.files [.value]).1 fun before access after h => by
      obtain ⟨rfl, h⟩ | ⟨-, h⟩ := List.singleton_eq_append_iff.mp h
      · cases h
        decide +kernel
      · cases h
    exact (hunfixed.2 rfl).1
  · exact ((source_read_once v _ hs start.files _).2.1 [.value, .files (files "x")] .value
      [.copy, .files (files "y")] "x" rfl hfixes (by simp)).1
  · exact ((source_read_once v _ hs start.files _).2.1 [.value, .files (files "x")] (.set "z")
      [.value] "z" rfl rfl (by simp)).1

end Variable

end GenPlan
