import GenPlan.Proofs.Progress
import GenPlan.Proofs.Resolution.Settling
import GenPlan.Scope

namespace GenPlan

namespace Variable

def Available (files : Files) (v : Variable) : Prop := (v.value files).isOk = true

instance (files : Files) (v : Variable) : Decidable (v.Available files) :=
  inferInstanceAs (Decidable (_ = true))

/-- The value; a source that cannot be read leaves it empty. -/
def content (files : Files) (v : Variable) : String :=
  match v.value files with
  | .ok (text, _) => text
  | .error _ => ""

theorem name_of_value {files : Files} {v w : Variable} {text : String}
    (h : v.value files = .ok (text, w)) : w.name = v.name := by
  rw [value] at h
  split at h
  · cases h
    rfl
  · cases h
    rfl
  next source _ _ =>
    cases hs : source.load files with
    | error e => simp [hs, Except.map] at h
    | ok loaded =>
      simp only [hs, Except.map, Except.ok.injEq, Prod.mk.injEq] at h
      exact h.2 ▸ rfl

theorem value_eq_of_available {files : Files} {v : Variable} (h : v.Available files) :
    ∃ cached, v.value files = .ok (v.content files, ⟨v.name, cached, v.source⟩) := by
  obtain ⟨name, cached, source⟩ := v
  cases cached with
  | some text => exact ⟨some text, rfl⟩
  | none =>
    cases source with
    | none => exact ⟨none, rfl⟩
    | some source =>
      cases hl : source.load files with
      | error e => simp [Available, value, hl, Except.map, Except.isOk, Except.toBool] at h
      | ok text => exact ⟨some text, by simp [content, value, hl, Except.map]⟩

end Variable

namespace Scope

def texts (files : Files) (vs : List Variable) : List (String × String) :=
  vs.map fun v => (v.name, v.content files)

@[simp]
theorem map_fst_texts (files : Files) (vs : List Variable) :
    (texts files vs).map Prod.fst = vs.map Variable.name := by
  simp [texts, Function.comp_def]

theorem pass_eq_ok_iff {files : Files} {vs : List Variable} {known next : NameMap String} :
    (pass files known vs).2 = .ok next ↔
      (∀ v ∈ vs, v.Available files) ∧ settle known (texts files vs) = next := by
  induction vs generalizing known with
  | nil => simp [pass, texts, settle]
  | cons v vs ih =>
    cases hv : v.value files with
    | error e => simp [pass, Variable.Available, hv, Except.isOk, Except.toBool]
    | ok r =>
      obtain ⟨text, w⟩ := r
      simp [pass, texts, Variable.Available, Variable.content, hv, settle_cons, ih,
        Variable.name_of_value hv, Except.isOk, Except.toBool]

/-- The variables as a pass stores them: each with its text, into which the known values and the stored
texts of the variables before it are put. -/
def passed (files : Files) (known : NameMap String) (vs : List Variable) : List Variable :=
  vs.mapIdx fun i v =>
    ⟨v.name, some (substitute (settle known (texts files (vs.take i))) (v.content files)), v.source⟩

def identity (v : Variable) : String × Option Source := (v.name, v.source)

variable {files : Files} {parent known : NameMap String} {vs before after : List Variable}
  {s s' : Scope}

theorem passed_cons (files : Files) (known : NameMap String) (v : Variable) (vs : List Variable) :
    passed files known (v :: vs) =
      ⟨v.name, some (substitute known (v.content files)), v.source⟩ ::
        passed files (known.insert v.name (substitute known (v.content files))) vs := by
  rw [passed, List.mapIdx_cons]
  rfl

@[simp]
theorem map_identity_passed (files : Files) (known : NameMap String) (vs : List Variable) :
    (passed files known vs).map identity = vs.map identity := by
  induction vs generalizing known with
  | nil => rfl
  | cons v vs ih => rw [passed_cons, List.map_cons, List.map_cons, ih, identity, identity]

theorem isSome_cached_of_mem_passed : ∀ w ∈ passed files known vs, w.cached.isSome := by
  induction vs generalizing known with
  | nil => exact nofun
  | cons v vs ih =>
    rw [passed_cons, List.forall_mem_cons]
    exact ⟨rfl, ih⟩

theorem pass_append (ha : ∀ v ∈ before, v.Available files) (known : NameMap String)
    (after : List Variable) :
    pass files known (before ++ after) =
      (passed files known before ++ (pass files (settle known (texts files before)) after).1,
        (pass files (settle known (texts files before)) after).2) := by
  induction before generalizing known with
  | nil => rfl
  | cons v before ih =>
    obtain ⟨cached, hv⟩ := Variable.value_eq_of_available (ha v List.mem_cons_self)
    have ih := ih fun w hw => ha w (List.mem_cons_of_mem v hw)
    rw [List.cons_append, pass, hv]
    simp only [ih, passed_cons]
    rfl

theorem pass_of_available (ha : ∀ v ∈ vs, v.Available files) (known : NameMap String) :
    pass files known vs = (passed files known vs, .ok (settle known (texts files vs))) := by
  have h := pass_append ha known []
  rwa [List.append_nil, pass, List.append_nil] at h

theorem inherit_eq_done_iff : s.inherit files parent = .done s' ↔
    (∀ v ∈ s.declared, v.Available files) ∧ s'.declared = passed files parent s.declared ∧
      ∃ depth, resolve (settle parent (texts files s.declared)) = .ok ⟨s'.resolved, depth⟩ := by
  by_cases ha : ∀ v ∈ s.declared, v.Available files
  · rw [inherit, pass_of_available ha]
    obtain ⟨declared, resolved⟩ := s'
    cases hr : resolve (settle parent (texts files s.declared)) with
    | error names => simp [hr]
    | ok r =>
      obtain ⟨known, depth⟩ := r
      simp only [hr, Progress.done_inj, mk.injEq, Except.ok.injEq, Resolution.mk.injEq,
        exists_and_left, exists_eq', and_true]
      constructor
      · rintro ⟨rfl, hk⟩
        exact ⟨ha, rfl, hk⟩
      · rintro ⟨_, rfl, hk⟩
        exact ⟨rfl, hk⟩
  · cases hp : (pass files parent s.declared).2 with
    | error e => simp [inherit, hp, ha]
    | ok next => exact absurd (pass_eq_ok_iff.mp hp).1 ha

/-- The resolved values after a scope has inherited, or why it could not. -/
def inherited (files : Files) (parent : NameMap String) (s : Scope) :
    Except InitError (NameMap String) :=
  match (s.inherit files parent).failure with
  | none => .ok (s.inherit files parent).value.resolved
  | some e => .error e

theorem inherited_eq_ok_iff :
    s.inherited files parent = .ok known ↔ (∀ v ∈ s.declared, v.Available files) ∧
      ∃ depth, resolve (settle parent (texts files s.declared)) = .ok ⟨known, depth⟩ := by
  have hdone : s.inherited files parent = .ok known ↔
      ∃ declared, s.inherit files parent = .done ⟨declared, known⟩ := by
    rw [inherited]
    obtain ⟨⟨declared, resolved⟩, failure⟩ := s.inherit files parent
    cases failure <;> simp [Progress.done]
  simp [hdone, inherit_eq_done_iff]

end Scope

end GenPlan
