import GenPlan.Proofs.Scope.Pass

namespace GenPlan.Scope

variable {files later : Files} {parent known : NameMap String} {before after vs : List Variable}
  {v : Variable} {s : Scope} {e : LoadError}

theorem pass_of_error (ha : ∀ v ∈ before, v.Available files) (hv : v.value files = .error e)
    (known : NameMap String) (after : List Variable) :
    pass files known (before ++ v :: after) = (passed files known before ++ v :: after, .error e) := by
  rw [pass_append ha, pass, hv]

theorem pass_congr (h : ∀ w ∈ before ++ [v], w.value later = w.value files)
    (hv : ¬ v.Available files) (known : NameMap String) (after : List Variable) :
    pass later known (before ++ v :: after) = pass files known (before ++ v :: after) := by
  induction before generalizing known with
  | nil =>
    have hvalue : v.value later = v.value files := h v List.mem_cons_self
    cases he : v.value files with
    | error e => rw [List.nil_append, pass, pass, hvalue, he]
    | ok r => exact absurd (by rw [Variable.Available, he]; rfl) hv
  | cons w before ih =>
    have ih := ih fun u hu => h u (List.mem_cons_of_mem w hu)
    rw [List.cons_append, pass, pass, h w List.mem_cons_self]
    cases w.value files with
    | error e => rfl
    | ok r => simp only [ih]

theorem value_eq_error_iff : v.value files = .error e ↔
    v.cached = none ∧ ∃ source, v.source = some source ∧ source.load files = .error e := by
  obtain ⟨name, cached, source⟩ := v
  cases cached with
  | some text => simp [Variable.value]
  | none =>
    cases source with
    | none => simp [Variable.value]
    | some source => cases hl : source.load files <;> simp [Variable.value, hl, Except.map]

theorem exists_of_not_available (h : ¬ ∀ v ∈ vs, v.Available files) :
    ∃ before v after e, vs = before ++ v :: after ∧ (∀ w ∈ before, w.Available files) ∧
      v.value files = .error e := by
  induction vs with
  | nil => exact absurd (List.forall_mem_nil _) h
  | cons v vs ih =>
    cases hv : v.value files with
    | error e => exact ⟨[], v, vs, e, rfl, List.forall_mem_nil _, hv⟩
    | ok r =>
      have ha : v.Available files := by rw [Variable.Available, hv]; rfl
      obtain ⟨before, w, after, e, rfl, hb, hw⟩ := ih fun hall => h (List.forall_mem_cons.mpr ⟨ha, hall⟩)
      exact ⟨v :: before, w, after, e, rfl, List.forall_mem_cons.mpr ⟨ha, hb⟩, hw⟩

/-- What inheriting can come to. -/
inductive Outcome (files : Files) (parent : NameMap String) (s : Scope) : Progress InitError Scope → Prop
  /-- The first source that cannot be read. It and all that comes after it stay as they are. -/
  | unloadable {before after : List Variable} {v : Variable} {source : Source} {e : LoadError}
      (declared : s.declared = before ++ v :: after) (available : ∀ w ∈ before, w.Available files)
      (uncached : v.cached = none) (sourced : v.source = some source)
      (unreadable : source.load files = .error e) :
    Outcome files parent s (.stop ⟨passed files parent before ++ v :: after, s.resolved⟩ (.load e))
  | cyclic {names : List String} (available : ∀ v ∈ s.declared, v.Available files)
      (cycle : resolve (settle parent (texts files s.declared)) = .error names) :
    Outcome files parent s (.stop ⟨passed files parent s.declared, s.resolved⟩ (.cycle names))
  | resolved {r : Resolution} (available : ∀ v ∈ s.declared, v.Available files)
      (resolution : resolve (settle parent (texts files s.declared)) = .ok r) :
    Outcome files parent s (.done ⟨passed files parent s.declared, r.resolved⟩)

theorem outcome_inherit (files : Files) (parent : NameMap String) (s : Scope) :
    Outcome files parent s (s.inherit files parent) := by
  by_cases ha : ∀ v ∈ s.declared, v.Available files
  · rw [inherit, pass_of_available ha]
    cases hr : resolve (settle parent (texts files s.declared)) with
    | error names => simpa only [hr] using Outcome.cyclic ha hr
    | ok r => simpa only [hr] using Outcome.resolved ha hr
  · obtain ⟨before, v, after, e, hs, hb, hv⟩ := exists_of_not_available ha
    obtain ⟨hc, source, hsource, hl⟩ := value_eq_error_iff.mp hv
    rw [inherit, hs, pass_of_error hb hv]
    exact .unloadable hs hb hc hsource hl

theorem Outcome.map_identity {p : Progress InitError Scope} (h : Outcome files parent s p) :
    p.value.declared.map identity = s.declared.map identity := by
  cases h with
  | unloadable declared => simp [Progress.stop, declared]
  | cyclic => simp [Progress.stop]
  | resolved => simp [Progress.done]

/-- Inheriting stops at the first source that cannot be read, before any cycle is looked for, or else at a
cycle, or it goes through. Whichever it is, the variables keep their names, their order and their sources;
and what the sources after an unreadable one hold does not matter. -/
theorem inherit_outcome (files : Files) (parent : NameMap String) (s : Scope) :
    Outcome files parent s (s.inherit files parent) ∧
    (s.inherit files parent).value.declared.map identity = s.declared.map identity ∧
    ∀ (later : Files) (before : List Variable) (v : Variable) (after : List Variable),
      s.declared = before ++ v :: after → ¬ v.Available files →
      (∀ w ∈ before ++ [v], w.value later = w.value files) →
        s.inherit later parent = s.inherit files parent := by
  have h := outcome_inherit files parent s
  refine ⟨h, h.map_identity, fun later before v after hs hv hsame => ?_⟩
  rw [inherit, inherit, hs, pass_congr hsame hv]

def halfway : Scope :=
  ⟨[⟨"a", some "<${a}>", none⟩, ⟨"b", none, some ⟨"/b", none⟩⟩, ⟨"a", some "${a}${b}", none⟩,
    ⟨"c", none, some ⟨"/c", none⟩⟩, ⟨"d", none, some ⟨"/d", none⟩⟩], .ofList [("a", "0")]⟩

def halfwayFiles : Files := (FileTree.directory [("b", .file "${a}!".toUTF8)]).files "/"

def halfwayLater : Files :=
  (FileTree.directory [("b", .file "${a}!".toUTF8), ("d", .file "D".toUTF8)]).files "/"

theorem inherit_outcome_halfway :
    Outcome halfwayFiles (.ofList [("a", "1")]) halfway
      (halfway.inherit halfwayFiles (.ofList [("a", "1")])) ∧
    (halfway.inherit halfwayLater (.ofList [("a", "1")])).value =
      ⟨[⟨"a", some "<1>", none⟩, ⟨"b", some "<1>!", some ⟨"/b", none⟩⟩, ⟨"a", some "<1><1>!", none⟩,
        ⟨"c", none, some ⟨"/c", none⟩⟩, ⟨"d", none, some ⟨"/d", none⟩⟩], .ofList [("a", "0")]⟩ ∧
    (halfway.inherit halfwayLater (.ofList [("a", "1")])).failure =
      some (.load (.unreadable "/c" .notFound)) := by
  obtain ⟨houtcome, _, hafter⟩ := inherit_outcome halfwayFiles (.ofList [("a", "1")]) halfway
  have hsame := hafter halfwayLater
    [⟨"a", some "<${a}>", none⟩, ⟨"b", none, some ⟨"/b", none⟩⟩, ⟨"a", some "${a}${b}", none⟩]
    ⟨"c", none, some ⟨"/c", none⟩⟩ [⟨"d", none, some ⟨"/d", none⟩⟩] rfl (by decide +kernel)
    (by decide +kernel)
  rw [hsame]
  exact ⟨houtcome, by decide +kernel, by decide +kernel⟩

end GenPlan.Scope
