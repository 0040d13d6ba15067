import GenPlan.Proofs.Marker
import GenPlan.Proofs.Named
import GenPlan.Proofs.Progress
import GenPlan.Session

namespace GenPlan

open Progress

/-- The compiled pattern is the one that the text stands for. -/
def Selector.Compiled (s : Selector) : Prop :=
  match s.text with
  | none => s.compiled = none
  | some source => ∃ p, Pattern.compile? source = some p ∧ s.compiled = some p

theorem Selector.compile_eq_ok_iff {s t : Selector} :
    s.compile = .ok t ↔ t.text = s.text ∧ t.Compiled := by
  obtain ⟨text, compiled⟩ := s
  obtain ⟨text', compiled'⟩ := t
  cases text with
  | none =>
    simp only [compile, Except.ok.injEq, Selector.mk.injEq, Compiled]
    constructor
    · rintro ⟨rfl, rfl⟩
      exact ⟨rfl, rfl⟩
    · rintro ⟨rfl, h⟩
      exact ⟨rfl, h.symm⟩
  | some source =>
    cases hp : Pattern.compile? source with
    | none =>
      simp only [compile, hp, reduceCtorEq, Compiled, false_iff, not_and]
      rintro rfl
      simp [hp]
    | some p =>
      simp only [compile, hp, Except.ok.injEq, Selector.mk.injEq, Compiled]
      constructor
      · rintro ⟨rfl, rfl⟩
        exact ⟨rfl, p, hp, rfl⟩
      · rintro ⟨rfl, q, hq, rfl⟩
        exact ⟨rfl, hp.symm.trans hq⟩

variable {files : Files} {parent : NameMap String} {outer : Routing}

theorem ClasspathEntry.init_eq_done_iff {e e' : ClasspathEntry} :
    e.init files parent = done e' ↔ ∃ s, e.scope.inherit files parent = done s ∧
      e' = { e with path := s.replace e.path, scope := s } := by
  simp only [init, Scoped.inherit, andThen_eq_done_iff, map_eq_done_iff, done_inj]
  simp [Scoped.withScope, Scoped.scope, eq_comm]

theorem Classpath.init_eq_done_iff {c c' : Classpath} :
    c.init files parent = done c' ↔ ∃ s entries, c.scope.inherit files parent = done s ∧
      List.Forall₂ (fun e e' => ClasspathEntry.init files s.resolved e = done e') c.entries entries ∧
      c' = ⟨entries, s⟩ := by
  simp only [init, Scoped.inherit, andThen_eq_done_iff, map_eq_done_iff, each_eq_done_iff]
  simp [Scoped.withScope, Scoped.scope, eq_comm]

theorem Folder.init_eq_done_iff {f f' : Folder} :
    f.init files parent = done f' ↔ ∃ s exclude, f.scope.inherit files parent = done s ∧
      exclude.text = f.cleanExclude.text.map s.replace ∧ exclude.Compiled ∧
      f' = { f with
        name := s.replace f.name, path := s.replace f.path, cleanExclude := exclude, scope := s } := by
  simp only [init, Scoped.inherit, andThen_eq_done_iff, map_eq_done_iff]
  constructor
  · rintro ⟨_, ⟨s, hs, rfl⟩, h⟩
    split at h
    next exclude hc =>
      obtain ⟨ht, hp⟩ := Selector.compile_eq_ok_iff.mp hc
      exact ⟨s, exclude, hs, ht, hp, (done_inj.mp h).symm⟩
    · exact absurd h stop_ne_done
  · rintro ⟨s, exclude, hs, ht, hp, rfl⟩
    refine ⟨_, ⟨s, hs, rfl⟩, ?_⟩
    have hc : Selector.compile { f.cleanExclude with text := f.cleanExclude.text.map s.replace } =
        .ok exclude := Selector.compile_eq_ok_iff.mpr ⟨ht, hp⟩
    simp only [Scoped.withScope, hc]

theorem Parser.init_eq_done_iff {p p' : Parser} :
    p.init files parent = done p' ↔ ∃ s, p.scope.inherit files parent = done s ∧
      p' = ⟨s.replace p.name, s.replace p.className, p.properties.mapValues s.replace, s⟩ := by
  simp only [init, Scoped.inherit, andThen_eq_done_iff, map_eq_done_iff, done_inj]
  simp [Scoped.withScope, Scoped.scope, eq_comm]

theorem Parsers.init_eq_done_iff {p p' : Parsers} :
    p.init files parent = done p' ↔ ∃ s members, p.scope.inherit files parent = done s ∧
      List.Forall₂ (fun m m' => Parser.init files s.resolved m = done m') p.parsers members ∧
      p' = ⟨members, s⟩ := by
  simp only [init, Scoped.inherit, andThen_eq_done_iff, map_eq_done_iff, each_eq_done_iff]
  simp [Scoped.withScope, Scoped.scope, eq_comm]

theorem Target.init_eq_done_iff {t t' : Target} :
    t.init files parent outer = done t' ↔ ∃ s pattern, t.scope.inherit files parent = done s ∧
      pattern.text = t.pattern.text.map s.replace ∧ pattern.Compiled ∧
      t' = ⟨pattern, t.routing.map s.replace, outer, s⟩ := by
  simp only [init, Scoped.inherit, andThen_eq_done_iff, map_eq_done_iff]
  constructor
  · rintro ⟨_, ⟨s, hs, rfl⟩, h⟩
    split at h
    next pattern hc =>
      obtain ⟨ht, hp⟩ := Selector.compile_eq_ok_iff.mp hc
      exact ⟨s, pattern, hs, ht, hp, (done_inj.mp h).symm⟩
    · exact absurd h stop_ne_done
  · rintro ⟨s, pattern, hs, ht, hp, rfl⟩
    refine ⟨_, ⟨s, hs, rfl⟩, ?_⟩
    have hc : Selector.compile { t.pattern with text := t.pattern.text.map s.replace } =
        .ok pattern := Selector.compile_eq_ok_iff.mpr ⟨ht, hp⟩
    simp only [Scoped.withScope, hc]

theorem Artifact.init_eq_done_iff {a a' : Artifact} :
    a.init files parent outer = done a' ↔ ∃ s targets, a.scope.inherit files parent = done s ∧
      List.Forall₂ (fun t t' =>
        Target.init files s.resolved ((a.routing.map s.replace).orElse outer) t = done t')
        a.targets targets ∧
      a' = ⟨s.replace a.name, a.routing.map s.replace, targets, outer, s⟩ := by
  simp only [init, Scoped.inherit, andThen_eq_done_iff, map_eq_done_iff, each_eq_done_iff]
  simp [Scoped.withScope, Scoped.scope, Routed.defined, Routed.routing, Routed.outer, eq_comm]

theorem Generator.init_eq_done_iff {g g' : Generator} :
    g.init files parent outer = done g' ↔ ∃ s artifacts, g.scope.inherit files parent = done s ∧
      List.Forall₂ (fun a a' =>
        Artifact.init files s.resolved ((g.routing.map s.replace).orElse outer) a = done a')
        g.artifacts artifacts ∧
      g' = ⟨s.replace g.name, s.replace g.className, g.parser.map s.replace,
        g.routing.map s.replace, g.properties.mapValues s.replace, artifacts, outer, s⟩ := by
  simp only [init, Scoped.inherit, andThen_eq_done_iff, map_eq_done_iff, each_eq_done_iff]
  simp [Scoped.withScope, Scoped.scope, Routed.defined, Routed.routing, Routed.outer, eq_comm]

theorem Generators.init_eq_done_iff {g g' : Generators} :
    g.init files parent = done g' ↔ ∃ s members, g.scope.inherit files parent = done s ∧
      List.Forall₂ (fun m m' =>
        Generator.init files s.resolved ((g.routing.map s.replace).orElse {}) m = done m')
        g.generators members ∧
      g' = ⟨g.routing.map s.replace, members, s⟩ := by
  simp only [init, Scoped.inherit, andThen_eq_done_iff, map_eq_done_iff, each_eq_done_iff]
  simp [Scoped.withScope, Scoped.scope, Routed.defined, Routed.routing, Routed.outer, eq_comm]

def Project.missing (maven : Bool) (folders : List Folder) : List StandardFolder :=
  if maven then StandardFolder.all.filter fun s => !Named.contains folders s.name else []

theorem Project.mem_missing_iff {maven : Bool} {folders : List Folder} {s : StandardFolder} :
    s ∈ missing maven folders ↔
      maven = true ∧ s ∈ StandardFolder.all ∧ ∀ f ∈ folders, f.name ≠ s.name := by
  cases maven with
  | false => simp [missing]
  | true => simp [missing, ← Bool.not_eq_true, Named.contains_iff, Named.name]

theorem Project.missing_sublist (maven : Bool) (folders : List Folder) :
    List.Sublist (missing maven folders) StandardFolder.all := by
  rw [missing]
  split
  · exact List.filter_sublist
  · exact List.nil_sublist _

theorem StandardFolder.folder_eq (s : StandardFolder) :
    s.folder = {
      name := s.name
      path := s.path
      create := s.generated
      overrideExisting := s.generated
      clean := s.generated } := by
  rw [folder]
  cases s.generated <;> rfl

theorem StandardFolder.name_of_init {s : StandardFolder} (hs : references s.name = []) {f : Folder}
    (h : s.folder.init files parent = done f) : f.name = s.name := by
  obtain ⟨scope, exclude, -, -, -, rfl⟩ := Folder.init_eq_done_iff.mp h
  rw [folder_eq]
  exact substitute_of_references_eq_nil _ hs

theorem Project.addStandard_eq_done_iff {vars : NameMap String} {ss : List StandardFolder}
    (hd : (ss.map StandardFolder.name).Nodup) (hs : ∀ s ∈ ss, references s.name = [])
    {folders folders' : List Folder} :
    addStandard files vars ss folders = done folders' ↔ ∃ added,
      List.Forall₂ (fun s f => Folder.init files vars s.folder = done f)
        (ss.filter fun s => !Named.contains folders s.name) added ∧
      folders' = folders ++ added := by
  induction ss generalizing folders with
  | nil => simp [addStandard, eq_comm]
  | cons s ss ih =>
    have ih (folders : List Folder) : addStandard files vars ss folders = done folders' ↔ _ :=
      ih (List.nodup_cons.mp hd).2 fun t ht => hs t (List.mem_cons_of_mem s ht)
    rw [addStandard]
    by_cases hc : Named.contains folders s.name = true
    · rw [if_pos hc, ih, List.filter_cons_of_neg (by simp [hc])]
    · rw [if_neg hc, List.filter_cons_of_pos (by simp [hc])]
      cases hf : s.folder.init files vars with
      | mk f failure =>
        cases failure with
        | some e =>
          have hno : ¬ ∃ f, Folder.init files vars s.folder = done f := by simp [hf, done]
          simp only [stop_ne_done, List.forall₂_cons_left_iff, false_iff]
          rintro ⟨_, ⟨f, _, hf, _, _⟩, _⟩
          exact hno ⟨f, hf⟩
        | none =>
          -- the folder that is added has a name that no later one of the table has
          have hname : f.name = s.name := s.name_of_init (hs s List.mem_cons_self) hf
          have hsame : (ss.filter fun t => !Named.contains (folders ++ [f]) t.name) =
              ss.filter fun t => !Named.contains folders t.name := by
            refine List.filter_congr fun t ht => ?_
            have hne : s.name ≠ t.name := fun he =>
              (List.nodup_cons.mp hd).1 (he ▸ List.mem_map_of_mem ht)
            have hiff : Named.contains (folders ++ [f]) t.name = true ↔
                Named.contains folders t.name = true := by
              simp [Named.contains_iff, Named.name, hname, hne]
            rw [Bool.eq_iff_iff.mpr hiff]
          simp only [ih, hsame, List.forall₂_cons_left_iff, hf]
          simp [done]

theorem StandardFolder.nodup_names : (all.map name).Nodup := by decide

theorem StandardFolder.references_name : ∀ s ∈ all, references s.name = [] := by
  decide +kernel

theorem Project.map_name_eq_of_missing {maven : Bool} {folders added : List Folder}
    (h : List.Forall₂ (fun s f => Folder.init files parent s.folder = done f)
      (missing maven folders) added) :
    added.map Folder.name = (missing maven folders).map StandardFolder.name := by
  have hall : ∀ s ∈ missing maven folders, references s.name = [] := fun s hs =>
    StandardFolder.references_name s (mem_missing_iff.mp hs).2.1
  have hnames : List.Forall₂ (fun s f => f.name = s.name) (missing maven folders) added :=
    ((List.forall₂_and_left _ _).mpr ⟨hall, h⟩).imp fun s _ ⟨hs, hf⟩ => s.name_of_init hs hf
  rw [← List.forall₂_eq_eq_eq, List.forall₂_map_left_iff, List.forall₂_map_right_iff]
  exact hnames.flip

theorem Project.init_eq_done_iff {p p' : Project} :
    p.init files parent = done p' ↔ ∃ s declared added, p.scope.inherit files parent = done s ∧
      List.Forall₂ (fun f f' => Folder.init files s.resolved f = done f') p.folders declared ∧
      List.Forall₂ (fun t f => Folder.init files s.resolved t.folder = done f)
        (missing p.maven declared) added ∧
      p' = ⟨s.replace p.name, s.replace p.path, p.maven, declared ++ added, s⟩ := by
  have hstandard (vars : NameMap String) (folders folders' : List Folder) :
      addStandard files vars StandardFolder.all folders = done folders' ↔ _ :=
    addStandard_eq_done_iff StandardFolder.nodup_names StandardFolder.references_name
  simp only [init, Scoped.inherit, andThen_eq_done_iff, map_eq_done_iff, each_eq_done_iff]
  constructor
  · rintro ⟨_, ⟨_, ⟨s, hs, rfl⟩, declared, hd, rfl⟩, h⟩
    cases hm : p.maven with
    | true =>
      simp only [Scoped.withScope, withFolders, hm, if_true, map_eq_done_iff, hstandard] at h
      obtain ⟨_, ⟨added, ha, rfl⟩, rfl⟩ := h
      exact ⟨s, declared, added, hs, hd, ha, by simp⟩
    | false =>
      simp only [Scoped.withScope, withFolders, hm] at h
      exact ⟨s, declared, [], hs, hd, .nil, by simpa [hm] using (done_inj.mp h).symm⟩
  · rintro ⟨s, declared, added, hs, hd, ha, rfl⟩
    refine ⟨_, ⟨_, ⟨s, hs, rfl⟩, declared, hd, rfl⟩, ?_⟩
    cases hm : p.maven with
    | true =>
      simp only [Scoped.withScope, withFolders, hm, if_true, map_eq_done_iff, hstandard]
      rw [hm] at ha
      exact ⟨_, ⟨added, ha, rfl⟩, rfl⟩
    | false =>
      rw [hm] at ha
      cases ha
      simp [Scoped.withScope, withFolders, hm]

def Plan.rootDeclaration (root : String) : Variable := { name := rootVariable, cached := root }

theorem Plan.init_eq_done_iff {root : String} {p p' : Plan} :
    p.init files root = done p' ↔ ∃ s classpath projects parsers generators,
      (p.scope.declare (rootDeclaration root)).inherit files ∅ = done s ∧
      p.classpath.init files s.resolved = done classpath ∧
      List.Forall₂ (fun q q' => Project.init files s.resolved q = done q') p.projects projects ∧
      p.parsers.init files s.resolved = done parsers ∧
      p.generators.init files s.resolved = done generators ∧
      p' = ⟨s, classpath, projects, parsers, generators⟩ := by
  simp only [init, Scoped.inherit, andThen_eq_done_iff, map_eq_done_iff, each_eq_done_iff]
  constructor
  · rintro ⟨_, ⟨_, ⟨_, ⟨_, ⟨s, hs, rfl⟩, classpath, hc, rfl⟩, projects, hp, rfl⟩, parsers, hq, rfl⟩,
      generators, hg, rfl⟩
    exact ⟨s, classpath, projects, parsers, generators, hs, hc, hp, hq, hg, rfl⟩
  · rintro ⟨s, classpath, projects, parsers, generators, hs, hc, hp, hq, hg, rfl⟩
    exact ⟨_, ⟨_, ⟨_, ⟨_, ⟨s, hs, rfl⟩, classpath, hc, rfl⟩, projects, hp, rfl⟩, parsers, hq, rfl⟩,
      generators, hg, rfl⟩

theorem Plan.inherit_of_init {root : String} {p p' : Plan} (h : p.init files root = done p') :
    (p.scope.declare (rootDeclaration root)).inherit files ∅ = done p'.scope := by
  obtain ⟨_, _, _, _, _, hs, -, -, -, -, rfl⟩ := init_eq_done_iff.mp h
  exact hs

theorem Session.init_eq_done_iff {context : Context} {root : String} {s s' : Session} :
    s.init files context root = done s' ↔ ∃ plan, s.plan.init files root = done plan ∧
      s' = ⟨plan, some root,
        (plan.classpath.paths root).foldl (fun c path => c.addClasspath path) context, true⟩ := by
  rw [init]
  obtain ⟨plan, failure⟩ := s.plan.init files root
  cases failure with
  | none => simp [done, eq_comm]
  | some e => simp [stop, done]

end GenPlan
