import GenPlan.Proofs.Plan.Saturated

namespace GenPlan

open Progress

theorem Option.map_eq_self {α : Type} {f : α → α} {o : Option α} (h : ∀ a ∈ o.toList, f a = a) :
    o.map f = o := by
  cases o with
  | none => rfl
  | some a => rw [Option.map_some, h a List.mem_cons_self]

theorem Routing.map_eq_self {f : String → String} {routing : Routing}
    (h : ∀ text ∈ routing.texts, f text = text) : routing.map f = routing := by
  obtain ⟨hproject, hfolder⟩ := List.forall_mem_append.mp h
  rw [map, Option.map_eq_self hproject, Option.map_eq_self hfolder]

theorem NameMap.mapValues_eq_self {α : Type} {f : α → α} {m : NameMap α}
    (h : ∀ a ∈ m.values, f a = a) : m.mapValues f = m := by
  have hentries : m.entries.map (fun e => (e.1, f e.2)) = m.entries := by
    refine (List.map_congr_left fun e he => ?_).trans (List.map_id' _)
    rw [h e.2 (List.mem_map_of_mem he)]
  cases m
  simpa [mapValues] using hentries

theorem Selector.Compiled.eq {s t : Selector} (hs : s.Compiled) (ht : t.Compiled)
    (h : t.text = s.text) : t = s := by
  have hfirst : s.compile = .ok s := Selector.compile_eq_ok_iff.mpr ⟨rfl, hs⟩
  have hsecond : s.compile = .ok t := Selector.compile_eq_ok_iff.mpr ⟨h, ht⟩
  exact Except.ok.inj (hsecond.symm.trans hfirst)

theorem Project.missing_congr {folders others : List Folder}
    (h : folders.map Folder.name = others.map Folder.name) (maven : Bool) :
    missing maven folders = missing maven others := by
  have hsame (name : String) : Named.contains folders name = Named.contains others name := by
    have hiff : ∀ items : List Folder,
        Named.contains items name = true ↔ name ∈ items.map Folder.name := fun items => by
      rw [Named.contains_iff, List.mem_map]
      rfl
    rw [Bool.eq_iff_iff, hiff, hiff, h]
  simp only [missing, hsame]

namespace Node

/-- An entity whose initialization may be repeated: it inherits the same once more, nothing is left to be
put into its texts, and what else an initialization establishes is there. -/
structure Settled (parent : NameMap String) (outer : Routing) (n : Node) : Prop where
  standing : n.scope.Standing parent (fun _ => false) n.scope
  texts : ∀ text ∈ n.texts, ∀ reference ∈ references text, reference ∉ n.scope.resolved
  prepared : n.Prepared outer

variable {files later : Files} {parent : NameMap String} {outer : Routing} {n n' : Node} {s : Scope}

theorem Initialized.settled (h : Initialized files parent outer n n') (hf : parent.Final)
    (hs : n.AllSealed files) (hd : (n.scope.declared.map Variable.name).Nodup) :
    n'.Settled parent outer where
  standing := Scope.Inherits.standing ⟨hf, hd, hs.contents, h.inherits⟩
  texts := (h.saturated hf hs).texts
  prepared := h.prepared

theorem Settled.resolved_eq (h : n.Settled parent outer)
    (hs : n.scope.inherit later parent = done s) : s.resolved = n.scope.resolved := by
  obtain ⟨t, ht, hr⟩ := h.standing.exists_inherit later
  cases done_inj.mp (hs.symm.trans ht)
  exact hr

theorem Settled.replace_eq_self (h : n.Settled parent outer)
    (hs : n.scope.inherit later parent = done s) : ∀ text ∈ n.texts, s.replace text = text := by
  intro text ht
  rw [Scope.replace, h.resolved_eq hs]
  exact substitute_of_not_mem (h.texts text ht)

end Node

variable {parent : NameMap String} {outer : Routing}

theorem ClasspathEntry.init_settled_iff {e : ClasspathEntry}
    (h : (Node.entry e).Settled parent outer) (later : Files) (u : ClasspathEntry) :
    e.init later parent = done u ↔
      ∃ s, e.scope.inherit later parent = done s ∧ u = { e with scope := s } := by
  rw [init_eq_done_iff]
  refine exists_congr fun s => and_congr_right fun hs => ?_
  rw [h.replace_eq_self hs e.path List.mem_cons_self]

theorem Classpath.init_settled_iff {c : Classpath} (h : (Node.classpath c).Settled parent outer)
    (later : Files) (u : Classpath) :
    c.init later parent = done u ↔ ∃ s entries, c.scope.inherit later parent = done s ∧
      each (ClasspathEntry.init later c.scope.resolved) c.entries = done entries ∧
      u = ⟨entries, s⟩ := by
  rw [init_eq_done_iff]
  refine exists_congr fun s => exists_congr fun entries => and_congr_right fun hs => ?_
  rw [each_eq_done_iff, h.resolved_eq hs]
  rfl

theorem Folder.init_settled_iff {f : Folder} (h : (Node.folder f).Settled parent outer)
    (later : Files) (u : Folder) :
    f.init later parent = done u ↔
      ∃ s, f.scope.inherit later parent = done s ∧ u = { f with scope := s } := by
  rw [init_eq_done_iff]
  refine exists_congr fun s => ?_
  rw [exists_and_left]
  refine and_congr_right fun hs => ?_
  have htexts := h.replace_eq_self hs
  simp only [Node.texts, List.forall_mem_cons] at htexts
  obtain ⟨hname, hpath, hexclude⟩ := htexts
  rw [hname, hpath, Option.map_eq_self hexclude]
  constructor
  · rintro ⟨exclude, htext, hcompiled, rfl⟩
    rw [Selector.Compiled.eq h.prepared hcompiled htext]
  · rintro rfl
    exact ⟨f.cleanExclude, rfl, h.prepared, rfl⟩

theorem Project.init_settled_iff {p : Project}
    (h : (Node.project p).Throughout Node.Settled parent outer) (later : Files) (u : Project) :
    p.init later parent = done u ↔ ∃ s folders, p.scope.inherit later parent = done s ∧
      each (Folder.init later p.scope.resolved) p.folders = done folders ∧
      u = { p with folders, scope := s } := by
  rw [init_eq_done_iff]
  refine exists_congr fun s => exists_congr fun folders => ?_
  rw [exists_and_left]
  refine and_congr_right fun hs => ?_
  rw [exists_and_left, ← each_eq_done_iff, h.here.resolved_eq hs]
  refine and_congr_right fun hfolders => ?_
  have hnames : folders.map Folder.name = p.folders.map Folder.name := by
    refine map_eq_of_each (fun f hf g hg => ?_) hfolders
    obtain ⟨_, _, rfl⟩ :=
      (Folder.init_settled_iff (h.inside _ (List.mem_map_of_mem hf)).here _ _).mp hg
    rfl
  have hmissing : missing p.maven folders = [] := (missing_congr hnames _).trans h.here.prepared
  have htexts := h.here.replace_eq_self hs
  simp only [Node.texts, List.forall_mem_cons] at htexts
  obtain ⟨hname, hpath, _⟩ := htexts
  simp [hmissing, hname, hpath]

theorem Parser.init_settled_iff {p : Parser} (h : (Node.parser p).Settled parent outer)
    (later : Files) (u : Parser) :
    p.init later parent = done u ↔
      ∃ s, p.scope.inherit later parent = done s ∧ u = { p with scope := s } := by
  rw [init_eq_done_iff]
  refine exists_congr fun s => and_congr_right fun hs => ?_
  have htexts := h.replace_eq_self hs
  simp only [Node.texts, List.forall_mem_cons] at htexts
  obtain ⟨hname, hclass, hproperties⟩ := htexts
  rw [hname, hclass, NameMap.mapValues_eq_self hproperties]

theorem Parsers.init_settled_iff {p : Parsers} (h : (Node.parsers p).Settled parent outer)
    (later : Files) (u : Parsers) :
    p.init later parent = done u ↔ ∃ s members, p.scope.inherit later parent = done s ∧
      each (Parser.init later p.scope.resolved) p.parsers = done members ∧ u = ⟨members, s⟩ := by
  rw [init_eq_done_iff]
  refine exists_congr fun s => exists_congr fun members => and_congr_right fun hs => ?_
  rw [each_eq_done_iff, h.resolved_eq hs]
  rfl

theorem Target.init_settled_iff {t : Target} (h : (Node.target t).Settled parent outer)
    (later : Files) (u : Target) :
    t.init later parent outer = done u ↔
      ∃ s, t.scope.inherit later parent = done s ∧ u = { t with scope := s } := by
  rw [init_eq_done_iff]
  refine exists_congr fun s => ?_
  rw [exists_and_left]
  refine and_congr_right fun hs => ?_
  obtain ⟨hpattern, hrouting⟩ := List.forall_mem_append.mp (h.replace_eq_self hs)
  obtain ⟨houter, hcompiled⟩ := h.prepared
  rw [Option.map_eq_self hpattern, Routing.map_eq_self hrouting, ← houter]
  constructor
  · rintro ⟨pattern, htext, hagain, rfl⟩
    rw [Selector.Compiled.eq hcompiled hagain htext]
  · rintro rfl
    exact ⟨t.pattern, rfl, hcompiled, rfl⟩

theorem Artifact.init_settled_iff {a : Artifact} (h : (Node.artifact a).Settled parent outer)
    (later : Files) (u : Artifact) :
    a.init later parent outer = done u ↔ ∃ s targets, a.scope.inherit later parent = done s ∧
      each (Target.init later a.scope.resolved (Routed.defined a)) a.targets = done targets ∧
      u = { a with targets, scope := s } := by
  rw [init_eq_done_iff]
  refine exists_congr fun s => exists_congr fun targets => and_congr_right fun hs => ?_
  have htexts := h.replace_eq_self hs
  simp only [Node.texts, List.forall_mem_cons] at htexts
  obtain ⟨hname, hrouting⟩ := htexts
  have houter : a.outer = outer := h.prepared
  rw [each_eq_done_iff, hname, Routing.map_eq_self hrouting, ← houter, h.resolved_eq hs]
  rfl

theorem Generator.init_settled_iff {g : Generator} (h : (Node.generator g).Settled parent outer)
    (later : Files) (u : Generator) :
    g.init later parent outer = done u ↔ ∃ s artifacts, g.scope.inherit later parent = done s ∧
      each (Artifact.init later g.scope.resolved (Routed.defined g)) g.artifacts = done artifacts ∧
      u = { g with artifacts, scope := s } := by
  rw [init_eq_done_iff]
  refine exists_congr fun s => exists_congr fun artifacts => and_congr_right fun hs => ?_
  have htexts := h.replace_eq_self hs
  simp only [Node.texts, List.forall_mem_cons, List.forall_mem_append] at htexts
  obtain ⟨hname, hclass, ⟨hparser, hrouting⟩, hproperties⟩ := htexts
  have houter : g.outer = outer := h.prepared
  rw [each_eq_done_iff, hname, hclass, Option.map_eq_self hparser, Routing.map_eq_self hrouting,
    NameMap.mapValues_eq_self hproperties, ← houter, h.resolved_eq hs]
  rfl

theorem Generators.init_settled_iff {g : Generators}
    (h : (Node.generators g).Settled parent outer) (later : Files) (u : Generators) :
    g.init later parent = done u ↔ ∃ s members, g.scope.inherit later parent = done s ∧
      each (Generator.init later g.scope.resolved (Routed.defined g)) g.generators = done members ∧
      u = { g with generators := members, scope := s } := by
  rw [init_eq_done_iff]
  refine exists_congr fun s => exists_congr fun members => and_congr_right fun hs => ?_
  rw [each_eq_done_iff, Routing.map_eq_self (h.replace_eq_self hs), h.resolved_eq hs]
  rfl

end GenPlan
