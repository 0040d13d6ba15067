import GenPlan.Proofs.Plan.Settled
import GenPlan.Proofs.Plan.Undeclared

namespace GenPlan

open Progress

theorem Scope.undeclared_congr {s t : Scope} (h : s.resolved = t.resolved) :
    s.undeclared = t.undeclared := by
  rw [undeclared, undeclared, h]

section

variable {parent : NameMap String} {outer : Routing} (later : Files)

theorem ClasspathEntry.exists_init {e : ClasspathEntry} (h : (Node.entry e).Settled parent outer) :
    ∃ u, e.init later parent = done u ∧ Scoped.undeclared u = Scoped.undeclared e := by
  obtain ⟨s, hs, hr⟩ := h.standing.exists_inherit later
  refine ⟨_, (init_settled_iff h later _).mpr ⟨s, hs, rfl⟩, ?_⟩
  exact congrArg (Scoped.withScope e) (Scope.undeclared_congr hr)

theorem Classpath.exists_init {c : Classpath}
    (h : (Node.classpath c).Throughout Node.Settled parent outer) :
    ∃ u, c.init later parent = done u ∧ u.undeclared = c.undeclared := by
  obtain ⟨s, hs, hr⟩ := h.here.standing.exists_inherit later
  obtain ⟨entries, hentries, hsame⟩ := exists_each fun e he =>
    ClasspathEntry.exists_init later (h.inside _ (List.mem_map_of_mem he)).here
  refine ⟨_, (init_settled_iff h.here later _).mpr ⟨s, entries, hs, hentries, rfl⟩, ?_⟩
  exact congrArg₂ Classpath.mk hsame (Scope.undeclared_congr hr)

theorem Folder.exists_init {f : Folder} (h : (Node.folder f).Settled parent outer) :
    ∃ u, f.init later parent = done u ∧ Scoped.undeclared u = Scoped.undeclared f := by
  obtain ⟨s, hs, hr⟩ := h.standing.exists_inherit later
  refine ⟨_, (init_settled_iff h later _).mpr ⟨s, hs, rfl⟩, ?_⟩
  exact congrArg (Scoped.withScope f) (Scope.undeclared_congr hr)

theorem Project.exists_init {p : Project}
    (h : (Node.project p).Throughout Node.Settled parent outer) :
    ∃ u, p.init later parent = done u ∧ u.undeclared = p.undeclared := by
  obtain ⟨s, hs, hr⟩ := h.here.standing.exists_inherit later
  obtain ⟨folders, hfolders, hsame⟩ := exists_each fun f hf =>
    Folder.exists_init later (h.inside _ (List.mem_map_of_mem hf)).here
  refine ⟨_, (init_settled_iff h later _).mpr ⟨s, folders, hs, hfolders, rfl⟩, ?_⟩
  exact congrArg₂ (Project.mk p.name p.path p.maven) hsame (Scope.undeclared_congr hr)

theorem Parser.exists_init {p : Parser} (h : (Node.parser p).Settled parent outer) :
    ∃ u, p.init later parent = done u ∧ Scoped.undeclared u = Scoped.undeclared p := by
  obtain ⟨s, hs, hr⟩ := h.standing.exists_inherit later
  refine ⟨_, (init_settled_iff h later _).mpr ⟨s, hs, rfl⟩, ?_⟩
  exact congrArg (Scoped.withScope p) (Scope.undeclared_congr hr)

theorem Parsers.exists_init {p : Parsers}
    (h : (Node.parsers p).Throughout Node.Settled parent outer) :
    ∃ u, p.init later parent = done u ∧ u.undeclared = p.undeclared := by
  obtain ⟨s, hs, hr⟩ := h.here.standing.exists_inherit later
  obtain ⟨members, hmembers, hsame⟩ := exists_each fun m hm =>
    Parser.exists_init later (h.inside _ (List.mem_map_of_mem hm)).here
  refine ⟨_, (init_settled_iff h.here later _).mpr ⟨s, members, hs, hmembers, rfl⟩, ?_⟩
  exact congrArg₂ Parsers.mk hsame (Scope.undeclared_congr hr)

theorem Target.exists_init {t : Target} (h : (Node.target t).Settled parent outer) :
    ∃ u, t.init later parent outer = done u ∧ Scoped.undeclared u = Scoped.undeclared t := by
  obtain ⟨s, hs, hr⟩ := h.standing.exists_inherit later
  refine ⟨_, (init_settled_iff h later _).mpr ⟨s, hs, rfl⟩, ?_⟩
  exact congrArg (Scoped.withScope t) (Scope.undeclared_congr hr)

theorem Artifact.exists_init {a : Artifact}
    (h : (Node.artifact a).Throughout Node.Settled parent outer) :
    ∃ u, a.init later parent outer = done u ∧ u.undeclared = a.undeclared := by
  obtain ⟨s, hs, hr⟩ := h.here.standing.exists_inherit later
  obtain ⟨targets, htargets, hsame⟩ := exists_each fun t ht =>
    Target.exists_init later (h.inside _ (List.mem_map_of_mem ht)).here
  refine ⟨_, (init_settled_iff h.here later _).mpr ⟨s, targets, hs, htargets, rfl⟩, ?_⟩
  exact congrArg₂ (Artifact.mk a.name a.routing · a.outer) hsame (Scope.undeclared_congr hr)

theorem Generator.exists_init {g : Generator}
    (h : (Node.generator g).Throughout Node.Settled parent outer) :
    ∃ u, g.init later parent outer = done u ∧ u.undeclared = g.undeclared := by
  obtain ⟨s, hs, hr⟩ := h.here.standing.exists_inherit later
  obtain ⟨artifacts, hartifacts, hsame⟩ := exists_each fun a ha =>
    Artifact.exists_init later (h.inside _ (List.mem_map_of_mem ha))
  refine ⟨_, (init_settled_iff h.here later _).mpr ⟨s, artifacts, hs, hartifacts, rfl⟩, ?_⟩
  exact congrArg₂ (Generator.mk g.name g.className g.parser g.routing g.properties · g.outer)
    hsame (Scope.undeclared_congr hr)

theorem Generators.exists_init {g : Generators}
    (h : (Node.generators g).Throughout Node.Settled parent outer) :
    ∃ u, g.init later parent = done u ∧ u.undeclared = g.undeclared := by
  obtain ⟨s, hs, hr⟩ := h.here.standing.exists_inherit later
  obtain ⟨members, hmembers, hsame⟩ := exists_each fun m hm =>
    Generator.exists_init later (h.inside _ (List.mem_map_of_mem hm))
  refine ⟨_, (init_settled_iff h.here later _).mpr ⟨s, members, hs, hmembers, rfl⟩, ?_⟩
  exact congrArg₂ (Generators.mk g.routing) hsame (Scope.undeclared_congr hr)

end

namespace Node

def redeclares : Node → String → Bool
  | plan _, name => name = Plan.rootVariable
  | _, _ => false

variable {later : Files} {parent : NameMap String} {outer : Routing} {n : Node}

theorem redeclares_of_height_lt (hn : n.height < 4) : n.redeclares = fun _ => false := by
  cases n with
  | plan p => exact absurd hn (Nat.lt_irrefl 4)
  | _ => rfl

theorem init_eq_self_iff (hn : n.height < 4) (h : n.Throughout Settled parent outer) :
    n.init later parent outer = done n ↔ n.scope.ForwardOnly n.redeclares ∧
      ∀ c ∈ n.children, c.init later n.scope.resolved n.routing = done c := by
  rw [redeclares_of_height_lt hn, ← h.here.standing.inherit_eq_iff later]
  cases n with
  | plan p => exact absurd hn (Nat.lt_irrefl 4)
  | classpath c =>
    have hiff := Classpath.init_settled_iff h.here later
    obtain ⟨entries, scope⟩ := c
    simp [init, map_eq_done_iff, hiff, children, Node.scope, each_eq_self_iff]
  | entry e =>
    have hiff := ClasspathEntry.init_settled_iff h.here later
    obtain ⟨kind, path, scope⟩ := e
    simp [init, map_eq_done_iff, hiff, children, Node.scope]
  | project p =>
    have hiff := Project.init_settled_iff h later
    obtain ⟨name, path, maven, folders, scope⟩ := p
    simp [init, map_eq_done_iff, hiff, children, Node.scope, each_eq_self_iff]
  | folder f =>
    have hiff := Folder.init_settled_iff h.here later
    obtain ⟨name, path, create, overrideExisting, clean, cleanExclude, scope⟩ := f
    simp [init, map_eq_done_iff, hiff, children, Node.scope]
  | parsers p =>
    have hiff := Parsers.init_settled_iff h.here later
    obtain ⟨parsers, scope⟩ := p
    simp [init, map_eq_done_iff, hiff, children, Node.scope, each_eq_self_iff]
  | parser p =>
    have hiff := Parser.init_settled_iff h.here later
    obtain ⟨name, className, properties, scope⟩ := p
    simp [init, map_eq_done_iff, hiff, children, Node.scope]
  | generators g =>
    have hiff := Generators.init_settled_iff h.here later
    obtain ⟨own, generators, scope⟩ := g
    simp [init, map_eq_done_iff, hiff, children, Node.scope, each_eq_self_iff, routing]
  | generator g =>
    have hiff := Generator.init_settled_iff h.here later
    obtain ⟨name, className, parser, own, properties, artifacts, known, scope⟩ := g
    simp [init, map_eq_done_iff, hiff, children, Node.scope, each_eq_self_iff, routing]
  | artifact a =>
    have hiff := Artifact.init_settled_iff h.here later
    obtain ⟨name, own, targets, known, scope⟩ := a
    simp [init, map_eq_done_iff, hiff, children, Node.scope, each_eq_self_iff, routing]
  | target t =>
    have hiff := Target.init_settled_iff h.here later
    obtain ⟨pattern, own, known, scope⟩ := t
    simp [init, map_eq_done_iff, hiff, children, Node.scope]

theorem init_eq_self_iff_forall (hn : n.height < 4) (h : n.Throughout Settled parent outer) :
    n.init later parent outer = done n ↔ ∀ m ∈ n.all, m.scope.ForwardOnly m.redeclares := by
  induction h with
  | intro here inside ih =>
    rw [init_eq_self_iff hn (.intro here inside), forall_mem_all]
    refine and_congr_right fun _ => forall₂_congr fun c hc => ih c hc ?_
    exact Nat.lt_trans (height_lt_of_mem_children hc) hn

end Node

namespace Plan

/-- A plan whose initialization may be repeated with a root directory. -/
structure Settled (root : String) (p : Plan) : Prop where
  standing : Scope.Standing ∅ (· = rootVariable) (p.scope.declare (rootDeclaration root)) p.scope
  inside : ∀ c ∈ (Node.plan p).children, c.Throughout Node.Settled p.scope.resolved {}

variable {files later : Files} {root : String} {p p' u : Plan}

theorem settled_of_init (hroot : Sealed root) (hs : ∀ n ∈ (Node.plan p).all, n.AllSealed files)
    (hd : ∀ n ∈ (Node.plan p).all, (n.scope.declared.map Variable.name).Nodup)
    (h : p.init files root = done p') : p'.Settled root where
  standing := by
    have hown := (Node.forall_mem_all.mp hs).1
    have hnames : (p.scope.declared.map Variable.name).Nodup := (Node.forall_mem_all.mp hd).1
    exact Scope.Inherits.standing_declare
      ⟨final_empty, Named.nodup_put hnames _, sealed_declare hroot hown, inherit_of_init h⟩
      (Named.mem_put_self _ _) rfl
  inside := by
    refine Node.throughout_of_init_plan (I := NameMap.Final)
      (Q := fun n => n.AllSealed files ∧ (n.scope.declared.map Variable.name).Nodup) ?_ ?_
      (final_of_init hroot (Node.forall_mem_all.mp hs).1 h) (fun n hn => ⟨hs n hn, hd n hn⟩) h
    · intro s hm
      rw [Node.declared_standardFolder]
      exact ⟨Node.allSealed_standardFolder s hm, .nil⟩
    · intro parent outer n n' hf ⟨hs, hd⟩ hi
      exact ⟨hi.final hf hs, hi.settled hf hs hd⟩

theorem Settled.exists_init (h : p.Settled root) (later : Files) :
    ∃ u, p.init later root = done u ∧ u.undeclared = p.undeclared := by
  obtain ⟨s, hs, hr⟩ := h.standing.exists_inherit later
  obtain ⟨hic, hip, hiq, hig⟩ := Node.forall_mem_children_plan.mp h.inside
  obtain ⟨classpath, hclasspath, hc⟩ := Classpath.exists_init later hic
  obtain ⟨projects, hprojects, hp⟩ := exists_each fun q hq => Project.exists_init later (hip q hq)
  obtain ⟨parsers, hparsers, hq⟩ := Parsers.exists_init later hiq
  obtain ⟨generators, hgenerators, hg⟩ := Generators.exists_init later hig
  rw [← hr] at hclasspath hprojects hparsers hgenerators
  refine ⟨_, init_eq_done_iff.mpr ⟨s, classpath, projects, parsers, generators, hs, hclasspath,
    each_eq_done_iff.mp hprojects, hparsers, hgenerators, rfl⟩, ?_⟩
  simp only [undeclared, hc, hp, hq, hg, Scope.undeclared_congr hr]

theorem Settled.init_eq_self_iff (h : p.Settled root) (later : Files) : p.init later root = done p ↔
    ∀ n ∈ (Node.plan p).all, n.scope.ForwardOnly n.redeclares := by
  have hinside : ∀ c ∈ (Node.plan p).children, c.init later p.scope.resolved {} = done c ↔
      ∀ m ∈ c.all, m.scope.ForwardOnly m.redeclares := fun c hc =>
    Node.init_eq_self_iff_forall (Node.height_lt_of_mem_children hc) (h.inside c hc)
  have hown : (p.scope.declare (rootDeclaration root)).inherit later ∅ = done p.scope ↔
      (Node.plan p).scope.ForwardOnly (Node.plan p).redeclares := h.standing.inherit_eq_iff later
  rw [Node.forall_mem_all, ← hown, ← forall₂_congr hinside, init_eq_done_iff,
    Node.forall_mem_children_plan]
  obtain ⟨scope, classpath, projects, parsers, generators⟩ := p
  simp [Node.init, map_eq_done_iff]

end Plan

end GenPlan
