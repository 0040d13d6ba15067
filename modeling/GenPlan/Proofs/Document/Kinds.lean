import GenPlan.Proofs.Document.Rearranged

namespace GenPlan

namespace NodeKind

/-- What there is of an entity while the nodes inside its node are read. -/
def Sofar : NodeKind → Type
  | document => Reading.Draft
  | kind => kind.Entity

def header : (kind : NodeKind) → Kdl.Node → Reading kind.Sofar
  | document => fun _ => .ok ({} : Reading.Draft)
  | declaration => Reading.declaration
  | classpath => fun _ => .ok ({} : Classpath)
  | entry => Reading.entryHeader
  | project => Reading.projectHeader
  | folder => Reading.folderHeader
  | parsers => fun _ => .ok ({} : Parsers)
  | parser => Reading.parserHeader
  | property => Reading.propertyHeader
  | generators => fun node => .ok (Reading.generatorsHeader node)
  | generator => Reading.generatorHeader
  | artifact => Reading.artifactHeader
  | target => fun node => .ok (Reading.targetHeader node)

def add : (kind : NodeKind) → kind.Sofar → Kdl.Node → Reading kind.Sofar
  | document => Reading.addToDraft
  | classpath => Reading.addToClasspath
  | project => Reading.addToProject
  | folder => Reading.addToFolder
  | parsers => Reading.addToParsers
  | parser => Reading.addToParser
  | generators => Reading.addToGenerators
  | generator => Reading.addToGenerator
  | artifact => Reading.addToArtifact
  | target => Reading.addToTarget
  | declaration | entry | property => fun a _ => .ok a

def read (kind : NodeKind) (node : Kdl.Node) : Reading kind.Sofar :=
  kind.header node >>= node.children.foldlM kind.add

variable {node : Kdl.Node}

theorem bind_foldlM_ok {α : Type} (r : Reading α) (nodes : List Kdl.Node) :
    (r >>= nodes.foldlM fun a _ => .ok a) = r := by
  have hfold (a : α) : nodes.foldlM (fun a _ => (.ok a : Reading α)) a = pure a := by
    induction nodes with
    | nil => rfl
    | cons node nodes ih => exact ih
  exact (bind_congr hfold).trans (bind_pure r)

theorem read_declaration_eq : declaration.read node = Reading.declaration node := bind_foldlM_ok _ _

theorem read_entry_eq : entry.read node = Reading.entryHeader node := bind_foldlM_ok _ _

theorem read_property_eq : property.read node = Reading.propertyHeader node := bind_foldlM_ok _ _

/-- Nodes of one name are all added as what they are read as, or all refused alike. -/
inductive Follows {α : Type} (inner : NodeKind) (name : String) (add : Kdl.Node → Reading α) : Prop
  | reads (f : inner.Sofar → Reading α)
      (h : ∀ node, node.name = name → add node = inner.read node >>= f)
  | refused (e : DocumentError) (h : ∀ node, node.name = name → add node = .error e)

section Follows

variable {α β : Type} {kind inner : NodeKind} {name : String} {add add' : Kdl.Node → Reading α}

theorem Follows.congr (h : ∀ node, node.name = name → add' node = add node)
    (hadd : inner.Follows name add) : inner.Follows name add' := by
  cases hadd with
  | reads f hf => exact .reads f fun node hn => (h node hn).trans (hf node hn)
  | refused e he => exact .refused e fun node hn => (h node hn).trans (he node hn)

theorem Follows.bind (hadd : inner.Follows name add) (g : α → Reading β) :
    inner.Follows name fun node => add node >>= g := by
  cases hadd with
  | reads f hf =>
    apply Follows.reads fun a => f a >>= g
    intro node hn
    rw [hf node hn, bind_assoc]
  | refused e he =>
    apply Follows.refused e
    intro node hn
    rw [he node hn]
    rfl

theorem follows_addVariable [Scoped α] (a : α) (name : String) :
    declaration.Follows name (Reading.addVariable a) := by
  apply Follows.reads
  intro node _
  rw [read_declaration_eq]
  exact rfl

theorem follows_addProperty (properties : NameMap String) (name : String) :
    property.Follows name (Reading.addProperty properties) := by
  apply Follows.reads
  intro node _
  rw [read_property_eq]
  exact rfl

theorem follows_addToTarget (h : (name, inner) ∈ target.members) (t : Target) :
    inner.Follows name (Reading.addToTarget t) := by
  obtain ⟨rfl, rfl⟩ : name = "variable" ∧ inner = declaration := by simpa [members] using h
  apply (follows_addVariable t _).congr
  intro node hn
  exact if_pos hn

theorem follows_addToArtifact (h : (name, inner) ∈ artifact.members) (a : Artifact) :
    inner.Follows name (Reading.addToArtifact a) := by
  simp only [members, List.mem_cons, Prod.mk.injEq, List.not_mem_nil, or_false] at h
  obtain ⟨rfl, rfl⟩ | ⟨rfl, rfl⟩ := h
  · apply (follows_addVariable a _).congr
    intro node hn
    simp only [Reading.addToArtifact, hn]
  · apply Follows.reads
    intro node hn
    simp only [Reading.addToArtifact, hn]
    exact rfl

theorem follows_addToGenerator (h : (name, inner) ∈ generator.members) (g : Generator) :
    inner.Follows name (Reading.addToGenerator g) := by
  simp only [members, List.mem_cons, Prod.mk.injEq, List.not_mem_nil, or_false] at h
  obtain ⟨rfl, rfl⟩ | ⟨rfl, rfl⟩ | ⟨rfl, rfl⟩ := h
  · apply (follows_addVariable g _).congr
    intro node hn
    simp only [Reading.addToGenerator, hn]
  · apply ((follows_addProperty g.properties _).bind _).congr
    intro node hn
    simp only [Reading.addToGenerator, hn]
    exact rfl
  · apply Follows.reads
    intro node hn
    simp only [Reading.addToGenerator, hn]
    exact rfl

theorem follows_addToGenerators (h : (name, inner) ∈ generators.members) (g : Generators) :
    inner.Follows name (Reading.addToGenerators g) := by
  simp only [members, List.mem_cons, Prod.mk.injEq, List.not_mem_nil, or_false] at h
  obtain ⟨rfl, rfl⟩ | ⟨rfl, rfl⟩ := h
  · apply (follows_addVariable g _).congr
    intro node hn
    simp only [Reading.addToGenerators, hn]
  · apply Follows.reads
    intro node hn
    simp only [Reading.addToGenerators, hn]
    exact rfl

theorem follows_addToParser (h : (name, inner) ∈ parser.members) (p : Parser) :
    inner.Follows name (Reading.addToParser p) := by
  simp only [members, List.mem_cons, Prod.mk.injEq, List.not_mem_nil, or_false] at h
  obtain ⟨rfl, rfl⟩ | ⟨rfl, rfl⟩ := h
  · apply (follows_addVariable p _).congr
    intro node hn
    simp only [Reading.addToParser, hn]
  · apply ((follows_addProperty p.properties _).bind _).congr
    intro node hn
    simp only [Reading.addToParser, hn]
    exact rfl

theorem follows_addToParsers (h : (name, inner) ∈ parsers.members) (p : Parsers) :
    inner.Follows name (Reading.addToParsers p) := by
  simp only [members, List.mem_cons, Prod.mk.injEq, List.not_mem_nil, or_false] at h
  obtain ⟨rfl, rfl⟩ | ⟨rfl, rfl⟩ := h
  · apply (follows_addVariable p _).congr
    intro node hn
    simp only [Reading.addToParsers, hn]
  · apply Follows.reads
    intro node hn
    simp only [Reading.addToParsers, hn]
    exact rfl

theorem follows_addToFolder (h : (name, inner) ∈ folder.members) (f : Folder) :
    inner.Follows name (Reading.addToFolder f) := by
  obtain ⟨rfl, rfl⟩ : name = "variable" ∧ inner = declaration := by simpa [members] using h
  apply (follows_addVariable f _).congr
  intro node hn
  exact if_pos hn

theorem follows_addToProject (h : (name, inner) ∈ project.members) (p : Project) :
    inner.Follows name (Reading.addToProject p) := by
  simp only [members, List.mem_cons, Prod.mk.injEq, List.not_mem_nil, or_false] at h
  obtain ⟨rfl, rfl⟩ | ⟨rfl, rfl⟩ := h
  · apply (follows_addVariable p _).congr
    intro node hn
    simp only [Reading.addToProject, hn]
  · apply Follows.reads
    intro node hn
    simp only [Reading.addToProject, hn]
    exact rfl

theorem follows_addToClasspath (h : (name, inner) ∈ classpath.members) (c : Classpath) :
    inner.Follows name (Reading.addToClasspath c) := by
  simp only [members, List.mem_cons, Prod.mk.injEq, List.not_mem_nil, or_false] at h
  obtain ⟨rfl, rfl⟩ | ⟨rfl, rfl⟩ | ⟨rfl, rfl⟩ := h
  · apply (follows_addVariable c _).congr
    intro node hn
    simp only [Reading.addToClasspath, hn]
  all_goals
    apply Follows.reads
    intro node hn
    simp only [Reading.addToClasspath, hn, read_entry_eq]
    exact rfl

theorem follows_addToPlan (h : (name, inner) ∈ document.members) (p : Plan) :
    inner.Follows name (Reading.addToPlan p) := by
  simp only [members, List.mem_cons, Prod.mk.injEq, List.not_mem_nil, or_false] at h
  obtain ⟨rfl, rfl⟩ | ⟨rfl, rfl⟩ | ⟨rfl, rfl⟩ | ⟨rfl, rfl⟩ | ⟨rfl, rfl⟩ := h
  · apply (follows_addVariable p _).congr
    intro node hn
    simp only [Reading.addToPlan, hn]
  all_goals
    apply Follows.reads
    intro node hn
    simp only [Reading.addToPlan, hn]
    exact rfl

theorem follows_addToDraft (h : (name, inner) ∈ document.members) (d : Reading.Draft) :
    inner.Follows name (Reading.addToDraft d) := by
  by_cases hagain : Reading.isBlock name ∧ name ∈ d.blocks
  · apply Follows.refused (.duplicateBlock name)
    intro node hn
    simp only [Reading.addToDraft, hn, if_pos hagain]
    rfl
  · apply ((follows_addToPlan h d.plan).bind _).congr
    intro node hn
    simp only [Reading.addToDraft, hn, if_neg hagain]
    exact rfl

/-- Of a node that is recognised nothing counts but its name and what it is read as. -/
theorem follows_add {node : Kdl.Node} (h : kind.member? node = some inner) (a : kind.Sofar) :
    inner.Follows node.name (kind.add a) := by
  have hm := mem_members_of_member? h
  cases kind with
  | document => exact follows_addToDraft hm a
  | classpath => exact follows_addToClasspath hm a
  | project => exact follows_addToProject hm a
  | folder => exact follows_addToFolder hm a
  | parsers => exact follows_addToParsers hm a
  | parser => exact follows_addToParser hm a
  | generators => exact follows_addToGenerators hm a
  | generator => exact follows_addToGenerator hm a
  | artifact => exact follows_addToArtifact hm a
  | target => exact follows_addToTarget hm a
  | declaration | entry | property => cases hm

theorem add_of_member?_eq_none {node : Kdl.Node} (h : kind.member? node = none) (a : kind.Sofar) :
    kind.add a node = .ok a := by
  have hname := member?_eq_none_iff.mp h
  cases kind with
  | declaration | entry | property => rfl
  | folder | target => exact if_neg (hname _ List.mem_cons_self)
  | document =>
    have hplan : Reading.addToPlan a.plan node = .ok a.plan := by
      unfold Reading.addToPlan
      split <;> simp_all [members, pure, Except.pure]
    have hblock : Reading.isBlock node.name = false := by
      simp_all [members, Reading.isBlock]
    simp only [add, Reading.addToDraft, hplan, hblock]
    rfl
  | classpath =>
    show Reading.addToClasspath a node = .ok a
    unfold Reading.addToClasspath
    split <;> simp_all [members, pure, Except.pure]
  | project =>
    show Reading.addToProject a node = .ok a
    unfold Reading.addToProject
    split <;> simp_all [members, pure, Except.pure]
  | parsers =>
    show Reading.addToParsers a node = .ok a
    unfold Reading.addToParsers
    split <;> simp_all [members, pure, Except.pure]
  | parser =>
    show Reading.addToParser a node = .ok a
    unfold Reading.addToParser
    split <;> simp_all [members, pure, Except.pure]
  | generators =>
    show Reading.addToGenerators a node = .ok a
    unfold Reading.addToGenerators
    split <;> simp_all [members, pure, Except.pure]
  | generator =>
    show Reading.addToGenerator a node = .ok a
    unfold Reading.addToGenerator
    split <;> simp_all [members, pure, Except.pure]
  | artifact =>
    show Reading.addToArtifact a node = .ok a
    unfold Reading.addToArtifact
    split <;> simp_all [members, pure, Except.pure]

end Follows

end NodeKind

end GenPlan
