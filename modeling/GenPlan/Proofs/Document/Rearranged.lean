import Mathlib.Logic.Relation
import GenPlan.Proofs.Document.Plan

namespace GenPlan

namespace NodeKind

/-- A change of the nodes inside a node of some kind that nothing read from them shows. -/
inductive Change : NodeKind → List Kdl.Node → List Kdl.Node → Prop
  | swap {kind first second : NodeKind} {a b : Kdl.Node} (before after : List Kdl.Node)
      (ha : kind.member? a = some first) (hb : kind.member? b = some second) (hne : first ≠ second) :
      Change kind (before ++ a :: b :: after) (before ++ b :: a :: after)
  | add {kind : NodeKind} {node : Kdl.Node} (before after : List Kdl.Node)
      (hnode : kind.member? node = none) : Change kind (before ++ after) (before ++ node :: after)
  | inside {kind inner : NodeKind} {name : String} {entries : List Kdl.Entry}
      {nodes nodes' : List Kdl.Node} (before after : List Kdl.Node)
      (hkind : kind.member? (.mk name entries nodes) = some inner) (h : Change inner nodes nodes') :
      Change kind (before ++ .mk name entries nodes :: after) (before ++ .mk name entries nodes' :: after)

/-- Any number of changes, made or undone. -/
def Rearranged (kind : NodeKind) : List Kdl.Node → List Kdl.Node → Prop := Relation.EqvGen kind.Change

def Entity : NodeKind → Type
  | document => Plan
  | declaration => Variable
  | classpath => Classpath
  | entry => ClasspathEntry
  | project => Project
  | folder => Folder
  | parsers => Parsers
  | parser => Parser
  | property => String × String
  | generators => Generators
  | generator => Generator
  | artifact => Artifact
  | target => Target

def entity : (kind : NodeKind) → Kdl.Node → kind.Entity
  | document => fun node => Plan.ofNodes node.children
  | declaration => Variable.ofNode
  | classpath => Classpath.ofNode
  | entry => ClasspathEntry.ofNode
  | project => Project.ofNode
  | folder => Folder.ofNode
  | parsers => Parsers.ofNode
  | parser => Parser.ofNode
  | property => fun node => (node.text 0, node.text 1)
  | generators => Generators.ofNode
  | generator => Generator.ofNode
  | artifact => Artifact.ofNode
  | target => Target.ofNode

/-- All that is taken from a node at its place. -/
structure Outline (kind : NodeKind) where
  name : Option String
  accepted : Prop
  entity : kind.Entity

def outline (kind : NodeKind) (node : Kdl.Node) : kind.Outline :=
  ⟨node.argumentText? 0, Accepted kind node, kind.entity node⟩

def outlines (kind : NodeKind) (nodes : List Kdl.Node) (inner : NodeKind) : List inner.Outline :=
  (kind.pick inner nodes).map inner.outline

variable {kind inner : NodeKind} {nodes nodes' : List Kdl.Node}

theorem fits_iff : kind.Fits nodes ↔ ∀ inner : NodeKind,
    (inner.IsNamed → ((kind.outlines nodes inner).map (·.name)).Nodup) ∧
    (inner.IsBlock → (kind.outlines nodes inner).length ≤ 1) ∧
    ∀ o ∈ kind.outlines nodes inner, o.accepted := by
  have hnames (inner : NodeKind) : (kind.outlines nodes inner).map (·.name) =
      (kind.pick inner nodes).map fun node => node.argumentText? 0 := List.map_map
  have hlength (inner : NodeKind) :
      (kind.outlines nodes inner).length = (kind.pick inner nodes).length := List.length_map _
  simp only [hnames, hlength]
  constructor
  · intro h inner
    refine ⟨(h.apart inner).named, (h.apart inner).block, ?_⟩
    rintro o ho
    obtain ⟨node, hn, rfl⟩ := List.mem_map.mp ho
    exact h.accepted_of_mem_pick hn
  · intro h
    refine ⟨fun inner => ⟨(h inner).1, (h inner).2.1⟩, fun node hn inner hm => ?_⟩
    exact (h inner).2.2 _ (List.mem_map_of_mem (mem_pick.mpr ⟨hn, hm⟩))

theorem map_entity_eq (h : kind.outlines nodes = kind.outlines nodes') (inner : NodeKind) :
    (kind.pick inner nodes).map inner.entity = (kind.pick inner nodes').map inner.entity := by
  have hmap (nodes : List Kdl.Node) :
      (kind.outlines nodes inner).map (·.entity) = (kind.pick inner nodes).map inner.entity :=
    List.map_map
  rw [← hmap, ← hmap, h]

theorem entity_eq_of_outlines_eq (name : String) (entries : List Kdl.Entry)
    (h : kind.outlines nodes = kind.outlines nodes') :
    kind.entity (.mk name entries nodes) = kind.entity (.mk name entries nodes') := by
  have hmap := map_entity_eq h
  have hscope : kind.scope nodes = kind.scope nodes' := congrArg (Scope.mk · ∅) (hmap .declaration)
  have hproperties : kind.propertyMap nodes = kind.propertyMap nodes' :=
    congrArg NameMap.ofList (hmap .property)
  cases kind with
  | declaration | entry | property => rfl
  | document =>
    have hclasspath : (NodeKind.document.pick .classpath nodes).map Classpath.ofNode = _ := hmap .classpath
    have hprojects : (NodeKind.document.pick .project nodes).map Project.ofNode = _ := hmap .project
    have hparsers : (NodeKind.document.pick .parsers nodes).map Parsers.ofNode = _ := hmap .parsers
    have hgenerators : (NodeKind.document.pick .generators nodes).map Generators.ofNode = _ :=
      hmap .generators
    simp only [entity, Kdl.Node.children, Plan.ofNodes, hscope, hclasspath, hprojects, hparsers,
      hgenerators]
    rfl
  | classpath =>
    have hentries : (NodeKind.classpath.pick .entry nodes).map ClasspathEntry.ofNode = _ := hmap .entry
    simp only [entity, Kdl.Node.children, Classpath.ofNode, Classpath.withNodes, hscope, hentries]
    rfl
  | project =>
    have hfolders : (NodeKind.project.pick .folder nodes).map Folder.ofNode = _ := hmap .folder
    simp only [entity, Kdl.Node.children, Project.ofNode, Project.withNodes, hscope, hfolders]
    rfl
  | folder =>
    simp only [entity, Kdl.Node.children, Folder.ofNode, Folder.withNodes, hscope]
    rfl
  | parsers =>
    have hparsers : (NodeKind.parsers.pick .parser nodes).map Parser.ofNode = _ := hmap .parser
    simp only [entity, Kdl.Node.children, Parsers.ofNode, Parsers.withNodes, hscope, hparsers]
    rfl
  | parser =>
    simp only [entity, Kdl.Node.children, Parser.ofNode, Parser.withNodes, hscope, hproperties]
    rfl
  | generators =>
    have hgenerators : (NodeKind.generators.pick .generator nodes).map Generator.ofNode = _ :=
      hmap .generator
    simp only [entity, Kdl.Node.children, Generators.ofNode, Generators.withNodes, hscope, hgenerators]
    rfl
  | generator =>
    have hartifacts : (NodeKind.generator.pick .artifact nodes).map Artifact.ofNode = _ := hmap .artifact
    simp only [entity, Kdl.Node.children, Generator.ofNode, Generator.withNodes, hscope, hproperties,
      hartifacts]
    rfl
  | artifact =>
    have htargets : (NodeKind.artifact.pick .target nodes).map Target.ofNode = _ := hmap .target
    simp only [entity, Kdl.Node.children, Artifact.ofNode, Artifact.withNodes, hscope, htargets]
    rfl
  | target =>
    simp only [entity, Kdl.Node.children, Target.ofNode, Target.withNodes, hscope]
    rfl

theorem outline_eq_of_outlines_eq (name : String) (entries : List Kdl.Entry)
    (h : kind.outlines nodes = kind.outlines nodes') :
    kind.outline (.mk name entries nodes) = kind.outline (.mk name entries nodes') := by
  have hhas : kind.Has (.mk name entries nodes) ↔ kind.Has (.mk name entries nodes') := by
    rw [has_iff, has_iff]
    rfl
  have hfits : kind.Fits nodes ↔ kind.Fits nodes' := by
    rw [fits_iff, fits_iff, h]
  have haccepted : Accepted kind (.mk name entries nodes) ↔ Accepted kind (.mk name entries nodes') := by
    rw [accepted_iff, accepted_iff]
    exact and_congr hhas hfits
  rw [outline, outline, entity_eq_of_outlines_eq name entries h, propext haccepted]
  rfl

theorem pick_append (before after : List Kdl.Node) :
    kind.pick inner (before ++ after) = kind.pick inner before ++ kind.pick inner after :=
  List.filter_append before after

theorem Change.outlines_eq (h : Change kind nodes nodes') :
    kind.outlines nodes = kind.outlines nodes' := by
  induction h with
  | @swap kind first second a b before after ha hb hne =>
    funext inner
    have hpick : kind.pick inner (a :: b :: after) = kind.pick inner (b :: a :: after) := by
      by_cases hinner : first = inner
      · subst hinner
        simp [pick, ha, hb, hne.symm]
      · simp [pick, ha, hinner, List.filter_cons]
    simp only [outlines, pick_append, hpick]
  | @add kind node before after hnode =>
    funext inner
    have hpick : kind.pick inner (node :: after) = kind.pick inner after := by
      simp [pick, hnode]
    simp only [outlines, pick_append, hpick]
  | @inside kind member name entries nodes nodes' before after hkind _ ih =>
    funext inner
    have hnode : member.outline (.mk name entries nodes) = member.outline (.mk name entries nodes') :=
      outline_eq_of_outlines_eq name entries ih
    have hkind' : kind.member? (.mk name entries nodes') = some member := hkind
    have hpick : (kind.pick inner (.mk name entries nodes :: after)).map inner.outline =
        (kind.pick inner (.mk name entries nodes' :: after)).map inner.outline := by
      by_cases hinner : member = inner
      · subst hinner
        simp [pick, hkind, hkind', hnode]
      · simp [pick, hkind, hkind', hinner]
    simp only [outlines, pick_append, List.map_append, hpick]

theorem Rearranged.outlines_eq (h : Rearranged kind nodes nodes') :
    kind.outlines nodes = kind.outlines nodes' := by
  induction h with
  | rel _ _ h => exact h.outlines_eq
  | refl _ => rfl
  | symm _ _ _ ih => exact ih.symm
  | trans _ _ _ _ _ ih ih' => exact ih.trans ih'

end NodeKind

namespace Plan

variable {nodes nodes' : List Kdl.Node}

/-- Only the order within each kind counts: documents that differ in how nodes of different kinds are
mixed, and in nodes that are not recognised, at any depth, are both refused or both the same plan. -/
theorem ofDocument_eq_ok_iff_of_rearranged (h : NodeKind.document.Rearranged nodes nodes') (p : Plan) :
    ofDocument nodes = .ok p ↔ ofDocument nodes' = .ok p := by
  have houtlines := h.outlines_eq
  have hfits : NodeKind.document.Fits nodes ↔ NodeKind.document.Fits nodes' := by
    rw [NodeKind.fits_iff, NodeKind.fits_iff, houtlines]
  have hplan : ofNodes nodes = ofNodes nodes' := NodeKind.entity_eq_of_outlines_eq "" [] houtlines
  rw [ofDocument_eq_ok_iff, ofDocument_eq_ok_iff, hfits, hplan]

def mixedDocument : List Kdl.Node :=
  [.mk "project" [⟨none, .text "app"⟩, ⟨some "path", .text "x"⟩] [],
    .mk "note" [] [.mk "project" [] []],
    .mk "classpath" [] [.mk "bin" [⟨none, .text "b"⟩] [], .mk "variable" [⟨none, .text "v"⟩] []]]

def sortedDocument : List Kdl.Node :=
  [.mk "classpath" [] [.mk "variable" [⟨none, .text "v"⟩] [], .mk "bin" [⟨none, .text "b"⟩] []],
    .mk "project" [⟨none, .text "app"⟩, ⟨some "path", .text "x"⟩] []]

theorem ofDocument_eq_ok_iff_mixed :
    NodeKind.document.Rearranged mixedDocument sortedDocument ∧
    (∃ p, ofDocument mixedDocument = .ok p) ∧
    ∀ p, ofDocument mixedDocument = .ok p ↔ ofDocument sortedDocument = .ok p := by
  let project : Kdl.Node := .mk "project" [⟨none, .text "app"⟩, ⟨some "path", .text "x"⟩] []
  let note : Kdl.Node := .mk "note" [] [.mk "project" [] []]
  let entry : Kdl.Node := .mk "bin" [⟨none, .text "b"⟩] []
  let declaration : Kdl.Node := .mk "variable" [⟨none, .text "v"⟩] []
  let classpath (nodes : List Kdl.Node) : Kdl.Node := .mk "classpath" [] nodes
  have hproject : NodeKind.document.member? project = some .project := rfl
  have hclasspath (nodes : List Kdl.Node) :
      NodeKind.document.member? (classpath nodes) = some .classpath := rfl
  have hnote : NodeKind.document.Change [project, classpath [entry, declaration]] mixedDocument := by
    have hunknown : NodeKind.document.member? note = none := rfl
    exact .add [project] [classpath [entry, declaration]] hunknown
  have hinside : NodeKind.document.Change [project, classpath [entry, declaration]]
      [project, classpath [declaration, entry]] := by
    have hentry : NodeKind.classpath.member? entry = some .entry := rfl
    have hdeclaration : NodeKind.classpath.member? declaration = some .declaration := rfl
    exact .inside [project] [] (hclasspath _) (.swap [] [] hentry hdeclaration (by decide))
  have hswap : NodeKind.document.Change [project, classpath [declaration, entry]] sortedDocument :=
    .swap [] [] hproject (hclasspath _) (by decide)
  have hmixed : NodeKind.document.Rearranged mixedDocument sortedDocument :=
    .trans _ _ _ (.symm _ _ (.rel _ _ hnote)) (.trans _ _ _ (.rel _ _ hinside) (.rel _ _ hswap))
  exact ⟨hmixed, ⟨ofNodes mixedDocument, rfl⟩, ofDocument_eq_ok_iff_of_rearranged hmixed⟩

end Plan

end GenPlan
