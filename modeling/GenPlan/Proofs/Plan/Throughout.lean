import GenPlan.Plan.Node
import GenPlan.Proofs.Plan.Initialized

namespace GenPlan

open Progress

namespace Routing

def texts (routing : Routing) : List String := routing.project.toList ++ routing.folder.toList

@[simp]
theorem texts_map (f : String → String) (routing : Routing) :
    (routing.map f).texts = routing.texts.map f := by
  simp [texts, map, Option.toList_map]

end Routing

namespace NameMap

def values {α : Type} (m : NameMap α) : List α := m.entries.map Prod.snd

@[simp]
theorem values_mapValues {α β : Type} (f : α → β) (m : NameMap α) :
    (m.mapValues f).values = m.values.map f := by
  simp [values, mapValues, Function.comp_def]

end NameMap

namespace Node

def texts : Node → List String
  | plan _ | classpath _ | parsers _ => []
  | entry e => [e.path]
  | project p => [p.name, p.path]
  | folder f => f.name :: f.path :: f.cleanExclude.text.toList
  | parser p => p.name :: p.className :: p.properties.values
  | generators g => g.routing.texts
  | generator g => g.name :: g.className :: (g.parser.toList ++ g.routing.texts ++ g.properties.values)
  | artifact a => a.name :: a.routing.texts
  | target t => t.pattern.text.toList ++ t.routing.texts

def routing : Node → Routing
  | generators g => Routed.defined g
  | generator g => Routed.defined g
  | artifact a => Routed.defined a
  | target t => Routed.defined t
  | _ => {}

/-- The rest of what an initialization establishes: patterns are compiled, no standard folder is missing
and the routing around is known. -/
def Prepared (outer : Routing) : Node → Prop
  | project p => Project.missing p.maven p.folders = []
  | folder f => f.cleanExclude.Compiled
  | generator g => g.outer = outer
  | artifact a => a.outer = outer
  | target t => t.outer = outer ∧ t.pattern.Compiled
  | _ => True

theorem all_eq (node : Node) : node.all = node :: node.children.flatMap all := by
  rw [all, List.flatMap_subtype (fun _ _ => rfl), List.unattach_attach]

theorem forall_mem_all {P : Node → Prop} {node : Node} :
    (∀ m ∈ node.all, P m) ↔ P node ∧ ∀ c ∈ node.children, ∀ m ∈ c.all, P m := by
  rw [all_eq, List.forall_mem_cons]
  simp only [List.mem_flatMap, forall_exists_index, and_imp]
  exact and_congr_right fun _ => ⟨fun h c hc m hm => h m c hc hm, fun h m c hc hm => h c hc m hm⟩

def down : Nat → Node → List Node
  | 0, node => [node]
  | depth + 1, node => node :: node.children.flatMap (down depth)

theorem all_eq_down {depth : Nat} {node : Node} (h : node.height ≤ depth) :
    node.all = node.down depth := by
  induction depth generalizing node with
  | zero =>
    have hnone : node.children = [] := List.eq_nil_iff_forall_not_mem.mpr fun c hc =>
      Nat.not_lt_zero _ (Nat.lt_of_lt_of_le (height_lt_of_mem_children hc) h)
    rw [all_eq, hnone, down, List.flatMap_nil]
  | succ depth ih =>
    rw [all_eq, down]
    congr 1
    refine List.flatMap_congr fun c hc => ih ?_
    exact Nat.le_of_lt_succ (Nat.lt_of_lt_of_le (height_lt_of_mem_children hc) h)

theorem all_plan (p : Plan) : (plan p).all = (plan p).down 4 := all_eq_down (Nat.le_refl 4)

theorem forall_mem_children_plan {P : Node → Prop} {p : Plan} :
    (∀ c ∈ (plan p).children, P c) ↔ P (classpath p.classpath) ∧ (∀ q ∈ p.projects, P (project q)) ∧
      P (parsers p.parsers) ∧ P (generators p.generators) := by
  simp [children, or_imp, forall_and]

variable {files : Files} {parent : NameMap String} {outer : Routing} {n n' : Node}

/-- What the initialization of an entity comes to, apart from the insides of those it is around. -/
structure Initialized (files : Files) (parent : NameMap String) (outer : Routing) (n n' : Node) :
    Prop where
  inherits : n.scope.inherit files parent = done n'.scope
  texts : n'.texts = n.texts.map n'.scope.replace
  prepared : n'.Prepared outer
  children : ∀ c' ∈ n'.children, ∃ c,
    (c ∈ n.children ∨ ∃ s ∈ StandardFolder.all, c = folder s.folder) ∧
      c.init files n'.scope.resolved n'.routing = done c'

theorem exists_of_forall₂ {α : Type} {f : α → Progress InitError α} {as bs : List α}
    {known : NameMap String} {routing : Routing}
    (h : List.Forall₂ (fun a b => f a = done b) as bs) (node : α → Node)
    (hinit : ∀ a, (node a).init files known routing = (f a).map node) :
    ∀ c' ∈ bs.map node, ∃ c, (c ∈ as.map node ∨ ∃ s ∈ StandardFolder.all, c = folder s.folder) ∧
      c.init files known routing = done c' := by
  intro c' hc
  obtain ⟨b, hb, rfl⟩ := List.mem_map.mp hc
  obtain ⟨a, ha, hab⟩ := h.exists_of_mem_right hb
  exact ⟨node a, .inl (List.mem_map_of_mem ha), hinit a ▸ map_eq_done_iff.mpr ⟨b, hab, rfl⟩⟩

theorem missing_append {maven : Bool} {folders added : List Folder} {known : NameMap String}
    (h : List.Forall₂ (fun t f => Folder.init files known (StandardFolder.folder t) = done f)
      (Project.missing maven folders) added) : Project.missing maven (folders ++ added) = [] := by
  refine List.eq_nil_iff_forall_not_mem.mpr fun s hs => ?_
  obtain ⟨hmaven, hall, hnew⟩ := Project.mem_missing_iff.mp hs
  rw [List.forall_mem_append] at hnew
  have hmissing : s ∈ Project.missing maven folders :=
    Project.mem_missing_iff.mpr ⟨hmaven, hall, hnew.1⟩
  obtain ⟨f, hf, hinit⟩ := h.exists_of_mem_left hmissing
  exact hnew.2 f hf (s.name_of_init (StandardFolder.references_name s hall) hinit)

theorem initialized_of_init (hn : n'.height < 4) (h : n.init files parent outer = done n') :
    Initialized files parent outer n n' := by
  cases n with
  | plan p =>
    cases done_inj.mp h
    exact absurd hn (Nat.lt_irrefl 4)
  | classpath c =>
    obtain ⟨_, hc, rfl⟩ := map_eq_done_iff.mp h
    obtain ⟨s, entries, hs, hentries, rfl⟩ := Classpath.init_eq_done_iff.mp hc
    exact ⟨hs, rfl, trivial, exists_of_forall₂ hentries entry fun _ => rfl⟩
  | entry e =>
    obtain ⟨_, he, rfl⟩ := map_eq_done_iff.mp h
    obtain ⟨s, hs, rfl⟩ := ClasspathEntry.init_eq_done_iff.mp he
    exact ⟨hs, rfl, trivial, List.forall_mem_nil _⟩
  | project p =>
    obtain ⟨_, hp, rfl⟩ := map_eq_done_iff.mp h
    obtain ⟨s, declared, added, hs, hdeclared, hadded, rfl⟩ := Project.init_eq_done_iff.mp hp
    refine ⟨hs, rfl, missing_append hadded, fun c' hc => ?_⟩
    obtain ⟨f, hf, rfl⟩ := List.mem_map.mp hc
    obtain hf | hf := List.mem_append.mp hf
    · obtain ⟨g, hg, hinit⟩ := hdeclared.exists_of_mem_right hf
      exact ⟨folder g, .inl (List.mem_map_of_mem hg), map_eq_done_iff.mpr ⟨f, hinit, rfl⟩⟩
    · obtain ⟨t, ht, hinit⟩ := hadded.exists_of_mem_right hf
      exact ⟨folder t.folder, .inr ⟨t, (Project.mem_missing_iff.mp ht).2.1, rfl⟩,
        map_eq_done_iff.mpr ⟨f, hinit, rfl⟩⟩
  | folder f =>
    obtain ⟨_, hf, rfl⟩ := map_eq_done_iff.mp h
    obtain ⟨s, exclude, hs, htext, hcompiled, rfl⟩ := Folder.init_eq_done_iff.mp hf
    refine ⟨hs, ?_, hcompiled, List.forall_mem_nil _⟩
    simp [texts, htext, scope, Option.toList_map]
  | parsers p =>
    obtain ⟨_, hp, rfl⟩ := map_eq_done_iff.mp h
    obtain ⟨s, members, hs, hmembers, rfl⟩ := Parsers.init_eq_done_iff.mp hp
    exact ⟨hs, rfl, trivial, exists_of_forall₂ hmembers parser fun _ => rfl⟩
  | parser p =>
    obtain ⟨_, hp, rfl⟩ := map_eq_done_iff.mp h
    obtain ⟨s, hs, rfl⟩ := Parser.init_eq_done_iff.mp hp
    refine ⟨hs, ?_, trivial, List.forall_mem_nil _⟩
    simp [texts, scope]
  | generators g =>
    obtain ⟨_, hg, rfl⟩ := map_eq_done_iff.mp h
    obtain ⟨s, members, hs, hmembers, rfl⟩ := Generators.init_eq_done_iff.mp hg
    refine ⟨hs, ?_, trivial, exists_of_forall₂ hmembers generator fun _ => rfl⟩
    simp [texts, scope]
  | generator g =>
    obtain ⟨_, hg, rfl⟩ := map_eq_done_iff.mp h
    obtain ⟨s, artifacts, hs, hartifacts, rfl⟩ := Generator.init_eq_done_iff.mp hg
    refine ⟨hs, ?_, rfl, exists_of_forall₂ hartifacts artifact fun _ => rfl⟩
    simp [texts, scope, Option.toList_map]
  | artifact a =>
    obtain ⟨_, ha, rfl⟩ := map_eq_done_iff.mp h
    obtain ⟨s, targets, hs, htargets, rfl⟩ := Artifact.init_eq_done_iff.mp ha
    refine ⟨hs, ?_, rfl, exists_of_forall₂ htargets target fun _ => rfl⟩
    simp [texts, scope]
  | target t =>
    obtain ⟨_, ht, rfl⟩ := map_eq_done_iff.mp h
    obtain ⟨s, pattern, hs, htext, hcompiled, rfl⟩ := Target.init_eq_done_iff.mp ht
    refine ⟨hs, ?_, ⟨rfl, hcompiled⟩, List.forall_mem_nil _⟩
    simp [texts, htext, scope, Option.toList_map]

/-- A property of an entity and of all that it is around, given what each of them inherits from the
entity around it. -/
inductive Throughout (P : NameMap String → Routing → Node → Prop) :
    NameMap String → Routing → Node → Prop
  | intro {parent : NameMap String} {outer : Routing} {n : Node} (here : P parent outer n)
      (inside : ∀ c ∈ n.children, Throughout P n.scope.resolved n.routing c) :
      Throughout P parent outer n

variable {P : NameMap String → Routing → Node → Prop}

theorem Throughout.here (h : Throughout P parent outer n) : P parent outer n := by
  cases h with
  | intro here _ => exact here

theorem Throughout.inside (h : Throughout P parent outer n) :
    ∀ c ∈ n.children, Throughout P n.scope.resolved n.routing c := by
  cases h with
  | intro _ inside => exact inside

theorem Throughout.forall_mem_all {Q : Node → Prop} (h : Throughout P parent outer n)
    (hQ : ∀ parent outer n, P parent outer n → Q n) : ∀ m ∈ n.all, Q m := by
  induction h with
  | intro here _ ih => exact Node.forall_mem_all.mpr ⟨hQ _ _ _ here, ih⟩

theorem all_standardFolder (s : StandardFolder) : (folder s.folder).all = [folder s.folder] := by
  rw [all_eq]
  rfl

section Step

variable {I : NameMap String → Prop} {Q : Node → Prop}
  (hstandard : ∀ s ∈ StandardFolder.all, Q (folder s.folder))
  (hstep : ∀ {parent : NameMap String} {outer : Routing} {n n' : Node}, I parent → Q n →
    Initialized files parent outer n n' → I n'.scope.resolved ∧ P parent outer n')
include hstandard hstep

/-- What one level establishes from what the entity was and from what it inherits holds throughout. -/
theorem throughout_of_init (hn : n'.height < 4) (hI : I parent) (hQ : ∀ m ∈ n.all, Q m)
    (h : n.init files parent outer = done n') : Throughout P parent outer n' := by
  induction hk : n'.height using Nat.strongRecOn generalizing n n' parent outer with
  | ind k ih =>
    have hlevel := initialized_of_init hn h
    obtain ⟨hown, hinner⟩ := Node.forall_mem_all.mp hQ
    obtain ⟨hresolved, hP⟩ := hstep hI hown hlevel
    refine .intro hP fun c' hc => ?_
    obtain ⟨c, hfrom, hinit⟩ := hlevel.children c' hc
    have hlt := height_lt_of_mem_children hc
    refine ih c'.height (hk ▸ hlt) (Nat.lt_trans hlt hn) hresolved ?_ hinit rfl
    obtain hmem | ⟨s, hs, rfl⟩ := hfrom
    · exact hinner c hmem
    · rw [all_standardFolder, List.forall_mem_singleton]
      exact hstandard s hs

theorem throughout_of_init_plan {root : String} {p p' : Plan} (hI : I p'.scope.resolved)
    (hQ : ∀ m ∈ (plan p).all, Q m) (h : p.init files root = done p') :
    ∀ c ∈ (plan p').children, Throughout P p'.scope.resolved {} c := by
  have hinner := (Node.forall_mem_all.mp hQ).2
  obtain ⟨hQc, hQp, hQq, hQg⟩ := forall_mem_children_plan.mp hinner
  obtain ⟨s, classpath', projects', parsers', generators', -, hc, hp, hq, hg, rfl⟩ :=
    Plan.init_eq_done_iff.mp h
  have hmember {c c' : Node} (hn : c'.height < 4) (hQ : ∀ m ∈ c.all, Q m)
      (hinit : c.init files s.resolved {} = done c') : Throughout P s.resolved {} c' :=
    throughout_of_init hstandard hstep hn hI hQ hinit
  refine forall_mem_children_plan.mpr ⟨?_, fun q' hq' => ?_, ?_, ?_⟩
  · exact hmember (show 1 < 4 by decide) hQc (map_eq_done_iff.mpr ⟨_, hc, rfl⟩)
  · obtain ⟨q, hmem, hinit⟩ := hp.exists_of_mem_right hq'
    exact hmember (show 1 < 4 by decide) (hQp q hmem) (map_eq_done_iff.mpr ⟨_, hinit, rfl⟩)
  · exact hmember (show 1 < 4 by decide) hQq (map_eq_done_iff.mpr ⟨_, hq, rfl⟩)
  · exact hmember (show 3 < 4 by decide) hQg (map_eq_done_iff.mpr ⟨_, hg, rfl⟩)

end Step

end Node

end GenPlan
