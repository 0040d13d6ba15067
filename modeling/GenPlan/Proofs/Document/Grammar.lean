import Mathlib.Data.List.Nodup
import GenPlan.Kdl.Value

namespace GenPlan

def Kdl.Node.IsFlag (node : Kdl.Node) (key : String) : Prop :=
  ∀ value, node.property? key = some value → value.boolean?.isSome

/-- What a node stands for at its place. Around all of them is the document. -/
inductive NodeKind
  | document
  | declaration
  | classpath
  | entry
  | project
  | folder
  | parsers
  | parser
  | property
  | generators
  | generator
  | artifact
  | target
  deriving DecidableEq

namespace NodeKind

/-- What is recognised inside a node, by the names of the nodes there. -/
def members : NodeKind → List (String × NodeKind)
  | document => [("variable", declaration), ("classpath", classpath), ("project", project),
      ("parsers", parsers), ("generators", generators)]
  | classpath => [("variable", declaration), ("bin", entry), ("jar", entry)]
  | project => [("variable", declaration), ("folder", folder)]
  | parsers => [("variable", declaration), ("parser", parser)]
  | parser => [("variable", declaration), ("property", property)]
  | generators => [("variable", declaration), ("generator", generator)]
  | generator => [("variable", declaration), ("property", property), ("artifact", artifact)]
  | artifact => [("variable", declaration), ("target", target)]
  | folder | target => [("variable", declaration)]
  | declaration | entry | property => []

def arguments : NodeKind → Nat
  | declaration | entry | project | folder | parser | generator | artifact => 1
  | property => 2
  | document | classpath | parsers | generators | target => 0

def properties : NodeKind → List String
  | project | folder => ["path"]
  | parser | generator => ["class"]
  | _ => []

def flags : NodeKind → List String
  | project => ["maven"]
  | folder => ["create", "override", "clean"]
  | _ => []

def IsNamed (kind : NodeKind) : Prop :=
  kind ∈ [declaration, project, folder, parser, property, generator, artifact]

def IsBlock (kind : NodeKind) : Prop := kind ∈ [classpath, parsers, generators]

instance : DecidablePred IsNamed := fun _ => inferInstanceAs (Decidable (_ ∈ _))

instance : DecidablePred IsBlock := fun _ => inferInstanceAs (Decidable (_ ∈ _))

variable (kind : NodeKind)

def member? (node : Kdl.Node) : Option NodeKind := kind.members.lookup node.name

/-- The nodes that stand for the same inside a node of this kind, in order. -/
def pick (inner : NodeKind) (nodes : List Kdl.Node) : List Kdl.Node :=
  nodes.filter fun node => kind.member? node = some inner

structure Has (node : Kdl.Node) : Prop where
  arguments : ∀ i < kind.arguments, (node.argumentText? i).isSome
  properties : ∀ key ∈ kind.properties, (node.propertyText? key).isSome
  flags : ∀ key ∈ kind.flags, node.IsFlag key

/-- Of nodes of this kind none is there twice that may not be. -/
structure Apart (nodes : List Kdl.Node) : Prop where
  named : kind.IsNamed → (nodes.map fun node => node.argumentText? 0).Nodup
  block : kind.IsBlock → nodes.length ≤ 1

/-- A node has what its kind needs, and so has all that is recognised inside it. -/
inductive Accepted : NodeKind → Kdl.Node → Prop
  | intro {kind : NodeKind} {node : Kdl.Node} (has : kind.Has node)
      (apart : ∀ inner : NodeKind, inner.Apart (kind.pick inner node.children))
      (inside : ∀ child ∈ node.children, ∀ inner, kind.member? child = some inner →
        Accepted inner child) : Accepted kind node

/-- The nodes are accepted inside a node of this kind. -/
structure Fits (nodes : List Kdl.Node) : Prop where
  apart : ∀ inner : NodeKind, inner.Apart (kind.pick inner nodes)
  accepted : ∀ node ∈ nodes, ∀ inner, kind.member? node = some inner → Accepted inner node

variable {kind} {inner other : NodeKind} {node : Kdl.Node} {nodes : List Kdl.Node}

theorem accepted_iff : Accepted kind node ↔ kind.Has node ∧ kind.Fits node.children := by
  constructor
  · rintro ⟨has, apart, inside⟩
    exact ⟨has, apart, inside⟩
  · rintro ⟨has, fits⟩
    exact .intro has fits.apart fits.accepted

theorem mem_pick : node ∈ kind.pick inner nodes ↔ node ∈ nodes ∧ kind.member? node = some inner := by
  simp [pick]

theorem member?_eq_none_iff : kind.member? node = none ↔ ∀ m ∈ kind.members, node.name ≠ m.1 := by
  simp [member?, List.lookup_eq_none_iff]

theorem mem_members_of_member? (h : kind.member? node = some inner) :
    (node.name, inner) ∈ kind.members := by
  obtain ⟨before, after, hsplit, -⟩ := List.lookup_eq_some_iff.mp h
  rw [hsplit]
  exact List.mem_append_right before List.mem_cons_self

theorem Fits.accepted_of_mem_pick (h : kind.Fits nodes) (hn : node ∈ kind.pick inner nodes) :
    Accepted inner node :=
  h.accepted node (mem_pick.mp hn).1 inner (mem_pick.mp hn).2

theorem Fits.inside (h : kind.Fits nodes) (hn : node ∈ kind.pick inner nodes) :
    inner.Fits node.children :=
  (accepted_iff.mp (h.accepted_of_mem_pick hn)).2

theorem has_iff : kind.Has node ↔ (∀ i < kind.arguments, (node.argumentText? i).isSome) ∧
    (∀ key ∈ kind.properties, (node.propertyText? key).isSome) ∧
    ∀ key ∈ kind.flags, node.IsFlag key :=
  ⟨fun ⟨arguments, properties, flags⟩ => ⟨arguments, properties, flags⟩,
    fun ⟨arguments, properties, flags⟩ => ⟨arguments, properties, flags⟩⟩

theorem fits_of_members_eq_nil (h : kind.members = []) (nodes : List Kdl.Node) : kind.Fits nodes := by
  have hnone (node : Kdl.Node) : kind.member? node = none := by simp [member?, h]
  refine ⟨fun inner => ?_, fun node _ inner hi => by simp [hnone] at hi⟩
  have hpick : kind.pick inner nodes = [] := by simp [pick, hnone]
  rw [hpick]
  exact ⟨fun _ => .nil, fun _ => Nat.zero_le 1⟩

theorem Accepted.isSome_name (h : Accepted kind node) (hn : kind.IsNamed) :
    (node.argumentText? 0).isSome := by
  refine (accepted_iff.mp h).1.arguments 0 ?_
  revert hn
  cases kind <;> decide

section Concat

theorem pick_concat_self (h : kind.member? node = some inner) :
    kind.pick inner (nodes ++ [node]) = kind.pick inner nodes ++ [node] := by
  simp [pick, h]

theorem pick_concat_of_ne (h : kind.member? node ≠ some inner) :
    kind.pick inner (nodes ++ [node]) = kind.pick inner nodes := by
  simp [pick, h]

theorem apart_concat : kind.Apart (nodes ++ [node]) ↔ kind.Apart nodes ∧
    (kind.IsNamed → node.argumentText? 0 ∉ nodes.map fun node => node.argumentText? 0) ∧
    (kind.IsBlock → nodes = []) := by
  have hnamed : ((nodes ++ [node]).map fun node => node.argumentText? 0).Nodup ↔
      (nodes.map fun node => node.argumentText? 0).Nodup ∧
        node.argumentText? 0 ∉ nodes.map fun node => node.argumentText? 0 := by
    rw [List.map_append, List.map_singleton, ← List.concat_eq_append, List.nodup_concat]
    exact and_comm
  have hblock : (nodes ++ [node]).length ≤ 1 ↔ nodes = [] := by
    simp
  constructor
  · rintro ⟨named, block⟩
    refine ⟨⟨fun h => (hnamed.mp (named h)).1, fun h => ?_⟩, fun h => (hnamed.mp (named h)).2,
      fun h => hblock.mp (block h)⟩
    simp [hblock.mp (block h)]
  · rintro ⟨⟨named, -⟩, hnew, hempty⟩
    exact ⟨fun h => hnamed.mpr ⟨named h, hnew h⟩, fun h => hblock.mpr (hempty h)⟩

theorem fits_nil : kind.Fits [] where
  apart _ := ⟨fun _ => .nil, fun _ => Nat.zero_le 1⟩
  accepted := List.forall_mem_nil _

theorem fits_concat_of_not_member (h : kind.member? node = none) :
    kind.Fits (nodes ++ [node]) ↔ kind.Fits nodes := by
  have hpick (inner : NodeKind) : kind.pick inner (nodes ++ [node]) = kind.pick inner nodes :=
    pick_concat_of_ne (by simp [h])
  constructor
  · rintro ⟨apart, accepted⟩
    exact ⟨fun inner => hpick inner ▸ apart inner, fun n hn => accepted n (List.mem_append_left _ hn)⟩
  · rintro ⟨apart, accepted⟩
    refine ⟨fun inner => (hpick inner).symm ▸ apart inner, ?_⟩
    rw [List.forall_mem_append, List.forall_mem_singleton]
    exact ⟨accepted, by simp [h]⟩

theorem fits_concat_of_member (h : kind.member? node = some inner) :
    kind.Fits (nodes ++ [node]) ↔ kind.Fits nodes ∧ Accepted inner node ∧
      (inner.IsNamed →
        node.argumentText? 0 ∉ (kind.pick inner nodes).map fun node => node.argumentText? 0) ∧
      (inner.IsBlock → kind.pick inner nodes = []) := by
  have hself : inner.Apart (kind.pick inner (nodes ++ [node])) ↔ _ :=
    pick_concat_self h ▸ apart_concat
  have hother {other : NodeKind} (hne : inner ≠ other) :
      kind.pick other (nodes ++ [node]) = kind.pick other nodes :=
    pick_concat_of_ne (by simp [h, hne])
  constructor
  · rintro ⟨apart, accepted⟩
    obtain ⟨hapart, hnew⟩ := hself.mp (apart inner)
    refine ⟨⟨fun other => ?_, fun n hn => accepted n (List.mem_append_left _ hn)⟩,
      accepted node List.mem_concat_self inner h, hnew⟩
    by_cases hne : inner = other
    · exact hne ▸ hapart
    · exact hother hne ▸ apart other
  · rintro ⟨⟨apart, accepted⟩, hnode, hnew⟩
    refine ⟨fun other => ?_, ?_⟩
    · by_cases hne : inner = other
      · exact hne ▸ hself.mpr ⟨apart inner, hnew⟩
      · exact (hother hne).symm ▸ apart other
    · rw [List.forall_mem_append, List.forall_mem_singleton]
      refine ⟨accepted, fun other ho => ?_⟩
      obtain rfl : inner = other := Option.some.inj (h.symm.trans ho)
      exact hnode

theorem Fits.of_concat (h : kind.Fits (nodes ++ [node])) : kind.Fits nodes := by
  cases hm : kind.member? node with
  | none => exact (fits_concat_of_not_member hm).mp h
  | some inner => exact ((fits_concat_of_member hm).mp h).1

end Concat

end NodeKind

end GenPlan
