import Mathlib.Data.List.Induction
import GenPlan.Proofs.Document.Entity
import GenPlan.Proofs.Named
import GenPlan.Proofs.NameMap

namespace GenPlan

open NodeKind

namespace Reading

variable {α β : Type} {node : Kdl.Node} {nodes : List Kdl.Node}

theorem bind_eq_ok_iff {x : Reading α} {f : α → Reading β} {b : β} :
    x >>= f = .ok b ↔ ∃ a, x = .ok a ∧ f a = .ok b := by
  cases x with
  | error e => simp [bind, Except.bind]
  | ok a => simp [bind, Except.bind]

theorem pure_eq_ok_iff {a b : α} : (pure a : Reading α) = .ok b ↔ b = a := by
  simp [pure, Except.pure, eq_comm]

theorem throw_if_eq_ok_iff {c : Prop} [Decidable c] {e : DocumentError} {x : Reading α} {a : α} :
    (if c then (throw e : Reading PUnit) >>= fun _ => x else x) = .ok a ↔ ¬ c ∧ x = .ok a := by
  by_cases h : c <;> simp [h, bind, Except.bind, throw, throwThe, MonadExceptOf.throw]

theorem require_eq_ok_iff {a : Option α} {e : DocumentError} {b : α} :
    require a e = .ok b ↔ a = some b := by
  cases a <;> simp [require]

theorem require_argument_eq_ok_iff {i : Nat} {e : DocumentError} {text : String} :
    require (node.argumentText? i) e = .ok text ↔
      (node.argumentText? i).isSome ∧ text = node.text i := by
  rw [require_eq_ok_iff, Kdl.Node.text]
  cases node.argumentText? i <;> simp [eq_comm]

theorem name_eq_ok_iff {kind text : String} :
    name kind node = .ok text ↔ (node.argumentText? 0).isSome ∧ text = node.text 0 :=
  require_argument_eq_ok_iff

theorem property_eq_ok_iff {key kind name text : String} :
    property key kind name node = .ok text ↔
      (node.propertyText? key).isSome ∧ text = node.propertyText key := by
  rw [property, require_eq_ok_iff, Kdl.Node.propertyText]
  cases node.propertyText? key <;> simp [eq_comm]

theorem flag_eq_ok_iff {key : String} {b : Bool} :
    flag key node = .ok b ↔ node.IsFlag key ∧ b = node.flag key := by
  rw [flag, Kdl.Node.flag, Kdl.Node.IsFlag]
  cases node.property? key with
  | none => simp
  | some value =>
    simp only [require_eq_ok_iff, Option.some.injEq, forall_eq', Option.bind_some]
    cases value.boolean? <;> simp [eq_comm]

theorem declaration_eq_ok_iff {v : Variable} :
    declaration node = .ok v ↔ Accepted .declaration node ∧ v = Variable.ofNode node := by
  have hfits : Fits .declaration node.children := fits_of_members_eq_nil rfl _
  have haccepted : Accepted .declaration node ↔ (node.argumentText? 0).isSome := by
    simp [accepted_iff, has_iff, arguments, properties, flags, hfits]
  simp only [declaration, bind_eq_ok_iff, name_eq_ok_iff, haccepted, Variable.ofNode]
  cases node.propertyText? "source" <;> simp [pure_eq_ok_iff]

/-- If each node that follows others is added as the grammar has it, all of them are. -/
theorem foldlM_eq_ok_iff {kind : NodeKind} {add : α → Kdl.Node → Reading α}
    {withNodes : List Kdl.Node → α}
    (hadd : ∀ {nodes node a}, kind.Fits nodes → (add (withNodes nodes) node = .ok a ↔
      kind.Fits (nodes ++ [node]) ∧ a = withNodes (nodes ++ [node]))) {a : α} :
    nodes.foldlM add (withNodes []) = .ok a ↔ kind.Fits nodes ∧ a = withNodes nodes := by
  induction nodes using List.reverseRecOn generalizing a with
  | nil => simp [fits_nil, pure_eq_ok_iff]
  | append_singleton nodes node ih =>
    rw [List.foldlM_append, bind_eq_ok_iff]
    constructor
    · rintro ⟨b, hb, ha⟩
      obtain ⟨hfits, rfl⟩ := ih.mp hb
      simpa [hadd hfits] using ha
    · rintro ⟨hfits, ha⟩
      refine ⟨withNodes nodes, ih.mpr ⟨hfits.of_concat, rfl⟩, ?_⟩
      simpa [hadd hfits.of_concat] using ⟨hfits, ha⟩

theorem bind_foldlM_eq_ok_iff {kind : NodeKind} {header : Reading α} {add : α → Kdl.Node → Reading α}
    {withNodes : List Kdl.Node → α}
    (hheader : ∀ {a}, header = .ok a ↔ Has kind node ∧ a = withNodes [])
    (hadd : ∀ {nodes node a}, kind.Fits nodes → (add (withNodes nodes) node = .ok a ↔
      kind.Fits (nodes ++ [node]) ∧ a = withNodes (nodes ++ [node]))) {a : α} :
    (header >>= node.children.foldlM add) = .ok a ↔
      Accepted kind node ∧ a = withNodes node.children := by
  rw [bind_eq_ok_iff, accepted_iff, and_assoc, ← foldlM_eq_ok_iff hadd]
  constructor
  · rintro ⟨b, hb, ha⟩
    obtain ⟨hhas, rfl⟩ := hheader.mp hb
    exact ⟨hhas, ha⟩
  · rintro ⟨hhas, ha⟩
    exact ⟨withNodes [], hheader.mpr ⟨hhas, rfl⟩, ha⟩

section Concat

variable {kind inner : NodeKind}

theorem fits_concat_of_named (h : kind.member? node = some inner) (hn : inner.IsNamed)
    (hfits : kind.Fits nodes) : kind.Fits (nodes ++ [node]) ↔ Accepted inner node ∧
      ∀ n ∈ kind.pick inner nodes, n.text 0 ≠ node.text 0 := by
  have hb : ¬ inner.IsBlock := by
    revert hn
    cases inner <;> decide
  have hname (hnode : Accepted inner node) :
      (node.argumentText? 0 ∉ (kind.pick inner nodes).map fun n => n.argumentText? 0) ↔
        ∀ n ∈ kind.pick inner nodes, n.text 0 ≠ node.text 0 := by
    rw [List.mem_map, not_exists]
    refine forall_congr' fun n => ?_
    rw [not_and]
    refine imp_congr_right fun hm => not_congr ?_
    obtain ⟨s, hs⟩ := Option.isSome_iff_exists.mp (hnode.isSome_name hn)
    obtain ⟨t, ht⟩ := Option.isSome_iff_exists.mp ((hfits.accepted_of_mem_pick hm).isSome_name hn)
    simp [Kdl.Node.text, hs, ht]
  rw [fits_concat_of_member h]
  constructor
  · rintro ⟨-, hnode, hnew, -⟩
    exact ⟨hnode, (hname hnode).mp (hnew hn)⟩
  · rintro ⟨hnode, hnew⟩
    exact ⟨hfits, hnode, fun _ => (hname hnode).mpr hnew, fun hi => absurd hi hb⟩

theorem fits_concat_of_block (h : kind.member? node = some inner) (hb : inner.IsBlock)
    (hfits : kind.Fits nodes) : kind.Fits (nodes ++ [node]) ↔
      Accepted inner node ∧ kind.pick inner nodes = [] := by
  have hn : ¬ inner.IsNamed := by
    revert hb
    cases inner <;> decide
  simp [fits_concat_of_member h, hfits, hb, hn]

theorem fits_concat_of_plain (h : kind.member? node = some inner) (hn : ¬ inner.IsNamed)
    (hb : ¬ inner.IsBlock) (hfits : kind.Fits nodes) :
    kind.Fits (nodes ++ [node]) ↔ Accepted inner node := by
  simp [fits_concat_of_member h, hfits, hb, hn]

variable [Named α]

theorem addNew_eq_ok_iff {what : String} {items items' : List α} {item : α} :
    addNew what items item = .ok items' ↔
      (∀ other ∈ items, Named.name other ≠ Named.name item) ∧ items' = items ++ [item] := by
  have hcontains : Named.contains items (Named.name item) = false ↔
      ∀ other ∈ items, Named.name other ≠ Named.name item := by
    simp [← Bool.not_eq_true, Named.contains_iff]
  rw [addNew, ← hcontains]
  cases Named.contains items (Named.name item) <;> simp [eq_comm]

theorem addMember_eq_ok_iff {what : String} {read : Kdl.Node → Reading α} {ofNode : Kdl.Node → α}
    (hread : ∀ {a}, read node = .ok a ↔ Accepted inner node ∧ a = ofNode node)
    (hname : ∀ n, Named.name (ofNode n) = n.text 0) (h : kind.member? node = some inner)
    (hn : inner.IsNamed) (hfits : kind.Fits nodes) {f : List α → β} {b : β} :
    (do return f (← addNew what ((kind.pick inner nodes).map ofNode) (← read node))) = .ok b ↔
      kind.Fits (nodes ++ [node]) ∧ b = f ((kind.pick inner (nodes ++ [node])).map ofNode) := by
  rw [fits_concat_of_named h hn hfits, pick_concat_self h]
  simp only [bind_eq_ok_iff, pure_eq_ok_iff, hread, addNew_eq_ok_iff]
  simp [hname, and_assoc]

end Concat

section Member

variable {kind : NodeKind} (hfits : kind.Fits nodes)
include hfits

theorem addVariable_eq_ok_iff [Scoped α] (h : kind.member? node = some .declaration) {a b : α}
    (hscope : Scoped.scope a = kind.scope nodes) :
    addVariable a node = .ok b ↔
      kind.Fits (nodes ++ [node]) ∧ b = Scoped.withScope a (kind.scope (nodes ++ [node])) := by
  have hcontains : Named.contains (kind.scope nodes).declared (node.text 0) = true ↔
      ¬ ∀ n ∈ kind.pick .declaration nodes, n.text 0 ≠ node.text 0 := by
    simp [Named.contains_iff, NodeKind.scope, Named.name, Variable.name_ofNode]
  have hput (hnew : ∀ n ∈ kind.pick .declaration nodes, n.text 0 ≠ node.text 0) :
      (kind.scope nodes).declare (Variable.ofNode node) = kind.scope (nodes ++ [node]) := by
    have hc : Named.contains (kind.scope nodes).declared (Named.name (Variable.ofNode node)) = false := by
      simpa [Named.name, Variable.name_ofNode, ← Bool.not_eq_true, hcontains] using hnew
    rw [Scope.declare, Named.put_of_contains_eq_false hc]
    simp [NodeKind.scope, pick_concat_self h]
  rw [fits_concat_of_named h (by decide) hfits]
  simp only [addVariable, bind_eq_ok_iff, declaration_eq_ok_iff, throw_if_eq_ok_iff, hscope, and_assoc,
    exists_and_left, exists_eq_left, Variable.name_ofNode, hcontains, not_not, pure_eq_ok_iff]
  refine and_congr_right fun _ => and_congr_right fun hnew => ?_
  rw [Scoped.declare, hscope, hput hnew]

theorem addProperty_eq_ok_iff (h : kind.member? node = some .property) {m : NameMap String} :
    addProperty (kind.propertyMap nodes) node = .ok m ↔
      kind.Fits (nodes ++ [node]) ∧ m = kind.propertyMap (nodes ++ [node]) := by
  have hinside : Fits .property node.children := fits_of_members_eq_nil rfl _
  have haccepted : Accepted .property node ↔
      (node.argumentText? 0).isSome ∧ (node.argumentText? 1).isSome := by
    simp only [accepted_iff, has_iff, arguments, properties, flags, hinside, List.not_mem_nil,
      false_implies, implies_true, and_true]
    refine ⟨fun h => ⟨h 0 (by decide), h 1 (by decide)⟩, fun ⟨hkey, hvalue⟩ i hi => ?_⟩
    obtain rfl | rfl : i = 0 ∨ i = 1 := by omega
    · exact hkey
    · exact hvalue
  have hmem : node.text 0 ∈ kind.propertyMap nodes ↔
      ¬ ∀ n ∈ kind.pick .property nodes, n.text 0 ≠ node.text 0 := by
    simp [propertyMap, NameMap.mem_ofList]
  have hinsert : kind.propertyMap (nodes ++ [node]) =
      (kind.propertyMap nodes).insert (node.text 0) (node.text 1) := by
    simp [propertyMap, pick_concat_self h, NameMap.ofList]
  rw [fits_concat_of_named h (by decide) hfits, haccepted, hinsert]
  have hheader {e : String × String} : propertyHeader node = .ok e ↔
      (node.argumentText? 0).isSome ∧ (node.argumentText? 1).isSome ∧ e = (node.text 0, node.text 1) := by
    simp only [propertyHeader, bind_eq_ok_iff, name_eq_ok_iff, require_argument_eq_ok_iff, and_assoc,
      exists_and_left, exists_eq_left, pure_eq_ok_iff]
  simp only [addProperty, bind_eq_ok_iff, hheader, throw_if_eq_ok_iff, and_assoc, exists_and_left,
    exists_eq_left, hmem, not_not, pure_eq_ok_iff]

end Member

end Reading

end GenPlan
