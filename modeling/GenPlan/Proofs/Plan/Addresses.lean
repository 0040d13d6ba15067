import GenPlan.Proofs.Plan.Throughout

namespace GenPlan

def Address.around? : Address → Option Address
  | .plan => none
  | .classpath | .project _ | .parsers | .generators => some .plan
  | .entry _ => some .classpath
  | .folder i _ => some (.project i)
  | .parser _ => some .parsers
  | .generator _ => some .generators
  | .artifact i _ => some (.generator i)
  | .target i j _ => some (.artifact i j)

/-- The way from one address down to another, with the addresses below the first on it. -/
inductive Address.Below (outer : Address) : Address → List Address → Prop
  | here : Below outer outer []
  | inside {around inner : Address} {between : List Address} (h : Below outer around between)
      (ha : inner.around? = some around) : Below outer inner (inner :: between)

namespace Plan

variable {p : Plan}

theorem mem_children_of_around {a b : Address} (hb : b.around? = some a) {n : Node}
    (hn : p.node? b = some n) : ∃ m, p.node? a = some m ∧ n ∈ m.children := by
  cases b <;> cases hb <;> simp only [node?, Option.bind_eq_bind, Option.bind_eq_some_iff,
    Option.map_eq_some_iff, Option.some.injEq] at hn
  case classpath | parsers | generators =>
    subst hn
    exact ⟨_, rfl, by simp [Node.children]⟩
  case entry | project | parser | generator =>
    obtain ⟨_, hmember, rfl⟩ := hn
    exact ⟨_, rfl, by simp [Node.children, List.mem_of_getElem? hmember]⟩
  case folder | artifact =>
    obtain ⟨_, haround, _, hmember, rfl⟩ := hn
    refine ⟨_, by simp [node?, haround]; rfl, ?_⟩
    exact List.mem_map_of_mem (List.mem_of_getElem? hmember)
  case target =>
    obtain ⟨_, hg, _, ha, _, hmember, rfl⟩ := hn
    refine ⟨_, by simp [node?, hg, ha]; rfl, ?_⟩
    exact List.mem_map_of_mem (List.mem_of_getElem? hmember)

theorem exists_address_of_mem_children {a : Address} {m n : Node} (hm : p.node? a = some m)
    (hn : n ∈ m.children) : ∃ b : Address, b.around? = some a ∧ p.node? b = some n := by
  cases a <;> simp only [node?, Option.bind_eq_bind, Option.bind_eq_some_iff, Option.map_eq_some_iff,
    Option.some.injEq] at hm
  case plan =>
    subst hm
    simp only [Node.children, List.cons_append, List.mem_cons, List.mem_append, List.mem_map,
      List.not_mem_nil, or_false] at hn
    obtain rfl | ⟨q, hq, rfl⟩ | rfl | rfl := hn
    · exact ⟨.classpath, rfl, rfl⟩
    · obtain ⟨i, hi⟩ := List.getElem?_of_mem hq
      exact ⟨.project i, rfl, by simp [node?, hi]⟩
    · exact ⟨.parsers, rfl, rfl⟩
    · exact ⟨.generators, rfl, rfl⟩
  case classpath =>
    subst hm
    obtain ⟨e, he, rfl⟩ := List.mem_map.mp hn
    obtain ⟨i, hi⟩ := List.getElem?_of_mem he
    exact ⟨.entry i, rfl, by simp [node?, hi]⟩
  case parsers =>
    subst hm
    obtain ⟨q, hq, rfl⟩ := List.mem_map.mp hn
    obtain ⟨i, hi⟩ := List.getElem?_of_mem hq
    exact ⟨.parser i, rfl, by simp [node?, hi]⟩
  case generators =>
    subst hm
    obtain ⟨g, hg, rfl⟩ := List.mem_map.mp hn
    obtain ⟨i, hi⟩ := List.getElem?_of_mem hg
    exact ⟨.generator i, rfl, by simp [node?, hi]⟩
  case project i =>
    obtain ⟨q, hq, rfl⟩ := hm
    obtain ⟨f, hf, rfl⟩ := List.mem_map.mp hn
    obtain ⟨j, hj⟩ := List.getElem?_of_mem hf
    exact ⟨.folder i j, rfl, by simp [node?, hq, hj]⟩
  case generator i =>
    obtain ⟨g, hg, rfl⟩ := hm
    obtain ⟨a, ha, rfl⟩ := List.mem_map.mp hn
    obtain ⟨j, hj⟩ := List.getElem?_of_mem ha
    exact ⟨.artifact i j, rfl, by simp [node?, hg, hj]⟩
  case artifact i j =>
    obtain ⟨g, hg, a, ha, rfl⟩ := hm
    obtain ⟨t, ht, rfl⟩ := List.mem_map.mp hn
    obtain ⟨k, hk⟩ := List.getElem?_of_mem ht
    exact ⟨.target i j k, rfl, by simp [node?, hg, ha, hk]⟩
  case entry | parser =>
    obtain ⟨_, _, rfl⟩ := hm
    cases hn
  case folder =>
    obtain ⟨_, _, _, _, rfl⟩ := hm
    cases hn
  case target =>
    obtain ⟨_, _, _, _, _, _, rfl⟩ := hm
    cases hn

theorem exists_address_of_mem_all {m : Node} (hm : ∃ a, p.node? a = some m) :
    ∀ n ∈ m.all, ∃ b, p.node? b = some n := by
  induction hk : m.height using Nat.strongRecOn generalizing m with
  | ind k ih =>
    refine Node.forall_mem_all.mpr ⟨hm, fun c hc => ?_⟩
    obtain ⟨a, ha⟩ := hm
    obtain ⟨b, -, hb⟩ := exists_address_of_mem_children ha hc
    exact ih c.height (hk ▸ Node.height_lt_of_mem_children hc) ⟨b, hb⟩ rfl

end Plan

end GenPlan
