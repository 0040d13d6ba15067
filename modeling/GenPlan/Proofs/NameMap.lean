import GenPlan.NameMap

namespace GenPlan.NameMap

variable {α β : Type}

@[simp]
theorem get?_empty (name : String) : (∅ : NameMap α).get? name = none := rfl

theorem mem_iff {m : NameMap α} {name : String} : name ∈ m ↔ ∃ a, m.get? name = some a :=
  Option.isSome_iff_exists

theorem not_mem_iff {m : NameMap α} {name : String} : name ∉ m ↔ m.get? name = none := by
  rw [mem_iff]
  cases m.get? name <;> simp

@[simp]
theorem not_mem_empty (name : String) : name ∉ (∅ : NameMap α) := not_mem_iff.mpr rfl

theorem mem_insert {m : NameMap α} {name other : String} {a : α} :
    other ∈ m.insert name a ↔ name = other ∨ other ∈ m := by
  simp only [mem_iff, get?_insert]
  by_cases h : name = other <;> simp [h]

theorem sorted_keys (m : NameMap α) : m.keys.Pairwise (· < ·) := List.pairwise_map.mpr m.sorted

theorem nodup_keys (m : NameMap α) : m.keys.Nodup := m.sorted_keys.imp fun h => String.ne_of_lt h

theorem get?_eq_some_iff {m : NameMap α} {name : String} {a : α} :
    m.get? name = some a ↔ (name, a) ∈ m.entries := by
  rw [get?, List.lookup_eq_some_iff]
  constructor
  · rintro ⟨before, after, he, -⟩
    simp [he]
  · intro h
    obtain ⟨before, after, he⟩ := List.append_of_mem h
    have hs := List.pairwise_append.mp (he ▸ m.sorted)
    refine ⟨before, after, he, fun p hp => ?_⟩
    have hlt : p.1 < name := hs.2.2 p hp (name, a) List.mem_cons_self
    exact bne_iff_ne.mpr (String.ne_of_lt hlt).symm

theorem mem_keys {m : NameMap α} {name : String} : name ∈ m.keys ↔ name ∈ m := by
  simp only [mem_iff, get?_eq_some_iff, keys, List.mem_map, Prod.exists]
  exact ⟨fun ⟨_, a, h, hk⟩ => ⟨a, hk ▸ h⟩, fun ⟨a, h⟩ => ⟨name, a, h, rfl⟩⟩

theorem ext_get? {m n : NameMap α} (h : ∀ name, m.get? name = n.get? name) : m = n := by
  have hnd (l : NameMap α) : l.entries.Nodup :=
    l.sorted.imp fun hlt he => String.ne_of_lt hlt (congrArg Prod.fst he)
  have hp : m.entries.Perm n.entries := by
    rw [List.perm_ext_iff_of_nodup (hnd m) (hnd n)]
    rintro ⟨name, a⟩
    rw [← get?_eq_some_iff, ← get?_eq_some_iff, h]
  have he : m.entries = n.entries := hp.eq_of_pairwise
    (fun a b _ _ hab hba => absurd hba (String.lt_asymm hab)) m.sorted n.sorted
  cases m
  cases n
  cases he
  rfl

theorem keys_eq_iff {m : NameMap α} {n : NameMap β} :
    m.keys = n.keys ↔ ∀ name, name ∈ m ↔ name ∈ n := by
  constructor
  · intro h name
    rw [← mem_keys, ← mem_keys, h]
  · intro h
    have hp : m.keys.Perm n.keys := by
      rw [List.perm_ext_iff_of_nodup m.nodup_keys n.nodup_keys]
      intro name
      rw [mem_keys, mem_keys, h]
    exact hp.eq_of_pairwise (fun a b _ _ hab hba => absurd hba (String.lt_asymm hab))
      m.sorted_keys n.sorted_keys

/-- Whatever the one map knows the other knows too. -/
instance : HasSubset (NameMap α) :=
  ⟨fun m n => ∀ name a, m.get? name = some a → n.get? name = some a⟩

theorem subset_refl (m : NameMap α) : m ⊆ m := fun _ _ h => h

theorem empty_subset (m : NameMap α) : ∅ ⊆ m := fun name _ h => absurd h (by simp)

theorem subset_trans {m n l : NameMap α} (h : m ⊆ n) (h' : n ⊆ l) : m ⊆ l :=
  fun name a hm => h' name a (h name a hm)

theorem mem_of_subset {m n : NameMap α} (h : m ⊆ n) {name : String} (hm : name ∈ m) : name ∈ n := by
  obtain ⟨a, ha⟩ := mem_iff.mp hm
  exact mem_iff.mpr ⟨a, h name a ha⟩

theorem subset_insert {m : NameMap α} {name : String} (h : name ∉ m) (a : α) :
    m ⊆ m.insert name a := by
  intro other b hb
  have hne : name ≠ other := fun he => h (he ▸ mem_iff.mpr ⟨b, hb⟩)
  rw [get?_insert, if_neg hne, hb]

def addAll (m : NameMap α) (es : List (String × α)) : NameMap α :=
  es.foldl (fun m e => m.insert e.1 e.2) m

theorem ofList_eq_addAll (es : List (String × α)) : ofList es = addAll ∅ es := rfl

theorem addAll_append (m : NameMap α) (es fs : List (String × α)) :
    m.addAll (es ++ fs) = (m.addAll es).addAll fs := List.foldl_append

theorem mem_addAll {m : NameMap α} {es : List (String × α)} {name : String} :
    name ∈ m.addAll es ↔ name ∈ es.map Prod.fst ∨ name ∈ m := by
  induction es generalizing m with
  | nil => simp [addAll]
  | cons e es ih =>
    rw [addAll, List.foldl_cons, List.map_cons, List.mem_cons]
    refine (ih (m := m.insert e.1 e.2)).trans ?_
    rw [mem_insert, eq_comm (a := e.1), or_left_comm, or_assoc]

theorem mem_ofList {es : List (String × α)} {name : String} :
    name ∈ ofList es ↔ name ∈ es.map Prod.fst := by
  simp [ofList_eq_addAll, mem_addAll]

theorem get?_addAll_of_not_mem {es : List (String × α)} {name : String}
    (h : name ∉ es.map Prod.fst) (m : NameMap α) : (m.addAll es).get? name = m.get? name := by
  induction es generalizing m with
  | nil => rfl
  | cons e es ih =>
    simp only [List.map_cons, List.mem_cons, not_or] at h
    exact (ih h.2 (m.insert e.1 e.2)).trans (by simp [Ne.symm h.1])

theorem get?_addAll_of_mem {es : List (String × α)} (hn : (es.map Prod.fst).Nodup)
    {name : String} {a : α} (h : (name, a) ∈ es) (m : NameMap α) :
    (m.addAll es).get? name = some a := by
  induction es generalizing m with
  | nil => cases h
  | cons e es ih =>
    simp only [List.map_cons, List.nodup_cons] at hn
    obtain rfl | h := List.mem_cons.mp h
    · exact (get?_addAll_of_not_mem hn.1 _).trans (by simp)
    · exact ih hn.2 h _

theorem get?_addAll (m : NameMap α) (es : List (String × α)) (name : String) :
    (m.addAll es).get? name = ((ofList es).get? name).or (m.get? name) := by
  induction es generalizing m with
  | nil => rfl
  | cons e es ih =>
    have hfirst : (ofList (e :: es)).get? name =
        ((ofList es).get? name).or ((insert ∅ e.1 e.2).get? name) := ih (insert ∅ e.1 e.2)
    refine (ih (m.insert e.1 e.2)).trans ?_
    rw [hfirst, Option.or_assoc]
    by_cases h : e.1 = name <;> simp [h]

theorem addAll_perm {es fs : List (String × α)} (hp : es.Perm fs) (hn : (es.map Prod.fst).Nodup)
    (m : NameMap α) : m.addAll es = m.addAll fs := by
  have hm := hp.map Prod.fst
  apply ext_get?
  intro name
  by_cases h : name ∈ es.map Prod.fst
  · obtain ⟨⟨_, a⟩, he, rfl⟩ := List.mem_map.mp h
    rw [get?_addAll_of_mem hn he, get?_addAll_of_mem (hm.nodup_iff.mp hn) (hp.mem_iff.mp he)]
  · rw [get?_addAll_of_not_mem h, get?_addAll_of_not_mem (mt hm.mem_iff.mpr h)]

def update (m n : NameMap α) : NameMap α := m.addAll n.entries

theorem get?_update (m n : NameMap α) (name : String) :
    (m.update n).get? name = (n.get? name).or (m.get? name) := by
  have hn : (n.entries.map Prod.fst).Nodup := n.nodup_keys
  rw [update]
  cases h : n.get? name with
  | none =>
    have hk : name ∉ n.entries.map Prod.fst := mt mem_keys.mp (not_mem_iff.mpr h)
    rw [get?_addAll_of_not_mem hk, Option.none_or]
  | some a => rw [get?_addAll_of_mem hn (get?_eq_some_iff.mp h), Option.some_or]

theorem get?_update_of_mem {m n : NameMap α} {name : String} (h : name ∈ n) :
    (m.update n).get? name = n.get? name := by
  obtain ⟨a, ha⟩ := mem_iff.mp h
  rw [get?_update, ha, Option.some_or]

theorem get?_update_of_not_mem {m n : NameMap α} {name : String} (h : name ∉ n) :
    (m.update n).get? name = m.get? name := by
  rw [get?_update, not_mem_iff.mp h, Option.none_or]

theorem update_of_subset {m n : NameMap α} (h : n ⊆ m) : m.update n = m := by
  apply ext_get?
  intro name
  by_cases hn : name ∈ n
  · obtain ⟨a, ha⟩ := mem_iff.mp hn
    rw [get?_update_of_mem hn, ha, h name a ha]
  · exact get?_update_of_not_mem hn

theorem update_congr {m l n : NameMap α} (h : ∀ name ∉ n, m.get? name = l.get? name) :
    m.update n = l.update n := by
  apply ext_get?
  intro name
  by_cases hn : name ∈ n
  · rw [get?_update_of_mem hn, get?_update_of_mem hn]
  · rw [get?_update_of_not_mem hn, get?_update_of_not_mem hn, h name hn]

@[simp]
theorem empty_update (m : NameMap α) : (∅ : NameMap α).update m = m :=
  ext_get? fun name => by simp [get?_update]

theorem subset_update (m n : NameMap α) : n ⊆ m.update n := by
  intro name a h
  rw [get?_update, h, Option.some_or]

def only (m : NameMap α) (name : String) : NameMap α :=
  match m.get? name with
  | some a => insert ∅ name a
  | none => ∅

theorem get?_only (m : NameMap α) (name other : String) :
    (m.only name).get? other = if name = other then m.get? name else none := by
  rw [only]
  cases m.get? name <;> simp

theorem only_of_not_mem {m : NameMap α} {name : String} (h : name ∉ m) : m.only name = ∅ := by
  rw [only, not_mem_iff.mp h]

theorem only_congr {m n : NameMap α} {name : String} (h : m.get? name = n.get? name) :
    m.only name = n.only name := by
  rw [only, only, h]

def within (m : NameMap α) (names : NameMap β) : NameMap α :=
  ⟨m.entries.filter (·.1 ∈ names), m.sorted.filter _⟩

theorem get?_within (m : NameMap α) (names : NameMap β) (name : String) :
    (m.within names).get? name = if name ∈ names then m.get? name else none := by
  apply Option.ext
  intro a
  rw [get?_eq_some_iff, within, List.mem_filter, ← get?_eq_some_iff, decide_eq_true_eq]
  by_cases h : name ∈ names <;> simp [h]

theorem get?_within_of_mem {names : NameMap β} {name : String} (h : name ∈ names) (m : NameMap α) :
    (m.within names).get? name = m.get? name := by
  rw [get?_within, if_pos h]

theorem mem_within {m : NameMap α} {names : NameMap β} {name : String} :
    name ∈ m.within names ↔ name ∈ names ∧ name ∈ m := by
  rw [mem_iff, mem_iff (m := m), get?_within]
  by_cases h : name ∈ names <;> simp [h]

theorem within_insert {names : NameMap β} {name : String} (h : name ∈ names) (m : NameMap α) (a : α) :
    (m.insert name a).within names = (m.within names).insert name a := by
  apply ext_get?
  intro other
  rw [get?_within, get?_insert, get?_insert, get?_within]
  by_cases he : name = other
  · rw [if_pos he, if_pos he, if_pos (he ▸ h)]
  · rw [if_neg he, if_neg he]

def EqOutside (names : NameMap β) (m n : NameMap α) : Prop :=
  ∀ name ∉ names, n.get? name = m.get? name

theorem EqOutside.trans {names : NameMap β} {m n l : NameMap α} (h : EqOutside names m n)
    (h' : EqOutside names n l) : EqOutside names m l :=
  fun name hn => (h' name hn).trans (h name hn)

theorem eqOutside_insert {names : NameMap β} {name : String} (h : name ∈ names) (m : NameMap α) (a : α) :
    EqOutside names m (m.insert name a) := by
  intro other ho
  have hne : name ≠ other := fun he => ho (he ▸ h)
  rw [get?_insert, if_neg hne]

theorem subset_of_within {m n : NameMap α} {names : NameMap β} (h : m.within names ⊆ n.within names)
    (ho : EqOutside names m n) : m ⊆ n := by
  intro name a ha
  by_cases hn : name ∈ names
  · rw [← get?_within_of_mem hn] at ha ⊢
    exact h name a ha
  · rw [ho name hn, ha]

theorem get?_mapValues (f : α → β) (m : NameMap α) (name : String) :
    (m.mapValues f).get? name = (m.get? name).map f := by
  apply Option.ext
  intro b
  simp only [Option.map_eq_some_iff, get?_eq_some_iff, mapValues, List.mem_map, Prod.exists,
    Prod.mk.injEq]
  constructor
  · rintro ⟨_, a, ha, rfl, hf⟩
    exact ⟨a, ha, hf⟩
  · rintro ⟨a, ha, hf⟩
    exact ⟨name, a, ha, rfl, hf⟩

end GenPlan.NameMap
