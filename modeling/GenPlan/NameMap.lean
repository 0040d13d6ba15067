namespace GenPlan

/-- Kept sorted by name, so that maps with equal lookups are equal. -/
structure NameMap (α : Type) where
  entries : List (String × α)
  sorted : entries.Pairwise fun a b => a.1 < b.1
  deriving DecidableEq

namespace NameMap

variable {α β : Type}

instance : EmptyCollection (NameMap α) := ⟨⟨[], .nil⟩⟩

instance : Inhabited (NameMap α) := ⟨∅⟩

def keys (m : NameMap α) : List String := m.entries.map Prod.fst

def get? (m : NameMap α) (name : String) : Option α := m.entries.lookup name

def contains (m : NameMap α) (name : String) : Bool := (m.get? name).isSome

instance : Membership String (NameMap α) := ⟨fun m name => m.contains name = true⟩

instance (m : NameMap α) (name : String) : Decidable (name ∈ m) :=
  inferInstanceAs (Decidable (m.contains name = true))

def insertEntry (name : String) (a : α) : List (String × α) → List (String × α)
  | [] => [(name, a)]
  | (k, b) :: es =>
    if name < k then (name, a) :: (k, b) :: es
    else if name = k then (name, a) :: es
    else (k, b) :: insertEntry name a es

theorem mem_insertEntry {name : String} {a : α} {e : String × α} {es : List (String × α)}
    (h : e ∈ insertEntry name a es) : e = (name, a) ∨ e ∈ es := by
  induction es with
  | nil => simpa [insertEntry] using h
  | cons b es ih =>
    rw [insertEntry] at h
    split at h
    · simpa using h
    · split at h
      · obtain h | h := List.mem_cons.mp h
        · exact .inl h
        · exact .inr (List.mem_cons_of_mem _ h)
      · obtain h | h := List.mem_cons.mp h
        · exact .inr (h ▸ List.mem_cons_self)
        · exact (ih h).imp id (List.mem_cons_of_mem _)

theorem sorted_insertEntry (name : String) (a : α) {es : List (String × α)}
    (h : es.Pairwise fun a b => a.1 < b.1) :
    (insertEntry name a es).Pairwise fun a b => a.1 < b.1 := by
  induction es with
  | nil => simp [insertEntry]
  | cons b es ih =>
    have hb := List.pairwise_cons.mp h
    rw [insertEntry]
    split
    next hlt =>
      refine List.pairwise_cons.mpr ⟨fun e he => ?_, h⟩
      obtain rfl | he := List.mem_cons.mp he
      · exact hlt
      · exact String.lt_trans hlt (hb.1 e he)
    next hlt =>
      split
      next heq => exact List.pairwise_cons.mpr ⟨fun e he => heq ▸ hb.1 e he, hb.2⟩
      next hne =>
        refine List.pairwise_cons.mpr ⟨fun e he => ?_, ih hb.2⟩
        obtain rfl | he := mem_insertEntry he
        · exact Std.lt_of_le_of_ne (String.not_lt.mp hlt) (Ne.symm hne)
        · exact hb.1 e he

def insert (m : NameMap α) (name : String) (a : α) : NameMap α :=
  ⟨insertEntry name a m.entries, sorted_insertEntry name a m.sorted⟩

theorem lookup_cons (name other : String) (a : α) (es : List (String × α)) :
    ((name, a) :: es).lookup other = if name = other then some a else es.lookup other := by
  by_cases h : name = other
  · subst h
    rw [List.lookup_cons_self, if_pos rfl]
  · have hbeq : (other == name) = false := beq_eq_false_iff_ne.mpr (Ne.symm h)
    rw [List.lookup_cons, hbeq, if_neg h]

theorem lookup_insertEntry (name other : String) (a : α) (es : List (String × α)) :
    (insertEntry name a es).lookup other =
      if name = other then some a else es.lookup other := by
  induction es with
  | nil => exact lookup_cons name other a []
  | cons b es ih =>
    obtain ⟨k, b⟩ := b
    rw [insertEntry]
    split
    · exact lookup_cons name other a _
    · split
      next heq =>
        subst heq
        rw [lookup_cons, lookup_cons]
        by_cases h : name = other
        · rw [if_pos h, if_pos h]
        · rw [if_neg h, if_neg h, if_neg h]
      next hne =>
        rw [lookup_cons, lookup_cons, ih]
        by_cases hk : k = other
        · rw [if_pos hk, if_pos hk, if_neg (hk ▸ hne)]
        · rw [if_neg hk, if_neg hk]

@[simp]
theorem get?_insert (m : NameMap α) (name other : String) (a : α) :
    (m.insert name a).get? other = if name = other then some a else m.get? other :=
  lookup_insertEntry name other a m.entries

theorem mem_keys_of_get? {m : NameMap α} {name : String} {a : α} (h : m.get? name = some a) :
    name ∈ m.keys := by
  obtain ⟨e, he, hname⟩ := List.lookup_isSome_iff.mp (Option.isSome_of_eq_some h)
  exact List.mem_map.mpr ⟨e, he, (eq_of_beq hname).symm⟩

/-- The last of several values of one name counts. -/
def ofList (es : List (String × α)) : NameMap α :=
  es.foldl (fun m e => m.insert e.1 e.2) ∅

def mapValues (f : α → β) (m : NameMap α) : NameMap β :=
  ⟨m.entries.map fun e => (e.1, f e.2), List.Pairwise.map _ (fun _ _ h => h) m.sorted⟩

end NameMap

end GenPlan
