import Mathlib.Data.List.Nodup
import GenPlan.Named

namespace GenPlan.Named

variable {α : Type} [Named α] {item other : α} {items : List α}

theorem contains_iff {name : String} :
    contains items name = true ↔ ∃ item ∈ items, Named.name item = name := by
  simp [contains, find?]

theorem find?_name_of_first {i : Nat} (h : items[i]? = some item)
    (hfirst : ∀ j < i, ∀ other, items[j]? = some other → Named.name other ≠ Named.name item) :
    find? items (Named.name item) = some item := by
  obtain ⟨hi, hitem⟩ := List.getElem?_eq_some_iff.mp h
  refine List.find?_eq_some_iff_getElem.mpr ⟨by simp, i, hi, hitem, fun j hj => ?_⟩
  simpa using hfirst j hj _ (List.getElem?_eq_getElem (Nat.lt_trans hj hi))

theorem find?_map (f : α → α) (hf : ∀ a, Named.name (f a) = Named.name a)
    (items : List α) (name : String) :
    find? (items.map f) name = (find? items name).map f := by
  have hsame : (fun item : α => decide (Named.name item = name)) ∘ f =
      fun item => decide (Named.name item = name) := by
    funext item
    rw [Function.comp_apply, hf]
  rw [find?, List.find?_map, hsame, find?]

theorem put_of_contains_eq_false (h : contains items (Named.name item) = false) :
    put item items = items ++ [item] := by
  induction items with
  | nil => rfl
  | cons old items ih =>
    obtain ⟨hold, hrest⟩ : Named.name old ≠ Named.name item ∧
        contains items (Named.name item) = false := by
      simpa [← Bool.not_eq_true, contains_iff] using h
    rw [put, if_neg hold, ih hrest, List.cons_append]

theorem mem_put_self (item : α) (items : List α) : item ∈ put item items := by
  induction items with
  | nil => simp [put]
  | cons old items ih =>
    rw [put]
    split
    · exact List.mem_cons_self
    · exact List.mem_cons_of_mem old ih

theorem mem_of_mem_put (h : other ∈ put item items) : other = item ∨ other ∈ items := by
  induction items with
  | nil => exact .inl (List.mem_singleton.mp h)
  | cons old items ih =>
    rw [put] at h
    split at h
    · exact (List.mem_cons.mp h).imp_right (List.mem_cons_of_mem old)
    · obtain rfl | h := List.mem_cons.mp h
      · exact .inr List.mem_cons_self
      · exact (ih h).imp_right (List.mem_cons_of_mem old)

theorem put_of_not_mem (h : Named.name item ∉ items.map Named.name) :
    put item items = items ++ [item] :=
  put_of_contains_eq_false (Bool.eq_false_iff.mpr fun hc => h (List.mem_map.mpr (contains_iff.mp hc)))

theorem exists_put_of_mem (h : Named.name item ∈ items.map Named.name) :
    ∃ before old after, items = before ++ old :: after ∧ Named.name old = Named.name item ∧
      put item items = before ++ item :: after := by
  induction items with
  | nil => cases h
  | cons old items ih =>
    by_cases he : Named.name old = Named.name item
    · exact ⟨[], old, items, rfl, he, by rw [put, if_pos he, List.nil_append]⟩
    · have hrest : Named.name item ∈ items.map Named.name :=
        (List.mem_cons.mp h).resolve_left (Ne.symm he)
      obtain ⟨before, other, after, rfl, hname, hput⟩ := ih hrest
      exact ⟨old :: before, other, after, rfl, hname, by rw [put, if_neg he, hput, List.cons_append]⟩

theorem map_name_put : (put item items).map Named.name =
    if Named.name item ∈ items.map Named.name then items.map Named.name
    else items.map Named.name ++ [Named.name item] := by
  split
  next h =>
    obtain ⟨before, old, after, rfl, hname, hput⟩ := exists_put_of_mem h
    rw [hput, List.map_append, List.map_append, List.map_cons, List.map_cons, hname]
  next h => rw [put_of_not_mem h, List.map_append, List.map_singleton]

theorem mem_map_name_put {name : String} : name ∈ (put item items).map Named.name ↔
    name ∈ items.map Named.name ∨ name = Named.name item := by
  rw [map_name_put]
  split
  next h => exact (or_iff_left_of_imp fun he => he ▸ h).symm
  next h => rw [List.mem_append, List.mem_singleton]

theorem put_of_nodup (hd : (items.map Named.name).Nodup) (item : α) : put item items =
    if Named.name item ∈ items.map Named.name
      then items.map fun old => if Named.name old = Named.name item then item else old
      else items ++ [item] := by
  split
  next h =>
    obtain ⟨before, old, after, rfl, hname, hput⟩ := exists_put_of_mem h
    have hkept (others : List α) (ho : Named.name item ∉ others.map Named.name) :
        others.map (fun other => if Named.name other = Named.name item then item else other) = others := by
      refine (List.map_congr_left fun other hmem => if_neg fun hother => ho ?_).trans (List.map_id others)
      exact hother ▸ List.mem_map_of_mem hmem
    rw [List.map_append, List.map_cons, List.nodup_middle, hname, List.nodup_cons, List.mem_append,
      not_or] at hd
    rw [hput, List.map_append, List.map_cons, if_pos hname, hkept before hd.1.1, hkept after hd.1.2]
  next h => exact put_of_not_mem h

theorem eq_or_mem_of_mem_put (hd : (items.map Named.name).Nodup) (h : other ∈ put item items) :
    other = item ∨ other ∈ items ∧ Named.name other ≠ Named.name item := by
  rw [put_of_nodup hd] at h
  split at h
  next =>
    obtain ⟨old, hold, rfl⟩ := List.mem_map.mp h
    by_cases he : Named.name old = Named.name item
    · exact .inl (if_pos he)
    · rw [if_neg he]
      exact .inr ⟨hold, he⟩
  next hnew =>
    obtain h | h := List.mem_append.mp h
    · exact .inr ⟨h, fun he => hnew (he ▸ List.mem_map_of_mem h)⟩
    · exact .inl (List.mem_singleton.mp h)

theorem exists_put_eq (h : (items.map Named.name).count (Named.name item) ≤ 1) :
    ∃ before after, put item items = before ++ item :: after ∧
      Named.name item ∉ after.map Named.name := by
  induction items with
  | nil => exact ⟨[], [], rfl, List.not_mem_nil⟩
  | cons old items ih =>
    rw [List.map_cons, List.count_cons] at h
    rw [put]
    split
    next he =>
      refine ⟨[], items, rfl, List.count_eq_zero.mp ?_⟩
      simpa [he] using h
    next hne =>
      obtain ⟨before, after, hput, hafter⟩ := ih (by simpa [hne] using h)
      exact ⟨old :: before, after, by rw [hput, List.cons_append], hafter⟩

theorem nodup_put (hd : (items.map Named.name).Nodup) (item : α) :
    ((put item items).map Named.name).Nodup := by
  rw [map_name_put]
  split
  next => exact hd
  next h => exact List.nodup_append.mpr ⟨hd, List.nodup_singleton _, by simpa using h⟩

end GenPlan.Named
