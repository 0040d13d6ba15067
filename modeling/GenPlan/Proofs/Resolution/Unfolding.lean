import GenPlan.Proofs.Resolution.Solution

namespace GenPlan

open Segment

/-- Some markers of names other than one are replaced by the segments of their values. -/
inductive Unfolded (vars : NameMap String) (name : String) : List Segment → List Segment → Prop
  | nil : Unfolded vars name [] []
  | keep (s : Segment) {a b : List Segment} (h : Unfolded vars name a b) :
    Unfolded vars name (s :: a) (s :: b)
  | replace {other value : String} {a b : List Segment} (hn : other ≠ name)
    (hv : vars.get? other = some value) (h : Unfolded vars name a b) :
    Unfolded vars name (marker other.toList :: a) (scan value.toList ++ b)

namespace Unfolded

variable {vars : NameMap String} {name : String} {a b c d : List Segment}

theorem refl (a : List Segment) : Unfolded vars name a a := by
  induction a with
  | nil => exact .nil
  | cons s a ih => exact .keep s ih

theorem append (h : Unfolded vars name a b) (h' : Unfolded vars name c d) :
    Unfolded vars name (a ++ c) (b ++ d) := by
  induction h with
  | nil => exact h'
  | keep s _ ih => exact .keep s ih
  | replace hn hv _ ih =>
    rw [List.cons_append, List.append_assoc]
    exact .replace hn hv ih

theorem flatMap {segments : List Segment} {f g : Segment → List Segment}
    (h : ∀ s ∈ segments, Unfolded vars name (f s) (g s)) :
    Unfolded vars name (segments.flatMap f) (segments.flatMap g) := by
  induction segments with
  | nil => exact .nil
  | cons s segments ih =>
    rw [List.flatMap_cons, List.flatMap_cons]
    exact (h s List.mem_cons_self).append (ih fun t ht => h t (List.mem_cons_of_mem s ht))

theorem flatMap_expand (h : Unfolded vars name a b) {known : NameMap String}
    (hk : ∀ other value, other ≠ name → vars.get? other = some value →
      known.get? other = some (substitute known value)) :
    b.flatMap (expand known) = a.flatMap (expand known) := by
  induction h with
  | nil => rfl
  | keep s _ ih => rw [List.flatMap_cons, List.flatMap_cons, ih]
  | replace hn hv _ ih =>
    rw [List.flatMap_append, List.flatMap_cons, ih, expand, String.ofList_toList, hk _ _ hn hv,
      substitute]
    simp

theorem mem_or_subset (h : Unfolded vars name a b) {reference : String}
    (hm : marker reference.toList ∈ a) :
    marker reference.toList ∈ b ∨
      ∃ value, vars.get? reference = some value ∧ scan value.toList ⊆ b := by
  induction h with
  | nil => cases hm
  | keep s _ ih =>
    obtain rfl | hm := List.mem_cons.mp hm
    · exact .inl List.mem_cons_self
    · refine (ih hm).imp (List.mem_cons_of_mem s) ?_
      rintro ⟨value, hv, hs⟩
      exact ⟨value, hv, List.subset_cons_of_subset s hs⟩
  | @replace other text _ _ _ hv _ ih =>
    obtain he | hm := List.mem_cons.mp hm
    · have ho : reference = other := String.toList_injective (marker.inj he)
      exact .inr ⟨text, ho ▸ hv, List.subset_append_left _ _⟩
    · refine (ih hm).imp (List.mem_append_right _) ?_
      rintro ⟨value, hv, hs⟩
      exact ⟨value, hv, List.subset_append_of_subset_right _ hs⟩

theorem mem_or_exists (h : Unfolded vars name a b) {reference : String}
    (hm : marker reference.toList ∈ b) :
    marker reference.toList ∈ a ∨ ∃ other value, marker other.toList ∈ a ∧
      vars.get? other = some value ∧ reference ∈ references value := by
  induction h with
  | nil => cases hm
  | keep s _ ih =>
    obtain rfl | hm := List.mem_cons.mp hm
    · exact .inl List.mem_cons_self
    · refine (ih hm).imp (List.mem_cons_of_mem s) ?_
      rintro ⟨other, value, ho, hv, hr⟩
      exact ⟨other, value, List.mem_cons_of_mem s ho, hv, hr⟩
  | @replace replaced text _ _ _ hv _ ih =>
    obtain hm | hm := List.mem_append.mp hm
    · exact .inr ⟨replaced, text, List.mem_cons_self, hv, mem_references_iff.mpr hm⟩
    · refine (ih hm).imp (List.mem_cons_of_mem _) ?_
      rintro ⟨other, value, ho, hv, hr⟩
      exact ⟨other, value, List.mem_cons_of_mem _ ho, hv, hr⟩

end Unfolded

/-- The value of one name is unfolded. -/
inductive UnfoldsOnce (vars : NameMap String) : NameMap String → Prop
  | intro {name text unfolded : String} (hv : vars.get? name = some text)
    (h : Unfolded vars name (scan text.toList) (scan unfolded.toList)) :
    UnfoldsOnce vars (vars.insert name unfolded)

namespace UnfoldsOnce

variable {vars unfolded : NameMap String}

theorem mem_iff (h : UnfoldsOnce vars unfolded) {name : String} :
    name ∈ unfolded ↔ name ∈ vars := by
  obtain ⟨hv, _⟩ := h
  rw [NameMap.mem_insert, or_iff_right_of_imp]
  rintro rfl
  exact NameMap.mem_iff.mpr ⟨_, hv⟩

theorem refers (h : UnfoldsOnce vars unfolded) {name reference : String}
    (hr : Refers vars name reference) :
    Refers unfolded name reference ∨
      ∀ next, Refers vars reference next → Refers unfolded name next := by
  have hmem {name} : name ∈ unfolded ↔ name ∈ vars := h.mem_iff
  cases h with | @intro other text replaced hv h =>
  obtain ⟨hk, value, hvalue, hrv⟩ := hr
  by_cases ho : other = name
  · subst ho
    have hnew {next} (hn : next ∈ vars) (hm : marker next.toList ∈ scan replaced.toList) :
        Refers (vars.insert other replaced) other next :=
      ⟨hmem.mpr hn, replaced, by simp, mem_references_iff.mpr hm⟩
    have ht : value = text := Option.some.inj (hvalue.symm.trans hv)
    subst ht
    obtain hm | ⟨between, hb, hs⟩ := h.mem_or_subset (mem_references_iff.mp hrv)
    · exact .inl (hnew hk hm)
    · refine .inr ?_
      rintro next ⟨hn, value', hv', hnv⟩
      have hbv : value' = between := Option.some.inj (hv'.symm.trans hb)
      exact hnew hn (hs (hbv ▸ mem_references_iff.mp hnv))
  · exact .inl ⟨hmem.mpr hk, value, by simp [ho, hvalue], hrv⟩

theorem transGen_refers (h : UnfoldsOnce vars unfolded) {name reference : String}
    (hr : Refers unfolded name reference) : Relation.TransGen (Refers vars) name reference := by
  have hmem {name} : name ∈ unfolded ↔ name ∈ vars := h.mem_iff
  cases h with | @intro other text replaced hv h =>
  obtain ⟨hk, value, hvalue, hrv⟩ := hr
  replace hk := hmem.mp hk
  rw [NameMap.get?_insert] at hvalue
  split at hvalue
  next ho =>
    subst ho
    cases hvalue
    obtain hm | ⟨between, value, hb, hbv, hm⟩ := h.mem_or_exists (mem_references_iff.mp hrv)
    · exact .single ⟨hk, text, hv, mem_references_iff.mpr hm⟩
    · have hfirst : Refers vars other between :=
        ⟨NameMap.mem_iff.mpr ⟨value, hbv⟩, text, hv, mem_references_iff.mpr hb⟩
      exact .head hfirst (.single ⟨hk, value, hbv, hm⟩)
  · exact .single ⟨hk, value, hvalue, hrv⟩

theorem grounded_iff (h : UnfoldsOnce vars unfolded) : Grounded vars ↔ Grounded unfolded := by
  constructor
  · intro hg
    refine Subrelation.wf (fun {reference name} hr => ?_) hg.transGen
    exact Relation.transGen_swap.mpr (h.transGen_refers hr)
  · refine fun hg => ⟨fun name => ?_⟩
    -- a reference that has gone leads only to references that have taken its place
    induction name using hg.induction with
    | _ name ih =>
      refine ⟨name, fun reference hr => ?_⟩
      obtain hr | hnext := h.refers hr
      · exact ih reference hr
      · exact ⟨reference, fun next hn => ih next (hnext next hn)⟩

theorem solves_iff (h : UnfoldsOnce vars unfolded) {known : NameMap String} :
    Solves vars known ↔ Solves unfolded known := by
  have hkeys : unfolded.keys = vars.keys := NameMap.keys_eq_iff.mpr fun _ => h.mem_iff
  cases h with | @intro name text replaced hv h =>
  have hsame (hk : ∀ other value, other ≠ name → vars.get? other = some value →
      known.get? other = some (substitute known value)) :
      substitute known replaced = substitute known text := by
    rw [substitute, substitute, h.flatMap_expand hk]
  constructor
  · intro hs
    refine ⟨hs.keys.trans hkeys.symm, fun other value ho => ?_⟩
    rw [NameMap.get?_insert] at ho
    split at ho
    next he =>
      subst he
      cases ho
      rw [hsame fun other value _ hv => hs.value other value hv, hs.value name text hv]
    · exact hs.value other value ho
  · intro hs
    have hother (other value : String) (hne : other ≠ name) (ho : vars.get? other = some value) :
        known.get? other = some (substitute known value) :=
      hs.value other value (by simp [Ne.symm hne, ho])
    refine ⟨hs.keys.trans hkeys, fun other value ho => ?_⟩
    by_cases he : other = name
    · subst he
      have ht : value = text := Option.some.inj (ho.symm.trans hv)
      rw [ht, ← hsame hother]
      exact hs.value other replaced (by simp)
    · exact hother other value he ho

end UnfoldsOnce

def Unfolds : NameMap String → NameMap String → Prop := Relation.ReflTransGen UnfoldsOnce

theorem Unfolds.grounded_iff {vars unfolded : NameMap String} (h : Unfolds vars unfolded) :
    Grounded vars ↔ Grounded unfolded := by
  induction h with
  | refl => rfl
  | tail _ h ih => exact ih.trans h.grounded_iff

theorem Unfolds.solves_iff {vars unfolded known : NameMap String} (h : Unfolds vars unfolded) :
    Solves vars known ↔ Solves unfolded known := by
  induction h with
  | refl => rfl
  | tail _ h ih => exact ih.trans h.solves_iff

/-- Unfolding changes neither whether variables are resolved nor to what. -/
theorem Unfolds.resolve_iff {vars unfolded known : NameMap String} (h : Unfolds vars unfolded) :
    (∃ depth, resolve vars = .ok ⟨known, depth⟩) ↔
      ∃ depth, resolve unfolded = .ok ⟨known, depth⟩ := by
  rw [exists_resolve_eq_iff, exists_resolve_eq_iff, h.grounded_iff, h.solves_iff]

end GenPlan
