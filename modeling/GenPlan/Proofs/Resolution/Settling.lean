import GenPlan.Proofs.Resolution.Unfolding

namespace GenPlan

open Segment

/-- Variables before texts are settled: what is known of other names, and each text with what is known
of its own name put in. No text refers to what is known of the names of other texts. -/
structure Unsettled (known : NameMap String) (texts : List (String × String))
    (vars : NameMap String) : Prop where
  distinct : (texts.map Prod.fst).Nodup
  sealed : ∀ e ∈ texts, SealedIn known e.2
  kept : ∀ name ∉ texts.map Prod.fst, ∀ value, known.get? name = some value →
    vars.get? name = some value
  stated : ∀ e ∈ texts, vars.get? e.1 = some (substitute (known.only e.1) e.2)
  fresh : ∀ e ∈ texts, ∀ reference ∈ references e.2, reference ∈ texts.map Prod.fst →
    reference ≠ e.1 → reference ∉ known

namespace Unsettled

variable {known vars : NameMap String} {name text : String} {texts : List (String × String)}

theorem unfolded (h : Unsettled known ((name, text) :: texts) vars) :
    Unfolded vars name (scan (substitute (known.only name) text).toList)
      (scan (substitute known text).toList) := by
  have hc : SealedIn known text := h.sealed _ List.mem_cons_self
  rw [hc.scan_substitute, (hc.only name).scan_substitute]
  apply Unfolded.flatMap
  intro s hs
  cases s with
  | plain c => exact .refl _
  | marker other =>
    have hr : String.ofList other ∈ references text := mem_references_of_mem_scan hs
    rw [opened, opened, NameMap.get?_only]
    by_cases ho : name = String.ofList other
    · rw [if_pos ho, ho]
      exact .refl _
    · rw [if_neg ho]
      cases hv : known.get? (String.ofList other) with
      | none => exact .refl _
      | some value =>
        have hout : String.ofList other ∉ ((name, text) :: texts).map Prod.fst := fun hm =>
          h.fresh _ List.mem_cons_self _ hr hm (Ne.symm ho) (NameMap.mem_iff.mpr ⟨value, hv⟩)
        have hreplace := Unfolded.replace (Ne.symm ho) (h.kept _ hout value hv) .nil
        rwa [String.toList_ofList, List.append_nil] at hreplace

theorem unfoldsOnce (h : Unsettled known ((name, text) :: texts) vars) :
    UnfoldsOnce vars (vars.insert name (substitute known text)) :=
  .intro (h.stated _ List.mem_cons_self) h.unfolded

theorem ne_of_mem (h : Unsettled known ((name, text) :: texts) vars) {e : String × String}
    (he : e ∈ texts) : name ≠ e.1 := by
  rintro rfl
  exact (List.nodup_cons.mp h.distinct).1 (List.mem_map.mpr ⟨e, he, rfl⟩)

theorem tail (h : Unsettled known ((name, text) :: texts) vars) :
    Unsettled (known.insert name (substitute known text)) texts
      (vars.insert name (substitute known text)) where
  distinct := (List.nodup_cons.mp h.distinct).2
  sealed := by
    intro e he
    have hs := (h.sealed _ List.mem_cons_self).sealed_substitute
    exact (h.sealed e (List.mem_cons_of_mem _ he)).insert name hs
  kept := by
    intro other ho value hv
    rw [NameMap.get?_insert] at hv ⊢
    split
    next hn => rwa [if_pos hn] at hv
    next hn =>
      rw [if_neg hn] at hv
      exact h.kept other (List.not_mem_cons_of_ne_of_not_mem (Ne.symm hn) ho) value hv
  stated := by
    intro e he
    have honly : (known.insert name (substitute known text)).only e.1 = known.only e.1 :=
      NameMap.only_congr (by simp [h.ne_of_mem he])
    rw [NameMap.get?_insert, if_neg (h.ne_of_mem he), honly]
    exact h.stated e (List.mem_cons_of_mem _ he)
  fresh := by
    intro e he reference hr hm hself
    rw [NameMap.mem_insert, not_or]
    constructor
    · rintro rfl
      exact (List.nodup_cons.mp h.distinct).1 hm
    · exact h.fresh e (List.mem_cons_of_mem _ he) reference hr (List.mem_cons_of_mem _ hm) hself

end Unsettled

theorem Unsettled.unfolds {texts : List (String × String)} {known vars : NameMap String}
    (h : Unsettled known texts vars) : Unfolds vars (vars.update (settle known texts)) := by
  induction texts generalizing known vars with
  | nil =>
    have hsub : known ⊆ vars := fun name => h.kept name List.not_mem_nil
    rw [settle, List.foldl_nil, NameMap.update_of_subset hsub]
    exact .refl
  | cons e texts ih =>
    obtain ⟨name, text⟩ := e
    refine .head h.unfoldsOnce ?_
    have hmem : name ∈ settle known ((name, text) :: texts) :=
      mem_settle.mpr (.inr List.mem_cons_self)
    have hsame : vars.update (settle known ((name, text) :: texts)) =
        (vars.insert name (substitute known text)).update
          (settle known ((name, text) :: texts)) := by
      apply NameMap.update_congr
      intro other ho
      have hn : name ≠ other := fun hn => ho (hn ▸ hmem)
      rw [NameMap.get?_insert, if_neg hn]
    rw [hsame]
    exact ih h.tail

theorem allSealed_settle {texts : List (String × String)} {known : NameMap String}
    (hk : known.AllSealed) (ht : ∀ e ∈ texts, Sealed e.2) : (settle known texts).AllSealed := by
  induction texts generalizing known with
  | nil => exact hk
  | cons e texts ih =>
    have hc : SealedIn known e.2 := hk.sealedIn (ht e List.mem_cons_self)
    exact ih (hk.insert hc.sealed_substitute) fun f hf => ht f (List.mem_cons_of_mem e hf)

namespace Resolved

variable {vars : NameMap String} {r : Resolution}

theorem get?_of_mem_listed (h : Resolved vars r) {e : String × String}
    (he : e ∈ listed vars (substitutionOrder vars r.depth)) : vars.get? e.1 = some e.2 := by
  obtain ⟨name, hn, rfl⟩ := List.mem_map.mp he
  have hm : name ∈ vars := NameMap.mem_keys.mp (h.referencesFirst.perm.mem_iff.mp hn)
  obtain ⟨text, ht⟩ := NameMap.mem_iff.mp hm
  simp [ht]

theorem allSealed (h : Resolved vars r) (hc : vars.AllSealed) : r.resolved.AllSealed :=
  h.settled ▸ allSealed_settle allSealed_empty fun e he => hc e.1 e.2 (h.get?_of_mem_listed he)

theorem unfolds (h : Resolved vars r) (hc : vars.AllSealed) {more : NameMap String}
    (hs : vars ⊆ more) : Unfolds more (more.update r.resolved) := by
  rw [h.settled]
  apply Unsettled.unfolds
  constructor
  · rw [map_fst_listed]
    exact h.referencesFirst.perm.nodup_iff.mpr vars.nodup_keys
  · intro e he
    exact allSealed_empty.sealedIn (hc e.1 e.2 (h.get?_of_mem_listed he))
  · exact nofun
  · intro e he
    rw [hs e.1 e.2 (h.get?_of_mem_listed he), NameMap.only_of_not_mem (NameMap.not_mem_empty e.1),
      substitute_empty]
  · exact fun _ _ _ _ _ _ => NameMap.not_mem_empty _

theorem resolve_again (h : Resolved vars r) (hc : vars.AllSealed) :
    ∃ depth, resolve r.resolved = .ok ⟨r.resolved, depth⟩ := by
  have hu := h.unfolds hc (NameMap.subset_refl vars)
  have hall : vars.update r.resolved = (∅ : NameMap String).update r.resolved :=
    NameMap.update_congr fun name hn => NameMap.not_mem_iff.mp (mt h.solves.mem_iff.mpr hn)
  rw [hall, NameMap.empty_update] at hu
  exact hu.resolve_iff.mp (exists_resolve_eq_iff.mpr ⟨h.grounded, h.solves⟩)

end Resolved

end GenPlan
