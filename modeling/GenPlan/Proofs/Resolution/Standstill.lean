import GenPlan.Proofs.Resolution.Rereading

namespace GenPlan

variable {parent vars known : NameMap String} {left : List String} {name text : String}

theorem Beyond.not_mem_of_mem_settledTexts {texts : List (String × String)}
    (h : Beyond parent known) (ht : ∀ e ∈ texts, Sealed e.2) :
    ∀ e ∈ settledTexts known texts, ∀ reference ∈ references e.2, reference ∉ parent := by
  induction texts generalizing known with
  | nil => exact nofun
  | cons e texts ih =>
    obtain ⟨name, text⟩ := e
    have hsealed : Sealed text := ht _ List.mem_cons_self
    rw [settledTexts_cons, List.forall_mem_cons]
    exact ⟨fun reference => h.not_mem_parent hsealed,
      ih (h.insert hsealed name) fun e he => ht e (List.mem_cons_of_mem _ he)⟩

/-- Settling a settled text again changes nothing exactly if it refers to nothing that is known: of
the known names it refers to, one that no other leads to is gone afterwards. -/
theorem Abreast.substitute_eq_self_iff (h : Abreast parent vars known known left)
    (hg : Grounded vars) (ht : Sealed text) :
    substitute known (substitute known text) = substitute known text ↔
      ∀ reference ∈ references (substitute known text), reference ∉ known := by
  refine ⟨fun heq => ?_, substitute_of_not_mem⟩
  by_contra! hex
  obtain ⟨r, hr⟩ := exists_resolve_iff_grounded.mpr hg
  have hresolved := resolved_of_resolve hr
  let rank (name : String) : Nat := (r.depth.get? name).getD 0
  obtain ⟨first, hfirst, hknown⟩ := hex
  obtain ⟨top, htop, hmax⟩ := Finset.exists_max_image
    ((references (substitute known text)).toFinset.filter (· ∈ known)) rank
    ⟨first, by simp [hfirst, hknown]⟩
  simp only [Finset.mem_filter, List.mem_toFinset, and_imp] at htop hmax
  obtain ⟨hmem, htop⟩ := htop
  have hsettled := h.beyond.allSealed.sealedIn (h.beyond.sealed_substitute ht)
  have hagain := hmem
  rw [← heq, mem_references_substitute hsettled.scan_substitute] at hagain
  obtain ⟨_, hn⟩ | ⟨other, ho, value, hv, hin⟩ := hagain
  · exact hn htop
  · have hother := (h.settled other (h.beyond.not_mem_parent ht ho) value hv).1
    obtain ⟨inner, hi⟩ := NameMap.mem_iff.mp htop
    have htop' := (h.settled top (h.beyond.not_mem_parent ht hmem) inner hi).1
    have hlt : rank top < rank other :=
      hresolved.depth_lt ⟨NameMap.mem_iff.mpr ⟨inner, htop'⟩, value, hother, hin⟩
    have hle : rank other ≤ rank top := hmax other ho (NameMap.mem_iff.mpr ⟨value, hv⟩)
    omega

theorem forall_not_mem_insert_iff {es : List (String × String)} {raw : String → Bool}
    {value : String} :
    (∀ e ∈ es, raw e.1 = false → ∀ reference ∈ references e.2,
      reference ∉ known.insert name value) ↔
    (∀ e ∈ es, raw e.1 = false → ∀ reference ∈ references e.2, reference ∉ known) ∧
      ∀ e ∈ es, raw e.1 = false → name ∉ references e.2 := by
  simp only [NameMap.mem_insert, not_or]
  constructor
  · intro hall
    exact ⟨fun e he hr reference hm => (hall e he hr reference hm).2,
      fun e he hr hm => (hall e he hr name hm).1 rfl⟩
  · rintro ⟨hknown, hname⟩ e he hr reference hm
    exact ⟨fun hn => hname e he hr (hn ▸ hm), hknown e he hr reference hm⟩

theorem Abreast.settledTexts_restored_eq_iff {raw : String → Bool} {texts : List (String × String)}
    (hg : Grounded vars) (hd : (texts.map Prod.fst).Nodup) (ht : ∀ e ∈ texts, Sealed e.2)
    (hvars : settle known texts = vars)
    (h : Abreast parent vars known known (texts.map Prod.fst)) :
    settledTexts known (restored raw known texts) = settledTexts known texts ↔
      (∀ e ∈ settledTexts known texts, raw e.1 = false →
        ∀ reference ∈ references e.2, reference ∉ known) ∧
      (settledTexts known texts).Pairwise fun e later =>
        raw later.1 = false → e.1 ∉ references later.2 := by
  induction texts generalizing known with
  | nil => simp [settledTexts, restored]
  | cons e texts ih =>
    obtain ⟨name, text⟩ := e
    obtain ⟨hname, hd⟩ := List.nodup_cons.mp hd
    have hsealed : Sealed text := ht _ List.mem_cons_self
    have hvalue : vars.get? name = some (substitute known text) := by
      rw [← hvars, settle_cons, get?_settle_of_not_mem hname, NameMap.get?_insert, if_pos rfl]
    have hrest := ih hd (fun e he => ht e (List.mem_cons_of_mem _ he))
      (hvars ▸ (settle_cons known name text texts).symm) (h.tail hname hsealed (.inl rfl) hvalue)
    have hhead := h.substitute_eq_self_iff hg hsealed
    rw [forall_not_mem_insert_iff] at hrest
    rw [restored, settledTexts_cons, settledTexts_cons, List.cons.injEq, List.pairwise_cons,
      List.forall_mem_cons]
    cases hraw : raw name with
    | true =>
      simp only [if_true, hrest, true_and, reduceCtorEq, false_imp_iff, and_assoc]
    | false =>
      simp only [Bool.false_eq_true, if_false, Prod.mk.injEq, true_and, forall_const]
      constructor
      · rintro ⟨heq, hnext⟩
        rw [heq, hrest] at hnext
        exact ⟨⟨hhead.mp heq, hnext.1.1⟩, hnext.1.2, hnext.2⟩
      · rintro ⟨⟨hself, hknown⟩, hname, hp⟩
        have heq := hhead.mpr hself
        rw [heq]
        exact ⟨rfl, hrest.mpr ⟨⟨hknown, hname⟩, hp⟩⟩

/-- Settling again leaves the texts as they are exactly if none of them refers to the name of an earlier
one, save those that have been restored before. -/
theorem NameMap.Final.settledTexts_restored_eq_iff (h : parent.Final) {raw : String → Bool}
    {texts : List (String × String)} (hg : Grounded (settle parent texts))
    (hd : (texts.map Prod.fst).Nodup) (ht : ∀ e ∈ texts, Sealed e.2) :
    settledTexts parent (restored raw parent texts) = settledTexts parent texts ↔
      (settledTexts parent texts).Pairwise fun e later =>
        raw later.1 = false → e.1 ∉ references later.2 := by
  rw [Abreast.settledTexts_restored_eq_iff hg hd ht rfl (h.abreast _ _), and_iff_right_iff_imp]
  exact fun _ e he _ => h.beyond.not_mem_of_mem_settledTexts ht e he

end GenPlan
