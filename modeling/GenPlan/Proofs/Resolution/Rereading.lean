import GenPlan.Proofs.Resolution.Final

namespace GenPlan

open Segment

/-- The same names, where the value of each has some markers of other names replaced by the values these
names come to have. -/
structure UnfoldsInto (vars next : NameMap String) : Prop where
  mem_iff : ∀ name, name ∈ next ↔ name ∈ vars
  unfolded : ∀ name text value, vars.get? name = some text → next.get? name = some value →
    Unfolded next name (scan text.toList) (scan value.toList)

namespace UnfoldsInto

variable {vars next : NameMap String}

theorem refers (h : UnfoldsInto vars next) {name reference : String}
    (hr : Refers next name reference) :
    Refers vars name reference ∨ ∃ other, Refers vars name other ∧ Refers next other reference := by
  obtain ⟨hk, value, hv, hrv⟩ := hr
  obtain ⟨text, ht⟩ := NameMap.mem_iff.mp ((h.mem_iff name).mp (NameMap.mem_iff.mpr ⟨value, hv⟩))
  have hu := h.unfolded name text value ht hv
  obtain hm | ⟨other, inner, hm, hi, hr⟩ := hu.mem_or_exists (mem_references_iff.mp hrv)
  · exact .inl ⟨(h.mem_iff reference).mp hk, text, ht, mem_references_iff.mpr hm⟩
  · have ho : other ∈ vars := (h.mem_iff other).mp (NameMap.mem_iff.mpr ⟨inner, hi⟩)
    exact .inr ⟨other, ⟨ho, text, ht, mem_references_iff.mpr hm⟩, hk, inner, hi, hr⟩

theorem grounded (h : UnfoldsInto vars next) (hg : Grounded vars) : Grounded next := by
  refine ⟨fun name => ?_⟩
  induction name using hg.induction with
  | _ name ih =>
    refine ⟨name, fun reference hr => ?_⟩
    obtain hr | ⟨other, ho, hr⟩ := h.refers hr
    · exact ih reference hr
    · exact (ih other ho).inv hr

theorem solves (h : UnfoldsInto vars next) {known : NameMap String} (hs : Solves next known) :
    Solves vars known := by
  refine ⟨hs.keys.trans (NameMap.keys_eq_iff.mpr h.mem_iff), fun name text ht => ?_⟩
  obtain ⟨value, hv⟩ := NameMap.mem_iff.mp ((h.mem_iff name).mpr (NameMap.mem_iff.mpr ⟨text, ht⟩))
  have hsame : substitute known value = substitute known text := by
    have hu := h.unfolded name text value ht hv
    rw [substitute, substitute, hu.flatMap_expand fun other inner _ hi => hs.value other inner hi]
  rw [hs.value name value hv, hsame]

theorem resolve_eq (h : UnfoldsInto vars next) {known : NameMap String}
    (hr : ∃ depth, resolve vars = .ok ⟨known, depth⟩) :
    ∃ depth, resolve next = .ok ⟨known, depth⟩ := by
  obtain ⟨hg, hs⟩ := exists_resolve_eq_iff.mp hr
  obtain ⟨r, hn⟩ := exists_resolve_iff_grounded.mpr (h.grounded hg)
  have hsolved : Solves next r.resolved := (resolved_of_resolve hn).solves
  have hknown : r.resolved = known := (h.solves hsolved).unique hg hs
  exact ⟨r.depth, hknown ▸ hn⟩

end UnfoldsInto

/-- The texts that a settling leaves, where those of some names are as they were. -/
def restored (raw : String → Bool) :
    NameMap String → List (String × String) → List (String × String)
  | _, [] => []
  | known, (name, text) :: texts =>
    let settled := substitute known text
    (name, if raw name then text else settled) :: restored raw (known.insert name settled) texts

@[simp]
theorem map_fst_restored (raw : String → Bool) (known : NameMap String)
    (texts : List (String × String)) :
    (restored raw known texts).map Prod.fst = texts.map Prod.fst := by
  induction texts generalizing known with
  | nil => rfl
  | cons e texts ih =>
    obtain ⟨name, text⟩ := e
    simp only [restored, List.map_cons, ih]

theorem restored_congr {raw raw' : String → Bool} {texts : List (String × String)}
    (h : ∀ name ∈ texts.map Prod.fst, raw name = raw' name) (known : NameMap String) :
    restored raw known texts = restored raw' known texts := by
  induction texts generalizing known with
  | nil => rfl
  | cons e texts ih =>
    obtain ⟨name, text⟩ := e
    rw [restored, restored, h name List.mem_cons_self,
      ih fun other ho => h other (List.mem_cons_of_mem name ho)]

theorem restored_append (raw : String → Bool) (known : NameMap String)
    (texts more : List (String × String)) :
    restored raw known (texts ++ more) =
      restored raw known texts ++ restored raw (settle known texts) more := by
  induction texts generalizing known with
  | nil => rfl
  | cons e texts ih =>
    obtain ⟨name, text⟩ := e
    rw [List.cons_append, restored, restored, ih, settle_cons, List.cons_append]

theorem restored_eq_self {raw : String → Bool} {texts : List (String × String)}
    (h : ∀ name ∈ texts.map Prod.fst, raw name = true) (known : NameMap String) :
    restored raw known texts = texts := by
  induction texts generalizing known with
  | nil => rfl
  | cons e texts ih =>
    obtain ⟨name, text⟩ := e
    rw [restored, h name List.mem_cons_self, if_pos rfl,
      ih fun other ho => h other (List.mem_cons_of_mem name ho)]

def settledTexts (known : NameMap String) (texts : List (String × String)) :
    List (String × String) := restored (fun _ => false) known texts

theorem settledTexts_cons (known : NameMap String) (name text : String)
    (texts : List (String × String)) :
    settledTexts known ((name, text) :: texts) = (name, substitute known text) ::
      settledTexts (known.insert name (substitute known text)) texts := rfl

/-- What is known by now: final values from before, and others that refer to none of those names. -/
structure Beyond (parent known : NameMap String) : Prop where
  allSealed : known.AllSealed
  parent_known : ∀ name ∈ parent, name ∈ known
  outside : ∀ name value, known.get? name = some value →
    ∀ reference ∈ references value, reference ∉ parent

namespace Beyond

variable {parent known : NameMap String} {name text : String}

theorem sealed_substitute (h : Beyond parent known) (ht : Sealed text) :
    Sealed (substitute known text) := (h.allSealed.sealedIn ht).sealed_substitute

theorem not_mem_parent (h : Beyond parent known) (ht : Sealed text) {reference : String}
    (hr : reference ∈ references (substitute known text)) : reference ∉ parent := by
  rw [mem_references_substitute (h.allSealed.sealedIn ht).scan_substitute] at hr
  obtain ⟨_, hn⟩ | ⟨other, _, value, hv, hr⟩ := hr
  · exact fun hp => hn (h.parent_known reference hp)
  · exact h.outside other value hv reference hr

theorem insert (h : Beyond parent known) (ht : Sealed text) (name : String) :
    Beyond parent (known.insert name (substitute known text)) where
  allSealed := h.allSealed.insert (h.sealed_substitute ht)
  parent_known := fun other ho => NameMap.mem_insert.mpr (.inr (h.parent_known other ho))
  outside := by
    intro other value hv
    rw [NameMap.get?_insert] at hv
    split at hv
    · cases hv
      exact fun reference => h.not_mem_parent ht
    · exact h.outside other value hv

end Beyond

theorem NameMap.Final.beyond {parent : NameMap String} (h : parent.Final) :
    Beyond parent parent := ⟨h.allSealed, fun _ hm => hm, h.saturated⟩

/-- Two settlings side by side, the second over what the first has left. What both know of a name is
the same up to markers that the second has replaced, and these are of names that are settled by then. -/
structure Abreast (parent next known again : NameMap String) (left : List String) : Prop where
  beyond : Beyond parent known
  again_sealed : again.AllSealed
  mem_iff : ∀ name, name ∈ again ↔ name ∈ known
  settled : ∀ name ∉ parent, ∀ value, again.get? name = some value →
    next.get? name = some value ∧ name ∉ left
  unfolded : ∀ name value other, known.get? name = some value → again.get? name = some other →
    ∀ later ∈ left, Unfolded next later (scan value.toList) (scan other.toList)

namespace Abreast

variable {parent next known again : NameMap String} {left : List String} {name text : String}

theorem unfolded_settled (h : Abreast parent next known again left) (ht : Sealed text)
    {later : String} (hl : later ∈ left) :
    Unfolded next later (scan (substitute known text).toList)
      (scan (substitute again (substitute known text)).toList) := by
  have hs : Sealed (substitute known text) := h.beyond.sealed_substitute ht
  rw [(h.again_sealed.sealedIn hs).scan_substitute]
  conv => arg 3; rw [← List.flatMap_singleton' (scan (substitute known text).toList)]
  apply Unfolded.flatMap
  intro s hm
  cases s with
  | plain c => exact .refl _
  | marker other =>
    have hout := h.beyond.not_mem_parent ht (mem_references_of_mem_scan hm)
    rw [opened]
    cases hv : again.get? (String.ofList other) with
    | none => exact .refl _
    | some value =>
      obtain ⟨hnext, hleft⟩ := h.settled _ hout value hv
      have hne : String.ofList other ≠ later := fun he => hleft (he ▸ hl)
      have hreplace := Unfolded.replace hne hnext .nil
      rwa [String.toList_ofList, List.append_nil] at hreplace

theorem unfolded_restored (h : Abreast parent next known again left) (ht : Sealed text)
    {later : String} (hl : later ∈ left) :
    Unfolded next later (scan (substitute known text).toList)
      (scan (substitute again text).toList) := by
  rw [(h.beyond.allSealed.sealedIn ht).scan_substitute,
    (h.again_sealed.sealedIn ht).scan_substitute]
  apply Unfolded.flatMap
  intro s _
  cases s with
  | plain c => exact .refl _
  | marker other =>
    have hmem := h.mem_iff (String.ofList other)
    rw [NameMap.mem_iff, NameMap.mem_iff] at hmem
    rw [opened, opened]
    cases hk : known.get? (String.ofList other) with
    | none =>
      have ha : again.get? (String.ofList other) = none := by
        simpa [hk, Option.eq_none_iff_forall_ne_some] using hmem
      rw [ha]
      exact .refl _
    | some value =>
      obtain ⟨inner, ha⟩ := hmem.mpr ⟨value, hk⟩
      rw [ha]
      exact h.unfolded _ value inner hk ha later hl

theorem tail (h : Abreast parent next known again (name :: left)) (hd : name ∉ left)
    (ht : Sealed text) {value : String}
    (hv : value = substitute again text ∨ value = substitute again (substitute known text))
    (hn : next.get? name = some value) :
    Abreast parent next (known.insert name (substitute known text)) (again.insert name value)
      left where
  beyond := h.beyond.insert ht name
  again_sealed := by
    obtain rfl | rfl := hv
    · exact h.again_sealed.insert (h.again_sealed.sealedIn ht).sealed_substitute
    · have hs : Sealed (substitute known text) := h.beyond.sealed_substitute ht
      exact h.again_sealed.insert (h.again_sealed.sealedIn hs).sealed_substitute
  mem_iff := by
    intro other
    rw [NameMap.mem_insert, NameMap.mem_insert, h.mem_iff]
  settled := by
    intro other ho inner hi
    rw [NameMap.get?_insert] at hi
    split at hi
    next he =>
      cases hi
      exact he ▸ ⟨hn, hd⟩
    · obtain ⟨hnext, hl⟩ := h.settled other ho inner hi
      exact ⟨hnext, fun hm => hl (List.mem_cons_of_mem name hm)⟩
  unfolded := by
    intro other inner reread hk ha later hl
    have hl : later ∈ name :: left := List.mem_cons_of_mem name hl
    rw [NameMap.get?_insert] at hk ha
    split at hk
    next he =>
      rw [if_pos he] at ha
      cases hk
      cases ha
      obtain rfl | rfl := hv
      · exact h.unfolded_restored ht hl
      · exact h.unfolded_settled ht hl
    next he =>
      rw [if_neg he] at ha
      exact h.unfolded other inner reread hk ha later hl

end Abreast

/-- Along the texts each is settled to one value, and the second time to another that it unfolds into. -/
theorem Abreast.run {raw : String → Bool} {texts : List (String × String)}
    {parent known again : NameMap String} (hd : (texts.map Prod.fst).Nodup)
    (ht : ∀ e ∈ texts, Sealed e.2)
    (h : Abreast parent (settle again (restored raw known texts)) known again
      (texts.map Prod.fst)) :
    ∀ name ∈ texts.map Prod.fst, ∀ text value, (settle known texts).get? name = some text →
      (settle again (restored raw known texts)).get? name = some value →
      Unfolded (settle again (restored raw known texts)) name (scan text.toList)
        (scan value.toList) := by
  induction texts generalizing known again with
  | nil => exact nofun
  | cons e texts ih =>
    obtain ⟨name, text⟩ := e
    obtain ⟨hname, hd⟩ := List.nodup_cons.mp hd
    have hsealed : Sealed text := ht _ List.mem_cons_self
    obtain ⟨value, hv, hnext⟩ : ∃ value,
        (value = substitute again text ∨ value = substitute again (substitute known text)) ∧
        settle again (restored raw known ((name, text) :: texts)) =
          settle (again.insert name value)
            (restored raw (known.insert name (substitute known text)) texts) := by
      rw [restored, settle_cons]
      cases raw name with
      | true => exact ⟨_, .inl rfl, rfl⟩
      | false => exact ⟨_, .inr rfl, rfl⟩
    have hvalue : (settle again (restored raw known ((name, text) :: texts))).get? name =
        some value := by
      rw [hnext, get?_settle_of_not_mem (by simpa using hname), NameMap.get?_insert, if_pos rfl]
    have htail := h.tail hname hsealed hv hvalue
    rw [hnext] at htail
    have ih := ih hd (fun e he => ht e (List.mem_cons_of_mem _ he)) htail
    intro other ho first second hf hs
    obtain rfl | ho := List.mem_cons.mp ho
    · have hfirst : (settle known ((other, text) :: texts)).get? other =
          some (substitute known text) := by
        rw [settle_cons, get?_settle_of_not_mem hname, NameMap.get?_insert, if_pos rfl]
      cases hfirst.symm.trans hf
      cases hvalue.symm.trans hs
      obtain rfl | rfl := hv
      · exact h.unfolded_restored hsealed List.mem_cons_self
      · exact h.unfolded_settled hsealed List.mem_cons_self
    · rw [hnext] at hs ⊢
      exact ih other ho first second hf hs

theorem NameMap.Final.abreast {parent : NameMap String} (h : parent.Final) (next : NameMap String)
    (left : List String) : Abreast parent next parent parent left where
  beyond := h.beyond
  again_sealed := h.allSealed
  mem_iff := fun _ => Iff.rfl
  settled := fun name hn value hv => absurd (NameMap.mem_iff.mpr ⟨value, hv⟩) hn
  unfolded := by
    intro name value other hk ha later _
    cases hk.symm.trans ha
    exact .refl _

theorem NameMap.Final.unfoldsInto_settle {parent : NameMap String} (h : parent.Final)
    {texts : List (String × String)} (hd : (texts.map Prod.fst).Nodup)
    (ht : ∀ e ∈ texts, Sealed e.2) (raw : String → Bool) :
    UnfoldsInto (settle parent texts) (settle parent (restored raw parent texts)) where
  mem_iff := by
    intro name
    rw [mem_settle, mem_settle, map_fst_restored]
  unfolded := by
    intro name text value hf hs
    by_cases hn : name ∈ texts.map Prod.fst
    · exact (h.abreast _ _).run hd ht name hn text value hf hs
    · rw [get?_settle_of_not_mem hn] at hf
      rw [get?_settle_of_not_mem (by simpa using hn)] at hs
      cases hf.symm.trans hs
      exact .refl _

end GenPlan
