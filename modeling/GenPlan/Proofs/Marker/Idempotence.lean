import GenPlan.Proofs.Marker.Layout

namespace GenPlan

open Segment

theorem forall_eq_of_flatMap_eq {α β : Type} {f g : α → List β} {l : List α}
    (h : ∀ a ∈ l, g a <:+: f a → f a = g a) {p : List β}
    (he : l.flatMap f = p ++ l.flatMap g) : p = [] ∧ ∀ a ∈ l, f a = g a := by
  induction l generalizing p with
  | nil => simpa using he
  | cons a l ih =>
    have ih {q : List β} := @ih (fun b hb => h b (List.mem_cons_of_mem a hb)) q
    rw [List.flatMap_cons, List.flatMap_cons, ← List.append_assoc] at he
    rw [List.forall_mem_cons]
    obtain ⟨q, ha, hl⟩ | ⟨q, ha, hl⟩ := List.append_eq_append_iff.mp he
    · obtain ⟨rfl, hall⟩ := ih hl
      rw [List.append_nil] at ha
      have hfa : f a = g a := h a List.mem_cons_self (ha ▸ (List.suffix_append p (g a)).isInfix)
      rw [hfa, List.append_left_eq_self] at ha
      exact ⟨ha, hfa, hall⟩
    · have hfa : f a = g a := h a List.mem_cons_self ⟨p, q, ha.symm⟩
      have hlen := congrArg List.length ha
      rw [hfa, List.length_append, List.length_append] at hlen
      have hp : p = [] := List.length_eq_zero_iff.mp (by omega)
      have hq : q = [] := List.length_eq_zero_iff.mp (by omega)
      rw [hq, List.nil_append] at hl
      exact ⟨hp, hfa, (ih (q := []) hl.symm).2⟩

variable {vars : NameMap String} {text : String}

namespace Segment

theorem expand_of_not_mem {name : List Char} (h : String.ofList name ∉ vars) :
    expand vars (marker name) = source (marker name) := by
  rw [expand, NameMap.not_mem_iff.mp h]
  rfl

theorem not_mem_of_source_infix_expand (hv : ∀ e ∈ vars.entries, references e.2 = [])
    {name : List Char} (hi : source (marker name) <:+: expand vars (marker name)) :
    String.ofList name ∉ vars := by
  intro hm
  obtain ⟨value, hg⟩ := NameMap.mem_iff.mp hm
  rw [expand, hg, source_marker] at hi
  obtain ⟨before, after, he⟩ := hi
  have hopened : value.toList = before ++ opening ++ (name ++ '\x7d' :: after) :=
    he.symm.trans (by simp)
  have hunclosed := references_eq_nil_iff.mp (hv _ (NameMap.get?_eq_some_iff.mp hg))
  exact hunclosed before _ hopened (List.mem_append_right name List.mem_cons_self)

end Segment

theorem substitute_eq_self_iff (hv : ∀ e ∈ vars.entries, references e.2 = []) :
    substitute vars text = text ↔ ∀ name ∈ references text, name ∉ vars := by
  refine ⟨fun he name hr => ?_, substitute_of_not_mem⟩
  have hsame : (scan text.toList).flatMap (expand vars) =
      [] ++ (scan text.toList).flatMap source := by
    rw [flatMap_source_scan, List.nil_append]
    simpa only [substitute, String.toList_ofList] using congrArg String.toList he
  have hinfix : ∀ s ∈ scan text.toList, source s <:+: expand vars s → expand vars s = source s := by
    intro s _ hi
    cases s with
    | plain c => rfl
    | marker name => exact expand_of_not_mem (not_mem_of_source_infix_expand hv hi)
  have hself := (forall_eq_of_flatMap_eq hinfix hsame).2 _ (mem_references_iff.mp hr)
  rw [← String.ofList_toList (s := name)]
  exact not_mem_of_source_infix_expand hv (hself ▸ List.infix_refl _)

/-- In no value that is put in, a dollar sign is the last character or stands right before an opening
brace, and in the text none outside markers stands right before a marker that is replaced. -/
structure Seamless (vars : NameMap String) (text : String) : Prop where
  values_sealed : ∀ name ∈ references text, ∀ value, vars.get? name = some value → Sealed value
  apart : ∀ name ∈ references text, name ∈ vars →
    ¬ [plain '$', marker name.toList] <:+: scan text.toList

namespace Segment

theorem scan_cons_flatMap_expand {c : Char} {cs : List Char}
    (hs : scan (c :: cs) = plain c :: scan cs)
    (hd : c = '$' → ∀ name rest, scan cs = marker name :: rest → String.ofList name ∉ vars) :
    scan (c :: (scan cs).flatMap (expand vars)) =
      plain c :: scan ((scan cs).flatMap (expand vars)) := by
  refine (scan_cons c ((scan cs).flatMap (expand vars))).resolve_right ?_
  rintro ⟨name, rest, _, he⟩
  -- what follows would have to start with an opening brace
  rw [source_marker_append] at he
  obtain ⟨rfl, hnext⟩ := List.cons.inj he
  cases cs with
  | nil => cases hnext
  | cons d cs =>
    obtain hplain | ⟨other, after, ho, hother⟩ := scan_cons d cs
    · rw [hplain, List.flatMap_cons] at hnext
      obtain ⟨rfl, hafter⟩ := List.cons.inj hnext
      have hc : '\x7d' ∉ cs := unclosed_of_scan hs
      have hcs : scan cs = cs.map plain := scan_of_unclosed fun _ _ hm hmem =>
        hc (hm ▸ List.mem_append_right _ hmem)
      have hsame : cs = name ++ '\x7d' :: rest := by
        rwa [hcs, flatMap_expand_map_plain] at hafter
      exact hc (hsame ▸ List.mem_append_right name List.mem_cons_self)
    · rw [hother, scan_marker ho] at hnext hd
      rw [List.flatMap_cons, expand_of_not_mem (hd rfl other _ rfl)] at hnext
      exact absurd (List.cons.inj hnext).1 (by decide)

theorem scan_flatMap_expand {cs : List Char}
    (hv : ∀ name, marker name ∈ scan cs → ∀ value, vars.get? (String.ofList name) = some value →
      Stable (scan value.toList))
    (hd : ∀ name, [plain '$', marker name] <:+: scan cs → String.ofList name ∉ vars) :
    scan ((scan cs).flatMap (expand vars)) = (scan cs).flatMap (opened vars) := by
  induction cs using scan_induction with
  | nil => rfl
  | plain c cs hs ih =>
    rw [hs] at hv hd ⊢
    have ih := ih (fun name hn => hv name (List.mem_cons_of_mem _ hn))
      fun name hn => hd name (hn.trans (List.infix_cons (List.infix_refl _)))
    rw [List.flatMap_cons, List.flatMap_cons, ← ih]
    refine scan_cons_flatMap_expand hs ?_
    rintro rfl name rest hm
    exact hd name ⟨[], rest, by rw [hm]; rfl⟩
  | marker name cs hn ih =>
    rw [scan_marker hn] at hv hd ⊢
    have ih := ih (fun name hn => hv name (List.mem_cons_of_mem _ hn))
      fun name hn => hd name (hn.trans (List.infix_cons (List.infix_refl _)))
    rw [List.flatMap_cons, List.flatMap_cons, ← ih, opened, expand]
    cases hg : vars.get? (String.ofList name) with
    | none => exact scan_marker hn _
    | some value =>
      have h := (hv name List.mem_cons_self value hg).scan_source_append
        ((scan cs).flatMap (expand vars))
      rwa [flatMap_source_scan] at h

end Segment

theorem Seamless.scan_substitute (h : Seamless vars text) :
    scan (substitute vars text).toList = (scan text.toList).flatMap (opened vars) := by
  rw [substitute, String.toList_ofList]
  refine scan_flatMap_expand
    (fun name hn => h.values_sealed _ (mem_references_of_mem_scan hn)) fun name hn hm => ?_
  have hr : String.ofList name ∈ references text :=
    mem_references_of_mem_scan (hn.subset (List.mem_cons_of_mem _ List.mem_cons_self))
  exact h.apart _ hr hm (by rwa [String.toList_ofList])

/-- Where no value has a marker, substituting again changes nothing exactly if no reference to a known
name is left, and without seams none is. -/
theorem substitute_again_eq_iff (vars : NameMap String) (text : String)
    (hv : ∀ e ∈ vars.entries, references e.2 = []) :
    (substitute vars (substitute vars text) = substitute vars text ↔
      ∀ name ∈ references (substitute vars text), name ∉ vars) ∧
    (Seamless vars text → substitute vars (substitute vars text) = substitute vars text) := by
  refine ⟨substitute_eq_self_iff hv, fun h => (substitute_eq_self_iff hv).mpr fun name hr => ?_⟩
  obtain ⟨_, hn⟩ | ⟨other, _, value, hg, hr⟩ :=
    (mem_references_substitute h.scan_substitute).mp hr
  · exact hn
  · rw [hv _ (NameMap.get?_eq_some_iff.mp hg)] at hr
    cases hr

def priced : NameMap String := .ofList [("price", "5"), ("unit", "{EUR}")]

theorem substitute_again_priced :
    (∀ e ∈ priced.entries, references e.2 = []) ∧
    Seamless priced "$${item} for $4 or ${price}${unit}$" ∧
    substitute priced "$${item} for $4 or ${price}${unit}$" = "$${item} for $4 or 5{EUR}$" ∧
    substitute priced (substitute priced "$${item} for $4 or ${price}${unit}$") =
      substitute priced "$${item} for $4 or ${price}${unit}$" := by
  have hv : ∀ e ∈ priced.entries, references e.2 = [] := by decide
  have hc : ∀ e ∈ priced.entries, Clean e.2 := by decide
  have hs : Seamless priced "$${item} for $4 or ${price}${unit}$" :=
    ⟨fun _ _ _ hg => (hc _ (NameMap.get?_eq_some_iff.mp hg)).sealed, by decide +kernel⟩
  exact ⟨hv, hs, by decide +kernel, (substitute_again_eq_iff priced _ hv).2 hs⟩

/-- A dollar sign before a marker and the brace its value starts with open one that was not there. -/
theorem not_substitute_again_eq : ¬ ∀ (vars : NameMap String) (text : String),
    (∀ e ∈ vars.entries, references e.2 = []) →
      substitute vars (substitute vars text) = substitute vars text := by
  intro h
  have hs := h (.ofList [("a", "A"), ("b", "{a}")]) "$${b}" (by decide)
  exact absurd hs (by decide)

end GenPlan
