import Mathlib.Data.List.Basic
import GenPlan.Proofs.NameMap
import GenPlan.Marker

namespace GenPlan

namespace Segment

theorem scanName_of_not_mem {cs : List Char} (h : '\x7d' ∉ cs) : scanName cs = none := by
  induction cs with
  | nil => rfl
  | cons c cs ih =>
    simp only [List.mem_cons, not_or] at h
    rw [scanName.eq_3 c cs (fun hc => h.1 hc.symm), ih h.2, Option.map_none]

theorem scanName_append {name : List Char} (h : '\x7d' ∉ name) (cs : List Char) :
    scanName (name ++ '\x7d' :: cs) = some (name, scan cs) := by
  induction name with
  | nil => exact scanName.eq_2 cs
  | cons c name ih =>
    simp only [List.mem_cons, not_or] at h
    rw [List.cons_append, scanName.eq_3 c _ (fun hc => h.1 hc.symm), ih h.2, Option.map_some]

theorem scan_plain {c : Char} (h : c ≠ '$') (cs : List Char) :
    scan (c :: cs) = plain c :: scan cs := scan.eq_3 c cs (fun _ hc _ => absurd hc h)

theorem source_marker_append (name cs : List Char) :
    source (marker name) ++ cs = '$' :: '\x7b' :: (name ++ '\x7d' :: cs) := by simp [source]

theorem scan_marker {name : List Char} (h : '\x7d' ∉ name) (cs : List Char) :
    scan (source (marker name) ++ cs) = marker name :: scan cs := by
  rw [source_marker_append, scan.eq_2, scanName_append h]

theorem scan_cons (c : Char) (cs : List Char) :
    scan (c :: cs) = plain c :: scan cs ∨
      ∃ name rest, '\x7d' ∉ name ∧ c :: cs = source (marker name) ++ rest := by
  by_cases hc : ∃ ds, c = '$' ∧ cs = '\x7b' :: ds
  · obtain ⟨ds, rfl, rfl⟩ := hc
    by_cases hd : '\x7d' ∈ ds
    · obtain ⟨name, rest, rfl, hn⟩ := List.eq_append_cons_of_mem hd
      exact .inr ⟨name, rest, hn, (source_marker_append name rest).symm⟩
    · left
      rw [scan.eq_2, scanName_of_not_mem hd, scan_plain (by decide)]
  · exact .inl (scan.eq_3 c cs fun ds h1 h2 => hc ⟨ds, h1, h2⟩)

theorem scan_induction {P : List Char → Prop} (nil : P [])
    (plain : ∀ c cs, scan (c :: cs) = plain c :: scan cs → P cs → P (c :: cs))
    (marker : ∀ name cs, '\x7d' ∉ name → P cs → P (source (marker name) ++ cs)) (cs : List Char) :
    P cs := by
  induction hn : cs.length using Nat.strongRecOn generalizing cs with
  | _ n ih =>
    cases cs with
    | nil => exact nil
    | cons c cs =>
      obtain h | ⟨name, rest, hname, hrest⟩ := scan_cons c cs
      · exact plain c cs h (ih cs.length (by simp [← hn]) cs rfl)
      · rw [hrest] at hn ⊢
        exact marker name rest hname (ih rest.length (by simp [← hn, source]; omega) rest rfl)

theorem flatMap_source_scan (cs : List Char) : (scan cs).flatMap source = cs := by
  induction cs using scan_induction with
  | nil => rfl
  | plain c cs h ih => rw [h, List.flatMap_cons, ih]; rfl
  | marker name cs hn ih => rw [scan_marker hn, List.flatMap_cons, ih]

theorem not_mem_of_marker_mem_scan {name cs : List Char} (h : marker name ∈ scan cs) :
    '\x7d' ∉ name := by
  induction cs using scan_induction with
  | nil => cases h
  | plain c cs hs ih =>
    rw [hs] at h
    exact ih ((List.mem_cons.mp h).resolve_left nofun)
  | marker other cs hn ih =>
    rw [scan_marker hn] at h
    obtain he | h := List.mem_cons.mp h
    · cases he
      exact hn
    · exact ih h

/-- Segments that are read back from their source whatever follows it. A dollar sign outside markers
is neither the last character nor right before an opening brace or a marker. -/
inductive Stable : List Segment → Prop
  | nil : Stable []
  | plain {c : Char} {a : List Segment} (hc : c ≠ '$') (h : Stable a) : Stable (plain c :: a)
  | dollar {c : Char} {a : List Segment} (hc : c ≠ '\x7b') (h : Stable (.plain c :: a)) :
    Stable (.plain '$' :: .plain c :: a)
  | marker {name : List Char} {a : List Segment} (hn : '\x7d' ∉ name) (h : Stable a) :
    Stable (marker name :: a)

namespace Stable

variable {a b : List Segment}

theorem append (ha : Stable a) (hb : Stable b) : Stable (a ++ b) := by
  induction ha with
  | nil => exact hb
  | plain hc _ ih => exact .plain hc ih
  | dollar hc _ ih => exact .dollar hc ih
  | marker hn _ ih => exact .marker hn ih

theorem scan_source_append (h : Stable a) (cs : List Char) :
    scan (a.flatMap source ++ cs) = a ++ scan cs := by
  induction h with
  | nil => rfl
  | plain hc _ ih => rw [List.cons_append, ← ih]; exact scan_plain hc _
  | dollar hc _ ih =>
    rw [List.cons_append, ← ih]
    exact scan.eq_3 '$' _ fun ds _ he => hc (List.cons.inj he).1
  | marker hn _ ih => rw [List.flatMap_cons, List.append_assoc, scan_marker hn, ih, List.cons_append]

theorem of_not_mem (hd : Segment.plain '$' ∉ a)
    (hm : ∀ name, Segment.marker name ∈ a → '\x7d' ∉ name) : Stable a := by
  induction a with
  | nil => exact .nil
  | cons s a ih =>
    rw [List.mem_cons, not_or] at hd
    have ih := ih hd.2 fun name hn => hm name (List.mem_cons_of_mem s hn)
    cases s with
    | plain c => exact .plain (fun hc => hd.1 (hc ▸ rfl)) ih
    | marker name => exact .marker (hm name List.mem_cons_self) ih

theorem scan_source (h : Stable a) : scan (a.flatMap source) = a := by
  simpa [scan] using h.scan_source_append []

end Stable

def opened (vars : NameMap String) : Segment → List Segment
  | plain c => [plain c]
  | marker name =>
    match vars.get? (String.ofList name) with
    | some value => scan value.toList
    | none => [marker name]

theorem Stable.flatMap_opened {vars : NameMap String} {a : List Segment} (h : Stable a)
    (hv : ∀ name, Segment.marker name ∈ a → ∀ value, vars.get? (String.ofList name) = some value →
      Stable (scan value.toList)) : Stable (a.flatMap (opened vars)) := by
  induction h with
  | nil => exact .nil
  | plain hc _ ih => exact .plain hc (ih fun name hn => hv name (List.mem_cons_of_mem _ hn))
  | dollar hc _ ih => exact .dollar hc (ih fun name hn => hv name (List.mem_cons_of_mem _ hn))
  | @marker name a hn _ ih =>
    have ih := ih fun other ho => hv other (List.mem_cons_of_mem _ ho)
    rw [List.flatMap_cons, opened]
    cases hg : vars.get? (String.ofList name) with
    | none => exact .marker hn ih
    | some value => exact (hv name List.mem_cons_self value hg).append ih

theorem flatMap_source_opened (vars : NameMap String) (s : Segment) :
    (opened vars s).flatMap source = expand vars s := by
  cases s with
  | plain c => rfl
  | marker name =>
    rw [opened, expand]
    cases vars.get? (String.ofList name) with
    | none => exact List.append_nil _
    | some value => exact flatMap_source_scan value.toList

theorem mem_references_iff {text name : String} :
    name ∈ references text ↔ marker name.toList ∈ scan text.toList := by
  rw [references, List.mem_filterMap]
  constructor
  · rintro ⟨s, hs, he⟩
    cases s with
    | plain c => cases he
    | marker other =>
      have ho : String.ofList other = name := Option.some.inj he
      rwa [← ho, String.toList_ofList]
  · exact fun h => ⟨_, h, congrArg some String.ofList_toList⟩

theorem mem_references_of_mem_scan {text : String} {name : List Char}
    (h : marker name ∈ scan text.toList) : String.ofList name ∈ references text :=
  mem_references_iff.mpr (by rwa [String.toList_ofList])

end Segment

open Segment

/-- No dollar sign outside the markers of a text can come to open a marker when other texts are put in
place of markers, or when the text is put in another one. -/
def Sealed (text : String) : Prop := Stable (scan text.toList)

theorem Clean.sealed {text : String} (h : Clean text) : Sealed text :=
  Stable.of_not_mem h fun _ => not_mem_of_marker_mem_scan

def NameMap.AllSealed (vars : NameMap String) : Prop :=
  ∀ name value, vars.get? name = some value → Sealed value

theorem allSealed_empty : (∅ : NameMap String).AllSealed := nofun

theorem NameMap.AllSealed.insert {vars : NameMap String} (h : vars.AllSealed)
    {name value : String} (hv : Sealed value) : (vars.insert name value).AllSealed := by
  intro other text ht
  rw [NameMap.get?_insert] at ht
  split at ht
  · cases ht
    exact hv
  · exact h other text ht

structure SealedIn (vars : NameMap String) (text : String) : Prop where
  text_sealed : Sealed text
  values_sealed : ∀ name ∈ references text, ∀ value, vars.get? name = some value → Sealed value

theorem SealedIn.of_clean {vars : NameMap String} {text : String} (ht : Clean text)
    (hv : ∀ e ∈ vars.entries, Clean e.2) : SealedIn vars text :=
  ⟨ht.sealed, fun _ _ _ h => (hv _ (NameMap.get?_eq_some_iff.mp h)).sealed⟩

theorem NameMap.AllSealed.sealedIn {vars : NameMap String} (h : vars.AllSealed) {text : String}
    (ht : Sealed text) : SealedIn vars text := ⟨ht, fun name _ => h name⟩

namespace SealedIn

variable {vars : NameMap String} {text : String}

theorem stable (h : SealedIn vars text) : Stable ((scan text.toList).flatMap (opened vars)) :=
  h.text_sealed.flatMap_opened fun _ hn => h.values_sealed _ (mem_references_of_mem_scan hn)

/-- Between sealed texts substitution neither makes nor breaks a marker. -/
theorem scan_substitute (h : SealedIn vars text) :
    scan (substitute vars text).toList = (scan text.toList).flatMap (opened vars) := by
  have hs : (substitute vars text).toList =
      ((scan text.toList).flatMap (opened vars)).flatMap source := by
    simp only [substitute, String.toList_ofList, List.flatMap_assoc, flatMap_source_opened]
  rw [hs, h.stable.scan_source]

theorem sealed_substitute (h : SealedIn vars text) : Sealed (substitute vars text) := by
  rw [Sealed, h.scan_substitute]
  exact h.stable

theorem only (h : SealedIn vars text) (name : String) : SealedIn (vars.only name) text := by
  refine ⟨h.text_sealed, fun reference hr value hv => ?_⟩
  rw [NameMap.get?_only] at hv
  split at hv
  next hn => exact h.values_sealed reference hr value (hn ▸ hv)
  · cases hv

theorem insert (h : SealedIn vars text) (name : String) {value : String} (hv : Sealed value) :
    SealedIn (vars.insert name value) text := by
  refine ⟨h.text_sealed, fun reference hr other ho => ?_⟩
  rw [NameMap.get?_insert] at ho
  split at ho
  · cases ho
    exact hv
  · exact h.values_sealed reference hr other ho

end SealedIn

theorem substitute_congr {vars other : NameMap String} {text : String}
    (h : ∀ name ∈ references text, vars.get? name = other.get? name) :
    substitute vars text = substitute other text := by
  refine congrArg String.ofList (List.flatMap_congr fun s hs => ?_)
  cases s with
  | plain c => rfl
  | marker name => rw [expand, expand, h _ (mem_references_of_mem_scan hs)]

@[simp]
theorem substitute_empty (text : String) : substitute ∅ text = text := by
  have hs : ∀ s, expand ∅ s = source s := fun s => by cases s <;> rfl
  rw [substitute, funext hs, flatMap_source_scan, String.ofList_toList]

variable {vars : NameMap String} {text : String}

theorem filterMap_reference?_opened (vars : NameMap String) (s : Segment) :
    (opened vars s).filterMap reference? = ((reference? s).toList).flatMap fun name =>
      ((vars.get? name).map references).getD [name] := by
  cases s with
  | plain c => rfl
  | marker name =>
    cases h : vars.get? (String.ofList name) with
    | none => simp [opened, reference?, h]
    | some value => simp [opened, reference?, h, references]

section

variable (hs : scan (substitute vars text).toList = (scan text.toList).flatMap (opened vars))
include hs

theorem references_substitute :
    references (substitute vars text) = (references text).flatMap fun name =>
      ((vars.get? name).map references).getD [name] := by
  rw [references, hs, references, List.filterMap_flatMap]
  induction scan text.toList with
  | nil => rfl
  | cons s segments ih =>
    rw [List.flatMap_cons, ih, filterMap_reference?_opened]
    cases hs : reference? s <;> simp [hs]

theorem mem_references_substitute {reference : String} :
    reference ∈ references (substitute vars text) ↔
      (reference ∈ references text ∧ reference ∉ vars) ∨
      ∃ name ∈ references text, ∃ value, vars.get? name = some value ∧
        reference ∈ references value := by
  rw [references_substitute hs, List.mem_flatMap]
  constructor
  · rintro ⟨name, hn, hr⟩
    cases hv : vars.get? name with
    | none =>
      rw [hv] at hr
      obtain rfl := List.mem_singleton.mp hr
      exact .inl ⟨hn, NameMap.not_mem_iff.mpr hv⟩
    | some value =>
      rw [hv] at hr
      exact .inr ⟨name, hn, value, hv, hr⟩
  · rintro (⟨hr, hn⟩ | ⟨name, hn, value, hv, hr⟩)
    · exact ⟨reference, hr, by simp [NameMap.not_mem_iff.mp hn]⟩
    · exact ⟨name, hn, by simpa [hv] using hr⟩

end

theorem substitute_of_not_mem (h : ∀ reference ∈ references text, reference ∉ vars) :
    substitute vars text = text := by
  have hsame : substitute vars text = substitute ∅ text := by
    refine substitute_congr fun reference hr => ?_
    rw [NameMap.not_mem_iff.mp (h reference hr), NameMap.get?_empty]
  rw [hsame, substitute_empty]

theorem substitute_of_references_eq_nil (vars : NameMap String) (h : references text = []) :
    substitute vars text = text :=
  substitute_of_not_mem (by simp [h])

end GenPlan
