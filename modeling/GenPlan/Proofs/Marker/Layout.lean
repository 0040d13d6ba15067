import GenPlan.Proofs.Marker

namespace GenPlan

open Segment

def opening : List Char := ['$', '\x7b']

/-- Literal texts with markers between them. A name has no closing brace, in a text before a marker
nothing is opened, and in the last text nothing that is opened is closed. -/
inductive Layout
  | last (literal : List Char)
    (unclosed : ∀ before after, literal = before ++ opening ++ after → '\x7d' ∉ after)
  | next (literal name : List Char) (rest : Layout)
    (unopened : ¬ opening <:+: literal) (closed : '\x7d' ∉ name)

namespace Layout

def source : Layout → List Char
  | last literal _ => literal
  | next literal name rest _ _ => literal ++ (opening ++ name ++ ['\x7d']) ++ source rest

def names : Layout → List String
  | last _ _ => []
  | next _ name rest _ _ => String.ofList name :: names rest

def filled (vars : NameMap String) : Layout → List Char
  | last literal _ => literal
  | next literal name rest _ _ =>
    match vars.get? (String.ofList name) with
    | some value => literal ++ value.toList ++ filled vars rest
    | none => literal ++ (opening ++ name ++ ['\x7d']) ++ filled vars rest

def segments : Layout → List Segment
  | last literal _ => literal.map plain
  | next literal name rest _ _ => literal.map plain ++ marker name :: segments rest

end Layout

namespace Segment

theorem source_marker (name : List Char) :
    source (marker name) = opening ++ name ++ ['\x7d'] := rfl

theorem scan_of_unclosed {literal : List Char}
    (h : ∀ before after, literal = before ++ opening ++ after → '\x7d' ∉ after) :
    scan literal = literal.map plain := by
  induction literal with
  | nil => rfl
  | cons c cs ih =>
    obtain hs | ⟨name, rest, _, he⟩ := scan_cons c cs
    · rw [hs, List.map_cons, ih]
      rintro before after rfl
      exact h (c :: before) after rfl
    · have hopened : c :: cs = [] ++ opening ++ (name ++ '\x7d' :: rest) :=
        he.trans (source_marker_append name rest)
      exact absurd (List.mem_append_right name List.mem_cons_self) (h _ _ hopened)

theorem scan_unopened_append {literal name : List Char} (h : ¬ opening <:+: literal)
    (hn : '\x7d' ∉ name) (cs : List Char) :
    scan (literal ++ source (marker name) ++ cs) =
      literal.map plain ++ marker name :: scan cs := by
  induction literal with
  | nil => exact scan_marker hn cs
  | cons c literal ih =>
    have ih := ih fun hi => h (hi.trans (List.infix_cons (List.infix_refl literal)))
    rw [List.cons_append, List.cons_append]
    obtain hs | ⟨other, rest, _, he⟩ := scan_cons c (literal ++ source (marker name) ++ cs)
    · rw [hs, ih, List.map_cons, List.cons_append]
    · -- the opening would be in the literal, as a marker does not start with a brace
      rw [source_marker_append] at he
      cases literal with
      | nil => exact absurd (List.cons.inj (List.cons.inj he).2).1 (by decide)
      | cons d literal =>
        obtain ⟨rfl, hd⟩ := List.cons.inj he
        obtain ⟨rfl, _⟩ := List.cons.inj hd
        exact absurd ⟨[], literal, rfl⟩ h

theorem unclosed_of_scan {after : List Char}
    (h : scan ('$' :: '\x7b' :: after) = plain '$' :: scan ('\x7b' :: after)) : '\x7d' ∉ after := by
  intro hc
  obtain ⟨name, rest, rfl, hn⟩ := List.eq_append_cons_of_mem hc
  rw [scan.eq_2, scanName_append hn] at h
  cases h

theorem map_plain_ne_append_marker (l l' name : List Char) (a : List Segment) :
    l.map plain ≠ l'.map plain ++ marker name :: a := by
  intro he
  have hm : marker name ∈ l.map plain := he ▸ by simp
  simp at hm

theorem map_plain_append_marker_inj {l l' name name' : List Char} {a b : List Segment} :
    l.map plain ++ marker name :: a = l'.map plain ++ marker name' :: b ↔
      l = l' ∧ name = name' ∧ a = b := by
  induction l generalizing l' with
  | nil => cases l' <;> simp
  | cons c l ih => cases l' <;> simp [ih, and_assoc]

theorem flatMap_expand_map_plain (vars : NameMap String) (literal : List Char) :
    (literal.map plain).flatMap (expand vars) = literal := by
  rw [List.flatMap_map]
  exact List.flatMap_singleton' literal

end Segment

namespace Layout

theorem scan_source (d : Layout) : scan d.source = d.segments := by
  induction d with
  | last literal unclosed => exact scan_of_unclosed unclosed
  | next literal name rest unopened closed ih =>
    rw [source, ← source_marker, scan_unopened_append unopened closed, ih, segments]

theorem segments_injective : Function.Injective segments := by
  intro d
  induction d with
  | last literal unclosed =>
    intro e he
    cases e with
    | last other _ =>
      have hl : literal = other := (List.map_inj_right fun _ _ => plain.inj).mp he
      subst hl
      rfl
    | next other name rest _ _ => exact absurd he (map_plain_ne_append_marker _ _ _ _)
  | next literal name rest unopened closed ih =>
    intro e he
    cases e with
    | last other _ => exact absurd he.symm (map_plain_ne_append_marker _ _ _ _)
    | next other name' rest' _ _ =>
      obtain ⟨rfl, rfl, hr⟩ := map_plain_append_marker_inj.mp he
      cases ih hr
      rfl

theorem source_injective : Function.Injective source := fun d e h =>
  segments_injective (by rw [← scan_source, ← scan_source, h])

theorem exists_source_eq (cs : List Char) : ∃ d : Layout, d.source = cs := by
  induction cs using scan_induction with
  | nil => exact ⟨last [] fun before after he => by simp [opening] at he, rfl⟩
  | plain c cs hs ih =>
    obtain ⟨d, rfl⟩ := ih
    cases d with
    | last literal unclosed =>
      refine ⟨last (c :: literal) fun before after he => ?_, rfl⟩
      cases before with
      | nil =>
        obtain ⟨rfl, rfl⟩ := List.cons.inj he
        exact unclosed_of_scan hs
      | cons d before => exact unclosed before after (List.cons.inj he).2
    | next literal name rest unopened closed =>
      refine ⟨next (c :: literal) name rest (fun hi => ?_) closed, rfl⟩
      obtain ⟨after, he⟩ | hi := List.infix_cons_iff.mp hi
      · obtain ⟨rfl, rfl⟩ := List.cons.inj he
        exact absurd (unclosed_of_scan hs) (by simp)
      · exact unopened hi
  | marker name cs hn ih =>
    obtain ⟨d, rfl⟩ := ih
    exact ⟨next [] name d (by simp [opening]) hn, rfl⟩

theorem filterMap_reference?_segments (d : Layout) :
    d.segments.filterMap reference? = d.names := by
  induction d with
  | last literal _ => simp [segments, names, Function.comp_def, reference?]
  | next literal name rest _ _ ih =>
    simp [segments, names, reference?, Function.comp_def, ih]

theorem flatMap_expand_segments (vars : NameMap String) (d : Layout) :
    d.segments.flatMap (expand vars) = d.filled vars := by
  induction d with
  | last literal _ => exact flatMap_expand_map_plain vars literal
  | next literal name rest _ _ ih =>
    rw [segments, List.flatMap_append, List.flatMap_cons, flatMap_expand_map_plain,
      ih, filled, expand]
    cases vars.get? (String.ofList name) <;> simp [source_marker]

end Layout

theorem references_eq_nil_iff {text : String} : references text = [] ↔
    ∀ before after, text.toList = before ++ opening ++ after → '\x7d' ∉ after := by
  constructor
  · intro hr
    obtain ⟨d, hd⟩ := Layout.exists_source_eq text.toList
    rw [references, ← hd, d.scan_source, d.filterMap_reference?_segments] at hr
    cases d with
    | last literal unclosed => exact hd ▸ unclosed
    | next => cases hr
  · intro h
    rw [references, scan_of_unclosed h]
    simp [reference?, Function.comp_def]

/-- A text has one layout. Its references are the names there, and whatever is known, substitution
fills it in. So only the values of those names count, and if none is known the text stays. -/
theorem substitute_eq_filled (text : String) :
    (∃! d : Layout, d.source = text.toList) ∧
    (∀ d : Layout, d.source = text.toList → references text = d.names ∧
      ∀ vars, substitute vars text = String.ofList (d.filled vars)) ∧
    (∀ vars other, (∀ name ∈ references text, vars.get? name = other.get? name) →
      substitute vars text = substitute other text) ∧
    ∀ vars, (∀ name ∈ references text, name ∉ vars) → substitute vars text = text := by
  obtain ⟨d, hd⟩ := Layout.exists_source_eq text.toList
  refine ⟨⟨d, hd, fun e he => Layout.source_injective (he.trans hd.symm)⟩, fun e he => ⟨?_, ?_⟩,
    fun _ _ => substitute_congr, fun _ => substitute_of_not_mem⟩
  · rw [references, ← he, e.scan_source, e.filterMap_reference?_segments]
  · intro vars
    rw [substitute, ← he, e.scan_source, e.flatMap_expand_segments]

def mixed : Layout :=
  .next ['a', '$'] ['b', '$', '\x7b']
    (.next ['c'] ['d'] (.last ['\x7d', '$', '\x7b', 'e']
      (references_eq_nil_iff.mp (by decide : references "\x7d$\x7be" = []))) (by decide) (by decide))
    (by decide) (by decide)

theorem substitute_eq_filled_mixed :
    references "a$$\x7bb$\x7b\x7dc${d}\x7d$\x7be" = ["b$\x7b", "d"] ∧
    substitute (.ofList [("b", "1"), ("d", "{e}")]) "a$$\x7bb$\x7b\x7dc${d}\x7d$\x7be" =
      "a$$\x7bb$\x7b\x7dc{e}\x7d$\x7be" ∧
    substitute (.ofList [("b", "1"), ("d", "{e}")]) "a$$\x7bb$\x7b\x7dc${d}\x7d$\x7be" =
      substitute (.ofList [("d", "{e}"), ("e", "2")]) "a$$\x7bb$\x7b\x7dc${d}\x7d$\x7be" ∧
    substitute (.ofList [("b", "1"), ("e", "2")]) "a$$\x7bb$\x7b\x7dc${d}\x7d$\x7be" =
      "a$$\x7bb$\x7b\x7dc${d}\x7d$\x7be" := by
  obtain ⟨_, hfilled, hcongr, hunknown⟩ :=
    substitute_eq_filled "a$$\x7bb$\x7b\x7dc${d}\x7d$\x7be"
  have hmixed := hfilled mixed (by decide)
  exact ⟨hmixed.1, hmixed.2 _, hcongr _ _ (by decide), hunknown _ (by decide)⟩

end GenPlan
