import GenPlan.Proofs.Marker

namespace GenPlan

open Segment

/-- What one substitution followed by another puts in place of a marker. -/
def NameMap.followedBy (vars later : NameMap String) : NameMap String :=
  later.update (vars.mapValues (substitute later))

theorem NameMap.get?_followedBy (vars later : NameMap String) (name : String) :
    (vars.followedBy later).get? name =
      ((vars.get? name).map (substitute later)).or (later.get? name) := by
  rw [followedBy, get?_update, get?_mapValues]

variable {vars later : NameMap String} {text : String}

theorem Segment.flatMap_expand_opened (vars later : NameMap String) (s : Segment) :
    (opened vars s).flatMap (expand later) = expand (vars.followedBy later) s := by
  cases s with
  | plain c => rfl
  | marker name =>
    rw [opened, expand, NameMap.get?_followedBy]
    cases vars.get? (String.ofList name) with
    | none => simp [expand]
    | some value => simp [substitute]

theorem SealedIn.substitute_followedBy (h : SealedIn vars text) (later : NameMap String) :
    substitute later (substitute vars text) = substitute (vars.followedBy later) text := by
  rw [substitute, h.scan_substitute, List.flatMap_assoc,
    funext (flatMap_expand_opened vars later), ← substitute]

theorem clean_substitute (ht : Clean text) (hv : ∀ e ∈ vars.entries, Clean e.2) :
    Clean (substitute vars text) := by
  rw [Clean, (SealedIn.of_clean ht hv).scan_substitute, List.mem_flatMap]
  rintro ⟨s, hs, hd⟩
  cases s with
  | plain c =>
    obtain rfl : c = '$' := by simpa [opened, eq_comm] using hd
    exact ht hs
  | marker name =>
    rw [opened] at hd
    cases hg : vars.get? (String.ofList name) with
    | none => simp [hg] at hd
    | some value =>
      rw [hg] at hd
      exact hv _ (NameMap.get?_eq_some_iff.mp hg) hd

/-- Among clean texts two substitutions are one, and the first leaves a clean text, in which the
references of the values stand where those to known names stood. -/
theorem substitute_substitute (vars later : NameMap String) (text : String) (ht : Clean text)
    (hv : ∀ e ∈ vars.entries, Clean e.2) :
    substitute later (substitute vars text) = substitute (vars.followedBy later) text ∧
    Clean (substitute vars text) ∧
    references (substitute vars text) = (references text).flatMap fun name =>
      ((vars.get? name).map references).getD [name] := by
  have h := SealedIn.of_clean ht hv
  exact ⟨h.substitute_followedBy later, clean_substitute ht hv,
    references_substitute h.scan_substitute⟩

theorem substitute_substitute_path :
    Clean "${dir}${sep}{${file}}" ∧
    (∀ e ∈ (NameMap.ofList [("dir", "<${root}>"), ("sep", "")]).entries, Clean e.2) ∧
    substitute (.ofList [("dir", "?"), ("file", "f"), ("root", "$")])
      (substitute (.ofList [("dir", "<${root}>"), ("sep", "")]) "${dir}${sep}{${file}}") =
        "<$>{f}" ∧
    Clean (substitute (.ofList [("dir", "<${root}>"), ("sep", "")]) "${dir}${sep}{${file}}") ∧
    references (substitute (.ofList [("dir", "<${root}>"), ("sep", "")])
      "${dir}${sep}{${file}}") = ["root", "file"] := by
  have ht : Clean "${dir}${sep}{${file}}" := by decide
  have hv : ∀ e ∈ (NameMap.ofList [("dir", "<${root}>"), ("sep", "")]).entries, Clean e.2 := by
    decide
  obtain ⟨htwice, hclean, hreferences⟩ := substitute_substitute _
    (.ofList [("dir", "?"), ("file", "f"), ("root", "$")]) _ ht hv
  exact ⟨ht, hv, htwice.trans (by decide), hclean, hreferences.trans (by decide)⟩

end GenPlan
