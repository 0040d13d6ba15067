import Mathlib.Logic.Relation
import GenPlan.Path

namespace GenPlan.Path

/-- The second path is the first one with a slash or a dot more that does not count. -/
inductive Respelled : String → String → Prop
  | slash (u v : String) : Respelled (u ++ "/" ++ v) (u ++ "/" ++ "/" ++ v)
  | dot (u v : String) : Respelled (u ++ "/" ++ v) (u ++ "/" ++ "." ++ "/" ++ v)
  | lastSlash {u : String} (h : u ≠ "") : Respelled u (u ++ "/")
  | lastDot (u : String) : Respelled (u ++ "/") (u ++ "/" ++ ".")

def parts (path : String) : List String := (path.toList.splitOn '/').map String.ofList

def isName (part : String) : Bool := part ≠ "" && part ≠ "."

def names (path : String) : List String := (parts path).filter isName

def start (path : String) : List String :=
  if isAbsolute path then ["/"] else if (parts path).head? = some "." then ["."] else []

theorem components_eq (path : String) : components path = start path ++ names path := by
  rw [start]
  by_cases ha : isAbsolute path = true
  · simp only [components, if_pos ha]
    rfl
  · by_cases hd : (parts path).head? = some "."
    · simp only [components, if_neg ha, if_pos hd]
      rw [if_pos (show ((path.toList.splitOn '/').map String.ofList).head? = some "." from hd)]
      rfl
    · simp only [components, if_neg ha, if_neg hd]
      rw [if_neg (show ¬ ((path.toList.splitOn '/').map String.ofList).head? = some "." from hd)]
      rfl

theorem parts_ne_nil (path : String) : parts path ≠ [] := by
  simp [parts, List.splitOn_ne_nil]

theorem parts_slash (u v : String) : parts (u ++ "/" ++ v) = parts u ++ parts v := by
  have hs : (u ++ "/" ++ v).toList = u.toList ++ '/' :: v.toList := by simp
  rw [parts, hs, List.splitOn_append_cons_self, List.map_append, parts, parts]

theorem names_slash (u v : String) : names (u ++ "/" ++ v) = names u ++ names v := by
  rw [names, parts_slash, List.filter_append, names, names]

theorem names_last_slash (u : String) : names (u ++ "/") = names u := by
  have h := names_slash u ""
  rwa [String.append_empty, show names "" = [] by decide, List.append_nil] at h

theorem names_last_dot (u : String) : names (u ++ "/" ++ ".") = names u := by
  rw [names_slash, show names "." = [] by decide, List.append_nil]

theorem isAbsolute_append {u : String} (h : u ≠ "") (v : String) :
    isAbsolute (u ++ v) = isAbsolute u := by
  rw [isAbsolute, isAbsolute, String.toList_append]
  cases hu : u.toList with
  | nil => exact absurd (String.toList_eq_nil_iff.mp hu) h
  | cons c cs => rfl

theorem start_slash {u : String} (h : u ≠ "") (v : String) : start (u ++ "/" ++ v) = start u := by
  have hh : (parts (u ++ "/" ++ v)).head? = (parts u).head? := by
    rw [parts_slash, List.head?_append, Option.or_of_isSome]
    exact List.isSome_head?.mpr (parts_ne_nil u)
  rw [start, String.append_assoc, isAbsolute_append h, ← String.append_assoc, hh, start]

theorem start_last_slash {u : String} (h : u ≠ "") : start (u ++ "/") = start u := by
  have hs := start_slash h ""
  rwa [String.append_empty] at hs

theorem start_append (u v : String) : start (u ++ "/" ++ v) = start (u ++ "/") := by
  by_cases h : u = ""
  · simp [h, start, isAbsolute]
  · rw [start_slash h, start_last_slash h]

theorem same_of_respelled {p q : String} (h : Respelled p q) : Same p q := by
  rw [Same, components_eq, components_eq]
  cases h with
  | slash u v =>
    have hne : u ++ "/" ≠ "" := by simp
    rw [names_slash, names_slash, names_last_slash, start_slash hne, start_append]
  | dot u v =>
    have hne : u ++ "/" ++ "." ≠ "" := by simp
    rw [names_slash, names_slash, names_last_dot, start_slash hne, start_append, start_append]
  | lastSlash h => rw [names_last_slash, start_last_slash h]
  | lastDot u => rw [names_last_slash, names_last_dot, start_append]

theorem same_of_eqvGen {p q : String} (h : Relation.EqvGen Respelled p q) : Same p q := by
  induction h with
  | rel p q h => exact same_of_respelled h
  | refl p => rfl
  | symm p q _ ih => exact ih.symm
  | trans p q r _ _ hpq hqr => exact hpq.trans hqr

def slashed (parts : List String) : String := String.join (parts.map ("/" ++ ·))

@[simp]
theorem slashed_nil : slashed [] = "" := rfl

theorem append_slashed_cons (u part : String) (parts : List String) :
    u ++ slashed (part :: parts) = u ++ "/" ++ part ++ slashed parts := by
  simp [slashed, String.append_assoc]

theorem eq_of_parts {path first : String} {rest : List String} (h : parts path = first :: rest) :
    path = first ++ slashed rest := by
  have hs : path.toList.splitOn '/' = first.toList :: rest.map String.toList := by
    have h := congrArg (List.map String.toList) h
    simpa [parts, Function.comp_def] using h
  have hlist : ['/'].intercalate (first.toList :: rest.map String.toList) =
      (first ++ slashed rest).toList := by
    clear h hs
    induction rest generalizing first with
    | nil => simp
    | cons second rest ih => simp [ih, append_slashed_cons]
  rw [← String.toList_inj, ← hlist, ← hs, List.intercalate_splitOn]

theorem slash_not_mem_of_mem_splitOn {cs : List Char} : ∀ part ∈ cs.splitOn '/', '/' ∉ part := by
  induction cs with
  | nil => simp
  | cons c cs ih =>
    rw [List.splitOn_cons_eq_if_modifyHead]
    by_cases hc : c = '/'
    · simpa [hc] using ih
    · cases hs : cs.splitOn '/' with
      | nil => exact absurd hs (List.splitOn_ne_nil _ _)
      | cons first rest =>
        rw [hs, List.forall_mem_cons] at ih
        simpa [hc, Ne.symm hc] using ih

theorem slash_not_mem_of_mem_parts {path part : String} (h : part ∈ parts path) :
    '/' ∉ part.toList := by
  obtain ⟨cs, hc, rfl⟩ := List.mem_map.mp h
  rw [String.toList_ofList]
  exact slash_not_mem_of_mem_splitOn cs hc

variable {u part : String} {rest : List String}

theorem isAbsolute_eq_false (hp : '/' ∉ part.toList) : isAbsolute part = false := by
  rw [isAbsolute, decide_eq_false_iff_not]
  exact fun h => hp (List.mem_of_mem_head? h)

theorem getLast?_ne_slash (hp : '/' ∉ part.toList) : part.toList.getLast? ≠ some '/' :=
  fun h => hp (List.mem_of_getLast? h)

theorem getLast?_append_name (hn : part ≠ "") (hp : '/' ∉ part.toList) :
    (u ++ "/" ++ part).toList.getLast? ≠ some '/' := by
  have hne : part.toList ≠ [] := mt String.toList_eq_nil_iff.mp hn
  rw [String.toList_append, List.getLast?_append, List.getLast?_eq_some_getLast hne, Option.some_or,
    ← List.getLast?_eq_some_getLast hne]
  exact getLast?_ne_slash hp

theorem join_name (hu : u ≠ "") (hlast : u.toList.getLast? ≠ some '/') (hp : '/' ∉ part.toList) :
    join u part = u ++ "/" ++ part := by
  simp [join, isAbsolute_eq_false hp, hu, hlast]

theorem isName_eq_false_iff : isName part = false ↔ part = "" ∨ part = "." := by
  by_cases h : part = "" <;> simp [isName, h]

theorem ne_empty_of_isName (h : isName part = true) : part ≠ "" := by
  rintro rfl
  exact absurd h (by decide)

theorem eqvGen_slashed_cons (hu : u ≠ "" ∨ rest ≠ []) (hp : isName part = false) :
    Relation.EqvGen Respelled (u ++ slashed (part :: rest)) (u ++ slashed rest) := by
  rw [append_slashed_cons]
  cases rest with
  | nil =>
    have hlast := Relation.EqvGen.rel _ _ (Respelled.lastSlash (hu.resolve_right (by simp)))
    rw [slashed_nil, String.append_empty, String.append_empty]
    obtain rfl | rfl := isName_eq_false_iff.mp hp
    · rw [String.append_empty]
      exact hlast.symm _ _
    · have hdot := Relation.EqvGen.rel _ _ (Respelled.lastDot u)
      exact (hlast.trans _ _ _ hdot).symm _ _
  | cons second rest =>
    have hv (w : String) : w ++ slashed (second :: rest) = w ++ "/" ++ (second ++ slashed rest) := by
      rw [append_slashed_cons, String.append_assoc]
    rw [hv, hv]
    obtain rfl | rfl := isName_eq_false_iff.mp hp
    · rw [String.append_empty]
      exact .symm _ _ (.rel _ _ (.slash u _))
    · exact .symm _ _ (.rel _ _ (.dot u _))

theorem eqvGen_slashed (hu : u ≠ "") (hlast : u.toList.getLast? ≠ some '/')
    (hp : ∀ part ∈ rest, '/' ∉ part.toList) :
    Relation.EqvGen Respelled (u ++ slashed rest) ((rest.filter isName).foldl join u) := by
  induction rest generalizing u with
  | nil => simpa using .refl u
  | cons part rest ih =>
    obtain ⟨hpart, hp⟩ := List.forall_mem_cons.mp hp
    by_cases hn : isName part = true
    · rw [List.filter_cons_of_pos hn, List.foldl_cons, join_name hu hlast hpart, append_slashed_cons]
      exact ih (by simp) (getLast?_append_name (ne_empty_of_isName hn) hpart) hp
    · rw [List.filter_cons_of_neg hn]
      exact .trans _ _ _ (eqvGen_slashed_cons (.inl hu) (by simpa using hn)) (ih hu hlast hp)

theorem eqvGen_slashed_root (hne : rest ≠ []) (hp : ∀ part ∈ rest, '/' ∉ part.toList) :
    Relation.EqvGen Respelled (slashed rest) ((rest.filter isName).foldl join "/") := by
  induction rest with
  | nil => exact absurd rfl hne
  | cons part rest ih =>
    obtain ⟨hpart, hp⟩ := List.forall_mem_cons.mp hp
    by_cases hn : isName part = true
    · have hcons : slashed (part :: rest) = "" ++ "/" ++ part ++ slashed rest := by
        rw [← append_slashed_cons, String.empty_append]
      have hjoin : join "/" part = "" ++ "/" ++ part := by
        simp [join, isAbsolute_eq_false hpart]
      rw [List.filter_cons_of_pos hn, List.foldl_cons, hcons, hjoin]
      exact eqvGen_slashed (by simp) (getLast?_append_name (ne_empty_of_isName hn) hpart) hp
    · have hn : isName part = false := by simpa using hn
      rw [List.filter_cons_of_neg (by simp [hn])]
      cases rest with
      | nil =>
        obtain rfl | rfl := isName_eq_false_iff.mp hn
        · exact .refl _
        · exact .symm _ _ (.rel _ _ (.lastDot ""))
      | cons second rest =>
        have hdrop := eqvGen_slashed_cons (u := "") (.inr (List.cons_ne_nil second rest)) hn
        rw [String.empty_append, String.empty_append] at hdrop
        exact hdrop.trans _ _ _ (ih (List.cons_ne_nil second rest) hp)

theorem eqvGen_components (path : String) :
    Relation.EqvGen Respelled path ((components path).foldl join "") := by
  obtain ⟨first, rest, hparts⟩ := List.exists_cons_of_ne_nil (parts_ne_nil path)
  have hpath := eq_of_parts hparts
  have hslash : ∀ part ∈ first :: rest, '/' ∉ part.toList := by
    rw [← hparts]
    exact fun part => slash_not_mem_of_mem_parts
  obtain ⟨hfirst, hrest⟩ := List.forall_mem_cons.mp hslash
  rw [components_eq, start, names, hparts]
  by_cases hempty : first = ""
  · subst hempty
    rw [String.empty_append] at hpath
    cases rest with
    | nil =>
      subst hpath
      exact .refl _
    | cons second rest =>
      have ha : isAbsolute path = true := by
        rw [hpath]
        simp [slashed, isAbsolute]
      rw [if_pos ha, hpath]
      exact eqvGen_slashed_root (List.cons_ne_nil second rest) hrest
  · have ha : isAbsolute path = false := by
      rw [hpath, isAbsolute_append hempty, isAbsolute_eq_false hfirst]
    have hjoin : join "" first = first := by
      simp [join, isAbsolute_eq_false hfirst]
    have hrespell := eqvGen_slashed hempty (getLast?_ne_slash hfirst) hrest
    rw [ha, if_neg Bool.false_ne_true, List.head?_cons]
    by_cases hdot : first = "."
    · rw [hdot] at hjoin hpath hrespell ⊢
      rwa [if_pos rfl, List.filter_cons_of_neg (by decide), List.singleton_append, List.foldl_cons,
        hjoin, hpath]
    · have hn : isName first = true := by simp [isName, hempty, hdot]
      rwa [if_neg (by simpa using hdot), List.filter_cons_of_pos hn, List.nil_append,
        List.foldl_cons, hjoin, hpath]

/-- Paths are the same exactly if one can be respelled to the other. -/
theorem same_iff_eqvGen {p q : String} : Same p q ↔ Relation.EqvGen Respelled p q := by
  constructor
  · intro h
    have hp := eqvGen_components p
    rw [h] at hp
    exact hp.trans _ _ _ (.symm _ _ (eqvGen_components q))
  · exact same_of_eqvGen

example : Same "/a//b/./c/." "/a/b/c" ∧ ¬ Same "./a" "a" ∧ ¬ Same "a/../b" "b" := by
  decide

theorem join_of_isAbsolute (base : String) {rest : String} (h : isAbsolute rest = true) :
    join base rest = rest := if_pos h

theorem same_join (base : String) {rest : String} (hr : isAbsolute rest = false) :
    Same (join base rest) (if base = "" then rest else base ++ "/" ++ rest) := by
  by_cases hb : base = ""
  · have hjoin : join base rest = rest := by simp [join, hr, hb]
    rw [if_pos hb, hjoin, Same]
  · rw [if_neg hb]
    by_cases hlast : base.toList.getLast? = some '/'
    · have hjoin : join base rest = base ++ rest := by simp [join, hr, hlast]
      obtain ⟨cs, hcs⟩ := List.getLast?_eq_some_iff.mp hlast
      have hbase : base = String.ofList cs ++ "/" := by simp [← String.toList_inj, hcs]
      rw [hjoin, hbase]
      exact same_of_respelled (.slash _ rest)
    · have hjoin : join base rest = base ++ "/" ++ rest := by simp [join, hr, hlast, hb]
      rw [hjoin, Same]

end GenPlan.Path
