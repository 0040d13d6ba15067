import Mathlib.Data.List.Chain
import Mathlib.Data.List.Permutation
import GenPlan.Proofs.Marker
import GenPlan.Resolution

namespace GenPlan

/-- A known name whose value refers to a known name. -/
def Refers (vars : NameMap String) (name reference : String) : Prop :=
  reference ∈ vars ∧ ∃ value, vars.get? name = some value ∧ reference ∈ references value

instance (vars : NameMap String) (name reference : String) :
    Decidable (Refers vars name reference) :=
  decidable_of_iff (reference ∈ vars ∧ ∃ value ∈ vars.get? name, reference ∈ references value)
    Iff.rfl

theorem Refers.mem {vars : NameMap String} {name reference : String}
    (h : Refers vars name reference) : name ∈ vars := by
  obtain ⟨value, hv, _⟩ := h.2
  exact NameMap.mem_iff.mpr ⟨value, hv⟩

theorem Refers.mono {vars more : NameMap String} (h : vars ⊆ more) {name reference : String}
    (hr : Refers vars name reference) : Refers more name reference := by
  obtain ⟨hm, value, hv, hrv⟩ := hr
  exact ⟨NameMap.mem_of_subset h hm, value, h name value hv, hrv⟩

/-- Distinct names, each of which refers to the next, and the first of them again at the end. -/
structure IsCycle (vars : NameMap String) (names : List String) : Prop where
  long : 2 ≤ names.length
  closed : names.getLast? = names.head?
  distinct : names.dropLast.Nodup
  known : ∀ name ∈ names, name ∈ vars
  linked : names.IsChain (Refers vars)

theorem mem_of_isChain {vars : NameMap String} {first last : String} {between : List String}
    (h : (first :: between ++ [last]).IsChain (Refers vars)) :
    ∀ name ∈ first :: between, name ∈ vars := by
  induction between generalizing first with
  | nil =>
    intro name hn
    exact List.mem_singleton.mp hn ▸ (List.isChain_cons_cons.mp h).1.mem
  | cons second between ih =>
    obtain ⟨hr, hl⟩ := List.isChain_cons_cons.mp h
    intro name hn
    obtain rfl | hn := List.mem_cons.mp hn
    · exact hr.mem
    · exact ih hl name hn

theorem isCycle_of_isChain {vars : NameMap String} {first : String} {between : List String}
    (hd : (first :: between).Nodup) (hl : (first :: between ++ [first]).IsChain (Refers vars)) :
    IsCycle vars (first :: between ++ [first]) where
  long := by simp
  closed := List.getLast?_concat
  distinct := by rwa [List.dropLast_concat]
  known := by
    intro name hn
    obtain hn | hn := List.mem_append.mp hn
    · exact mem_of_isChain hl name hn
    · exact mem_of_isChain hl name (List.mem_singleton.mp hn ▸ List.mem_cons_self)
  linked := hl

theorem IsCycle.exists_transGen {vars : NameMap String} {names : List String}
    (h : IsCycle vars names) : ∃ name, Relation.TransGen (Refers vars) name name := by
  match names, h.long, h.closed, h.linked with
  | first :: second :: rest, _, hc, hl =>
    obtain ⟨hr, hl⟩ := List.isChain_cons_cons.mp hl
    have hlast : (second :: rest).getLast (List.cons_ne_nil _ _) = first := by
      rw [List.getLast?_cons_cons, List.getLast?_eq_getLast_of_ne_nil (List.cons_ne_nil _ _)] at hc
      exact Option.some.inj hc
    exact ⟨first, .head' hr (List.relationReflTransGen_of_exists_isChain_cons rest hl hlast)⟩

/-- No chain of references goes on forever. -/
def Grounded (vars : NameMap String) : Prop :=
  WellFounded fun reference name => Refers vars name reference

theorem Grounded.not_transGen {vars : NameMap String} (h : Grounded vars) (name : String) :
    ¬ Relation.TransGen (Refers vars) name name := by
  induction name using h.induction with
  | _ name ih =>
    intro hc
    obtain ⟨next, hr, hn⟩ := Relation.TransGen.head'_iff.mp hc
    exact ih next hr (.tail' hn hr)

theorem Grounded.mono {vars more : NameMap String} (hs : vars ⊆ more) (h : Grounded more) :
    Grounded vars :=
  Subrelation.wf (fun {_ _} hr => hr.mono hs) h

end GenPlan
