import GenPlan.Proofs.Resolution.Settling

namespace GenPlan

open Segment

variable {vars : NameMap String} {text : String}

/-- Nothing is left to be replaced in the values. -/
structure NameMap.Final (vars : NameMap String) : Prop where
  allSealed : vars.AllSealed
  saturated : ∀ name value, vars.get? name = some value →
    ∀ reference ∈ references value, reference ∉ vars

theorem final_empty : (∅ : NameMap String).Final := ⟨allSealed_empty, nofun⟩

theorem Resolved.final {r : Resolution} (h : Resolved vars r) (hc : vars.AllSealed) :
    r.resolved.Final := by
  have hsealed := h.allSealed hc
  refine ⟨hsealed, fun name => ?_⟩
  induction name using h.grounded.induction with
  | _ name ih =>
    intro value hv reference hr
    have hm : name ∈ vars := h.solves.mem_iff.mp (NameMap.mem_iff.mpr ⟨value, hv⟩)
    obtain ⟨text, ht⟩ := NameMap.mem_iff.mp hm
    have he : substitute r.resolved text = value :=
      Option.some.inj ((h.solves.value name text ht).symm.trans hv)
    have htext : SealedIn r.resolved text := hsealed.sealedIn (hc name text ht)
    rw [← he, mem_references_substitute htext.scan_substitute] at hr
    obtain ⟨_, hn⟩ | ⟨other, ho, inner, hi, hr⟩ := hr
    · exact hn
    · have hother : other ∈ vars := h.solves.mem_iff.mp (NameMap.mem_iff.mpr ⟨inner, hi⟩)
      exact ih other ⟨hother, text, ht, ho⟩ inner hi reference hr

theorem NameMap.Final.not_mem_of_mem_references (h : vars.Final) (ht : Sealed text)
    {reference : String} (hr : reference ∈ references (substitute vars text)) :
    reference ∉ vars := by
  rw [mem_references_substitute (h.allSealed.sealedIn ht).scan_substitute] at hr
  obtain ⟨_, hn⟩ | ⟨name, _, value, hv, hr⟩ := hr
  · exact hn
  · exact h.saturated name value hv reference hr

theorem NameMap.Final.resolve_self (h : vars.Final) :
    ∃ depth, resolve vars = .ok ⟨vars, depth⟩ := by
  refine exists_resolve_eq_iff.mpr ⟨⟨fun name => ⟨name, fun reference hr => ?_⟩⟩, rfl, ?_⟩
  · obtain ⟨hm, value, hv, hr⟩ := hr
    exact absurd hm (h.saturated name value hv reference hr)
  · intro name value hv
    rw [substitute_of_not_mem (h.saturated name value hv), hv]

end GenPlan
