import Mathlib
import GenPlan.Proofs.Resolution.Walk
import GenPlan.Scope

namespace GenPlan

variable {vars : NameMap String}

theorem resolve_eq_map (vars : NameMap String) :
    resolve vars = (depths vars).map fun depth =>
      ⟨settle ∅ (listed vars (substitutionOrder vars depth)), depth⟩ := by
  rw [resolve]
  cases depths vars <;> rfl

/-- What a successful resolution rests on. -/
structure Resolved (vars : NameMap String) (r : Resolution) : Prop where
  exact : Exact vars r.depth
  complete : ∀ name ∈ vars, name ∈ r.depth
  settled : r.resolved = settle ∅ (listed vars (substitutionOrder vars r.depth))

theorem resolve_sound (vars : NameMap String) :
    match resolve vars with
    | .ok r => Resolved vars r
    | .error names => IsCycle vars names := by
  have h := depths_sound vars
  rw [resolve_eq_map]
  cases hd : depths vars with
  | error names =>
    rw [hd] at h
    exact h
  | ok depth =>
    rw [hd] at h
    exact ⟨h.1, h.2, rfl⟩

theorem resolved_of_resolve {r : Resolution} (h : resolve vars = .ok r) : Resolved vars r := by
  have hs := resolve_sound vars
  rwa [h] at hs

theorem isCycle_of_resolve {names : List String} (h : resolve vars = .error names) :
    IsCycle vars names := by
  have hs := resolve_sound vars
  rwa [h] at hs

theorem Resolved.depth_lt {r : Resolution} (h : Resolved vars r) {name reference : String}
    (hr : Refers vars name reference) :
    (r.depth.get? reference).getD 0 < (r.depth.get? name).getD 0 := by
  obtain ⟨depth, hd⟩ := NameMap.mem_iff.mp (h.complete name hr.mem)
  obtain ⟨d, hm, hlt⟩ := h.exact.depth_lt hr hd
  rw [hd, hm]
  exact hlt

theorem Resolved.grounded {r : Resolution} (h : Resolved vars r) : Grounded vars :=
  Subrelation.wf (fun {_ _} hr => h.depth_lt hr)
    (InvImage.wf (fun name => (r.depth.get? name).getD 0) Nat.lt_wfRel.wf)

theorem exists_resolve_iff_grounded : (∃ r, resolve vars = .ok r) ↔ Grounded vars := by
  constructor
  · rintro ⟨r, hr⟩
    exact (resolved_of_resolve hr).grounded
  · intro hg
    cases hr : resolve vars with
    | ok r => exact ⟨r, rfl⟩
    | error names =>
      obtain ⟨name, hc⟩ := (isCycle_of_resolve hr).exists_transGen
      exact absurd hc (hg.not_transGen name)

/-- Resolution fails exactly if some name can reach itself. It then reports distinct names that refer
to one another in a circle, each of them on the circle. -/
theorem resolve_fails_iff_cyclic (vars : NameMap String) :
    ((∃ names, resolve vars = .error names) ↔
      ∃ name, Relation.TransGen (Refers vars) name name) ∧
    ∀ names, resolve vars = .error names → IsCycle vars names ∧
      (InitError.cycle names).message =
        "cycle detected in variables: " ++ " > ".intercalate names := by
  refine ⟨⟨?_, ?_⟩, fun names hr => ⟨isCycle_of_resolve hr, rfl⟩⟩
  · rintro ⟨names, hr⟩
    exact (isCycle_of_resolve hr).exists_transGen
  · rintro ⟨name, hc⟩
    cases hr : resolve vars with
    | error names => exact ⟨names, rfl⟩
    | ok r => exact absurd hc ((resolved_of_resolve hr).grounded.not_transGen name)

theorem resolve_fails_entering_cycle :
    resolve (.ofList [("a", "${b}"), ("b", "${c}x"), ("c", "${u}${b}")]) = .error ["b", "c", "b"] ∧
    IsCycle (.ofList [("a", "${b}"), ("b", "${c}x"), ("c", "${u}${b}")]) ["b", "c", "b"] ∧
    (InitError.cycle ["b", "c", "b"]).message = "cycle detected in variables: b > c > b" := by
  have h : resolve (.ofList [("a", "${b}"), ("b", "${c}x"), ("c", "${u}${b}")]) =
      .error ["b", "c", "b"] := by cbv
  have hf := (resolve_fails_iff_cyclic _).2 _ h
  exact ⟨h, hf.1, hf.2⟩

end GenPlan
