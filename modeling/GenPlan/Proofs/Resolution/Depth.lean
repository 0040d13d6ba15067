import GenPlan.Proofs.Resolution.Cycle

namespace GenPlan

variable {vars : NameMap String} {depths : NameMap Nat} {name : String} {names : List String}
  {depth : Nat}

theorem Exact.length_le (h : Exact vars depths) (hc : (name :: names).IsChain (Refers vars))
    (hd : depths.get? name = some depth) : names.length ≤ depth := by
  induction names generalizing name depth with
  | nil => exact Nat.zero_le depth
  | cons next names ih =>
    obtain ⟨hr, hrest⟩ := List.isChain_cons_cons.mp hc
    obtain ⟨d, hnext, hlt⟩ := h.depth_lt hr hd
    have hle : names.length ≤ d := ih hrest hnext
    rw [List.length_cons]
    omega

theorem Exact.exists_isChain (h : Exact vars depths) (hd : depths.get? name = some depth) :
    ∃ names, (name :: names).IsChain (Refers vars) ∧ names.length = depth := by
  induction depth generalizing name with
  | zero => exact ⟨[], .singleton name, rfl⟩
  | succ d ih =>
    obtain ⟨value, hv, hs⟩ := h name (d + 1) hd
    obtain ⟨next, hm, hk, hnext⟩ := hs.least d rfl
    obtain ⟨names, hc, hl⟩ := ih hnext
    have hr : Refers vars name next := ⟨hk, value, hv, hm⟩
    exact ⟨next :: names, .cons_cons hr hc, congrArg Nat.succ hl⟩

theorem Grounded.nodup_of_isChain (h : Grounded vars) (hc : names.IsChain (Refers vars)) :
    names.Nodup := by
  have htrans : names.IsChain (Relation.TransGen (Refers vars)) :=
    hc.imp fun _ _ hr => .single hr
  refine htrans.pairwise.imp ?_
  rintro a b hab rfl
  exact h.not_transGen a hab

theorem forall_mem_of_isChain (hn : name ∈ vars) (hc : (name :: names).IsChain (Refers vars)) :
    ∀ n ∈ name :: names, n ∈ vars := by
  induction names generalizing name with
  | nil => simpa using hn
  | cons next names ih =>
    obtain ⟨hr, hrest⟩ := List.isChain_cons_cons.mp hc
    exact List.forall_mem_cons.mpr ⟨hn, ih hr.1 hrest⟩

theorem Grounded.length_le_of_isChain (h : Grounded vars)
    (hc : names.IsChain (Refers vars)) (hn : ∀ n ∈ names, n ∈ vars) :
    names.length ≤ vars.keys.length := by
  have hsub : names ⊆ vars.keys := fun n hm => NameMap.mem_keys.mpr (hn n hm)
  exact (List.subperm_of_subset (h.nodup_of_isChain hc) hsub).length_le

theorem Resolved.keys_depth {r : Resolution} (h : Resolved vars r) : r.depth.keys = vars.keys := by
  apply NameMap.keys_eq_iff.mpr
  intro name
  constructor
  · intro hm
    obtain ⟨depth, hd⟩ := NameMap.mem_iff.mp hm
    obtain ⟨value, hv, -⟩ := h.exact name depth hd
    exact NameMap.mem_iff.mpr ⟨value, hv⟩
  · exact h.complete name

/-- Each variable gets the length of its longest chain of references for its depth. What it refers
to lies less deep, and no depth reaches the number of variables. -/
theorem resolve_depth_isGreatest (vars : NameMap String) (r : Resolution)
    (h : resolve vars = .ok r) :
    r.depth.keys = vars.keys ∧
    ∀ name depth, r.depth.get? name = some depth →
      IsGreatest {k | ∃ names, (name :: names).IsChain (Refers vars) ∧ names.length = k} depth ∧
      (∀ reference, Refers vars name reference →
        ∃ d, r.depth.get? reference = some d ∧ d < depth) ∧
      depth + 1 ≤ vars.keys.length := by
  have hr := resolved_of_resolve h
  refine ⟨hr.keys_depth, fun name depth hd => ⟨⟨hr.exact.exists_isChain hd, ?_⟩, ?_, ?_⟩⟩
  · rintro k ⟨names, hc, rfl⟩
    exact hr.exact.length_le hc hd
  · intro reference href
    exact hr.exact.depth_lt href hd
  · obtain ⟨names, hc, hl⟩ := hr.exact.exists_isChain hd
    obtain ⟨value, hv, -⟩ := hr.exact name depth hd
    have hknown : name ∈ vars := NameMap.mem_iff.mpr ⟨value, hv⟩
    rw [← hl, ← List.length_cons (a := name)]
    exact hr.grounded.length_le_of_isChain hc (forall_mem_of_isChain hknown hc)

theorem resolve_depth_isGreatest_shortcut :
    resolve (.ofList [("a", "${c}${b}${u}"), ("b", "${c}"), ("c", "1")]) =
      .ok ⟨.ofList [("a", "11${u}"), ("b", "1"), ("c", "1")],
        .ofList [("a", 2), ("b", 1), ("c", 0)]⟩ ∧
    IsGreatest {k | ∃ names, ("a" :: names).IsChain
      (Refers (.ofList [("a", "${c}${b}${u}"), ("b", "${c}"), ("c", "1")])) ∧
      names.length = k} 2 := by
  have h : resolve (.ofList [("a", "${c}${b}${u}"), ("b", "${c}"), ("c", "1")]) =
      .ok ⟨.ofList [("a", "11${u}"), ("b", "1"), ("c", "1")],
        .ofList [("a", 2), ("b", 1), ("c", 0)]⟩ := by cbv
  exact ⟨h, ((resolve_depth_isGreatest _ _ h).2 "a" 2 (by decide)).1⟩

end GenPlan
