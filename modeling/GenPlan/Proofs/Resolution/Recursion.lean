import GenPlan.Proofs.Resolution.Cycle

namespace GenPlan

def offPath (vars : NameMap String) (path : List String) : Nat := vars.keys.countP (· ∉ path)

theorem offPath_concat_lt {vars : NameMap String} {path : List String} {name value : String}
    (hn : name ∉ path) (hv : vars.get? name = some value) :
    offPath vars (path ++ [name]) < offPath vars path := by
  refine Walk.countP_lt (fun other _ ho => ?_) (NameMap.mem_keys_of_get? hv) ?_ ?_
  · rw [decide_eq_true_eq] at ho ⊢
    exact fun hm => ho (List.mem_append_left [name] hm)
  · simp
  · simpa using hn

def above (depths : List Nat) : Nat :=
  match depths.max? with
  | none => 0
  | some depth => 1 + depth

mutual

/-- The depth of a name, which is known already, or lies above the known names that its value refers
to. The path to the name comes outermost first; a name on the path closes a cycle. -/
def visit (vars : NameMap String) (path : List String) (known : NameMap Nat) (name : String) :
    Except (List String) (NameMap Nat × Nat) :=
  match known.get? name with
  | some depth => .ok (known, depth)
  | none =>
    if name ∈ path then .error (path.dropWhile (· ≠ name) ++ [name])
    else
      match _hv : vars.get? name with
      | none => .ok (known, 0)
      | some value => do
        let (known, depths) ←
          visitAll vars (path ++ [name]) known ((references value).filter (· ∈ vars))
        return (known.insert name (above depths), above depths)
termination_by (offPath vars path, 0)
decreasing_by exact .left _ _ (offPath_concat_lt ‹_› ‹_›)

def visitAll (vars : NameMap String) (path : List String) (known : NameMap Nat) :
    List String → Except (List String) (NameMap Nat × List Nat)
  | [] => .ok (known, [])
  | name :: names => do
    let (known, depth) ← visit vars path known name
    let (known, depths) ← visitAll vars path known names
    return (known, depth :: depths)
termination_by names => (offPath vars path, names.length)
decreasing_by
  · exact .right _ (Nat.zero_lt_succ names.length)
  · exact .right _ (Nat.lt_succ_self names.length)

end

namespace Walk

variable {vars : NameMap String} {path onPath : List String} {known : NameMap Nat}
  {name reference value : String} {d : Nat}

theorem visit_of_known (hd : known.get? name = some d) :
    visit vars path known name = .ok (known, d) := by
  rw [visit, hd]

theorem visit_of_mem (hd : known.get? name = none) (hn : name ∈ path) :
    visit vars path known name = .error (path.dropWhile (· ≠ name) ++ [name]) := by
  rw [visit, hd]
  exact if_pos hn

theorem visit_of_unknown (hd : known.get? name = none) (hn : name ∉ path)
    (hv : vars.get? name = none) : visit vars path known name = .ok (known, 0) := by
  rw [visit, hd]
  simp only [if_neg hn]
  split
  next => rfl
  next text h => simp [hv] at h

theorem visit_of_not_mem (hd : known.get? name = none) (hn : name ∉ path)
    (hv : vars.get? name = some value) :
    visit vars path known name =
      (visitAll vars (path ++ [name]) known ((references value).filter (· ∈ vars))).map fun r =>
        (r.1.insert name (above r.2), above r.2) := by
  rw [visit, hd]
  simp only [if_neg hn]
  split
  next h => simp [hv] at h
  next text h =>
    cases hv.symm.trans h
    cases visitAll vars (path ++ [name]) known ((references value).filter (· ∈ vars)) <;> rfl

theorem visitAll_cons (vars : NameMap String) (path : List String) (known : NameMap Nat)
    (name : String) (names : List String) :
    visitAll vars path known (name :: names) = (do
      let (known, depth) ← visit vars path known name
      let (known, depths) ← visitAll vars path known names
      return (known, depth :: depths)) := by
  rw [visitAll]

theorem above_cons (d : Nat) (depths : List Nat) :
    above (d :: depths) = max (1 + d) (above depths) := by
  cases h : depths.max? with
  | none => simp [above, List.max?_cons, h]
  | some e =>
    simp only [above, List.max?_cons, h, Option.elim_some]
    omega

theorem cycleAt_eq_dropWhile {visits : List Visit} (h : reference ∈ visits.map Visit.name) :
    cycleAt visits reference =
      (visits.map Visit.name).reverse.dropWhile (· ≠ reference) ++ [reference] := by
  have hm : ∃ n ∈ (visits.map Visit.name).reverse, decide (n = reference) = true :=
    ⟨reference, List.mem_reverse.mpr h, decide_eq_true rfl⟩
  rw [cycleAt, List.findIdx?_eq_some_of_exists hm, List.dropWhile_eq_drop_findIdx_not]
  simp

theorem run_pop {parent : Visit} {outer : List Visit} {depth : Nat} (hn : name ∉ onPath) :
    run vars ⟨⟨name, [], depth⟩ :: parent :: outer, name :: onPath, known⟩ =
      run vars ⟨{ parent with depth := max parent.depth (1 + depth) } :: outer, onPath,
        known.insert name depth⟩ := by
  have hpath : (name :: onPath).filter (· ≠ name) = onPath := by
    rw [List.filter_cons_of_neg (by simp), List.filter_eq_self]
    intro other ho
    exact decide_eq_true fun he => hn (he ▸ ho)
  have hstep : step vars ⟨⟨name, [], depth⟩ :: parent :: outer, name :: onPath, known⟩ =
      .more ⟨{ parent with depth := max parent.depth (1 + depth) } :: outer,
        (name :: onPath).filter (· ≠ name), known.insert name depth⟩ := rfl
  rw [run_of_more hstep, hpath]

/-- Following a reference is visiting it, if the references of a name that is not on the path yet are
visited one after the other. -/
theorem run_cons_eq_visit {outer : List Visit} {pending : List String} {depth : Nat}
    (hpath : path = (outer.map Visit.name).reverse ++ [name]) (hon : ∀ n, n ∈ onPath ↔ n ∈ path)
    (hv : vars.get? reference = some value)
    (hnew : reference ∉ path →
      run vars ⟨.start reference value :: ⟨name, pending, depth⟩ :: outer, reference :: onPath,
        known⟩ = (do
          let (known, depths) ←
            visitAll vars (path ++ [reference]) known ((references value).filter (· ∈ vars))
          run vars ⟨⟨reference, [], max 0 (above depths)⟩ :: ⟨name, pending, depth⟩ :: outer,
            reference :: onPath, known⟩)) :
    run vars ⟨⟨name, reference :: pending, depth⟩ :: outer, onPath, known⟩ = (do
      let (known, d) ← visit vars path known reference
      run vars ⟨⟨name, pending, max depth (1 + d)⟩ :: outer, onPath, known⟩) := by
  cases hd : known.get? reference with
  | some d =>
    rw [run_of_more (step_take hv hd), visit_of_known hd]
    rfl
  | none =>
    by_cases hm : reference ∈ path
    · have hcycle : cycleAt (⟨name, reference :: pending, depth⟩ :: outer) reference =
          path.dropWhile (· ≠ reference) ++ [reference] := by
        rw [cycleAt_eq_dropWhile (by simpa [hpath, or_comm] using hm), hpath]
        simp
      rw [run_of_cycle (step_cycle hv hd ((hon reference).mpr hm)), visit_of_mem hd hm, hcycle]
      rfl
    · have hoff : reference ∉ onPath := mt (hon reference).mp hm
      rw [run_of_more (step_push hv hd hoff), hnew hm, visit_of_not_mem hd hm hv]
      cases visitAll vars (path ++ [reference]) known ((references value).filter (· ∈ vars)) with
      | error names => rfl
      | ok inner =>
        simp only [Nat.zero_max]
        exact run_pop hoff

theorem run_eq_visitAll {outer : List Visit} {pending : List String} {depth : Nat}
    (hpath : path = (outer.map Visit.name).reverse ++ [name]) (hon : ∀ n, n ∈ onPath ↔ n ∈ path) :
    run vars ⟨⟨name, pending, depth⟩ :: outer, onPath, known⟩ = (do
      let (known, depths) ← visitAll vars path known (pending.filter (· ∈ vars))
      run vars ⟨⟨name, [], max depth (above depths)⟩ :: outer, onPath, known⟩) := by
  -- the induction is on the names that are not on the path, and inside it on the references
  induction hoff : offPath vars path using Nat.strong_induction_on
    generalizing path name pending depth outer onPath known with
  | _ n ihpath =>
  subst hoff
  induction pending generalizing depth known with
  | nil => simp [visitAll, above, bind, Except.bind]
  | cons reference pending ih =>
    cases hv : vars.get? reference with
    | none =>
      have hr : reference ∉ vars := NameMap.not_mem_iff.mpr hv
      rw [run_of_more (step_skip hv), ih]
      simp [hr]
    | some value =>
      have hr : reference ∈ vars := NameMap.mem_iff.mpr ⟨value, hv⟩
      have hfilter : (reference :: pending).filter (· ∈ vars) =
          reference :: pending.filter (· ∈ vars) := by
        simp [hr]
      have hnew (hm : reference ∉ path) : run vars ⟨.start reference value ::
          ⟨name, pending, depth⟩ :: outer, reference :: onPath, known⟩ = _ :=
        ihpath _ (offPath_concat_lt hm hv) (by simp [hpath]) (by simp [hon, or_comm]) rfl
      rw [run_cons_eq_visit hpath hon hv hnew, hfilter, visitAll_cons]
      cases visit vars path known reference with
      | error names => rfl
      | ok result =>
        simp only [bind, Except.bind, pure, Except.pure] at ih ⊢
        rw [ih]
        cases visitAll vars path result.1 (pending.filter (· ∈ vars)) with
        | error names => rfl
        | ok rest => simp only [above_cons, max_assoc]

theorem measure_eq_visit (vars : NameMap String) (known : NameMap Nat) (name : String) :
    measure vars known name = visit vars [] known name := by
  cases hd : known.get? name with
  | some depth =>
    rw [visit_of_known hd]
    simp [measure, hd]
  | none =>
    cases hv : vars.get? name with
    | none =>
      rw [visit_of_unknown hd List.not_mem_nil hv]
      simp [measure, hd, hv]
    | some value =>
      rw [visit_of_not_mem hd List.not_mem_nil hv, List.nil_append]
      simp only [measure, hd, hv, Visit.start]
      have hpath : [name] = (([] : List Visit).map Visit.name).reverse ++ [name] := rfl
      rw [run_eq_visitAll hpath fun _ => Iff.rfl]
      cases visitAll vars [name] known ((references value).filter (· ∈ vars)) with
      | error names => rfl
      | ok result =>
        have hdone : step vars ⟨[⟨name, [], max 0 (above result.2)⟩], [name], result.1⟩ =
            .done (result.1.insert name (above result.2)) (above result.2) := by
          rw [Nat.zero_max]
          rfl
        exact run_of_done hdone

end Walk

theorem foldlM_measured_eq_visitAll (vars : NameMap String) (known : NameMap Nat)
    (names : List String) :
    names.foldlM (measured vars) known = (visitAll vars [] known names).map Prod.fst := by
  induction names generalizing known with
  | nil =>
    rw [visitAll]
    rfl
  | cons name names ih =>
    rw [List.foldlM_cons, measured, Walk.measure_eq_visit, Walk.visitAll_cons]
    cases visit vars [] known name with
    | error cycle => rfl
    | ok result =>
      have hrest : names.foldlM (measured vars) result.1 = _ := ih result.1
      simp only [bind, Except.bind, Except.map] at hrest ⊢
      rw [hrest]
      cases visitAll vars [] result.1 names <;> rfl

/-- Resolution measures what a recursive visit of all names in ascending order measures, and fails
with the cycle that it meets first. -/
theorem resolve_depth_eq_visitAll (vars : NameMap String) :
    vars.keys.Pairwise (· < ·) ∧
      (resolve vars).map Resolution.depth = (visitAll vars [] ∅ vars.keys).map Prod.fst := by
  refine ⟨vars.sorted_keys, ?_⟩
  have hdepths : depths vars = (visitAll vars [] ∅ vars.keys).map Prod.fst :=
    foldlM_measured_eq_visitAll vars ∅ vars.keys
  rw [← hdepths, resolve_eq_map]
  cases depths vars <;> rfl

example : (visitAll (.ofList [("a", "${c}${b}"), ("b", "${b}"), ("c", "${d}"), ("d", "${c}")])
    [] ∅ ["a", "b", "c", "d"]).map Prod.fst = .error ["c", "d", "c"] := by
  cbv

end GenPlan
