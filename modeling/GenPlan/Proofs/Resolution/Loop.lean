import GenPlan.Proofs.Resolution.Depth

namespace GenPlan

variable {vars : NameMap String} {memo after : NameMap Nat} {name : String} {depth : Nat}

/-- The length of the longest chain of references from a name. -/
def IsDepth (vars : NameMap String) (name : String) (depth : Nat) : Prop :=
  IsGreatest {k | ∃ names, (name :: names).IsChain (Refers vars) ∧ names.length = k} depth

/-- The depths are the true ones, and whatever a measured name refers to is measured. A name that is not
known refers to nothing; it may be measured too. -/
structure Correct (vars : NameMap String) (memo : NameMap Nat) : Prop where
  depth : ∀ name depth, memo.get? name = some depth → IsDepth vars name depth
  closed : ∀ name reference, name ∈ memo → Refers vars name reference → reference ∈ memo

theorem isDepth_zero_of_not_refers (h : ∀ reference, ¬ Refers vars name reference) :
    IsDepth vars name 0 := by
  refine ⟨⟨[], .singleton name, rfl⟩, ?_⟩
  rintro _ ⟨names, hc, rfl⟩
  cases names with
  | nil => exact Nat.le_refl 0
  | cons next names => exact absurd (List.isChain_cons_cons.mp hc).1 (h next)

theorem IsDepth.lt {reference : String} {d : Nat} (h : IsDepth vars name depth)
    (hr : Refers vars name reference) (hd : IsDepth vars reference d) : d < depth := by
  obtain ⟨names, hc, rfl⟩ := hd.1
  exact h.2 ⟨reference :: names, .cons_cons hr hc, rfl⟩

theorem IsDepth.exists_refers {d : Nat} (h : IsDepth vars name (d + 1)) :
    ∃ next, Refers vars name next ∧ ∀ e, IsDepth vars next e → d ≤ e := by
  obtain ⟨names, hc, hl⟩ := h.1
  cases names with
  | nil => cases hl
  | cons next names =>
    obtain ⟨hr, hrest⟩ := List.isChain_cons_cons.mp hc
    exact ⟨next, hr, fun e he => Nat.succ.inj hl ▸ he.2 ⟨names, hrest, rfl⟩⟩

theorem correct_of_forall_not_refers
    (h : ∀ name depth, memo.get? name = some depth →
      depth = 0 ∧ ∀ reference, ¬ Refers vars name reference) :
    Correct vars memo where
  depth := by
    intro name depth hd
    obtain ⟨rfl, hr⟩ := h name depth hd
    exact isDepth_zero_of_not_refers hr
  closed := by
    intro name reference hm hr
    obtain ⟨depth, hd⟩ := NameMap.mem_iff.mp hm
    exact absurd hr ((h name depth hd).2 reference)

theorem Correct.exists_depth {reference : String} (h : Correct vars memo) (hm : name ∈ memo)
    (hr : Refers vars name reference) :
    ∃ d, (memo.within vars).get? reference = some d ∧ IsDepth vars reference d := by
  obtain ⟨d, hd⟩ := NameMap.mem_iff.mp (h.closed name reference hm hr)
  exact ⟨d, (NameMap.get?_within_of_mem hr.1 memo).trans hd, h.depth reference d hd⟩

theorem Correct.exact_within (h : Correct vars memo) : Exact vars (memo.within vars) := by
  intro name depth hd
  obtain ⟨hname, hm⟩ := NameMap.mem_within.mp (NameMap.mem_iff.mpr ⟨depth, hd⟩)
  rw [NameMap.get?_within_of_mem hname] at hd
  obtain ⟨value, hv⟩ := NameMap.mem_iff.mp hname
  refine ⟨value, hv, ?above, ?least⟩
  case above =>
    intro reference hrv hk
    have hr : Refers vars name reference := ⟨hk, value, hv, hrv⟩
    obtain ⟨d, hrd, hdepth⟩ := h.exists_depth hm hr
    exact ⟨d, hrd, (h.depth name depth hd).lt hr hdepth⟩
  case least =>
    rintro d rfl
    obtain ⟨next, hr, hle⟩ := (h.depth name (d + 1) hd).exists_refers
    obtain ⟨e, hnext, hdepth⟩ := h.exists_depth hm hr
    have hlt : e < d + 1 := (h.depth name (d + 1) hd).lt hr hdepth
    have hge : d ≤ e := hle e hdepth
    have he : e = d := by omega
    obtain ⟨hk, text, ht, hrv⟩ := hr
    cases hv.symm.trans ht
    exact ⟨next, hrv, hk, he ▸ hnext⟩

theorem Exact.isDepth (h : Exact vars memo) (hd : memo.get? name = some depth) :
    IsDepth vars name depth := by
  refine ⟨h.exists_isChain hd, ?_⟩
  rintro _ ⟨names, hc, rfl⟩
  exact h.length_le hc hd

theorem Correct.of_exact_within (h : Correct vars memo) (he : Exact vars (after.within vars))
    (ho : NameMap.EqOutside vars memo after) : Correct vars after where
  depth := by
    intro name depth hd
    by_cases hn : name ∈ vars
    · exact he.isDepth ((NameMap.get?_within_of_mem hn after).trans hd)
    · exact h.depth name depth ((ho name hn).symm.trans hd)
  closed := by
    intro name reference hm hr
    obtain ⟨depth, hd⟩ := NameMap.mem_iff.mp hm
    obtain ⟨d, hrd, -⟩ := he.depth_lt hr ((NameMap.get?_within_of_mem hr.mem after).trans hd)
    exact (NameMap.mem_within.mp (NameMap.mem_iff.mpr ⟨d, hrd⟩)).2

theorem Trail.forall_mem {ahead : List String} {path : List Visit} (h : Trail vars memo ahead path) :
    ∀ v ∈ path, v.name ∈ vars := by
  induction path generalizing ahead with
  | nil => nofun
  | cons v outer ih => exact List.forall_mem_cons.mpr ⟨h.1.mem, ih h.2⟩

namespace Walk

variable {w : Walk} {start value : String}

def within (vars : NameMap String) (w : Walk) : Walk := { w with depths := w.depths.within vars }

theorem step_within (hw : ∀ v ∈ w.path, v.name ∈ vars) :
    match step vars w with
    | .more w' => step vars (w.within vars) = .more (w'.within vars) ∧
        NameMap.EqOutside vars w.depths w'.depths
    | .done depths depth => step vars (w.within vars) = .done (depths.within vars) depth ∧
        NameMap.EqOutside vars w.depths depths
    | .cycle names => step vars (w.within vars) = .cycle names := by
  obtain ⟨path, onPath, depths⟩ := w
  match path with
  | [] => exact ⟨rfl, fun _ _ => rfl⟩
  | [⟨name, [], depth⟩] =>
    have hn : name ∈ vars := hw _ List.mem_cons_self
    have hinsert := (NameMap.within_insert hn depths depth).symm
    exact ⟨congrArg (Step.done · depth) hinsert, NameMap.eqOutside_insert hn depths depth⟩
  | ⟨name, [], depth⟩ :: parent :: outer =>
    have hn : name ∈ vars := hw _ List.mem_cons_self
    have hinsert := (NameMap.within_insert hn depths depth).symm
    exact ⟨congrArg (fun d => Step.more ⟨_, _, d⟩) hinsert, NameMap.eqOutside_insert hn depths depth⟩
  | ⟨name, reference :: pending, depth⟩ :: outer =>
    cases hv : vars.get? reference with
    | none =>
      rw [step_skip hv]
      exact ⟨step_skip hv, fun _ _ => rfl⟩
    | some value =>
      have hr : reference ∈ vars := NameMap.mem_iff.mpr ⟨value, hv⟩
      have hget := NameMap.get?_within_of_mem hr depths
      cases hd : depths.get? reference with
      | some known =>
        rw [step_take hv hd]
        exact ⟨step_take hv (hget.trans hd), fun _ _ => rfl⟩
      | none =>
        by_cases hp : reference ∈ onPath
        · rw [step_cycle hv hd hp]
          exact step_cycle hv (hget.trans hd) hp
        · rw [step_push hv hd hp]
          exact ⟨step_push hv (hget.trans hd) hp, fun _ _ => rfl⟩

/-- The states of the loop, if the name is not measured yet. -/
inductive Loop (vars : NameMap String) (memo : NameMap Nat) (name : String) : Walk → Prop
  | enter {value : String} (hv : vars.get? name = some value) (hn : name ∉ memo) :
    Loop vars memo name ⟨[.start name value], [name], memo⟩
  | again {w w' : Walk} (h : Loop vars memo name w) (hs : step vars w = .more w') :
    Loop vars memo name w'

/-- What holds in every state of the loop. -/
structure Orderly (vars : NameMap String) (memo : NameMap Nat) (w : Walk) : Prop where
  distinct : w.names.Nodup
  onPath : ∀ name, name ∈ w.onPath ↔ name ∈ w.names
  unmeasured : ∀ name ∈ w.names, name ∉ w.depths
  linked : w.names.reverse.IsChain (Refers vars)
  correct : Correct vars w.depths
  kept : memo ⊆ w.depths
  occupied : w.path ≠ []
  found : ∀ reference ∈ w.onPath, ∃ i, w.names.reverse.findIdx? (· = reference) = some i

/-- The state of a walk, as far as known names are concerned, and the depths it began with. -/
structure Continues (vars : NameMap String) (memo : NameMap Nat) (start : String) (w : Walk) : Prop where
  sound : Sound vars start (w.within vars)
  kept : memo.within vars ⊆ w.depths.within vars
  outside : NameMap.EqOutside vars memo w.depths

theorem continues_start (hm : Correct vars memo) (hv : vars.get? name = some value) (hn : name ∉ memo) :
    Continues vars memo name ⟨[.start name value], [name], memo⟩ where
  sound := sound_start hm.exact_within hv fun h => hn (NameMap.mem_within.mp h).2
  kept := NameMap.subset_refl _
  outside := fun _ _ => rfl

theorem Continues.step (h : Continues vars memo start w) :
    match step vars w with
    | .more w' => Continues vars memo start w'
    | .done depths depth => Measures vars start (memo.within vars) (depths.within vars) depth ∧
        NameMap.EqOutside vars memo depths
    | .cycle names => IsCycle vars names := by
  have hwithin := step_within (w := w) h.sound.trail.forall_mem
  have hsound := step_sound h.sound
  cases hs : Walk.step vars w with
  | more w' =>
    rw [hs] at hwithin
    rw [hwithin.1] at hsound
    exact ⟨hsound.1, NameMap.subset_trans h.kept hsound.2, h.outside.trans hwithin.2⟩
  | done depths depth =>
    rw [hs] at hwithin
    rw [hwithin.1] at hsound
    exact ⟨⟨hsound.exact, NameMap.subset_trans h.kept hsound.kept, hsound.depth⟩,
      h.outside.trans hwithin.2⟩
  | cycle names =>
    rw [hs] at hwithin
    rw [hwithin] at hsound
    exact hsound

theorem Continues.orderly (hm : Correct vars memo) (h : Continues vars memo start w) :
    Orderly vars memo w where
  distinct := h.sound.distinct
  onPath := h.sound.onPath
  unmeasured := by
    intro name hn hd
    obtain ⟨v, hv, rfl⟩ := List.mem_map.mp hn
    exact h.sound.unmeasured v.name hn (NameMap.mem_within.mpr ⟨h.sound.trail.forall_mem v hv, hd⟩)
  linked := by
    have htrail := h.sound.trail
    obtain ⟨path, onPath, depths⟩ := w
    cases path with
    | nil => exact .nil
    | cons v outer => exact List.isChain_reverse.mpr (htrail.2.isChain htrail.1.mem)
  correct := hm.of_exact_within h.sound.exact h.outside
  kept := NameMap.subset_of_within h.kept h.outside
  occupied := by
    -- the name that the walk began with stays at the other end of the path
    intro hnil
    have horigin := h.sound.origin
    rw [names, show (w.within vars).path = [] from hnil] at horigin
    cases horigin
  found := by
    intro reference hr
    have hn : reference ∈ w.names := (h.sound.onPath reference).mp hr
    exact ⟨_, List.findIdx?_eq_some_of_exists
      ⟨reference, List.mem_reverse.mpr hn, decide_eq_true rfl⟩⟩

theorem Loop.continues (hm : Correct vars memo) (h : Loop vars memo name w) :
    Continues vars memo name w := by
  induction h with
  | enter hv hn => exact continues_start hm hv hn
  | again _ hs ih =>
    have hstep := ih.step
    rwa [hs] at hstep

theorem Loop.exists_end (h : Loop vars memo name w) :
    ∃ last, Loop vars memo name last ∧
      match step vars last with
      | .more _ => False
      | .done depths depth => run vars w = .ok (depths, depth)
      | .cycle names => run vars w = .error names := by
  induction w using run.induct vars with
  | case1 w w' hs ih =>
    rw [run_of_more hs]
    exact ih (h.again hs)
  | case2 w depths depth hs =>
    refine ⟨w, h, ?_⟩
    rw [hs]
    exact run_of_done hs
  | case3 w names hs =>
    refine ⟨w, h, ?_⟩
    rw [hs]
    exact run_of_cycle hs

theorem wellFounded_step (vars : NameMap String) :
    WellFounded fun w' w : Walk => step vars w = .more w' :=
  Subrelation.wf (fun {_ _} h => step_decreases h)
    (InvImage.wf (fun w : Walk => (unvisited vars w, work w)) (Prod.lex Nat.lt_wfRel Nat.lt_wfRel).wf)

theorem measure_of_known (hd : memo.get? name = some depth) :
    measure vars memo name = .ok (memo, depth) := by
  rw [measure, hd]

theorem measure_of_unknown (hd : name ∉ memo) (hn : name ∉ vars) :
    measure vars memo name = .ok (memo, 0) := by
  rw [measure, NameMap.not_mem_iff.mp hd, NameMap.not_mem_iff.mp hn]

theorem measure_of_value (hd : name ∉ memo) (hv : vars.get? name = some value) :
    measure vars memo name = run vars ⟨[.start name value], [name], memo⟩ := by
  rw [measure, NameMap.not_mem_iff.mp hd, hv]

theorem exists_loop_end (hd : name ∉ memo) (hn : name ∈ vars) :
    ∃ last, Loop vars memo name last ∧
      match step vars last with
      | .more _ => False
      | .done depths depth => measure vars memo name = .ok (depths, depth)
      | .cycle names => measure vars memo name = .error names := by
  obtain ⟨value, hv⟩ := NameMap.mem_iff.mp hn
  rw [measure_of_value hd hv]
  exact (Loop.enter hv hd).exists_end

theorem measure_correct (hm : Correct vars memo) (name : String) :
    match measure vars memo name with
    | .ok (after, depth) => Correct vars after ∧ memo ⊆ after ∧ IsDepth vars name depth ∧
        (name ∈ vars → name ∈ after)
    | .error names => IsCycle vars names := by
  cases hd : memo.get? name with
  | some depth =>
    rw [measure_of_known hd]
    exact ⟨hm, NameMap.subset_refl memo, hm.depth name depth hd,
      fun _ => NameMap.mem_iff.mpr ⟨depth, hd⟩⟩
  | none =>
    have hmemo : name ∉ memo := NameMap.not_mem_iff.mpr hd
    by_cases hn : name ∈ vars
    · obtain ⟨last, hlast, hend⟩ := exists_loop_end hmemo hn
      have hstep := (hlast.continues hm).step
      cases hs : step vars last with
      | more w => exact (hs ▸ hend).elim
      | done after depth =>
        rw [hs] at hend hstep
        obtain ⟨hmeasures, houtside⟩ := hstep
        rw [hend]
        refine ⟨hm.of_exact_within hmeasures.exact houtside,
          NameMap.subset_of_within hmeasures.kept houtside,
          hmeasures.exact.isDepth hmeasures.depth, fun _ => ?_⟩
        exact (NameMap.mem_within.mp (NameMap.mem_iff.mpr ⟨depth, hmeasures.depth⟩)).2
      | cycle names =>
        rw [hs] at hend hstep
        rw [hend]
        exact hstep
    · rw [measure_of_unknown hmemo hn]
      exact ⟨hm, NameMap.subset_refl memo, isDepth_zero_of_not_refers fun _ hr => hn hr.mem,
        fun h => absurd h hn⟩

end Walk

theorem measured_correct (hm : Correct vars memo)
    (h : measured vars memo name = .ok after) :
    Correct vars after ∧ memo ⊆ after ∧ (name ∈ vars → name ∈ after) := by
  have hmeasure := Walk.measure_correct hm name
  rw [measured] at h
  cases hr : Walk.measure vars memo name with
  | error names =>
    rw [hr] at h
    cases h
  | ok result =>
    rw [hr] at h hmeasure
    cases h
    exact ⟨hmeasure.1, hmeasure.2.1, hmeasure.2.2.2⟩

theorem foldlM_measured_correct {names : List String} (hm : Correct vars memo)
    (h : names.foldlM (measured vars) memo = .ok after) :
    Correct vars after ∧ memo ⊆ after ∧ ∀ name ∈ names, name ∈ vars → name ∈ after := by
  induction names generalizing memo with
  | nil =>
    cases h
    exact ⟨hm, NameMap.subset_refl _, nofun⟩
  | cons name names ih =>
    rw [List.foldlM_cons] at h
    cases hr : measured vars memo name with
    | error cycle =>
      rw [hr] at h
      cases h
    | ok next =>
      rw [hr] at h
      obtain ⟨hnext, hkept, hname⟩ := measured_correct hm hr
      obtain ⟨hafter, hmore, hrest⟩ := ih hnext h
      refine ⟨hafter, NameMap.subset_trans hkept hmore, List.forall_mem_cons.mpr ⟨?_, hrest⟩⟩
      exact fun hn => NameMap.mem_of_subset hmore (hname hn)

theorem mem_depths_of_mem_substitutionOrder (h : depths vars = .ok memo)
    (hn : name ∈ substitutionOrder vars memo) : ∃ depth, memo.get? name = some depth := by
  have hm : name ∈ vars := NameMap.mem_keys.mp (List.mem_mergeSort.mp hn)
  have hcorrect : Correct vars ∅ := correct_of_forall_not_refers nofun
  exact NameMap.mem_iff.mp
    ((foldlM_measured_correct hcorrect h).2.2 name (NameMap.mem_keys.mpr hm) hm)

/-- A walk from any name, with correct depths to begin with. In every state of its loop the names on the
path are distinct, are those in the set, are not measured, and each refers to the next, while the depths
stay correct. The loop ends, and neither through its end nor at a reference that is on the path and not
found there. What comes out is correct, so that walks may follow one another, and in the end every name
has a depth to be put in order by. -/
theorem walk_orderly (vars : NameMap String) (memo : NameMap Nat) (hm : Correct vars memo) (name : String) :
    (∀ w, Walk.Loop vars memo name w → Walk.Orderly vars memo w) ∧
    (WellFounded fun w' w => Walk.step vars w = .more w') ∧
    (name ∉ memo → name ∈ vars → ∃ last, Walk.Loop vars memo name last ∧
      match Walk.step vars last with
      | .more _ => False
      | .done after depth => Walk.measure vars memo name = .ok (after, depth)
      | .cycle names => Walk.measure vars memo name = .error names) ∧
    (match Walk.measure vars memo name with
      | .ok (after, depth) => Correct vars after ∧ memo ⊆ after ∧ IsDepth vars name depth ∧
          (name ∈ vars → name ∈ after)
      | .error names => IsCycle vars names) ∧
    (∀ (names : List String) (after : NameMap Nat), names.foldlM (measured vars) memo = .ok after →
      Correct vars after ∧ memo ⊆ after ∧ ∀ name ∈ names, name ∈ vars → name ∈ after) ∧
    ∀ depth, depths vars = .ok depth →
      ∀ name ∈ substitutionOrder vars depth, ∃ d, depth.get? name = some d := by
  refine ⟨fun w hw => (hw.continues hm).orderly hm, Walk.wellFounded_step vars, Walk.exists_loop_end,
    Walk.measure_correct hm name, ?walks, ?order⟩
  case walks =>
    intro names after h
    exact foldlM_measured_correct hm h
  case order =>
    intro depth h name hn
    exact mem_depths_of_mem_substitutionOrder h hn

theorem walk_orderly_beside_unknown :
    let vars : NameMap String := .ofList [("a", "${b}${u}"), ("b", ""), ("c", "${a}")]
    let memo : NameMap Nat := .ofList [("b", 0), ("u", 0)]
    Correct vars memo ∧
    Walk.Orderly vars memo ⟨[.start "c" "${a}"], ["c"], memo⟩ ∧
    (∃ last, Walk.Loop vars memo "c" last) ∧
    IsDepth vars "c" 2 := by
  intro vars memo
  have hm : Correct vars memo := correct_of_forall_not_refers fun name depth hd => by
    obtain hd | hd := List.mem_pair.mp (NameMap.get?_eq_some_iff.mp hd)
    · cases hd
      refine ⟨rfl, ?_⟩
      rintro reference ⟨-, value, hv, hr⟩
      cases hv
      cases hr
    · cases hd
      exact ⟨rfl, fun _ hr => absurd hr.mem (by decide)⟩
  obtain ⟨hloop, -, hend, hresult, -⟩ := walk_orderly vars memo hm "c"
  obtain ⟨last, hlast, -⟩ := hend (by decide) (by decide)
  have hc : Walk.measure vars memo "c" =
      .ok (.ofList [("a", 1), ("b", 0), ("c", 2), ("u", 0)], 2) := by cbv
  rw [hc] at hresult
  exact ⟨hm, hloop _ (.enter (by decide) (by decide)), ⟨last, hlast⟩, hresult.2.2.1⟩

end GenPlan
