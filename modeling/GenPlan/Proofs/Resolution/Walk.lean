import Mathlib.Data.List.Nodup
import GenPlan.Proofs.Resolution.Reference

namespace GenPlan

/-- All known names among the references are measured, and the depth is the least number above what
was measured for them. -/
structure Spans (vars : NameMap String) (depths : NameMap Nat) (references : List String)
    (depth : Nat) : Prop where
  above : ∀ name ∈ references, name ∈ vars → ∃ d, depths.get? name = some d ∧ d < depth
  least : ∀ d, depth = d + 1 → ∃ name ∈ references, name ∈ vars ∧ depths.get? name = some d

namespace Spans

variable {vars : NameMap String} {depths : NameMap Nat} {names : List String} {depth : Nat}

theorem nil : Spans vars depths [] 0 := ⟨nofun, nofun⟩

theorem mono (h : Spans vars depths names depth) {more : NameMap Nat} (hs : depths ⊆ more) :
    Spans vars more names depth := by
  constructor
  · intro name hn hv
    obtain ⟨d, hd, hlt⟩ := h.above name hn hv
    exact ⟨d, hs name d hd, hlt⟩
  · intro d hd
    obtain ⟨name, hn, hv, hm⟩ := h.least d hd
    exact ⟨name, hn, hv, hs name d hm⟩

theorem append_unknown (h : Spans vars depths names depth) {name : String} (hn : name ∉ vars) :
    Spans vars depths (names ++ [name]) depth := by
  constructor
  · intro other ho hv
    obtain ho | ho := List.mem_append.mp ho
    · exact h.above other ho hv
    · exact absurd (List.mem_singleton.mp ho ▸ hv) hn
  · intro d hd
    obtain ⟨other, ho, hv, hm⟩ := h.least d hd
    exact ⟨other, List.mem_append_left _ ho, hv, hm⟩

theorem append_measured (h : Spans vars depths names depth) {name : String} (hn : name ∈ vars)
    {d : Nat} (hd : depths.get? name = some d) :
    Spans vars depths (names ++ [name]) (max depth (1 + d)) := by
  constructor
  · intro other ho hv
    obtain ho | ho := List.mem_append.mp ho
    · obtain ⟨e, he, hlt⟩ := h.above other ho hv
      exact ⟨e, he, by omega⟩
    · exact ⟨d, List.mem_singleton.mp ho ▸ hd, by omega⟩
  · intro e he
    by_cases hle : depth ≤ d
    · have hed : e = d := by omega
      exact ⟨name, by simp, hn, hed ▸ hd⟩
    · obtain ⟨other, ho, hv, hm⟩ := h.least e (by omega)
      exact ⟨other, List.mem_append_left _ ho, hv, hm⟩

end Spans

/-- Each measured name is known, and its depth is the least above those it refers to. -/
def Exact (vars : NameMap String) (depths : NameMap Nat) : Prop :=
  ∀ name depth, depths.get? name = some depth →
    ∃ value, vars.get? name = some value ∧ Spans vars depths (references value) depth

theorem exact_empty (vars : NameMap String) : Exact vars ∅ := nofun

theorem Exact.insert {vars : NameMap String} {depths : NameMap Nat} (h : Exact vars depths)
    {name value : String} {depth : Nat} (hn : name ∉ depths) (hv : vars.get? name = some value)
    (hd : Spans vars depths (references value) depth) :
    Exact vars (depths.insert name depth) := by
  have hs := NameMap.subset_insert hn depth
  intro other d ho
  rw [NameMap.get?_insert] at ho
  split at ho
  next he =>
    cases ho
    exact ⟨value, he ▸ hv, hd.mono hs⟩
  next =>
    obtain ⟨text, ht, hd⟩ := h other d ho
    exact ⟨text, ht, hd.mono hs⟩

theorem Exact.depth_lt {vars : NameMap String} {depths : NameMap Nat} (h : Exact vars depths)
    {name reference : String} (hr : Refers vars name reference) {depth : Nat}
    (hd : depths.get? name = some depth) : ∃ d, depths.get? reference = some d ∧ d < depth := by
  obtain ⟨hk, value, hv, hm⟩ := hr
  obtain ⟨text, ht, hs⟩ := h name depth hd
  rw [hv] at ht
  cases ht
  exact hs.above reference hm hk

/-- The visit has followed all its references but the last ones. -/
def Visit.Awaits (vars : NameMap String) (depths : NameMap Nat) (v : Visit)
    (rest : List String) : Prop :=
  ∃ value followed, vars.get? v.name = some value ∧ references value = followed ++ rest ∧
    Spans vars depths followed v.depth

namespace Visit.Awaits

variable {vars : NameMap String} {depths : NameMap Nat} {v : Visit} {rest : List String}

theorem start {name value : String} (h : vars.get? name = some value) (depths : NameMap Nat) :
    (Visit.start name value).Awaits vars depths (references value) := ⟨value, [], h, rfl, .nil⟩

theorem mem (h : v.Awaits vars depths rest) : v.name ∈ vars := by
  obtain ⟨value, _, hv, _⟩ := h
  exact NameMap.mem_iff.mpr ⟨value, hv⟩

theorem refers (h : v.Awaits vars depths rest) {reference : String} (hr : reference ∈ rest)
    (hk : reference ∈ vars) : Refers vars v.name reference := by
  obtain ⟨value, followed, hv, hf, _⟩ := h
  exact ⟨hk, value, hv, hf ▸ List.mem_append_right followed hr⟩

theorem mono (h : v.Awaits vars depths rest) {more : NameMap Nat} (hs : depths ⊆ more) :
    v.Awaits vars more rest := by
  obtain ⟨value, followed, hv, hf, hd⟩ := h
  exact ⟨value, followed, hv, hf, hd.mono hs⟩

theorem skip {name reference : String} {pending rest : List String} {depth : Nat}
    (h : (⟨name, pending, depth⟩ : Visit).Awaits vars depths (reference :: rest))
    (hr : reference ∉ vars) (pending' : List String) :
    (⟨name, pending', depth⟩ : Visit).Awaits vars depths rest := by
  obtain ⟨value, followed, hv, hf, hd⟩ := h
  exact ⟨value, followed ++ [reference], hv, by simpa using hf, hd.append_unknown hr⟩

theorem take {name reference : String} {pending rest : List String} {depth d : Nat}
    (h : (⟨name, pending, depth⟩ : Visit).Awaits vars depths (reference :: rest))
    (hr : reference ∈ vars) (hm : depths.get? reference = some d) (pending' : List String) :
    (⟨name, pending', max depth (1 + d)⟩ : Visit).Awaits vars depths rest := by
  obtain ⟨value, followed, hv, hf, hd⟩ := h
  exact ⟨value, followed ++ [reference], hv, by simpa using hf, hd.append_measured hr hm⟩

end Visit.Awaits

/-- Each visit awaits the name of the visit inside it, or what is ahead of the innermost one, and
then all that is pending. -/
def Trail (vars : NameMap String) (depths : NameMap Nat) : List String → List Visit → Prop
  | _, [] => True
  | ahead, v :: outer =>
    v.Awaits vars depths (ahead ++ v.pending) ∧ Trail vars depths [v.name] outer

namespace Trail

variable {vars : NameMap String} {depths : NameMap Nat} {ahead : List String} {path : List Visit}

theorem mono (h : Trail vars depths ahead path) {more : NameMap Nat} (hs : depths ⊆ more) :
    Trail vars more ahead path := by
  induction path generalizing ahead with
  | nil => trivial
  | cons v outer ih => exact ⟨h.1.mono hs, ih h.2⟩

theorem isChain {name : String} (h : Trail vars depths [name] path) (hn : name ∈ vars) :
    (name :: path.map Visit.name).IsChain fun inner outer => Refers vars outer inner := by
  induction path generalizing name with
  | nil => exact .singleton name
  | cons v outer ih =>
    exact List.isChain_cons_cons.mpr ⟨h.1.refers List.mem_cons_self hn, ih h.2 h.1.mem⟩

end Trail

namespace Walk

def names (w : Walk) : List String := w.path.map Visit.name

/-- The state of a walk that began at a name. -/
structure Sound (vars : NameMap String) (start : String) (w : Walk) : Prop where
  trail : Trail vars w.depths [] w.path
  origin : w.names.getLast? = some start
  onPath : ∀ name, name ∈ w.onPath ↔ name ∈ w.names
  distinct : w.names.Nodup
  unmeasured : ∀ name ∈ w.names, name ∉ w.depths
  exact : Exact vars w.depths

variable {vars : NameMap String} {start name reference value : String}
  {pending onPath : List String} {depth d : Nat} {outer : List Visit} {depths : NameMap Nat}

theorem sound_start (he : Exact vars depths) (hv : vars.get? name = some value)
    (hn : name ∉ depths) : Sound vars name ⟨[.start name value], [name], depths⟩ where
  trail := ⟨.start hv depths, trivial⟩
  origin := rfl
  onPath := fun _ => Iff.rfl
  distinct := by simp [names]
  unmeasured := by
    intro other ho
    exact List.mem_singleton.mp ho ▸ hn
  exact := he

theorem Sound.skip (h : Sound vars start ⟨⟨name, reference :: pending, depth⟩ :: outer, onPath, depths⟩)
    (hr : reference ∉ vars) : Sound vars start ⟨⟨name, pending, depth⟩ :: outer, onPath, depths⟩ where
  trail := ⟨h.trail.1.skip hr pending, h.trail.2⟩
  origin := h.origin
  onPath := h.onPath
  distinct := h.distinct
  unmeasured := h.unmeasured
  exact := h.exact

theorem Sound.take (h : Sound vars start ⟨⟨name, reference :: pending, depth⟩ :: outer, onPath, depths⟩)
    (hr : reference ∈ vars) (hd : depths.get? reference = some d) :
    Sound vars start ⟨⟨name, pending, max depth (1 + d)⟩ :: outer, onPath, depths⟩ where
  trail := ⟨h.trail.1.take hr hd pending, h.trail.2⟩
  origin := h.origin
  onPath := h.onPath
  distinct := h.distinct
  unmeasured := h.unmeasured
  exact := h.exact

theorem Sound.push (h : Sound vars start ⟨⟨name, reference :: pending, depth⟩ :: outer, onPath, depths⟩)
    (hv : vars.get? reference = some value) (hd : reference ∉ depths) (hp : reference ∉ onPath) :
    Sound vars start ⟨.start reference value :: ⟨name, pending, depth⟩ :: outer, reference :: onPath,
      depths⟩ where
  trail := ⟨.start hv depths, h.trail.1, h.trail.2⟩
  origin := h.origin
  onPath := by
    intro other
    exact (List.mem_cons.trans (or_congr_right (h.onPath other))).trans List.mem_cons.symm
  distinct := List.nodup_cons.mpr ⟨fun hm => hp ((h.onPath reference).mpr hm), h.distinct⟩
  unmeasured := by
    intro other ho
    obtain rfl | ho := List.mem_cons.mp ho
    · exact hd
    · exact h.unmeasured other ho
  exact := h.exact

theorem Sound.exact_insert (h : Sound vars start ⟨⟨name, [], depth⟩ :: outer, onPath, depths⟩) :
    name ∉ depths ∧ Exact vars (depths.insert name depth) := by
  have hn : name ∉ depths := h.unmeasured name List.mem_cons_self
  obtain ⟨value, followed, hv, hf, hd⟩ := h.trail.1
  rw [List.append_nil, List.append_nil] at hf
  exact ⟨hn, h.exact.insert hn hv (hf ▸ hd)⟩

theorem Sound.pop {parent : Visit}
    (h : Sound vars start ⟨⟨name, [], depth⟩ :: parent :: outer, onPath, depths⟩) :
    Sound vars start ⟨{ parent with depth := max parent.depth (1 + depth) } :: outer,
      onPath.filter (· ≠ name), depths.insert name depth⟩ where
  trail := by
    have hs := NameMap.subset_insert h.exact_insert.1 depth
    have hp : parent.Awaits vars (depths.insert name depth) (name :: parent.pending) :=
      h.trail.2.1.mono hs
    exact ⟨hp.take h.trail.1.mem (by simp) parent.pending, h.trail.2.2.mono hs⟩
  origin := h.origin
  onPath := by
    intro other
    have ho := h.onPath other
    have hn := (List.nodup_cons.mp h.distinct).1
    simp only [names, List.map_cons, List.mem_cons] at ho hn
    simp only [names, List.map_cons, List.mem_cons, List.mem_filter, ho, decide_eq_true_eq]
    constructor
    · rintro ⟨rfl | ho, hne⟩
      · exact absurd rfl hne
      · exact ho
    · intro ho
      exact ⟨.inr ho, fun he => hn (he ▸ ho)⟩
  distinct := (List.nodup_cons.mp h.distinct).2
  unmeasured := by
    intro other ho
    rw [NameMap.mem_insert]
    rintro (rfl | hm)
    · exact (List.nodup_cons.mp h.distinct).1 ho
    · exact h.unmeasured other (List.mem_cons_of_mem _ ho) hm
  exact := h.exact_insert.2

theorem cycleAt_eq {path : List Visit} {inner outer : List String}
    (hp : path.map Visit.name = inner ++ reference :: outer) (hn : reference ∉ outer) :
    cycleAt path reference = reference :: inner.reverse ++ [reference] := by
  have hr : (path.map Visit.name).reverse = outer.reverse ++ (reference :: inner.reverse) := by
    simp [hp]
  have hf : ∀ x ∈ outer.reverse, decide (x = reference) = false := by
    intro x hx
    exact decide_eq_false fun he => hn (he ▸ List.mem_reverse.mp hx)
  have hi : (outer.reverse ++ (reference :: inner.reverse)).findIdx? (· = reference) =
      some outer.length := by
    rw [List.findIdx?_append, List.findIdx?_eq_none_iff.mpr hf]
    simp [List.findIdx?_cons]
  rw [cycleAt, hr, hi, Option.getD_some, List.drop_left' List.length_reverse]

theorem Sound.isCycle
    (h : Sound vars start ⟨⟨name, reference :: pending, depth⟩ :: outer, onPath, depths⟩)
    (hr : reference ∈ vars) (hp : reference ∈ onPath) :
    IsCycle vars (cycleAt (⟨name, reference :: pending, depth⟩ :: outer) reference) := by
  obtain ⟨inner, rest, hnames⟩ := List.append_of_mem ((h.onPath reference).mp hp)
  have hd : (inner ++ reference :: rest).Nodup := hnames ▸ h.distinct
  have hrest : reference ∉ rest := (List.nodup_cons.mp (List.nodup_append.mp hd).2.1).1
  have hinner : (reference :: inner).Nodup := by
    rw [List.nodup_middle, List.nodup_cons, List.nodup_append] at hd
    exact List.nodup_cons.mpr ⟨fun hm => hd.1 (List.mem_append_left rest hm), hd.2.1⟩
  have htrail : Trail vars depths [reference] (⟨name, pending, depth⟩ :: outer) := h.trail
  have hchain : (reference :: (inner ++ [reference]) ++ rest).IsChain
      fun inner outer => Refers vars outer inner := by
    have hc := htrail.isChain hr
    rw [show (⟨name, pending, depth⟩ :: outer : List Visit).map Visit.name =
      inner ++ reference :: rest from hnames] at hc
    simpa using hc
  rw [cycleAt_eq hnames hrest]
  refine isCycle_of_isChain (by simpa using hinner) ?_
  simpa using List.isChain_reverse.mpr hchain.left_of_append

/-- A name is measured, and all that was measured before is kept. -/
structure Measures (vars : NameMap String) (name : String) (before after : NameMap Nat)
    (depth : Nat) : Prop where
  exact : Exact vars after
  kept : before ⊆ after
  depth : after.get? name = some depth

theorem step_skip (hv : vars.get? reference = none) :
    step vars ⟨⟨name, reference :: pending, depth⟩ :: outer, onPath, depths⟩ =
      .more ⟨⟨name, pending, depth⟩ :: outer, onPath, depths⟩ := by
  simp only [step, hv]

theorem step_take (hv : vars.get? reference = some value) (hd : depths.get? reference = some d) :
    step vars ⟨⟨name, reference :: pending, depth⟩ :: outer, onPath, depths⟩ =
      .more ⟨⟨name, pending, max depth (1 + d)⟩ :: outer, onPath, depths⟩ := by
  simp only [step, hv, hd]

theorem step_cycle (hv : vars.get? reference = some value) (hd : depths.get? reference = none)
    (hp : reference ∈ onPath) :
    step vars ⟨⟨name, reference :: pending, depth⟩ :: outer, onPath, depths⟩ =
      .cycle (cycleAt (⟨name, reference :: pending, depth⟩ :: outer) reference) := by
  simp only [step, hv, hd, if_pos hp]

theorem step_push (hv : vars.get? reference = some value) (hd : depths.get? reference = none)
    (hp : reference ∉ onPath) :
    step vars ⟨⟨name, reference :: pending, depth⟩ :: outer, onPath, depths⟩ =
      .more ⟨.start reference value :: ⟨name, pending, depth⟩ :: outer, reference :: onPath,
        depths⟩ := by
  simp only [step, hv, hd, if_neg hp]

theorem step_sound {w : Walk} (h : Sound vars start w) :
    match step vars w with
    | .more w' => Sound vars start w' ∧ w.depths ⊆ w'.depths
    | .done depths depth => Measures vars start w.depths depths depth
    | .cycle names => IsCycle vars names := by
  obtain ⟨path, onPath, depths⟩ := w
  match path with
  | [] => exact nomatch h.origin
  | [⟨name, [], depth⟩] =>
    have hname : name = start := Option.some.inj h.origin
    obtain ⟨hn, he⟩ := h.exact_insert
    exact ⟨he, NameMap.subset_insert hn depth, by simp [hname]⟩
  | ⟨name, [], depth⟩ :: parent :: outer =>
    exact ⟨h.pop, NameMap.subset_insert h.exact_insert.1 depth⟩
  | ⟨name, reference :: pending, depth⟩ :: outer =>
    cases hv : vars.get? reference with
    | none =>
      rw [step_skip hv]
      exact ⟨h.skip (NameMap.not_mem_iff.mpr hv), NameMap.subset_refl _⟩
    | some value =>
      have hr : reference ∈ vars := NameMap.mem_iff.mpr ⟨value, hv⟩
      cases hd : depths.get? reference with
      | some known =>
        rw [step_take hv hd]
        exact ⟨h.take hr hd, NameMap.subset_refl _⟩
      | none =>
        by_cases hp : reference ∈ onPath
        · rw [step_cycle hv hd hp]
          exact h.isCycle hr hp
        · rw [step_push hv hd hp]
          exact ⟨h.push hv (NameMap.not_mem_iff.mpr hd) hp, NameMap.subset_refl _⟩

theorem run_of_more {w w' : Walk} (h : step vars w = .more w') : run vars w = run vars w' := by
  rw [run.eq_def]
  split <;> simp_all

theorem run_of_done {w : Walk} (h : step vars w = .done depths depth) :
    run vars w = .ok (depths, depth) := by
  rw [run.eq_def]
  split <;> simp_all

theorem run_of_cycle {w : Walk} {names : List String} (h : step vars w = .cycle names) :
    run vars w = .error names := by
  rw [run.eq_def]
  split <;> simp_all

theorem run_sound {w : Walk} (h : Sound vars start w) :
    match run vars w with
    | .ok (depths, depth) => Measures vars start w.depths depths depth
    | .error names => IsCycle vars names := by
  induction w using run.induct vars with
  | case1 w w' hs ih =>
    have hstep := step_sound h
    rw [hs] at hstep
    have ih := ih hstep.1
    rw [run_of_more hs]
    split at ih
    next => exact ⟨ih.exact, NameMap.subset_trans hstep.2 ih.kept, ih.depth⟩
    next => exact ih
  | case2 w depths depth hs =>
    have hstep := step_sound h
    rw [hs] at hstep
    rw [run_of_done hs]
    exact hstep
  | case3 w names hs =>
    have hstep := step_sound h
    rw [hs] at hstep
    rw [run_of_cycle hs]
    exact hstep

theorem measure_sound (he : Exact vars depths) (hn : name ∈ vars) :
    match measure vars depths name with
    | .ok (after, depth) => Measures vars name depths after depth
    | .error names => IsCycle vars names := by
  obtain ⟨value, hv⟩ := NameMap.mem_iff.mp hn
  cases hd : depths.get? name with
  | some depth =>
    simp only [measure, hd]
    exact ⟨he, NameMap.subset_refl _, hd⟩
  | none =>
    simp only [measure, hd, hv]
    exact run_sound (sound_start he hv (NameMap.not_mem_iff.mpr hd))

end Walk

def measured (vars : NameMap String) (known : NameMap Nat) (name : String) :
    Except (List String) (NameMap Nat) := (Walk.measure vars known name).map Prod.fst

theorem measured_sound {vars : NameMap String} {known : NameMap Nat} {name : String}
    (he : Exact vars known) (hn : name ∈ vars) :
    match measured vars known name with
    | .ok after => Exact vars after ∧ known ⊆ after ∧ name ∈ after
    | .error cycle => IsCycle vars cycle := by
  have hm := Walk.measure_sound he hn
  rw [measured]
  cases hc : Walk.measure vars known name with
  | error cycle =>
    rw [hc] at hm
    exact hm
  | ok result =>
    rw [hc] at hm
    exact ⟨hm.exact, hm.kept, NameMap.mem_iff.mpr ⟨result.2, hm.depth⟩⟩

theorem foldlM_measured_sound {vars : NameMap String} {names : List String}
    (hn : ∀ n ∈ names, n ∈ vars) {known : NameMap Nat} (he : Exact vars known) :
    match names.foldlM (measured vars) known with
    | .ok after => Exact vars after ∧ known ⊆ after ∧ ∀ n ∈ names, n ∈ after
    | .error cycle => IsCycle vars cycle := by
  induction names generalizing known with
  | nil => exact ⟨he, NameMap.subset_refl _, nofun⟩
  | cons name names ih =>
    have hm := measured_sound he (hn name List.mem_cons_self)
    cases hc : measured vars known name with
    | error cycle =>
      have hfold : (name :: names).foldlM (measured vars) known = .error cycle := by
        rw [List.foldlM_cons, hc]
        rfl
      rw [hc] at hm
      rw [hfold]
      exact hm
    | ok after =>
      have hfold : (name :: names).foldlM (measured vars) known =
          names.foldlM (measured vars) after := by
        rw [List.foldlM_cons, hc]
        rfl
      rw [hc] at hm
      rw [hfold]
      have ih := ih (fun n hn' => hn n (List.mem_cons_of_mem name hn')) hm.1
      split at ih
      next last hl =>
        refine ⟨ih.1, NameMap.subset_trans hm.2.1 ih.2.1, fun n hn => ?_⟩
        obtain rfl | hn := List.mem_cons.mp hn
        · exact NameMap.mem_of_subset ih.2.1 hm.2.2
        · exact ih.2.2 n hn
      next => exact ih

theorem depths_sound (vars : NameMap String) :
    match depths vars with
    | .ok depth => Exact vars depth ∧ ∀ name ∈ vars, name ∈ depth
    | .error names => IsCycle vars names := by
  have h := foldlM_measured_sound (fun _ hn => NameMap.mem_keys.mp hn) (exact_empty vars)
  rw [show depths vars = vars.keys.foldlM (measured vars) ∅ from rfl]
  split at h
  next => exact ⟨h.1, fun name hn => h.2.2 name (NameMap.mem_keys.mpr hn)⟩
  next => exact h

end GenPlan
