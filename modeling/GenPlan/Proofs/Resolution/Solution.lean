import GenPlan.Proofs.Resolution.Cycle

namespace GenPlan

theorem settle_cons (known : NameMap String) (name text : String) (texts : List (String × String)) :
    settle known ((name, text) :: texts) =
      settle (known.insert name (substitute known text)) texts := rfl

theorem settle_append (known : NameMap String) (texts more : List (String × String)) :
    settle known (texts ++ more) = settle (settle known texts) more := List.foldl_append

theorem get?_settle_of_not_mem {texts : List (String × String)} {name : String}
    (h : name ∉ texts.map Prod.fst) (known : NameMap String) :
    (settle known texts).get? name = known.get? name := by
  induction texts generalizing known with
  | nil => rfl
  | cons e texts ih =>
    simp only [List.map_cons, List.mem_cons, not_or] at h
    exact (ih h.2 _).trans (by simp [Ne.symm h.1])

theorem get?_settle_append_cons {before after : List (String × String)} {name : String}
    (h : name ∉ after.map Prod.fst) (known : NameMap String) (text : String) :
    (settle known (before ++ (name, text) :: after)).get? name =
      some (substitute (settle known before) text) := by
  rw [settle_append, settle_cons, get?_settle_of_not_mem h, NameMap.get?_insert, if_pos rfl]

theorem mem_settle {texts : List (String × String)} {known : NameMap String} {name : String} :
    name ∈ settle known texts ↔ name ∈ known ∨ name ∈ texts.map Prod.fst := by
  induction texts generalizing known with
  | nil => simp [settle]
  | cons e texts ih =>
    obtain ⟨other, text⟩ := e
    rw [settle_cons, ih, NameMap.mem_insert, List.map_cons, List.mem_cons, eq_comm]
    tauto

variable {vars : NameMap String}

@[simp]
theorem map_fst_listed (vars : NameMap String) (names : List String) :
    (listed vars names).map Prod.fst = names := by
  simp [listed, Function.comp_def]

/-- Names as the variables have them, each value with all markers of names replaced. -/
structure Solves (vars known : NameMap String) : Prop where
  keys : known.keys = vars.keys
  value : ∀ name text, vars.get? name = some text →
    known.get? name = some (substitute known text)

theorem Solves.mem_iff {known : NameMap String} (h : Solves vars known) {name : String} :
    name ∈ known ↔ name ∈ vars := NameMap.keys_eq_iff.mp h.keys name

theorem Solves.unique (hg : Grounded vars) {known other : NameMap String} (h : Solves vars known)
    (ho : Solves vars other) : known = other := by
  apply NameMap.ext_get?
  intro name
  induction name using hg.induction with
  | _ name ih =>
    cases hv : vars.get? name with
    | none =>
      have hn : name ∉ vars := NameMap.not_mem_iff.mpr hv
      rw [NameMap.not_mem_iff.mp (mt h.mem_iff.mp hn), NameMap.not_mem_iff.mp (mt ho.mem_iff.mp hn)]
    | some text =>
      rw [h.value name text hv, ho.value name text hv]
      refine congrArg some (substitute_congr fun reference hr => ?_)
      by_cases hk : reference ∈ vars
      · exact ih reference ⟨hk, text, hv, hr⟩
      · rw [NameMap.not_mem_iff.mp (mt h.mem_iff.mp hk),
          NameMap.not_mem_iff.mp (mt ho.mem_iff.mp hk)]

/-- All names, each after the known names that its value refers to. -/
structure ReferencesFirst (vars : NameMap String) (order : List String) : Prop where
  perm : order.Perm vars.keys
  before : ∀ done name rest, order = done ++ name :: rest →
    ∀ reference, Refers vars name reference → reference ∈ done

theorem ReferencesFirst.solves {order : List String} (h : ReferencesFirst vars order) :
    Solves vars (settle ∅ (listed vars order)) where
  keys := by
    rw [NameMap.keys_eq_iff]
    intro name
    rw [mem_settle, map_fst_listed, h.perm.mem_iff, NameMap.mem_keys]
    simp
  value := by
    intro name text hv
    have hm : name ∈ order :=
      h.perm.mem_iff.mpr (NameMap.mem_keys.mpr (NameMap.mem_iff.mpr ⟨text, hv⟩))
    obtain ⟨done, rest, rfl⟩ := List.append_of_mem hm
    have hnd : (done ++ name :: rest).Nodup := h.perm.nodup_iff.mpr vars.nodup_keys
    obtain ⟨_, hrest, hdone⟩ := List.nodup_append.mp hnd
    have hturn : listed vars (done ++ name :: rest) =
        listed vars done ++ (name, text) :: listed vars rest := by
      simp [listed, hv]
    -- what is known when the turn comes to the name is final for the names its text refers to
    have htext : substitute (settle ∅ (listed vars (done ++ name :: rest))) text =
        substitute (settle ∅ (listed vars done)) text := by
      refine substitute_congr fun reference hr => ?_
      rw [hturn, settle_append]
      refine get?_settle_of_not_mem (fun hl => ?_) _
      replace hl : reference ∈ name :: rest := by simpa using hl
      have hk : reference ∈ vars :=
        NameMap.mem_keys.mp (h.perm.mem_iff.mp (List.mem_append_right done hl))
      have hb : reference ∈ done := h.before done name rest rfl reference ⟨hk, text, hv, hr⟩
      exact hdone reference hb reference hl rfl
    have hname : name ∉ (listed vars rest).map Prod.fst := by
      rw [map_fst_listed]
      exact (List.nodup_cons.mp hrest).1
    rw [htext, hturn, get?_settle_append_cons hname]

theorem pairwise_substitutionOrder (vars : NameMap String) (depth : NameMap Nat) :
    (substitutionOrder vars depth).Pairwise fun a b =>
      (depth.get? a).getD 0 ≤ (depth.get? b).getD 0 := by
  refine (List.pairwise_mergeSort ?_ ?_ vars.keys).imp of_decide_eq_true
  · simp only [decide_eq_true_eq]
    omega
  · simp only [Bool.or_eq_true, decide_eq_true_eq]
    omega

theorem referencesFirst_of_pairwise {order : List String} (hp : order.Perm vars.keys)
    (hself : ∀ name ∈ order, ¬ Refers vars name name)
    (hlater : order.Pairwise fun name later => ¬ Refers vars name later) :
    ReferencesFirst vars order where
  perm := hp
  before := by
    rintro done name rest rfl reference hr
    have hm : reference ∈ done ++ name :: rest := hp.mem_iff.mpr (NameMap.mem_keys.mpr hr.1)
    obtain hm | hm := List.mem_append.mp hm
    · exact hm
    · obtain rfl | hm := List.mem_cons.mp hm
      · exact absurd hr (hself reference (List.mem_append_right done List.mem_cons_self))
      · have hrest := (List.pairwise_cons.mp (List.pairwise_append.mp hlater).2.1).1
        exact absurd hr (hrest reference hm)

theorem Resolved.referencesFirst {r : Resolution} (h : Resolved vars r) :
    ReferencesFirst vars (substitutionOrder vars r.depth) := by
  have hlt : ∀ a b, Refers vars a b → (r.depth.get? b).getD 0 < (r.depth.get? a).getD 0 :=
    fun a b => h.depth_lt
  refine referencesFirst_of_pairwise (List.mergeSort_perm _ _) ?_ ?_
  · exact fun name _ hr => Nat.lt_irrefl _ (hlt name name hr)
  · refine (pairwise_substitutionOrder vars r.depth).imp fun {a b} hle hr => ?_
    exact absurd (hlt a b hr) (Nat.not_lt.mpr hle)

theorem Resolved.solves {r : Resolution} (h : Resolved vars r) : Solves vars r.resolved :=
  h.settled ▸ h.referencesFirst.solves

theorem exists_resolve_eq_iff {known : NameMap String} :
    (∃ depth, resolve vars = .ok ⟨known, depth⟩) ↔ Grounded vars ∧ Solves vars known := by
  constructor
  · rintro ⟨depth, h⟩
    have hr := resolved_of_resolve h
    exact ⟨hr.grounded, hr.solves⟩
  · rintro ⟨hg, hs⟩
    obtain ⟨r, hr⟩ := exists_resolve_iff_grounded.mpr hg
    have hk : known = r.resolved := hs.unique hg (resolved_of_resolve hr).solves
    exact ⟨r.depth, hk ▸ hr⟩

/-- Resolved values solve what the variables state, nothing else does, and substituting in any order
in which references come first leads to them. -/
theorem resolve_unique_solution (vars : NameMap String) (r : Resolution)
    (h : resolve vars = .ok r) :
    Solves vars r.resolved ∧ (∀ other, Solves vars other → other = r.resolved) ∧
      ∀ order, ReferencesFirst vars order → settle ∅ (listed vars order) = r.resolved := by
  have hr := resolved_of_resolve h
  have hunique : ∀ other, Solves vars other → other = r.resolved := fun other ho =>
    ho.unique hr.grounded hr.solves
  exact ⟨hr.solves, hunique, fun order ho => hunique _ ho.solves⟩

def diamond : NameMap String :=
  .ofList [("a", "${b}${c}"), ("b", "<${d}>"), ("c", "${d}${u}"), ("d", "1")]

theorem resolve_diamond :
    resolve diamond = .ok ⟨.ofList [("a", "<1>1${u}"), ("b", "<1>"), ("c", "1${u}"), ("d", "1")],
      .ofList [("a", 2), ("b", 1), ("c", 1), ("d", 0)]⟩ ∧
    ReferencesFirst diamond ["d", "c", "b", "a"] ∧
    settle ∅ (listed diamond ["d", "c", "b", "a"]) =
      .ofList [("a", "<1>1${u}"), ("b", "<1>"), ("c", "1${u}"), ("d", "1")] := by
  have h : resolve diamond =
      .ok ⟨.ofList [("a", "<1>1${u}"), ("b", "<1>"), ("c", "1${u}"), ("d", "1")],
        .ofList [("a", 2), ("b", 1), ("c", 1), ("d", 0)]⟩ := by cbv
  have ho : ReferencesFirst diamond ["d", "c", "b", "a"] :=
    referencesFirst_of_pairwise (by decide) (by decide) (by decide)
  exact ⟨h, ho, (resolve_unique_solution diamond _ h).2.2 _ ho⟩

end GenPlan
