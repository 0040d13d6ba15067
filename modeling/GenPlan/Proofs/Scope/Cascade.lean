import GenPlan.Proofs.Scope.Pass

namespace GenPlan.Scope

/-- Lets the scopes of a chain inherit one from the other, from the outermost to the innermost. -/
def cascade (files : Files) : NameMap String → List Scope → Except InitError (NameMap String)
  | parent, [] => .ok parent
  | parent, s :: inner => do cascade files (← s.inherited files parent) inner

/-- The variables of a chain of scopes as if one scope had them all. -/
def flat (files : Files) (chain : List Scope) : NameMap String :=
  .ofList (texts files (chain.flatMap declared))

variable {files : Files} {s : Scope} {inner : List Scope}

theorem get?_flat_cons_of_not_mem {name : String} (h : name ∉ s.declared.map Variable.name) :
    (flat files (s :: inner)).get? name = (flat files inner).get? name := by
  have hout : (NameMap.ofList (texts files s.declared)).get? name = none :=
    NameMap.get?_addAll_of_not_mem (by simpa using h) ∅
  have hboth : flat files (s :: inner) = (NameMap.ofList (texts files s.declared)).addAll
      (texts files (inner.flatMap declared)) := by
    rw [flat, List.flatMap_cons, texts, List.map_append, NameMap.ofList_eq_addAll,
      NameMap.addAll_append]
    rfl
  rw [hboth, NameMap.get?_addAll, hout, Option.or_none, flat]

theorem get?_flat_of_mem (hd : (((s :: inner).flatMap declared).map Variable.name).Nodup)
    {v : Variable} (hv : v ∈ s.declared) :
    (flat files (s :: inner)).get? v.name = some (v.content files) := by
  have hm : (v.name, v.content files) ∈ texts files ((s :: inner).flatMap declared) :=
    List.mem_map_of_mem (List.mem_append_left _ hv)
  exact NameMap.get?_addAll_of_mem (by simpa using hd) hm ∅

/-- A chain of scopes is entered with resolved values of names that none of them declares. -/
structure Entered (files : Files) (parent : NameMap String) (chain : List Scope) : Prop where
  distinct : ((chain.flatMap declared).map Variable.name).Nodup
  available : ∀ v ∈ chain.flatMap declared, v.Available files
  sealed : ∀ v ∈ chain.flatMap declared, Sealed (v.content files)
  outside : ∀ v ∈ chain.flatMap declared, v.name ∉ parent
  parent_sealed : parent.AllSealed
  parent_resolved : ∃ depth, resolve parent = .ok ⟨parent, depth⟩

namespace Entered

variable {parent : NameMap String}

theorem nodup_append (h : Entered files parent (s :: inner)) :
    (s.declared.map Variable.name ++ (inner.flatMap declared).map Variable.name).Nodup := by
  simpa only [List.flatMap_cons, List.map_append] using h.distinct

theorem unsettled (h : Entered files parent (s :: inner)) :
    Unsettled parent (texts files s.declared) ((flat files (s :: inner)).update parent) where
  distinct := by simpa using (List.nodup_append.mp h.nodup_append).1
  sealed := by
    intro e he
    obtain ⟨v, hv, rfl⟩ := List.mem_map.mp he
    exact h.parent_sealed.sealedIn (h.sealed v (List.mem_append_left _ hv))
  kept := fun name _ => NameMap.subset_update _ parent name
  stated := by
    intro e he
    obtain ⟨v, hv, rfl⟩ := List.mem_map.mp he
    have hout : v.name ∉ parent := h.outside v (List.mem_append_left _ hv)
    rw [NameMap.get?_update_of_not_mem hout, get?_flat_of_mem h.distinct hv,
      NameMap.only_of_not_mem hout, substitute_empty]
  fresh := by
    intro e he reference _ hm _
    rw [map_fst_texts] at hm
    obtain ⟨v, hv, rfl⟩ := List.mem_map.mp hm
    exact h.outside v (List.mem_append_left _ hv)

theorem unfolds (h : Entered files parent (s :: inner)) :
    Unfolds ((flat files (s :: inner)).update parent)
      ((flat files inner).update (settle parent (texts files s.declared))) := by
  have hrest : ((flat files (s :: inner)).update parent).update
      (settle parent (texts files s.declared)) =
        (flat files inner).update (settle parent (texts files s.declared)) := by
    apply NameMap.update_congr
    intro name hn
    rw [mem_settle, map_fst_texts, not_or] at hn
    rw [NameMap.get?_update_of_not_mem hn.1, get?_flat_cons_of_not_mem hn.2]
  exact hrest ▸ h.unsettled.unfolds

theorem allSealed (h : Entered files parent (s :: inner)) :
    (settle parent (texts files s.declared)).AllSealed := by
  refine allSealed_settle h.parent_sealed fun e he => ?_
  obtain ⟨v, hv, rfl⟩ := List.mem_map.mp he
  exact h.sealed v (List.mem_append_left _ hv)

theorem next (h : Entered files parent (s :: inner)) {r : Resolution}
    (hr : Resolved (settle parent (texts files s.declared)) r) :
    Entered files r.resolved inner where
  distinct := (List.nodup_append.mp h.nodup_append).2.1
  available := fun v hv => h.available v (List.mem_append_right _ hv)
  sealed := fun v hv => h.sealed v (List.mem_append_right _ hv)
  outside := by
    intro v hv
    rw [hr.solves.mem_iff, mem_settle, map_fst_texts, not_or]
    refine ⟨h.outside v (List.mem_append_right _ hv), fun hs => ?_⟩
    have hapart := (List.nodup_append.mp h.nodup_append).2.2
    exact hapart v.name hs v.name (List.mem_map_of_mem hv) rfl
  parent_sealed := hr.allSealed h.allSealed
  parent_resolved := hr.resolve_again h.allSealed

theorem unfolds_resolved (h : Entered files parent (s :: inner)) {r : Resolution}
    (hr : Resolved (settle parent (texts files s.declared)) r) :
    Unfolds ((flat files (s :: inner)).update parent) ((flat files inner).update r.resolved) := by
  have hrest : ((flat files inner).update (settle parent (texts files s.declared))).update
      r.resolved = (flat files inner).update r.resolved := by
    apply NameMap.update_congr
    intro name hn
    rw [NameMap.get?_update_of_not_mem (mt hr.solves.mem_iff.mpr hn)]
  exact h.unfolds.trans (hrest ▸ hr.unfolds h.allSealed (NameMap.subset_update _ _))

theorem grounded_settle (h : Entered files parent (s :: inner))
    (hg : Grounded ((flat files (s :: inner)).update parent)) :
    Grounded (settle parent (texts files s.declared)) :=
  (h.unfolds.grounded_iff.mp hg).mono (NameMap.subset_update _ _)

end Entered

theorem Entered.cascade_eq_ok_iff {chain : List Scope} {parent known : NameMap String}
    (h : Entered files parent chain) : cascade files parent chain = .ok known ↔
      ∃ depth, resolve ((flat files chain).update parent) = .ok ⟨known, depth⟩ := by
  induction chain generalizing parent with
  | nil =>
    obtain ⟨depth, hr⟩ := h.parent_resolved
    have hflat : (flat files []).update parent = parent := NameMap.empty_update parent
    simp [cascade, hflat, hr]
  | cons s inner ih =>
    have ha : ∀ v ∈ s.declared, v.Available files := fun v hv =>
      h.available v (List.mem_append_left _ hv)
    cases hi : s.inherited files parent with
    | ok next =>
      obtain ⟨_, depth, hr⟩ := inherited_eq_ok_iff.mp hi
      have hn := resolved_of_resolve hr
      rw [(h.unfolds_resolved hn).resolve_iff, ← ih (h.next hn), cascade, hi]
      rfl
    | error e =>
      have hn : ¬ ∃ depth, resolve ((flat files (s :: inner)).update parent) =
          .ok ⟨known, depth⟩ := by
        intro hf
        have hg := h.grounded_settle (exists_resolve_eq_iff.mp hf).1
        obtain ⟨r, hr⟩ := exists_resolve_iff_grounded.mpr hg
        have ho := inherited_eq_ok_iff.mpr ⟨ha, r.depth, hr⟩
        rw [hi] at ho
        cases ho
      simp [cascade, hi, hn, bind, Except.bind]

/-- Scopes of distinct names and clean texts, inheriting one from the other, succeed exactly if all
their variables at once can be resolved, and the innermost then has what they resolve to. -/
theorem cascade_resolves_flat (files : Files) (chain : List Scope)
    (hd : ((chain.flatMap declared).map Variable.name).Nodup)
    (ha : ∀ v ∈ chain.flatMap declared, v.Available files)
    (hc : ∀ v ∈ chain.flatMap declared, Clean (v.content files)) (known : NameMap String) :
    cascade files ∅ chain = .ok known ↔
      ∃ depth, resolve (flat files chain) = .ok ⟨known, depth⟩ := by
  have hempty : resolve ∅ = .ok ⟨∅, ∅⟩ := by cbv
  have h : Entered files ∅ chain :=
    ⟨hd, ha, fun v hv => (hc v hv).sealed, fun v _ => NameMap.not_mem_empty v.name,
      allSealed_empty, ∅, hempty⟩
  have hflat : (flat files chain).update ∅ = flat files chain :=
    NameMap.update_of_subset (NameMap.empty_subset _)
  rw [h.cascade_eq_ok_iff, hflat]

def nested : List Scope :=
  [⟨[⟨"base", some "${leaf}/x", none⟩, ⟨"end", none, none⟩], ∅⟩,
    ⟨[⟨"stem", none, some ⟨"/stem", none⟩⟩], ∅⟩,
    ⟨[⟨"leaf", some "<${stem}>", none⟩], ∅⟩]

def nestedFiles : Files := (FileTree.directory [("stem", .file "m${end}".toUTF8)]).files "/"

theorem cascade_nested :
    flat nestedFiles nested =
      .ofList [("base", "${leaf}/x"), ("end", ""), ("stem", "m${end}"), ("leaf", "<${stem}>")] ∧
    cascade nestedFiles ∅ nested =
      .ok (.ofList [("base", "<m>/x"), ("end", ""), ("stem", "m"), ("leaf", "<m>")]) := by
  have hflat : flat nestedFiles nested = .ofList
      [("base", "${leaf}/x"), ("end", ""), ("stem", "m${end}"), ("leaf", "<${stem}>")] := by
    decide +kernel
  have hr : resolve (flat nestedFiles nested) =
      .ok ⟨.ofList [("base", "<m>/x"), ("end", ""), ("stem", "m"), ("leaf", "<m>")],
        .ofList [("base", 3), ("end", 0), ("stem", 1), ("leaf", 2)]⟩ := by
    rw [hflat]
    cbv
  refine ⟨hflat, (cascade_resolves_flat nestedFiles nested ?_ ?_ ?_ _).mpr ⟨_, hr⟩⟩
  · decide
  · decide +kernel
  · decide +kernel

end GenPlan.Scope
