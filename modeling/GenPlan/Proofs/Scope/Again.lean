import GenPlan.Proofs.Named
import GenPlan.Proofs.Progress
import GenPlan.Proofs.Resolution.Standstill
import GenPlan.Proofs.Scope.Pass

namespace GenPlan

namespace Variable

variable {files later : Files} {v w : Variable}

theorem available_of_isSome (h : v.cached.isSome) (files : Files) : v.Available files := by
  obtain ⟨text, ht⟩ := Option.isSome_iff_exists.mp h
  simp [Available, value, ht, Except.isOk, Except.toBool]

theorem cached_eq_content (h : v.cached.isSome) (files : Files) :
    v.cached = some (v.content files) := by
  obtain ⟨text, ht⟩ := Option.isSome_iff_exists.mp h
  simp [content, value, ht]

theorem eq_of_content (hv : v.cached.isSome) (hw : w.cached.isSome) (hname : v.name = w.name)
    (hsource : v.source = w.source) (hc : v.content later = w.content later) : v = w := by
  have hcached : v.cached = w.cached := by
    rw [cached_eq_content hv later, cached_eq_content hw later, hc]
  cases v
  cases w
  simp_all

end Variable

namespace Scope

variable {files later : Files} {known : NameMap String} {vs ws : List Variable}

theorem map_source_passed (files : Files) (known : NameMap String) (vs : List Variable) :
    (passed files known vs).map Variable.source = vs.map Variable.source := by
  have h := congrArg (List.map Prod.snd) (map_identity_passed files known vs)
  rwa [List.map_map, List.map_map] at h

theorem texts_passed (files later : Files) (known : NameMap String) (vs : List Variable) :
    texts later (passed files known vs) = settledTexts known (texts files vs) := by
  induction vs generalizing known with
  | nil => rfl
  | cons v vs ih =>
    rw [passed_cons, texts, texts, List.map_cons, List.map_cons, settledTexts_cons]
    exact congrArg _ (ih _)

theorem eq_of_texts_eq (hv : ∀ v ∈ vs, v.cached.isSome) (hw : ∀ w ∈ ws, w.cached.isSome)
    (hsource : vs.map Variable.source = ws.map Variable.source)
    (ht : texts later vs = texts later ws) : vs = ws := by
  induction vs generalizing ws with
  | nil =>
    cases ws with
    | nil => rfl
    | cons w ws => cases ht
  | cons v vs ih =>
    cases ws with
    | nil => cases ht
    | cons w ws =>
      simp only [texts, List.map_cons, List.cons.injEq, Prod.mk.injEq] at ht hsource
      obtain ⟨⟨hname, hcontent⟩, ht⟩ := ht
      rw [Variable.eq_of_content (hv v List.mem_cons_self) (hw w List.mem_cons_self) hname hsource.1
        hcontent, ih (fun v hm => hv v (List.mem_cons_of_mem _ hm))
          (fun w hm => hw w (List.mem_cons_of_mem _ hm)) hsource.2 ht]

theorem texts_put_passed {d : Variable} (hd : (vs.map Variable.name).Nodup) (hm : d ∈ vs)
    (hc : d.cached.isSome) : texts later (Named.put d (passed files known vs)) =
      restored (· = d.name) known (texts files vs) := by
  induction vs generalizing known with
  | nil => cases hm
  | cons v vs ih =>
    obtain ⟨hv, hd⟩ := List.nodup_cons.mp hd
    rw [passed_cons, Named.put]
    obtain rfl | hm := List.mem_cons.mp hm
    · have hcontent : d.content later = d.content files := by
        rw [← Option.some_inj, ← Variable.cached_eq_content hc, ← Variable.cached_eq_content hc]
      have hothers : ∀ name ∈ (texts files vs).map Prod.fst, false = decide (name = d.name) := by
        intro name hn
        rw [map_fst_texts] at hn
        have hne : name ≠ d.name := fun he => hv (he ▸ hn)
        simp [hne]
      have hnext := texts_passed files later (known.insert d.name (substitute known (d.content files))) vs
      rw [settledTexts, restored_congr hothers] at hnext
      simp only [Named.name, if_true, texts, List.map_cons, restored, decide_true]
      rw [hcontent]
      exact congrArg _ hnext
    · have hne : v.name ≠ d.name := fun he => hv (he ▸ List.mem_map_of_mem hm)
      simp only [Named.name, hne, if_false, texts, List.map_cons, restored, decide_false,
        Bool.false_eq_true]
      exact congrArg _ (ih hd hm)

theorem map_source_put_passed {d : Variable} (hd : (vs.map Variable.name).Nodup) (hm : d ∈ vs) :
    (Named.put d (passed files known vs)).map Variable.source = vs.map Variable.source := by
  induction vs generalizing known with
  | nil => cases hm
  | cons v vs ih =>
    obtain ⟨hv, hd⟩ := List.nodup_cons.mp hd
    rw [passed_cons, Named.put]
    obtain rfl | hm := List.mem_cons.mp hm
    · simp only [Named.name, if_true, List.map_cons, map_source_passed]
    · have hne : v.name ≠ d.name := fun he => hv (he ▸ List.mem_map_of_mem hm)
      simp only [Named.name, hne, if_false, List.map_cons, ih hd hm]

variable {parent : NameMap String} {s s' : Scope}

theorem final_of_inherit (hf : parent.Final) (hs : ∀ v ∈ s.declared, Sealed (v.content files))
    (h : s.inherit files parent = .done s') : s'.resolved.Final := by
  obtain ⟨_, _, depth, hr⟩ := inherit_eq_done_iff.mp h
  refine (resolved_of_resolve hr).final (allSealed_settle hf.allSealed fun e he => ?_)
  obtain ⟨v, hv, rfl⟩ := List.mem_map.mp he
  exact hs v hv

/-- Scopes of distinct names and sealed texts, on top of final values. -/
structure Inherits (files : Files) (parent : NameMap String) (s s' : Scope) : Prop where
  final : parent.Final
  distinct : (s.declared.map Variable.name).Nodup
  allSealed : ∀ v ∈ s.declared, Sealed (v.content files)
  inherits : s.inherit files parent = .done s'

namespace Inherits

variable {t : Scope} {raw : String → Bool}

theorem available (h : Inherits files parent s s') : ∀ v ∈ s.declared, v.Available files :=
  (inherit_eq_done_iff.mp h.inherits).1

theorem declared_eq (h : Inherits files parent s s') :
    s'.declared = passed files parent s.declared := (inherit_eq_done_iff.mp h.inherits).2.1

theorem sealed_texts (h : Inherits files parent s s') :
    ∀ e ∈ texts files s.declared, Sealed e.2 := by
  intro e he
  obtain ⟨v, hv, rfl⟩ := List.mem_map.mp he
  exact h.allSealed v hv

theorem isSome_cached (h : Inherits files parent s s') : ∀ w ∈ s'.declared, w.cached.isSome :=
  h.declared_eq ▸ isSome_cached_of_mem_passed

theorem exists_inherit (h : Inherits files parent s s')
    (ha : ∀ v ∈ t.declared, v.Available later)
    (ht : texts later t.declared = restored raw parent (texts files s.declared)) :
    ∃ t', t.inherit later parent = .done t' ∧ t'.resolved = s'.resolved := by
  have hu := h.final.unfoldsInto_settle (by simpa using h.distinct) h.sealed_texts raw
  have hr := hu.resolve_eq (inherit_eq_done_iff.mp h.inherits).2.2
  rw [← ht] at hr
  exact ⟨⟨_, s'.resolved⟩, inherit_eq_done_iff.mpr ⟨ha, rfl, hr⟩, rfl⟩

theorem inherit_eq_iff (h : Inherits files parent s s')
    (hv : ∀ v ∈ t.declared, v.cached.isSome)
    (ht : texts later t.declared = restored raw parent (texts files s.declared))
    (hsource : t.declared.map Variable.source = s.declared.map Variable.source) :
    t.inherit later parent = .done s' ↔ s'.declared.Pairwise fun v w =>
      raw w.name = false → ∀ text ∈ w.cached, v.name ∉ references text := by
  have ha : ∀ v ∈ t.declared, v.Available later := fun v hm =>
    Variable.available_of_isSome (hv v hm) later
  obtain ⟨t', hinherit, hresolved⟩ := h.exists_inherit ha ht
  have hdeclared : t'.declared = passed later parent t.declared :=
    (inherit_eq_done_iff.mp hinherit).2.1
  have hstored : texts later s'.declared = settledTexts parent (texts files s.declared) := by
    rw [h.declared_eq, texts_passed]
  have hagain : texts later t'.declared =
      settledTexts parent (restored raw parent (texts files s.declared)) := by
    rw [hdeclared, texts_passed, ht]
  have hsame : t' = s' ↔ texts later t'.declared = texts later s'.declared := by
    refine ⟨fun he => he ▸ rfl, fun he => ?_⟩
    have hd : t'.declared = s'.declared := by
      refine eq_of_texts_eq ?_ h.isSome_cached ?_ he
      · exact hdeclared ▸ isSome_cached_of_mem_passed
      · rw [hdeclared, h.declared_eq, map_source_passed, map_source_passed, hsource]
    cases t'
    cases s'
    simp_all
  have hg : Grounded (settle parent (texts files s.declared)) :=
    (exists_resolve_eq_iff.mp (inherit_eq_done_iff.mp h.inherits).2.2).1
  rw [hinherit, Progress.done_inj, hsame, hagain, hstored,
    h.final.settledTexts_restored_eq_iff hg (by simpa using h.distinct) h.sealed_texts, ← hstored,
    texts, List.pairwise_map]
  refine List.Pairwise.iff_of_mem fun _ hw => ?_
  rw [Variable.cached_eq_content (h.isSome_cached _ hw) later]
  simp

end Inherits

/-- No variable refers to one declared before it, save those that are exempt. -/
def ForwardOnly (exempt : String → Bool) (s : Scope) : Prop :=
  s.declared.Pairwise fun v w =>
    exempt w.name = false → ∀ text ∈ w.cached, v.name ∉ references text

/-- Whatever files there are, inheriting from the same values resolves to what is resolved already. The
variables stay as they are exactly if they refer forward only. -/
structure Standing (parent : NameMap String) (exempt : String → Bool) (start s : Scope) : Prop where
  exists_inherit : ∀ later, ∃ t, start.inherit later parent = .done t ∧ t.resolved = s.resolved
  inherit_eq_iff : ∀ later, start.inherit later parent = .done s ↔ s.ForwardOnly exempt

namespace Inherits

theorem standing (h : Inherits files parent s s') : Standing parent (fun _ => false) s' s' := by
  have ht (later : Files) : texts later s'.declared =
      restored (fun _ => false) parent (texts files s.declared) := by
    rw [h.declared_eq, texts_passed, settledTexts]
  have hsource : s'.declared.map Variable.source = s.declared.map Variable.source := by
    rw [h.declared_eq, map_source_passed]
  have ha (later : Files) : ∀ v ∈ s'.declared, v.Available later := fun v hv =>
    Variable.available_of_isSome (h.isSome_cached v hv) later
  exact ⟨fun later => h.exists_inherit (ha later) (ht later),
    fun later => h.inherit_eq_iff h.isSome_cached (ht later) hsource⟩

theorem standing_declare (h : Inherits files parent s s') {d : Variable} (hd : d ∈ s.declared)
    (hc : d.cached.isSome) : Standing parent (· = d.name) (s'.declare d) s' := by
  have hv : ∀ v ∈ (s'.declare d).declared, v.cached.isSome := by
    intro v hv
    obtain rfl | hv := Named.mem_of_mem_put hv
    · exact hc
    · exact h.isSome_cached v hv
  have ht (later : Files) : texts later (s'.declare d).declared =
      restored (· = d.name) parent (texts files s.declared) := by
    rw [declare, h.declared_eq, texts_put_passed h.distinct hd hc]
  have hsource : (s'.declare d).declared.map Variable.source =
      s.declared.map Variable.source := by
    rw [declare, h.declared_eq, map_source_put_passed h.distinct hd]
  have ha (later : Files) : ∀ v ∈ (s'.declare d).declared, v.Available later := fun v hm =>
    Variable.available_of_isSome (hv v hm) later
  exact ⟨fun later => h.exists_inherit (ha later) (ht later),
    fun later => h.inherit_eq_iff hv (ht later) hsource⟩

end Inherits

end Scope

end GenPlan
