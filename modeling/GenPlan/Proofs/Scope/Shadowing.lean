import GenPlan.Proofs.Resolution.Final
import GenPlan.Proofs.Scope.Pass

namespace GenPlan

open Segment

theorem dollar_mem_of_marker_mem_scan {name cs : List Char} (h : marker name ∈ scan cs) :
    '$' ∈ cs := by
  rw [← flatMap_source_scan cs]
  exact List.mem_flatMap.mpr ⟨_, h, List.mem_cons_self⟩

theorem references_eq_nil_of_not_mem {text : String} (h : '$' ∉ text.toList) :
    references text = [] :=
  List.eq_nil_iff_forall_not_mem.mpr fun _ hr =>
    h (dollar_mem_of_marker_mem_scan (mem_references_iff.mp hr))

theorem clean_of_not_mem {text : String} (h : '$' ∉ text.toList) : Clean text := by
  intro hd
  rw [← flatMap_source_scan text.toList] at h
  exact h (List.mem_flatMap.mpr ⟨_, hd, List.mem_cons_self⟩)

def NameMap.DollarFree (vars : NameMap String) : Prop :=
  ∀ name value, vars.get? name = some value → '$' ∉ value.toList

namespace NameMap.DollarFree

variable {vars : NameMap String}

theorem insert (h : vars.DollarFree) {name value : String} (hv : '$' ∉ value.toList) :
    (vars.insert name value).DollarFree := by
  intro other text ht
  rw [get?_insert] at ht
  split at ht
  · cases ht
    exact hv
  · exact h other text ht

theorem final (h : vars.DollarFree) : vars.Final where
  allSealed := fun name value hv => (clean_of_not_mem (h name value hv)).sealed
  saturated := by
    intro name value hv reference hr
    rw [references_eq_nil_of_not_mem (h name value hv)] at hr
    cases hr

theorem not_mem_substitute (h : vars.DollarFree) {text : String} (ht : Clean text)
    (hr : ∀ reference ∈ references text, reference ∈ vars) :
    '$' ∉ (substitute vars text).toList := by
  rw [substitute, String.toList_ofList, List.mem_flatMap]
  rintro ⟨s, hs, hd⟩
  cases s with
  | plain c =>
    obtain rfl := List.mem_singleton.mp hd
    exact ht hs
  | marker name =>
    obtain ⟨value, hv⟩ := mem_iff.mp (hr _ (mem_references_of_mem_scan hs))
    rw [expand, hv] at hd
    exact h _ value hv hd

end NameMap.DollarFree

namespace Scope

/-- Variables of clean texts, each of which refers only to what is known or declared before it. -/
structure Backward (files : Files) (known : NameMap String) (vs : List Variable) : Prop where
  available : ∀ v ∈ vs, v.Available files
  clean : ∀ v ∈ vs, Clean (v.content files)
  before : ∀ i (h : i < vs.length), ∀ reference ∈ references (vs[i].content files),
    reference ∈ known ∨ reference ∈ (vs.take i).map Variable.name

variable {files : Files} {known : NameMap String} {vs : List Variable}

theorem Backward.head {v : Variable} (h : Backward files known (v :: vs)) :
    ∀ reference ∈ references (v.content files), reference ∈ known := fun reference hr =>
  (h.before 0 (Nat.zero_lt_succ _) reference hr).resolve_right List.not_mem_nil

theorem Backward.tail {v : Variable} (h : Backward files known (v :: vs)) (text : String) :
    Backward files (known.insert v.name text) vs where
  available := fun w hw => h.available w (List.mem_cons_of_mem v hw)
  clean := fun w hw => h.clean w (List.mem_cons_of_mem v hw)
  before := by
    intro i hi reference hr
    rw [NameMap.mem_insert, or_assoc]
    obtain hk | hb := h.before (i + 1) (Nat.succ_lt_succ hi) reference hr
    · exact .inr (.inl hk)
    · obtain rfl | hb := List.mem_cons.mp hb
      · exact .inl rfl
      · exact .inr (.inr hb)

theorem Backward.dollarFree_settle (h : Backward files known vs) (hk : known.DollarFree) :
    (settle known (texts files vs)).DollarFree := by
  induction vs generalizing known with
  | nil => exact hk
  | cons v vs ih =>
    have hv := hk.not_mem_substitute (h.clean v List.mem_cons_self) h.head
    exact ih (h.tail _) (hk.insert hv)

theorem get?_settle_texts {i : Nat} (hi : i < vs.length)
    (hlast : vs[i].name ∉ (vs.drop (i + 1)).map Variable.name) :
    (settle known (texts files vs)).get? vs[i].name =
      some (substitute (settle known (texts files (vs.take i))) (vs[i].content files)) := by
  have hsplit : texts files vs = texts files (vs.take i) ++
      (vs[i].name, vs[i].content files) :: texts files (vs.drop (i + 1)) := by
    conv_lhs => rw [← List.take_append_drop i vs, List.drop_eq_getElem_cons hi]
    rw [texts, List.map_append, List.map_cons]
    rfl
  rw [hsplit]
  exact get?_settle_append_cons (by simpa only [map_fst_texts] using hlast) known _

/-- On top of values without dollar signs, variables that refer back only can be resolved, whichever
names they shadow, extend or declare twice. Each name then has the last text that is declared for it,
with what was known by then put in, and all else is as inherited. -/
theorem inherited_of_backward (files : Files) (parent : NameMap String) (s : Scope)
    (hp : parent.DollarFree) (h : Backward files parent s.declared) :
    ∃ known, s.inherited files parent = .ok known ∧
      (∀ i (hi : i < s.declared.length),
        s.declared[i].name ∉ (s.declared.drop (i + 1)).map Variable.name →
          known.get? s.declared[i].name = some (substitute
            (settle parent (texts files (s.declared.take i))) (s.declared[i].content files))) ∧
      ∀ name ∉ s.declared.map Variable.name, known.get? name = parent.get? name := by
  have hfinal := (h.dollarFree_settle hp).final
  refine ⟨settle parent (texts files s.declared),
    inherited_eq_ok_iff.mpr ⟨h.available, hfinal.resolve_self⟩,
    fun i hi => get?_settle_texts hi, fun name hn => ?_⟩
  exact get?_settle_of_not_mem (by simpa only [map_fst_texts] using hn) parent

def shadowing : Scope :=
  ⟨[⟨"path", some "${path}:/x", none⟩, ⟨"a", some "${b}", none⟩, ⟨"b", some "<${a}>", none⟩,
    ⟨"path", none, some ⟨"/tail", none⟩⟩], ∅⟩

def shadowingFiles : Files := (FileTree.directory [("tail", .file "${path}:${b}".toUTF8)]).files "/"

def shadowed : NameMap String := .ofList [("a", "1"), ("b", "2"), ("home", "/h"), ("path", "/bin")]

theorem inherited_of_backward_shadowing :
    shadowed.DollarFree ∧ Backward shadowingFiles shadowed shadowing.declared ∧
    ∃ known, shadowing.inherited shadowingFiles shadowed = .ok known ∧
      known.get? "a" = some "2" ∧ known.get? "b" = some "<2>" ∧
      known.get? "path" = some "/bin:/x:<2>" ∧ known.get? "home" = some "/h" := by
  have hentries : ∀ e ∈ shadowed.entries, '$' ∉ e.2.toList := by decide
  have hp : shadowed.DollarFree := fun name value hv => hentries _ (NameMap.get?_eq_some_iff.mp hv)
  have hb : Backward shadowingFiles shadowed shadowing.declared :=
    ⟨by decide +kernel, by decide +kernel, by decide +kernel⟩
  obtain ⟨known, hi, hlocal, hother⟩ :=
    inherited_of_backward shadowingFiles shadowed shadowing hp hb
  have ha := hlocal 1 (by decide) (by decide)
  have hbb := hlocal 2 (by decide) (by decide)
  have hpath := hlocal 3 (by decide) (by decide)
  exact ⟨hp, hb, known, hi, ha.trans (by decide +kernel), hbb.trans (by decide +kernel),
    hpath.trans (by decide +kernel), (hother "home" (by decide)).trans (by decide)⟩

end Scope

end GenPlan
