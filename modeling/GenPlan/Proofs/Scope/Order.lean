import GenPlan.Proofs.Scope.Pass

namespace GenPlan.Scope

/-- Variables that a pass may come to in any order. They may refer to each other and each to what is
inherited under its own name, but not to what is inherited under the name of another. -/
structure Orderless (files : Files) (parent : NameMap String) (vs : List Variable) : Prop where
  distinct : (vs.map Variable.name).Nodup
  sealed : ∀ v ∈ vs, SealedIn parent (v.content files)
  apart : ∀ v ∈ vs, ∀ w ∈ vs, w.name ∈ references (v.content files) → w.name ≠ v.name →
    w.name ∉ parent

/-- A variable with its text, in which the inherited value of its own name is put in. -/
def extended (files : Files) (parent : NameMap String) (v : Variable) : String × String :=
  (v.name, substitute (parent.only v.name) (v.content files))

def stated (files : Files) (parent : NameMap String) (vs : List Variable) : NameMap String :=
  parent.addAll (vs.map (extended files parent))

variable {files : Files} {parent : NameMap String} {vs ws : List Variable}

@[simp]
theorem fst_extended (files : Files) (parent : NameMap String) (v : Variable) :
    (extended files parent v).1 = v.name := rfl

@[simp]
theorem fst_comp_extended (files : Files) (parent : NameMap String) :
    Prod.fst ∘ extended files parent = Variable.name := rfl

theorem stated_perm (hp : vs.Perm ws) (hd : (vs.map Variable.name).Nodup) :
    stated files parent vs = stated files parent ws :=
  NameMap.addAll_perm (hp.map _) (by simpa using hd) parent

theorem get?_stated_of_not_mem {name : String} (h : name ∉ vs.map Variable.name) :
    (stated files parent vs).get? name = parent.get? name :=
  NameMap.get?_addAll_of_not_mem (by simpa using h) parent

theorem get?_stated_of_mem (hd : (vs.map Variable.name).Nodup) {v : Variable} (hv : v ∈ vs) :
    (stated files parent vs).get? v.name =
      some (substitute (parent.only v.name) (v.content files)) := by
  have hm : extended files parent v ∈ vs.map (extended files parent) := List.mem_map_of_mem hv
  exact NameMap.get?_addAll_of_mem (by simpa using hd) hm parent

namespace Orderless

theorem perm (hp : vs.Perm ws) (h : Orderless files parent vs) : Orderless files parent ws where
  distinct := (hp.map Variable.name).nodup_iff.mp h.distinct
  sealed := fun v hv => h.sealed v (hp.mem_iff.mpr hv)
  apart := fun v hv w hw => h.apart v (hp.mem_iff.mpr hv) w (hp.mem_iff.mpr hw)

theorem unsettled (h : Orderless files parent vs) :
    Unsettled parent (texts files vs) (stated files parent vs) where
  distinct := by simpa using h.distinct
  sealed := by
    intro e he
    obtain ⟨v, hv, rfl⟩ := List.mem_map.mp he
    exact h.sealed v hv
  kept := by
    intro name hn value hv
    rw [get?_stated_of_not_mem (by simpa using hn), hv]
  stated := by
    intro e he
    obtain ⟨v, hv, rfl⟩ := List.mem_map.mp he
    exact get?_stated_of_mem h.distinct hv
  fresh := by
    intro e he reference hr hm hne
    obtain ⟨v, hv, rfl⟩ := List.mem_map.mp he
    rw [map_fst_texts] at hm
    obtain ⟨w, hw, rfl⟩ := List.mem_map.mp hm
    exact h.apart v hv w hw hr hne

theorem unfolds (h : Orderless files parent vs) :
    Unfolds (stated files parent vs) (settle parent (texts files vs)) := by
  have hall : (stated files parent vs).update (settle parent (texts files vs)) =
      (∅ : NameMap String).update (settle parent (texts files vs)) := by
    apply NameMap.update_congr
    intro name hn
    rw [mem_settle, map_fst_texts, not_or] at hn
    rw [get?_stated_of_not_mem hn.2, NameMap.not_mem_iff.mp hn.1, NameMap.get?_empty]
  have hu := h.unsettled.unfolds
  rwa [hall, NameMap.empty_update] at hu

end Orderless

/-- The order of declaration decides neither whether a scope can inherit nor what it resolves. -/
theorem inherited_perm (files : Files) (parent : NameMap String) (s t : Scope)
    (hp : s.declared.Perm t.declared) (h : Orderless files parent s.declared)
    (known : NameMap String) :
    s.inherited files parent = .ok known ↔ t.inherited files parent = .ok known := by
  have havailable : (∀ v ∈ s.declared, v.Available files) ↔
      ∀ v ∈ t.declared, v.Available files :=
    ⟨fun ha v hv => ha v (hp.mem_iff.mpr hv), fun ha v hv => ha v (hp.mem_iff.mp hv)⟩
  rw [inherited_eq_ok_iff, inherited_eq_ok_iff, havailable, ← h.unfolds.resolve_iff,
    ← (h.perm hp).unfolds.resolve_iff, stated_perm hp h.distinct]

def given (es : List (String × String)) : Scope := ⟨es.map fun e => ⟨e.1, some e.2, none⟩, ∅⟩

def noFiles : Files := FileTree.empty.files "/"

theorem inherited_perm_extended :
    (given [("path", "${path}:${dir}"), ("dir", "${root}/n")]).inherited noFiles
      (.ofList [("path", "/bin"), ("root", "/r")]) =
        .ok (.ofList [("dir", "/r/n"), ("path", "/bin:/r/n"), ("root", "/r")]) ∧
    (given [("dir", "${root}/n"), ("path", "${path}:${dir}")]).inherited noFiles
      (.ofList [("path", "/bin"), ("root", "/r")]) =
        .ok (.ofList [("dir", "/r/n"), ("path", "/bin:/r/n"), ("root", "/r")]) := by
  have hs : (given [("path", "${path}:${dir}"), ("dir", "${root}/n")]).inherited noFiles
      (.ofList [("path", "/bin"), ("root", "/r")]) =
        .ok (.ofList [("dir", "/r/n"), ("path", "/bin:/r/n"), ("root", "/r")]) := by cbv
  have hc : ∀ v ∈ (given [("path", "${path}:${dir}"), ("dir", "${root}/n")]).declared,
      Clean (v.content noFiles) := by decide
  refine ⟨hs, (inherited_perm _ _ _ _ ?_ ⟨?_, ?_, ?_⟩ _).mp hs⟩
  · decide
  · decide
  · exact fun v hv => .of_clean (hc v hv) (by decide)
  · decide

/-- Where a variable refers to a name that is inherited and declared anew by another, the order decides
which of the two it gets, also among clean texts. And where texts are not clean the order decides which
characters come to be a marker, also if nothing is inherited. -/
theorem not_inherited_perm :
    (¬ ∀ (files : Files) (parent : NameMap String) (s t : Scope), s.declared.Perm t.declared →
      (s.declared.map Variable.name).Nodup → (∀ v ∈ s.declared, v.cached.isSome) →
      (∀ v ∈ s.declared, Clean (v.content files)) → (∀ e ∈ parent.entries, Clean e.2) → ∀ known,
        s.inherited files parent = .ok known ↔ t.inherited files parent = .ok known) ∧
    ¬ ∀ (files : Files) (s t : Scope), s.declared.Perm t.declared →
      (s.declared.map Variable.name).Nodup → (∀ v ∈ s.declared, v.cached.isSome) → ∀ known,
        s.inherited files ∅ = .ok known ↔ t.inherited files ∅ = .ok known := by
  constructor
  · intro h
    have hs : (given [("b", "${a}"), ("a", "x")]).inherited noFiles (.ofList [("a", "P")]) =
        .ok (.ofList [("a", "x"), ("b", "P")]) := by cbv
    have ht : (given [("a", "x"), ("b", "${a}")]).inherited noFiles (.ofList [("a", "P")]) =
        .ok (.ofList [("a", "x"), ("b", "x")]) := by cbv
    have hp : (given [("b", "${a}"), ("a", "x")]).declared.Perm
        (given [("a", "x"), ("b", "${a}")]).declared := by decide
    have hst := (h noFiles _ _ _ hp (by decide) (by decide) (by decide) (by decide) _).mp hs
    exact absurd (ht.symm.trans hst) (by decide)
  · intro h
    have hs : (given [("b", "{c}"), ("a", "$${b}"), ("c", "C")]).inherited noFiles ∅ =
        .ok (.ofList [("a", "C"), ("b", "{c}"), ("c", "C")]) := by cbv
    have ht : (given [("a", "$${b}"), ("b", "{c}"), ("c", "C")]).inherited noFiles ∅ =
        .ok (.ofList [("a", "${c}"), ("b", "{c}"), ("c", "C")]) := by cbv
    have hp : (given [("b", "{c}"), ("a", "$${b}"), ("c", "C")]).declared.Perm
        (given [("a", "$${b}"), ("b", "{c}"), ("c", "C")]).declared := by decide
    have hst := (h noFiles _ _ hp (by decide) (by decide) _).mp hs
    exact absurd (ht.symm.trans hst) (by decide)

end GenPlan.Scope
