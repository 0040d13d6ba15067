import GenPlan.Proofs.Plan.Throughout
import GenPlan.Proofs.Scope.Again

namespace GenPlan

open Progress

namespace Node

/-- Every dollar sign in the values of the variables and in the texts is part of a marker. -/
structure AllClean (files : Files) (n : Node) : Prop where
  contents : ∀ v ∈ n.scope.declared, Clean (v.content files)
  texts : ∀ text ∈ n.texts, Clean text

instance (files : Files) (n : Node) : Decidable (n.AllClean files) :=
  decidable_of_iff ((∀ v ∈ n.scope.declared, Clean (v.content files)) ∧ ∀ text ∈ n.texts, Clean text)
    ⟨fun h => ⟨h.1, h.2⟩, fun h => ⟨h.contents, h.texts⟩⟩

/-- No opening of a marker can come about where something is put in for the markers there are. -/
structure AllSealed (files : Files) (n : Node) : Prop where
  contents : ∀ v ∈ n.scope.declared, Sealed (v.content files)
  texts : ∀ text ∈ n.texts, Sealed text

variable {files : Files} {parent : NameMap String} {outer : Routing} {n n' : Node}

theorem AllClean.allSealed (h : n.AllClean files) : n.AllSealed files :=
  ⟨fun v hv => (h.contents v hv).sealed, fun text ht => (h.texts text ht).sealed⟩

/-- Nothing that has been resolved is left to be put in. -/
structure Saturated (n : Node) : Prop where
  values : ∀ name value, n.scope.resolved.get? name = some value →
    ∀ reference ∈ references value, reference ∉ n.scope.resolved
  texts : ∀ text ∈ n.texts, ∀ reference ∈ references text, reference ∉ n.scope.resolved

theorem clean_texts_standardFolder :
    ∀ s ∈ StandardFolder.all, ∀ text ∈ (folder s.folder).texts, Clean text := by
  decide +kernel

theorem declared_standardFolder (s : StandardFolder) : (folder s.folder).scope.declared = [] := by
  rw [StandardFolder.folder_eq, scope]

theorem allSealed_standardFolder (s : StandardFolder) (hs : s ∈ StandardFolder.all) :
    (folder s.folder).AllSealed files where
  contents := by
    rw [declared_standardFolder]
    exact nofun
  texts := fun text ht => (clean_texts_standardFolder s hs text ht).sealed

theorem Initialized.final (h : Initialized files parent outer n n') (hf : parent.Final)
    (hs : n.AllSealed files) : n'.scope.resolved.Final :=
  Scope.final_of_inherit hf hs.contents h.inherits

theorem Initialized.saturated (h : Initialized files parent outer n n') (hf : parent.Final)
    (hs : n.AllSealed files) : n'.Saturated where
  values := (h.final hf hs).saturated
  texts := by
    rw [h.texts, List.forall_mem_map]
    exact fun text ht reference => (h.final hf hs).not_mem_of_mem_references (hs.texts text ht)

end Node

namespace Plan

variable {files : Files} {root : String} {p p' : Plan}

theorem sealed_declare (hroot : Sealed root) (h : (Node.plan p).AllSealed files) :
    ∀ v ∈ (p.scope.declare (rootDeclaration root)).declared, Sealed (v.content files) := by
  intro v hv
  obtain rfl | hv := Named.mem_of_mem_put hv
  · exact hroot
  · exact h.contents v hv

theorem final_of_init (hroot : Sealed root) (hs : (Node.plan p).AllSealed files)
    (h : p.init files root = done p') : p'.scope.resolved.Final :=
  Scope.final_of_inherit final_empty (sealed_declare hroot hs) (inherit_of_init h)

theorem saturated_of_init (hroot : Sealed root) (hs : ∀ n ∈ (Node.plan p).all, n.AllSealed files)
    (h : p.init files root = done p') : ∀ n ∈ (Node.plan p').all, n.Saturated := by
  have hown := (Node.forall_mem_all.mp hs).1
  have hfinal := final_of_init hroot hown h
  refine Node.forall_mem_all.mpr ⟨⟨hfinal.saturated, nofun⟩, fun c hc => ?_⟩
  have hinside := Node.throughout_of_init_plan (P := fun _ _ n => n.Saturated)
    Node.allSealed_standardFolder (fun hf hs hi => ⟨hi.final hf hs, hi.saturated hf hs⟩) hfinal hs h
  exact (hinside c hc).forall_mem_all fun _ _ _ h => h

def layered : Plan where
  scope := ⟨[⟨"home", some "${rootDir}/${kind}", none⟩, ⟨"title", some "T", none⟩], ∅⟩
  classpath := { entries := [{ path := "${rootDir}/bin" }] }
  projects := [{
    name := "main"
    path := "${home}"
    folders := [{ name := "out", path := "${kind}", scope := ⟨[⟨"kind", some "o", none⟩], ∅⟩ }] }]
  parsers := { parsers := [{
    name := "p"
    className := "P"
    properties := .ofList [("greeting", "Hi ${title}")] }] }
  generators := {
    routing := { project := some "main" }
    generators := [{
      name := "g"
      className := "${title}"
      scope := ⟨[⟨"kind", some "<${title}>", none⟩], ∅⟩
      artifacts := [{
        name := "${kind}"
        targets := [{ routing := { folder := some "${home}" } }] }] }] }

theorem allClean_layered :
    ∀ n ∈ (Node.plan layered).all, n.AllClean (FileTree.empty.files "/") := by
  rw [Node.all_plan]
  decide +kernel

end Plan

namespace Session

theorem failure_init_layered :
    (init (FileTree.empty.files "/") {} "/r" { plan := Plan.layered }).failure = none := by
  cbv

/-- If all that a plan holds is clean, an initialization leaves no reference to a resolved variable in
it, whatever the entity. -/
theorem init_saturates {files : Files} {context : Context} {root : String} {s t : Session}
    (hroot : Clean root) (hs : ∀ n ∈ (Node.plan s.plan).all, n.AllClean files)
    (h : s.init files context root = done t) : ∀ n ∈ (Node.plan t.plan).all, n.Saturated := by
  obtain ⟨plan, hplan, rfl⟩ := init_eq_done_iff.mp h
  exact Plan.saturated_of_init hroot.sealed (fun n hn => (hs n hn).allSealed) hplan

theorem init_saturates_layered :
    Clean "/r" ∧
    (∀ n ∈ (Node.plan Plan.layered).all, n.AllClean (FileTree.empty.files "/")) ∧
    ∃ t, init (FileTree.empty.files "/") {} "/r" { plan := Plan.layered } = done t ∧
      ∀ n ∈ (Node.plan t.plan).all, n.Saturated := by
  have hroot : Clean "/r" := by decide +kernel
  have hinit := eq_done_of_failure failure_init_layered
  exact ⟨hroot, Plan.allClean_layered, _, hinit, init_saturates hroot Plan.allClean_layered hinit⟩

end Session

end GenPlan
