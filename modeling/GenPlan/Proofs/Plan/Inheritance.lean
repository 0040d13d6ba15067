import GenPlan.Proofs.Plan.Addresses
import GenPlan.Proofs.Plan.Names
import GenPlan.Proofs.Scope.Pass

namespace GenPlan

open Progress

namespace Scope

variable {files : Files} {parent : NameMap String} {s t : Scope} {name value : String}

theorem solves_of_inherit (h : s.inherit files parent = done t) :
    Solves (settle parent (texts files s.declared)) t.resolved := by
  obtain ⟨_, _, depth, hr⟩ := inherit_eq_done_iff.mp h
  exact (resolved_of_resolve hr).solves

theorem mem_resolved_of_inherit (h : s.inherit files parent = done t) :
    name ∈ t.resolved ↔ name ∈ parent ∨ name ∈ s.declared.map Variable.name := by
  rw [(solves_of_inherit h).mem_iff, mem_settle, map_fst_texts]

theorem get?_resolved_of_inherit (h : s.inherit files parent = done t)
    (hname : name ∉ s.declared.map Variable.name) (hv : parent.get? name = some value)
    (hr : ∀ reference ∈ references value, reference ∉ t.resolved) :
    t.resolved.get? name = some value := by
  have hsettled : (settle parent (texts files s.declared)).get? name = some value := by
    rw [get?_settle_of_not_mem (by rwa [map_fst_texts]), hv]
  rw [(solves_of_inherit h).value name value hsettled, substitute_of_not_mem hr]

end Scope

namespace Plan

def scopeAt (p : Plan) (a : Address) : Scope := ((p.node? a).map Node.scope).getD {}

def declaredAt (p : Plan) (a : Address) : List String := (p.scopeAt a).declared.map Variable.name

variable {files : Files} {root : String} {p p' : Plan}

theorem project_of_init (h : p.init files root = done p') {i : Nat} {q' : Project}
    (hq : p'.projects[i]? = some q') :
    ∃ q, p.projects[i]? = some q ∧ q.init files p'.scope.resolved = done q' := by
  obtain ⟨_, _, _, _, _, -, -, hprojects, -, -, rfl⟩ := init_eq_done_iff.mp h
  exact hprojects.exists_of_getElem?_right hq

theorem generator_of_init (h : p.init files root = done p') {i : Nat} {g' : Generator}
    (hg : p'.generators.generators[i]? = some g') : ∃ g, p.generators.generators[i]? = some g ∧
      g.init files p'.generators.scope.resolved (Routed.defined p'.generators) = done g' := by
  obtain ⟨_, _, _, _, _, -, -, -, -, hgenerators, rfl⟩ := init_eq_done_iff.mp h
  obtain ⟨_, _, -, hmembers, rfl⟩ := Generators.init_eq_done_iff.mp hgenerators
  exact hmembers.exists_of_getElem?_right hg

theorem artifact_of_init (h : p.init files root = done p') {i j : Nat} {g' : Generator} {a' : Artifact}
    (hg : p'.generators.generators[i]? = some g') (ha : g'.artifacts[j]? = some a') :
    ∃ g a, p.generators.generators[i]? = some g ∧ g.artifacts[j]? = some a ∧
      a.init files g'.scope.resolved (Routed.defined g') = done a' := by
  obtain ⟨g, hfrom, hinit⟩ := generator_of_init h hg
  obtain ⟨_, _, -, hartifacts, rfl⟩ := Generator.init_eq_done_iff.mp hinit
  obtain ⟨a, hinner, hdone⟩ := hartifacts.exists_of_getElem?_right ha
  exact ⟨g, a, hfrom, hinner, hdone⟩

theorem target_of_init (h : p.init files root = done p') {i j k : Nat} {g' : Generator} {a' : Artifact}
    {t' : Target} (hg : p'.generators.generators[i]? = some g') (ha : g'.artifacts[j]? = some a')
    (ht : a'.targets[k]? = some t') :
    ∃ g a t, p.generators.generators[i]? = some g ∧ g.artifacts[j]? = some a ∧ a.targets[k]? = some t ∧
      t.init files a'.scope.resolved (Routed.defined a') = done t' := by
  obtain ⟨g, a, hfrom, hinner, hinit⟩ := artifact_of_init h hg ha
  obtain ⟨_, _, -, htargets, rfl⟩ := Artifact.init_eq_done_iff.mp hinit
  obtain ⟨t, hinnermost, hdone⟩ := htargets.exists_of_getElem?_right ht
  exact ⟨g, a, t, hfrom, hinner, hinnermost, hdone⟩

/-- Every entity below the plan was initialized on top of the entity around it: the one that was at its
address or, where there was none, a standard folder. -/
theorem exists_init_of_around (h : p.init files root = done p') {a b : Address}
    (hb : b.around? = some a) {n' : Node} (hn : p'.node? b = some n') :
    ∃ m' n : Node, p'.node? a = some m' ∧
      (p.node? b = some n ∨ p.node? b = none ∧ ∃ s : StandardFolder, n = .folder s.folder) ∧
      n.init files m'.scope.resolved m'.routing = done n' := by
  cases b with
  | plan => cases hb
  | classpath =>
    cases hb
    cases hn
    obtain ⟨_, _, _, _, _, -, hclasspath, -, -, -, rfl⟩ := init_eq_done_iff.mp h
    exact ⟨_, _, rfl, .inl rfl, map_eq_done_iff.mpr ⟨_, hclasspath, rfl⟩⟩
  | entry i =>
    cases hb
    obtain ⟨_, he, rfl⟩ := Option.map_eq_some_iff.mp hn
    obtain ⟨_, _, _, _, _, -, hclasspath, -, -, -, rfl⟩ := init_eq_done_iff.mp h
    obtain ⟨_, _, -, hentries, rfl⟩ := Classpath.init_eq_done_iff.mp hclasspath
    obtain ⟨e, hfrom, hinit⟩ := hentries.exists_of_getElem?_right he
    exact ⟨_, .entry e, rfl, .inl (by simp [node?, hfrom]), map_eq_done_iff.mpr ⟨_, hinit, rfl⟩⟩
  | project i =>
    cases hb
    obtain ⟨_, hq, rfl⟩ := Option.map_eq_some_iff.mp hn
    obtain ⟨q, hfrom, hinit⟩ := project_of_init h hq
    exact ⟨_, .project q, rfl, .inl (by simp [node?, hfrom]), map_eq_done_iff.mpr ⟨_, hinit, rfl⟩⟩
  | folder i j =>
    cases hb
    obtain ⟨q', hq, hmember⟩ := Option.bind_eq_some_iff.mp hn
    obtain ⟨f', hf, rfl⟩ := Option.map_eq_some_iff.mp hmember
    obtain ⟨q, hfrom, hinit⟩ := project_of_init h hq
    obtain ⟨s, declared, added, -, hdeclared, hadded, rfl⟩ := Project.init_eq_done_iff.mp hinit
    have hlength : q.folders.length = declared.length := hdeclared.length_eq
    have haround : p'.node? (.project i) = some (.project _) := congrArg (Option.map Node.project) hq
    by_cases hj : j < declared.length
    · rw [List.getElem?_append_left hj] at hf
      obtain ⟨f, hold, hdone⟩ := hdeclared.exists_of_getElem?_right hf
      exact ⟨_, .folder f, haround, .inl (by simp [node?, hfrom, hold]),
        map_eq_done_iff.mpr ⟨f', hdone, rfl⟩⟩
    · rw [List.getElem?_append_right (not_lt.mp hj)] at hf
      obtain ⟨t, -, hdone⟩ := hadded.exists_of_getElem?_right hf
      have hnone : q.folders[j]? = none := List.getElem?_eq_none (hlength ▸ not_lt.mp hj)
      exact ⟨_, .folder t.folder, haround, .inr ⟨by simp [node?, hfrom, hnone], t, rfl⟩,
        map_eq_done_iff.mpr ⟨f', hdone, rfl⟩⟩
  | parsers =>
    cases hb
    cases hn
    obtain ⟨_, _, _, _, _, -, -, -, hparsers, -, rfl⟩ := init_eq_done_iff.mp h
    exact ⟨_, _, rfl, .inl rfl, map_eq_done_iff.mpr ⟨_, hparsers, rfl⟩⟩
  | parser i =>
    cases hb
    obtain ⟨_, he, rfl⟩ := Option.map_eq_some_iff.mp hn
    obtain ⟨_, _, _, _, _, -, -, -, hparsers, -, rfl⟩ := init_eq_done_iff.mp h
    obtain ⟨_, _, -, hmembers, rfl⟩ := Parsers.init_eq_done_iff.mp hparsers
    obtain ⟨q, hfrom, hinit⟩ := hmembers.exists_of_getElem?_right he
    exact ⟨_, .parser q, rfl, .inl (by simp [node?, hfrom]), map_eq_done_iff.mpr ⟨_, hinit, rfl⟩⟩
  | generators =>
    cases hb
    cases hn
    obtain ⟨_, _, _, _, _, -, -, -, -, hgenerators, rfl⟩ := init_eq_done_iff.mp h
    exact ⟨_, _, rfl, .inl rfl, map_eq_done_iff.mpr ⟨_, hgenerators, rfl⟩⟩
  | generator i =>
    cases hb
    obtain ⟨_, hg, rfl⟩ := Option.map_eq_some_iff.mp hn
    obtain ⟨g, hfrom, hinit⟩ := generator_of_init h hg
    exact ⟨_, .generator g, rfl, .inl (by simp [node?, hfrom]), map_eq_done_iff.mpr ⟨_, hinit, rfl⟩⟩
  | artifact i j =>
    cases hb
    obtain ⟨g', hg, hmember⟩ := Option.bind_eq_some_iff.mp hn
    obtain ⟨a', ha, rfl⟩ := Option.map_eq_some_iff.mp hmember
    obtain ⟨g, a, hfrom, hinner, hinit⟩ := artifact_of_init h hg ha
    exact ⟨.generator g', .artifact a, by simp [node?, hg], .inl (by simp [node?, hfrom, hinner]),
      map_eq_done_iff.mpr ⟨_, hinit, rfl⟩⟩
  | target i j k =>
    cases hb
    obtain ⟨g', hg, hinside⟩ := Option.bind_eq_some_iff.mp hn
    obtain ⟨a', ha, hmember⟩ := Option.bind_eq_some_iff.mp hinside
    obtain ⟨t', ht, rfl⟩ := Option.map_eq_some_iff.mp hmember
    obtain ⟨g, a, t, hfrom, hinner, hinnermost, hinit⟩ := target_of_init h hg ha ht
    exact ⟨.artifact a', .target t, by simp [node?, hg, ha],
      .inl (by simp [node?, hfrom, hinner, hinnermost]), map_eq_done_iff.mpr ⟨_, hinit, rfl⟩⟩

theorem inherit_of_around (h : p.init files root = done p') {a b : Address} (hb : b.around? = some a)
    {m' n' : Node} (hm : p'.node? a = some m') (hn : p'.node? b = some n') :
    (p.scopeAt b).inherit files m'.scope.resolved = done n'.scope := by
  obtain ⟨around, n, haround, hfrom, hinit⟩ := exists_init_of_around h hb hn
  cases hm.symm.trans haround
  have hheight : n'.height < 4 := by
    obtain ⟨around, hat, hmember⟩ := mem_children_of_around hb hn
    cases hm.symm.trans hat
    refine (Node.height_lt_of_mem_children hmember).trans_le ?_
    cases m' <;> simp [Node.height]
  have hscope : p.scopeAt b = n.scope := by
    rw [scopeAt]
    obtain hold | ⟨hnone, s, rfl⟩ := hfrom
    · rw [hold, Option.map_some, Option.getD_some]
    · rw [hnone, Option.map_none, Option.getD_none, Node.scope, StandardFolder.folder_eq]
  rw [hscope]
  exact (Node.initialized_of_init hheight hinit).inherits

/-- What is known to the entities of an initialized plan. -/
structure Cascades (root : String) (p p' : Plan) : Prop where
  root_names : ∀ name, name ∈ p'.scope.resolved ↔ name ∈ p.declaredAt .plan ∨ name = rootVariable
  addressed : ∀ n' ∈ (Node.plan p').all, ∃ b, p'.node? b = some n'
  names : ∀ (a b : Address) (n' : Node), b.around? = some a → p'.node? b = some n' →
    ∃ m', p'.node? a = some m' ∧ n' ∈ m'.children ∧
      ∀ name, name ∈ n'.scope.resolved ↔ name ∈ m'.scope.resolved ∨ name ∈ p.declaredAt b
  /-- A value comes down as long as its name is not declared on the way and none of the names it refers to
  is known in the end. -/
  values : ∀ (a b : Address) (between : List Address) (m' n' : Node) (name value : String),
    Address.Below a b between → p'.node? a = some m' → p'.node? b = some n' →
    m'.scope.resolved.get? name = some value → (∀ c ∈ between, name ∉ p.declaredAt c) →
    (∀ reference ∈ references value, reference ∉ n'.scope.resolved) →
      n'.scope.resolved.get? name = some value
  /-- In particular the root directory does, also if the plan declares another one. A list made by hand
  may do so twice; then the last one counts. -/
  root_directory : references root = [] → (p.declaredAt .plan).count rootVariable ≤ 1 →
    ∀ (b : Address) (between : List Address) (n' : Node), Address.Below .plan b between →
    p'.node? b = some n' → (∀ c ∈ between, rootVariable ∉ p.declaredAt c) →
      n'.scope.resolved.get? rootVariable = some root

theorem get?_resolved_of_below (h : p.init files root = done p') {a b : Address}
    {between : List Address} (hbelow : Address.Below a b between) {m' n' : Node}
    (hm : p'.node? a = some m') (hn : p'.node? b = some n') {name value : String}
    (hv : m'.scope.resolved.get? name = some value) (hno : ∀ c ∈ between, name ∉ p.declaredAt c)
    (hr : ∀ reference ∈ references value, reference ∉ n'.scope.resolved) :
    n'.scope.resolved.get? name = some value := by
  induction hbelow generalizing n' with
  | here =>
    cases hm.symm.trans hn
    exact hv
  | @inside around inner between _ ha ih =>
    obtain ⟨hname, hno⟩ := List.forall_mem_cons.mp hno
    obtain ⟨l', haround, -⟩ := mem_children_of_around ha hn
    have hinherit := inherit_of_around h ha haround hn
    refine Scope.get?_resolved_of_inherit hinherit hname (ih haround hno ?_) hr
    exact fun reference href hknown =>
      hr reference href ((Scope.mem_resolved_of_inherit hinherit).mpr (.inl hknown))

theorem get?_rootVariable_of_init (h : p.init files root = done p') (hroot : references root = [])
    (hcount : (p.declaredAt .plan).count rootVariable ≤ 1) :
    p'.scope.resolved.get? rootVariable = some root := by
  obtain ⟨before, after, hput, hafter⟩ : ∃ before after,
      (p.scope.declare (rootDeclaration root)).declared = before ++ rootDeclaration root :: after ∧
        rootVariable ∉ after.map Variable.name := Named.exists_put_eq hcount
  have hturn : Scope.texts files (before ++ rootDeclaration root :: after) =
      Scope.texts files before ++ (rootVariable, root) :: Scope.texts files after := by
    rw [Scope.texts, List.map_append]
    rfl
  have hsolves := Scope.solves_of_inherit (inherit_of_init h)
  rw [hput, hturn] at hsolves
  have hlast : rootVariable ∉ (Scope.texts files after).map Prod.fst := by
    rwa [Scope.map_fst_texts]
  rw [hsolves.value _ _ (get?_settle_append_cons hlast ∅ root),
    substitute_of_references_eq_nil _ hroot, substitute_of_references_eq_nil _ hroot]

theorem cascades_of_init (h : p.init files root = done p') : Cascades root p p' where
  root_names name := by
    rw [Scope.mem_resolved_of_inherit (inherit_of_init h), Scope.declare]
    refine Iff.trans (or_iff_right (NameMap.not_mem_empty name)) ?_
    exact Named.mem_map_name_put
  addressed := exists_address_of_mem_all ⟨.plan, rfl⟩
  names a b n' hb hn := by
    obtain ⟨m', hm, hmember⟩ := mem_children_of_around hb hn
    exact ⟨m', hm, hmember, fun name => Scope.mem_resolved_of_inherit (inherit_of_around h hb hm hn)⟩
  values _ _ _ _ _ _ _ hbelow hm hn hv hno hr := get?_resolved_of_below h hbelow hm hn hv hno hr
  root_directory hroot hcount b between n' hbelow hn hno :=
    get?_resolved_of_below h hbelow rfl hn (get?_rootVariable_of_init h hroot hcount) hno
      (by simp [hroot])

theorem nodup_declaredAt_of_ofDocument {nodes : List Kdl.Node} (h : ofDocument nodes = .ok p) :
    (p.declaredAt .plan).Nodup := by
  obtain ⟨hfits, rfl⟩ := ofDocument_eq_ok_iff.mp h
  exact hfits.nodup_names (by decide) Variable.name_ofNode

def rootedDocument : List Kdl.Node :=
  [.mk "variable" [⟨none, .text "rootDir"⟩, ⟨none, .text "/old"⟩] [],
    .mk "project" [⟨none, .text "p"⟩, ⟨some "path", .text "${rootDir}/p"⟩, ⟨some "maven", .boolean true⟩]
      [.mk "folder" [⟨none, .text "f"⟩, ⟨some "path", .text "${rootDir}"⟩]
        [.mk "variable" [⟨none, .text "rootDir"⟩, ⟨none, .text "${rootDir}/own"⟩] []]]]

def rooted : Plan where
  scope.declared := [⟨"rootDir", some "/old", none⟩]
  projects := [{ name := "p", path := "${rootDir}/p", maven := true, folders := [{
    name := "f", path := "${rootDir}", scope.declared := [⟨"rootDir", some "${rootDir}/own", none⟩] }] }]

theorem ofDocument_rooted : ofDocument rootedDocument = .ok rooted := rfl

def rootedTwice : Plan where
  scope.declared := [⟨"rootDir", some "/a", none⟩, ⟨"rootDir", some "/b", none⟩]
  projects := [{ name := "p", path := "x" }]

end Plan

namespace Session

/-- Variables reach every entity below the one that declares them. -/
theorem init_cascades {files : Files} {context : Context} {root : String} {s t : Session}
    (h : s.init files context root = done t) : s.plan.Cascades root t.plan := by
  obtain ⟨plan, hplan, rfl⟩ := init_eq_done_iff.mp h
  exact Plan.cascades_of_init hplan

theorem init_rooted : (init (FileTree.empty.files "/") {} "/r" { plan := .rooted }).map
    (fun t => (t.plan.node? (.folder 0 1)).isSome) = done true := by
  cbv

theorem init_cascades_rooted : ∃ p t n, Plan.ofDocument Plan.rootedDocument = .ok p ∧
    init (FileTree.empty.files "/") {} "/r" { plan := p } = done t ∧ p.Cascades "/r" t.plan ∧
    t.plan.node? (.folder 0 1) = some n ∧ n.scope.resolved.get? Plan.rootVariable = some "/r" := by
  obtain ⟨t, hinit, hfolder⟩ := map_eq_done_iff.mp init_rooted
  obtain ⟨n, hn⟩ := Option.isSome_iff_exists.mp hfolder
  have hcascades := init_cascades hinit
  have hcount : (Plan.rooted.declaredAt .plan).count Plan.rootVariable ≤ 1 :=
    List.nodup_iff_count_le_one.mp (Plan.nodup_declaredAt_of_ofDocument Plan.ofDocument_rooted) _
  refine ⟨Plan.rooted, t, n, Plan.ofDocument_rooted, hinit, hcascades, hn, ?_⟩
  exact hcascades.root_directory (by decide +kernel) hcount _ _ n (.inside (.inside .here rfl) rfl) hn
    (by decide)

theorem init_rootedTwice : (init (FileTree.empty.files "/") {} "/r" { plan := .rootedTwice }).map
    (fun t => (t.plan.node? (.project 0)).bind (·.scope.resolved.get? Plan.rootVariable)) =
    done (some "/b") := by
  cbv

/-- Of two declarations of the root directory the first one is replaced and the last one counts. -/
theorem not_root_directory_of_init :
    ¬ ∀ (files : Files) (context : Context) (root : String) (s t : Session),
      s.init files context root = done t → references root = [] →
      ∀ (b : Address) (between : List Address) (n' : Node), Address.Below .plan b between →
        t.plan.node? b = some n' → (∀ c ∈ between, Plan.rootVariable ∉ s.plan.declaredAt c) →
          n'.scope.resolved.get? Plan.rootVariable = some root := by
  intro h
  obtain ⟨t, hinit, hvalue⟩ := map_eq_done_iff.mp init_rootedTwice
  obtain ⟨n, hn, hseen⟩ := Option.bind_eq_some_iff.mp hvalue
  have hroot : n.scope.resolved.get? Plan.rootVariable = some "/r" :=
    h _ _ "/r" _ t hinit (by decide +kernel) (.project 0) _ n (.inside .here rfl) hn (by decide)
  rw [hseen] at hroot
  exact absurd hroot (by decide)

end Session

end GenPlan
