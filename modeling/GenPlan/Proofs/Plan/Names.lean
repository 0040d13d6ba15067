import GenPlan.Proofs.Document.Plan
import GenPlan.Proofs.Plan.Initialized
import GenPlan.Proofs.Resolution.Final

namespace GenPlan

open Progress

/-- The entities of each list are told apart by their names. -/
structure Plan.Distinct (p : Plan) : Prop where
  projects : (p.projects.map Named.name).Nodup
  folders : ∀ q ∈ p.projects, (q.folders.map Named.name).Nodup
  parsers : (p.parsers.parsers.map Named.name).Nodup
  generators : (p.generators.generators.map Named.name).Nodup
  artifacts : ∀ g ∈ p.generators.generators, (g.artifacts.map Named.name).Nodup

section Document

variable {kind inner : NodeKind} {nodes : List Kdl.Node}

theorem NodeKind.Fits.nodup_names {α : Type} [Named α] (h : kind.Fits nodes) (hn : inner.IsNamed)
    {ofNode : Kdl.Node → α} (hname : ∀ n, Named.name (ofNode n) = n.text 0) :
    (((kind.pick inner nodes).map ofNode).map Named.name).Nodup := by
  refine .of_map some ?_
  have hsame : ((((kind.pick inner nodes).map ofNode).map Named.name).map some) =
      (kind.pick inner nodes).map fun n => n.argumentText? 0 := by
    rw [List.map_map, List.map_map]
    refine List.map_congr_left fun n hm => ?_
    obtain ⟨s, hs⟩ := Option.isSome_iff_exists.mp ((h.accepted_of_mem_pick hm).isSome_name hn)
    simp [hname, Kdl.Node.text, hs]
  rw [hsame]
  exact (h.apart inner).named hn

theorem NodeKind.Fits.block_eq {β : Type} (h : kind.Fits nodes) (inner : NodeKind)
    (ofNode : Kdl.Node → β) (empty : β) :
    ((kind.pick inner nodes).map ofNode).headD empty = empty ∨
      ∃ node : Kdl.Node, inner.Fits node.children ∧
        ((kind.pick inner nodes).map ofNode).headD empty = ofNode node := by
  cases hpick : kind.pick inner nodes with
  | nil => exact .inl rfl
  | cons node rest =>
    have hn : node ∈ kind.pick inner nodes := hpick ▸ List.mem_cons_self
    exact .inr ⟨node, h.inside hn, rfl⟩

theorem Plan.distinct_of_ofDocument {p : Plan} (h : ofDocument nodes = .ok p) : p.Distinct := by
  obtain ⟨hfits, rfl⟩ := ofDocument_eq_ok_iff.mp h
  have hparsers : ((ofNodes nodes).parsers.parsers.map Named.name).Nodup := by
    obtain hb | ⟨node, hinside, hb⟩ := hfits.block_eq .parsers Parsers.ofNode {}
    · rw [ofNodes, hb]
      exact .nil
    · rw [ofNodes, hb]
      exact hinside.nodup_names (by decide) fun _ => rfl
  have hgenerators : ((ofNodes nodes).generators.generators.map Named.name).Nodup ∧
      ∀ g ∈ (ofNodes nodes).generators.generators, (g.artifacts.map Named.name).Nodup := by
    obtain hb | ⟨node, hinside, hb⟩ := hfits.block_eq .generators Generators.ofNode {}
    · rw [ofNodes, hb]
      exact ⟨.nil, List.forall_mem_nil _⟩
    · rw [ofNodes, hb]
      refine ⟨hinside.nodup_names (by decide) fun _ => rfl, fun g hg => ?_⟩
      obtain ⟨n, hn, rfl⟩ := List.mem_map.mp hg
      exact (hinside.inside hn).nodup_names (by decide) fun _ => rfl
  refine ⟨hfits.nodup_names (by decide) fun _ => rfl, fun q hq => ?_, hparsers, hgenerators.1,
    hgenerators.2⟩
  obtain ⟨node, hn, rfl⟩ := List.mem_map.mp hq
  exact (hfits.inside hn).nodup_names (by decide) fun _ => rfl

end Document

section Lists

variable {α : Type} [Named α] [Scoped α] {declared kept added now : List α}

/-- Substitution has changed the name at this place of a list. -/
def Renamed (declared now : List α) (i : Nat) : Prop :=
  ∃ a b, declared[i]? = some a ∧ now[i]? = some b ∧ Named.name b ≠ Named.name a

/-- What has become of the names of a list, to which entities may have been added. -/
structure NamesFrom (declared now : List α) : Prop where
  length_le : declared.length ≤ now.length
  substituted : ∀ (i : Nat) (a b : α), declared[i]? = some a → now[i]? = some b →
    Named.name b = Scoped.replace b (Named.name a)
  /-- Only declared entities can come to have the same name, and only if one of them is renamed. -/
  apart : ∀ (i j : Nat) (a b : α), i < j → now[i]? = some a → now[j]? = some b →
    Named.name a = Named.name b →
      j < declared.length ∧ (Renamed declared now i ∨ Renamed declared now j)
  found : ∀ (i : Nat) (a : α), now[i]? = some a →
    (i < declared.length → ∀ j ≤ i, ¬ Renamed declared now j) →
      Named.find? now (Named.name a) = some a

omit [Scoped α] in
theorem getElem?_map_name_of_not_renamed {i : Nat} {b : α} (hi : i < declared.length)
    (hb : now[i]? = some b) (hr : ¬ Renamed declared now i) :
    (declared.map Named.name)[i]? = some (Named.name b) := by
  have ha : declared[i]? = some declared[i] := List.getElem?_eq_getElem hi
  have hname : Named.name b = Named.name declared[i] :=
    not_not.mp fun hne => hr ⟨declared[i], b, ha, hb, hne⟩
  rw [List.getElem?_map, ha, hname, Option.map_some]

omit [Scoped α] in
theorem renamed_of_name_eq (hd : (declared.map Named.name).Nodup)
    (hlength : declared.length = kept.length) (hadded : (added.map Named.name).Nodup)
    (hnew : ∀ a ∈ kept, ∀ b ∈ added, Named.name a ≠ Named.name b) {i j : Nat} {a b : α}
    (hij : i < j) (ha : (kept ++ added)[i]? = some a) (hb : (kept ++ added)[j]? = some b)
    (hname : Named.name a = Named.name b) : j < declared.length ∧
      (Renamed declared (kept ++ added) i ∨ Renamed declared (kept ++ added) j) := by
  by_cases hj : j < declared.length
  · -- two that are declared had different names
    refine ⟨hj, ?_⟩
    by_contra hno
    rw [not_or] at hno
    refine List.nodup_iff_getElem?_ne_getElem?.mp hd i j hij (by simpa using hj) ?_
    rw [getElem?_map_name_of_not_renamed (hij.trans hj) ha hno.1,
      getElem?_map_name_of_not_renamed hj hb hno.2, hname]
  · -- one that is added has a name of its own
    exfalso
    have hj' : kept.length ≤ j := hlength ▸ not_lt.mp hj
    rw [List.getElem?_append_right hj'] at hb
    by_cases hi : i < kept.length
    · rw [List.getElem?_append_left hi] at ha
      exact hnew a (List.mem_of_getElem? ha) b (List.mem_of_getElem? hb) hname
    · rw [List.getElem?_append_right (not_lt.mp hi)] at ha
      have hlt : i - kept.length < j - kept.length := by omega
      refine List.nodup_iff_getElem?_ne_getElem?.mp hadded _ _ hlt ?_ ?_
      · simpa using (List.getElem?_eq_some_iff.mp hb).1
      · rw [List.getElem?_map, List.getElem?_map, ha, hb, Option.map_some, Option.map_some, hname]

theorem namesFrom_append (hd : (declared.map Named.name).Nodup)
    (hkept : List.Forall₂ (fun a b => Named.name b = Scoped.replace b (Named.name a)) declared kept)
    (hadded : (added.map Named.name).Nodup)
    (hnew : ∀ a ∈ kept, ∀ b ∈ added, Named.name a ≠ Named.name b) :
    NamesFrom declared (kept ++ added) := by
  obtain ⟨hlength, hplace⟩ := List.forall₂_iff_get.mp hkept
  constructor
  case length_le => simp [hlength]
  case substituted =>
    intro i a b ha hb
    obtain ⟨hi, rfl⟩ := List.getElem?_eq_some_iff.mp ha
    have hi' : i < kept.length := hlength ▸ hi
    rw [List.getElem?_append_left hi'] at hb
    obtain ⟨_, rfl⟩ := List.getElem?_eq_some_iff.mp hb
    exact hplace i hi hi'
  case apart =>
    intro i j a b hij ha hb hname
    exact renamed_of_name_eq hd hlength hadded hnew hij ha hb hname
  case found =>
    intro i a ha hsame
    refine Named.find?_name_of_first ha fun j hj b hb hname => ?_
    obtain ⟨hi, h | h⟩ := renamed_of_name_eq hd hlength hadded hnew hj hb ha hname
    · exact hsame hi j hj.le h
    · exact hsame hi i le_rfl h

theorem namesFrom_of_forall₂ (hd : (declared.map Named.name).Nodup)
    (h : List.Forall₂ (fun a b => Named.name b = Scoped.replace b (Named.name a)) declared now) :
    NamesFrom declared now := by
  have hnames : NamesFrom declared (now ++ []) :=
    namesFrom_append hd h .nil fun _ _ => List.forall_mem_nil _
  rwa [List.append_nil] at hnames

end Lists

section Initialized

variable {files : Files} {parent : NameMap String}

theorem Parser.name_of_init {p p' : Parser} (h : p.init files parent = done p') :
    p'.name = Scoped.replace p' p.name := by
  obtain ⟨_, _, rfl⟩ := init_eq_done_iff.mp h
  rfl

theorem Artifact.name_of_init {outer : Routing} {a a' : Artifact}
    (h : a.init files parent outer = done a') : a'.name = Scoped.replace a' a.name := by
  obtain ⟨_, _, _, _, rfl⟩ := init_eq_done_iff.mp h
  rfl

theorem Folder.name_of_init {f f' : Folder} (h : f.init files parent = done f') :
    f'.name = Scoped.replace f' f.name := by
  obtain ⟨_, _, _, _, _, rfl⟩ := init_eq_done_iff.mp h
  rfl

theorem Project.namesFrom_of_init {p p' : Project} (h : p.init files parent = done p')
    (hd : (p.folders.map Named.name).Nodup) :
    p'.name = Scoped.replace p' p.name ∧ NamesFrom p.folders p'.folders := by
  obtain ⟨s, declared, added, -, hfolders, hadded, rfl⟩ := init_eq_done_iff.mp h
  have hnames : added.map Named.name = (missing p.maven declared).map StandardFolder.name :=
    map_name_eq_of_missing hadded
  refine ⟨rfl, namesFrom_append hd (hfolders.imp fun _ _ => Folder.name_of_init) ?_ ?_⟩
  · rw [hnames]
    exact StandardFolder.nodup_names.sublist ((missing_sublist p.maven declared).map _)
  · intro a ha b hb hname
    have hb : Named.name b ∈ added.map Named.name := List.mem_map_of_mem hb
    rw [hnames, ← hname] at hb
    obtain ⟨t, ht, htname⟩ := List.mem_map.mp hb
    exact (mem_missing_iff.mp ht).2.2 a ha htname.symm

theorem Generator.namesFrom_of_init {outer : Routing} {g g' : Generator}
    (h : g.init files parent outer = done g') (hd : (g.artifacts.map Named.name).Nodup) :
    g'.name = Scoped.replace g' g.name ∧ NamesFrom g.artifacts g'.artifacts := by
  obtain ⟨s, artifacts, -, hartifacts, rfl⟩ := init_eq_done_iff.mp h
  exact ⟨rfl, namesFrom_of_forall₂ hd (hartifacts.imp fun _ _ => Artifact.name_of_init)⟩

structure Plan.AllNamesFrom (p p' : Plan) : Prop where
  projects : NamesFrom p.projects p'.projects
  folders : List.Forall₂ (fun q q' => NamesFrom q.folders q'.folders) p.projects p'.projects
  parsers : NamesFrom p.parsers.parsers p'.parsers.parsers
  generators : NamesFrom p.generators.generators p'.generators.generators
  artifacts : List.Forall₂ (fun g g' => NamesFrom g.artifacts g'.artifacts)
    p.generators.generators p'.generators.generators

theorem Plan.Distinct.allNamesFrom {root : String} {p p' : Plan} (hd : p.Distinct)
    (h : p.init files root = done p') : p.AllNamesFrom p' := by
  obtain ⟨s, _, projects, _, _, -, -, hq, hr, hg, rfl⟩ := init_eq_done_iff.mp h
  obtain ⟨_, parsers, -, hparsers, rfl⟩ := Parsers.init_eq_done_iff.mp hr
  obtain ⟨_, generators, -, hmembers, rfl⟩ := Generators.init_eq_done_iff.mp hg
  have hprojects := ((List.forall₂_and_left _ _).mpr ⟨hd.folders, hq⟩).imp
    fun _ _ ⟨hfolders, hinit⟩ => Project.namesFrom_of_init hinit hfolders
  have hgenerators := ((List.forall₂_and_left _ _).mpr ⟨hd.artifacts, hmembers⟩).imp
    fun _ _ ⟨hartifacts, hinit⟩ => Generator.namesFrom_of_init hinit hartifacts
  constructor
  case projects => exact namesFrom_of_forall₂ hd.projects (hprojects.imp fun _ _ => And.left)
  case folders => exact hprojects.imp fun _ _ => And.right
  case parsers => exact namesFrom_of_forall₂ hd.parsers (hparsers.imp fun _ _ => Parser.name_of_init)
  case generators => exact namesFrom_of_forall₂ hd.generators (hgenerators.imp fun _ _ => And.left)
  case artifacts => exact hgenerators.imp fun _ _ => And.right

end Initialized

section Session

variable {files : Files} {context : Context} {root : String}

/-- Substitution alone can give entities of a document the same name: what is written there is told
apart, and the standard folders are. -/
theorem Session.allNamesFrom_of_init {nodes : List Kdl.Node} {p : Plan} {t : Session}
    (hdocument : Plan.ofDocument nodes = .ok p)
    (h : Session.init files context root { plan := p } = done t) : p.AllNamesFrom t.plan := by
  obtain ⟨plan, hplan, rfl⟩ := Session.init_eq_done_iff.mp h
  exact (Plan.distinct_of_ofDocument hdocument).allNamesFrom hplan

def Plan.twinsDocument : List Kdl.Node :=
  [.mk "variable" [⟨none, .text "a"⟩, ⟨none, .text "p"⟩] [],
    .mk "project" [⟨none, .text "${a}"⟩, ⟨some "path", .text "x"⟩] [],
    .mk "project" [⟨none, .text "p"⟩, ⟨some "path", .text "y"⟩] []]

def Plan.twins : Plan where
  scope.declared := [⟨"a", some "p", none⟩]
  projects := [{ name := "${a}", path := "x" }, { name := "p", path := "y" }]

theorem Plan.ofDocument_twins : ofDocument twinsDocument = .ok twins := rfl

theorem Session.failure_init_twins :
    (init (FileTree.empty.files "/") {} "/r" { plan := .twins }).failure = none := by cbv

theorem Session.allNamesFrom_of_init_twins :
    ∃ p t, Plan.ofDocument Plan.twinsDocument = .ok p ∧
      Session.init (FileTree.empty.files "/") {} "/r" { plan := p } = done t ∧ p.AllNamesFrom t.plan := by
  have hinit := eq_done_of_failure Session.failure_init_twins
  exact ⟨_, _, Plan.ofDocument_twins, hinit, Session.allNamesFrom_of_init Plan.ofDocument_twins hinit⟩

/-- Names can come to be the same, although each document tells them apart. -/
theorem Session.not_distinct_of_init :
    ¬ ∀ (nodes : List Kdl.Node) (p : Plan) (files : Files) (context : Context) (root : String)
      (t : Session), Plan.ofDocument nodes = .ok p →
      Session.init files context root { plan := p } = done t → t.plan.Distinct := by
  intro hall
  have hinit := eq_done_of_failure Session.failure_init_twins
  have hnames : (Session.init (FileTree.empty.files "/") {} "/r"
      { plan := .twins }).value.plan.projects.map Named.name = ["p", "p"] := by cbv
  have hdistinct := (hall _ _ _ _ _ _ Plan.ofDocument_twins hinit).projects
  rw [hnames] at hdistinct
  revert hdistinct
  decide

end Session

end GenPlan
