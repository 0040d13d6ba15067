import GenPlan.Proofs.Plan.Names
import GenPlan.Proofs.Plan.Settled

namespace GenPlan

open Progress

variable {files : Files} {parent : NameMap String}

theorem StandardFolder.references_path : ∀ s ∈ all, references s.path = [] := by
  decide +kernel

theorem StandardFolder.eq_of_init {s : StandardFolder} (hs : s ∈ all) {f : Folder}
    (h : s.folder.init files parent = done f) : f = { s.folder with scope := f.scope } := by
  obtain ⟨scope, exclude, -, htext, hcompiled, rfl⟩ := Folder.init_eq_done_iff.mp h
  rw [folder_eq] at htext ⊢
  have hexclude : exclude = {} := Selector.Compiled.eq rfl hcompiled htext
  have hname := substitute_of_references_eq_nil scope.resolved (references_name s hs)
  have hpath := substitute_of_references_eq_nil scope.resolved (references_path s hs)
  simp only [Scope.replace, hname, hpath, hexclude]

theorem Folder.kept_of_init {f f' : Folder} (h : f.init files parent = done f') :
    f'.path = f'.scope.replace f.path ∧ f'.create = f.create ∧
      f'.overrideExisting = f.overrideExisting ∧ f'.clean = f.clean := by
  obtain ⟨_, _, _, _, _, rfl⟩ := init_eq_done_iff.mp h
  exact ⟨rfl, rfl, rfl, rfl⟩

namespace Project

/-- What an initialization makes of the folders of a project laid out for maven. -/
structure LaidOut (files : Files) (p p' : Project) (declared added : List Folder) : Prop where
  folders_eq : p'.folders = declared ++ added
  initialized : List.Forall₂ (fun f f' => Folder.init files p'.scope.resolved f = done f')
    p.folders declared
  supplied : List.Forall₂ (fun s f => f = { s.folder with scope := f.scope } ∧
      Folder.init files p'.scope.resolved s.folder = done f)
    (StandardFolder.all.filter fun s => s.name ∉ declared.map Folder.name) added
  /-- Each standard name finds a folder: the standard one unless the name was taken. -/
  finds : ∀ s ∈ StandardFolder.all, ∃ f, p'.findFolder s.name = some f ∧
    (s.name ∉ declared.map Folder.name → f = { s.folder with scope := f.scope })
  finds_first : ∀ (i : Nat) (f f' : Folder), p.folders[i]? = some f → declared[i]? = some f' →
    (∀ j < i, ∀ g, declared[j]? = some g → g.name ≠ f'.name) →
      p'.findFolder f'.name = some f' ∧ f'.path = f'.scope.replace f.path ∧ f'.create = f.create ∧
        f'.overrideExisting = f.overrideExisting ∧ f'.clean = f.clean
  /-- Nothing is added later on as long as no folder comes to have another name. -/
  complete : ∀ (later : Files) (outer : NameMap String) (q q' : Project),
    q.folders.map Folder.name = p'.folders.map Folder.name → q.init later outer = done q' →
    (∀ (i : Nat) (f f' : Folder), q.folders[i]? = some f → q'.folders[i]? = some f' →
      f'.name = f.name) →
      List.Forall₂ (fun f f' => Folder.init later q'.scope.resolved f = done f')
        q.folders q'.folders

variable {p p' : Project}

theorem missing_true (folders : List Folder) :
    missing true folders =
      StandardFolder.all.filter fun s => s.name ∉ folders.map Folder.name := by
  refine List.filter_congr fun s _ => ?_
  rw [Bool.eq_iff_iff]
  simp [Named.contains, Named.find?, Named.name]

theorem missing_eq_nil_iff {maven : Bool} {folders : List Folder} :
    missing maven folders = [] ↔
      (maven = true → ∀ s ∈ StandardFolder.all, s.name ∈ folders.map Folder.name) := by
  simp only [List.eq_nil_iff_forall_not_mem, mem_missing_iff, List.mem_map]
  grind

theorem adds_nothing (h : p.init files parent = done p')
    (hall : ∀ s ∈ StandardFolder.all, s.name ∈ p.folders.map Folder.name)
    (hsame : ∀ (i : Nat) (f f' : Folder), p.folders[i]? = some f → p'.folders[i]? = some f' →
      f'.name = f.name) :
    List.Forall₂ (fun f f' => Folder.init files p'.scope.resolved f = done f')
      p.folders p'.folders := by
  obtain ⟨s, declared, added, -, hdeclared, hadded, rfl⟩ := init_eq_done_iff.mp h
  have hnames : declared.map Folder.name = p.folders.map Folder.name := by
    rw [← List.forall₂_eq_eq_eq, List.forall₂_map_left_iff, List.forall₂_map_right_iff]
    refine List.forall₂_iff_get.mpr ⟨hdeclared.length_eq.symm, fun i hi hi' => ?_⟩
    refine hsame i p.folders[i] declared[i] (List.getElem?_eq_getElem hi') ?_
    rw [List.getElem?_append_left hi, List.getElem?_eq_getElem hi]
  have hmissing : missing p.maven declared = [] := by
    rw [missing_eq_nil_iff, hnames]
    exact fun _ => hall
  rw [hmissing] at hadded
  cases hadded
  simpa using hdeclared

theorem eq_of_mem_added {declared added : List Folder} {vars : NameMap String}
    (hadded : List.Forall₂ (fun s f => Folder.init files vars s.folder = done f)
      (missing p.maven declared) added)
    {s : StandardFolder} (hs : s ∈ StandardFolder.all) {f : Folder} (hf : f ∈ added)
    (hname : f.name = s.name) : f = { s.folder with scope := f.scope } := by
  obtain ⟨t, ht, hinit⟩ := hadded.exists_of_mem_right hf
  have htable : t ∈ StandardFolder.all := (mem_missing_iff.mp ht).2.1
  have hsame : t.name = s.name :=
    (t.name_of_init (StandardFolder.references_name t htable) hinit).symm.trans hname
  cases List.inj_on_of_nodup_map StandardFolder.nodup_names htable hs hsame
  exact StandardFolder.eq_of_init hs hinit

/-- The declared folders come first, each initialized, and then the standard folders whose names none of
them has. -/
theorem exists_laidOut (hm : p.maven = true) (h : p.init files parent = done p') :
    ∃ declared added, LaidOut files p p' declared added := by
  obtain ⟨scope, declared, added, -, hdeclared, hadded, rfl⟩ := init_eq_done_iff.mp h
  have hall : ∀ s ∈ StandardFolder.all, s.name ∈ (declared ++ added).map Folder.name :=
    missing_eq_nil_iff.mp (Node.missing_append hadded) hm
  refine ⟨declared, added, rfl, hdeclared, ?supplied, ?finds, ?first, ?complete⟩
  case supplied =>
    rw [hm, missing_true] at hadded
    refine ((List.forall₂_and_left _ _).mpr ⟨fun s hs => List.mem_of_mem_filter hs, hadded⟩).imp ?_
    exact fun s f ⟨hs, hf⟩ => ⟨StandardFolder.eq_of_init hs hf, hf⟩
  case finds =>
    intro s hs
    obtain ⟨f, hf⟩ := Option.isSome_iff_exists.mp (Named.contains_iff.mpr (List.mem_map.mp (hall s hs)))
    have hname : f.name = s.name := by simpa [Named.name] using List.find?_some hf
    refine ⟨f, hf, fun hno => ?_⟩
    obtain hd | ha := List.mem_append.mp (List.mem_of_find?_eq_some hf)
    · exact absurd (hname ▸ List.mem_map_of_mem hd) hno
    · exact eq_of_mem_added hadded hs ha hname
  case first =>
    intro i f f' hf hf' hfirst
    have hi : i < declared.length := (List.getElem?_eq_some_iff.mp hf').1
    have hplace : (declared ++ added)[i]? = some f' := by rw [List.getElem?_append_left hi, hf']
    obtain ⟨_, hold, hinit⟩ := hdeclared.exists_of_getElem?_right hf'
    cases hf.symm.trans hold
    refine ⟨Named.find?_name_of_first hplace fun j hj g hg => ?_, Folder.kept_of_init hinit⟩
    rw [List.getElem?_append_left (hj.trans hi)] at hg
    exact hfirst j hj g hg
  case complete =>
    intro later outer q q' hnames hq hsame
    exact adds_nothing hq (hnames ▸ hall) hsame

def overlaid : Project where
  name := "app"
  path := "app"
  maven := true
  folders :=
    [{ name := "${dir}", path := "${dir}/java", create := true },
     { name := "mainJava", path := "other" },
     { name := "test${kind}", path := "res", clean := true, scope.declared := [⟨"kind", some "Res", none⟩] }]
  scope.declared := [⟨"dir", some "mainJava", none⟩]

theorem init_overlaid : (overlaid.init (FileTree.empty.files "/") ∅).map
      (fun p => p.folders.map fun f => (f.name, f.path)) = done
      [("mainJava", "mainJava/java"), ("mainJava", "other"), ("testRes", "res"),
       ("mainRes", "src/main/resources"), ("genMainJava", "src-gen/main/java"),
       ("genMainRes", "src-gen/main/resources"), ("testJava", "src/test/java"),
       ("genTestJava", "src-gen/test/java"), ("genTestRes", "src-gen/test/resources")] := by
  cbv

theorem exists_laidOut_overlaid : overlaid.maven = true ∧
    ∃ p', overlaid.init (FileTree.empty.files "/") ∅ = done p' ∧ p'.folders.length = 9 ∧
      ∃ declared added, LaidOut (FileTree.empty.files "/") overlaid p' declared added := by
  obtain ⟨p', hinit, hfolders⟩ := map_eq_done_iff.mp init_overlaid
  have hlength : p'.folders.length = 9 := by simpa using congrArg List.length hfolders
  exact ⟨rfl, p', hinit, hlength, exists_laidOut rfl hinit⟩

end Project

end GenPlan
