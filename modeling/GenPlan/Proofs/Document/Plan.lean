import GenPlan.Proofs.Document.Reading

namespace GenPlan

open NodeKind

namespace Reading

variable {α β : Type} {node : Kdl.Node} {nodes : List Kdl.Node}

theorem addToTarget_eq_ok_iff (base : Target) (hfits : Fits .target nodes) {t : Target} :
    addToTarget (base.withNodes nodes) node = .ok t ↔
      Fits .target (nodes ++ [node]) ∧ t = base.withNodes (nodes ++ [node]) := by
  rw [addToTarget]
  split
  next h => exact addVariable_eq_ok_iff hfits (by rw [member?, h]; rfl) rfl
  next h =>
    have hm : NodeKind.target.member? node = none := member?_eq_none_iff.mpr (by simpa [members])
    simp [fits_concat_of_not_member hm, hfits, Target.withNodes, NodeKind.scope, pick_concat_of_ne, hm,
      eq_comm]

theorem target_eq_ok_iff {t : Target} :
    target node = .ok t ↔ Accepted .target node ∧ t = Target.ofNode node := by
  have hhas : Has .target node := by simp [has_iff, arguments, properties, flags]
  rw [accepted_iff, and_iff_right hhas]
  exact foldlM_eq_ok_iff fun hfits => addToTarget_eq_ok_iff (.ofEntries node) hfits

theorem addToArtifact_eq_ok_iff (base : Artifact) (hfits : Fits .artifact nodes) {a : Artifact} :
    addToArtifact (base.withNodes nodes) node = .ok a ↔
      Fits .artifact (nodes ++ [node]) ∧ a = base.withNodes (nodes ++ [node]) := by
  rw [addToArtifact]
  split
  next h =>
    have hm : NodeKind.artifact.member? node = some .declaration := by rw [member?, h]; rfl
    rw [addVariable_eq_ok_iff hfits hm rfl]
    simp [Artifact.withNodes, pick_concat_of_ne, hm, Scoped.withScope]
  next h =>
    have hm : NodeKind.artifact.member? node = some .target := by rw [member?, h]; rfl
    simp only [bind_eq_ok_iff, target_eq_ok_iff, pure_eq_ok_iff,
      fits_concat_of_plain hm (by decide) (by decide) hfits]
    simp [Artifact.withNodes, NodeKind.scope, pick_concat_self hm, pick_concat_of_ne, hm]
  next hv ht =>
    have hm : NodeKind.artifact.member? node = none :=
      member?_eq_none_iff.mpr (by simpa [members] using ⟨hv, ht⟩)
    simp [fits_concat_of_not_member hm, hfits, Artifact.withNodes, NodeKind.scope, pick_concat_of_ne,
      hm, pure_eq_ok_iff]

theorem artifactHeader_eq_ok_iff {a : Artifact} :
    artifactHeader node = .ok a ↔ Has .artifact node ∧ a = Artifact.ofEntries node := by
  have hhas : Has .artifact node ↔ (node.argumentText? 0).isSome := by
    simp [has_iff, arguments, properties, flags]
  simp only [artifactHeader, bind_eq_ok_iff, name_eq_ok_iff, pure_eq_ok_iff, hhas, and_assoc,
    exists_and_left, exists_eq_left]
  exact Iff.rfl

theorem artifact_eq_ok_iff {a : Artifact} :
    artifact node = .ok a ↔ Accepted .artifact node ∧ a = Artifact.ofNode node :=
  bind_foldlM_eq_ok_iff artifactHeader_eq_ok_iff fun hfits =>
    addToArtifact_eq_ok_iff (.ofEntries node) hfits

theorem addToGenerator_eq_ok_iff (base : Generator) (hfits : Fits .generator nodes) {g : Generator} :
    addToGenerator (base.withNodes nodes) node = .ok g ↔
      Fits .generator (nodes ++ [node]) ∧ g = base.withNodes (nodes ++ [node]) := by
  rw [addToGenerator]
  split
  next h =>
    have hm : NodeKind.generator.member? node = some .declaration := by rw [member?, h]; rfl
    rw [addVariable_eq_ok_iff hfits hm rfl]
    simp [Generator.withNodes, propertyMap, pick_concat_of_ne, hm, Scoped.withScope]
  next h =>
    have hm : NodeKind.generator.member? node = some .property := by rw [member?, h]; rfl
    simp only [bind_eq_ok_iff, pure_eq_ok_iff, Generator.withNodes, addProperty_eq_ok_iff hfits hm]
    simp [NodeKind.scope, pick_concat_of_ne, hm]
  next h =>
    have hm : NodeKind.generator.member? node = some .artifact := by rw [member?, h]; rfl
    refine (addMember_eq_ok_iff artifact_eq_ok_iff (fun _ => rfl) hm (by decide) hfits
      (f := fun artifacts => { base.withNodes nodes with artifacts })).trans ?_
    simp [Generator.withNodes, propertyMap, NodeKind.scope, pick_concat_of_ne, hm]
  next hv hp ha =>
    have hm : NodeKind.generator.member? node = none :=
      member?_eq_none_iff.mpr (by simpa [members] using ⟨hv, hp, ha⟩)
    simp [fits_concat_of_not_member hm, hfits, Generator.withNodes, propertyMap, NodeKind.scope,
      pick_concat_of_ne, hm, pure_eq_ok_iff]

theorem generatorHeader_eq_ok_iff {g : Generator} :
    generatorHeader node = .ok g ↔ Has .generator node ∧ g = Generator.ofEntries node := by
  have hhas : Has .generator node ↔
      (node.argumentText? 0).isSome ∧ (node.propertyText? "class").isSome := by
    simp [has_iff, arguments, properties, flags]
  simp only [generatorHeader, bind_eq_ok_iff, name_eq_ok_iff, property_eq_ok_iff, pure_eq_ok_iff,
    hhas, and_assoc, exists_and_left, exists_eq_left]
  exact Iff.rfl

theorem generator_eq_ok_iff {g : Generator} :
    generator node = .ok g ↔ Accepted .generator node ∧ g = Generator.ofNode node :=
  bind_foldlM_eq_ok_iff generatorHeader_eq_ok_iff fun hfits =>
    addToGenerator_eq_ok_iff (.ofEntries node) hfits

theorem addToGenerators_eq_ok_iff (base : Generators) (hfits : Fits .generators nodes) {g : Generators} :
    addToGenerators (base.withNodes nodes) node = .ok g ↔
      Fits .generators (nodes ++ [node]) ∧ g = base.withNodes (nodes ++ [node]) := by
  rw [addToGenerators]
  split
  next h =>
    have hm : NodeKind.generators.member? node = some .declaration := by rw [member?, h]; rfl
    rw [addVariable_eq_ok_iff hfits hm rfl]
    simp [Generators.withNodes, pick_concat_of_ne, hm, Scoped.withScope]
  next h =>
    have hm : NodeKind.generators.member? node = some .generator := by rw [member?, h]; rfl
    refine (addMember_eq_ok_iff generator_eq_ok_iff (fun _ => rfl) hm (by decide) hfits
      (f := fun members => { base.withNodes nodes with generators := members })).trans ?_
    simp [Generators.withNodes, NodeKind.scope, pick_concat_of_ne, hm]
  next hv hg =>
    have hm : NodeKind.generators.member? node = none :=
      member?_eq_none_iff.mpr (by simpa [members] using ⟨hv, hg⟩)
    simp [fits_concat_of_not_member hm, hfits, Generators.withNodes, NodeKind.scope,
      pick_concat_of_ne, hm, pure_eq_ok_iff]

theorem generators_eq_ok_iff {g : Generators} :
    generators node = .ok g ↔ Accepted .generators node ∧ g = Generators.ofNode node := by
  have hhas : Has .generators node := by simp [has_iff, arguments, properties, flags]
  rw [accepted_iff, and_iff_right hhas]
  exact foldlM_eq_ok_iff fun hfits => addToGenerators_eq_ok_iff (.ofEntries node) hfits

theorem addToParser_eq_ok_iff (base : Parser) (hfits : Fits .parser nodes) {p : Parser} :
    addToParser (base.withNodes nodes) node = .ok p ↔
      Fits .parser (nodes ++ [node]) ∧ p = base.withNodes (nodes ++ [node]) := by
  rw [addToParser]
  split
  next h =>
    have hm : NodeKind.parser.member? node = some .declaration := by rw [member?, h]; rfl
    rw [addVariable_eq_ok_iff hfits hm rfl]
    simp [Parser.withNodes, propertyMap, pick_concat_of_ne, hm, Scoped.withScope]
  next h =>
    have hm : NodeKind.parser.member? node = some .property := by rw [member?, h]; rfl
    simp only [bind_eq_ok_iff, pure_eq_ok_iff, Parser.withNodes, addProperty_eq_ok_iff hfits hm]
    simp [NodeKind.scope, pick_concat_of_ne, hm]
  next hv hp =>
    have hm : NodeKind.parser.member? node = none :=
      member?_eq_none_iff.mpr (by simpa [members] using ⟨hv, hp⟩)
    simp [fits_concat_of_not_member hm, hfits, Parser.withNodes, propertyMap, NodeKind.scope,
      pick_concat_of_ne, hm, pure_eq_ok_iff]

theorem parserHeader_eq_ok_iff {p : Parser} :
    parserHeader node = .ok p ↔ Has .parser node ∧ p = Parser.ofEntries node := by
  have hhas : Has .parser node ↔
      (node.argumentText? 0).isSome ∧ (node.propertyText? "class").isSome := by
    simp [has_iff, arguments, properties, flags]
  simp only [parserHeader, bind_eq_ok_iff, name_eq_ok_iff, property_eq_ok_iff, pure_eq_ok_iff, hhas,
    and_assoc, exists_and_left, exists_eq_left]
  exact Iff.rfl

theorem parser_eq_ok_iff {p : Parser} :
    parser node = .ok p ↔ Accepted .parser node ∧ p = Parser.ofNode node :=
  bind_foldlM_eq_ok_iff parserHeader_eq_ok_iff fun hfits =>
    addToParser_eq_ok_iff (.ofEntries node) hfits

theorem addToParsers_eq_ok_iff (base : Parsers) (hfits : Fits .parsers nodes) {p : Parsers} :
    addToParsers (base.withNodes nodes) node = .ok p ↔
      Fits .parsers (nodes ++ [node]) ∧ p = base.withNodes (nodes ++ [node]) := by
  rw [addToParsers]
  split
  next h =>
    have hm : NodeKind.parsers.member? node = some .declaration := by rw [member?, h]; rfl
    rw [addVariable_eq_ok_iff hfits hm rfl]
    simp [Parsers.withNodes, pick_concat_of_ne, hm, Scoped.withScope]
  next h =>
    have hm : NodeKind.parsers.member? node = some .parser := by rw [member?, h]; rfl
    refine (addMember_eq_ok_iff parser_eq_ok_iff (fun _ => rfl) hm (by decide) hfits
      (f := fun members => { base.withNodes nodes with parsers := members })).trans ?_
    simp [Parsers.withNodes, NodeKind.scope, pick_concat_of_ne, hm]
  next hv hp =>
    have hm : NodeKind.parsers.member? node = none :=
      member?_eq_none_iff.mpr (by simpa [members] using ⟨hv, hp⟩)
    simp [fits_concat_of_not_member hm, hfits, Parsers.withNodes, NodeKind.scope, pick_concat_of_ne,
      hm, pure_eq_ok_iff]

theorem parsers_eq_ok_iff {p : Parsers} :
    parsers node = .ok p ↔ Accepted .parsers node ∧ p = Parsers.ofNode node := by
  have hhas : Has .parsers node := by simp [has_iff, arguments, properties, flags]
  rw [accepted_iff, and_iff_right hhas]
  exact foldlM_eq_ok_iff fun hfits => addToParsers_eq_ok_iff {} hfits

theorem addToFolder_eq_ok_iff (base : Folder) (hfits : Fits .folder nodes) {f : Folder} :
    addToFolder (base.withNodes nodes) node = .ok f ↔
      Fits .folder (nodes ++ [node]) ∧ f = base.withNodes (nodes ++ [node]) := by
  rw [addToFolder]
  split
  next h => exact addVariable_eq_ok_iff hfits (by rw [member?, h]; rfl) rfl
  next h =>
    have hm : NodeKind.folder.member? node = none := member?_eq_none_iff.mpr (by simpa [members])
    simp [fits_concat_of_not_member hm, hfits, Folder.withNodes, NodeKind.scope, pick_concat_of_ne, hm,
      eq_comm]

theorem folderHeader_eq_ok_iff {f : Folder} :
    folderHeader node = .ok f ↔ Has .folder node ∧ f = Folder.ofEntries node := by
  have hhas : Has .folder node ↔
      (node.argumentText? 0).isSome ∧ (node.propertyText? "path").isSome ∧
        node.IsFlag "create" ∧ node.IsFlag "override" ∧ node.IsFlag "clean" := by
    simp [has_iff, arguments, properties, flags]
  simp only [folderHeader, bind_eq_ok_iff, name_eq_ok_iff, property_eq_ok_iff, flag_eq_ok_iff,
    pure_eq_ok_iff, hhas, and_assoc, exists_and_left, exists_eq_left]
  exact Iff.rfl

theorem folder_eq_ok_iff {f : Folder} :
    folder node = .ok f ↔ Accepted .folder node ∧ f = Folder.ofNode node :=
  bind_foldlM_eq_ok_iff folderHeader_eq_ok_iff fun hfits =>
    addToFolder_eq_ok_iff (.ofEntries node) hfits

theorem addToProject_eq_ok_iff (base : Project) (hfits : Fits .project nodes) {p : Project} :
    addToProject (base.withNodes nodes) node = .ok p ↔
      Fits .project (nodes ++ [node]) ∧ p = base.withNodes (nodes ++ [node]) := by
  rw [addToProject]
  split
  next h =>
    have hm : NodeKind.project.member? node = some .declaration := by rw [member?, h]; rfl
    rw [addVariable_eq_ok_iff hfits hm rfl]
    simp [Project.withNodes, pick_concat_of_ne, hm, Scoped.withScope]
  next h =>
    have hm : NodeKind.project.member? node = some .folder := by rw [member?, h]; rfl
    refine (addMember_eq_ok_iff folder_eq_ok_iff (fun _ => rfl) hm (by decide) hfits
      (f := (base.withNodes nodes).withFolders)).trans ?_
    simp [Project.withNodes, Project.withFolders, NodeKind.scope, pick_concat_of_ne, hm]
  next hv hf =>
    have hm : NodeKind.project.member? node = none :=
      member?_eq_none_iff.mpr (by simpa [members] using ⟨hv, hf⟩)
    simp [fits_concat_of_not_member hm, hfits, Project.withNodes, NodeKind.scope, pick_concat_of_ne,
      hm, pure_eq_ok_iff]

theorem projectHeader_eq_ok_iff {p : Project} :
    projectHeader node = .ok p ↔ Has .project node ∧ p = Project.ofEntries node := by
  have hhas : Has .project node ↔
      (node.argumentText? 0).isSome ∧ (node.propertyText? "path").isSome ∧ node.IsFlag "maven" := by
    simp [has_iff, arguments, properties, flags]
  simp only [projectHeader, bind_eq_ok_iff, name_eq_ok_iff, property_eq_ok_iff, flag_eq_ok_iff,
    pure_eq_ok_iff, hhas, and_assoc, exists_and_left, exists_eq_left]
  exact Iff.rfl

theorem project_eq_ok_iff {p : Project} :
    project node = .ok p ↔ Accepted .project node ∧ p = Project.ofNode node :=
  bind_foldlM_eq_ok_iff projectHeader_eq_ok_iff fun hfits =>
    addToProject_eq_ok_iff (.ofEntries node) hfits

theorem entryHeader_eq_ok_iff {e : ClasspathEntry} :
    entryHeader node = .ok e ↔ Accepted .entry node ∧ e = ClasspathEntry.ofNode node := by
  have hinside : Fits .entry node.children := fits_of_members_eq_nil rfl _
  have haccepted : Accepted .entry node ↔ (node.argumentText? 0).isSome := by
    simp [accepted_iff, has_iff, arguments, properties, flags, hinside]
  simp only [entryHeader, bind_eq_ok_iff, require_argument_eq_ok_iff, pure_eq_ok_iff, haccepted,
    and_assoc, exists_and_left, exists_eq_left]
  exact Iff.rfl

theorem addToClasspath_eq_ok_iff (base : Classpath) (hfits : Fits .classpath nodes) {c : Classpath} :
    addToClasspath (base.withNodes nodes) node = .ok c ↔
      Fits .classpath (nodes ++ [node]) ∧ c = base.withNodes (nodes ++ [node]) := by
  have hentry (hm : NodeKind.classpath.member? node = some .entry) :
      (do return { base.withNodes nodes with
        entries := (base.withNodes nodes).entries ++ [← entryHeader node] }) = .ok c ↔
        Fits .classpath (nodes ++ [node]) ∧ c = base.withNodes (nodes ++ [node]) := by
    simp only [bind_eq_ok_iff, entryHeader_eq_ok_iff, pure_eq_ok_iff, and_assoc, exists_and_left,
      exists_eq_left, fits_concat_of_plain hm (by decide) (by decide) hfits]
    simp [Classpath.withNodes, NodeKind.scope, pick_concat_self hm, pick_concat_of_ne, hm]
  simp only [addToClasspath]
  split
  next h =>
    have hm : NodeKind.classpath.member? node = some .declaration := by rw [member?, h]; rfl
    rw [addVariable_eq_ok_iff hfits hm rfl]
    simp [Classpath.withNodes, pick_concat_of_ne, hm, Scoped.withScope]
  next h => exact hentry (by rw [member?, h]; rfl)
  next h => exact hentry (by rw [member?, h]; rfl)
  next hv hb hj =>
    have hm : NodeKind.classpath.member? node = none :=
      member?_eq_none_iff.mpr (by simpa [members] using ⟨hv, hb, hj⟩)
    simp [fits_concat_of_not_member hm, hfits, Classpath.withNodes, NodeKind.scope, pick_concat_of_ne,
      hm, pure_eq_ok_iff]

theorem classpath_eq_ok_iff {c : Classpath} :
    classpath node = .ok c ↔ Accepted .classpath node ∧ c = Classpath.ofNode node := by
  have hhas : Has .classpath node := by simp [has_iff, arguments, properties, flags]
  rw [accepted_iff, and_iff_right hhas]
  exact foldlM_eq_ok_iff fun hfits => addToClasspath_eq_ok_iff {} hfits

theorem readBlock_eq_ok_iff {read : Kdl.Node → Reading α} {ofNode : Kdl.Node → α} {inner : NodeKind}
    (hread : ∀ {a}, read node = .ok a ↔ Accepted inner node ∧ a = ofNode node)
    (hm : NodeKind.document.member? node = some inner) (hb : inner.IsBlock)
    (hfits : Fits .document nodes) (hfirst : NodeKind.document.pick inner nodes = []) (empty : α)
    {f : α → β} {b : β} :
    (do return f (← read node)) = .ok b ↔ Fits .document (nodes ++ [node]) ∧
      b = f (((NodeKind.document.pick inner (nodes ++ [node])).map ofNode).headD empty) := by
  rw [fits_concat_of_block hm hb hfits, pick_concat_self hm, hfirst]
  simp only [bind_eq_ok_iff, pure_eq_ok_iff, hread]
  simp

theorem addToPlan_eq_ok_iff (hfits : Fits .document nodes)
    (hfirst : ∀ inner : NodeKind, NodeKind.document.member? node = some inner → inner.IsBlock →
      NodeKind.document.pick inner nodes = []) {p : Plan} :
    addToPlan (Plan.ofNodes nodes) node = .ok p ↔
      Fits .document (nodes ++ [node]) ∧ p = Plan.ofNodes (nodes ++ [node]) := by
  rw [addToPlan]
  split
  next h =>
    have hm : NodeKind.document.member? node = some .declaration := by rw [member?, h]; rfl
    rw [addVariable_eq_ok_iff hfits hm rfl]
    simp [Plan.ofNodes, pick_concat_of_ne, hm, Scoped.withScope]
  next h =>
    have hm : NodeKind.document.member? node = some .classpath := by rw [member?, h]; rfl
    refine (readBlock_eq_ok_iff classpath_eq_ok_iff hm (by decide) hfits (hfirst _ hm (by decide)) {}
      (f := fun c => { Plan.ofNodes nodes with classpath := c })).trans ?_
    simp [Plan.ofNodes, NodeKind.scope, pick_concat_of_ne, hm]
  next h =>
    have hm : NodeKind.document.member? node = some .project := by rw [member?, h]; rfl
    refine (addMember_eq_ok_iff project_eq_ok_iff (fun _ => rfl) hm (by decide) hfits
      (f := fun projects => { Plan.ofNodes nodes with projects })).trans ?_
    simp [Plan.ofNodes, NodeKind.scope, pick_concat_of_ne, hm]
  next h =>
    have hm : NodeKind.document.member? node = some .parsers := by rw [member?, h]; rfl
    refine (readBlock_eq_ok_iff parsers_eq_ok_iff hm (by decide) hfits (hfirst _ hm (by decide)) {}
      (f := fun p => { Plan.ofNodes nodes with parsers := p })).trans ?_
    simp [Plan.ofNodes, NodeKind.scope, pick_concat_of_ne, hm]
  next h =>
    have hm : NodeKind.document.member? node = some .generators := by rw [member?, h]; rfl
    refine (readBlock_eq_ok_iff generators_eq_ok_iff hm (by decide) hfits (hfirst _ hm (by decide)) {}
      (f := fun g => { Plan.ofNodes nodes with generators := g })).trans ?_
    simp [Plan.ofNodes, NodeKind.scope, pick_concat_of_ne, hm]
  next hv hc hp hq hg =>
    have hm : NodeKind.document.member? node = none :=
      member?_eq_none_iff.mpr (by simpa [members] using ⟨hv, hc, hp, hq, hg⟩)
    simp [fits_concat_of_not_member hm, hfits, Plan.ofNodes, NodeKind.scope, pick_concat_of_ne, hm,
      pure_eq_ok_iff]

def Draft.ofNodes (nodes : List Kdl.Node) : Draft :=
  ⟨Plan.ofNodes nodes, ((nodes.map Kdl.Node.name).filter isBlock).reverse⟩

theorem isBlock_iff :
    isBlock node.name ↔ ∃ inner, NodeKind.document.member? node = some inner ∧ inner.IsBlock := by
  constructor
  · intro hb
    obtain h | h | h : node.name = "classpath" ∨ node.name = "parsers" ∨ node.name = "generators" := by
      simpa [isBlock] using hb
    · exact ⟨.classpath, by rw [member?, h]; rfl, by decide⟩
    · exact ⟨.parsers, by rw [member?, h]; rfl, by decide⟩
    · exact ⟨.generators, by rw [member?, h]; rfl, by decide⟩
  · rintro ⟨inner, hm, hb⟩
    have hall : ∀ m ∈ NodeKind.document.members, m.2.IsBlock → isBlock m.1 := by decide
    exact hall _ (mem_members_of_member? hm) hb

theorem member?_eq_some_iff_of_block {inner : NodeKind} {other : Kdl.Node}
    (hm : NodeKind.document.member? node = some inner) (hb : inner.IsBlock) :
    NodeKind.document.member? other = some inner ↔ other.name = node.name := by
  have hall : ∀ m ∈ NodeKind.document.members, ∀ n ∈ NodeKind.document.members,
      n.2.IsBlock → m.2 = n.2 → m.1 = n.1 := by decide
  constructor
  · intro ho
    exact hall _ (mem_members_of_member? ho) _ (mem_members_of_member? hm) hb rfl
  · intro hname
    rw [← hm, member?, member?, hname]

theorem not_mem_blocks_iff {inner : NodeKind} (hm : NodeKind.document.member? node = some inner)
    (hb : inner.IsBlock) :
    node.name ∉ (Draft.ofNodes nodes).blocks ↔ NodeKind.document.pick inner nodes = [] := by
  have hblock : isBlock node.name := isBlock_iff.mpr ⟨inner, hm, hb⟩
  simp [Draft.ofNodes, pick, List.filter_eq_nil_iff, member?_eq_some_iff_of_block hm hb, hblock]

theorem addToDraft_eq_ok_iff (hfits : Fits .document nodes) {d : Draft} :
    addToDraft (Draft.ofNodes nodes) node = .ok d ↔
      Fits .document (nodes ++ [node]) ∧ d = Draft.ofNodes (nodes ++ [node]) := by
  have hdraft : Draft.ofNodes (nodes ++ [node]) = ⟨Plan.ofNodes (nodes ++ [node]),
      if isBlock node.name then node.name :: (Draft.ofNodes nodes).blocks
        else (Draft.ofNodes nodes).blocks⟩ := by
    cases hb : isBlock node.name <;> simp [Draft.ofNodes, hb]
  have hplan : (Draft.ofNodes nodes).plan = Plan.ofNodes nodes := rfl
  simp only [addToDraft, throw_if_eq_ok_iff, bind_eq_ok_iff, pure_eq_ok_iff, hdraft, hplan]
  by_cases hagain : isBlock node.name ∧ node.name ∈ (Draft.ofNodes nodes).blocks
  · have hno : ¬ Fits .document (nodes ++ [node]) := by
      intro hfits'
      obtain ⟨inner, hm, hb⟩ := isBlock_iff.mp hagain.1
      exact (not_mem_blocks_iff hm hb).mpr ((fits_concat_of_block hm hb hfits).mp hfits').2 hagain.2
    simp [hagain, hno]
  · have hfirst (inner : NodeKind) (hm : NodeKind.document.member? node = some inner)
        (hb : inner.IsBlock) : NodeKind.document.pick inner nodes = [] :=
      (not_mem_blocks_iff hm hb).mp fun hmem => hagain ⟨isBlock_iff.mpr ⟨inner, hm, hb⟩, hmem⟩
    simp only [addToPlan_eq_ok_iff hfits hfirst, hagain, not_false_iff, true_and, and_assoc,
      exists_and_left, exists_eq_left]

end Reading

namespace Plan

variable {nodes : List Kdl.Node}

theorem ofDocument_eq_ok_iff {p : Plan} :
    ofDocument nodes = .ok p ↔ Fits .document nodes ∧ p = ofNodes nodes := by
  have hfold (d : Reading.Draft) : nodes.foldlM Reading.addToDraft {} = .ok d ↔
      Fits .document nodes ∧ d = .ofNodes nodes :=
    Reading.foldlM_eq_ok_iff fun hfits => Reading.addToDraft_eq_ok_iff hfits
  rw [ofDocument]
  cases h : nodes.foldlM Reading.addToDraft {} with
  | error e =>
    have hno : ¬ Fits .document nodes := fun hfits => by simpa [h] using (hfold _).mpr ⟨hfits, rfl⟩
    simp [Except.map, hno]
  | ok d =>
    obtain ⟨hfits, rfl⟩ := (hfold d).mp h
    simp [Except.map, hfits, Reading.Draft.ofNodes, eq_comm]

/-- A document is read without an error exactly if each node that is recognised has what it needs and
none is there twice that may not be. Every entity then has the fields of its node, and its lists have all
nodes of their kinds in order. -/
theorem ofDocument_succeeds_iff (nodes : List Kdl.Node) :
    ((∃ p, ofDocument nodes = .ok p) ↔ NodeKind.document.Fits nodes) ∧
      ∀ p, ofDocument nodes = .ok p → p = ofNodes nodes := by
  refine ⟨⟨?_, fun hfits => ⟨_, ofDocument_eq_ok_iff.mpr ⟨hfits, rfl⟩⟩⟩, fun p h => ?_⟩
  · rintro ⟨p, h⟩
    exact (ofDocument_eq_ok_iff.mp h).1
  · exact (ofDocument_eq_ok_iff.mp h).2

end Plan

end GenPlan
