import GenPlan.Proofs.Document.Kinds

namespace GenPlan

namespace Reading

variable {α β : Type} {refused : Prop} {e : DocumentError} {r r' : Reading α}

/-- Two readings that are the same, unless the first one is to be refused: then it fails with the
error, or both fail before. -/
structure SameUnless (refused : Prop) (e : DocumentError) (r r' : Reading α) : Prop where
  same : ¬ refused → r = r'
  fails : refused → r = .error e ∨ ∃ first, r = .error first ∧ r' = .error first

namespace SameUnless

theorem of_eq (hn : ¬ refused) (h : r = r') : SameUnless refused e r r' :=
  ⟨fun _ => h, fun hr => absurd hr hn⟩

theorem of_error (first : DocumentError) :
    SameUnless refused e (.error first : Reading α) (.error first) :=
  ⟨fun _ => rfl, fun _ => .inr ⟨first, rfl, rfl⟩⟩

theorem bind (h : SameUnless refused e r r') (f : α → Reading β) :
    SameUnless refused e (r >>= f) (r' >>= f) := by
  constructor
  · intro hn
    rw [h.same hn]
  · intro hr
    obtain rfl | ⟨first, rfl, rfl⟩ := h.fails hr
    · exact .inl rfl
    · exact .inr ⟨first, rfl, rfl⟩

theorem bind_right (r : Reading α) {f f' : α → Reading β}
    (h : ∀ a, SameUnless refused e (f a) (f' a)) : SameUnless refused e (r >>= f) (r >>= f') := by
  cases r with
  | error first => exact of_error first
  | ok a => exact h a

theorem foldlM {add : α → Kdl.Node → Reading α} {node node' : Kdl.Node}
    (h : ∀ a, SameUnless refused e (add a node) (add a node')) (before after : List Kdl.Node)
    (a : α) : SameUnless refused e ((before ++ node :: after).foldlM add a)
      ((before ++ node' :: after).foldlM add a) := by
  simp only [List.foldlM_append, List.foldlM_cons]
  apply bind_right
  intro b
  exact (h b).bind _

end SameUnless

end Reading

namespace Kdl.Node

/-- One entry more, which is null and the only one of its key. -/
inductive DropsNull (key : String) : Node → Node → Prop
  | intro {name : String} {children : List Node} (before after : List Entry)
      (h : ∀ e ∈ before ++ after, e.key ≠ some key) :
      DropsNull key (.mk name (before ++ ⟨some key, .null⟩ :: after) children)
        (.mk name (before ++ after) children)

namespace DropsNull

variable {key : String} {node node' : Node}

theorem name_eq (h : node.DropsNull key node') : node.name = node'.name := by
  cases h
  rfl

theorem children_eq (h : node.DropsNull key node') : node.children = node'.children := by
  cases h
  rfl

theorem argumentText?_eq (h : node.DropsNull key node') (i : Nat) :
    node.argumentText? i = node'.argumentText? i := by
  cases h
  simp [argumentText?, arguments, entries]

theorem property?_eq_null (h : node.DropsNull key node') : node.property? key = some .null := by
  cases h with
  | @intro name children before after h =>
    have hafter : ∀ e ∈ after.reverse, ¬ e.key = some key := fun e he =>
      h e (List.mem_append_right before (List.mem_reverse.mp he))
    have hfind : after.reverse.find? (fun e => e.key = some key) = none := by
      simpa using hafter
    simp [property?, entries, List.find?_append, hfind]

theorem property?_eq_none (h : node.DropsNull key node') : node'.property? key = none := by
  cases h with
  | @intro name children before after h =>
    have hfind : (before ++ after).reverse.find? (fun e => e.key = some key) = none := by
      rw [List.find?_eq_none]
      intro e he
      simpa using h e (List.mem_reverse.mp he)
    rw [property?, entries, hfind]
    rfl

theorem property?_of_ne (h : node.DropsNull key node') {k : String} (hk : k ≠ key) :
    node.property? k = node'.property? k := by
  cases h
  simp [property?, entries, Ne.symm hk]

theorem propertyText?_eq (h : node.DropsNull key node') (k : String) :
    node.propertyText? k = node'.propertyText? k := by
  by_cases hk : k = key
  · subst k
    rw [propertyText?, propertyText?, h.property?_eq_null, h.property?_eq_none]
    rfl
  · rw [propertyText?, propertyText?, h.property?_of_ne hk]

end DropsNull

end Kdl.Node

namespace NodeKind

open Reading

variable {key : String} {kind inner : NodeKind} {node node' : Kdl.Node}

theorem flag_eq_error (h : node.DropsNull key node') :
    flag key node = .error (.notBoolean key .null) := by
  rw [flag, h.property?_eq_null]
  rfl

theorem flag_bind_sameUnless {α : Type} {refused : Prop} (h : node.DropsNull key node') {k : String}
    (hk : k = key → refused) {f f' : Bool → Reading α}
    (hf : k ≠ key → ∀ b, SameUnless refused (.notBoolean key .null) (f b) (f' b)) :
    SameUnless refused (.notBoolean key .null) (flag k node >>= f) (flag k node' >>= f') := by
  by_cases he : k = key
  · subst k
    rw [flag_eq_error h]
    exact ⟨fun hn => absurd (hk rfl) hn, fun _ => .inl rfl⟩
  · rw [flag, flag, h.property?_of_ne he]
    exact .bind_right _ (hf he)

theorem projectHeader_sameUnless (h : node.DropsNull key node') :
    SameUnless (key ∈ project.flags) (.notBoolean key .null) (projectHeader node)
      (projectHeader node') := by
  simp only [projectHeader, name, Reading.property, h.argumentText?_eq, h.propertyText?_eq]
  refine .bind_right _ fun _ => .bind_right _ fun _ => ?_
  refine flag_bind_sameUnless h (by rintro rfl; decide) fun hmaven _ => ?_
  exact .of_eq (by simp [flags, hmaven.symm]) rfl

theorem folderHeader_sameUnless (h : node.DropsNull key node') :
    SameUnless (key ∈ folder.flags) (.notBoolean key .null) (folderHeader node)
      (folderHeader node') := by
  simp only [folderHeader, name, Reading.property, h.argumentText?_eq, h.propertyText?_eq]
  refine .bind_right _ fun _ => .bind_right _ fun _ => ?_
  refine flag_bind_sameUnless h (by rintro rfl; decide) fun hcreate _ => ?_
  refine flag_bind_sameUnless h (by rintro rfl; decide) fun hoverride _ => ?_
  refine flag_bind_sameUnless h (by rintro rfl; decide) fun hclean _ => ?_
  exact .of_eq (by simp [flags, hcreate.symm, hoverride.symm, hclean.symm]) rfl

theorem header_sameUnless (h : node.DropsNull key node') (kind : NodeKind) :
    SameUnless (key ∈ kind.flags) (.notBoolean key .null) (kind.header node)
      (kind.header node') := by
  have hargument := h.argumentText?_eq
  have hproperty := h.propertyText?_eq
  cases kind with
  | document | classpath | parsers => exact .of_eq List.not_mem_nil rfl
  | declaration =>
    have heq : Reading.declaration node = Reading.declaration node' := by
      simp only [Reading.declaration, name, hargument, hproperty]
    exact .of_eq List.not_mem_nil heq
  | entry =>
    have heq : entryHeader node = entryHeader node' := by
      simp only [entryHeader, hargument, h.name_eq]
    exact .of_eq List.not_mem_nil heq
  | project => exact projectHeader_sameUnless h
  | folder => exact folderHeader_sameUnless h
  | parser =>
    have heq : parserHeader node = parserHeader node' := by
      simp only [parserHeader, name, Reading.property, hargument, hproperty]
    exact .of_eq List.not_mem_nil heq
  | property =>
    have heq : propertyHeader node = propertyHeader node' := by
      simp only [propertyHeader, name, hargument]
    exact .of_eq List.not_mem_nil heq
  | generators =>
    apply SameUnless.of_eq List.not_mem_nil
    simp only [header, generatorsHeader, routing, hproperty]
  | generator =>
    have heq : generatorHeader node = generatorHeader node' := by
      simp only [generatorHeader, name, Reading.property, routing, hargument, hproperty]
    exact .of_eq List.not_mem_nil heq
  | artifact =>
    have heq : artifactHeader node = artifactHeader node' := by
      simp only [artifactHeader, name, routing, hargument, hproperty]
    exact .of_eq List.not_mem_nil heq
  | target =>
    apply SameUnless.of_eq List.not_mem_nil
    simp only [header, targetHeader, routing, hproperty]

theorem read_sameUnless (h : node.DropsNull key node') (kind : NodeKind) :
    SameUnless (key ∈ kind.flags) (.notBoolean key .null) (kind.read node) (kind.read node') := by
  rw [read, read, h.children_eq]
  exact (header_sameUnless h kind).bind _

theorem header_congr (kind : NodeKind) (name : String) (entries : List Kdl.Entry)
    (nodes nodes' : List Kdl.Node) :
    kind.header (.mk name entries nodes) = kind.header (.mk name entries nodes') := by
  cases kind <;> rfl

theorem add_sameUnless {refused : Prop} {e : DocumentError} (hm : kind.member? node = some inner)
    (hn : node'.name = node.name) (h : SameUnless refused e (inner.read node) (inner.read node'))
    (a : kind.Sofar) : SameUnless refused e (kind.add a node) (kind.add a node') := by
  cases follows_add hm a with
  | reads f hf =>
    rw [hf node rfl, hf node' hn]
    exact h.bind f
  | refused first he =>
    rw [he node rfl, he node' hn]
    exact .of_error first

/-- From the nodes on the one side an entry is taken out somewhere, which is null and the only one
of its key. They are inside a node that stands for `around`, and the entry is one of a node that
stands for `place`, if those are recognised. -/
inductive DropsNull (key : String) :
    (around place : Option NodeKind) → List Kdl.Node → List Kdl.Node → Prop
  | here {around : Option NodeKind} {node node' : Kdl.Node} (before after : List Kdl.Node)
      (h : node.DropsNull key node') :
      DropsNull key around (around.bind fun kind => kind.member? node)
        (before ++ node :: after) (before ++ node' :: after)
  | inside {around place : Option NodeKind} {name : String} {entries : List Kdl.Entry}
      {nodes nodes' : List Kdl.Node} (before after : List Kdl.Node)
      (h : DropsNull key (around.bind fun kind => kind.member? (.mk name entries nodes)) place
        nodes nodes') :
      DropsNull key around place (before ++ .mk name entries nodes :: after)
        (before ++ .mk name entries nodes' :: after)

variable {around place : Option NodeKind} {nodes nodes' : List Kdl.Node}

theorem DropsNull.place_eq_none (h : DropsNull key around place nodes nodes') (ha : around = none) :
    place = none := by
  induction h with
  | here before after h => rw [ha, Option.bind_none]
  | inside before after h ih => exact ih (by rw [ha, Option.bind_none])

theorem DropsNull.sameUnless (h : DropsNull key around place nodes nodes') (ha : around = some kind)
    (a : kind.Sofar) :
    SameUnless (∃ kind ∈ place, key ∈ kind.flags) (.notBoolean key .null)
      (nodes.foldlM kind.add a) (nodes'.foldlM kind.add a) := by
  induction h generalizing kind with
  | @here _ node node' before after h =>
    subst ha
    apply SameUnless.foldlM
    intro b
    cases hm : kind.member? node with
    | none =>
      have hm' : kind.member? node' = none := by rw [← hm, member?, member?, h.name_eq]
      rw [add_of_member?_eq_none hm, add_of_member?_eq_none hm']
      exact .of_eq (by simp [hm]) rfl
    | some inner =>
      simpa [hm] using add_sameUnless hm h.name_eq.symm (read_sameUnless h inner) b
  | @inside _ place name entries nodes nodes' before after h ih =>
    subst ha
    apply SameUnless.foldlM
    intro b
    cases hm : kind.member? (.mk name entries nodes) with
    | none =>
      have hm' : kind.member? (.mk name entries nodes') = none := hm
      rw [add_of_member?_eq_none hm, add_of_member?_eq_none hm']
      exact .of_eq (by simp [h.place_eq_none hm]) rfl
    | some inner =>
      have hname : (Kdl.Node.mk name entries nodes').name = name := rfl
      refine add_sameUnless hm hname ?_ b
      rw [read, read, header_congr inner name entries nodes nodes']
      exact .bind_right _ fun c => ih hm c

end NodeKind

namespace Plan

variable {key : String} {place : Option NodeKind} {nodes nodes' : List Kdl.Node}

theorem ofDocument_sameUnless (h : NodeKind.DropsNull key (some .document) place nodes nodes') :
    Reading.SameUnless (∃ kind ∈ place, key ∈ kind.flags) (.notBoolean key .null)
      (ofDocument nodes) (ofDocument nodes') := by
  have hdrafts : Reading.SameUnless (∃ kind ∈ place, key ∈ kind.flags) (.notBoolean key .null)
      (nodes.foldlM Reading.addToDraft {}) (nodes'.foldlM Reading.addToDraft {}) :=
    h.sameUnless rfl _
  have hmap (r : Reading Reading.Draft) :
      r.map Reading.Draft.plan = r >>= fun d => .ok d.plan := by
    cases r <;> rfl
  rw [ofDocument, ofDocument, hmap, hmap]
  exact hdrafts.bind _

/-- A property that is null is taken for one that is not there, whatever node it is of: the plan is
the same, or the error is. Only where a flag is read the null is refused, if nothing is refused
before. -/
theorem ofDocument_dropsNull (h : NodeKind.DropsNull key (some .document) place nodes nodes') :
    ((∀ kind ∈ place, key ∉ kind.flags) → ofDocument nodes = ofDocument nodes') ∧
    ((∃ kind ∈ place, key ∈ kind.flags) → ofDocument nodes = .error (.notBoolean key .null) ∨
      ∃ first, ofDocument nodes = .error first ∧ ofDocument nodes' = .error first) := by
  have hs := ofDocument_sameUnless h
  refine ⟨fun hn => hs.same ?_, hs.fails⟩
  rintro ⟨kind, hk, hf⟩
  exact hn kind hk hf

theorem ofDocument_dropsNull_pattern :
    let artifact (entries : List Kdl.Entry) : Kdl.Node :=
      .mk "artifact" [⟨none, .text "a"⟩] [.mk "target" entries []]
    let document (entries : List Kdl.Entry) : List Kdl.Node :=
      [.mk "generators" [] [.mk "generator" [⟨none, .text "g"⟩, ⟨some "class", .text "c"⟩]
        [artifact entries]]]
    NodeKind.DropsNull "pattern" (some .document) (some .target)
      (document [⟨some "pattern", .null⟩, ⟨some "folder", .text "f"⟩])
      (document [⟨some "folder", .text "f"⟩]) ∧
    (∃ p, ofDocument (document [⟨some "folder", .text "f"⟩]) = .ok p) ∧
    ofDocument (document [⟨some "pattern", .null⟩, ⟨some "folder", .text "f"⟩]) =
      ofDocument (document [⟨some "folder", .text "f"⟩]) := by
  intro artifact document
  have htarget : Kdl.Node.DropsNull "pattern"
      (.mk "target" [⟨some "pattern", .null⟩, ⟨some "folder", .text "f"⟩] [])
      (.mk "target" [⟨some "folder", .text "f"⟩] []) := .intro [] _ (by decide)
  have h : NodeKind.DropsNull "pattern" (some .document) (some .target)
      (document [⟨some "pattern", .null⟩, ⟨some "folder", .text "f"⟩])
      (document [⟨some "folder", .text "f"⟩]) :=
    .inside [] [] (.inside [] [] (.inside [] [] (.here [] [] htarget)))
  have haccepted : ofDocument (document [⟨some "folder", .text "f"⟩]) =
      .ok (ofNodes (document [⟨some "folder", .text "f"⟩])) := rfl
  exact ⟨h, ⟨_, haccepted⟩, (ofDocument_dropsNull h).1 (by decide)⟩

/-- A flag that is null makes a difference: the project is refused that is accepted without it. -/
theorem not_ofDocument_dropsNull :
    ¬ ∀ (key : String) (place : Option NodeKind) (nodes nodes' : List Kdl.Node),
      NodeKind.DropsNull key (some .document) place nodes nodes' →
        ofDocument nodes = ofDocument nodes' := by
  intro h
  let project (entries : List Kdl.Entry) : Kdl.Node :=
    .mk "project" (⟨none, .text "p"⟩ :: ⟨some "path", .text "x"⟩ :: entries) []
  have hproject : Kdl.Node.DropsNull "maven" (project [⟨some "maven", .null⟩]) (project []) :=
    .intro [⟨none, .text "p"⟩, ⟨some "path", .text "x"⟩] [] (by decide)
  have heq := h "maven" _ _ _ (.here [] [] hproject)
  have hrefused : ofDocument [project [⟨some "maven", .null⟩]] =
      .error (.notBoolean "maven" .null) := rfl
  have haccepted : ofDocument [project []] = .ok (ofNodes [project []]) := rfl
  simp [hrefused, haccepted] at heq

end Plan

end GenPlan
