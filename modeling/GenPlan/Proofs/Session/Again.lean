import GenPlan.Proofs.Plan.Again

namespace GenPlan

open Progress

variable {files later : Files} {context : Context} {root : String} {s t : Session}

theorem Session.settled_of_init (hroot : Clean root)
    (hs : ∀ n ∈ (Node.plan s.plan).all, n.AllClean files)
    (hd : ∀ n ∈ (Node.plan s.plan).all, (n.scope.declared.map Variable.name).Nodup)
    (h : s.init files context root = done t) : t.plan.Settled root ∧ t = ⟨t.plan, some root,
      (t.plan.classpath.paths root).foldl (fun c path => c.addClasspath path) context, true⟩ := by
  obtain ⟨plan, hplan, rfl⟩ := init_eq_done_iff.mp h
  exact ⟨Plan.settled_of_init hroot.sealed (fun n hn => (hs n hn).allSealed) hd hplan, rfl⟩

theorem Classpath.paths_undeclared (root : String) (c : Classpath) :
    c.undeclared.paths root = c.paths root := by
  simp only [undeclared, paths, Scoped.undeclared, Scoped.withScope, List.map_map]
  rfl

namespace Session

/-- A second initialization succeeds and comes to the same in everything but the variables that are
declared, whatever has become of the files they were read from. In particular every file is bound as
before. -/
theorem init_again (hroot : Clean root) (hs : ∀ n ∈ (Node.plan s.plan).all, n.AllClean files)
    (hd : ∀ n ∈ (Node.plan s.plan).all, (n.scope.declared.map Variable.name).Nodup)
    (h : s.init files context root = done t) (later : Files) :
    ∃ u, t.init later context root = done u ∧ u.undeclared = t.undeclared ∧
      ∀ query, (u.bind query).map Binding.undeclared = (t.bind query).map Binding.undeclared := by
  obtain ⟨hsettled, ht⟩ := settled_of_init hroot hs hd h
  obtain ⟨plan, hplan, hsame⟩ := hsettled.exists_init later
  have hpaths : plan.classpath.paths root = t.plan.classpath.paths root := by
    rw [← Classpath.paths_undeclared root plan.classpath,
      ← Classpath.paths_undeclared root t.plan.classpath]
    exact congrArg (fun p => p.classpath.paths root) hsame
  have hundeclared : undeclared ⟨plan, some root,
      (plan.classpath.paths root).foldl (fun c path => c.addClasspath path) context, true⟩ =
        t.undeclared := by
    rw [ht, undeclared, undeclared, hsame, hpaths]
  refine ⟨_, init_eq_done_iff.mpr ⟨plan, hplan, rfl⟩, hundeclared, fun query => ?_⟩
  rw [← bind_undeclared, ← bind_undeclared, hundeclared]

theorem init_again_layered :
    Clean "/r" ∧
    (∀ n ∈ (Node.plan Plan.layered).all, n.AllClean (FileTree.empty.files "/")) ∧
    (∀ n ∈ (Node.plan Plan.layered).all, (n.scope.declared.map Variable.name).Nodup) ∧
    ∃ t, init (FileTree.empty.files "/") {} "/r" { plan := Plan.layered } = done t ∧
      ∀ later, ∃ u, t.init later {} "/r" = done u ∧ u.undeclared = t.undeclared ∧
        ∀ query, (u.bind query).map Binding.undeclared = (t.bind query).map Binding.undeclared := by
  have hroot : Clean "/r" := by decide +kernel
  have hnames : ∀ n ∈ (Node.plan Plan.layered).all,
      (n.scope.declared.map Variable.name).Nodup := by
    rw [Node.all_plan]
    decide +kernel
  have hinit := eq_done_of_failure failure_init_layered
  exact ⟨hroot, Plan.allClean_layered, hnames, _, hinit,
    fun later => init_again hroot Plan.allClean_layered hnames hinit later⟩

/-- A second initialization leaves a session as it is exactly if no variable that is stored in it refers
to one declared before it in the same scope. The root directory is exempt, as it is declared anew. -/
theorem init_again_eq_iff (hroot : Clean root) (hs : ∀ n ∈ (Node.plan s.plan).all, n.AllClean files)
    (hd : ∀ n ∈ (Node.plan s.plan).all, (n.scope.declared.map Variable.name).Nodup)
    (h : s.init files context root = done t) (later : Files) :
    t.init later context root = done t ↔
      ∀ n ∈ (Node.plan t.plan).all, n.scope.ForwardOnly n.redeclares := by
  obtain ⟨hsettled, ht⟩ := settled_of_init hroot hs hd h
  rw [← hsettled.init_eq_self_iff later, init_eq_done_iff]
  constructor
  · rintro ⟨plan, hplan, hsame⟩
    rw [congrArg Session.plan hsame] at hplan ⊢
    exact hplan
  · intro hplan
    exact ⟨t.plan, hplan, ht⟩

def chained : Session where
  plan.scope.declared := [⟨"a", some "${b}", none⟩, ⟨"b", some "x", none⟩, ⟨"c", some "${a}", none⟩]

theorem init_again_eq_iff_chained :
    Clean "/r" ∧
    (∀ n ∈ (Node.plan chained.plan).all, n.AllClean (FileTree.empty.files "/")) ∧
    (∀ n ∈ (Node.plan chained.plan).all, (n.scope.declared.map Variable.name).Nodup) ∧
    ∃ t, chained.init (FileTree.empty.files "/") {} "/r" = done t ∧
      ∀ later, t.init later {} "/r" = done t ↔
        ∀ n ∈ (Node.plan t.plan).all, n.scope.ForwardOnly n.redeclares := by
  have hroot : Clean "/r" := by decide +kernel
  have hclean : ∀ n ∈ (Node.plan chained.plan).all, n.AllClean (FileTree.empty.files "/") := by
    rw [Node.all_plan]
    decide +kernel
  have hnames : ∀ n ∈ (Node.plan chained.plan).all,
      (n.scope.declared.map Variable.name).Nodup := by
    rw [Node.all_plan]
    decide +kernel
  have hinit : (chained.init (FileTree.empty.files "/") {} "/r").failure = none := by cbv
  exact ⟨hroot, hclean, hnames, _, eq_done_of_failure hinit,
    fun later => init_again_eq_iff hroot hclean hnames (eq_done_of_failure hinit) later⟩

/-- The variables do not always stay as they are: with the first initialization the last of the chained
ones comes to be a reference to the second, and with the next one the value of that. -/
theorem not_init_again_declared :
    ¬ ∀ (files : Files) (context : Context) (root : String) (s t : Session),
      s.init files context root = done t → ∃ u, t.init files context root = done u ∧
        (Node.plan u.plan).all.map (fun n => n.scope.declared) =
          (Node.plan t.plan).all.map (fun n => n.scope.declared) := by
  intro hall
  have hfirst : (chained.init (FileTree.empty.files "/") {} "/r").failure = none := by cbv
  have honce : (chained.init (FileTree.empty.files "/") {} "/r").value.plan.scope.declared =
      [⟨"a", some "${b}", none⟩, ⟨"b", some "x", none⟩, ⟨"c", some "${b}", none⟩,
        ⟨"rootDir", some "/r", none⟩] := by cbv
  obtain ⟨u, hu, hsame⟩ := hall _ _ _ _ _ (eq_done_of_failure hfirst)
  rw [Node.all_eq, Node.all_eq, List.map_cons, List.map_cons, List.cons.injEq] at hsame
  have hdeclared : u.plan.scope.declared = _ := hsame.1.trans honce
  obtain ⟨plan, hplan, rfl⟩ := init_eq_done_iff.mp hu
  obtain ⟨scope, _, _, _, _, hscope, _, _, _, _, rfl⟩ := Plan.init_eq_done_iff.mp hplan
  have htwice := (Scope.inherit_eq_done_iff.mp hscope).2.1
  rw [Scope.declare, honce, hdeclared] at htwice
  revert htwice
  decide +kernel

end Session

end GenPlan
