import Mathlib
import GenPlan.Proofs.Path
import GenPlan.Proofs.Plan.Initialized

namespace GenPlan

open Progress

namespace Path

variable {known paths : List String} {kept : List (String × Nat)}

/-- Which paths a list takes over, with their places: each that is the same neither as an element of the list
nor as one taken over from a place before it. -/
structure TakenOver (known paths : List String) (kept : List (String × Nat)) : Prop where
  sublist : kept.Sublist paths.zipIdx
  mem_iff : ∀ e ∈ paths.zipIdx, e ∈ kept ↔
    (∀ q ∈ known, ¬ Same e.1 q) ∧ ∀ f ∈ kept, f.2 < e.2 → ¬ Same e.1 f.1

theorem pairwise_zipIdx (paths : List String) : paths.zipIdx.Pairwise fun e f => e.2 < f.2 := by
  have h : (paths.zipIdx.map Prod.snd).Pairwise (· < ·) := by
    rw [List.zipIdx_map_snd]
    exact List.pairwise_lt_range'
  exact List.pairwise_map.mp h

theorem zipIdx_concat (paths : List String) (path : String) :
    (paths ++ [path]).zipIdx = paths.zipIdx ++ [(path, paths.length)] := by
  simp [List.zipIdx_append]

namespace TakenOver

theorem nil (known : List String) : TakenOver known [] [] := ⟨.slnil, nofun⟩

theorem snd_lt (h : TakenOver known paths kept) {e : String × Nat} (he : e ∈ kept) :
    e.2 < paths.length := by
  have hlt := List.snd_lt_of_mem_zipIdx (h.sublist.subset he)
  simpa using hlt

theorem pairwise (h : TakenOver known paths kept) :
    (kept.map Prod.fst).Pairwise fun p q => ¬ Same p q := by
  have hplaces : kept.Pairwise fun e f => e.2 < f.2 := (pairwise_zipIdx paths).sublist h.sublist
  refine List.pairwise_map.mpr (hplaces.imp_of_mem fun {e f} he hf hlt hsame => ?_)
  exact ((h.mem_iff f (h.sublist.subset hf)).mp hf).2 e he hlt hsame.symm

theorem not_same (h : TakenOver known paths kept) :
    ∀ p ∈ kept.map Prod.fst, ∀ q ∈ known, ¬ Same p q := by
  intro p hp
  obtain ⟨e, he, rfl⟩ := List.mem_map.mp hp
  exact ((h.mem_iff e (h.sublist.subset he)).mp he).1

theorem represented (h : TakenOver known paths kept) :
    ∀ p ∈ paths, ∃ q ∈ known ++ kept.map Prod.fst, Same p q := by
  intro p hp
  rw [← List.zipIdx_map_fst 0 paths] at hp
  obtain ⟨e, he, rfl⟩ := List.mem_map.mp hp
  by_cases hkept : e ∈ kept
  · exact ⟨e.1, List.mem_append_right known (List.mem_map_of_mem hkept), rfl⟩
  · rw [h.mem_iff e he] at hkept
    by_cases hknown : ∀ q ∈ known, ¬ Same e.1 q
    · have hno : ¬ ∀ f ∈ kept, f.2 < e.2 → ¬ Same e.1 f.1 := fun h => hkept ⟨hknown, h⟩
      obtain ⟨f, hf, -, hsame⟩ : ∃ f ∈ kept, f.2 < e.2 ∧ Same e.1 f.1 := by simpa using hno
      exact ⟨f.1, List.mem_append_right known (List.mem_map_of_mem hf), hsame⟩
    · obtain ⟨q, hq, hsame⟩ : ∃ q ∈ known, Same e.1 q := by simpa using hknown
      exact ⟨q, List.mem_append_left _ hq, hsame⟩

theorem concat_new (h : TakenOver known paths kept) {path : String}
    (hnew : ∀ q ∈ known ++ kept.map Prod.fst, ¬ Same path q) :
    TakenOver known (paths ++ [path]) (kept ++ [(path, paths.length)]) := by
  refine ⟨zipIdx_concat paths path ▸ h.sublist.append_right _, fun e he => ?_⟩
  rw [zipIdx_concat] at he
  obtain he | he := List.mem_append.mp he
  · have hlt : e.2 < paths.length := by simpa using List.snd_lt_of_mem_zipIdx he
    have hne : e ∉ [(path, paths.length)] := fun hm => by simp [List.mem_singleton.mp hm] at hlt
    have hlast : ∀ f ∈ [(path, paths.length)], f.2 < e.2 → ¬ Same e.1 f.1 := by
      intro f hf hfe
      rw [List.mem_singleton.mp hf] at hfe
      omega
    rw [List.mem_append, or_iff_left hne, h.mem_iff e he, List.forall_mem_append, and_iff_left hlast]
  · obtain rfl := List.mem_singleton.mp he
    refine iff_of_true (List.mem_append_right kept he) ⟨?_, ?_⟩
    · exact fun q hq => hnew q (List.mem_append_left _ hq)
    · intro f hf hlt
      obtain hf | hf := List.mem_append.mp hf
      · exact hnew f.1 (List.mem_append_right known (List.mem_map_of_mem hf))
      · simp [List.mem_singleton.mp hf] at hlt

theorem concat_old (h : TakenOver known paths kept) {path q : String}
    (hq : q ∈ known ++ kept.map Prod.fst) (hsame : Same path q) :
    TakenOver known (paths ++ [path]) kept := by
  refine ⟨zipIdx_concat paths path ▸ h.sublist.trans (List.sublist_append_left _ _), fun e he => ?_⟩
  rw [zipIdx_concat] at he
  obtain he | he := List.mem_append.mp he
  · exact h.mem_iff e he
  · obtain rfl := List.mem_singleton.mp he
    refine iff_of_false (fun hk => absurd (h.snd_lt hk) (Nat.lt_irrefl _)) ?_
    rintro ⟨hknown, hkept⟩
    obtain hq | hq := List.mem_append.mp hq
    · exact hknown q hq hsame
    · obtain ⟨f, hf, rfl⟩ := List.mem_map.mp hq
      exact hkept f hf (h.snd_lt hf) hsame

end TakenOver

theorem exists_takenOver (known paths : List String) :
    ∃ kept, TakenOver known paths kept ∧ paths.foldl addNew known = known ++ kept.map Prod.fst := by
  -- the induction is on the end of the list, since what is left out depends on what came before
  induction paths using List.reverseRecOn with
  | nil => exact ⟨[], .nil known, (List.append_nil known).symm⟩
  | append_singleton paths path ih =>
    obtain ⟨kept, hkept, hfold⟩ := ih
    rw [List.foldl_append, hfold, List.foldl_cons, List.foldl_nil, addNew]
    by_cases hsame : ((known ++ kept.map Prod.fst).any (Same path ·)) = true
    · rw [if_pos hsame]
      obtain ⟨q, hq, hs⟩ := List.any_eq_true.mp hsame
      exact ⟨kept, hkept.concat_old hq (of_decide_eq_true hs), rfl⟩
    · rw [if_neg hsame]
      refine ⟨kept ++ [(path, paths.length)], hkept.concat_new fun q hq hs => hsame ?_, by simp⟩
      exact List.any_eq_true.mpr ⟨q, hq, decide_eq_true hs⟩

theorem foldl_addNew_eq_self (h : ∀ p ∈ paths, ∃ q ∈ known, Same p q) :
    paths.foldl addNew known = known := by
  induction paths with
  | nil => rfl
  | cons path paths ih =>
    obtain ⟨⟨q, hq, hs⟩, h⟩ := List.forall_mem_cons.mp h
    have hany : (known.any (Same path ·)) = true := List.any_eq_true.mpr ⟨q, hq, decide_eq_true hs⟩
    rw [List.foldl_cons, addNew, if_pos hany, ih h]

end Path

theorem Context.foldl_addClasspath (paths : List String) (context : Context) :
    paths.foldl (fun c path => c.addClasspath path) context =
      { context with classpath := paths.foldl Path.addNew context.classpath } := by
  induction paths generalizing context with
  | nil => rfl
  | cons path paths ih => exact ih (context.addClasspath path)

namespace Session

/-- What an initialization makes of the classpath of its context. The paths are those of all entries, and
the ones that are taken over come with their places. -/
structure Extends (files : Files) (context : Context) (root : String) (s t : Session)
    (paths : List String) (kept : List (String × Nat)) : Prop where
  scope : s.plan.classpath.scope.inherit files t.plan.scope.resolved = done t.plan.classpath.scope
  entries : List.Forall₂ (fun e path => ∃ scope,
      e.scope.inherit files t.plan.classpath.scope.resolved = done scope ∧
      path = Path.join root (scope.replace e.path))
    s.plan.classpath.entries paths
  takenOver : Path.TakenOver context.classpath paths kept
  context_eq : t.context = { context with classpath := context.classpath ++ kept.map Prod.fst }
  represented : ∀ p ∈ paths, ∃ q ∈ t.context.classpath, Path.Same p q
  distinct : (kept.map Prod.fst).Pairwise fun p q => ¬ Path.Same p q
  apart : ∀ p ∈ kept.map Prod.fst, ∀ q ∈ context.classpath, ¬ Path.Same p q
  again : paths.foldl (fun c path => c.addClasspath path) t.context = t.context

variable {files : Files} {context : Context} {root : String} {s t : Session}

theorem exists_extends (h : s.init files context root = done t) :
    ∃ paths kept, Extends files context root s t paths kept := by
  obtain ⟨plan, hplan, rfl⟩ := init_eq_done_iff.mp h
  obtain ⟨_, classpath, _, _, _, -, hclasspath, -, -, -, rfl⟩ := Plan.init_eq_done_iff.mp hplan
  obtain ⟨scope, entries, hscope, hentries, rfl⟩ := Classpath.init_eq_done_iff.mp hclasspath
  let paths := Classpath.paths root ⟨entries, scope⟩
  obtain ⟨kept, hkept, hfold⟩ := Path.exists_takenOver context.classpath paths
  refine ⟨paths, kept, hscope, ?entries, hkept, ?context, ?represented, hkept.pairwise, hkept.not_same,
    ?again⟩
  case entries =>
    refine List.forall₂_map_right_iff.mpr (hentries.imp fun e e' he => ?_)
    obtain ⟨inner, hinner, rfl⟩ := ClasspathEntry.init_eq_done_iff.mp he
    exact ⟨inner, hinner, rfl⟩
  case context => rw [Context.foldl_addClasspath, hfold]
  case represented =>
    simp only [Context.foldl_addClasspath]
    rw [hfold]
    exact hkept.represented
  case again =>
    simp only [Context.foldl_addClasspath]
    rw [hfold, Path.foldl_addNew_eq_self hkept.represented]

/-- An initialization appends to the classpath, in their order, the paths of the entries that are not there
in another spelling. An absolute path is taken as it is. -/
theorem init_extends_classpath (h : s.init files context root = done t) :
    (∃ paths kept, Extends files context root s t paths kept) ∧
    (∀ rest, Path.isAbsolute rest = true → Path.join root rest = rest) ∧
    (∀ rest, Path.isAbsolute rest = false →
      Path.Same (Path.join root rest) (if root = "" then rest else root ++ "/" ++ rest)) ∧
    ∀ p q, Path.Same p q ↔ Relation.EqvGen Path.Respelled p q :=
  ⟨exists_extends h, fun _ => Path.join_of_isAbsolute root, fun _ => Path.same_join root,
    fun _ _ => Path.same_iff_eqvGen⟩

def spelled : Session where
  plan.scope.declared := [⟨"lib", some "${rootDir}//lib", none⟩]
  plan.classpath.scope.declared := [⟨"x", some "x.jar", none⟩]
  plan.classpath.entries :=
    [{ path := "lib" }, { path := "/abs/${x}" }, { path := "${rootDir}/../abs/${x}" },
     { path := "/abs/./${x}", scope.declared := [⟨"x", some "x.jar/", none⟩] },
     { path := "./b" }, { path := "${lib}/." }, { path := "b" }]

def spelledContext : Context := { classpath := ["/w/lib/", "b", "b"] }

theorem init_spelled :
    (spelled.plan.init (FileTree.empty.files "/") "/w").map
      (fun plan => plan.classpath.entries.map ClasspathEntry.path) =
    done ["lib", "/abs/x.jar", "/w/../abs/x.jar", "/abs/./x.jar/", "./b", "/w//lib/.", "b"] := by
  cbv

theorem init_extends_classpath_spelled : ∃ t,
    spelled.init (FileTree.empty.files "/") spelledContext "/w" = done t ∧
    t.context.classpath = ["/w/lib/", "b", "b", "/abs/x.jar", "/w/../abs/x.jar", "/w/./b"] ∧
    ∃ paths kept, Extends (FileTree.empty.files "/") spelledContext "/w" spelled t paths kept := by
  obtain ⟨plan, hplan, hentries⟩ := map_eq_done_iff.mp init_spelled
  have hinit : spelled.init (FileTree.empty.files "/") spelledContext "/w" = done _ :=
    init_eq_done_iff.mpr ⟨plan, hplan, rfl⟩
  have hpaths : plan.classpath.paths "/w" = ["/w/lib", "/abs/x.jar", "/w/../abs/x.jar", "/abs/./x.jar/",
      "/w/./b", "/w//lib/.", "/w/b"] := by
    rw [Classpath.paths, show ClasspathEntry.resolve "/w" = Path.join "/w" ∘ ClasspathEntry.path from rfl,
      ← List.map_map, hentries]
    decide +kernel
  have hfold : ["/w/lib", "/abs/x.jar", "/w/../abs/x.jar", "/abs/./x.jar/", "/w/./b", "/w//lib/.",
      "/w/b"].foldl Path.addNew spelledContext.classpath =
      ["/w/lib/", "b", "b", "/abs/x.jar", "/w/../abs/x.jar", "/w/./b"] := by decide +kernel
  refine ⟨_, hinit, ?_, (init_extends_classpath hinit).1⟩
  rw [hpaths, Context.foldl_addClasspath]
  exact hfold

end Session

end GenPlan
