import GenPlan.Proofs.Scope.Again
import GenPlan.Proofs.Scope.Outcome

namespace GenPlan.Scope

variable {files later : Files} {parent known : NameMap String} {before rest vs : List Variable}
  {s t : Scope} {e : LoadError}

theorem Outcome.exists_of_load (h : Outcome files parent s (.stop t (.load e))) :
    ∃ before v after, s.declared = before ++ v :: after ∧ (∀ w ∈ before, w.Available files) ∧
      ¬ v.Available files ∧ t.declared = passed files parent before ++ v :: after := by
  generalize hp : Progress.stop t (InitError.load e) = p at h
  cases h with
  | @unloadable before after v source reason declared available uncached sourced unreadable =>
    cases hp
    have hv : v.value files = .error e := value_eq_error_iff.mpr ⟨uncached, source, sourced, unreadable⟩
    refine ⟨before, v, after, declared, available, ?_, rfl⟩
    rw [Variable.Available, hv]
    exact Bool.false_ne_true
  | cyclic => cases hp
  | resolved => cases hp

theorem texts_append (files : Files) (vs ws : List Variable) :
    texts files (vs ++ ws) = texts files vs ++ texts files ws := List.map_append

theorem texts_congr (h : ∀ v ∈ vs, v.content later = v.content files) :
    texts later vs = texts files vs :=
  List.map_congr_left fun v hv => by rw [h v hv]

/-- What a pass that stopped has left are the texts of a whole pass, those that it did not come to restored. -/
theorem texts_passed_append (hsame : ∀ v ∈ before, v.content later = v.content files)
    (hd : ((before ++ rest).map Variable.name).Nodup) (known : NameMap String) :
    texts later (passed files known before ++ rest) =
      restored (· ∈ rest.map Variable.name) known (texts later (before ++ rest)) := by
  rw [List.map_append] at hd
  have hbefore : ∀ name ∈ (texts files before).map Prod.fst,
      false = decide (name ∈ rest.map Variable.name) := by
    intro name hn
    rw [map_fst_texts] at hn
    exact (decide_eq_false fun hr => (List.nodup_append.mp hd).2.2 name hn name hr rfl).symm
  have hrest : ∀ name ∈ (texts later rest).map Prod.fst,
      decide (name ∈ rest.map Variable.name) = true := by
    intro name hn
    rw [map_fst_texts] at hn
    exact decide_eq_true hn
  rw [texts_append, texts_append, restored_append, restored_eq_self hrest, texts_passed,
    texts_congr hsame, settledTexts, restored_congr hbefore]

/-- On top of final values and with clean texts, a scope that could not inherit because a source could not
be read can do so as it was left, if it could do so as it was declared, and then it resolves the same. What
was read before must not have changed. -/
theorem inherit_retry (files later : Files) (parent : NameMap String) (s t s' : Scope) (e : LoadError)
    (hp : ∀ name value, parent.get? name = some value →
      Clean value ∧ ∀ reference ∈ references value, reference ∉ parent)
    (hd : (s.declared.map Variable.name).Nodup) (hc : ∀ v ∈ s.declared, Clean (v.content later))
    (hstop : s.inherit files parent = .stop t (.load e))
    (hsame : ∀ v ∈ s.declared.takeWhile (·.Available files), v.content later = v.content files)
    (hs : s.inherit later parent = .done s') :
    ∃ t', t.inherit later parent = .done t' ∧ t'.resolved = s'.resolved := by
  have hfinal : parent.Final :=
    ⟨fun name value hv => (hp name value hv).1.sealed, fun name value hv => (hp name value hv).2⟩
  have hi : Inherits later parent s s' := ⟨hfinal, hd, fun v hv => (hc v hv).sealed, hs⟩
  obtain ⟨before, v, after, hdeclared, hb, hv, ht⟩ :=
    Outcome.exists_of_load (hstop ▸ outcome_inherit files parent s)
  have htake : s.declared.takeWhile (·.Available files) = before := by
    rw [hdeclared, List.takeWhile_append_of_pos (fun w hw => decide_eq_true (hb w hw)),
      List.takeWhile_cons_of_neg (by simpa using hv), List.append_nil]
  rw [htake] at hsame
  have ha : ∀ w ∈ t.declared, w.Available later := by
    intro w hw
    rw [ht] at hw
    obtain hw | hw := List.mem_append.mp hw
    · exact Variable.available_of_isSome (isSome_cached_of_mem_passed w hw) later
    · exact hi.available w (hdeclared ▸ List.mem_append_right before hw)
  have htexts : texts later t.declared =
      restored (· ∈ (v :: after).map Variable.name) parent (texts later s.declared) := by
    rw [ht, texts_passed_append hsame (hdeclared ▸ hd), hdeclared]
  exact hi.exists_inherit ha htexts

def interrupted : Scope :=
  ⟨[⟨"dir", some "${base}/${kind}", none⟩, ⟨"kind", none, some ⟨"/kind", none⟩⟩,
    ⟨"base", none, some ⟨"/base", none⟩⟩, ⟨"file", some "${dir}/${base}", none⟩], ∅⟩

def interruptedFiles : Files := (FileTree.directory [("kind", .file "k".toUTF8)]).files "/"

def interruptedLater : Files :=
  (FileTree.directory [("kind", .file "k".toUTF8), ("base", .file "<${kind}>".toUTF8)]).files "/"

def interruptedParent : NameMap String := .ofList [("base", "/old")]

def interruptedResolved : NameMap String :=
  .ofList [("base", "<k>"), ("dir", "/old/k"), ("file", "/old/k/<k>"), ("kind", "k")]

theorem resolve_interrupted :
    resolve (.ofList [("base", "<k>"), ("dir", "/old/${kind}"), ("file", "/old/${kind}/<k>"),
      ("kind", "k")]) =
        .ok ⟨interruptedResolved, .ofList [("base", 0), ("dir", 1), ("file", 1), ("kind", 0)]⟩ := by
  cbv

theorem inherit_interruptedLater :
    interrupted.inherit interruptedLater interruptedParent =
      .done ⟨passed interruptedLater interruptedParent interrupted.declared, interruptedResolved⟩ := by
  have hsettle : settle interruptedParent (texts interruptedLater interrupted.declared) =
      .ofList [("base", "<k>"), ("dir", "/old/${kind}"), ("file", "/old/${kind}/<k>"), ("kind", "k")] := by
    decide +kernel
  exact inherit_eq_done_iff.mpr ⟨by decide +kernel, rfl, _, hsettle ▸ resolve_interrupted⟩

theorem inherit_retry_interrupted :
    (interrupted.inherit interruptedFiles interruptedParent).failure =
      some (.load (.unreadable "/base" .notFound)) ∧
    ∃ t', (interrupted.inherit interruptedFiles interruptedParent).value.inherit interruptedLater
        interruptedParent = .done t' ∧ t'.resolved = interruptedResolved := by
  have hfailure : (interrupted.inherit interruptedFiles interruptedParent).failure =
      some (.load (.unreadable "/base" .notFound)) := by decide +kernel
  have hparent : ∀ e ∈ interruptedParent.entries,
      Clean e.2 ∧ ∀ reference ∈ references e.2, reference ∉ interruptedParent := by decide
  exact ⟨hfailure, inherit_retry interruptedFiles interruptedLater interruptedParent interrupted _ _ _
    (fun name value hv => hparent _ (NameMap.get?_eq_some_iff.mp hv)) (by decide) (by decide +kernel)
    (Progress.eq_stop_of_failure hfailure) (by decide +kernel) inherit_interruptedLater⟩

end GenPlan.Scope
