import GenPlan.Proofs.Resolution.Depth
import GenPlan.Proofs.Resolution.Solution

namespace GenPlan

def Mentions (vars : NameMap String) (name reference : String) : Prop :=
  ∃ value, vars.get? name = some value ∧ reference ∈ references value

/-- Every name that can be reached has the same value in both maps or is in neither of them. -/
def AgreeFrom (v w : NameMap String) (name : String) : Prop :=
  ∀ reached, Relation.ReflTransGen (Mentions v) name reached → v.get? reached = w.get? reached

namespace AgreeFrom

variable {v w : NameMap String} {name reference : String}

theorem here (h : AgreeFrom v w name) : v.get? name = w.get? name := h name .refl

theorem inside (h : AgreeFrom v w name) (hm : Mentions v name reference) :
    AgreeFrom v w reference := fun reached hr => h reached (.head hm hr)

theorem mem_iff (h : AgreeFrom v w name) : name ∈ v ↔ name ∈ w := by
  rw [NameMap.mem_iff, NameMap.mem_iff, h.here]

theorem of_closed (names : List String) (hn : name ∈ names)
    (hclosed : ∀ n ∈ names, ∀ value ∈ v.get? n, ∀ r ∈ references value, r ∈ names)
    (hsame : ∀ n ∈ names, v.get? n = w.get? n) : AgreeFrom v w name := by
  have hreach : ∀ reached, Relation.ReflTransGen (Mentions v) name reached → reached ∈ names := by
    intro reached hr
    induction hr with
    | refl => exact hn
    | tail _ hm ih =>
      obtain ⟨value, hv, hr⟩ := hm
      exact hclosed _ ih value hv _ hr
  exact fun reached hr => hsame reached (hreach reached hr)

end AgreeFrom

theorem Spans.le_of_agree {v w : NameMap String} {below below' : NameMap Nat} {names : List String}
    {depth depth' : Nat} (h : Spans v below names depth) (h' : Spans w below' names depth')
    (hk : ∀ n ∈ names, n ∈ v → n ∈ w) (hd : ∀ n ∈ names, below.get? n = below'.get? n) :
    depth ≤ depth' := by
  cases depth with
  | zero => exact Nat.zero_le depth'
  | succ d =>
    obtain ⟨next, hm, hv, hnext⟩ := h.least d rfl
    obtain ⟨e, he, hlt⟩ := h'.above next hm (hk next hm hv)
    rw [← hd next hm, hnext] at he
    cases he
    omega

section Agree

variable {v w : NameMap String} {r s : Resolution} {name text : String}

theorem Resolved.resolved_congr (hr : Resolved v r) (hs : Resolved w s)
    (hv : v.get? name = some text) (hw : w.get? name = some text)
    (hbelow : ∀ n ∈ references text, r.resolved.get? n = s.resolved.get? n) :
    r.resolved.get? name = s.resolved.get? name := by
  rw [hr.solves.value name text hv, hs.solves.value name text hw]
  exact congrArg some (substitute_congr hbelow)

theorem Resolved.depth_congr (hr : Resolved v r) (hs : Resolved w s)
    (hv : v.get? name = some text) (hw : w.get? name = some text)
    (hknown : ∀ n ∈ references text, n ∈ v ↔ n ∈ w)
    (hbelow : ∀ n ∈ references text, r.depth.get? n = s.depth.get? n) :
    r.depth.get? name = s.depth.get? name := by
  obtain ⟨d, hd⟩ := NameMap.mem_iff.mp (hr.complete name (NameMap.mem_iff.mpr ⟨text, hv⟩))
  obtain ⟨e, he⟩ := NameMap.mem_iff.mp (hs.complete name (NameMap.mem_iff.mpr ⟨text, hw⟩))
  obtain ⟨value, hvalue, hspans⟩ := hr.exact name d hd
  obtain ⟨value', hvalue', hspans'⟩ := hs.exact name e he
  cases hv.symm.trans hvalue
  cases hw.symm.trans hvalue'
  have hle : d ≤ e := hspans.le_of_agree hspans' (fun n hn => (hknown n hn).mp) hbelow
  have hge : e ≤ d := hspans'.le_of_agree hspans (fun n hn => (hknown n hn).mpr) fun n hn =>
    (hbelow n hn).symm
  rw [hd, he, Nat.le_antisymm hle hge]

theorem Resolved.get?_of_not_mem (hr : Resolved v r) (hn : name ∉ v) :
    r.resolved.get? name = none ∧ r.depth.get? name = none := by
  have hdepth : name ∉ r.depth := mt (NameMap.keys_eq_iff.mp hr.keys_depth name).mp hn
  exact ⟨NameMap.not_mem_iff.mp (mt hr.solves.mem_iff.mp hn), NameMap.not_mem_iff.mp hdepth⟩

theorem AgreeFrom.get?_eq_of_not_mem (h : AgreeFrom v w name) (hr : Resolved v r)
    (hs : Resolved w s) (hn : name ∉ v) :
    r.resolved.get? name = s.resolved.get? name ∧ r.depth.get? name = s.depth.get? name := by
  obtain ⟨htext, hdepth⟩ := hr.get?_of_not_mem hn
  obtain ⟨htext', hdepth'⟩ := hs.get?_of_not_mem (mt h.mem_iff.mpr hn)
  exact ⟨htext.trans htext'.symm, hdepth.trans hdepth'.symm⟩

theorem AgreeFrom.get?_eq (h : AgreeFrom v w name) (hr : Resolved v r) (hs : Resolved w s) :
    r.resolved.get? name = s.resolved.get? name ∧ r.depth.get? name = s.depth.get? name := by
  induction name using hr.grounded.induction with
  | _ name ih =>
    by_cases hn : name ∈ v
    · obtain ⟨text, ht⟩ := NameMap.mem_iff.mp hn
      have ht' : w.get? name = some text := h.here ▸ ht
      have hinside : ∀ n ∈ references text, AgreeFrom v w n := fun n hm => h.inside ⟨text, ht, hm⟩
      have hbelow : ∀ n ∈ references text,
          r.resolved.get? n = s.resolved.get? n ∧ r.depth.get? n = s.depth.get? n := by
        intro n hm
        by_cases hk : n ∈ v
        · exact ih n ⟨hk, text, ht, hm⟩ (hinside n hm)
        · exact (hinside n hm).get?_eq_of_not_mem hr hs hk
      constructor
      · exact hr.resolved_congr hs ht ht' fun n hm => (hbelow n hm).1
      · have hknown : ∀ n ∈ references text, n ∈ v ↔ n ∈ w := fun n hm => (hinside n hm).mem_iff
        exact hr.depth_congr hs ht ht' hknown fun n hm => (hbelow n hm).2
    · exact h.get?_eq_of_not_mem hr hs hn

end Agree

/-- Resolved with whatever else, a name has the same text and the same depth, if what can be reached
from it is the same. -/
theorem resolve_eq_of_agreeFrom (v w : NameMap String) (r s : Resolution) (hv : resolve v = .ok r)
    (hw : resolve w = .ok s) (name : String) (hn : name ∈ v) (h : AgreeFrom v w name) :
    ∃ text depth, r.resolved.get? name = some text ∧ s.resolved.get? name = some text ∧
      r.depth.get? name = some depth ∧ s.depth.get? name = some depth := by
  have hr := resolved_of_resolve hv
  have hsame := h.get?_eq hr (resolved_of_resolve hw)
  obtain ⟨text, ht⟩ := NameMap.mem_iff.mp (hr.solves.mem_iff.mpr hn)
  obtain ⟨depth, hd⟩ := NameMap.mem_iff.mp (hr.complete name hn)
  exact ⟨text, depth, ht, hsame.1 ▸ ht, hd, hsame.2 ▸ hd⟩

theorem resolve_eq_of_agreeFrom_beside :
    let v : NameMap String := .ofList [("m", "${n}${u}"), ("n", "1"), ("z", "${m}")]
    let w : NameMap String := .ofList [("a", "${m}"), ("m", "${n}${u}"), ("n", "1")]
    AgreeFrom v w "m" ∧ ∃ r s, resolve v = .ok r ∧ resolve w = .ok s ∧
      ∃ text depth, r.resolved.get? "m" = some text ∧ s.resolved.get? "m" = some text ∧
        r.depth.get? "m" = some depth ∧ s.depth.get? "m" = some depth := by
  intro v w
  have hv : resolve v = .ok ⟨.ofList [("m", "1${u}"), ("n", "1"), ("z", "1${u}")],
      .ofList [("m", 1), ("n", 0), ("z", 2)]⟩ := by cbv
  have hw : resolve w = .ok ⟨.ofList [("a", "1${u}"), ("m", "1${u}"), ("n", "1")],
      .ofList [("a", 2), ("m", 1), ("n", 0)]⟩ := by cbv
  have h : AgreeFrom v w "m" :=
    .of_closed ["m", "n", "u"] (by decide) (by decide) (by decide)
  exact ⟨h, _, _, hv, hw, resolve_eq_of_agreeFrom v w _ _ hv hw "m" (by decide) h⟩

end GenPlan
