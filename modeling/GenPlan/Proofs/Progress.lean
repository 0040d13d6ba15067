import Mathlib.Data.List.Forall2
import GenPlan.Progress

namespace List.Forall₂

variable {α β : Type} {R : α → β → Prop} {as : List α} {bs : List β}

theorem exists_of_mem_left (h : Forall₂ R as bs) {a : α} (ha : a ∈ as) : ∃ b ∈ bs, R a b := by
  induction h with
  | nil => cases ha
  | cons hr _ ih =>
    obtain rfl | ha := mem_cons.mp ha
    · exact ⟨_, mem_cons_self, hr⟩
    · obtain ⟨b, hb, hr⟩ := ih ha
      exact ⟨b, mem_cons_of_mem _ hb, hr⟩

theorem exists_of_mem_right (h : Forall₂ R as bs) {b : β} (hb : b ∈ bs) : ∃ a ∈ as, R a b :=
  h.flip.exists_of_mem_left hb

theorem exists_of_getElem?_right (h : Forall₂ R as bs) {i : Nat} {b : β} (hb : bs[i]? = some b) :
    ∃ a, as[i]? = some a ∧ R a b := by
  induction h generalizing i with
  | nil => simp at hb
  | @cons a b' _ _ hr _ ih =>
    cases i with
    | zero =>
      obtain rfl : b' = b := by simpa using hb
      exact ⟨a, rfl, hr⟩
    | succ i => exact ih (by simpa using hb)

end List.Forall₂

namespace GenPlan.Progress

variable {ε α β : Type}

@[simp]
theorem done_inj {a b : α} : (done a : Progress ε α) = done b ↔ a = b := by simp [done]

@[simp]
theorem stop_ne_done {a b : α} {e : ε} : stop a e ≠ done b := by simp [stop, done]

theorem eq_done_of_failure {p : Progress ε α} (h : p.failure = none) : p = done p.value := by
  obtain ⟨a, failure⟩ := p
  cases h
  rfl

theorem eq_stop_of_failure {p : Progress ε α} {e : ε} (h : p.failure = some e) :
    p = stop p.value e := by
  obtain ⟨a, failure⟩ := p
  cases h
  rfl

theorem andThen_eq_done_iff {p : Progress ε α} {f : α → Progress ε α} {b : α} :
    p.andThen f = done b ↔ ∃ a, p = done a ∧ f a = done b := by
  obtain ⟨a, failure⟩ := p
  cases failure with
  | none => simp [andThen, done]
  | some e => simp [andThen, done]

theorem value_andThen_eq {p : Progress ε α} {f : α → Progress ε α} {g : α → β}
    (hf : ∀ a, g (f a).value = g a) : g (p.andThen f).value = g p.value := by
  obtain ⟨a, failure⟩ := p
  cases failure with
  | none => exact hf a
  | some e => rfl

theorem map_eq_done_iff {p : Progress ε α} {f : α → β} {b : β} :
    p.map f = done b ↔ ∃ a, p = done a ∧ f a = b := by
  obtain ⟨a, failure⟩ := p
  cases failure with
  | none => simp [map, done]
  | some e => simp [map, done]

theorem each_cons_eq_done_iff {f : α → Progress ε α} {a : α} {as bs : List α} :
    each f (a :: as) = done bs ↔
      ∃ b rest, f a = done b ∧ each f as = done rest ∧ bs = b :: rest := by
  rw [each]
  obtain ⟨b, failure⟩ := f a
  cases failure with
  | none => rw [map_eq_done_iff]; simp [done, eq_comm]
  | some e => simp [stop, done]

theorem each_eq_done_iff {f : α → Progress ε α} {as bs : List α} :
    each f as = done bs ↔ List.Forall₂ (fun a b => f a = done b) as bs := by
  induction as generalizing bs with
  | nil => simp [each, eq_comm]
  | cons a as ih => simp only [each_cons_eq_done_iff, ih, List.forall₂_cons_left_iff]

theorem map_eq_of_each {f : α → Progress ε α} {g : α → β} {as bs : List α}
    (hg : ∀ a ∈ as, ∀ b, f a = done b → g b = g a) (h : each f as = done bs) :
    bs.map g = as.map g := by
  induction as generalizing bs with
  | nil => rw [← done_inj.mp h]
  | cons a as ih =>
    obtain ⟨b, rest, hb, hrest, rfl⟩ := each_cons_eq_done_iff.mp h
    rw [List.map_cons, List.map_cons, hg a List.mem_cons_self b hb,
      ih (fun c hc => hg c (List.mem_cons_of_mem a hc)) hrest]

theorem exists_each {f : α → Progress ε α} {g : α → β} {as : List α}
    (h : ∀ a ∈ as, ∃ b, f a = done b ∧ g b = g a) :
    ∃ bs, each f as = done bs ∧ bs.map g = as.map g := by
  induction as with
  | nil => exact ⟨[], rfl, rfl⟩
  | cons a as ih =>
    obtain ⟨b, hb, hg⟩ := h a List.mem_cons_self
    obtain ⟨bs, hbs, hgs⟩ := ih fun c hc => h c (List.mem_cons_of_mem a hc)
    refine ⟨b :: bs, each_cons_eq_done_iff.mpr ⟨b, bs, hb, hbs, rfl⟩, ?_⟩
    rw [List.map_cons, List.map_cons, hg, hgs]

theorem each_eq_self_iff {f : α → Progress ε α} {as : List α} :
    each f as = done as ↔ ∀ a ∈ as, f a = done a := by
  rw [each_eq_done_iff, List.forall₂_same]

end GenPlan.Progress
