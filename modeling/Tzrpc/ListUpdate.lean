import Mathlib.Algebra.BigOperators.Group.List.Basic
import Mathlib.Algebra.Ring.Nat
import Mathlib.Data.List.Forall2
import Mathlib.Data.List.Perm.Basic
import Mathlib.Tactic.Common

/-!
# Lists with one element replaced

Two lists whose elements are related in pairs, when one pair changes, and sums over them.
-/
namespace Tzrpc

variable {α β : Type*}

lemma map_set_of_eq {f : α → β} {xs : List α} {i : ℕ} {a b : α} (ha : xs[i]? = some a)
    (hb : f b = f a) : (xs.set i b).map f = xs.map f := by
  apply List.ext_getElem?
  intro j
  rw [List.getElem?_map, List.getElem?_map, List.getElem?_set]
  split_ifs with hij hj
  · rw [← hij, ha, Option.map_some, Option.map_some, hb]
  · rw [← hij, List.getElem?_eq_none (Nat.le_of_not_lt hj)]
  · rfl

lemma sum_set_add {f : α → ℕ} {xs : List α} {i : ℕ} {a b : α} (ha : xs[i]? = some a) :
    ((xs.set i b).map f).sum + f a = (xs.map f).sum + f b := by
  induction xs generalizing i with
  | nil => simp at ha
  | cons x xs ih =>
    cases i with
    | zero =>
      obtain rfl : x = a := by simpa using ha
      simp only [List.set_cons_zero, List.map_cons, List.sum_cons]
      omega
    | succ i =>
      have hrest := ih (i := i) (by simpa using ha)
      simp only [List.set_cons_succ, List.map_cons, List.sum_cons]
      omega

lemma sum_eraseIdx_add {f : α → ℕ} {xs : List α} {i : ℕ} {a : α} (ha : xs[i]? = some a) :
    ((xs.eraseIdx i).map f).sum + f a = (xs.map f).sum := by
  obtain ⟨hi, rfl⟩ := List.getElem?_eq_some_iff.mp ha
  have hsum := ((List.getElem_cons_eraseIdx_perm hi).map f).sum_eq
  rwa [List.map_cons, List.sum_cons, Nat.add_comm] at hsum

lemma countP_set_add {p : α → Bool} {xs : List α} {i : ℕ} {a b : α}
    (ha : xs[i]? = some a) :
    (xs.set i b).countP p + (if p a then 1 else 0) = xs.countP p + if p b then 1 else 0 := by
  induction xs generalizing i with
  | nil => simp at ha
  | cons x xs ih =>
    cases i with
    | zero =>
      obtain rfl : x = a := by simpa using ha
      simp only [List.set_cons_zero, List.countP_cons]
      omega
    | succ i =>
      have hrest := ih (i := i) (by simpa using ha)
      simp only [List.set_cons_succ, List.countP_cons]
      omega

lemma flatMap_set_of_eq {f : α → List β} {xs : List α} {i : ℕ} {a b : α} (ha : xs[i]? = some a)
    (hb : f b = f a) : (xs.set i b).flatMap f = xs.flatMap f := by
  rw [List.flatMap_def, List.flatMap_def, map_set_of_eq ha hb]

lemma forall_mem_modify {P : α → Prop} {f : α → α} {xs : List α} {i : ℕ} (h : ∀ a ∈ xs, P a)
    (hf : ∀ a, P a → P (f a)) : ∀ a ∈ xs.modify i f, P a := by
  intro b hb
  obtain ⟨j, hj⟩ := List.mem_iff_getElem?.mp hb
  rw [List.getElem?_modify] at hj
  obtain ⟨a, ha, rfl⟩ := Option.map_eq_some_iff.mp hj
  split_ifs
  · exact hf a (h a (List.mem_of_getElem? ha))
  · exact h a (List.mem_of_getElem? ha)

lemma forall_mem_set {P : α → Prop} {xs : List α} {i : ℕ} {b : α} (h : ∀ a ∈ xs, P a)
    (hb : P b) : ∀ a ∈ xs.set i b, P a := by
  intro a ha
  rcases List.mem_or_eq_of_mem_set ha with ha | rfl
  · exact h a ha
  · exact hb

variable {R : α → β → Prop} {xs : List α} {ys : List β}

lemma forall₂_mem_right (h : List.Forall₂ R xs ys) {b : β} (hb : b ∈ ys) : ∃ a ∈ xs, R a b := by
  induction h with
  | nil => cases hb
  | cons hab _ ih =>
    rcases List.mem_cons.mp hb with rfl | hb
    · exact ⟨_, List.mem_cons_self, hab⟩
    · obtain ⟨a, ha, hR⟩ := ih hb
      exact ⟨a, List.mem_cons_of_mem _ ha, hR⟩

lemma forall₂_getElem? (h : List.Forall₂ R xs ys) {i : ℕ} {a : α} {b : β} (ha : xs[i]? = some a)
    (hb : ys[i]? = some b) : R a b := by
  obtain ⟨hi, rfl⟩ := List.getElem?_eq_some_iff.mp ha
  obtain ⟨hj, rfl⟩ := List.getElem?_eq_some_iff.mp hb
  exact h.get hi hj

lemma forall₂_exists_getElem? (h : List.Forall₂ R xs ys) {i : ℕ} {a : α} (ha : xs[i]? = some a) :
    ∃ b, ys[i]? = some b ∧ R a b := by
  have hi := (List.getElem?_eq_some_iff.mp ha).1
  rw [h.length_eq] at hi
  exact ⟨ys[i], List.getElem?_eq_getElem hi,
    forall₂_getElem? h ha (List.getElem?_eq_getElem hi)⟩

lemma forall₂_set (h : List.Forall₂ R xs ys) (i : ℕ) {a : α} {b : β} (hab : R a b) :
    List.Forall₂ R (xs.set i a) (ys.set i b) := by
  induction h generalizing i with
  | nil => exact .nil
  | cons hxy _ ih =>
    cases i with
    | zero => exact .cons hab ‹_›
    | succ i => exact .cons hxy (ih i)

lemma forall₂_set_right (h : List.Forall₂ R xs ys) {i : ℕ} {b : β}
    (hab : ∀ a, xs[i]? = some a → R a b) : List.Forall₂ R xs (ys.set i b) := by
  induction h generalizing i with
  | nil => exact .nil
  | cons hxy _ ih =>
    cases i with
    | zero => exact .cons (hab _ rfl) ‹_›
    | succ i => exact .cons hxy (ih hab)

lemma forall₂_modify_right (h : List.Forall₂ R xs ys) {f : β → β} {i : ℕ}
    (hf : ∀ a b, R a b → R a (f b)) : List.Forall₂ R xs (ys.modify i f) := by
  induction h generalizing i with
  | nil =>
    rw [List.modify_nil]
    exact .nil
  | cons hab hrest ih =>
    cases i with
    | zero => exact .cons (hf _ _ hab) hrest
    | succ i => exact .cons hab ih

lemma sum_le_of_forall₂ {f : α → ℕ} {g : β → ℕ} (h : List.Forall₂ R xs ys)
    (hfg : ∀ a b, R a b → f a ≤ g b) : (xs.map f).sum ≤ (ys.map g).sum := by
  induction h with
  | nil => exact Nat.le_refl _
  | cons hab _ ih => exact Nat.add_le_add (hfg _ _ hab) ih

lemma sum_eq_of_forall₂ {f : α → ℕ} {g : β → ℕ} (h : List.Forall₂ R xs ys)
    (hfg : ∀ a ∈ xs, ∀ b, R a b → f a = g b) : (xs.map f).sum = (ys.map g).sum := by
  induction h with
  | nil => rfl
  | cons hab _ ih =>
    rw [List.map_cons, List.map_cons, List.sum_cons, List.sum_cons,
      hfg _ List.mem_cons_self _ hab, ih fun a ha => hfg a (List.mem_cons_of_mem _ ha)]

end Tzrpc
