import Mathlib.Data.List.Basic
import Mathlib.Data.List.Perm.Basic
import Mathlib.Tactic.Common

/-!
# One-shot timers with queued completions

A variable holds at most one timer object. Waits started on the object stay pending until
it expires, which completes them with success, or until it is cancelled, set to a new
expiry or destroyed, which completes them as aborted. A completed wait only queues its
handler: the handler runs later, and no cancellation takes it back.
-/
namespace Tzrpc

inductive WaitCode
  | success
  | aborted
  deriving DecidableEq, Repr

structure Completion (α : Type*) where
  wait : α
  code : WaitCode
  deriving DecidableEq, Repr

structure SteadyTimer (α : Type*) where
  object : Option (List α)
  queued : List (Completion α)
  deriving DecidableEq, Repr

namespace SteadyTimer

variable {α : Type*}

def empty : SteadyTimer α := ⟨none, []⟩

def pending (t : SteadyTimer α) : List α := t.object.getD []

/-- The queue after every pending wait has completed with `code`. -/
def completeAll (t : SteadyTimer α) (code : WaitCode) : List (Completion α) :=
  t.queued ++ t.pending.map (⟨·, code⟩)

def cancel (t : SteadyTimer α) : SteadyTimer α :=
  ⟨t.object.map fun _ => [], t.completeAll .aborted⟩

/-- Setting a new expiry cancels the pending waits. -/
def expiresFromNow (t : SteadyTimer α) : SteadyTimer α := t.cancel

/-- `reset(new steady_timer)`: the old object is destroyed. -/
def create (t : SteadyTimer α) : SteadyTimer α := ⟨some [], t.completeAll .aborted⟩

/-- `reset()`. -/
def destroy (t : SteadyTimer α) : SteadyTimer α := ⟨none, t.completeAll .aborted⟩

def asyncWait (t : SteadyTimer α) (a : α) : SteadyTimer α :=
  ⟨t.object.map (· ++ [a]), t.queued⟩

def expire (t : SteadyTimer α) : SteadyTimer α :=
  ⟨t.object.map fun _ => [], t.completeAll .success⟩

def take (t : SteadyTimer α) (i : ℕ) : Option (Completion α × SteadyTimer α) :=
  t.queued[i]?.map fun c => (c, ⟨t.object, t.queued.eraseIdx i⟩)

/-- The handler of `a` may still run with success. -/
def Live (t : SteadyTimer α) (a : α) : Prop := a ∈ t.pending ∨ ⟨a, .success⟩ ∈ t.queued

@[simp] lemma pending_empty : (empty : SteadyTimer α).pending = [] := rfl

@[simp] lemma pending_cancel (t : SteadyTimer α) : t.cancel.pending = [] := by
  cases h : t.object <;> simp [cancel, pending, h]

@[simp] lemma pending_create (t : SteadyTimer α) : t.create.pending = [] := rfl

@[simp] lemma pending_destroy (t : SteadyTimer α) : t.destroy.pending = [] := rfl

@[simp] lemma pending_expire (t : SteadyTimer α) : t.expire.pending = [] := by
  cases h : t.object <;> simp [expire, pending, h]

lemma pending_asyncWait {t : SteadyTimer α} (h : t.object.isSome) (a : α) :
    (t.asyncWait a).pending = t.pending ++ [a] := by
  obtain ⟨ws, hw⟩ := Option.isSome_iff_exists.mp h
  simp [asyncWait, pending, hw]

@[simp] lemma queued_asyncWait (t : SteadyTimer α) (a : α) :
    (t.asyncWait a).queued = t.queued := rfl

@[simp] lemma object_cancel_isSome (t : SteadyTimer α) :
    t.cancel.object.isSome = t.object.isSome := by
  cases h : t.object <;> simp [cancel, h]

@[simp] lemma object_create_isSome (t : SteadyTimer α) : t.create.object.isSome = true := rfl

lemma mem_completeAll {t : SteadyTimer α} {code : WaitCode} {c : Completion α} :
    c ∈ t.completeAll code ↔ c ∈ t.queued ∨ (c.wait ∈ t.pending ∧ c.code = code) := by
  cases c with
  | mk wait c =>
    simp only [completeAll, List.mem_append, List.mem_map, Completion.mk.injEq]
    constructor
    · rintro (h | ⟨a, ha, rfl, rfl⟩)
      · exact Or.inl h
      · exact Or.inr ⟨ha, rfl⟩
    · rintro (h | ⟨h, rfl⟩)
      · exact Or.inl h
      · exact Or.inr ⟨wait, h, rfl, rfl⟩

lemma live_completeAll_aborted {t : SteadyTimer α} {a : α} :
    (⟨a, .success⟩ : Completion α) ∈ t.completeAll .aborted ↔ ⟨a, .success⟩ ∈ t.queued := by
  simp [mem_completeAll]

lemma Live.of_cancel {t : SteadyTimer α} {a : α} (h : t.cancel.Live a) : t.Live a := by
  rcases h with h | h
  · simp at h
  · exact Or.inr (live_completeAll_aborted.mp h)

lemma Live.of_create {t : SteadyTimer α} {a : α} (h : t.create.Live a) : t.Live a := by
  rcases h with h | h
  · simp at h
  · exact Or.inr (live_completeAll_aborted.mp h)

lemma Live.of_asyncWait {t : SteadyTimer α} {a b : α} (h : (t.asyncWait b).Live a) :
    t.Live a ∨ a = b := by
  rcases h with h | h
  · cases hw : t.object with
    | none => simp [asyncWait, pending, hw] at h
    | some ws =>
      simp only [asyncWait, pending, hw, Option.map_some, Option.getD_some, List.mem_append,
        List.mem_singleton] at h
      rcases h with h | h
      · exact Or.inl (Or.inl (by simpa [pending, hw] using h))
      · exact Or.inr h
  · exact Or.inl (Or.inr h)

lemma Live.of_expire {t : SteadyTimer α} {a : α} (h : t.expire.Live a) : t.Live a := by
  rcases h with h | h
  · simp at h
  · rcases mem_completeAll.mp h with h | ⟨h, _⟩
    · exact Or.inr h
    · exact Or.inl h

lemma take_spec {t u : SteadyTimer α} {i : ℕ} {c : Completion α} (h : t.take i = some (c, u)) :
    c ∈ t.queued ∧ u.object = t.object ∧ ∀ a, u.Live a → t.Live a := by
  obtain ⟨d, hd, he⟩ := Option.map_eq_some_iff.mp h
  obtain ⟨rfl, rfl⟩ := Prod.mk.inj he
  refine ⟨List.mem_of_getElem? hd, rfl, fun a ha => ?_⟩
  rcases ha with ha | ha
  · exact Or.inl ha
  · exact Or.inr (List.mem_of_mem_eraseIdx ha)

lemma Live.of_take {t u : SteadyTimer α} {i : ℕ} {c : Completion α} {a : α}
    (h : t.take i = some (c, u)) (hc : c ≠ ⟨a, .success⟩) (ha : t.Live a) : u.Live a := by
  obtain ⟨d, hd, he⟩ := Option.map_eq_some_iff.mp h
  obtain ⟨rfl, rfl⟩ := Prod.mk.inj he
  rcases ha with ha | ha
  · exact Or.inl ha
  · obtain ⟨hi, rfl⟩ := List.getElem?_eq_some_iff.mp hd
    rcases List.mem_cons.mp ((List.getElem_cons_eraseIdx_perm hi).mem_iff.mpr ha) with he | hmem
    · exact absurd he.symm hc
    · exact Or.inr hmem

lemma Live.of_take_aborted {t u : SteadyTimer α} {i : ℕ} {c : Completion α} {a : α}
    (h : t.take i = some (c, u)) (hc : c.code = .aborted) (ha : t.Live a) : u.Live a := by
  refine ha.of_take h fun he => ?_
  rw [he] at hc
  cases hc

lemma Live.expire {t : SteadyTimer α} {a : α} (h : t.Live a) : t.expire.Live a := by
  refine Or.inr (mem_completeAll.mpr ?_)
  rcases h with h | h
  · exact Or.inr ⟨h, rfl⟩
  · exact Or.inl h

lemma success_mem_expire {t : SteadyTimer α} {a : α} :
    (⟨a, .success⟩ : Completion α) ∈ t.expire.queued ↔ t.Live a := by
  rw [expire, mem_completeAll]
  constructor
  · rintro (h | ⟨h, -⟩)
    · exact Or.inr h
    · exact Or.inl h
  · rintro (h | h)
    · exact Or.inr ⟨h, rfl⟩
    · exact Or.inl h

@[simp] lemma success_mem_cancel {t : SteadyTimer α} {a : α} :
    (⟨a, .success⟩ : Completion α) ∈ t.cancel.queued ↔ ⟨a, .success⟩ ∈ t.queued :=
  live_completeAll_aborted

@[simp] lemma success_mem_create {t : SteadyTimer α} {a : α} :
    (⟨a, .success⟩ : Completion α) ∈ t.create.queued ↔ ⟨a, .success⟩ ∈ t.queued :=
  live_completeAll_aborted

@[simp] lemma success_mem_destroy {t : SteadyTimer α} {a : α} :
    (⟨a, .success⟩ : Completion α) ∈ t.destroy.queued ↔ ⟨a, .success⟩ ∈ t.queued :=
  live_completeAll_aborted

end SteadyTimer

end Tzrpc
