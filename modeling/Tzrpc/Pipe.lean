import Mathlib.Data.List.Basic
import Mathlib.Tactic.Common

/-!
# Reliable byte pipes

One direction of a connection: what the writer puts in, the reader gets out in order and
in pieces of any size, or never.
-/
namespace Tzrpc

structure Pipe (α : Type*) where
  /-- What the reader has taken so far. -/
  taken : List α
  inFlight : List α
  deriving DecidableEq, Repr

namespace Pipe

variable {α : Type*}

def empty : Pipe α := ⟨[], []⟩

def all (p : Pipe α) : List α := p.taken ++ p.inFlight

def put (p : Pipe α) (xs : List α) : Pipe α := ⟨p.taken, p.inFlight ++ xs⟩

/-- The reader takes `xs`, which must come next. -/
def take [DecidableEq α] (p : Pipe α) (xs : List α) : Option (Pipe α) :=
  if xs <+: p.inFlight then some ⟨p.taken ++ xs, p.inFlight.drop xs.length⟩ else none

@[simp] lemma all_empty : (empty : Pipe α).all = [] := rfl

@[simp] lemma put_all (p : Pipe α) (xs : List α) : (p.put xs).all = p.all ++ xs := by
  simp [all, put]

@[simp] lemma put_taken (p : Pipe α) (xs : List α) : (p.put xs).taken = p.taken := rfl

@[simp] lemma put_nil (p : Pipe α) : p.put [] = p := by
  simp [put]

lemma taken_prefix (p : Pipe α) : p.taken <+: p.all := List.prefix_append _ _

lemma take_eq [DecidableEq α] {p q : Pipe α} {xs : List α} (h : p.take xs = some q) :
    q.taken = p.taken ++ xs ∧ q.all = p.all := by
  unfold take at h
  split_ifs at h with hp
  obtain rfl := Option.some.inj h
  refine ⟨rfl, ?_⟩
  obtain ⟨rest, hrest⟩ := hp
  rw [all, all, ← hrest, List.drop_left, List.append_assoc]

@[simp] lemma take_nil [DecidableEq α] (p : Pipe α) : p.take [] = some p := by
  simp [take]

end Pipe

end Tzrpc
