import Mathlib.Data.List.Basic
import Mathlib.Tactic.Common

/-!
# Length prefixed framing of a stream

A stream is read as heads of one fixed length, each announcing the length of the body
behind it. `parse` cuts a finite stream into its complete frames and says what the stream
ends in; `parse_append` is the law an incremental reader relies on.
-/
namespace Tzrpc

structure Framing (α : Type*) where
  headLen : ℕ
  headLen_pos : 0 < headLen
  /-- The announced body length, or `none` when the head is to be refused. -/
  bodyLen : List α → Option ℕ

structure Frame (α : Type*) where
  head : List α
  body : List α
  deriving DecidableEq, Repr

/-- What is left of a stream behind its last complete frame. -/
inductive Ending (α : Type*)
  | head (rest : List α)
  | body (hd rest : List α)
  | malformed
  deriving DecidableEq, Repr

def Frame.elems {α : Type*} (f : Frame α) : List α := f.head ++ f.body

/-- The elements an incremental reader still holds, unless it has given up. -/
def Ending.pending {α : Type*} : Ending α → Option (List α)
  | .head rest => some rest
  | .body hd rest => some (hd ++ rest)
  | .malformed => none

namespace Framing

variable {α : Type*} (F : Framing α)

def parse (s : List α) : List (Frame α) × Ending α :=
  if s.length < F.headLen then ([], .head s)
  else
    match F.bodyLen (s.take F.headLen) with
    | none => ([], .malformed)
    | some n =>
      if (s.drop F.headLen).length < n then ([], .body (s.take F.headLen) (s.drop F.headLen))
      else
        let tail := parse ((s.drop F.headLen).drop n)
        (⟨s.take F.headLen, (s.drop F.headLen).take n⟩ :: tail.1, tail.2)
termination_by s.length
decreasing_by
  have hp := F.headLen_pos
  simp only [List.length_drop]
  omega

def bodies (s : List α) : List (List α) := (F.parse s).1.map Frame.body

def ending (s : List α) : Ending α := (F.parse s).2

/-- A frame whose head announces exactly its body. -/
def Accepts (f : Frame α) : Prop :=
  f.head.length = F.headLen ∧ F.bodyLen f.head = some f.body.length

variable {F}

lemma parse_short {s : List α} (h : s.length < F.headLen) : F.parse s = ([], .head s) := by
  rw [parse, if_pos h]

lemma parse_nil : F.parse [] = ([], .head []) := parse_short F.headLen_pos

lemma parse_malformed {hd t : List α} (hl : hd.length = F.headLen) (hb : F.bodyLen hd = none) :
    F.parse (hd ++ t) = ([], .malformed) := by
  rw [parse, if_neg (by simp [hl])]
  simp [← hl, hb]

lemma parse_cut {hd t : List α} {n : ℕ} (hl : hd.length = F.headLen)
    (hb : F.bodyLen hd = some n) (ht : t.length < n) :
    F.parse (hd ++ t) = ([], .body hd t) := by
  rw [parse, if_neg (by simp [hl])]
  simp [← hl, hb, ht]

lemma parse_frame {f : Frame α} (hf : F.Accepts f) (t : List α) :
    F.parse (f.elems ++ t) = (f :: (F.parse t).1, (F.parse t).2) := by
  obtain ⟨hl, hb⟩ := hf
  rw [parse, Frame.elems, List.append_assoc, if_neg (by simp [hl])]
  simp [← hl, hb]

/-- Induction along the parse: a short stream, a refused head, a partial body, or a
complete frame in front of a stream for which the property already holds. -/
theorem parse_induction {P : List α → Prop}
    (short : ∀ s, s.length < F.headLen → P s)
    (malformed : ∀ hd t, hd.length = F.headLen → F.bodyLen hd = none → P (hd ++ t))
    (cut : ∀ hd t n, hd.length = F.headLen → F.bodyLen hd = some n → t.length < n → P (hd ++ t))
    (frame : ∀ f t, F.Accepts f → P t → P (f.elems ++ t)) (s : List α) : P s := by
  induction hn : s.length using Nat.strongRecOn generalizing s with
  | ind n ih =>
    subst hn
    by_cases hs : s.length < F.headLen
    · exact short s hs
    · have hsplit : s = s.take F.headLen ++ s.drop F.headLen := (List.take_append_drop _ s).symm
      have hl : (s.take F.headLen).length = F.headLen := by
        rw [List.length_take]
        omega
      cases hb : F.bodyLen (s.take F.headLen) with
      | none => exact hsplit ▸ malformed _ (s.drop F.headLen) hl hb
      | some m =>
        by_cases hm : (s.drop F.headLen).length < m
        · exact hsplit ▸ cut _ _ m hl hb hm
        · have hp := F.headLen_pos
          have hf : F.Accepts ⟨s.take F.headLen, (s.drop F.headLen).take m⟩ := by
            refine ⟨hl, ?_⟩
            rw [hb, List.length_take]
            congr 1
            omega
          have hrest : P ((s.drop F.headLen).drop m) := by
            apply ih _ _ _ rfl
            simp only [List.length_drop]
            omega
          have hwhole := frame _ _ hf hrest
          rwa [Frame.elems, List.append_assoc, List.take_append_drop,
            List.take_append_drop] at hwhole

theorem ending_cases (s : List α) :
    (∃ r, F.ending s = .head r ∧ r.length < F.headLen) ∨
    (∃ hd r n, F.ending s = .body hd r ∧ hd.length = F.headLen ∧ F.bodyLen hd = some n ∧
      r.length < n) ∨ F.ending s = .malformed := by
  induction s using parse_induction (F := F) with
  | short s hs => exact Or.inl ⟨s, by rw [ending, parse_short hs], hs⟩
  | malformed hd t hl hb => exact Or.inr (Or.inr (by rw [ending, parse_malformed hl hb]))
  | cut hd t n hl hb ht =>
    exact Or.inr (Or.inl ⟨hd, t, n, by rw [ending, parse_cut hl hb ht], hl, hb, ht⟩)
  | frame f t hf ih => simpa only [ending, parse_frame hf] using ih

/-- A malformed ending is final; any other parse resumes from its pending elements. -/
theorem parse_append (s t : List α) :
    F.parse (s ++ t) =
      match (F.ending s).pending with
      | none => F.parse s
      | some r => ((F.parse s).1 ++ (F.parse (r ++ t)).1, (F.parse (r ++ t)).2) := by
  induction s using parse_induction (F := F) with
  | short s hs => simp [ending, parse_short hs, Ending.pending]
  | malformed hd u hl hb =>
    simp [ending, parse_malformed hl hb, Ending.pending, List.append_assoc]
  | cut hd u n hl hb hu =>
    simp [ending, parse_cut hl hb hu, Ending.pending]
  | frame f u hf ih =>
    rw [List.append_assoc, parse_frame hf, ih]
    have he : F.ending (f.elems ++ u) = F.ending u := by simp only [ending, parse_frame hf]
    rw [he, parse_frame hf]
    cases (F.ending u).pending with
    | none => rfl
    | some r => rfl

lemma bodies_append {s t r : List α} (hr : (F.ending s).pending = some r) :
    F.bodies (s ++ t) = F.bodies s ++ F.bodies (r ++ t) := by
  simp [bodies, parse_append s t, hr]

lemma ending_append {s t r : List α} (hr : (F.ending s).pending = some r) :
    F.ending (s ++ t) = F.ending (r ++ t) := by
  simp [ending, parse_append s t, show (F.parse s).2.pending = some r from hr]

theorem bodies_prefix {s t : List α} (h : s <+: t) : F.bodies s <+: F.bodies t := by
  obtain ⟨u, rfl⟩ := h
  simp only [bodies, parse_append s u]
  cases (F.ending s).pending with
  | none => exact List.prefix_refl _
  | some r => simp only [List.map_append]; exact List.prefix_append _ _

lemma ending_malformed_append {s t : List α} (h : F.ending s = .malformed) :
    F.parse (s ++ t) = F.parse s := by
  rw [parse_append, h]
  rfl

/-- A frame whose head announces its own body, if the head is accepted at all. -/
def Announces (F : Framing α) (f : Frame α) : Prop :=
  f.head.length = F.headLen ∧ ∀ n, F.bodyLen f.head = some n → n = f.body.length

lemma head_of_prefix {fs : List (Frame α)} (hf : ∀ f ∈ fs, F.Announces f) {hd t : List α}
    (hl : hd.length = F.headLen) (hs : hd ++ t <+: (fs.map Frame.elems).flatten) :
    ∃ f gs, fs = f :: gs ∧ f.head = hd ∧ t <+: f.body ++ (gs.map Frame.elems).flatten := by
  cases fs with
  | nil =>
    have hp := F.headLen_pos
    have hnil := List.append_eq_nil_iff.mp (List.prefix_nil.mp hs)
    simp [hnil.1] at hl
    omega
  | cons f gs =>
    obtain ⟨u, hu⟩ := hs
    simp only [List.map_cons, List.flatten_cons, Frame.elems, List.append_assoc] at hu
    obtain ⟨hhead, hrest⟩ := List.append_inj hu (hl.trans (hf f (by simp)).1.symm)
    exact ⟨f, gs, rfl, hhead.symm, u, hrest⟩

/-- From any first part of a stream of frames a reader gets their first bodies, and what it
then waits for is the body of one of them. -/
theorem parse_of_prefix {fs : List (Frame α)} (hf : ∀ f ∈ fs, F.Announces f) {s : List α}
    (hs : s <+: (fs.map Frame.elems).flatten) :
    F.bodies s <+: fs.map Frame.body ∧
      ∀ hd r, F.ending s = .body hd r → ∃ f ∈ fs, f.head = hd := by
  induction s using parse_induction (F := F) generalizing fs with
  | short s hl => simp [bodies, ending, parse_short hl]
  | malformed hd t hl hb => simp [bodies, ending, parse_malformed hl hb]
  | cut hd t n hl hb ht =>
    obtain ⟨f, fs, rfl, rfl, -⟩ := head_of_prefix hf hl hs
    simp [bodies, ending, parse_cut hl hb ht]
  | frame g t hg ih =>
    rw [Frame.elems, List.append_assoc] at hs
    obtain ⟨f, fs, rfl, hhead, hrest⟩ := head_of_prefix hf hg.1 hs
    have hlen := (hf f (by simp)).2 _ (hhead ▸ hg.2)
    obtain ⟨u, hu⟩ := hrest
    rw [List.append_assoc] at hu
    obtain ⟨hbody, hu⟩ := List.append_inj hu hlen
    obtain ⟨hbodies, hending⟩ := ih (fun f' hf' => hf f' (List.mem_cons_of_mem f hf')) ⟨u, hu⟩
    simp only [bodies, ending, parse_frame hg, List.map_cons, hbody, List.cons_prefix_cons] at *
    refine ⟨⟨trivial, hbodies⟩, fun hd r he => ?_⟩
    obtain ⟨f', hf', rfl⟩ := hending hd r he
    exact ⟨f', List.mem_cons_of_mem f hf', rfl⟩

theorem bodies_of_frames {fs : List (Frame α)} (hf : ∀ f ∈ fs, F.Announces f)
    (hm : F.ending (fs.map Frame.elems).flatten ≠ .malformed) :
    F.bodies (fs.map Frame.elems).flatten = fs.map Frame.body := by
  induction fs with
  | nil => simp [bodies, parse_nil]
  | cons f fs ih =>
    obtain ⟨hl, hbody⟩ := hf f List.mem_cons_self
    rw [List.map_cons, List.flatten_cons] at hm ⊢
    cases hb : F.bodyLen f.head with
    | none =>
      refine absurd ?_ hm
      rw [Frame.elems, List.append_assoc, ending, parse_malformed hl hb]
    | some n =>
      have hf' : F.Accepts f := ⟨hl, hbody n hb ▸ hb⟩
      rw [ending, parse_frame hf'] at hm
      rw [bodies, parse_frame hf', List.map_cons, List.map_cons]
      exact congrArg _ (ih (fun g hg => hf g (List.mem_cons_of_mem f hg)) hm)

end Framing

def Framing.need {α : Type*} (F : Framing α) : Ending α → ℕ
  | .head r => F.headLen - r.length
  | .body hd r => (F.bodyLen hd).getD 0 - r.length
  | .malformed => 0

namespace Framing

variable {α : Type*} {F : Framing α}

/-- A tail too short for the reader's need completes no frame and stays pending. -/
theorem parse_append_of_lt_need (s : List α) {t : List α} (ht : t.length < F.need (F.ending s)) :
    (F.parse (s ++ t)).1 = (F.parse s).1 ∧
      (F.ending (s ++ t)).pending = (F.ending s).pending.map (· ++ t) ∧
      (F.ending (s ++ t) ≠ .malformed) := by
  rcases ending_cases (F := F) s with ⟨r, he, hr⟩ | ⟨hd, r, n, he, hl, hb, hr⟩ | he
  · simp only [he, need] at ht
    have hrt : (r ++ t).length < F.headLen := by simp only [List.length_append]; omega
    have hpend : (F.ending s).pending = some r := by rw [he]; rfl
    refine ⟨?_, ?_, ?_⟩
    · simp [parse_append s t, hpend, parse_short hrt]
    · rw [ending_append hpend, hpend, ending, parse_short hrt]
      rfl
    · rw [ending_append hpend, ending, parse_short hrt]
      simp
  · simp only [he, need, hb, Option.getD_some] at ht
    have hrt : (r ++ t).length < n := by simp only [List.length_append]; omega
    have hpend : (F.ending s).pending = some (hd ++ r) := by rw [he]; rfl
    refine ⟨?_, ?_, ?_⟩
    · simp [parse_append s t, hpend, List.append_assoc, parse_cut hl hb hrt]
    · rw [ending_append hpend, hpend, ending, List.append_assoc, parse_cut hl hb hrt]
      simp [Ending.pending]
    · rw [ending_append hpend, ending, List.append_assoc, parse_cut hl hb hrt]
      simp
  · simp [he, need] at ht

end Framing

end Tzrpc
