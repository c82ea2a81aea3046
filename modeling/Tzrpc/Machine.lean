import Mathlib.Data.List.Induction
import Mathlib.Tactic.Common

/-!
# Event driven machines

A machine is a start state and a partial function of the state and an event: all
nondeterminism is in the events, so a run is computed from its list of events. The
invariant rules below are stated for whole runs, and for runs whose steps all meet a
side condition.
-/
namespace Tzrpc

structure Machine (σ ε : Type*) where
  start : σ
  next : σ → ε → Option σ

namespace Machine

variable {σ ε : Type*} (M : Machine σ ε)

def exec : σ → List ε → Option σ
  | s, [] => some s
  | s, e :: es => (M.next s e).bind fun t => exec t es

def run (es : List ε) : Option σ := M.exec M.start es

/-- The run over `es` passes through `s`. -/
def Visits (es : List ε) (s : σ) : Prop := ∃ pre, pre <+: es ∧ M.run pre = some s

/-- The run over `es` takes the step from `s` to `t` on event `e`. -/
def Takes (es : List ε) (s : σ) (e : ε) (t : σ) : Prop :=
  ∃ pre, pre ++ [e] <+: es ∧ M.run pre = some s ∧ M.next s e = some t

def Reachable (s : σ) : Prop := ∃ es, M.run es = some s

/-- Events of kind `K` alone lead to `s` from a state the run over `es` passes through. -/
def VisitsBy (K : ε → Prop) (es : List ε) (s : σ) : Prop :=
  ∃ u more, M.Visits es u ∧ (∀ e ∈ more, K e) ∧ M.exec u more = some s

@[simp] lemma exec_nil (s : σ) : M.exec s [] = some s := rfl

@[simp] lemma exec_cons (s : σ) (e : ε) (es : List ε) :
    M.exec s (e :: es) = (M.next s e).bind fun t => M.exec t es := rfl

@[simp] lemma run_nil : M.run [] = some M.start := rfl

lemma exec_append (s : σ) (es fs : List ε) :
    M.exec s (es ++ fs) = (M.exec s es).bind fun t => M.exec t fs := by
  induction es generalizing s with
  | nil => rfl
  | cons e es ih =>
    simp only [List.cons_append, exec_cons]
    cases M.next s e with
    | none => rfl
    | some t => exact ih t

lemma run_append (es fs : List ε) :
    M.run (es ++ fs) = (M.run es).bind fun t => M.exec t fs := M.exec_append _ es fs

lemma run_snoc (es : List ε) (e : ε) :
    M.run (es ++ [e]) = (M.run es).bind fun s => M.next s e := by
  rw [run_append]
  cases M.run es with
  | none => rfl
  | some s => simp

variable {M}

lemma run_snoc_some {es : List ε} {e : ε} {t : σ} (h : M.run (es ++ [e]) = some t) :
    ∃ s, M.run es = some s ∧ M.next s e = some t := by
  rw [run_snoc] at h
  exact Option.bind_eq_some_iff.mp h

lemma visits_self {es : List ε} {s : σ} (h : M.run es = some s) : M.Visits es s :=
  ⟨es, List.prefix_refl es, h⟩

lemma Visits.mono {es fs : List ε} {s : σ} (h : M.Visits es s) (hp : es <+: fs) :
    M.Visits fs s := by
  obtain ⟨pre, hpre, hrun⟩ := h
  exact ⟨pre, hpre.trans hp, hrun⟩

lemma Takes.mono {es fs : List ε} {s t : σ} {e : ε} (h : M.Takes es s e t)
    (hp : es <+: fs) : M.Takes fs s e t := by
  obtain ⟨pre, hpre, hrun, hn⟩ := h
  exact ⟨pre, hpre.trans hp, hrun, hn⟩

lemma Takes.visits {es : List ε} {s t : σ} {e : ε} (h : M.Takes es s e t) :
    M.Visits es s := by
  obtain ⟨pre, hpre, hrun, _⟩ := h
  exact ⟨pre, (List.prefix_append pre [e]).trans hpre, hrun⟩

lemma Takes.visits_next {es : List ε} {s t : σ} {e : ε} (h : M.Takes es s e t) :
    M.Visits es t := by
  obtain ⟨pre, hpre, hrun, hn⟩ := h
  exact ⟨pre ++ [e], hpre, by rw [run_snoc, hrun]; exact hn⟩

lemma Takes.mem {es : List ε} {s t : σ} {e : ε} (h : M.Takes es s e t) : e ∈ es := by
  obtain ⟨pre, hpre, -, -⟩ := h
  exact hpre.subset (by simp)

lemma takes_last {es : List ε} {s t : σ} {e : ε} (hs : M.run es = some s)
    (hn : M.next s e = some t) : M.Takes (es ++ [e]) s e t :=
  ⟨es, List.prefix_refl _, hs, hn⟩

lemma Visits.reachable {es : List ε} {s : σ} (h : M.Visits es s) : M.Reachable s := by
  obtain ⟨pre, _, hrun⟩ := h
  exact ⟨pre, hrun⟩

/-- The same machine, started in another state. -/
def resume (M : Machine σ ε) (s : σ) : Machine σ ε := ⟨s, M.next⟩

@[simp] lemma resume_exec (M : Machine σ ε) (u s : σ) (es : List ε) :
    (M.resume u).exec s es = M.exec s es := by
  induction es generalizing s with
  | nil => rfl
  | cons e es ih =>
    simp only [exec_cons, ih]
    rfl

lemma Takes.of_resume {pre mid : List ε} {u s t : σ} {e : ε} (hu : M.run pre = some u)
    (h : (M.resume u).Takes mid s e t) : M.Takes (pre ++ mid) s e t := by
  obtain ⟨ini, hini, hrun, hn⟩ := h
  refine ⟨pre ++ ini, ?_, ?_, hn⟩
  · rw [List.append_assoc]
    exact List.prefix_append_right_inj pre |>.mpr hini
  · rw [run_append, hu]
    exact (M.resume_exec u u ini).symm.trans hrun

def trace (M : Machine σ ε) : σ → List ε → List (σ × ε × σ)
  | _, [] => []
  | s, e :: es =>
    match M.next s e with
    | none => []
    | some t => (s, e, t) :: trace M t es

lemma trace_append {u v : σ} {es fs : List ε} (h : M.exec u es = some v) :
    M.trace u (es ++ fs) = M.trace u es ++ M.trace v fs := by
  induction es generalizing u with
  | nil =>
    obtain rfl := Option.some.inj h
    rfl
  | cons e es ih =>
    obtain ⟨w, hw, h⟩ := Option.bind_eq_some_iff.mp h
    simp only [List.cons_append, trace, hw, ih h]

lemma mem_trace_of_exec {u s t : σ} {e : ε} {pre es : List ε} (hpre : pre ++ [e] <+: es)
    (hs : M.exec u pre = some s) (hn : M.next s e = some t) : (s, e, t) ∈ M.trace u es := by
  induction pre generalizing u es with
  | nil =>
    obtain rfl := Option.some.inj hs
    obtain ⟨rest, rfl⟩ := hpre
    simp [trace, hn]
  | cons d pre ih =>
    obtain ⟨rest, rfl⟩ := hpre
    obtain ⟨v, hv, hs⟩ := Option.bind_eq_some_iff.mp hs
    simp only [List.cons_append, trace, hv]
    exact List.mem_cons_of_mem _ (ih (List.prefix_append _ _) hs)

lemma Takes.mem_trace {es : List ε} {s t : σ} {e : ε} (h : M.Takes es s e t) :
    (s, e, t) ∈ M.trace M.start es := by
  obtain ⟨pre, hpre, hs, hn⟩ := h
  exact mem_trace_of_exec hpre hs hn

lemma Visits.eq_start_or_takes {es : List ε} {t : σ} (h : M.Visits es t) :
    t = M.start ∨ ∃ s e, M.Takes es s e t := by
  obtain ⟨pre, hpre, hrun⟩ := h
  rcases List.eq_nil_or_concat pre with rfl | ⟨ini, e, rfl⟩
  · exact Or.inl (Option.some.inj hrun).symm
  · rw [List.concat_eq_append] at hpre hrun
    obtain ⟨s, hs, hn⟩ := run_snoc_some hrun
    exact Or.inr ⟨s, e, ini, hpre, hs, hn⟩

lemma Visits.of_trace {P : σ → Prop} {es : List ε} {s : σ} (h : M.Visits es s)
    (start : P M.start) (steps : ∀ x ∈ M.trace M.start es, P x.2.2) : P s := by
  rcases h.eq_start_or_takes with rfl | ⟨r, e, ht⟩
  · exact start
  · exact steps _ ht.mem_trace

/-- Run induction for runs whose steps all satisfy `C`; the property may speak of the
events that led to the state. -/
theorem run_induction {C : σ → ε → Prop} {P : List ε → σ → Prop} (start : P [] M.start)
    (step : ∀ es s e t, M.run es = some s → P es s → C s e → M.next s e = some t →
      P (es ++ [e]) t)
    {es : List ε} {s : σ} (hrun : M.run es = some s)
    (cond : ∀ s e t, M.Takes es s e t → C s e) : P es s := by
  induction es using List.reverseRecOn generalizing s with
  | nil =>
    obtain rfl := Option.some.inj hrun
    exact start
  | append_singleton es e ih =>
    obtain ⟨r, hr, hn⟩ := run_snoc_some hrun
    have hp : P es r := ih hr fun s e t h => cond s e t (h.mono (List.prefix_append es _))
    exact step es r e s hr hp (cond r e s (takes_last hr hn)) hn

/-- An invariant of the steps that satisfy `C` holds in every state a run of such steps visits. -/
theorem visits_of_inductive {C : σ → ε → Prop} {I : σ → Prop} (start : I M.start)
    (step : ∀ s e t, I s → C s e → M.next s e = some t → I t)
    {es : List ε} (cond : ∀ s e t, M.Takes es s e t → C s e) {s : σ}
    (hs : M.Visits es s) : I s := by
  obtain ⟨pre, hpre, hrun⟩ := hs
  exact run_induction (P := fun _ s => I s) start
    (fun _ s e t _ hi hc hn => step s e t hi hc hn) hrun
    fun s e t h => cond s e t (h.mono hpre)

lemma exec_of_inductive {K : ε → Prop} {I : σ → Prop}
    (step : ∀ s e t, I s → K e → M.next s e = some t → I t) {es : List ε} (hk : ∀ e ∈ es, K e)
    {s t : σ} (hs : I s) (h : M.exec s es = some t) : I t := by
  induction es generalizing s with
  | nil =>
    obtain rfl := Option.some.inj h
    exact hs
  | cons e es ih =>
    obtain ⟨u, hu, hrest⟩ := Option.bind_eq_some_iff.mp h
    exact ih (fun e' he => hk e' (List.mem_cons_of_mem _ he))
      (step s e u hs (hk e List.mem_cons_self) hu) hrest

lemma exec_length_le {K : ε → Prop} {I : σ → Prop} {measure : σ → ℕ}
    (step : ∀ s e t, I s → K e → M.next s e = some t → I t ∧ measure t < measure s)
    {es : List ε} (hk : ∀ e ∈ es, K e) {s t : σ} (hs : I s) (h : M.exec s es = some t) :
    es.length + measure t ≤ measure s := by
  induction es generalizing s with
  | nil =>
    obtain rfl := Option.some.inj h
    simp
  | cons e es ih =>
    obtain ⟨u, hu, hrest⟩ := Option.bind_eq_some_iff.mp h
    obtain ⟨hi, hlt⟩ := step s e u hs (hk e List.mem_cons_self) hu
    have hle := ih (fun e' he => hk e' (List.mem_cons_of_mem _ he)) hi hrest
    rw [List.length_cons]
    omega

lemma exec_replicate {e : ε} {I : ℕ → σ → Prop}
    (step : ∀ k s, I k s → ∃ t, M.next s e = some t ∧ I (k + 1) t) {s : σ} (hs : I 0 s) (n : ℕ) :
    ∃ t, M.exec s (List.replicate n e) = some t ∧ I n t := by
  induction n with
  | zero => exact ⟨s, rfl, hs⟩
  | succ n ih =>
    obtain ⟨t, ht, hi⟩ := ih
    obtain ⟨u, hu, hi'⟩ := step n t hi
    refine ⟨u, ?_, hi'⟩
    rw [List.replicate_succ', exec_append, ht]
    simp [hu]

lemma Visits.visitsBy {K : ε → Prop} {es : List ε} {s : σ} (h : M.Visits es s) :
    M.VisitsBy K es s := ⟨s, [], h, by simp, rfl⟩

lemma VisitsBy.next {K : ε → Prop} {es : List ε} {s t : σ} {e : ε} (h : M.VisitsBy K es s)
    (he : K e) (hn : M.next s e = some t) : M.VisitsBy K es t := by
  obtain ⟨u, more, hu, hk, hs⟩ := h
  refine ⟨u, more ++ [e], hu, ?_, by simp [exec_append, hs, hn]⟩
  intro e' he'
  rcases List.mem_append.mp he' with he' | he'
  · exact hk e' he'
  · exact List.mem_singleton.mp he' ▸ he

lemma visitsBy_of_inductive {K : ε → Prop} {I : σ → Prop} {es : List ε}
    (visited : ∀ s, M.Visits es s → I s)
    (step : ∀ s e t, I s → K e → M.next s e = some t → I t) {s : σ}
    (hs : M.VisitsBy K es s) : I s := by
  obtain ⟨u, more, hu, hk, h⟩ := hs
  exact exec_of_inductive step hk (visited u hu) h

/-- An inductive invariant holds in every reachable state. -/
theorem reachable_of_inductive {I : σ → Prop} (start : I M.start)
    (step : ∀ s e t, I s → M.next s e = some t → I t) {s : σ} (hs : M.Reachable s) : I s := by
  obtain ⟨es, hrun⟩ := hs
  exact visits_of_inductive (C := fun _ _ => True) start
    (fun s e t hi _ hn => step s e t hi hn) (fun _ _ _ _ => trivial) (visits_self hrun)

end Machine

end Tzrpc
