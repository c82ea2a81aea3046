import Tzrpc.ExecutorAnswers
import Tzrpc.ListUpdate

/-!
# Executors come to rest

Whether the workers of an executor can answer every request it holds, without a thread being
added or resumed: a worker that neither terminates nor is suspended goes on for ever, any
other one takes at most the request it is already about to pop.
-/
namespace Tzrpc

/-- The worker comes back for another request. -/
def Worker.serves (w : Worker) : Bool :=
  decide (w.pc ≠ .dead ∧ w.status ≠ .kTerminating ∧ w.status ≠ .kSuspend)

/-- The worker is past its checks and in `POP`. -/
def Worker.popping (w : Worker) : Bool := decide (w.pc = .pop)

namespace Executor

variable {pb : ProtoBuf} {ex₀ ex : Executor} {i : ℕ} {w v : Worker}

def workers (pb : ProtoBuf) (ex : Executor) : Machine Executor Event :=
  ⟨ex, fun ex e => if e.worker.isSome then (ex.step pb e).map Prod.fst else none⟩

/-- Some worker serves, or each queued request has a worker in `POP`. -/
def Ready (ex : Executor) : Prop :=
  (∃ w ∈ ex.threads, w.serves) ∨ ex.rpcQueue.length ≤ ex.threads.countP Worker.popping

instance (ex : Executor) : Decidable ex.Ready := inferInstanceAs (Decidable (_ ∨ _))

/-- No worker serves, and `n` of the requests have none in `POP`. -/
structure Abandoned (n : ℕ) (ex : Executor) : Prop where
  none : ∀ w ∈ ex.threads, w.serves = false
  short : ex.threads.countP Worker.popping + n ≤ ex.rpcQueue.length

lemma Abandoned.setThread {n : ℕ} (h : Abandoned n ex) (hw : ex.threads[i]? = some w)
    (hs : v.serves = false) (hp : v.popping → w.popping) : Abandoned n (ex.setThread i v) := by
  refine ⟨fun u hu => ?_, ?_⟩
  · rcases List.mem_or_eq_of_mem_set hu with hu | rfl
    · exact h.none u hu
    · exact hs
  · have hcount := @countP_set_add _ Worker.popping _ _ _ v hw
    have hshort := h.short
    simp only [Executor.setThread]
    split_ifs at hcount with hwp hvp hvp
    · omega
    · omega
    · exact absurd (hp hvp) hwp
    · omega

lemma serves_eq_false (h : w.serves = false) (hpc : w.pc ≠ .dead) (pc : WorkerPc) :
    ({ w with pc := pc } : Worker).serves = false := by
  simp only [Worker.serves, decide_eq_false_iff_not] at h ⊢
  exact fun hs => h ⟨hpc, hs.2⟩

lemma Abandoned.step {n : ℕ} {e : Event} {r : Executor × List AnswerCall} (h : Abandoned n ex)
    (he : e.worker.isSome) (hr : ex.step pb e = some r) : Abandoned n r.1 := by
  cases e with
  | addThread => cases he
  | setStatus i status => cases he
  | check i =>
    obtain ⟨w, hw, hr⟩ := Option.bind_eq_some_iff.mp hr
    have hnone := h.none w (List.mem_of_getElem? hw)
    split_ifs at hr with hpc hterm hsusp
    · obtain rfl := Option.some.inj hr
      exact h.setThread hw rfl (by simp [Worker.popping])
    · obtain rfl := Option.some.inj hr
      exact h
    · simp [Worker.serves, hpc, hterm, hsusp] at hnone
  | pop i j =>
    obtain ⟨w, hw, hr⟩ := Option.bind_eq_some_iff.mp hr
    split_ifs at hr with hpc
    obtain ⟨inst, hj, rfl⟩ := Option.map_eq_some_iff.mp hr
    have hnone := h.none w (List.mem_of_getElem? hw)
    have hserves := serves_eq_false hnone (by simp [hpc]) (.handling inst)
    have hcount := @countP_set_add _ Worker.popping _ _ _ { w with pc := .handling inst } hw
    have hlen := List.length_eraseIdx_of_lt (List.getElem?_eq_some_iff.mp hj).1
    refine ⟨(h.setThread hw hserves (by simp [Worker.popping])).none, ?_⟩
    have hshort := h.short
    simp only [Worker.popping, hpc, decide_true, if_true, reduceCtorEq, decide_false,
      Bool.false_eq_true, if_false] at hcount
    simp only [Executor.setThread, hlen]
    omega
  | popFail i =>
    obtain ⟨w, hw, hr⟩ := Option.bind_eq_some_iff.mp hr
    split_ifs at hr with hpc
    obtain rfl := Option.some.inj hr
    have hnone := h.none w (List.mem_of_getElem? hw)
    exact h.setThread hw (serves_eq_false hnone (by simp [hpc]) .top) (by simp [Worker.popping])
  | handle i =>
    obtain ⟨w, hw, hr⟩ := Option.bind_eq_some_iff.mp hr
    cases hpc : w.pc with
    | handling inst =>
      simp only [hpc] at hr
      obtain rfl := Option.some.inj hr
      have hnone := h.none w (List.mem_of_getElem? hw)
      exact h.setThread hw (serves_eq_false hnone (by simp [hpc]) .top) (by simp [Worker.popping])
    | top => simp [hpc] at hr
    | pop => simp [hpc] at hr
    | dead => simp [hpc] at hr

lemma serves_setThread (hw : ex.threads[i]? = some w) (hv : w.serves → v.serves)
    (h : ∃ u ∈ ex.threads, u.serves) : ∃ u ∈ (ex.setThread i v).threads, u.serves := by
  obtain ⟨u, hu, hs⟩ := h
  obtain ⟨j, hj⟩ := List.getElem?_of_mem hu
  by_cases hij : i = j
  · subst hij
    obtain rfl := Option.some.inj (hw.symm.trans hj)
    exact ⟨v, List.mem_set (List.getElem?_eq_some_iff.mp hw).1 v, hv hs⟩
  · exact ⟨u, List.mem_of_getElem? (i := j) (by simp [setThread, List.getElem?_set_ne hij, hj]), hs⟩

lemma Ready.handle {inst : RpcInstance} (h : ex.Ready) (hw : ex.threads[i]? = some w)
    (hpc : w.pc = .handling inst) :
    ∃ t, (workers pb ex₀).next ex (.handle i) = some t ∧ t.Ready ∧
      t.held.length + 1 = ex.held.length := by
  refine ⟨ex.setThread i { w with pc := .top }, by simp [workers, Event.worker, step, hw, hpc],
    ?_, ?_⟩
  · have hcount := @countP_set_add _ Worker.popping _ _ _ { w with pc := .top } hw
    refine h.imp (serves_setThread hw ?_) fun hle => ?_
    · simp only [Worker.serves, decide_eq_true_eq]
      exact fun hs => ⟨by simp, hs.2⟩
    · simp only [Worker.popping, hpc, reduceCtorEq, decide_false, Bool.false_eq_true, if_false,
        add_zero] at hcount
      exact hcount ▸ hle
  · have hp := @setThread_held_perm ex i w { w with pc := .top } [inst] [] hw
      (by simp [Worker.held, hpc])
    simpa using hp.length_eq

lemma Ready.pop (h : ex.Ready) (hw : ex.threads[i]? = some w) (hpc : w.pc = .pop)
    (hne : ex.rpcQueue ≠ []) : ∃ t inst, (workers pb ex₀).next ex (.pop i 0) = some t ∧ t.Ready ∧
      t.held.length = ex.held.length ∧
      t.threads[i]? = some { w with pc := .handling inst } := by
  obtain ⟨inst, rest, hq⟩ := List.exists_cons_of_ne_nil hne
  refine ⟨{ ex with rpcQueue := rest }.setThread i { w with pc := .handling inst }, inst,
    by simp [workers, Event.worker, step, hw, hpc, hq], ?_, ?_, ?_⟩
  · have hcount := @countP_set_add _ Worker.popping _ _ _ { w with pc := .handling inst } hw
    refine h.imp (serves_setThread hw ?_) fun hle => ?_
    · simp only [Worker.serves, decide_eq_true_eq]
      exact fun hs => ⟨by simp, hs.2⟩
    · simp only [Worker.popping, hpc, decide_true, if_true, reduceCtorEq, decide_false,
        Bool.false_eq_true, if_false] at hcount
      rw [hq, List.length_cons] at hle
      have hroom : rest.length + 1 ≤
          (ex.threads.set i { w with pc := .handling inst }).countP Worker.popping + 1 :=
        hcount ▸ hle
      exact Nat.le_of_succ_le_succ hroom
  · have hp := @pop_held_perm ex i 0 w { w with pc := .handling inst } inst hw (by simp [hq])
      (by simp [Worker.held, hpc]) rfl
    simpa [hq] using hp.length_eq
  · exact List.getElem?_set_self (List.getElem?_eq_some_iff.mp hw).1

lemma check_ready (hw : ex.threads[i]? = some w) (hs : w.serves)
    (hpc : w.pc = .top) : ∃ t, (workers pb ex₀).next ex (.check i) = some t ∧ t.Ready ∧
      t.held.length = ex.held.length ∧ t.rpcQueue = ex.rpcQueue ∧
      t.threads[i]? = some { w with pc := .pop } := by
  have hserves := of_decide_eq_true hs
  refine ⟨ex.setThread i { w with pc := .pop },
    by simp [workers, Event.worker, step, hw, hpc, hserves.2.1, hserves.2.2],
    Or.inl (serves_setThread hw ?_ ⟨w, List.mem_of_getElem? hw, hs⟩), ?_, rfl, ?_⟩
  · simp only [Worker.serves, decide_eq_true_eq]
    exact fun hs => ⟨by simp, hs.2⟩
  · exact (setThread_held_same hw (by simp [Worker.held, hpc])).length_eq
  · exact List.getElem?_set_self (List.getElem?_eq_some_iff.mp hw).1

lemma Ready.answers_one (h : ex.Ready) (hne : ex.held ≠ []) :
    ∃ es t, (workers pb ex₀).exec ex es = some t ∧ t.Ready ∧
      t.held.length < ex.held.length := by
  by_cases hh : ∃ (i : ℕ) (w : Worker) (inst : RpcInstance),
      ex.threads[i]? = some w ∧ w.pc = .handling inst
  · obtain ⟨i, w, inst, hw, hpc⟩ := hh
    obtain ⟨t, ht, hready, hlen⟩ := @Ready.handle pb ex₀ _ _ _ _ h hw hpc
    exact ⟨[.handle i], t, by simp [ht], hready, by omega⟩
  -- otherwise the requests are in the queue
  have hqueue : ex.rpcQueue ≠ [] := by
    intro hq
    refine hne ?_
    rw [held, hq, List.nil_append, List.flatMap_eq_nil_iff]
    intro w hw
    obtain ⟨i, hi⟩ := List.getElem?_of_mem hw
    unfold Worker.held
    split
    · exact absurd ⟨i, w, _, hi, ‹_›⟩ hh
    · rfl
  have hpop : ∀ {ex' : Executor} {i : ℕ} {w : Worker}, ex'.Ready → ex'.threads[i]? = some w →
      w.pc = .pop → ex'.rpcQueue ≠ [] → ∃ es t, (workers pb ex₀).exec ex' es = some t ∧
        t.Ready ∧ t.held.length < ex'.held.length := by
    intro ex' i w hready hw hpc hq
    obtain ⟨t, inst, ht, hready, hlen, hw'⟩ := @Ready.pop pb ex₀ _ _ _ hready hw hpc hq
    obtain ⟨u, hu, hready, hlen'⟩ := @Ready.handle pb ex₀ _ _ _ _ hready hw' rfl
    exact ⟨[.pop i 0, .handle i], u, by simp [ht, hu], hready, by omega⟩
  rcases id h with ⟨w, hw, hs⟩ | hle
  · obtain ⟨i, hi⟩ := List.getElem?_of_mem hw
    cases hpc : w.pc with
    | top =>
      obtain ⟨t, ht, hready, hlen, hq, hw'⟩ := @check_ready pb ex₀ _ _ _ hi hs hpc
      obtain ⟨es, u, hu, hready, hlen'⟩ := hpop hready hw' rfl (hq ▸ hqueue)
      exact ⟨.check i :: es, u, by rw [Machine.exec_cons, ht]; exact hu, hready, by omega⟩
    | pop => exact hpop h hi hpc hqueue
    | handling inst => exact absurd ⟨i, w, inst, hi, hpc⟩ hh
    | dead => exact absurd hpc (of_decide_eq_true hs).1
  · have hpos : 0 < ex.threads.countP Worker.popping :=
      (List.length_pos_of_ne_nil hqueue).trans_le hle
    obtain ⟨w, hw, hpc⟩ := List.countP_pos_iff.mp hpos
    obtain ⟨i, hi⟩ := List.getElem?_of_mem hw
    exact hpop h hi (of_decide_eq_true hpc) hqueue

theorem Ready.answers_all (h : ex.Ready) :
    ∃ es t, (workers pb ex₀).exec ex es = some t ∧ t.held = [] := by
  induction hn : ex.held.length using Nat.strong_induction_on generalizing ex with
  | _ n ih =>
    by_cases hne : ex.held = []
    · exact ⟨[], ex, rfl, hne⟩
    · obtain ⟨es, t, ht, hready, hlen⟩ := @Ready.answers_one pb ex₀ _ h hne
      obtain ⟨fs, u, hu, hheld⟩ := ih t.held.length (hn ▸ hlen) hready rfl
      refine ⟨es ++ fs, u, ?_, hheld⟩
      rw [Machine.exec_append, ht]
      exact hu

end Executor

namespace RpcServer

variable {pb : ProtoBuf} {table : List (UInt16 × ℕ)} {s t : RpcServer}

def Event.worker : Event → Bool
  | .frame _ _ => false
  | .executor _ e => e.worker.isSome

lemma Accounted.exec {es : List Event} (h : Accounted s)
    (hx : (machine pb table).exec s es = some t) : Accounted t :=
  Machine.exec_of_inductive (K := fun _ => True) (fun _ _ _ hi _ hn => hi.step hn)
    (fun _ _ => trivial) h hx

lemma exec_frames {es : List Event} (he : ∀ e ∈ es, e.worker)
    (hx : (machine pb table).exec s es = some t) : t.frames = s.frames := by
  refine Machine.exec_of_inductive (I := fun u => u.frames = s.frames) (fun u e v hu he hn => ?_)
    he rfl hx
  cases e with
  | frame conn payload => cases he
  | executor k e =>
    obtain ⟨ex, -, hn⟩ := Option.bind_eq_some_iff.mp hn
    obtain ⟨r, -, rfl⟩ := Option.map_eq_some_iff.mp hn
    exact hu

lemma Accounted.answered_iff (h : Accounted s) :
    (∀ f ∈ s.frames, (s.answersTo f).length = 1) ↔ s.held = [] := by
  have hids := h.ids_perm
  constructor
  · intro hall
    rw [List.eq_nil_iff_forall_not_mem]
    intro inst hinst
    have hheld := List.mem_map_of_mem (f := RpcInstance.id) hinst
    have hmem : inst.id ∈ s.frames.map RpcInstance.id := by
      rw [h.ids]
      exact hids.subset (List.mem_append_left _ hheld)
    obtain ⟨f, hf, hid⟩ := List.mem_map.mp hmem
    have hone := hall f hf
    rw [answersTo_length] at hone
    have hcount := hids.count_eq f.id
    rw [List.count_append, hone, ← h.ids,
      List.count_eq_one_of_mem h.nodup (List.mem_map_of_mem hf)] at hcount
    have hpos := List.count_pos_iff.mpr hheld
    rw [← hid] at hpos
    omega
  · intro hnil f hf
    have hcount := hids.count_eq f.id
    rw [hnil, List.map_nil, List.nil_append, ← h.ids,
      List.count_eq_one_of_mem h.nodup (List.mem_map_of_mem hf)] at hcount
    rw [answersTo_length, hcount]

lemma exec_executor {k : ℕ} {ex₀ ex u : Executor} {es : List Executor.Event}
    (hex : s.executors[k]? = some ex) (hx : (Executor.workers pb ex₀).exec ex es = some u) :
    ∃ t, (machine pb table).exec s (es.map (.executor k)) = some t ∧
      t.executors = s.executors.set k u ∧ ∀ e ∈ es.map (Event.executor k), e.worker := by
  induction es generalizing s ex with
  | nil =>
    obtain rfl := Option.some.inj hx
    obtain ⟨hk, rfl⟩ := List.getElem?_eq_some_iff.mp hex
    exact ⟨s, rfl, (List.set_getElem_self hk).symm, by simp⟩
  | cons e es ih =>
    obtain ⟨v, hv, hx⟩ := Option.bind_eq_some_iff.mp hx
    have hv' : (if e.worker.isSome then (ex.step pb e).map Prod.fst else none) = some v := hv
    split_ifs at hv' with he
    obtain ⟨r, hr, rfl⟩ := Option.map_eq_some_iff.mp hv'
    have hk := (List.getElem?_eq_some_iff.mp hex).1
    let s' : RpcServer := { s with
      executors := s.executors.set k r.1, answers := s.answers ++ r.2 }
    have hnext : (machine pb table).next s (.executor k e) = some s' := by
      change RpcServer.step pb s (.executor k e) = _
      rw [RpcServer.step, hex, Option.bind_some, hr]
      rfl
    obtain ⟨t, ht, hexs, hes⟩ := ih (s := s') (List.getElem?_set_self hk) hx
    refine ⟨t, ?_, by rw [hexs, List.set_set], ?_⟩
    · rw [List.map_cons, Machine.exec_cons, hnext]
      exact ht
    · rw [List.map_cons, List.forall_mem_cons]
      exact ⟨he, hes⟩

lemma exec_first (h : ∀ ex ∈ s.executors, ex.Ready) (n : ℕ) (hn : n ≤ s.executors.length) :
    ∃ es t, (∀ e ∈ es, e.worker) ∧ (machine pb table).exec s es = some t ∧
      (∀ ex ∈ t.executors.take n, ex.held = []) ∧
      t.executors.drop n = s.executors.drop n := by
  induction n with
  | zero => exact ⟨[], s, by simp, rfl, by simp, rfl⟩
  | succ n ih =>
    obtain ⟨es, t, hes, ht, hheld, hdrop⟩ := ih (by omega)
    have hlt : n < s.executors.length := hn
    have hex : t.executors[n]? = some s.executors[n] := by
      rw [← List.head?_drop, hdrop, List.head?_drop, List.getElem?_eq_getElem hlt]
    obtain ⟨fs, u, hu, hnil⟩ := (h _ (List.getElem_mem hlt)).answers_all
    obtain ⟨v, hv, hexs, hfs⟩ := @exec_executor pb table t n s.executors[n] _ _ _ hex hu
    have hn' := (List.getElem?_eq_some_iff.mp hex).1
    refine ⟨es ++ fs.map (.executor n), v, ?_, ?_, ?_, ?_⟩
    · exact List.forall_mem_append.mpr ⟨hes, hfs⟩
    · rw [Machine.exec_append, ht]
      exact hv
    · rw [hexs, List.take_add_one, List.take_set_of_le (le_refl n), List.getElem?_set_self hn']
      exact List.forall_mem_append.mpr ⟨hheld, by simpa using hnil⟩
    · rw [hexs, List.drop_set_of_lt (Nat.lt_succ_self n), ← List.tail_drop, hdrop, List.tail_drop]

/-- The requests of an executor that is not ready outlast all steps of the workers. -/
lemma exec_abandoned {es : List Event} (he : ∀ e ∈ es, e.worker)
    (hx : (machine pb table).exec s es = some t) {ex : Executor} (hex : ex ∈ s.executors)
    (hnot : ¬ ex.Ready) : t.held ≠ [] := by
  obtain ⟨hnone, hlt⟩ := not_or.mp hnot
  obtain ⟨k, hk⟩ := List.getElem?_of_mem hex
  have hstart : Executor.Abandoned 1 ex := ⟨by simpa using hnone, by omega⟩
  have hstep : ∀ (u : RpcServer) (e : Event) (v : RpcServer),
      (∃ ex, u.executors[k]? = some ex ∧ ex.Abandoned 1) → e.worker →
      (machine pb table).next u e = some v → ∃ ex, v.executors[k]? = some ex ∧ ex.Abandoned 1 := by
    rintro u e v ⟨ex, hk, hab⟩ he hn
    cases e with
    | frame conn payload => cases he
    | executor j e =>
      obtain ⟨exj, hj, hn⟩ := Option.bind_eq_some_iff.mp hn
      obtain ⟨r, hr, rfl⟩ := Option.map_eq_some_iff.mp hn
      by_cases hjk : j = k
      · subst hjk
        obtain rfl := Option.some.inj (hj.symm.trans hk)
        exact ⟨r.1, List.getElem?_set_self (List.getElem?_eq_some_iff.mp hk).1, hab.step he hr⟩
      · exact ⟨ex, by rw [List.getElem?_set_ne hjk, hk], hab⟩
  obtain ⟨ex', hk', h'⟩ := Machine.exec_of_inductive (M := machine pb table) hstep he
    ⟨ex, hk, hstart⟩ hx
  intro hnil
  have hq := List.flatMap_eq_nil_iff.mp hnil ex' (List.mem_of_getElem? hk')
  have hshort := h'.short
  rw [(List.append_eq_nil_iff.mp hq).1] at hshort
  simp at hshort

/-- From every reachable state the workers alone can bring the system to where every frame
received so far has its one answer, exactly if every executor has a worker that serves or no
more requests queued than workers in `POP`. -/
theorem answerable_iff (h : (machine pb table).Reachable s) :
    (∃ es t, (∀ e ∈ es, e.worker) ∧ (machine pb table).exec s es = some t ∧
      ∀ f ∈ s.frames, (t.answersTo f).length = 1) ↔ ∀ ex ∈ s.executors, ex.Ready := by
  have hacc : Accounted s := Machine.reachable_of_inductive (M := machine pb table)
    (start_accounted table) (fun _ _ _ hi hn => hi.step hn) h
  constructor
  · rintro ⟨es, t, hes, ht, hall⟩ ex hex
    by_contra hnot
    refine exec_abandoned hes ht hex hnot ((hacc.exec ht).answered_iff.mp ?_)
    rwa [exec_frames hes ht]
  · intro hready
    obtain ⟨es, t, hes, ht, hheld, hdrop⟩ := @exec_first pb table s hready
      s.executors.length (le_refl _)
    rw [List.drop_length, List.drop_eq_nil_iff] at hdrop
    rw [List.take_of_length_le hdrop] at hheld
    refine ⟨es, t, hes, ht, ?_⟩
    rw [← exec_frames hes ht, (hacc.exec ht).answered_iff]
    exact List.flatMap_eq_nil_iff.mpr hheld

/-- Two requests wait while both workers of their executor are in `POP` and are told to
terminate. -/
def leavingWorkers : List Event :=
  let request (p : UInt8) : Bytes := (RpcRequestMessage.ofRequest 1 2 [p]).netStr
  [.executor 0 (.check 0), .executor 0 (.check 1), .executor 0 (.setStatus 0 .kTerminating),
    .executor 0 (.setStatus 1 .kTerminating), .frame 7 (request 5), .frame 8 (request 6)]

theorem leavingWorkers_answerable :
    ∃ s, (machine ⟨fun _ => none, fun _ => []⟩ [(1, 2)]).run leavingWorkers = some s ∧
      (s.executors.all fun ex => ex.rpcQueue.length = 2 ∧ ¬ ex.threads.any Worker.serves) ∧
      ∃ es t, (∀ e ∈ es, e.worker) ∧
        (machine ⟨fun _ => none, fun _ => []⟩ [(1, 2)]).exec s es = some t ∧
        ∀ f ∈ s.frames, (t.answersTo f).length = 1 := by
  have hrun : ((machine ⟨fun _ => none, fun _ => []⟩ [(1, 2)]).run leavingWorkers).any (fun s =>
      decide ((s.executors.all fun ex =>
          ex.rpcQueue.length = 2 ∧ ¬ ex.threads.any Worker.serves) ∧
        ∀ ex ∈ s.executors, ex.Ready)) := by
    decide +kernel
  obtain ⟨s, hs, hd⟩ := (Option.any_eq_true _ _).mp hrun
  obtain ⟨hleaving, hready⟩ := of_decide_eq_true hd
  exact ⟨s, hs, hleaving, (answerable_iff ⟨_, hs⟩).mpr hready⟩

end RpcServer

end Tzrpc
