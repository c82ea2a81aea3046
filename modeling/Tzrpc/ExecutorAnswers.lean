import Tzrpc.Executor
import Tzrpc.ListUpdate

/-!
# What the executors answer

The answer to a frame is the one the dispatcher or the service computes from its bytes,
whichever thread gives it and in whatever order the threads run.
-/
namespace Tzrpc

namespace RpcInstance

/-- The same request, as another object or for another connection. -/
def retag (inst : RpcInstance) (id fullSocket : ℕ) : RpcInstance :=
  { inst with id := id, fullSocket := fullSocket }

lemma validateRequest_retag (inst : RpcInstance) (i k : ℕ) :
    (inst.retag i k).validateRequest =
      (inst.validateRequest.1, inst.validateRequest.2.retag i k) := by
  unfold validateRequest retag
  dsimp only
  split_ifs <;> rfl

lemma answerMessage_retag (inst : RpcInstance) (i k : ℕ) (a : Answer) :
    (inst.retag i k).answerMessage a = inst.answerMessage a := by
  cases a <;> rfl

lemma ofPayload_retag (i k : ℕ) (payload : Bytes) :
    ofPayload i k payload = (ofPayload 0 0 payload).retag i k := rfl

end RpcInstance

namespace Dispatcher

lemma handleRPC_retag (services : UInt16 → Bool) (inst : RpcInstance) (i k : ℕ) :
    handleRPC services (inst.retag i k) =
      ((handleRPC services inst).1, (handleRPC services inst).2.retag i k) := by
  unfold handleRPC
  rw [RpcInstance.validateRequest_retag]
  dsimp only
  change (if _ then _ else if services inst.validateRequest.2.serviceId then _ else _) = _
  split_ifs <;> rfl

lemma answers_retag (pb : ProtoBuf) (services : UInt16 → Bool) (inst : RpcInstance) (i k : ℕ) :
    answers pb services (inst.retag i k) = answers pb services inst := by
  unfold answers
  rw [handleRPC_retag]
  cases handleRPC services inst with
  | mk outcome inst' =>
    cases outcome with
    | rejected status => rfl
    | handed => rfl

end Dispatcher

namespace Executor

def Event.worker : Event → Option ℕ
  | .addThread => none
  | .setStatus _ _ => none
  | .check i => some i
  | .pop i _ => some i
  | .popFail i => some i
  | .handle i => some i

def running (ex : Executor) : Event → Option RpcInstance
  | .handle i => ex.threads[i]?.bind fun w => w.held.head?
  | _ => none

variable {pb : ProtoBuf} {ex : Executor}

lemma running_handle {e : Event} {inst : RpcInstance} (h : ex.running e = some inst) :
    ∃ i, e = .handle i := by
  cases e with
  | handle i => exact ⟨i, rfl⟩
  | _ => simp [running] at h

lemma step_answers {e : Event} {r : Executor × List AnswerCall} (h : ex.step pb e = some r) :
    r.1.serviceId = ex.serviceId ∧ r.1.held ⊆ ex.held ∧
      r.2 = (ex.running e).elim [] (fun inst =>
        (XtraTaskService.handleRPC pb inst).map (record inst)) ∧
      ∀ inst, ex.running e = some inst → inst ∈ ex.held := by
  have hset : ∀ {i : ℕ} {w v : Worker}, ex.threads[i]? = some w → v.held = w.held →
      (ex.setThread i v).held ⊆ ex.held := fun hw hv => (setThread_held_same hw hv).subset
  cases e with
  | addThread =>
    obtain rfl := Option.some.inj h
    refine ⟨rfl, ?_, rfl, by simp [running]⟩
    simp [addThread, held, Worker.held]
  | setStatus i status =>
    obtain ⟨w, hw, rfl⟩ := Option.map_eq_some_iff.mp h
    exact ⟨rfl, hset hw (v := { w with status := status }) rfl, rfl, by simp [running]⟩
  | check i =>
    obtain ⟨w, hw, h⟩ := Option.bind_eq_some_iff.mp h
    split_ifs at h with hpc
    · obtain rfl := Option.some.inj h
      exact ⟨rfl, hset hw (by simp [Worker.held, hpc]), rfl, by simp [running]⟩
    · obtain rfl := Option.some.inj h
      exact ⟨rfl, List.Subset.refl _, rfl, by simp [running]⟩
    · obtain rfl := Option.some.inj h
      exact ⟨rfl, hset hw (by simp [Worker.held, hpc]), rfl, by simp [running]⟩
  | pop i j =>
    obtain ⟨w, hw, h⟩ := Option.bind_eq_some_iff.mp h
    split_ifs at h with hpc
    obtain ⟨inst, hj, rfl⟩ := Option.map_eq_some_iff.mp h
    have hp := pop_held_perm (v := { w with pc := .handling inst }) hw hj
      (by simp [Worker.held, hpc]) rfl
    exact ⟨rfl, hp.subset, rfl, by simp [running]⟩
  | popFail i =>
    obtain ⟨w, hw, h⟩ := Option.bind_eq_some_iff.mp h
    split_ifs at h with hpc
    obtain rfl := Option.some.inj h
    exact ⟨rfl, hset hw (by simp [Worker.held, hpc]), rfl, by simp [running]⟩
  | handle i =>
    obtain ⟨w, hw, h⟩ := Option.bind_eq_some_iff.mp h
    cases hpc : w.pc with
    | handling inst =>
      simp only [hpc] at h
      obtain rfl := Option.some.inj h
      have hrun : ex.running (.handle i) = some inst := by simp [running, hw, Worker.held, hpc]
      have hp := @setThread_held_perm ex i w { w with pc := .top } [inst] [] hw
        (by simp [Worker.held, hpc])
      rw [List.append_nil] at hp
      refine ⟨rfl, fun x hx => hp.subset (List.mem_append_left _ hx), by rw [hrun]; rfl, ?_⟩
      intro inst' hinst'
      obtain rfl := Option.some.inj (hrun.symm.trans hinst')
      exact hp.subset (by simp)
    | top => simp [hpc] at h
    | pop => simp [hpc] at h
    | dead => simp [hpc] at h

lemma map_pushTo {β : Type*} {f : Executor → β}
    (hf : ∀ (ex : Executor) (queue : List RpcInstance), f { ex with rpcQueue := queue } = f ex)
    (inst : RpcInstance) (exs : List Executor) :
    (pushTo inst exs).map f = exs.map f := by
  induction exs with
  | nil => rfl
  | cons ex exs ih =>
    unfold pushTo
    split_ifs
    · rw [List.map_cons, List.map_cons, hf]
    · rw [List.map_cons, List.map_cons, ih]

end Executor

namespace RpcServer

variable {pb : ProtoBuf} {services : UInt16 → Bool} {s t : RpcServer}

lemma services_congr (h : t.executors.map Executor.serviceId = s.executors.map Executor.serviceId) :
    t.services = s.services := by
  have hids : ∀ u : RpcServer, u.services = fun id =>
      (u.executors.map Executor.serviceId).any (decide <| · = id) := by
    intro u
    funext id
    rw [services, List.any_map]
    rfl
  rw [hids, hids, h]

lemma mem_pushTo_held {inst inst' : RpcInstance} {exs : List Executor}
    (h : inst' ∈ (Executor.pushTo inst exs).flatMap Executor.held) :
    inst' = inst ∨ inst' ∈ exs.flatMap Executor.held := by
  induction exs with
  | nil => exact Or.inr h
  | cons ex exs ih =>
    unfold Executor.pushTo at h
    split_ifs at h
    · simp only [List.flatMap_cons, Executor.held, List.mem_append, List.mem_singleton] at h ⊢
      tauto
    · rw [List.flatMap_cons, List.mem_append] at h ⊢
      rcases h with h | h
      · exact Or.inr (Or.inl h)
      · exact (ih h).imp_right Or.inr

/-- The instances built from the frames are what the parties hold and answer, and each
answer is one the request asks for. -/
structure Faithful (pb : ProtoBuf) (services : UInt16 → Bool) (s : RpcServer) : Prop where
  registered : s.services = services
  frames : ∀ f ∈ s.frames, f = .ofPayload f.id f.fullSocket f.request.data
  held : ∀ inst ∈ s.held, ∃ f ∈ s.frames, Dispatcher.handleRPC services f = (.handed, inst)
  answers : ∀ a ∈ s.answers, ∃ f ∈ s.frames, a.key = f.key ∧
    a.answer ∈ Dispatcher.answers pb services f

lemma start_faithful (pb : ProtoBuf) (table : List (UInt16 × ℕ)) :
    Faithful pb (start table).services (start table) := by
  refine ⟨rfl, by simp [start], ?_, by simp [start]⟩
  intro inst hinst
  obtain ⟨ex, hex, hinst⟩ := List.mem_flatMap.mp hinst
  obtain ⟨t, -, rfl⟩ := List.mem_map.mp hex
  simp [Executor.held, Worker.held] at hinst

lemma handleRPC_cases (s : RpcServer) (f : RpcInstance) :
    (∃ status, (Dispatcher.handleRPC s.services f).1 = .rejected status ∧
      s.handleRPC f = { s with
        frames := s.frames ++ [f]
        answers := s.answers ++ [Executor.record f (.reject status)] }) ∨
    ∃ inst, Dispatcher.handleRPC s.services f = (.handed, inst) ∧
      s.handleRPC f = { s with
        frames := s.frames ++ [f], executors := Executor.pushTo inst s.executors } := by
  have hsame := Dispatcher.handleRPC_same s.services f
  unfold handleRPC
  cases hd : Dispatcher.handleRPC s.services f with
  | mk outcome inst =>
    rw [hd] at hsame
    have hid : inst.id = f.id := hsame.1
    have hsock : inst.fullSocket = f.fullSocket := hsame.2
    cases outcome with
    | rejected status => exact Or.inl ⟨status, rfl, by simp only [Executor.record, hid, hsock]⟩
    | handed => exact Or.inr ⟨inst, rfl, rfl⟩

lemma Faithful.handleRPC (h : Faithful pb services s) (id conn : ℕ) (payload : Bytes) :
    Faithful pb services (s.handleRPC (.ofPayload id conn payload)) := by
  have hcases := s.handleRPC_cases (.ofPayload id conn payload)
  rw [h.registered] at hcases
  have hold : ∀ {P : RpcInstance → Prop}, (∃ f ∈ s.frames, P f) →
      ∃ f ∈ s.frames ++ [.ofPayload id conn payload], P f := by
    rintro P ⟨f, hf, hp⟩
    exact ⟨f, List.mem_append_left _ hf, hp⟩
  have hnew : RpcInstance.ofPayload id conn payload ∈
      s.frames ++ [.ofPayload id conn payload] := by simp
  have hfresh : ∀ f ∈ s.frames ++ [.ofPayload id conn payload],
      f = .ofPayload f.id f.fullSocket f.request.data := by
    intro f hf
    rcases List.mem_append.mp hf with hf | hf
    · exact h.frames f hf
    · obtain rfl := List.mem_singleton.mp hf
      rfl
  rcases hcases with ⟨status, hd, hr⟩ | ⟨inst, hd, hr⟩
  · rw [hr]
    refine ⟨h.registered, hfresh, fun i hi => hold (h.held i hi), fun a ha => ?_⟩
    rcases List.mem_append.mp ha with ha | ha
    · exact hold (h.answers a ha)
    · obtain rfl := List.mem_singleton.mp ha
      refine ⟨_, hnew, rfl, ?_⟩
      rw [Dispatcher.answers, ← Prod.mk.eta (p := Dispatcher.handleRPC _ _), hd]
      exact List.mem_singleton.mpr rfl
  · rw [hr]
    refine ⟨?_, hfresh, fun i hi => ?_, fun a ha => hold (h.answers a ha)⟩
    · rw [services_congr (s := s) (Executor.map_pushTo (fun _ _ => rfl) inst s.executors), h.registered]
    · rcases mem_pushTo_held hi with rfl | hi
      · exact ⟨_, hnew, hd⟩
      · exact hold (h.held i hi)

lemma Faithful.executor (h : Faithful pb services s) {k : ℕ} {ex : Executor}
    {e : Executor.Event} {r : Executor × List AnswerCall} (hex : s.executors[k]? = some ex)
    (hr : ex.step pb e = some r) : Faithful pb services { s with
      executors := s.executors.set k r.1, answers := s.answers ++ r.2 } := by
  obtain ⟨hid, hsub, hans, hrunning⟩ := Executor.step_answers hr
  have hmem := List.mem_of_getElem? hex
  refine ⟨?_, h.frames, fun i hi => ?_, fun a ha => ?_⟩
  · rw [services_congr (s := s) (map_set_of_eq hex hid), h.registered]
  · obtain ⟨ex', hex', hi⟩ := List.mem_flatMap.mp hi
    rcases List.mem_or_eq_of_mem_set hex' with hex' | rfl
    · exact h.held i (List.mem_flatMap.mpr ⟨ex', hex', hi⟩)
    · exact h.held i (List.mem_flatMap.mpr ⟨ex, hmem, hsub hi⟩)
  · rcases List.mem_append.mp ha with ha | ha
    · exact h.answers a ha
    · cases hrun : ex.running e with
      | none => simp [hans, hrun] at ha
      | some inst =>
        rw [hans, hrun] at ha
        obtain ⟨answer, hanswer, rfl⟩ := List.mem_map.mp ha
        obtain ⟨f, hf, hd⟩ :=
          h.held inst (List.mem_flatMap.mpr ⟨ex, hmem, hrunning inst hrun⟩)
        have hsame := Dispatcher.handleRPC_same services f
        rw [hd] at hsame
        refine ⟨f, hf, ?_, ?_⟩
        · rw [Executor.record_key, RpcInstance.key, hsame.1, hsame.2, RpcInstance.key]
        · rw [Dispatcher.answers, hd]
          exact hanswer

end RpcServer

end Tzrpc
