import Mathlib.Data.List.Nodup
import Mathlib.Data.List.Perm.Basic
import Tzrpc.Machine
import Tzrpc.RpcInstance

/-!
# Executors

The dispatcher, the queue of each registered executor and the worker threads behind it, with
their steps interleaved. The instances somebody still holds and the answers given so far
are together a permutation of the frames received, so no frame is lost or answered twice.
-/
namespace Tzrpc

/-- The values of `roo::ThreadStatus` the worker loop looks at. -/
inductive ThreadStatus
  | kRunning
  | kSuspend
  | kTerminating
  | kDead
  deriving DecidableEq, Repr

/-- Where a worker is in `executor_service_run`. -/
inductive WorkerPc
  | top
  | pop
  | handling (inst : RpcInstance)
  | dead
  deriving DecidableEq, Repr

structure Worker where
  status : ThreadStatus
  pc : WorkerPc
  deriving DecidableEq, Repr

structure Executor where
  serviceId : UInt16
  rpcQueue : List RpcInstance
  threads : List Worker
  deriving DecidableEq, Repr

structure AnswerCall where
  id : ℕ
  conn : ℕ
  answer : Answer
  deriving DecidableEq, Repr

structure RpcServer where
  /-- `services_`. -/
  executors : List Executor
  /-- The instances built from the frames, as they were passed to `handle_RPC`. -/
  frames : List RpcInstance
  answers : List AnswerCall
  deriving DecidableEq, Repr

namespace Executor

def addThread (ex : Executor) : Executor := { ex with threads := ex.threads ++ [⟨.kRunning, .top⟩] }

def setThread (ex : Executor) (i : ℕ) (w : Worker) : Executor :=
  { ex with threads := ex.threads.set i w }

/-- `handle_RPC` of the executor whose service is asked for. -/
def pushTo (inst : RpcInstance) : List Executor → List Executor
  | [] => []
  | ex :: rest =>
    if ex.serviceId = inst.serviceId then { ex with rpcQueue := ex.rpcQueue ++ [inst] } :: rest
    else ex :: pushTo inst rest

inductive Event
  | addThread
  | setStatus (i : ℕ) (status : ThreadStatus)
  | check (i : ℕ)
  | pop (i j : ℕ)
  | popFail (i : ℕ)
  | handle (i : ℕ)
  deriving DecidableEq, Repr

def record (inst : RpcInstance) (answer : Answer) : AnswerCall :=
  ⟨inst.id, inst.fullSocket, answer⟩

/-- A step of one thread of the executor, or of whoever changes its threads, with the
answers it gives. `POP` takes any one element, or fails. -/
def step (pb : ProtoBuf) (ex : Executor) : Event → Option (Executor × List AnswerCall)
  | .addThread => some (ex.addThread, [])
  | .setStatus i status =>
    ex.threads[i]?.map fun w => (ex.setThread i { w with status := status }, [])
  | .check i =>
    ex.threads[i]?.bind fun w =>
      if w.pc = .top then
        if w.status = .kTerminating then some (ex.setThread i ⟨.kDead, .dead⟩, [])
        else if w.status = .kSuspend then some (ex, [])
        else some (ex.setThread i { w with pc := .pop }, [])
      else none
  | .pop i j =>
    ex.threads[i]?.bind fun w =>
      if w.pc = .pop then
        ex.rpcQueue[j]?.map fun inst =>
          ({ ex with rpcQueue := ex.rpcQueue.eraseIdx j }.setThread i { w with pc := .handling inst },
            [])
      else none
  | .popFail i =>
    ex.threads[i]?.bind fun w =>
      if w.pc = .pop then some (ex.setThread i { w with pc := .top }, []) else none
  | .handle i =>
    ex.threads[i]?.bind fun w =>
      match w.pc with
      | .handling inst =>
        some (ex.setThread i { w with pc := .top },
          (XtraTaskService.handleRPC pb inst).map (record inst))
      | _ => none

end Executor

namespace RpcServer

def start (table : List (UInt16 × ℕ)) : RpcServer :=
  ⟨table.map fun t => ⟨t.1, [], List.replicate t.2 ⟨.kRunning, .top⟩⟩, [], []⟩

inductive Event
  | frame (conn : ℕ) (payload : Bytes)
  | executor (k : ℕ) (e : Executor.Event)
  deriving DecidableEq, Repr

def services (s : RpcServer) (id : UInt16) : Bool := s.executors.any (·.serviceId = id)

/-- `Dispatcher::handle_RPC` on the instance of a new frame. -/
def handleRPC (s : RpcServer) (inst : RpcInstance) : RpcServer :=
  let t := { s with frames := s.frames ++ [inst] }
  match Dispatcher.handleRPC s.services inst with
  | (.rejected status, inst) =>
    { t with answers := t.answers ++ [Executor.record inst (.reject status)] }
  | (.handed, inst) => { t with executors := Executor.pushTo inst t.executors }

def step (pb : ProtoBuf) (s : RpcServer) : Event → Option RpcServer
  | .frame conn payload => some (s.handleRPC (.ofPayload s.frames.length conn payload))
  | .executor k e =>
    s.executors[k]?.bind fun ex =>
      (ex.step pb e).map fun r =>
        { s with executors := s.executors.set k r.1, answers := s.answers ++ r.2 }

def machine (pb : ProtoBuf) (table : List (UInt16 × ℕ)) : Machine RpcServer Event :=
  ⟨start table, step pb⟩

end RpcServer

def Worker.held (w : Worker) : List RpcInstance :=
  match w.pc with
  | .handling inst => [inst]
  | _ => []

def Executor.held (ex : Executor) : List RpcInstance := ex.rpcQueue ++ ex.threads.flatMap Worker.held

def RpcServer.held (s : RpcServer) : List RpcInstance := s.executors.flatMap Executor.held

def RpcInstance.key (inst : RpcInstance) : ℕ × ℕ := (inst.id, inst.fullSocket)

def AnswerCall.key (a : AnswerCall) : ℕ × ℕ := (a.id, a.conn)

lemma Executor.record_key (inst : RpcInstance) (answer : Answer) :
    (Executor.record inst answer).key = inst.key := rfl

lemma flatMap_set_perm {α β : Type*} {f : α → List β} {l : List α} {i : ℕ} {a b : α}
    {lost gained : List β} (h : l[i]? = some a) (hab : (f b ++ lost).Perm (f a ++ gained)) :
    ((l.set i b).flatMap f ++ lost).Perm (l.flatMap f ++ gained) := by
  induction l generalizing i with
  | nil => simp at h
  | cons x l ih =>
    cases i with
    | zero =>
      obtain rfl : x = a := by simpa using h
      have swap : ∀ (u v w : List β), (u ++ v ++ w).Perm (u ++ w ++ v) := by
        intro u v w
        simp only [List.append_assoc]
        exact List.perm_append_comm.append_left u
      simp only [List.set_cons_zero, List.flatMap_cons]
      exact (swap _ _ _).trans ((hab.append_right _).trans (swap _ _ _))
    | succ i =>
      simp only [List.set_cons_succ, List.flatMap_cons, List.append_assoc]
      exact (ih (by simpa using h)).append_left _

namespace Executor

variable {pb : ProtoBuf} {ex : Executor}

lemma setThread_held_perm {i : ℕ} {w v : Worker} {lost gained : List RpcInstance}
    (h : ex.threads[i]? = some w) (hv : (v.held ++ lost).Perm (w.held ++ gained)) :
    ((ex.setThread i v).held ++ lost).Perm (ex.held ++ gained) := by
  have hset := flatMap_set_perm h hv
  simp only [held, setThread, List.append_assoc]
  exact hset.append_left _

lemma setThread_held_same {i : ℕ} {w v : Worker} (h : ex.threads[i]? = some w)
    (hv : v.held = w.held) : (ex.setThread i v).held.Perm ex.held := by
  have hp := @setThread_held_perm ex i w v [] [] h (by rw [hv])
  simpa using hp

lemma pop_held_perm {i j : ℕ} {w v : Worker} {inst : RpcInstance} (h : ex.threads[i]? = some w)
    (hj : ex.rpcQueue[j]? = some inst) (hw : w.held = []) (hv : v.held = [inst]) :
    ({ ex with rpcQueue := ex.rpcQueue.eraseIdx j }.setThread i v).held.Perm ex.held := by
  obtain ⟨hlt, rfl⟩ := List.getElem?_eq_some_iff.mp hj
  have hq := List.getElem_cons_eraseIdx_perm hlt
  have ht := @flatMap_set_perm _ _ Worker.held _ _ _ v [] [ex.rpcQueue[j]] h (by rw [hw, hv]; simp)
  simp only [held, setThread, List.append_nil] at ht ⊢
  have hmove : (ex.rpcQueue.eraseIdx j ++
      (ex.threads.flatMap Worker.held ++ [ex.rpcQueue[j]])).Perm
      (ex.rpcQueue[j] :: ex.rpcQueue.eraseIdx j ++ ex.threads.flatMap Worker.held) := by
    rw [← List.append_assoc]
    exact List.perm_append_singleton _ _
  exact (ht.append_left _).trans (hmove.trans (hq.append_right _))

lemma step_held_perm {e : Event} {r : Executor × List AnswerCall} (h : ex.step pb e = some r) :
    (r.1.held.map RpcInstance.key ++ r.2.map AnswerCall.key).Perm
      (ex.held.map RpcInstance.key) := by
  cases e with
  | addThread =>
    obtain rfl := Option.some.inj h
    simp [addThread, held, Worker.held]
  | setStatus i status =>
    obtain ⟨w, hw, rfl⟩ := Option.map_eq_some_iff.mp h
    simpa using (setThread_held_same hw (v := { w with status := status }) rfl).map RpcInstance.key
  | check i =>
    obtain ⟨w, hw, h⟩ := Option.bind_eq_some_iff.mp h
    split_ifs at h with hpc
    · obtain rfl := Option.some.inj h
      have hheld : (⟨.kDead, .dead⟩ : Worker).held = w.held := by simp [Worker.held, hpc]
      simpa using (setThread_held_same hw hheld).map RpcInstance.key
    · obtain rfl := Option.some.inj h
      simp
    · obtain rfl := Option.some.inj h
      have hheld : ({ w with pc := .pop } : Worker).held = w.held := by simp [Worker.held, hpc]
      simpa using (setThread_held_same hw hheld).map RpcInstance.key
  | pop i j =>
    obtain ⟨w, hw, h⟩ := Option.bind_eq_some_iff.mp h
    split_ifs at h with hpc
    obtain ⟨inst, hj, rfl⟩ := Option.map_eq_some_iff.mp h
    have hheld : w.held = [] := by simp [Worker.held, hpc]
    have hp := pop_held_perm (v := { w with pc := .handling inst }) hw hj hheld rfl
    simpa using hp.map RpcInstance.key
  | popFail i =>
    obtain ⟨w, hw, h⟩ := Option.bind_eq_some_iff.mp h
    split_ifs at h with hpc
    obtain rfl := Option.some.inj h
    have hheld : ({ w with pc := .top } : Worker).held = w.held := by simp [Worker.held, hpc]
    simpa using (setThread_held_same hw hheld).map RpcInstance.key
  | handle i =>
    obtain ⟨w, hw, h⟩ := Option.bind_eq_some_iff.mp h
    cases hpc : w.pc with
    | handling inst =>
      simp only [hpc] at h
      obtain rfl := Option.some.inj h
      obtain ⟨a, ha⟩ := List.length_eq_one_iff.mp (XtraTaskService.handleRPC_length pb inst)
      have hp := @setThread_held_perm ex i w { w with pc := .top } [inst] [] hw (by simp [Worker.held, hpc])
      simpa [ha, record_key] using hp.map RpcInstance.key
    | top => simp [hpc] at h
    | pop => simp [hpc] at h
    | dead => simp [hpc] at h

end Executor

namespace RpcServer

variable {pb : ProtoBuf} {table : List (UInt16 × ℕ)} {s t : RpcServer}

lemma pushTo_held_perm {inst : RpcInstance} {exs : List Executor}
    (h : exs.any (·.serviceId = inst.serviceId)) :
    ((Executor.pushTo inst exs).flatMap Executor.held).Perm
      (exs.flatMap Executor.held ++ [inst]) := by
  induction exs with
  | nil => simp at h
  | cons ex exs ih =>
    unfold Executor.pushTo
    split_ifs with hid
    · simp only [List.flatMap_cons, Executor.held, List.append_assoc]
      refine List.Perm.append_left _ ?_
      have hcomm := @List.perm_append_comm _ [inst]
        (ex.threads.flatMap Worker.held ++ exs.flatMap Executor.held)
      simpa only [List.append_assoc, Executor.held] using hcomm
    · have hrest := ih (by simpa [hid] using h)
      simp only [List.flatMap_cons, List.append_assoc]
      exact hrest.append_left _

/-- Every frame is held by exactly one party or answered, under its own identity and
connection. -/
structure Accounted (s : RpcServer) : Prop where
  conserved : (s.held.map RpcInstance.key ++ s.answers.map AnswerCall.key).Perm
    (s.frames.map RpcInstance.key)
  ids : s.frames.map RpcInstance.id = List.range s.frames.length

lemma start_accounted (table : List (UInt16 × ℕ)) : Accounted (start table) := by
  have hheld : (start table).held = [] := by
    simp only [held, start, List.flatMap_eq_nil_iff, List.mem_map]
    rintro ex ⟨t, -, rfl⟩
    simp [Executor.held, Worker.held]
  exact ⟨by rw [hheld]; exact List.Perm.refl _, rfl⟩

lemma handleRPC_frames (s : RpcServer) (inst : RpcInstance) :
    (s.handleRPC inst).frames = s.frames ++ [inst] := by
  unfold handleRPC
  dsimp only
  split <;> rfl

lemma handleRPC_perm (s : RpcServer) (inst : RpcInstance) :
    ((s.handleRPC inst).held.map RpcInstance.key ++
      (s.handleRPC inst).answers.map AnswerCall.key).Perm
      (s.held.map RpcInstance.key ++ s.answers.map AnswerCall.key ++ [inst.key]) := by
  obtain ⟨hid, hsock⟩ := Dispatcher.handleRPC_same s.services inst
  have hkey : (Dispatcher.handleRPC s.services inst).2.key = inst.key := by
    rw [RpcInstance.key, hid, hsock, RpcInstance.key]
  cases hd : Dispatcher.handleRPC s.services inst with
  | mk outcome inst' =>
    rw [hd] at hkey
    cases outcome with
    | rejected status =>
      have hr : s.handleRPC inst = { s with
          frames := s.frames ++ [inst]
          answers := s.answers ++ [Executor.record inst' (.reject status)] } := by
        rw [handleRPC, hd]
      rw [hr]
      simp only [held, List.map_append, List.map_cons, List.map_nil, Executor.record_key, hkey,
        List.append_assoc]
      exact List.Perm.refl _
    | handed =>
      have hs := Dispatcher.services_of_handed hd
      have hr : s.handleRPC inst = { s with
          frames := s.frames ++ [inst], executors := Executor.pushTo inst' s.executors } := by
        rw [handleRPC, hd]
      have hp := (pushTo_held_perm hs).map RpcInstance.key
      rw [List.map_append, List.map_singleton, hkey] at hp
      rw [hr]
      simp only [held, List.append_assoc]
      refine (hp.append_right _).trans ?_
      rw [List.append_assoc]
      exact List.perm_append_comm.append_left _

theorem Accounted.step {e : Event} (h : Accounted s) (hs : RpcServer.step pb s e = some t) :
    Accounted t := by
  cases e with
  | frame conn payload =>
    obtain rfl := Option.some.inj hs
    refine ⟨?_, ?_⟩
    · rw [handleRPC_frames, List.map_append]
      exact (handleRPC_perm s _).trans (h.conserved.append_right _)
    · rw [handleRPC_frames, List.map_append, h.ids, List.length_append, List.length_singleton,
        List.range_succ]
      rfl
  | executor k e =>
    obtain ⟨ex, hex, hs⟩ := Option.bind_eq_some_iff.mp hs
    obtain ⟨r, hr, rfl⟩ := Option.map_eq_some_iff.mp hs
    refine ⟨?_, h.ids⟩
    have hset := @flatMap_set_perm _ _ (fun ex => ex.held.map RpcInstance.key) _ _ _ r.1
      (r.2.map AnswerCall.key) [] hex
      (by simpa using Executor.step_held_perm hr)
    simp only [held, List.map_flatMap, List.map_append, List.append_nil] at hset ⊢
    have hc := h.conserved
    simp only [held, List.map_flatMap] at hc
    have hswap := (@List.perm_append_comm _ (s.answers.map AnswerCall.key)
      (r.2.map AnswerCall.key)).append_left
        ((s.executors.set k r.1).flatMap fun ex => ex.held.map RpcInstance.key)
    rw [← List.append_assoc _ (r.2.map AnswerCall.key)] at hswap
    exact hswap.trans ((hset.append_right _).trans hc)

/-- No queue holds a request and no worker is in a handler. -/
def Quiescent (s : RpcServer) : Prop :=
  ∀ ex ∈ s.executors, ex.rpcQueue = [] ∧ ∀ w ∈ ex.threads, w.held = []

lemma Quiescent.held (h : Quiescent s) : s.held = [] := by
  simp only [RpcServer.held, List.flatMap_eq_nil_iff, Executor.held, List.append_eq_nil_iff]
  exact h

def answersTo (s : RpcServer) (f : RpcInstance) : List AnswerCall :=
  s.answers.filter (·.id = f.id)

lemma answersTo_length (s : RpcServer) (f : RpcInstance) :
    (s.answersTo f).length = (s.answers.map AnswerCall.id).count f.id := by
  rw [answersTo, ← List.countP_eq_length_filter, List.count, List.countP_map]
  congr 1

lemma Accounted.ids_perm (h : Accounted s) :
    (s.held.map RpcInstance.id ++ s.answers.map AnswerCall.id).Perm
      (List.range s.frames.length) := by
  have hp := h.conserved.map Prod.fst
  rw [← h.ids]
  simp only [List.map_append, List.map_map] at hp
  exact hp

lemma Accounted.nodup (h : Accounted s) : (s.frames.map RpcInstance.id).Nodup := by
  rw [h.ids]
  exact List.nodup_range

lemma Accounted.conn_eq (h : Accounted s) {a : AnswerCall} {f : RpcInstance} (ha : a ∈ s.answers)
    (hf : f ∈ s.frames) (hid : a.id = f.id) : a.conn = f.fullSocket := by
  have hk : a.key ∈ s.frames.map RpcInstance.key :=
    h.conserved.subset (List.mem_append_right _ (List.mem_map_of_mem ha))
  obtain ⟨g, hg, hkey⟩ := List.mem_map.mp hk
  obtain ⟨hgid, hgconn⟩ := Prod.mk.inj hkey
  obtain rfl := List.inj_on_of_nodup_map h.nodup hg hf (hgid.trans hid)
  exact hgconn.symm

/-- Over every interleaving, a frame is answered at most once, through the connection it
came from, and exactly once when all queues are drained and all workers are idle. -/
theorem answered_once (pb : ProtoBuf) (table : List (UInt16 × ℕ))
    (h : (machine pb table).Reachable s) :
    (∀ a ∈ s.answers, ∃ f ∈ s.frames, a.id = f.id) ∧
      (∀ f ∈ s.frames, (s.answersTo f).length ≤ 1 ∧
        ∀ a ∈ s.answersTo f, a.conn = f.fullSocket) ∧
      (s.Quiescent → ∀ f ∈ s.frames, (s.answersTo f).length = 1) := by
  have hacc : Accounted s := Machine.reachable_of_inductive (M := machine pb table)
    (start_accounted table) (fun s e t hi hn => hi.step hn) h
  have hids := hacc.ids_perm
  refine ⟨fun a ha => ?_, fun f hf => ⟨?_, fun a ha => ?_⟩, fun hq f hf => ?_⟩
  · have hmem : a.id ∈ s.frames.map RpcInstance.id := by
      rw [hacc.ids]
      exact hids.subset (List.mem_append_right _ (List.mem_map_of_mem ha))
    obtain ⟨f, hf, hid⟩ := List.mem_map.mp hmem
    exact ⟨f, hf, hid.symm⟩
  · rw [answersTo_length]
    have hle := List.nodup_iff_count_le_one.mp (List.nodup_range (n := s.frames.length)) f.id
    rw [← hids.count_eq, List.count_append] at hle
    exact le_trans (Nat.le_add_left _ _) hle
  · obtain ⟨hmem, hid⟩ := List.mem_filter.mp ha
    exact hacc.conn_eq hmem hf (of_decide_eq_true hid)
  · have hcount := hids.count_eq f.id
    rw [hq.held, List.map_nil, List.nil_append, ← hacc.ids,
      List.count_eq_one_of_mem hacc.nodup (List.mem_map_of_mem hf)] at hcount
    rw [answersTo_length]
    exact hcount

def answeredSample : List Event :=
  [.frame 7 [], .frame 8 (RpcRequestMessage.ofRequest 1 2 [5]).netStr,
    .executor 0 (.check 0), .executor 0 (.pop 0 0), .executor 0 (.handle 0)]

theorem answeredSample_once :
    ∃ s, (machine ⟨fun _ => none, fun _ => []⟩ [(1, 1)]).run answeredSample = some s ∧
      s.frames.length = 2 ∧ ∀ f ∈ s.frames, (s.answersTo f).length = 1 := by
  have hrun : ((machine ⟨fun _ => none, fun _ => []⟩ [(1, 1)]).run answeredSample).any (fun s =>
      decide (s.frames.length = 2 ∧
        ∀ ex ∈ s.executors, ex.rpcQueue = [] ∧ ∀ w ∈ ex.threads, w.held = [])) := by
    decide +kernel
  obtain ⟨s, hs, hd⟩ := (Option.any_eq_true _ _).mp hrun
  obtain ⟨hlen, hq⟩ := of_decide_eq_true hd
  exact ⟨s, hs, hlen, (answered_once _ _ ⟨_, hs⟩).2.2 hq⟩

end RpcServer

end Tzrpc
