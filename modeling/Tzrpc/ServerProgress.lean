import Tzrpc.Server

/-!
# Requests and responses of one connection

Whether the dispatcher rejects a request or a worker runs its handler, what is sent for it
is a function of its bytes. Every step of the dispatcher or of an executor adds requests to
one connection, or answers some that came from it.
-/
namespace Tzrpc

namespace Dispatcher

/-- The messages the server answers a payload with. -/
def responses (pb : ProtoBuf) (services : UInt16 → Bool) (payload : Bytes) : List Message :=
  let inst := RpcInstance.ofPayload 0 0 payload
  (answers pb services inst).map (handleRPC services inst).2.answerMessage

variable {pb : ProtoBuf} {services : UInt16 → Bool}

lemma responses_eq {f : RpcInstance} (h : f = .ofPayload f.id f.fullSocket f.request.data) :
    responses pb services f.request.data =
      (answers pb services f).map (handleRPC services f).2.answerMessage := by
  rw [responses]
  conv_rhs => rw [h, RpcInstance.ofPayload_retag, answers_retag, handleRPC_retag]
  exact List.map_congr_left fun a _ => (RpcInstance.answerMessage_retag _ _ _ a).symm

lemma responses_handed {f inst : RpcInstance}
    (hf : f = .ofPayload f.id f.fullSocket f.request.data)
    (h : handleRPC services f = (.handed, inst)) :
    responses pb services f.request.data =
      (XtraTaskService.handleRPC pb inst).map inst.answerMessage := by
  rw [responses_eq hf, answers, h]

lemma responses_rejected {payload : Bytes} {status : RpcResponseStatus}
    (h : (handleRPC services (.ofPayload 0 0 payload)).1 = .rejected status) :
    responses pb services payload = [RpcInstance.rejectMessage status] := by
  rw [responses, answers]
  cases hd : handleRPC services (.ofPayload 0 0 payload) with
  | mk outcome inst =>
    obtain rfl : outcome = .rejected status := by simpa [hd] using h
    rfl

end Dispatcher

namespace RpcServer

variable {pb : ProtoBuf} {services : UInt16 → Bool} {s t u : RpcServer} {k : ℕ}

def framesOn (s : RpcServer) (k : ℕ) : List RpcInstance := s.frames.filter (·.fullSocket = k)

def answersOn (s : RpcServer) (k : ℕ) : List AnswerCall := s.answers.filter (·.conn = k)

def responses (pb : ProtoBuf) (services : UInt16 → Bool) (order : List RpcInstance) :
    List Message := order.flatMap fun f => Dispatcher.responses pb services f.request.data

@[simp] lemma responses_append (pb : ProtoBuf) (services : UInt16 → Bool)
    (order more : List RpcInstance) : responses pb services (order ++ more) =
      responses pb services order ++ responses pb services more := List.flatMap_append

/-- On the way to `t` connection `k` has dispatched `payloads`, and the requests `order`,
all of them its own, have been answered. -/
structure Progress (s t : RpcServer) (k : ℕ) (payloads : List Bytes) (order : List RpcInstance) :
    Prop where
  frames : ∃ more, t.frames = s.frames ++ more ∧ (∀ f ∈ more, f.fullSocket = k) ∧
    more.map (·.request.data) = payloads
  answers : ∃ more, t.answers = s.answers ++ more ∧ (∀ a ∈ more, a.conn = k) ∧
    more.map AnswerCall.key = order.map RpcInstance.key
  own : order ⊆ t.framesOn k

lemma Progress.refl (s : RpcServer) (k : ℕ) : Progress s s k [] [] :=
  ⟨⟨[], by simp⟩, ⟨[], by simp⟩, List.nil_subset _⟩

lemma Progress.framesOn_eq {payloads : List Bytes} {order : List RpcInstance}
    (h : Progress s t k payloads order) (j : ℕ) :
    ∃ more, t.framesOn j = s.framesOn j ++ more ∧
      more.map (·.request.data) = if j = k then payloads else [] := by
  obtain ⟨more, hmore, hk, hdata⟩ := h.frames
  refine ⟨more.filter (·.fullSocket = j), by rw [framesOn, hmore, List.filter_append]; rfl, ?_⟩
  split_ifs with hj
  · rw [List.filter_eq_self.mpr fun f hf => by simp [hk f hf, hj], hdata]
  · rw [List.filter_eq_nil_iff.mpr fun f hf => by simp [hk f hf, Ne.symm hj], List.map_nil]

lemma Progress.framesOn_subset {payloads : List Bytes} {order : List RpcInstance}
    (h : Progress s t k payloads order) (j : ℕ) : s.framesOn j ⊆ t.framesOn j := by
  obtain ⟨more, hmore, -⟩ := h.framesOn_eq j
  rw [hmore]
  exact List.subset_append_left _ _

lemma Progress.answersOn_keys {payloads : List Bytes} {order : List RpcInstance}
    (h : Progress s t k payloads order) (j : ℕ) :
    (t.answersOn j).map AnswerCall.key = (s.answersOn j).map AnswerCall.key ++
      if j = k then order.map RpcInstance.key else [] := by
  obtain ⟨more, hmore, hk, hkeys⟩ := h.answers
  rw [answersOn, hmore, List.filter_append, List.map_append]
  congr 1
  split_ifs with hj
  · rw [List.filter_eq_self.mpr fun a ha => by simp [hk a ha, hj], hkeys]
  · rw [List.filter_eq_nil_iff.mpr fun a ha => by simp [hk a ha, Ne.symm hj], List.map_nil]

lemma Progress.trans {xs ys : List Bytes} {order more : List RpcInstance}
    (h : Progress s t k xs order) (h' : Progress t u k ys more) :
    Progress s u k (xs ++ ys) (order ++ more) := by
  obtain ⟨fs, hf, hfk, hfd⟩ := h.frames
  obtain ⟨gs, hg, hgk, hgd⟩ := h'.frames
  obtain ⟨as, ha, hak, hakey⟩ := h.answers
  obtain ⟨bs, hb, hbk, hbkey⟩ := h'.answers
  refine ⟨⟨fs ++ gs, by rw [hg, hf, List.append_assoc], ?_, by simp [hfd, hgd]⟩,
    ⟨as ++ bs, by rw [hb, ha, List.append_assoc], ?_, by simp [hakey, hbkey]⟩, ?_⟩
  · simpa [or_imp, forall_and] using ⟨hfk, hgk⟩
  · simpa [or_imp, forall_and] using ⟨hak, hbk⟩
  · exact List.append_subset.mpr ⟨fun f hf => h'.framesOn_subset k (h.own hf), h'.own⟩

lemma Faithful.progress (h : Faithful pb services s) (n k : ℕ) (payload : Bytes) :
    ∃ order, Progress s (s.handleRPC (.ofPayload n k payload)) k [payload] order ∧
      responses pb services order = (Dispatcher.inlineReply services payload).toList := by
  have hinline : ∀ outcome, (Dispatcher.handleRPC services (.ofPayload n k payload)).1 = outcome →
      (Dispatcher.handleRPC services (.ofPayload 0 0 payload)).1 = outcome := by
    intro outcome ho
    rwa [RpcInstance.ofPayload_retag, Dispatcher.handleRPC_retag] at ho
  have hframes : ∃ more, s.frames ++ [.ofPayload n k payload] = s.frames ++ more ∧
      (∀ f ∈ more, f.fullSocket = k) ∧ more.map (·.request.data) = [payload] :=
    ⟨[.ofPayload n k payload], rfl, by simp [RpcInstance.ofPayload], rfl⟩
  have hcases := s.handleRPC_cases (.ofPayload n k payload)
  rw [h.registered] at hcases
  rcases hcases with ⟨status, hd, hr⟩ | ⟨inst, hd, hr⟩
  · refine ⟨[.ofPayload n k payload], ?_, ?_⟩
    · rw [hr]
      refine ⟨hframes, ⟨_, rfl, by simp [Executor.record, RpcInstance.ofPayload], rfl⟩, ?_⟩
      simp [framesOn, RpcInstance.ofPayload]
    · have ho := hinline _ hd
      rw [Dispatcher.inlineReply, ho, responses, List.flatMap_singleton]
      exact Dispatcher.responses_rejected ho
  · refine ⟨[], ?_, ?_⟩
    · rw [hr]
      exact ⟨hframes, ⟨[], by simp⟩, List.nil_subset _⟩
    · rw [Dispatcher.inlineReply, hinline .handed (by rw [hd])]
      rfl

lemma Faithful.dispatch (h : Faithful pb services s) (ha : Accounted s) (k : ℕ)
    (payloads : List Bytes) :
    Faithful pb services (s.dispatch k payloads) ∧ Accounted (s.dispatch k payloads) ∧
      ∃ order, Progress s (s.dispatch k payloads) k payloads order ∧
        responses pb services order =
          payloads.flatMap fun payload => (Dispatcher.inlineReply services payload).toList := by
  induction payloads generalizing s with
  | nil => exact ⟨h, ha, [], Progress.refl s k, rfl⟩
  | cons payload payloads ih =>
    obtain ⟨order, hp, hm⟩ := h.progress s.frames.length k payload
    have hnext := @Accounted.step pb s _ (.frame k payload) ha rfl
    obtain ⟨hf, hacc, more, hp', hm'⟩ := ih (h.handleRPC s.frames.length k payload) hnext
    exact ⟨hf, hacc, order ++ more, hp.trans hp', by rw [responses_append, hm, hm']; rfl⟩

lemma Faithful.step_executor (h : Faithful pb services s) {j : ℕ} {e : Executor.Event}
    (hs : RpcServer.step pb s (.executor j e) = some t) :
    Faithful pb services t ∧ ∃ k order, Progress s t k [] order ∧
      ((s.executors[j]?.bind (·.running e)).elim [] fun inst =>
        (XtraTaskService.handleRPC pb inst).map fun a => (inst.fullSocket, inst.answerMessage a)) =
        (responses pb services order).map (fun m => (k, m)) ∧
      (responses pb services order = [] ∨ ∃ i msg, e.worker = some i ∧
        responses pb services order = [msg]) := by
  obtain ⟨ex, hex, hs⟩ := Option.bind_eq_some_iff.mp hs
  obtain ⟨r, hr, rfl⟩ := Option.map_eq_some_iff.mp hs
  refine ⟨h.executor hex hr, ?_⟩
  obtain ⟨-, -, hans, hheld⟩ := Executor.step_answers hr
  rw [hex, Option.bind_some]
  cases hrun : ex.running e with
  | none =>
    rw [hrun] at hans
    exact ⟨0, [], ⟨⟨[], by simp⟩, ⟨[], by simp [hans]⟩, List.nil_subset _⟩, rfl, Or.inl rfl⟩
  | some inst =>
    rw [hrun] at hans
    obtain ⟨f, hf, hd⟩ := h.held inst
      (List.mem_flatMap.mpr ⟨ex, List.mem_of_getElem? hex, hheld inst hrun⟩)
    have hsame := Dispatcher.handleRPC_same services f
    rw [hd] at hsame
    have hsock : f.fullSocket = inst.fullSocket := hsame.2.symm
    have hkey : inst.key = f.key := Prod.ext hsame.1 hsame.2
    obtain ⟨a, ha⟩ := List.length_eq_one_iff.mp (XtraTaskService.handleRPC_length pb inst)
    obtain ⟨i, rfl⟩ := Executor.running_handle hrun
    have hresponses : responses pb services [f] = [inst.answerMessage a] := by
      simp [responses, Dispatcher.responses_handed (h.frames f hf) hd, ha]
    refine ⟨inst.fullSocket, [f], ⟨⟨[], by simp⟩, ⟨r.2, rfl, ?_, ?_⟩, ?_⟩, ?_,
      Or.inr ⟨i, _, rfl, hresponses⟩⟩
    · simp [hans, ha, Executor.record]
    · simp [hans, ha, Executor.record_key, hkey]
    · simpa [framesOn] using ⟨hf, hsock⟩
    · simp [hresponses, ha]

end RpcServer

end Tzrpc
