import Mathlib.Data.List.Perm.Subperm
import Tzrpc.ServerProgress

/-!
# What the server sends

Between the bytes a connection has received and the bytes it has sent stands one list: the
requests answered so far, in the order of their answers. The messages appended are their
responses, and the bytes sent are a first part of those, as long as no thread starts a write
behind the back of another.
-/
namespace Tzrpc

lemma NetServer.step_limits {s t : NetServer} {e : NetServer.Event} (hs : s.step e = some t) :
    t.conf.recvMaxMsgSize = s.conf.recvMaxMsgSize ∧
      t.conf.sendMaxMsgSize = s.conf.sendMaxMsgSize := by
  cases e with
  | accept remote =>
    obtain rfl := Option.some.inj hs
    cases remote with
    | none => exact ⟨rfl, rfl⟩
    | some ip =>
      simp only [acceptHandler, NetConf.getServiceToken]
      split_ifs <;> exact ⟨rfl, rfl⟩
  | release =>
    simp only [step] at hs
    split_ifs at hs
    obtain rfl := Option.some.inj hs
    exact ⟨rfl, rfl⟩
  | moduleRuntime doc =>
    obtain rfl := Option.some.inj hs
    unfold moduleRuntime
    dsimp only
    split_ifs <;> exact ⟨rfl, rfl⟩
  | feedExpire =>
    simp only [step] at hs
    split_ifs at hs
    obtain rfl := Option.some.inj hs
    exact ⟨rfl, rfl⟩
  | feedHandler i =>
    obtain ⟨h, -, rfl⟩ := Option.map_eq_some_iff.mp hs
    simp only [feedHandler, NetConf.timedFeedTokenHandler]
    split_ifs <;> exact ⟨rfl, rfl⟩

/-- The messages `async_send_message` accepts of these. -/
def TcpConnAsync.acceptsAll (env : ServerEnv) (msgs : List Message) : List Message :=
  msgs.flatMap (accepts env)

lemma TcpConnAsync.accepts_congr {env env' : ServerEnv}
    (h : env'.sendMaxMsgSize = env.sendMaxMsgSize) : accepts env' = accepts env := by
  funext msg
  rw [accepts, accepts, refusesSize, refusesSize, h]

/-- The requests dispatched on connection `k` are those in the stream it received, and it has
accepted the responses to some of them; to all that are answered, while it exists. -/
structure AcceptedConn.Serves (pb : ProtoBuf) (services : UInt16 → Bool) (env : ServerEnv)
    (rpc : RpcServer) (k : ℕ) (p : AcceptedConn) : Prop where
  payloads : (rpc.framesOn k).map (·.request.data) = p.conn.recv.dispatched
  receives : ∀ net, (p.view net).Receives env p.received
  answered : ∃ order, order ⊆ rpc.framesOn k ∧
    order.map RpcInstance.key <+: (rpc.answersOn k).map AnswerCall.key ∧
    (p.released = false →
      order.map RpcInstance.key = (rpc.answersOn k).map AnswerCall.key) ∧
    p.senders.accepted =
      TcpConnAsync.acceptsAll env (RpcServer.responses pb services order)

namespace Server

/-- What holds of the parts of the server together, under the limits of `env`. -/
structure Serving (pb : ProtoBuf) (services : UInt16 → Bool) (env : ServerEnv) (s : Server) :
    Prop where
  recvMax : s.net.conf.recvMaxMsgSize = env.recvMaxMsgSize
  sendMax : s.net.conf.sendMaxMsgSize = env.sendMaxMsgSize
  accounted : s.rpc.Accounted
  faithful : s.rpc.Faithful pb services
  known : ∀ f ∈ s.rpc.frames, f.fullSocket < s.conns.length
  conns : ∀ k (p : AcceptedConn), s.conns[k]? = some p → p.Serves pb services env s.rpc k

end Server

namespace AcceptedConn.Serves

open RpcServer (Progress)

variable {pb : ProtoBuf} {services : UInt16 → Bool} {env : ServerEnv} {s t : RpcServer}
  {k j : ℕ} {p q : AcceptedConn} {payloads : List Bytes} {order : List RpcInstance}

lemma other (h : p.Serves pb services env s k) (hp : Progress s t j payloads order)
    (hj : k ≠ j) : p.Serves pb services env t k := by
  have hf : t.framesOn k = s.framesOn k := by
    obtain ⟨more, hmore, hdata⟩ := hp.framesOn_eq k
    rw [if_neg hj, List.map_eq_nil_iff] at hdata
    rw [hmore, hdata, List.append_nil]
  have ha := hp.answersOn_keys k
  rw [if_neg hj, List.append_nil] at ha
  obtain ⟨answered, hown, hpre, hall, hacc⟩ := h.answered
  exact ⟨hf ▸ h.payloads, h.receives, answered, hf ▸ hown, ha ▸ hpre, ha ▸ hall, hacc⟩

lemma own (h : p.Serves pb services env s k) (hp : Progress s t k payloads order)
    (hrel : p.released = false) (hr : ∀ net, (q.view net).Receives env q.received)
    (hd : q.conn.recv.dispatched = p.conn.recv.dispatched ++ payloads)
    (ha : q.senders.accepted = p.senders.accepted ++
      TcpConnAsync.acceptsAll env (RpcServer.responses pb services order)) :
    q.Serves pb services env t k := by
  obtain ⟨answered, hown, -, hall, hacc⟩ := h.answered
  obtain ⟨more, hmore, hdata⟩ := hp.framesOn_eq k
  have hkeys := hp.answersOn_keys k
  rw [if_pos rfl] at hdata hkeys
  have heq : (answered ++ order).map RpcInstance.key =
      (t.answersOn k).map AnswerCall.key := by
    rw [List.map_append, hall hrel, hkeys]
  refine ⟨?_, hr, answered ++ order, ?_, heq ▸ List.prefix_refl _, fun _ => heq, ?_⟩
  · rw [hmore, List.map_append, h.payloads, hdata, hd]
  · exact List.append_subset.mpr ⟨fun f hf => hp.framesOn_subset k (hown hf), hp.own⟩
  · rw [ha, hacc, RpcServer.responses_append, TcpConnAsync.acceptsAll, TcpConnAsync.acceptsAll,
      TcpConnAsync.acceptsAll, List.flatMap_append]

lemma late (h : p.Serves pb services env s k) (hp : Progress s t k [] order)
    (hrel : p.released = true) : p.Serves pb services env t k := by
  obtain ⟨answered, hown, hpre, -, hacc⟩ := h.answered
  obtain ⟨more, hmore, hdata⟩ := hp.framesOn_eq k
  rw [if_pos rfl, List.map_eq_nil_iff] at hdata
  refine ⟨by rw [hmore, hdata, List.append_nil, h.payloads], h.receives, answered,
    fun f hf => hp.framesOn_subset k (hown hf), ?_, by simp [hrel], hacc⟩
  rw [hp.answersOn_keys k]
  exact hpre.trans (List.prefix_append _ _)

lemma silent (h : p.Serves pb services env s k) (hp : Progress s t j [] order)
    (hm : RpcServer.responses pb services order = []) : p.Serves pb services env t k := by
  by_cases hj : k = j
  · subst hj
    cases hrel : p.released with
    | true => exact h.late hp hrel
    | false =>
      refine h.own hp hrel h.receives (List.append_nil _).symm ?_
      rw [hm]
      exact (List.append_nil _).symm
  · exact h.other hp hj

lemma reply (h : p.Serves pb services env s k) (hp : Progress s t k [] order) {msg : Message}
    (hm : RpcServer.responses pb services order = [msg]) {env' : ServerEnv} {th : Thread}
    (hmax : env'.sendMaxMsgSize = env.sendMaxMsgSize) (hpc : p.senders.pc th = .idle) :
    (p.reply env' th msg).Serves pb services env t k := by
  unfold AcceptedConn.reply
  cases hrel : p.released with
  | true => exact h.late hp hrel
  | false =>
    have hsome : ∃ senders, Senders.step env' p.senders (.append th msg) = some senders := by
      simp only [Senders.step, if_pos hpc]
      split_ifs <;> exact ⟨_, rfl⟩
    obtain ⟨senders, hs⟩ := hsome
    obtain ⟨hacc, -, hrecv⟩ := UpdatedConn.append_cases hs
    obtain ⟨-, hclosed⟩ := Senders.step_recv hs
    simp only [hs, Bool.false_eq_true, ↓reduceIte, Option.getD_some]
    refine h.own hp hrel (fun net => ?_) ?_ ?_
    · exact (h.receives net).of_recv rfl hrecv hclosed
    · exact (congrArg RecvSide.dispatched hrecv).trans (List.append_nil _).symm
    · rw [hm]
      refine hacc.trans (congrArg (p.senders.accepted ++ ·) ?_)
      rw [TcpConnAsync.accepts_congr hmax]
      exact (List.append_nil _).symm

lemma release (h : p.Serves pb services env s k) :
    ({ p with released := true } : AcceptedConn).Serves pb services env s k := by
  obtain ⟨answered, hown, hpre, -, hacc⟩ := h.answered
  exact ⟨h.payloads, h.receives, answered, hown, hpre, by simp, hacc⟩

lemma opened (hacc : s.Accounted) (hk : ∀ f ∈ s.frames, f.fullSocket < k) :
    AcceptedConn.opened.Serves pb services env s k := by
  have hnone : s.framesOn k = [] := by
    rw [RpcServer.framesOn, List.filter_eq_nil_iff]
    intro f hf
    have hlt := hk f hf
    simp only [decide_eq_true_eq]
    omega
  have hans : s.answersOn k = [] := by
    rw [RpcServer.answersOn, List.filter_eq_nil_iff]
    intro a ha
    have hkey : a.key ∈ s.frames.map RpcInstance.key :=
      hacc.conserved.subset (List.mem_append_right _ (List.mem_map_of_mem ha))
    obtain ⟨f, hf, heq⟩ := List.mem_map.mp hkey
    have hlt := hk f hf
    have hconn : f.fullSocket = a.conn := congrArg Prod.snd heq
    simp only [decide_eq_true_eq]
    omega
  refine ⟨by rw [hnone]; rfl, fun net => ?_, [], by simp, by simp, by simp [hans], rfl⟩
  exact UpdatedConn.Receives.draining .head []
    ⟨rfl, Nat.two_pow_pos 32, rfl, rfl, rfl⟩ rfl

end AcceptedConn.Serves

namespace Server

variable {pb : ProtoBuf} {services : UInt16 → Bool} {env : ServerEnv} {s t : Server}

lemma Serving.net (h : Serving pb services env s) {net : NetServer} {e : NetServer.Event}
    (hs : s.net.step e = some net) : Serving pb services env { s with net := net } := by
  obtain ⟨hrecv, hsend⟩ := NetServer.step_limits hs
  exact ⟨hrecv.trans h.recvMax, hsend.trans h.sendMax, h.accounted, h.faithful, h.known, h.conns⟩

lemma Serving.accept (h : Serving pb services env s) (remote : Option Bytes) :
    Serving pb services env (s.accept remote) := by
  have hnet := h.net (e := .accept remote) rfl
  unfold Server.accept
  dsimp only
  split_ifs
  · refine ⟨hnet.recvMax, hnet.sendMax, h.accounted, h.faithful, fun f hf => ?_, fun k p hp => ?_⟩
    · rw [List.length_append]
      exact Nat.lt_add_right _ (h.known f hf)
    · rcases Nat.lt_trichotomy k s.conns.length with hlt | rfl | hgt
      · rw [List.getElem?_append_left hlt] at hp
        exact h.conns k p hp
      · rw [List.getElem?_concat_length] at hp
        obtain rfl := Option.some.inj hp
        exact AcceptedConn.Serves.opened h.accounted h.known
      · rw [List.getElem?_eq_none (by simp; omega)] at hp
        exact absurd hp (by simp)
  · exact hnet

lemma Serving.set (h : Serving pb services env s) {rpc : RpcServer} {k : ℕ} {q : AcceptedConn}
    {payloads : List Bytes} {order : List RpcInstance}
    (hp : RpcServer.Progress s.rpc rpc k payloads order) (hacc : rpc.Accounted)
    (hfaith : rpc.Faithful pb services) (hk : k < s.conns.length)
    (hq : q.Serves pb services env rpc k) :
    Serving pb services env { s with conns := s.conns.set k q, rpc := rpc } := by
  refine ⟨h.recvMax, h.sendMax, hacc, hfaith, fun f hf => ?_, fun j p hj => ?_⟩
  · rw [List.length_set]
    obtain ⟨more, hmore, hsock, -⟩ := hp.frames
    rw [hmore] at hf
    rcases List.mem_append.mp hf with hf | hf
    · exact h.known f hf
    · exact hsock f hf ▸ hk
  · by_cases hjk : j = k
    · subst hjk
      rw [List.getElem?_set_self hk] at hj
      exact Option.some.inj hj ▸ hq
    · rw [List.getElem?_set_ne (Ne.symm hjk)] at hj
      exact (h.conns j p hj).other hp hjk

def roomy (s : Server) : Event → Bool
  | .conn k (.readDone _ bytes) => s.conns[k]?.all fun p =>
      decide (p.conn.recv.bound.buffer.data.length + bytes.length < 2 ^ 32)
  | _ => true

lemma roomy_fits {k : ℕ} {p : AcceptedConn} {e : UpdatedConn.Event}
    (h : s.roomy (.conn k e) = true) (hp : s.conns[k]? = some p) : e.Fits (p.view s.net) := by
  cases e with
  | readDone i bytes =>
    rw [roomy, hp, Option.all_some, decide_eq_true_eq] at h
    exact h
  | _ => trivial

lemma Serving.conn (h : Serving pb services env s) {k : ℕ} {e : UpdatedConn.Event}
    (hroom : s.roomy (.conn k e) = true) (hs : s.step pb (.conn k e) = some t) :
    Serving pb services env t := by
  obtain ⟨p, hp, hs⟩ := Option.bind_eq_some_iff.mp hs
  split_ifs at hs with hown
  obtain ⟨hown, hrel⟩ := hown
  obtain ⟨u, hu, rfl⟩ := Option.map_eq_some_iff.mp hs
  rw [h.faithful.registered] at hu
  have hserves := h.conns k p hp
  have hstart : e ≠ .start := by
    rintro rfl
    simp [ownEvent] at hown
  have happend : ∀ th msg, e ≠ .sender (.append th msg) := by
    rintro th msg rfl
    simp [ownEvent] at hown
  obtain ⟨new, hdisp, hgains⟩ := UpdatedConn.step_gains happend hu
  have hnew : u.conn.recv.dispatched.drop p.conn.recv.dispatched.length = new := by
    rw [hdisp]
    exact List.drop_left
  rw [hnew]
  obtain ⟨hf, hacc, order, hprog, hmsgs⟩ := h.faithful.dispatch h.accounted k new
  refine h.set hprog hacc hf (List.getElem?_eq_some_iff.mp hp).1 ?_
  refine hserves.own hprog hrel (fun net => ?_) hdisp ?_
  · have hmax : ((p.view s.net).env (Dispatcher.inlineReply services)).recvMaxMsgSize =
        env.recvMaxMsgSize := h.recvMax
    exact ((hserves.receives s.net).step hmax (roomy_fits hroom hp) hstart hu).of_recv rfl rfl id
  · refine hgains.trans (congrArg (p.senders.accepted ++ ·) ?_)
    have hinline : TcpConnAsync.acceptsInline
        ((p.view s.net).env (Dispatcher.inlineReply services)) = fun payload =>
          TcpConnAsync.acceptsAll env (Dispatcher.inlineReply services payload).toList := by
      funext payload
      rw [TcpConnAsync.acceptsInline, @TcpConnAsync.accepts_congr env _ h.sendMax]
      change (Dispatcher.inlineReply services payload).elim [] _ = _
      cases Dispatcher.inlineReply services payload with
      | none => rfl
      | some msg => exact (List.append_nil _).symm
    rw [hinline, hmsgs, TcpConnAsync.acceptsAll, List.flatMap_assoc]
    rfl

lemma Serving.executor (h : Serving pb services env s) {j : ℕ} {e : Executor.Event}
    (hs : s.step pb (.executor j e) = some t) : Serving pb services env t := by
  simp only [step] at hs
  split_ifs at hs with hbusy
  obtain ⟨rpc, hrpc, rfl⟩ := Option.map_eq_some_iff.mp hs
  obtain ⟨hfaith, k, order, hprog, hreplies, hmsgs⟩ := h.faithful.step_executor hrpc
  have hacc := h.accounted.step hrpc
  have hframes : rpc.frames = s.rpc.frames := by
    obtain ⟨more, hmore, -, hnil⟩ := hprog.frames
    rw [hmore, List.map_eq_nil_iff.mp hnil, List.append_nil]
  rw [replies, hreplies]
  rcases hmsgs with hnone | ⟨i, msg, hworker, hone⟩
  · rw [hnone]
    exact ⟨h.recvMax, h.sendMax, hacc, hfaith, fun f hf => h.known f (hframes ▸ hf),
      fun l p hp => (h.conns l p hp).silent hprog hnone⟩
  · rw [hone, hworker]
    refine ⟨h.recvMax, h.sendMax, hacc, hfaith, fun f hf => ?_, fun l q hq => ?_⟩
    · simpa using h.known f (hframes ▸ hf)
    · simp only [List.map_cons, List.map_nil, List.foldl_cons, List.foldl_nil,
        Option.getD_some, List.getElem?_modify] at hq
      obtain ⟨p, hp, hq⟩ := Option.map_eq_some_iff.mp hq
      by_cases hl : k = l
      · subst hl
        rw [if_pos rfl] at hq
        subst hq
        have hidle : p.senders.pc (worker j i) = .idle := by
          by_contra hpc
          refine hbusy ?_
          rw [hworker, Option.any_some, sending, List.any_eq_true]
          exact ⟨p, List.mem_of_getElem? hp, by simpa using hpc⟩
        exact (h.conns k p hp).reply hprog hone h.sendMax hidle
      · rw [if_neg hl] at hq
        subst hq
        exact (h.conns l p hp).other hprog (Ne.symm hl)

lemma Serving.release (h : Serving pb services env s) {k : ℕ}
    (hs : s.step pb (.release k) = some t) : Serving pb services env t := by
  obtain ⟨p, hp, hs⟩ := Option.bind_eq_some_iff.mp hs
  split_ifs at hs
  obtain ⟨net, hnet, rfl⟩ := Option.map_eq_some_iff.mp hs
  exact (h.net hnet).set (RpcServer.Progress.refl _ k) h.accounted h.faithful
    (List.getElem?_eq_some_iff.mp hp).1 (h.conns k p hp).release

theorem Serving.step (h : Serving pb services env s) {e : Event} (hroom : s.roomy e = true)
    (hs : s.step pb e = some t) : Serving pb services env t := by
  cases e with
  | net e =>
    cases e with
    | accept remote =>
      obtain rfl := Option.some.inj hs
      exact h.accept remote
    | release => simp [Server.step] at hs
    | moduleRuntime doc =>
      obtain rfl := Option.some.inj hs
      exact h.net (e := .moduleRuntime doc) rfl
    | feedExpire =>
      obtain ⟨net, hnet, rfl⟩ := Option.map_eq_some_iff.mp hs
      exact h.net hnet
    | feedHandler i =>
      obtain ⟨net, hnet, rfl⟩ := Option.map_eq_some_iff.mp hs
      exact h.net hnet
  | conn k e => exact h.conn hroom hs
  | release k => exact h.release hs
  | executor j e => exact h.executor hs

lemma Serving.roomy (h : Serving pb services env s) (hB : ∀ bytes, TcpConnAsync.Bounded env bytes)
    {e : Event} (hs : s.step pb e = some t) : s.roomy e = true := by
  cases e with
  | conn k e =>
    cases e with
    | readDone i bytes =>
      obtain ⟨p, hp, hs⟩ := Option.bind_eq_some_iff.mp hs
      split_ifs at hs
      obtain ⟨u, hu, -⟩ := Option.map_eq_some_iff.mp hs
      rw [Server.roomy, hp]
      exact decide_eq_true (((h.conns k p hp).receives s.net).room (hB _) hu)
    | _ => rfl
  | _ => rfl

end Server

namespace AcceptedConn

/-- The connection exists and waits for more of its stream, with nothing left to send. -/
structure Resting (p : AcceptedConn) : Prop where
  alive : p.released = false
  idle : p.readPc = .idle
  reading : p.conn.recv.reads ≠ []
  notClosed : p.conn.net.connStat ≠ .kClosed
  written : p.conn.send.writes = []
  empty : p.conn.send.bound.buffer.data = []

lemma Resting.wire_eq {p : AcceptedConn} (h : p.Resting) (hordered : p.senders.InOrder) :
    p.senders.wire = p.senders.frames := by
  have hunsent : p.senders.unsent = [] := by
    rw [Senders.unsent, show p.senders.conn.send.writes = [] from h.written]
    rfl
  have hconserved := hordered.conserved h.notClosed
  rwa [hunsent, show p.senders.conn.send.bound.buffer.data = [] from h.empty,
    List.append_nil, List.append_nil] at hconserved

end AcceptedConn

namespace Server

variable {pb : ProtoBuf} {services : UInt16 → Bool} {env : ServerEnv} {doc : NetworkDoc}
  {table : List (UInt16 × ℕ)} {s t : Server} {k : ℕ} {p : AcceptedConn}

lemma start_serving (pb : ProtoBuf) (doc : NetworkDoc) (table : List (UInt16 × ℕ)) :
    Serving pb (RpcServer.start table).services (start doc table).env (start doc table) :=
  ⟨rfl, rfl, RpcServer.start_accounted table, RpcServer.start_faithful pb table,
    by simp [start, RpcServer.start], by simp [start]⟩

/-- There is a receive limit, or no read of the run leaves 4 GiB or more buffered. -/
def WithinWord (pb : ProtoBuf) (doc : NetworkDoc) (table : List (UInt16 × ℕ))
    (es : List Event) : Prop :=
  0 < (NetServer.init doc).2.conf.recvMaxMsgSize.toInt ∨
    ∀ s e t, (machine pb doc table).Takes es s e t → s.roomy e = true

lemma bounded_of_positive (hlim : 0 < env.recvMaxMsgSize.toInt) (bytes : Bytes) :
    TcpConnAsync.Bounded env bytes := by
  have hlt := env.recvMaxMsgSize.toInt_lt
  have hM : env.recvMaxMsgSize.toInt = (env.recvMaxMsgSize.toInt.toNat : ℤ) := by omega
  exact TcpConnAsync.bounded_of_limit (TcpConnAsync.framing_eq (by omega) hM) (by omega) bytes

lemma run_serving {es : List Event} (hroom : WithinWord pb doc table es)
    (hrun : (machine pb doc table).run es = some s) :
    Serving pb (RpcServer.start table).services (start doc table).env s := by
  rcases hroom with hlim | hroom
  · have hB := @bounded_of_positive (start doc table).env hlim
    exact Machine.reachable_of_inductive (M := machine pb doc table) (start_serving pb doc table)
      (fun s e t hi hn => hi.step (hi.roomy hB hn) hn) ⟨es, hrun⟩
  · exact Machine.visits_of_inductive (M := machine pb doc table)
      (C := fun s e => s.roomy e = true) (start_serving pb doc table)
      (fun s e t hi hc hn => hi.step hc hn) hroom (Machine.visits_self hrun)

lemma Serving.order (h : Serving pb services env s) (hp : s.conns[k]? = some p) :
    ∃ order, order.Subperm (s.rpc.framesOn k) ∧
      p.senders.accepted = TcpConnAsync.acceptsAll env (RpcServer.responses pb services order) ∧
      (s.rpc.Quiescent → p.released = false → order.Perm (s.rpc.framesOn k)) := by
  have hserves := h.conns k p hp
  obtain ⟨order, hown, hpre, hall, hacc⟩ := hserves.answered
  have hids := h.accounted.ids_perm
  have hframes : (s.rpc.framesOn k).Nodup :=
    (List.Nodup.of_map _ h.accounted.nodup).filter _
  have horder : order.Nodup := by
    have hnodup : (s.rpc.answers.map AnswerCall.id).Nodup :=
      ((hids.nodup_iff.mpr List.nodup_range).of_append_right)
    have hon : ((s.rpc.answersOn k).map AnswerCall.id).Nodup :=
      hnodup.sublist (List.filter_sublist.map _)
    have hsub : (order.map RpcInstance.id).Sublist ((s.rpc.answersOn k).map AnswerCall.id) := by
      simpa [List.map_map, Function.comp_def, RpcInstance.key, AnswerCall.key] using
        hpre.sublist.map Prod.fst
    exact List.Nodup.of_map _ (hon.sublist hsub)
  have hsub := List.subperm_of_subset horder hown
  refine ⟨order, hsub, hacc, fun hq hrel => hsub.antisymm (List.subperm_of_subset hframes ?_)⟩
  intro f hf
  obtain ⟨hmem, hsock⟩ := List.mem_filter.mp hf
  rw [hq.held, List.map_nil, List.nil_append, ← h.accounted.ids] at hids
  obtain ⟨a, ha, hid⟩ := List.mem_map.mp (hids.symm.subset (List.mem_map_of_mem hmem))
  have hconn := h.accounted.conn_eq ha hmem hid
  have hkey : f.key ∈ order.map RpcInstance.key := by
    rw [hall hrel]
    refine List.mem_map.mpr ⟨a, List.mem_filter.mpr ⟨ha, ?_⟩, Prod.ext hid hconn⟩
    rw [hconn]
    exact hsock
  obtain ⟨g, hg, hgkey⟩ := List.mem_map.mp hkey
  have hgf := List.inj_on_of_nodup_map h.accounted.nodup (List.mem_filter.mp (hown hg)).1 hmem
    (congrArg Prod.fst hgkey)
  exact hgf ▸ hg

lemma Serving.requests (h : Serving pb services env s) (hp : s.conns[k]? = some p) :
    ∃ order : List Bytes,
      order.Subperm ((TcpConnAsync.framing env).bodies p.received) ∧
      p.senders.accepted = TcpConnAsync.acceptsAll env
        (order.flatMap (Dispatcher.responses pb services)) ∧
      (s.rpc.Quiescent → p.Resting →
        order.Perm ((TcpConnAsync.framing env).bodies p.received)) := by
  obtain ⟨order, hsub, hacc, hall⟩ := h.order hp
  have hserves := h.conns k p hp
  have hreceives := hserves.receives s.net
  refine ⟨order.map (·.request.data), ?_, ?_, fun hq hrest => ?_⟩
  · obtain ⟨some, hperm, hsub⟩ := hsub
    have hmap := hsub.map (·.request.data)
    rw [hserves.payloads] at hmap
    exact ⟨_, hperm.map _, hmap.trans hreceives.dispatched_prefix.sublist⟩
  · rw [hacc, RpcServer.responses, List.flatMap_map]
  · have hmap := (hall hq hrest.alive).map (·.request.data)
    rw [hserves.payloads] at hmap
    rcases hreceives.of_idle hrest.idle with ⟨hdisp, -⟩ | ⟨hreads, -⟩
    · exact hmap.trans (List.Perm.of_eq hdisp)
    · exact absurd hreads hrest.reading

/-- What a connection has accepted for sending are the responses, less those over the send
limit, to requests it received, none answered more often than it was received; to all of them
once the executors and the connection are at rest. Threads may be preempted anywhere. -/
theorem accepted_responses {es : List Event} (hroom : WithinWord pb doc table es)
    (hrun : (machine pb doc table).run es = some s) (hp : s.conns[k]? = some p) :
    ∃ order : List Bytes,
      order.Subperm ((TcpConnAsync.framing (start doc table).env).bodies p.received) ∧
      p.senders.accepted = TcpConnAsync.acceptsAll (start doc table).env
        (order.flatMap (Dispatcher.responses pb (RpcServer.start table).services)) ∧
      (s.rpc.Quiescent → p.Resting →
        order.Perm ((TcpConnAsync.framing (start doc table).env).bodies p.received)) :=
  (run_serving hroom hrun).requests hp

/-- No thread takes bytes to write while a write is outstanding. -/
def exclusive (s : Server) : Event → Bool
  | .conn k (.sender (.critical _)) => s.conns[k]?.all fun p =>
      p.conn.send.writes.isEmpty || decide (p.conn.send.bound.buffer.getLength = 0)
  | _ => true

lemma exclusive_conn {e : UpdatedConn.Event} (h : s.exclusive (.conn k e) = true)
    (hp : s.conns[k]? = some p) : (p.view s.net).TakesAlone e := by
  cases e with
  | sender e =>
    cases e with
    | critical th =>
      rw [exclusive, hp, Option.all_some, Bool.or_eq_true] at h
      exact h.imp List.isEmpty_iff.mp of_decide_eq_true
    | _ => trivial
  | _ => trivial

def Ordered (s : Server) : Prop := ∀ p ∈ s.conns, Senders.InOrder p.senders

lemma opened_inOrder : Senders.InOrder AcceptedConn.opened.senders :=
  ⟨Nat.zero_le _, List.prefix_refl _, fun _ => rfl⟩

lemma reply_inOrder {th : Thread} {msg : Message} (h : Senders.InOrder p.senders) :
    Senders.InOrder (p.reply env th msg).senders := by
  unfold AcceptedConn.reply
  split_ifs
  · exact h
  · cases hs : Senders.step env p.senders (.append th msg) with
    | none => exact h
    | some senders => exact (Senders.InOrder.step (e := .append th msg) h trivial hs).1

lemma Ordered.step {e : Event} (h : s.Ordered) (hx : s.exclusive e = true)
    (hs : s.step pb e = some t) : t.Ordered := by
  refine step_forall_conns h opened_inOrder (fun k f p u he hk _ hu hp => ?_)
    (fun _ _ _ _ hp => reply_inOrder hp) (fun p hp => hp) hs
  subst he
  exact UpdatedConn.inOrder_step hp (exclusive_conn hx hk) hu

lemma run_ordered {es : List Event} (hrun : (machine pb doc table).run es = some s)
    (hx : ∀ s e t, (machine pb doc table).Takes es s e t → s.exclusive e = true) : s.Ordered :=
  Machine.visits_of_inductive (M := machine pb doc table)
    (C := fun s e => s.exclusive e = true) (I := Ordered) (by simp [Ordered, machine, start])
    (fun s e t hi hc hn => hi.step hc hn) hx (Machine.visits_self hrun)

/-- The bytes a connection has put on the wire are a first part of the frames of the messages it
has accepted, in their order, which are responses to requests it received; once everything is at
rest all of these frames, and all requests are answered. -/
theorem responses_sent {es : List Event} (hroom : WithinWord pb doc table es)
    (hrun : (machine pb doc table).run es = some s)
    (hx : ∀ s e t, (machine pb doc table).Takes es s e t → s.exclusive e = true)
    (hp : s.conns[k]? = some p) :
    p.senders.wire <+: p.senders.frames ∧
    ∃ order : List Bytes,
      order.Subperm ((TcpConnAsync.framing (start doc table).env).bodies p.received) ∧
      p.senders.accepted = TcpConnAsync.acceptsAll (start doc table).env
        (order.flatMap (Dispatcher.responses pb (RpcServer.start table).services)) ∧
      (s.rpc.Quiescent → p.Resting →
        order.Perm ((TcpConnAsync.framing (start doc table).env).bodies p.received) ∧
          p.senders.wire = p.senders.frames) := by
  obtain ⟨order, hsub, hacc, hall⟩ := (run_serving hroom hrun).requests hp
  have hordered := run_ordered hrun hx p (List.mem_of_getElem? hp)
  exact ⟨hordered.sent, order, hsub, hacc,
    fun hq hrest => ⟨hall hq hrest, hrest.wire_eq hordered⟩⟩

/-- A request that goes to a worker, with one the dispatcher rejects behind it. The worker is
past `do_write` before the strand is. -/
def overtakingSample : List Event :=
  let frame (service : UInt16) :=
    (Message.ofPayload (RpcRequestMessage.ofRequest service 2 [5]).netStr).netStr
  let thread := worker 0 0
  [.net (.accept (some [])), .conn 0 .chain, .conn 0 (.readDone 0 (frame 1 ++ frame 9)),
    .conn 0 .chain, .conn 0 .chain, .executor 0 (.check 0), .executor 0 (.pop 0 0),
    .executor 0 (.handle 0), .conn 0 .chain, .conn 0 .chain, .conn 0 (.sender (.test .strand)),
    .conn 0 (.sender (.critical .strand)), .conn 0 (.sender (.test thread)), .conn 0 .chain,
    .conn 0 (.sender (.wrote 0 83)), .conn 0 (.sender (.writeDone 0)),
    .conn 0 (.sender (.test .strand)), .conn 0 (.sender (.critical .strand))]

def sampleDoc : NetworkDoc :=
  ⟨some anyAddress, some 8434, none, none, none, none, none, none, none, none, none, some 64⟩

def sampleMachine : Machine Server Event := machine ⟨fun _ => none, fun _ => []⟩ sampleDoc [(1, 1)]

lemma overtakingSample_rests : ∃ s p, sampleMachine.run overtakingSample = some s ∧
    s.conns[0]? = some p ∧ s.rpc.Quiescent ∧ p.Resting ∧ p.senders.accepted.length = 2 ∧
      p.senders.wire.length = 83 := by
  have hrun : (sampleMachine.run overtakingSample).any (fun s => s.conns[0]?.any fun p =>
      decide ((∀ ex ∈ s.rpc.executors, ex.rpcQueue = [] ∧ ∀ w ∈ ex.threads, w.held = []) ∧
        (p.released = false ∧ p.readPc = .idle ∧ p.conn.recv.reads ≠ [] ∧
          p.conn.net.connStat ≠ .kClosed ∧ p.conn.send.writes = [] ∧
          p.conn.send.bound.buffer.data = []) ∧
        p.senders.accepted.length = 2 ∧ p.senders.wire.length = 83)) := by
    decide +kernel
  obtain ⟨s, hs, hp⟩ := (Option.any_eq_true _ _).mp hrun
  obtain ⟨p, hp, hd⟩ := (Option.any_eq_true _ _).mp hp
  obtain ⟨hq, ⟨h1, h2, h3, h4, h5, h6⟩, hlen⟩ := of_decide_eq_true hd
  exact ⟨s, p, hs, hp, hq, ⟨h1, h2, h3, h4, h5, h6⟩, hlen⟩

lemma overtakingSample_withinWord :
    WithinWord ⟨fun _ => none, fun _ => []⟩ sampleDoc [(1, 1)] overtakingSample :=
  Or.inl (by decide)

/-- Both requests are answered, one inline and one by a worker. -/
theorem overtakingSample_accepted : ∃ s p order, sampleMachine.run overtakingSample = some s ∧
    s.conns[0]? = some p ∧ p.senders.accepted.length = 2 ∧
      List.Perm order ((TcpConnAsync.framing (start sampleDoc [(1, 1)]).env).bodies
        p.received) := by
  obtain ⟨s, p, hs, hp, hq, hrest, hlen, -⟩ := overtakingSample_rests
  obtain ⟨order, -, -, hall⟩ := accepted_responses overtakingSample_withinWord hs hp
  exact ⟨s, p, order, hs, hp, hlen, hall hq hrest⟩

theorem overtakingSample_sent : ∃ s p order, sampleMachine.run overtakingSample = some s ∧
    s.conns[0]? = some p ∧ p.senders.wire.length = 83 ∧
      List.Perm order ((TcpConnAsync.framing (start sampleDoc [(1, 1)]).env).bodies
        p.received) ∧ p.senders.wire = p.senders.frames := by
  obtain ⟨s, p, hs, hp, hq, hrest, -, hlen⟩ := overtakingSample_rests
  have htrace : ∀ x ∈ sampleMachine.trace sampleMachine.start overtakingSample,
      x.1.exclusive x.2.1 = true := List.all_eq_true.mp (by decide +kernel)
  obtain ⟨-, order, -, -, hall⟩ := responses_sent overtakingSample_withinWord hs
    (fun s e t ht => htrace _ ht.mem_trace) hp
  exact ⟨s, p, order, hs, hp, hlen, hall hq hrest⟩

end Server

end Tzrpc
