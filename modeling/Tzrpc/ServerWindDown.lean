import Tzrpc.ConnWindDown
import Tzrpc.NetServerAdmission
import Tzrpc.Server

/-!
# The server winds down

Which connections exist, over every run of the whole server: the acceptor's counter counts
them, and once nothing arrives any more they are all destroyed, in whatever order their
operations complete.
-/
namespace Tzrpc

lemma Dispatcher.inlineReply_length {services : UInt16 → Bool} {payload : Bytes} {msg : Message}
    (h : inlineReply services payload = some msg) : msg.netStr.length ≤ rejectLength := by
  unfold inlineReply at h
  cases hd : (handleRPC services (.ofPayload 0 0 payload)).1 with
  | handed => simp [hd] at h
  | rejected status =>
    rw [hd] at h
    obtain rfl := Option.some.inj h
    simp [RpcInstance.rejectMessage, Message.netStr, RpcResponseMessage.ofStatus, rejectLength]

namespace Executor

lemma step_threads {pb : ProtoBuf} {ex : Executor} {e : Event} {r : Executor × List AnswerCall}
    (h : ex.step pb e = some r) :
    ex.threads.length ≤ r.1.threads.length ∧ ∀ i, e.worker = some i → i < ex.threads.length := by
  have hset : ∀ {i : ℕ} {w v : Worker}, ex.threads[i]? = some w →
      ex.threads.length ≤ (ex.setThread i v).threads.length ∧
        ∀ j, some i = some j → j < ex.threads.length := by
    intro i w v hw
    refine ⟨(List.length_set).ge, fun j hj => ?_⟩
    exact Option.some.inj hj ▸ (List.getElem?_eq_some_iff.mp hw).1
  cases e with
  | addThread =>
    obtain rfl := Option.some.inj h
    exact ⟨by simp [addThread], by simp [Event.worker]⟩
  | setStatus i status =>
    obtain ⟨w, hw, rfl⟩ := Option.map_eq_some_iff.mp h
    exact ⟨(hset hw).1, by simp [Event.worker]⟩
  | check i =>
    obtain ⟨w, hw, h⟩ := Option.bind_eq_some_iff.mp h
    split_ifs at h
    · obtain rfl := Option.some.inj h
      exact hset hw
    · obtain rfl := Option.some.inj h
      exact ⟨le_rfl, (hset (v := w) hw).2⟩
    · obtain rfl := Option.some.inj h
      exact hset hw
  | pop i j =>
    obtain ⟨w, hw, h⟩ := Option.bind_eq_some_iff.mp h
    split_ifs at h
    obtain ⟨inst, -, rfl⟩ := Option.map_eq_some_iff.mp h
    exact hset hw
  | popFail i =>
    obtain ⟨w, hw, h⟩ := Option.bind_eq_some_iff.mp h
    split_ifs at h
    obtain rfl := Option.some.inj h
    exact hset hw
  | handle i =>
    obtain ⟨w, hw, h⟩ := Option.bind_eq_some_iff.mp h
    cases hpc : w.pc with
    | handling inst =>
      simp only [hpc] at h
      obtain rfl := Option.some.inj h
      exact hset hw
    | top => simp [hpc] at h
    | pop => simp [hpc] at h
    | dead => simp [hpc] at h

end Executor

lemma RpcServer.dispatch_threads (s : RpcServer) (k : ℕ) (payloads : List Bytes) :
    (s.dispatch k payloads).executors.map Executor.threads =
      s.executors.map Executor.threads := by
  induction payloads generalizing s with
  | nil => rfl
  | cons payload payloads ih =>
    refine (ih (s.handleRPC (.ofPayload s.frames.length k payload))).trans ?_
    rcases s.handleRPC_cases (.ofPayload s.frames.length k payload) with
      ⟨status, -, hr⟩ | ⟨inst, -, hr⟩
    · rw [hr]
    · rw [hr]
      exact Executor.map_pushTo (fun _ _ => rfl) inst s.executors

namespace Server

def workers (s : Server) : List Thread := s.threads.tail

variable {pb : ProtoBuf} {s t : Server}

lemma mem_workers {th : Thread} : th ∈ s.workers ↔
    ∃ j ex i, s.rpc.executors[j]? = some ex ∧ i < ex.threads.length ∧ th = worker j i := by
  simp only [workers, threads, List.tail_cons, List.mem_flatMap, List.mem_map, List.mem_range,
    Prod.exists, List.mem_zipIdx_iff_getElem?]
  constructor
  · rintro ⟨ex, j, hex, i, hi, rfl⟩
    exact ⟨j, ex, i, hex, hi, rfl⟩
  · rintro ⟨j, ex, i, hex, hi, rfl⟩
    exact ⟨ex, j, hex, i, hi, rfl⟩

lemma strand_notMem (s : Server) : .strand ∉ s.workers := by
  intro h
  obtain ⟨j, ex, i, -, -, h⟩ := mem_workers.mp h
  simp [worker] at h

lemma workers_eq (s : Server) : s.workers =
    (s.rpc.executors.map Executor.threads).zipIdx.flatMap fun ex =>
      (List.range ex.1.length).map (worker ex.2) := by
  rw [List.zipIdx_map, List.flatMap_map]
  rfl

lemma workers_congr (h : t.rpc.executors.map Executor.threads =
    s.rpc.executors.map Executor.threads) : t.workers = s.workers := by
  rw [workers_eq, workers_eq, h]

/-- The connection objects that exist. -/
def live (s : Server) : ℕ := s.conns.countP fun p => !p.released

/-- The counter of the acceptor is right, and only threads of the server are in `do_write`. -/
structure Kept (s : Server) : Prop where
  counted : s.net.currentConcurrency = s.live
  busyOnly : ∀ p ∈ s.conns, p.senders.BusyOnly s.workers

lemma busyOnly_mono {senders : Senders} {xs ys : List Thread} (h : senders.BusyOnly xs)
    (hsub : xs ⊆ ys) : senders.BusyOnly ys :=
  fun th hth => List.cons_subset_cons _ hsub (h th hth)

lemma countP_modify {conns : List AcceptedConn} {f : AcceptedConn → AcceptedConn} {k : ℕ}
    (hf : ∀ p, (f p).released = p.released) :
    (conns.modify k f).countP (fun p => !p.released) = conns.countP fun p => !p.released := by
  induction conns generalizing k with
  | nil => simp
  | cons p conns ih =>
    cases k with
    | zero => simp [List.countP_cons, hf]
    | succ k => simp [List.countP_cons, ih]

lemma reply_released (env : ServerEnv) (th : Thread) (p : AcceptedConn) (msg : Message) :
    (p.reply env th msg).released = p.released := by
  unfold AcceptedConn.reply
  split_ifs <;> rfl

lemma reply_busyOnly {env : ServerEnv} {th : Thread} {p : AcceptedConn} {msg : Message}
    {xs : List Thread} (hth : th ∈ xs) (h : p.senders.BusyOnly xs) :
    (p.reply env th msg).senders.BusyOnly xs := by
  unfold AcceptedConn.reply
  split_ifs
  · exact h
  · cases hs : Senders.step env p.senders (.append th msg) with
    | none => exact h
    | some senders =>
      intro u hu
      by_cases hstrand : u = .strand
      · exact hstrand ▸ List.mem_cons_self
      · by_cases heq : u = th
        · exact heq ▸ List.mem_cons_of_mem _ hth
        · refine h u fun hidle => hu ?_
          refine Senders.step_idle hs hstrand hidle fun msg' he => heq ?_
          injection he with h
          exact h.symm

lemma Kept.accept (h : s.Kept) (remote : Option Bytes) : (s.accept remote).Kept := by
  have hcases := s.net.acceptHandler_concurrency remote
  have hcounted := h.counted
  unfold Server.accept
  dsimp only
  split_ifs with hlt
  · refine ⟨?_, fun p hp => ?_⟩
    · simp only [live, List.countP_append] at hcounted ⊢
      have hopened : [AcceptedConn.opened].countP (fun p => !p.released) = 1 := rfl
      omega
    · rcases List.mem_append.mp hp with hp | hp
      · exact h.busyOnly p hp
      · obtain rfl := List.mem_singleton.mp hp
        exact fun th hth => absurd rfl hth
  · refine ⟨?_, h.busyOnly⟩
    simp only [live] at hcounted ⊢
    omega

lemma Kept.conn (h : s.Kept) {k : ℕ} {e : UpdatedConn.Event}
    (hs : s.step pb (.conn k e) = some t) : t.Kept ∧ t.workers = s.workers := by
  obtain ⟨p, hp, hs⟩ := Option.bind_eq_some_iff.mp hs
  split_ifs at hs with hown
  obtain ⟨u, hu, rfl⟩ := Option.map_eq_some_iff.mp hs
  have hworkers : ∀ {conns : List AcceptedConn} {payloads : List Bytes},
      workers { s with conns := conns, rpc := s.rpc.dispatch k payloads } = s.workers :=
    workers_congr (s.rpc.dispatch_threads k _)
  refine ⟨⟨?_, fun q hq => ?_⟩, hworkers⟩
  · have hcount := @countP_set_add _ (fun p => !p.released) _ _ _ (p.after e u) hp
    have hsame : (p.after e u).released = p.released := rfl
    rw [hsame] at hcount
    exact h.counted.trans (Nat.add_right_cancel hcount).symm
  · rw [hworkers]
    refine forall_mem_set h.busyOnly ?_ q hq
    refine UpdatedConn.busyOnly_step (e := e) ?_ (h.busyOnly p (List.mem_of_getElem? hp)) hu
    rintro th msg rfl
    simp [ownEvent] at hown

lemma Kept.release (h : s.Kept) {k : ℕ} (hs : s.step pb (.release k) = some t) : t.Kept := by
  obtain ⟨p, hp, hs⟩ := Option.bind_eq_some_iff.mp hs
  split_ifs at hs with hfree
  obtain ⟨net, hnet, rfl⟩ := Option.map_eq_some_iff.mp hs
  simp only [NetServer.step] at hnet
  split_ifs at hnet with h0
  obtain rfl := Option.some.inj hnet
  refine ⟨?_, forall_mem_set h.busyOnly (h.busyOnly p (List.mem_of_getElem? hp))⟩
  have hcount := @countP_set_add _ (fun p => !p.released) _ _ _ { p with released := true } hp
  have hcounted := h.counted
  simp only [hfree.1, live, Bool.not_true, Bool.not_false, Bool.false_eq_true, ↓reduceIte]
    at hcount hcounted ⊢
  omega

lemma executor_workers {j : ℕ} {e : Executor.Event} (hs : s.step pb (.executor j e) = some t) :
    s.workers ⊆ t.workers ∧
      (s.replies pb j e ≠ [] → worker j (e.worker.getD 0) ∈ t.workers) := by
  simp only [step] at hs
  split_ifs at hs
  obtain ⟨rpc, hrpc, rfl⟩ := Option.map_eq_some_iff.mp hs
  obtain ⟨ex, hex, hrpc⟩ := Option.bind_eq_some_iff.mp hrpc
  obtain ⟨r, hr, rfl⟩ := Option.map_eq_some_iff.mp hrpc
  obtain ⟨hmore, hworker⟩ := Executor.step_threads hr
  have hj := (List.getElem?_eq_some_iff.mp hex).1
  refine ⟨fun th hth => ?_, fun hne => ?_⟩
  · obtain ⟨j', ex', i, hex', hi, rfl⟩ := mem_workers.mp hth
    by_cases hjj : j' = j
    · subst hjj
      obtain rfl := Option.some.inj (hex.symm.trans hex')
      exact mem_workers.mpr ⟨j', r.1, i, List.getElem?_set_self hj, hi.trans_le hmore, rfl⟩
    · exact mem_workers.mpr ⟨j', ex', i,
        (List.getElem?_set_ne (Ne.symm hjj)).trans hex', hi, rfl⟩
  · rw [replies, hex, Option.bind_some] at hne
    cases hrun : ex.running e with
    | none => simp [hrun] at hne
    | some inst =>
      obtain ⟨i, rfl⟩ := Executor.running_handle hrun
      exact mem_workers.mpr ⟨j, r.1, i, List.getElem?_set_self hj,
        (hworker i rfl).trans_le hmore, rfl⟩

lemma Kept.executor (h : s.Kept) {j : ℕ} {e : Executor.Event}
    (hs : s.step pb (.executor j e) = some t) : t.Kept := by
  obtain ⟨hsub, hworker⟩ := executor_workers hs
  simp only [step] at hs
  split_ifs at hs
  obtain ⟨rpc, -, rfl⟩ := Option.map_eq_some_iff.mp hs
  refine ⟨h.counted.trans ?_, ?_⟩
  · refine (List.foldlRecOn (motive := fun conns : List AcceptedConn =>
      conns.countP (fun p => !p.released) = s.live) _ _ rfl fun conns hconns m _ => ?_).symm
    exact (countP_modify fun p => reply_released _ _ _ _).trans hconns
  · refine List.foldlRecOn (motive := fun conns : List AcceptedConn =>
      ∀ p ∈ conns, p.senders.BusyOnly _) _ _
      (fun p hp => busyOnly_mono (h.busyOnly p hp) hsub) fun conns hconns m hm => ?_
    exact forall_mem_modify hconns fun p hp =>
      reply_busyOnly (hworker (List.ne_nil_of_mem hm)) hp

theorem Kept.step (h : s.Kept) {e : Event} (hs : s.step pb e = some t) : t.Kept := by
  have hnet : ∀ {net : NetServer}, net.currentConcurrency = s.net.currentConcurrency →
      Kept { s with net := net } := fun heq => ⟨heq.trans h.counted, h.busyOnly⟩
  cases e with
  | net e =>
    cases e with
    | accept remote =>
      obtain rfl := Option.some.inj hs
      exact h.accept remote
    | release => simp [Server.step] at hs
    | moduleRuntime doc =>
      obtain rfl := Option.some.inj hs
      exact hnet (s.net.moduleRuntime_concurrency doc)
    | feedExpire =>
      obtain ⟨net, hexp, rfl⟩ := Option.map_eq_some_iff.mp hs
      simp only [NetServer.step] at hexp
      split_ifs at hexp
      obtain rfl := Option.some.inj hexp
      exact hnet rfl
    | feedHandler i =>
      obtain ⟨net, hfeed, rfl⟩ := Option.map_eq_some_iff.mp hs
      obtain ⟨w, -, rfl⟩ := Option.map_eq_some_iff.mp hfeed
      exact hnet rfl
  | conn k e => exact (h.conn hs).1
  | release k => exact h.release hs
  | executor j e => exact h.executor hs

lemma start_kept (doc : NetworkDoc) (table : List (UInt16 × ℕ)) : (start doc table).Kept := by
  refine ⟨?_, fun p hp => by cases hp⟩
  simp only [start, NetServer.init]
  split_ifs <;> rfl

lemma reachable_kept {doc : NetworkDoc} {table : List (UInt16 × ℕ)}
    (h : (machine pb doc table).Reachable s) : s.Kept :=
  Machine.reachable_of_inductive (M := machine pb doc table) (start_kept doc table)
    (fun _ _ _ hi hn => hi.step hn) h

/-- A step of a connection that exists already, without anything new to read or to send. -/
def Event.windsDown : Event → Bool
  | .conn _ e => e.windsDown
  | .release _ => true
  | _ => false

def remainingOf (s : Server) (p : AcceptedConn) : ℕ :=
  if p.released then 0 else 1 + (p.view s.net).remaining s.workers

def remaining (s : Server) : ℕ := (s.conns.map s.remainingOf).sum

lemma remaining_set {k : ℕ} {p q : AcceptedConn} (hp : s.conns[k]? = some p)
    (hconns : t.conns = s.conns.set k q) (hsame : t.remainingOf = s.remainingOf)
    (hlt : s.remainingOf q < s.remainingOf p) : t.remaining < s.remaining := by
  have hsum := @sum_set_add _ s.remainingOf _ _ _ q hp
  rw [remaining, hconns, hsame, remaining]
  omega

lemma Kept.winds (h : s.Kept) {e : Event} (he : e.windsDown) (hs : s.step pb e = some t) :
    t.Kept ∧ t.remaining < s.remaining := by
  refine ⟨h.step hs, ?_⟩
  cases e with
  | net e => simp [Event.windsDown] at he
  | executor j e => simp [Event.windsDown] at he
  | conn k e =>
    have hworkers := (h.conn hs).2
    obtain ⟨p, hp, hs⟩ := Option.bind_eq_some_iff.mp hs
    split_ifs at hs with hown
    obtain ⟨u, hu, rfl⟩ := Option.map_eq_some_iff.mp hs
    have hlt := UpdatedConn.step_remaining s.strand_notMem
      (fun _ _ => Dispatcher.inlineReply_length) (h.busyOnly p (List.mem_of_getElem? hp)) he hu
    refine remaining_set hp rfl ?_ ?_
    · funext q
      rw [remainingOf, hworkers]
      rfl
    · have hrel : (p.after e u).released = false := hown.2
      rw [remainingOf, remainingOf, hrel, hown.2]
      exact Nat.add_lt_add_left hlt 1
  | release k =>
    obtain ⟨p, hp, hs⟩ := Option.bind_eq_some_iff.mp hs
    split_ifs at hs with hfree
    obtain ⟨net, -, rfl⟩ := Option.map_eq_some_iff.mp hs
    refine remaining_set hp rfl rfl ?_
    rw [remainingOf, remainingOf, hfree.1]
    exact Nat.lt_add_right _ Nat.zero_lt_one

lemma Kept.stuck_iff (h : s.Kept) :
    (∀ e : Event, e.windsDown → s.step pb e = none) ↔ s.live = 0 := by
  rw [live, List.countP_eq_zero]
  constructor
  · intro hstuck p hp hrel
    rw [Bool.not_eq_true'] at hrel
    obtain ⟨k, hk⟩ := List.mem_iff_getElem?.mp hp
    have hunused : (p.view s.net).Unused := by
      refine @UpdatedConn.unused_of_stuck (Dispatcher.inlineReply s.rpc.services) _
        fun e he => ?_
      have hnone := hstuck (.conn k e) he
      have hown : ownEvent e = true := by
        unfold UpdatedConn.Event.windsDown at he
        split at he <;> simp_all [ownEvent]
      simpa [Server.step, hk, hown, hrel] using hnone
    have hfree : p.Unheld s.threads := ⟨hunused.readPc, hunused.reads, hunused.writes,
      hunused.pending, hunused.queued, fun th _ => hunused.senders th⟩
    have hlive : 0 < s.live := List.countP_pos_iff.mpr ⟨p, hp, by simp [hrel]⟩
    have hcount : s.net.currentConcurrency ≠ 0 := by
      rw [h.counted]
      exact hlive.ne'
    have hnone := hstuck (.release k) rfl
    simp [Server.step, hk, hrel, hfree, NetServer.step, hcount] at hnone
  · intro hnone e he
    have hreleased : ∀ (k : ℕ) (p : AcceptedConn), s.conns[k]? = some p → p.released = true :=
      fun k p hp => by simpa using hnone p (List.mem_of_getElem? hp)
    cases e with
    | net e => simp [Event.windsDown] at he
    | executor j e => simp [Event.windsDown] at he
    | conn k e =>
      refine Option.bind_eq_none_iff.mpr fun p hp => ?_
      simp [hreleased k p hp]
    | release k =>
      refine Option.bind_eq_none_iff.mpr fun p hp => ?_
      simp [hreleased k p hp]

variable {doc : NetworkDoc} {table : List (UInt16 × ℕ)}

/-- Once nothing arrives any more, whatever the order in which operations complete, timers
expire and threads get on, the connections take no more steps than were left to them, and
they can take none exactly where the acceptor's counter has gone down to zero. -/
theorem connections_released (h : (machine pb doc table).Reachable s) {es : List Event}
    (hes : ∀ e ∈ es, e.windsDown) (hrun : (machine pb doc table).exec s es = some t) :
    es.length ≤ s.remaining ∧ t.net.currentConcurrency = t.live ∧
      ((∀ e : Event, e.windsDown → t.step pb e = none) ↔ t.live = 0) := by
  have hkept := reachable_kept h
  have hlast := Machine.exec_of_inductive (M := machine pb doc table) (I := Kept)
    (fun _ _ _ hi _ hn => hi.step hn) hes hkept hrun
  have hle := Machine.exec_length_le (M := machine pb doc table) (I := Kept)
    (fun _ _ _ hi he hn => hi.winds he hn) hes hkept hrun
  exact ⟨by omega, hlast.counted, hlast.stuck_iff⟩

def limitedMachine : Machine Server Event :=
  machine ⟨fun _ => none, fun _ => []⟩
    { NetServer.concurrencyDoc 1 with opsCancelTimeOut := some 10 } [(1, 1)]

def rejectedRequest : List Event :=
  [.net (.accept (some [])), .conn 0 .chain, .conn 0 (.readDone 0
      (Message.ofPayload (RpcRequestMessage.ofRequest 9 2 [5]).netStr).netStr),
    .conn 0 .chain, .conn 0 .chain]

/-- The peer is gone by the time the rejection is sent. -/
def goneEvents : List Event :=
  [.conn 0 (.sender (.test .strand)), .conn 0 (.sender (.critical .strand)), .conn 0 .chain,
    .conn 0 (.readFail 0 .eof), .conn 0 (.sender (.writeFail 0 .eof)),
    .conn 0 (.sender (.timerHandler 0)), .conn 0 (.sender (.timerHandler 0)),
    .conn 0 (.sender (.timerHandler 0)), .release 0]

theorem goneEvents_released : ∃ s t, limitedMachine.run rejectedRequest = some s ∧
    limitedMachine.exec s goneEvents = some t ∧ s.live = 1 ∧ 9 ≤ s.remaining ∧
      t.net.currentConcurrency = 0 ∧ ∀ e : Event, e.windsDown → limitedMachine.next t e = none := by
  have hrun : (limitedMachine.run rejectedRequest).any (fun s => decide (s.live = 1) &&
      (limitedMachine.exec s goneEvents).any fun t => decide (t.live = 0)) := by
    decide +kernel
  obtain ⟨s, hs, hrun⟩ := (Option.any_eq_true _ _).mp hrun
  obtain ⟨hlive, hrun⟩ := Bool.and_eq_true_iff.mp hrun
  obtain ⟨t, ht, hgone⟩ := (Option.any_eq_true _ _).mp hrun
  have hes : ∀ e ∈ goneEvents, e.windsDown = true := List.all_eq_true.mp (by decide)
  obtain ⟨hlen, hcount, hstuck⟩ := connections_released ⟨_, hs⟩ hes ht
  exact ⟨s, t, hs, ht, of_decide_eq_true hlive, hlen,
    hcount.trans (of_decide_eq_true hgone), hstuck.mpr (of_decide_eq_true hgone)⟩

lemma acceptHandler_within {net : NetServer} {remote : Option Bytes}
    (h0 : 0 < net.conf.serviceConcurrency.toInt) :
    (net.acceptHandler remote).currentConcurrency = net.currentConcurrency ∨
      (net.acceptHandler remote).currentConcurrency = net.currentConcurrency + 1 ∧
        (net.currentConcurrency : ℤ) ≤ net.conf.serviceConcurrency.toInt := by
  rcases net.acceptHandler_concurrency remote with h | ⟨h, ip, heq, hsafe, htoken⟩
  · exact Or.inl h
  · obtain rfl : remote = some ip := by simpa using heq
    refine Or.inr ⟨h, ?_⟩
    have hconf : net.conf.getServiceToken.2.serviceConcurrency = net.conf.serviceConcurrency := by
      unfold NetConf.getServiceToken
      split_ifs <;> rfl
    have hne : net.conf.serviceConcurrency ≠ 0 := by
      rintro hzero
      simp [hzero] at h0
    by_contra hlt
    have hrefuse : net.conf.serviceConcurrency.toInt < net.currentConcurrency := by omega
    simp [NetServer.acceptHandler, hsafe, htoken, hconf, hne, hrefuse] at h

lemma step_count {e : Event} (h0 : 0 < s.net.conf.serviceConcurrency.toInt)
    (hs : s.step pb e = some t) : t.net.currentConcurrency ≤ s.net.currentConcurrency ∨
      t.net.currentConcurrency = s.net.currentConcurrency + 1 ∧
        (s.net.currentConcurrency : ℤ) ≤ s.net.conf.serviceConcurrency.toInt := by
  have hnet : ∀ {e : NetServer.Event} {net : NetServer}, (∀ remote, e ≠ .accept remote) →
      s.net.step e = some net → net.currentConcurrency ≤ s.net.currentConcurrency := by
    intro e net hne hn
    rcases NetServer.step_concurrency hn with h | ⟨-, ip, rfl, -⟩
    · exact h
    · exact absurd rfl (hne (some ip))
  cases e with
  | net e =>
    cases e with
    | accept remote =>
      obtain rfl := Option.some.inj hs
      rcases @acceptHandler_within s.net remote h0 with h | h
      · exact Or.inl h.le
      · exact Or.inr h
    | release => simp [step] at hs
    | moduleRuntime doc =>
      obtain rfl := Option.some.inj hs
      exact Or.inl (s.net.moduleRuntime_concurrency doc).le
    | feedExpire =>
      obtain ⟨net, hn, rfl⟩ := Option.map_eq_some_iff.mp hs
      exact Or.inl (hnet (by simp) hn)
    | feedHandler i =>
      obtain ⟨net, hn, rfl⟩ := Option.map_eq_some_iff.mp hs
      exact Or.inl (hnet (by simp) hn)
  | conn k e =>
    obtain ⟨p, -, hs⟩ := Option.bind_eq_some_iff.mp hs
    split_ifs at hs
    obtain ⟨u, -, rfl⟩ := Option.map_eq_some_iff.mp hs
    exact Or.inl le_rfl
  | release k =>
    obtain ⟨p, -, hs⟩ := Option.bind_eq_some_iff.mp hs
    split_ifs at hs
    obtain ⟨net, hn, rfl⟩ := Option.map_eq_some_iff.mp hs
    exact Or.inl (hnet (by simp) hn)
  | executor j e =>
    simp only [step] at hs
    split_ifs at hs
    obtain ⟨rpc, -, rfl⟩ := Option.map_eq_some_iff.mp hs
    exact Or.inl le_rfl

/-- While limits of at most `L` are in force, at most one connection more than `L` exists. -/
theorem live_le {L : ℕ} {es : List Event}
    (hlimit : ∀ s, (machine pb doc table).Visits es s →
      0 < s.net.conf.serviceConcurrency.toInt ∧ s.net.conf.serviceConcurrency.toInt ≤ L)
    (hrun : (machine pb doc table).run es = some s) : s.live ≤ L + 1 := by
  have hkept := reachable_kept ⟨es, hrun⟩
  have hcount := Machine.visits_of_inductive (M := machine pb doc table)
    (C := fun s _ => 0 < s.net.conf.serviceConcurrency.toInt ∧
      s.net.conf.serviceConcurrency.toInt ≤ L)
    (I := fun s => s.net.currentConcurrency ≤ L + 1) ?_ (fun s e t hle hc hn => ?_)
    (fun s e t ht => hlimit s ht.visits) (Machine.visits_self hrun)
  · exact hkept.counted ▸ hcount
  · have hstart := (start_kept doc table).counted
    change (start doc table).net.currentConcurrency ≤ L + 1
    rw [hstart]
    exact Nat.zero_le _
  · rcases step_count hc.1 hn with h | ⟨h, hwithin⟩
    · exact h.trans hle
    · omega

theorem limitedMachine_live : ∃ s, limitedMachine.run
    [.net (.accept (some [])), .net (.accept (some [])), .net (.accept (some []))] = some s ∧
      s.live = 2 ∧ s.live ≤ 1 + 1 := by
  have hrun : (limitedMachine.run [.net (.accept (some [])), .net (.accept (some [])),
      .net (.accept (some []))]).any (fun s => s.live = 2) := by
    decide +kernel
  obtain ⟨s, hs, hlive⟩ := (Option.any_eq_true _ _).mp hrun
  refine ⟨s, hs, of_decide_eq_true hlive, live_le (L := 1) (fun u hu => ?_) hs⟩
  apply hu.of_trace (P := fun u => 0 < u.net.conf.serviceConcurrency.toInt ∧
    u.net.conf.serviceConcurrency.toInt ≤ ((1 : ℕ) : ℤ)) <;> decide +kernel

end Server

end Tzrpc
