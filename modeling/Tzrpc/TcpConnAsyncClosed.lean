import Tzrpc.TcpConnAsyncReads

/-!
# Closing a server connection

A handler that detects a failure takes two steps under two different mutexes: `ops_cancel`,
which sets the status whatever it was, and `sock_shutdown_and_close`, which does nothing on
a closed connection. Handlers of the strand and of the timer run on different threads, so
the steps of several detections interleave.
-/
namespace Tzrpc.TcpConnAsync

def detects (c : TcpConnAsync) : Event → Bool
  | .readFail _ ec => ec.closeSocket || c.wasCancelled
  | .writeFail _ ec => ec.closeSocket || c.wasCancelled
  | .timerHandler i => (c.opsCancelTimer.take i).any (·.1.code = .success)
  | _ => false

/-- The handler of a detection up to and including its `ops_cancel`. -/
def cancelled (c : TcpConnAsync) : Event → Option TcpConnAsync
  | .readFail i ec =>
    c.recv.reads[i]?.bind fun _ =>
      if c.mayFail ec then
        some (c.dropRead i).revokeOpsCancelTimeout.revokeOpsCancelTimeout.opsCancel
      else none
  | .writeFail i ec =>
    c.send.writes[i]?.bind fun _ =>
      if c.mayFail ec then
        some (c.dropWrite i).revokeOpsCancelTimeout.revokeOpsCancelTimeout.opsCancel
      else none
  | .timerHandler i =>
    (c.opsCancelTimer.take i).map fun h => { c with opsCancelTimer := h.2 }.opsCancel
  | _ => none

/-- A connection, and the number of handlers that have run `ops_cancel` on it and still have
to run `sock_shutdown_and_close`. -/
structure Closing where
  conn : TcpConnAsync
  closers : ℕ
  deriving DecidableEq, Repr

namespace Closing

inductive Event
  /-- A handler that detects nothing, run to its end. -/
  | handle (e : TcpConnAsync.Event)
  | cancel (e : TcpConnAsync.Event)
  | close
  deriving DecidableEq, Repr

def step (env : ServerEnv) (s : Closing) : Event → Option Closing
  | .handle e =>
    if s.conn.detects e then none else (s.conn.step env e).map (⟨·, s.closers⟩)
  | .cancel e =>
    if s.conn.detects e then (s.conn.cancelled e).map (⟨·, s.closers + 1⟩) else none
  | .close =>
    if s.closers = 0 then none else some ⟨s.conn.sockShutdownAndClose, s.closers - 1⟩

def machine (env : ServerEnv) : Machine Closing Event := ⟨⟨started env, 0⟩, step env⟩

/-- Once closed always closed, by a single `close` of the socket. -/
def Final (env : ServerEnv) (es : List Event) : Prop :=
  (∀ s e t, (machine env).Takes es s e t → s.conn.net.connStat = .kClosed →
      t.conn.net.connStat = .kClosed) ∧
    ∀ s, (machine env).Visits es s → s.conn.net.closes ≤ 1

section Steps

variable {env : ServerEnv} {c d : TcpConnAsync} {s t : Closing}

/-- The two steps of a detection are what its handler does. -/
theorem cancelled_close {e : TcpConnAsync.Event} (h : c.detects e = true) :
    (c.cancelled e).map sockShutdownAndClose = c.step env e := by
  cases e with
  | readFail i ec =>
    have hcond : (ec.closeSocket || (c.dropRead i).revokeOpsCancelTimeout.wasCancelled) = true := by
      rw [(recvView_eq_iff.mp (revokeOpsCancelTimeout_recvView (c.dropRead i))).2.1]
      exact h
    simp only [cancelled, TcpConnAsync.step, readFailed, handleSocketEc, if_pos hcond]
    cases c.recv.reads[i]? with
    | none => rfl
    | some op => cases c.mayFail ec <;> rfl
  | writeFail i ec =>
    have hcond : (ec.closeSocket || (c.dropWrite i).revokeOpsCancelTimeout.wasCancelled) = true := by
      rw [(recvView_eq_iff.mp (revokeOpsCancelTimeout_recvView (c.dropWrite i))).2.1]
      exact h
    simp only [cancelled, TcpConnAsync.step, writeHandler, handleSocketEc, if_pos hcond]
    cases c.send.writes[i]? with
    | none => rfl
    | some op => cases c.mayFail ec <;> rfl
  | timerHandler i =>
    simp only [detects] at h
    simp only [cancelled, TcpConnAsync.step]
    cases ht : c.opsCancelTimer.take i with
    | none => rfl
    | some w =>
      have hcode : w.1.code = .success := by simpa [ht] using h
      simp only [Option.map_some, hcode]
      rfl
  | _ => simp [detects] at h

/-- Handlers that run to their ends one after the other are one order of the steps. -/
theorem run_of_handlers {es : List TcpConnAsync.Event}
    (h : (TcpConnAsync.machine env).run es = some c) :
    ∃ fs, (machine env).run fs = some ⟨c, 0⟩ := by
  refine Machine.run_induction (M := TcpConnAsync.machine env) (C := fun _ _ => True)
    (P := fun _ c => ∃ fs, (machine env).run fs = some ⟨c, 0⟩) ⟨[], rfl⟩ ?_ h
    fun _ _ _ _ => trivial
  rintro es c e d - ⟨fs, hfs⟩ - hs
  cases hd : c.detects e with
  | false =>
    refine ⟨fs ++ [.handle e], ?_⟩
    rw [Machine.run_snoc, hfs]
    show step env ⟨c, 0⟩ (.handle e) = _
    rw [step, if_neg (by simp [hd]), show c.step env e = some d from hs]
    rfl
  | true =>
    have hclose := @cancelled_close env c e hd
    rw [show c.step env e = some d from hs, Option.map_eq_some_iff] at hclose
    obtain ⟨b, hb, rfl⟩ := hclose
    refine ⟨fs ++ [.cancel e, .close], ?_⟩
    rw [Machine.run_append, hfs]
    simp [machine, step, hd, hb]

lemma step_cancel {e : TcpConnAsync.Event} (hs : step env s (.cancel e) = some t) :
    t.conn.net = s.conn.net.setConnStat .kError := by
  simp only [step] at hs
  split_ifs at hs
  obtain ⟨b, hb, rfl⟩ := Option.map_eq_some_iff.mp hs
  have hrevoke := fun d : TcpConnAsync => (recvView_eq_iff.mp (revokeOpsCancelTimeout_recvView d)).1
  cases e with
  | readFail i ec =>
    obtain ⟨op, -, hb⟩ := Option.bind_eq_some_iff.mp hb
    split_ifs at hb
    obtain rfl := Option.some.inj hb
    simp only [opsCancel, hrevoke]
    rfl
  | writeFail i ec =>
    obtain ⟨op, -, hb⟩ := Option.bind_eq_some_iff.mp hb
    split_ifs at hb
    obtain rfl := Option.some.inj hb
    simp only [opsCancel, hrevoke]
    rfl
  | timerHandler i =>
    obtain ⟨w, -, rfl⟩ := Option.map_eq_some_iff.mp hb
    rfl
  | _ => simp [cancelled] at hb

lemma step_undetected {e : TcpConnAsync.Event} (hd : c.detects e = false)
    (hs : c.step env e = some d) : d.net = c.net ∨ d.net = c.net.sockShutdownAndClose := by
  have hrevoke := fun b : TcpConnAsync => recvView_eq_iff.mp (revokeOpsCancelTimeout_recvView b)
  cases e with
  | readDone i bytes =>
    obtain ⟨op, -, -, -, hchain⟩ := step_readDone_chain hs
    have hnet := hchain.net.1
    rwa [show ((c.dropRead i).revokeOpsCancelTimeout.received bytes).net = c.net from
      (hrevoke (c.dropRead i)).1] at hnet
  | readFail i ec =>
    obtain ⟨op, -, -, rfl⟩ := step_readFail hs
    rw [readFailed, handleSocketEc, (hrevoke (c.dropRead i)).2.1, if_neg (by
      simpa [detects, dropRead] using hd)]
    exact Or.inl (hrevoke (c.dropRead i)).1
  | wrote i n =>
    obtain ⟨op, -, -, rfl⟩ := step_wrote hs
    exact Or.inl rfl
  | writeDone i =>
    obtain ⟨op, -, -, rfl⟩ := step_writeDone hs
    exact Or.inl (recvView_eq_iff.mp ((doWrite_recvView env _).trans
      (writeCompleted_recvView (c.dropWrite i)))).1
  | writeFail i ec =>
    obtain ⟨op, -, -, rfl⟩ := step_writeFail hs
    rw [writeHandler, handleSocketEc, (hrevoke (c.dropWrite i)).2.1, if_neg (by
      simpa [detects, dropWrite] using hd)]
    exact Or.inl (hrevoke (c.dropWrite i)).1
  | send msg =>
    obtain rfl := Option.some.inj hs
    exact Or.inl (recvView_eq_iff.mp (asyncSendMessage_recvView env c msg)).1
  | timerExpire =>
    simp only [TcpConnAsync.step] at hs
    split_ifs at hs
    obtain rfl := Option.some.inj hs
    exact Or.inl rfl
  | timerHandler i =>
    obtain ⟨⟨⟨w, code⟩, u⟩, ht, rfl⟩ := Option.map_eq_some_iff.mp hs
    cases code with
    | aborted => exact Or.inl rfl
    | success => simp [detects, ht] at hd

/-- What a step does to the status: nothing, the guarded close, or the unguarded error. -/
lemma step_net_cases {e : Event} (hs : step env s e = some t) :
    t.conn.net = s.conn.net ∨ t.conn.net = s.conn.net.sockShutdownAndClose ∨
      ∃ f, e = .cancel f ∧ t.conn.net = s.conn.net.setConnStat .kError := by
  cases e with
  | handle e =>
    simp only [step] at hs
    split_ifs at hs with hd
    obtain ⟨d, hd', rfl⟩ := Option.map_eq_some_iff.mp hs
    rcases step_undetected (by simpa using hd) hd' with hn | hn
    · exact Or.inl hn
    · exact Or.inr (Or.inl hn)
  | cancel e => exact Or.inr (Or.inr ⟨e, rfl, step_cancel hs⟩)
  | close =>
    simp only [step] at hs
    split_ifs at hs
    obtain rfl := Option.some.inj hs
    exact Or.inr (Or.inl rfl)

end Steps

section Runs

variable {env : ServerEnv} {s t : Closing}

def ClosedOnce (s : Closing) : Prop :=
  s.conn.net.closes = if s.conn.net.connStat = .kClosed then 1 else 0

lemma start_closedOnce (env : ServerEnv) : ClosedOnce (machine env).start := by
  have hnet : (started env).net = fresh.net.setConnStat .kWorking := by
    rw [started_eq]
    exact (recvView_eq_iff.mp (setOpsCancelTimeout_recvView env _)).1
  show (started env).net.closes = _
  rw [show ((machine env).start).conn = started env from rfl, hnet]
  rfl

lemma ClosedOnce.step {e : Event} (h : s.ClosedOnce)
    (hc : ∀ f, e = .cancel f → s.conn.net.connStat ≠ .kClosed)
    (hs : Closing.step env s e = some t) :
    t.ClosedOnce ∧ (s.conn.net.connStat = .kClosed → t.conn.net.connStat = .kClosed) := by
  unfold ClosedOnce at *
  rcases step_net_cases hs with hn | hn | ⟨f, rfl, hn⟩
  · rw [hn]
    exact ⟨h, id⟩
  · rw [hn]
    refine ⟨?_, fun _ => NetConn.sockShutdownAndClose_connStat _⟩
    rw [NetConn.sockShutdownAndClose_connStat, if_pos rfl, NetConn.sockShutdownAndClose]
    split_ifs with hclosed
    · rw [h, if_pos hclosed]
    · rw [h, if_neg hclosed]
  · have hopen := hc f rfl
    rw [if_neg hopen] at h
    rw [hn]
    exact ⟨h, fun hclosed => absurd hclosed hopen⟩

/-- Closed is final, by one close of the socket, in exactly the runs in which no handler runs
`ops_cancel` on a connection that is closed already. -/
theorem final_iff (env : ServerEnv) (es : List Event) :
    Final env es ↔ ∀ s e t, (machine env).Takes es s (.cancel e) t →
      s.conn.net.connStat ≠ .kClosed := by
  constructor
  · rintro ⟨hfinal, -⟩ s e t ht hclosed
    have hstay := hfinal s _ t ht hclosed
    obtain ⟨pre, -, -, hn⟩ := ht
    rw [@step_cancel env s t e hn] at hstay
    simp [NetConn.setConnStat] at hstay
  · intro hc
    have honce : ∀ s, (machine env).Visits es s → s.ClosedOnce := fun s hs =>
      Machine.visits_of_inductive (M := machine env)
        (C := fun s e => ∀ f, e = .cancel f → s.conn.net.connStat ≠ .kClosed)
        (start_closedOnce env) (fun s e t h hc hs => (h.step hc hs).1)
        (fun s e t ht f hf => hc s f t (hf ▸ ht)) hs
    refine ⟨fun s e t ht => ?_, fun s hs => ?_⟩
    · have hs := honce s ht.visits
      have hcancel : ∀ f, e = .cancel f → s.conn.net.connStat ≠ .kClosed :=
        fun f hf => hc s f t (hf ▸ ht)
      obtain ⟨pre, -, -, hn⟩ := ht
      exact (hs.step hcancel hn).2
    · rw [honce s hs]
      split_ifs <;> simp

def timeoutEnv : ServerEnv := ⟨0, 0, 1, fun _ => none⟩

def timeoutRun : List Event :=
  [.handle .timerExpire, .cancel (.timerHandler 0), .close,
    .cancel (.readFail 0 .operationAborted), .close]

theorem timeoutRun_closes_twice :
    (∃ s, (machine timeoutEnv).run timeoutRun = some s ∧ s.conn.net.closes = 2) ∧
      ¬ Final timeoutEnv timeoutRun := by
  have h : ((machine timeoutEnv).run timeoutRun).any (fun s =>
      decide (s.conn.net.closes = 2)) = true := by
    decide +kernel
  obtain ⟨s, hs, htwo⟩ := (Option.any_eq_true _ _).mp h
  have htwo := of_decide_eq_true htwo
  refine ⟨⟨s, hs, htwo⟩, fun hfinal => ?_⟩
  have hone := hfinal.2 s (Machine.visits_self hs)
  omega

end Runs

end Closing

end Tzrpc.TcpConnAsync
