import Tzrpc.TcpConnAsync

/-!
# Concurrent senders

The send side of a server connection with the steps of its users interleaved: any number of
executor threads call `async_send_message` while the strand runs the handlers. `do_write`
is two steps here, the unlocked test and the critical section, and whatever happens between
them happens between the steps of one thread.
-/
namespace Tzrpc

inductive Thread
  | strand
  | executor (i : ℕ)
  deriving DecidableEq, Repr

/-- Where a thread is: outside `do_write`, about to make its tests, or past them and about
to take `bound_mutex_`. -/
inductive SendPc
  | idle
  | atTest
  | atCritical
  deriving DecidableEq, Repr

structure Senders where
  conn : TcpConnAsync
  pc : Thread → SendPc
  /-- The messages appended so far, oldest first. -/
  accepted : List Message
  /-- The bytes the writes have put on the wire. -/
  wire : Bytes

namespace Senders

def start (env : ServerEnv) : Senders := ⟨.started env, fun _ => .idle, [], []⟩

inductive Event
  | append (t : Thread) (msg : Message)
  | test (t : Thread)
  | critical (t : Thread)
  | wrote (i n : ℕ)
  | writeDone (i : ℕ)
  | writeFail (i : ℕ) (ec : ErrorCode)
  | readFail (ec : ErrorCode)
  | refuseHead
  | timerExpire
  | timerHandler (i : ℕ)
  deriving DecidableEq, Repr

def goto (s : Senders) (t : Thread) (pc : SendPc) : Senders :=
  { s with pc := Function.update s.pc t pc }

def step (env : ServerEnv) (s : Senders) : Event → Option Senders
  | .append t msg =>
    if s.pc t = .idle then
      if TcpConnAsync.refusesSize env msg then some s
      else some ({ s with
        conn := s.conn.appendMessage msg, accepted := s.accepted ++ [msg] }.goto t .atTest)
    else none
  | .test t =>
    if s.pc t = .atTest then some (s.goto t (if s.conn.doWriteTest then .atCritical else .idle))
    else none
  | .critical t =>
    if s.pc t = .atCritical then
      some ({ s with conn := s.conn.doWriteCritical env }.goto t .idle)
    else none
  | .wrote i n =>
    s.conn.send.writes[i]?.bind fun op =>
      if op.sent + n ≤ op.size ∧ s.conn.net.connStat ≠ .kClosed then
        some { s with conn := s.conn.markSent i op n, wire := s.wire ++ s.conn.nextBytes op n }
      else none
  | .writeDone i =>
    s.conn.send.writes[i]?.bind fun op =>
      if op.sent = op.size ∧ s.pc .strand = .idle then
        some ({ s with conn := (s.conn.dropWrite i).writeCompleted }.goto .strand .atTest)
      else none
  | .writeFail i ec =>
    s.conn.send.writes[i]?.bind fun _ =>
      if s.conn.mayFail ec ∧ s.pc .strand = .idle then
        some { s with conn := (s.conn.dropWrite i).writeHandler env (some ec) }
      else none
  | .readFail ec =>
    if s.conn.mayFail ec ∧ s.pc .strand = .idle then some { s with conn := s.conn.readFailed ec }
    else none
  | .refuseHead =>
    if s.pc .strand = .idle then some { s with conn := s.conn.sockShutdownAndClose } else none
  | .timerExpire =>
    if s.conn.opsCancelTimer.pending = [] then none
    else some { s with
      conn := { s.conn with opsCancelTimer := s.conn.opsCancelTimer.expire } }
  | .timerHandler i =>
    (s.conn.opsCancelTimer.take i).map fun h =>
      { s with conn := { s.conn with opsCancelTimer := h.2 }.opsCancelTimeoutCall h.1.code }

def machine (env : ServerEnv) : Machine Senders Event := ⟨start env, step env⟩

def frames (s : Senders) : Bytes := (s.accepted.map Message.netStr).flatten

def unsent (s : Senders) : Bytes :=
  (s.conn.send.writes.map fun op => (s.conn.send.bound.ioBlock.take op.size).drop op.sent).flatten

/-- One write at a time, and only whole messages in order: until the connection is closed
every appended byte is on the wire, in the block or in the buffer. -/
structure InOrder (s : Senders) : Prop where
  atMostOne : s.conn.send.writes.length ≤ 1
  sent : s.wire <+: s.frames
  conserved : s.conn.net.connStat ≠ .kClosed →
    s.wire ++ s.unsent ++ s.conn.send.bound.buffer.data = s.frames

/-- The same, with every write under `kSend`. -/
structure OneWrite (s : Senders) : Prop extends InOrder s where
  sending : s.conn.send.writes ≠ [] → s.conn.send.status = .kSend

def KeepsBlock (s t : Senders) : Prop :=
  s.conn.send.writes ≠ [] → t.conn.send.bound.ioBlock = s.conn.send.bound.ioBlock

/-- A thread enters the critical section only while no write is outstanding. -/
def Exclusive (s : Senders) : Event → Prop
  | .critical _ => s.conn.send.writes = []
  | _ => True

/-- No thread takes bytes out of the buffer while a write is outstanding. -/
def TakesAlone (s : Senders) : Event → Prop
  | .critical _ => s.conn.send.writes = [] ∨ s.conn.send.bound.buffer.getLength = 0
  | _ => True

lemma Exclusive.takesAlone {s : Senders} {e : Event} (h : s.Exclusive e) : s.TakesAlone e := by
  cases e with
  | critical th => exact Or.inl h
  | _ => trivial

section Conn

variable {env : ServerEnv} {c : TcpConnAsync}

lemma handleSocketEc_send (c : TcpConnAsync) (ec : ErrorCode) :
    (c.handleSocketEc ec).send = c.send := by
  unfold TcpConnAsync.handleSocketEc
  split_ifs
  · exact c.revokeOpsCancelTimeout_send
  · rfl

lemma handleSocketEc_closed {ec : ErrorCode} (h : c.mayFail ec) :
    (c.handleSocketEc ec).net.connStat = .kClosed := by
  unfold TcpConnAsync.handleSocketEc
  split_ifs with hc
  · exact NetConn.sockShutdownAndClose_connStat _
  · simp only [Bool.or_eq_true, not_or, Bool.not_eq_true] at hc
    have hec : ec = .operationAborted := by
      cases ec <;> simp_all [ErrorCode.closeSocket]
    simpa [TcpConnAsync.mayFail, hec, hc.2] using h

lemma revoke_mayFail (c : TcpConnAsync) (ec : ErrorCode) :
    c.revokeOpsCancelTimeout.mayFail ec = c.mayFail ec := by
  obtain ⟨hn, hc, -⟩ := TcpConnAsync.recvView_eq_iff.mp c.revokeOpsCancelTimeout_recvView
  rw [TcpConnAsync.mayFail, TcpConnAsync.mayFail, hn, hc]

lemma readFailed_send (c : TcpConnAsync) (ec : ErrorCode) : (c.readFailed ec).send = c.send := by
  rw [TcpConnAsync.readFailed, handleSocketEc_send, TcpConnAsync.revokeOpsCancelTimeout_send]

lemma readFailed_closed {ec : ErrorCode} (h : c.mayFail ec) :
    (c.readFailed ec).net.connStat = .kClosed :=
  handleSocketEc_closed (by rw [revoke_mayFail]; exact h)

lemma opsCancelTimeoutCall_send (c : TcpConnAsync) (code : WaitCode) :
    (c.opsCancelTimeoutCall code).send = c.send := by
  cases code <;> rfl

lemma opsCancelTimeoutCall_closed (code : WaitCode) (h : c.net.connStat = .kClosed) :
    (c.opsCancelTimeoutCall code).net.connStat = .kClosed := by
  cases code with
  | success => exact NetConn.sockShutdownAndClose_connStat _
  | aborted => exact h

lemma doWriteCritical_empty (h : c.send.bound.buffer.getLength = 0) :
    c.doWriteCritical env = { c with send := { c.send with status := .kDone } } := by
  rw [TcpConnAsync.doWriteCritical, if_pos h]

lemma doWriteCritical_write (h : c.send.bound.buffer.getLength ≠ 0) :
    ∃ op : WriteOp, op.sent = 0 ∧ (c.doWriteCritical env).send.status = .kSend ∧
      (c.doWriteCritical env).send.writes = c.send.writes ++ [op] ∧
      (c.doWriteCritical env).send.bound.ioBlock.take op.size ++
        (c.doWriteCritical env).send.bound.buffer.data = c.send.bound.buffer.data := by
  have hs := TcpConnAsync.setOpsCancelTimeout_send env c
  have hle : (min c.send.bound.buffer.getLength kFixedIoBufferSize).toNat ≤
      c.send.bound.buffer.data.length := by
    have hl := c.send.bound.buffer.getLength_le
    rw [UInt32.toNat_min]
    omega
  obtain ⟨hb, hr⟩ := @Buffer.consumeBlock_eq _ c.send.bound.ioBlock _ hle
  refine ⟨⟨(c.setOpsCancelTimeout env).ops,
    (min c.send.bound.buffer.getLength kFixedIoBufferSize).toNat, 0⟩, rfl, ?_, ?_, ?_⟩
  · rw [TcpConnAsync.doWriteCritical, if_neg h]
    rfl
  · rw [TcpConnAsync.doWriteCritical, if_neg h]
    simp only [TcpConnAsync.startWrite, hs]
  · rw [TcpConnAsync.doWriteCritical, if_neg h]
    simp only [TcpConnAsync.startWrite, hs, hb, hr, List.take_append_drop]

end Conn

section Step

variable {env : ServerEnv} {s t : Senders}

lemma InOrder.of_send_eq (h : InOrder s) (hsend : t.conn.send = s.conn.send)
    (hwire : t.wire = s.wire) (hacc : t.accepted = s.accepted)
    (hclosed : s.conn.net.connStat = .kClosed → t.conn.net.connStat = .kClosed) : InOrder t := by
  have hf : t.frames = s.frames := by rw [frames, frames, hacc]
  have hu : t.unsent = s.unsent := by rw [unsent, unsent, hsend]
  constructor
  · rw [hsend]
    exact h.atMostOne
  · rw [hwire, hf]
    exact h.sent
  · intro hn
    rw [hwire, hu, hsend, hf]
    exact h.conserved fun hc => hn (hclosed hc)

lemma InOrder.of_closed (h : InOrder s) (hc : t.conn.net.connStat = .kClosed)
    (hone : t.conn.send.writes.length ≤ 1) (hwire : t.wire = s.wire)
    (hacc : t.accepted = s.accepted) : InOrder t := by
  refine ⟨hone, ?_, fun hn => absurd hc hn⟩
  rw [hwire, frames, hacc]
  exact h.sent

lemma InOrder.append (h : InOrder s) (th : Thread) (msg : Message) :
    InOrder ({ s with conn := s.conn.appendMessage msg,
                      accepted := s.accepted ++ [msg] }.goto th .atTest) := by
  have hf : ({ s with conn := s.conn.appendMessage msg,
                      accepted := s.accepted ++ [msg] }.goto th .atTest).frames =
      s.frames ++ msg.netStr := by
    simp [frames, goto]
  refine ⟨h.atMostOne, ?_, fun hn => ?_⟩
  · rw [hf]
    exact h.sent.trans (List.prefix_append _ _)
  · have hc := h.conserved hn
    rw [hf, ← hc]
    simp [goto, unsent, TcpConnAsync.appendMessage, List.append_assoc]

lemma InOrder.writes_eq (h : InOrder s) {i : ℕ} {op : WriteOp}
    (hop : s.conn.send.writes[i]? = some op) : s.conn.send.writes = [op] ∧ i = 0 := by
  have hl := h.atMostOne
  match hw : s.conn.send.writes, hl with
  | [], _ => simp [hw] at hop
  | [o], _ =>
    cases i with
    | zero => simpa [hw] using hop
    | succ i => simp [hw] at hop

lemma InOrder.wrote (h : InOrder s) {i n : ℕ} {op : WriteOp}
    (hop : s.conn.send.writes[i]? = some op) (hn : op.sent + n ≤ op.size)
    (ho : s.conn.net.connStat ≠ .kClosed) :
    InOrder { s with conn := s.conn.markSent i op n, wire := s.wire ++ s.conn.nextBytes op n } := by
  obtain ⟨hw, rfl⟩ := h.writes_eq hop
  have hconv := h.conserved ho
  have hsplit : (s.conn.send.bound.ioBlock.take op.size).drop op.sent =
      s.conn.nextBytes op n ++ (s.conn.send.bound.ioBlock.take op.size).drop (op.sent + n) := by
    have hnext : s.conn.nextBytes op n =
        ((s.conn.send.bound.ioBlock.take op.size).drop op.sent).take n := by
      rw [TcpConnAsync.nextBytes, List.drop_take, List.take_take]
      congr 1
      omega
    rw [hnext, ← List.drop_drop, List.take_append_drop]
  simp only [unsent, hw, List.map_cons, List.map_nil, List.flatten_cons, List.flatten_nil,
    List.append_nil] at hconv
  rw [hsplit] at hconv
  constructor
  · simp [TcpConnAsync.markSent, hw]
  · refine ⟨(s.conn.send.bound.ioBlock.take op.size).drop (op.sent + n) ++
      s.conn.send.bound.buffer.data, ?_⟩
    simpa [frames, List.append_assoc] using hconv
  · intro _
    simpa [unsent, TcpConnAsync.markSent, hw, frames, List.append_assoc] using hconv

lemma InOrder.critical (h : InOrder s) (th : Thread)
    (he : s.conn.send.writes = [] ∨ s.conn.send.bound.buffer.getLength = 0) :
    InOrder ({ s with conn := s.conn.doWriteCritical env }.goto th .idle) := by
  have hnet := (TcpConnAsync.recvView_eq_iff.mp (s.conn.doWriteCritical_recvView env)).1
  by_cases hg : s.conn.send.bound.buffer.getLength = 0
  · have hc := @doWriteCritical_empty env _ hg
    refine ⟨by simpa [goto, hc] using h.atMostOne, h.sent, fun hn => ?_⟩
    simp only [goto, hnet] at hn
    simpa [goto, hc, unsent, frames] using h.conserved hn
  · have hnone := he.resolve_right hg
    obtain ⟨op, h0, hst, hw, hb⟩ := @doWriteCritical_write env _ hg
    refine ⟨by simp [goto, hw, hnone], h.sent, fun hn => ?_⟩
    simp only [goto, hnet] at hn
    have hconv := h.conserved hn
    simp only [unsent, hnone, List.map_nil, List.flatten_nil, List.append_nil, ← hb] at hconv
    simpa [goto, unsent, hw, hnone, h0, frames, List.append_assoc] using hconv

lemma writeCompleted_send {i : ℕ} (c : TcpConnAsync) :
    (c.dropWrite i).writeCompleted.send =
      ⟨.kDone, c.send.bound, c.send.writes.eraseIdx i⟩ := by
  simp [TcpConnAsync.writeCompleted, TcpConnAsync.dropWrite]

lemma InOrder.writeDone (h : InOrder s) {i : ℕ} {op : WriteOp}
    (hop : s.conn.send.writes[i]? = some op) (hn : op.sent = op.size) :
    InOrder ({ s with conn := (s.conn.dropWrite i).writeCompleted }.goto .strand .atTest) := by
  obtain ⟨hw, rfl⟩ := h.writes_eq hop
  have hnet := (TcpConnAsync.recvView_eq_iff.mp
    ((s.conn.dropWrite 0).writeCompleted_recvView)).1
  have hnil := @writeCompleted_send 0 s.conn
  rw [hw, List.eraseIdx_cons_zero] at hnil
  refine ⟨by simp [goto, hnil], h.sent, fun ho => ?_⟩
  simp only [goto, hnet] at ho
  have hconv := h.conserved ho
  simpa [goto, hnil, unsent, hw, hn, frames] using hconv

lemma writeHandler_failed_send {i : ℕ} {ec : ErrorCode} (c : TcpConnAsync) :
    ((c.dropWrite i).writeHandler env (some ec)).send =
      { c.send with writes := c.send.writes.eraseIdx i } := by
  rw [TcpConnAsync.writeHandler_failed, readFailed_send]
  rfl

lemma InOrder.writeFail (h : InOrder s) {i : ℕ} {op : WriteOp} {ec : ErrorCode}
    (hop : s.conn.send.writes[i]? = some op) (hec : s.conn.mayFail ec) :
    InOrder { s with conn := (s.conn.dropWrite i).writeHandler env (some ec) } := by
  obtain ⟨hw, rfl⟩ := h.writes_eq hop
  refine h.of_closed ?_ (by simp [writeHandler_failed_send, hw]) rfl rfl
  exact readFailed_closed (show (s.conn.dropWrite 0).mayFail ec from hec)

/-- One step keeps the order, if it does not take bytes behind the back of an outstanding
write, whose block it then leaves alone. -/
theorem InOrder.step {e : Event} (h : InOrder s) (hx : s.TakesAlone e)
    (hs : Senders.step env s e = some t) : InOrder t ∧ KeepsBlock s t := by
  cases e with
  | append th msg =>
    simp only [Senders.step] at hs
    split_ifs at hs
    · obtain rfl := Option.some.inj hs
      exact ⟨h, fun _ => rfl⟩
    · obtain rfl := Option.some.inj hs
      exact ⟨h.append th msg, fun _ => rfl⟩
  | test th =>
    simp only [Senders.step] at hs
    split_ifs at hs <;> obtain rfl := Option.some.inj hs
    · exact ⟨h.of_send_eq rfl rfl rfl id, fun _ => rfl⟩
    · exact ⟨h.of_send_eq rfl rfl rfl id, fun _ => rfl⟩
  | critical th =>
    simp only [Senders.step] at hs
    split_ifs at hs
    obtain rfl := Option.some.inj hs
    refine ⟨h.critical th hx, fun hn => ?_⟩
    simp only [goto, doWriteCritical_empty (hx.resolve_left hn)]
  | wrote i n =>
    obtain ⟨op, hop, hs⟩ := Option.bind_eq_some_iff.mp hs
    split_ifs at hs with hc
    obtain rfl := Option.some.inj hs
    exact ⟨h.wrote hop hc.1 hc.2, fun _ => rfl⟩
  | writeDone i =>
    obtain ⟨op, hop, hs⟩ := Option.bind_eq_some_iff.mp hs
    split_ifs at hs with hc
    obtain rfl := Option.some.inj hs
    refine ⟨h.writeDone hop hc.1, fun _ => ?_⟩
    simp only [goto, writeCompleted_send]
  | writeFail i ec =>
    obtain ⟨op, hop, hs⟩ := Option.bind_eq_some_iff.mp hs
    split_ifs at hs with hc
    obtain rfl := Option.some.inj hs
    refine ⟨h.writeFail hop hc.1, fun _ => ?_⟩
    simp only [writeHandler_failed_send]
  | readFail ec =>
    simp only [Senders.step] at hs
    split_ifs at hs with hc
    obtain rfl := Option.some.inj hs
    have hsend := readFailed_send s.conn ec
    exact ⟨h.of_send_eq hsend rfl rfl fun _ => readFailed_closed hc.1, fun _ => by rw [hsend]⟩
  | refuseHead =>
    simp only [Senders.step] at hs
    split_ifs at hs
    obtain rfl := Option.some.inj hs
    exact ⟨h.of_send_eq rfl rfl rfl fun _ => NetConn.sockShutdownAndClose_connStat _, fun _ => rfl⟩
  | timerExpire =>
    simp only [Senders.step] at hs
    split_ifs at hs
    obtain rfl := Option.some.inj hs
    exact ⟨h.of_send_eq rfl rfl rfl id, fun _ => rfl⟩
  | timerHandler i =>
    obtain ⟨w, -, rfl⟩ := Option.map_eq_some_iff.mp hs
    refine ⟨h.of_send_eq (opsCancelTimeoutCall_send _ _) rfl rfl
      fun hc => opsCancelTimeoutCall_closed _ hc, fun _ => ?_⟩
    simp only [opsCancelTimeoutCall_send]

lemma OneWrite.of_send_eq (h : OneWrite s) (hsend : t.conn.send = s.conn.send)
    (hwire : t.wire = s.wire) (hacc : t.accepted = s.accepted)
    (hclosed : s.conn.net.connStat = .kClosed → t.conn.net.connStat = .kClosed) : OneWrite t :=
  ⟨h.toInOrder.of_send_eq hsend hwire hacc hclosed, hsend ▸ h.sending⟩

lemma OneWrite.append (h : OneWrite s) (th : Thread) (msg : Message) :
    OneWrite ({ s with conn := s.conn.appendMessage msg,
                       accepted := s.accepted ++ [msg] }.goto th .atTest) :=
  ⟨h.toInOrder.append th msg, h.sending⟩

lemma OneWrite.wrote (h : OneWrite s) {i n : ℕ} {op : WriteOp}
    (hop : s.conn.send.writes[i]? = some op) (hn : op.sent + n ≤ op.size)
    (ho : s.conn.net.connStat ≠ .kClosed) :
    OneWrite { s with conn := s.conn.markSent i op n, wire := s.wire ++ s.conn.nextBytes op n } :=
  ⟨h.toInOrder.wrote hop hn ho, fun _ => h.sending fun hnil => by simp [hnil] at hop⟩

lemma OneWrite.critical (h : OneWrite s) (th : Thread) (he : s.conn.send.writes = []) :
    OneWrite ({ s with conn := s.conn.doWriteCritical env }.goto th .idle) := by
  refine ⟨h.toInOrder.critical th (Or.inl he), ?_⟩
  by_cases hg : s.conn.send.bound.buffer.getLength = 0
  · simp [goto, doWriteCritical_empty hg, he]
  · obtain ⟨op, -, hst, -, -⟩ := @doWriteCritical_write env _ hg
    exact fun _ => hst

lemma OneWrite.writeDone (h : OneWrite s) {i : ℕ} {op : WriteOp}
    (hop : s.conn.send.writes[i]? = some op) (hn : op.sent = op.size) :
    OneWrite ({ s with conn := (s.conn.dropWrite i).writeCompleted }.goto .strand .atTest) := by
  obtain ⟨hw, rfl⟩ := h.writes_eq hop
  refine ⟨h.toInOrder.writeDone hop hn, ?_⟩
  simp [goto, writeCompleted_send, hw]

lemma OneWrite.writeFail (h : OneWrite s) {i : ℕ} {op : WriteOp} {ec : ErrorCode}
    (hop : s.conn.send.writes[i]? = some op) (hec : s.conn.mayFail ec) :
    OneWrite { s with conn := (s.conn.dropWrite i).writeHandler env (some ec) } := by
  obtain ⟨hw, rfl⟩ := h.writes_eq hop
  refine ⟨h.toInOrder.writeFail hop hec, ?_⟩
  simp [writeHandler_failed_send, hw]

/-- One step keeps the invariant, if it does not enter the critical section behind the
back of an outstanding write. -/
theorem OneWrite.step {e : Event} (h : OneWrite s) (hx : s.Exclusive e)
    (hs : Senders.step env s e = some t) : OneWrite t ∧ KeepsBlock s t := by
  obtain ⟨horder, hblock⟩ := h.toInOrder.step hx.takesAlone hs
  refine ⟨⟨horder, ?_⟩, hblock⟩
  cases e with
  | append th msg =>
    simp only [Senders.step] at hs
    split_ifs at hs <;> obtain rfl := Option.some.inj hs <;> exact h.sending
  | test th =>
    simp only [Senders.step] at hs
    split_ifs at hs <;> obtain rfl := Option.some.inj hs <;> exact h.sending
  | critical th =>
    simp only [Senders.step] at hs
    split_ifs at hs
    obtain rfl := Option.some.inj hs
    exact (h.critical th hx).sending
  | wrote i n =>
    obtain ⟨op, hop, hs⟩ := Option.bind_eq_some_iff.mp hs
    split_ifs at hs with hc
    obtain rfl := Option.some.inj hs
    exact (h.wrote hop hc.1 hc.2).sending
  | writeDone i =>
    obtain ⟨op, hop, hs⟩ := Option.bind_eq_some_iff.mp hs
    split_ifs at hs with hc
    obtain rfl := Option.some.inj hs
    exact (h.writeDone hop hc.1).sending
  | writeFail i ec =>
    obtain ⟨op, hop, hs⟩ := Option.bind_eq_some_iff.mp hs
    split_ifs at hs with hc
    obtain rfl := Option.some.inj hs
    exact (h.writeFail hop hc.1).sending
  | readFail ec =>
    simp only [Senders.step] at hs
    split_ifs at hs
    obtain rfl := Option.some.inj hs
    exact (readFailed_send s.conn ec).symm ▸ h.sending
  | refuseHead =>
    simp only [Senders.step] at hs
    split_ifs at hs
    obtain rfl := Option.some.inj hs
    exact h.sending
  | timerExpire =>
    simp only [Senders.step] at hs
    split_ifs at hs
    obtain rfl := Option.some.inj hs
    exact h.sending
  | timerHandler i =>
    obtain ⟨w, -, rfl⟩ := Option.map_eq_some_iff.mp hs
    simp only [opsCancelTimeoutCall_send]
    exact h.sending

/-- Entering the critical section during a write either starts a second write or takes
the `kSend` of the first one away. -/
lemma not_oneWrite_of_critical {th : Thread} (he : s.conn.send.writes ≠ [])
    (hs : Senders.step env s (.critical th) = some t) : ¬ OneWrite t := by
  intro h
  simp only [Senders.step] at hs
  split_ifs at hs
  obtain rfl := Option.some.inj hs
  by_cases hg : s.conn.send.bound.buffer.getLength = 0
  · have hc := @doWriteCritical_empty env _ hg
    have hst := h.sending
    simp [goto, hc, he] at hst
  · obtain ⟨op, -, -, hw, -⟩ := @doWriteCritical_write env _ hg
    have hone := h.atMostOne
    have hpos := List.length_pos_of_ne_nil he
    simp only [goto, hw, List.length_append, List.length_singleton] at hone
    omega

end Step

lemma start_oneWrite (env : ServerEnv) : OneWrite (start env) := by
  have hsend : (TcpConnAsync.started env).send = ⟨.kDone, IOBound.fresh, []⟩ := by
    rw [TcpConnAsync.started_eq]
    exact TcpConnAsync.setOpsCancelTimeout_send env _
  refine ⟨⟨?_, ?_, ?_⟩, ?_⟩ <;>
    simp [start, hsend, unsent, frames, IOBound.fresh, Buffer.empty]

/-- A run keeps to one write at a time, with its block intact and under `kSend`, and puts
whole messages on the wire, exactly when no thread of it enters the critical section of
`do_write` while a write is outstanding. -/
theorem oneWrite_iff_exclusive (env : ServerEnv) (es : List Event) :
    ((∀ s, (machine env).Visits es s → OneWrite s) ∧
      (∀ s e t, (machine env).Takes es s e t → KeepsBlock s t)) ↔
    ∀ s e t, (machine env).Takes es s e t → s.Exclusive e := by
  constructor
  · rintro ⟨hv, -⟩ s e t ht
    cases e with
    | critical th =>
      by_contra hx
      obtain ⟨-, -, -, hn⟩ := id ht
      exact not_oneWrite_of_critical hx hn (hv t ht.visits_next)
    | _ => trivial
  · intro hx
    have hv : ∀ s, (machine env).Visits es s → OneWrite s := fun s hs =>
      Machine.visits_of_inductive (M := machine env) (start_oneWrite env)
        (fun s e t hi hc hn => (hi.step hc hn).1) hx hs
    refine ⟨hv, fun s e t ht => ?_⟩
    obtain ⟨-, -, -, hn⟩ := id ht
    exact ((hv s ht.visits).step (hx s e t ht) hn).2

/-- Two executors pass the test together. The second one finds the buffer drained and
resets the status, so a third writes over the block of the write still in progress. -/
def racingSenders : List Event :=
  [.append (.executor 0) (.ofPayload [1]), .append (.executor 1) (.ofPayload [2]),
    .test (.executor 0), .test (.executor 1), .critical (.executor 0), .critical (.executor 1),
    .append (.executor 2) (.ofPayload [3]), .test (.executor 2), .critical (.executor 2),
    .wrote 0 17]

theorem racingSenders_corrupt :
    ∃ s, (machine ⟨0, 0, 0, fun _ => none⟩).run racingSenders = some s ∧
      s.conn.send.writes.length = 2 ∧ ¬ s.wire <+: s.frames := by
  have h : ((machine ⟨0, 0, 0, fun _ => none⟩).run racingSenders).any (fun s =>
      decide (s.conn.send.writes.length = 2 ∧ ¬ s.wire <+: s.frames)) := by decide +kernel
  obtain ⟨s, hs, hd⟩ := (Option.any_eq_true _ _).mp h
  exact ⟨s, hs, of_decide_eq_true hd⟩

end Senders

end Tzrpc
