import Tzrpc.ReceiveLength
import Tzrpc.TcpConnAsyncSenders

/-!
# The client's connection between its two threads

`send_net_message` runs in the thread of a call while the strand runs the handlers, and
`do_write` makes its tests before it takes `bound_mutex_`. Here the two threads take these
steps in any order. The connection that does a send or a handler in one step shows the same
messages, bytes and deliveries as the runs in which nobody takes bytes out of the buffer while
a write is outstanding.
-/
namespace Tzrpc.Client

namespace TcpConnAsync

/-- The tests of `do_write` before it takes `bound_mutex_`. -/
def doWriteTest (c : TcpConnAsync) : Bool :=
  decide (c.send.status = .kDone) && decide (c.net.connStat = .kWorking)

/-- What `do_write` does under `bound_mutex_`. -/
def doWriteCritical (c : TcpConnAsync) : TcpConnAsync :=
  if c.send.bound.buffer.getLength = 0 then c
  else c.startWrite (min c.send.bound.buffer.getLength kFixedIoBufferSize)

/-- `write_handler` up to its call of `do_write`. -/
def writeCompleted (c : TcpConnAsync) : TcpConnAsync :=
  { c with send := { c.send with status := .kDone } }

lemma doWriteTest_eq_true {c : TcpConnAsync} :
    c.doWriteTest = true ↔ c.send.status = .kDone ∧ c.net.connStat = .kWorking := by
  simp [doWriteTest]

lemma doWriteCritical_recv (c : TcpConnAsync) : c.doWriteCritical.recv = c.recv := by
  unfold doWriteCritical
  split_ifs <;> rfl

lemma doWriteCritical_net (c : TcpConnAsync) : c.doWriteCritical.net = c.net := by
  unfold doWriteCritical
  split_ifs <;> rfl

lemma doWrite_eq (c : TcpConnAsync) :
    c.doWrite.2 = if c.doWriteTest then c.doWriteCritical else c := by
  unfold doWrite doWriteTest doWriteCritical
  split_ifs <;> simp_all

lemma writeHandler_eq (c : TcpConnAsync) : c.writeHandler none = c.writeCompleted.doWrite.2 := rfl

end TcpConnAsync

/-- The thread that calls, of which `call_mutex_` admits one at a time, and the strand. -/
inductive WriteThread
  | strand
  | caller
  deriving DecidableEq, Repr

structure SharedConn where
  conn : TcpConnAsync
  pc : WriteThread → SendPc
  /-- The bytes the writes have put on the wire. -/
  wire : Bytes

namespace SharedConn

def start (setting : ClientSetting) : SharedConn := ⟨.started setting, fun _ => .idle, []⟩

inductive Event
  | send (msg : Message)
  | test (t : WriteThread)
  | critical (t : WriteThread)
  | wrote (i n : ℕ)
  | writeDone (i : ℕ)
  | writeFail (i : ℕ) (ec : ErrorCode)
  | readDone (i : ℕ) (bytes : Bytes)
  | readFail (i : ℕ) (ec : ErrorCode)
  | closes
  deriving DecidableEq, Repr

def goto (s : SharedConn) (t : WriteThread) (pc : SendPc) : SharedConn :=
  { s with pc := Function.update s.pc t pc }

def handle (setting : ClientSetting) (s : SharedConn) (e : TcpConnAsync.Event) :
    Option SharedConn :=
  if s.pc .strand = .idle then (s.conn.step setting e).map fun c => { s with conn := c } else none

def step (setting : ClientSetting) (s : SharedConn) : Event → Option SharedConn
  | .send msg =>
    if s.pc .caller = .idle then
      if TcpConnAsync.refusesSize setting msg then some s
      else some ({ s with conn := s.conn.appendMessage msg }.goto .caller .atTest)
    else none
  | .test t =>
    if s.pc t = .atTest then some (s.goto t (if s.conn.doWriteTest then .atCritical else .idle))
    else none
  | .critical t =>
    if s.pc t = .atCritical then some ({ s with conn := s.conn.doWriteCritical }.goto t .idle)
    else none
  | .wrote i n =>
    (s.conn.step setting (.wrote i n)).map fun c =>
      { s with conn := c, wire := s.wire ++ s.conn.putsOnWire (.wrote i n) }
  | .writeDone i =>
    s.conn.send.writes[i]?.bind fun op =>
      if op.sent = op.size ∧ s.pc .strand = .idle then
        some ({ s with conn := (s.conn.dropWrite i).writeCompleted }.goto .strand .atTest)
      else none
  | .writeFail i ec => s.handle setting (.writeFail i ec)
  | .readDone i bytes => s.handle setting (.readDone i bytes)
  | .readFail i ec => s.handle setting (.readFail i ec)
  | .closes => some { s with conn := s.conn.shutdownAndCloseSocket }

def machine (setting : ClientSetting) : Machine SharedConn Event := ⟨start setting, step setting⟩

def Event.sent : Event → List Message
  | .send msg => [msg]
  | _ => []

/-- No thread takes bytes out of the buffer while a write is outstanding. -/
def Exclusive (s : SharedConn) : Event → Prop
  | .critical _ => s.conn.send.writes = [] ∨ s.conn.send.bound.buffer.getLength = 0
  | _ => True

end SharedConn

namespace TcpConnAsync

def Action.sent : Action → List Message
  | .sends msg => [msg]
  | _ => []

def onWire (c : TcpConnAsync) : Action → Bytes
  | .completes e => c.putsOnWire e
  | _ => []

/-- A run that sends `ms` and puts `wire` on the wire leads to the connection. -/
def Past (setting : ClientSetting) (ms : List Message) (wire : Bytes) (c : TcpConnAsync) : Prop :=
  ∃ as, (connection setting).run as = some c ∧ as.flatMap Action.sent = ms ∧
    ((connection setting).trace (connection setting).start as).flatMap
      (fun x => x.1.onWire x.2.1) = wire

/-- As long as the connection works there is one write outstanding, or nothing to write. -/
structure Rests (c : TcpConnAsync) : Prop where
  sending : c.net.connStat = .kWorking → c.send.status = .kSend → ∃ op, c.send.writes = [op]
  idle : c.net.connStat = .kWorking → c.send.status = .kDone →
    c.send.writes = [] ∧ c.send.bound.buffer.getLength = 0

structure Alike (c d : TcpConnAsync) : Prop where
  recv : d.recv = c.recv
  net : d.net = c.net
  ops : c.net.connStat = .kWorking → d.ops = c.ops

section Past

variable {setting : ClientSetting} {c d : TcpConnAsync} {ms : List Message} {wire : Bytes}

lemma started_past (setting : ClientSetting) : (started setting).Past setting [] [] :=
  ⟨[], rfl, rfl, rfl⟩

lemma Past.act {a : Action} (h : c.Past setting ms wire)
    (hs : TcpConnAsync.act setting c a = some d) :
    d.Past setting (ms ++ a.sent) (wire ++ c.onWire a) := by
  obtain ⟨as, hrun, rfl, rfl⟩ := h
  refine ⟨as ++ [a], ?_, by simp, ?_⟩
  · rw [Machine.run_snoc, hrun]
    exact hs
  · rw [Machine.trace_append hrun, List.flatMap_append]
    simp [Machine.trace, connection, hs]

lemma Past.completes {e : Event} (h : c.Past setting ms wire) (hs : c.step setting e = some d)
    (he : ∀ i n, e ≠ .wrote i n) : d.Past setting ms wire := by
  have hpast := h.act (a := .completes e) hs
  rwa [show Action.sent (.completes e) = [] from rfl, List.append_nil,
    show c.onWire (.completes e) = c.putsOnWire e from rfl, putsOnWire_of_ne he,
    List.append_nil] at hpast

lemma Past.sends (h : c.Past setting ms wire) (msg : Message) :
    (c.sendNetMessage setting msg).2.Past setting (ms ++ [msg]) wire := by
  have hpast := h.act (a := .sends msg) rfl
  rwa [show c.onWire (.sends msg) = [] from rfl, List.append_nil] at hpast

lemma Past.closes (h : c.Past setting ms wire) :
    c.shutdownAndCloseSocket.Past setting ms wire := by
  have hpast := h.act (a := .closes) rfl
  rwa [show c.onWire .closes = [] from rfl, show Action.sent .closes = [] from rfl,
    List.append_nil, List.append_nil] at hpast

lemma doWrite_rests (hsend : c.send.status = .kSend → ∃ op, c.send.writes = [op])
    (hidle : c.send.status = .kDone → c.send.writes = []) : c.doWrite.2.Rests := by
  unfold doWrite
  split_ifs with hs hw h0
  · refine ⟨fun _ => hsend, fun _ hd => absurd hd hs⟩
  · exact ⟨fun hn => absurd hn hw, fun hn => absurd hn hw⟩
  · exact ⟨fun _ => hsend, fun _ hd => ⟨hidle hd, h0⟩⟩
  · have hnil := hidle (not_not.mp hs)
    exact ⟨fun _ _ => ⟨_, by simp [startWrite, hnil]; rfl⟩, fun _ hd => by simp [startWrite] at hd⟩

lemma Rests.of_send (h : c.Rests) (hs : d.send = c.send)
    (hn : d.net.connStat = .kWorking → c.net.connStat = .kWorking) : d.Rests := by
  refine ⟨fun hw => ?_, fun hw => ?_⟩
  · rw [hs]
    exact h.sending (hn hw)
  · rw [hs]
    exact h.idle (hn hw)

lemma rests_of_stopped (h : c.net.connStat ≠ .kWorking) : c.Rests :=
  ⟨fun hw => absurd hw h, fun hw => absurd hw h⟩

lemma Rests.writing (h : c.Rests) (hw : c.net.connStat = .kWorking) {i : ℕ} {op : WriteOp}
    (hop : c.send.writes[i]? = some op) :
    i = 0 ∧ c.send.writes = [op] ∧ c.send.status = .kSend := by
  cases hs : c.send.status with
  | kDone => simp [(h.idle hw hs).1] at hop
  | kSend =>
    obtain ⟨op', hone⟩ := h.sending hw hs
    rw [hone] at hop
    cases i with
    | zero => exact ⟨rfl, hone.trans (by simpa using hop), rfl⟩
    | succ i => simp at hop

lemma Rests.step {e : Event} (h : c.Rests) (hs : c.step setting e = some d) : d.Rests := by
  by_cases hw : c.net.connStat = .kWorking
  swap
  · exact rests_of_stopped (step_stopped hw hs)
  cases e with
  | readDone i bytes =>
    obtain ⟨op, hop, hd⟩ := Option.bind_eq_some_iff.mp hs
    split_ifs at hd with hb
    obtain ⟨d', hd', hsend⟩ := @step_readDone setting c i op bytes hop hb.1 hb.2
    obtain rfl := Option.some.inj (hs.symm.trans hd')
    exact h.of_send hsend fun _ => hw
  | readFail i ec =>
    obtain ⟨op, -, hmay, rfl⟩ := step_readFail hs
    exact rests_of_stopped (mayFail_stops (c := c.dropRead i) hmay)
  | wrote i n =>
    obtain ⟨op, hop, -, rfl⟩ := step_wrote hs
    obtain ⟨rfl, hone, hst⟩ := h.writing hw hop
    refine ⟨fun _ _ => ⟨{ op with sent := op.sent + n }, ?_⟩, fun _ hd => ?_⟩
    · simp [markSent, hone]
    · rw [show (c.markSent 0 op n).send.status = c.send.status from rfl, hst] at hd
      cases hd
  | writeDone i =>
    obtain ⟨op, hop, -, rfl⟩ := step_writeDone hs
    obtain ⟨rfl, hone, -⟩ := h.writing hw hop
    exact doWrite_rests (fun hk => (by cases hk)) fun _ => by simp [dropWrite, hone]
  | writeFail i ec =>
    obtain ⟨op, -, hmay, rfl⟩ := step_writeFail hs
    exact rests_of_stopped (mayFail_stops (c := c.dropWrite i) hmay)

lemma sendNetMessage_rests (h : c.Rests) (msg : Message) :
    (c.sendNetMessage setting msg).2.Rests := by
  by_cases hw : c.net.connStat = .kWorking
  · unfold sendNetMessage
    split_ifs
    · exact h
    · exact doWrite_rests (h.sending hw) fun hd => (h.idle hw hd).1
  · exact rests_of_stopped (by rwa [sendNetMessage_net])

lemma Past.stands (h : c.Past setting ms wire) : c.Rests ∧ c.ReadsOrClosed := by
  obtain ⟨as, hrun, -⟩ := h
  refine Machine.reachable_of_inductive (M := connection setting)
    (I := fun c => c.Rests ∧ c.ReadsOrClosed)
    ⟨⟨fun _ hk => (by cases hk), fun _ _ => ⟨rfl, rfl⟩⟩, started_readsOrClosed setting⟩
    (fun c a d hi hs => ?_) ⟨as, hrun⟩
  cases a with
  | completes e => exact ⟨hi.1.step hs, hi.2.step hs⟩
  | sends msg =>
    obtain rfl := Option.some.inj hs
    exact ⟨sendNetMessage_rests hi.1 msg, hi.2.of_net (sendNetMessage_net _ _ _)
      (congrArg RecvSide.reads (sendNetMessage_recv _ _ _))⟩
  | closes =>
    obtain rfl := Option.some.inj hs
    have hclosed : c.shutdownAndCloseSocket.net.connStat = .kClosed :=
      NetConn.sockShutdownAndClose_connStat _
    exact ⟨rests_of_stopped (by simp [hclosed]), Or.inl hclosed⟩

lemma Past.closed (h : c.Past setting ms wire) (hw : c.net.connStat ≠ .kWorking) :
    c.net.connStat = .kClosed := h.stands.2.resolve_right fun hr => hw hr.1

end Past

section Alike

variable {setting : ClientSetting} {c d : TcpConnAsync}

lemma Alike.shutdown (h : Alike c d) :
    Alike c.shutdownAndCloseSocket d.shutdownAndCloseSocket := by
  refine ⟨h.recv, congrArg NetConn.sockShutdownAndClose h.net, fun hw => ?_⟩
  simp [shutdownAndCloseSocket] at hw

lemma Alike.asyncRead (h : Alike c d) (hw : c.net.connStat = .kWorking) (kind : ReadKind) (n : ℕ) :
    Alike (c.asyncRead kind n) (d.asyncRead kind n) := by
  refine ⟨?_, h.net, fun _ => ?_⟩
  · simp only [TcpConnAsync.asyncRead, h.recv, h.ops hw]
  · simp only [TcpConnAsync.asyncRead, h.ops hw]

lemma Alike.mapRecv (h : Alike c d) (f : RecvSide → RecvSide) :
    Alike { c with recv := f c.recv } { d with recv := f d.recv } :=
  ⟨congrArg f h.recv, h.net, h.ops⟩

lemma Alike.deliver (h : Alike c d) (msg : Message) : Alike (c.deliver msg) (d.deliver msg) :=
  h.mapRecv fun r => { r with delivered := r.delivered ++ [msg] }

lemma chain_alike (fuel : ℕ) {c d : TcpConnAsync} (h : Alike c d) :
    (∀ c', doRead setting fuel c = some c' → ∃ d', doRead setting fuel d = some d' ∧ Alike c' d') ∧
      (∀ c', doReadMsg setting fuel c = some c' →
        ∃ d', doReadMsg setting fuel d = some d' ∧ Alike c' d') := by
  induction fuel generalizing c d with
  | zero => simp [doRead, doReadMsg]
  | succ fuel ih =>
    have hhead : Alike (c.parseHeader setting).2 (d.parseHeader setting).2 :=
      h.mapRecv fun r => { r with bound := (r.bound.parseHeader setting.recvMaxMsgSize).2 }
    have hbody : Alike (c.parseMsgBody ⟨Header.zero, []⟩).2.2
        (d.parseMsgBody ⟨Header.zero, []⟩).2.2 :=
      h.mapRecv fun r => { r with bound := (r.bound.parseMsgBody ⟨Header.zero, []⟩).2.2 }
    have hret : (d.parseHeader setting).1 = (c.parseHeader setting).1 := by
      simp only [parseHeader, h.recv]
    have hgot : (d.parseMsgBody ⟨Header.zero, []⟩).1 = (c.parseMsgBody ⟨Header.zero, []⟩).1 ∧
        (d.parseMsgBody ⟨Header.zero, []⟩).2.1 = (c.parseMsgBody ⟨Header.zero, []⟩).2.1 := by
      simp only [parseMsgBody, h.recv, and_self]
    constructor
    · intro c' hc
      unfold doRead at hc ⊢
      dsimp only at hc ⊢
      rw [h.recv, h.net, hret]
      split_ifs at hc ⊢ with hw hs h0 h1
      · obtain rfl := Option.some.inj hc
        exact ⟨d, rfl, h⟩
      · obtain rfl := Option.some.inj hc
        exact ⟨_, rfl, h.asyncRead (not_not.mp hw) _ _⟩
      · exact (ih hhead).2 c' hc
      · exact (ih hhead).1 c' hc
      · obtain rfl := Option.some.inj hc
        exact ⟨_, rfl, hhead.shutdown⟩
    · intro c' hc
      unfold doReadMsg at hc ⊢
      dsimp only at hc ⊢
      rw [h.recv, h.net, hgot.1, hgot.2]
      split_ifs at hc ⊢ with hw hs h0 h1
      · obtain rfl := Option.some.inj hc
        exact ⟨d, rfl, h⟩
      · obtain rfl := Option.some.inj hc
        exact ⟨_, rfl, h.asyncRead (not_not.mp hw) _ _⟩
      · exact (ih (hbody.deliver _)).1 c' hc
      · exact (ih hbody).2 c' hc
      · obtain rfl := Option.some.inj hc
        exact ⟨_, rfl, hbody.shutdown⟩

lemma readHandler_alike (h : Alike c d) {bytes : Bytes} {c' : TcpConnAsync}
    (hc : c.readHandler setting bytes = some c') :
    ∃ d', d.readHandler setting bytes = some d' ∧ Alike c' d' := by
  have hrecv : Alike (c.received bytes) (d.received bytes) :=
    h.mapRecv fun r => { r with bound := r.bound.received bytes }
  have hhead : Alike ((c.received bytes).parseHeader setting).2
      ((d.received bytes).parseHeader setting).2 :=
    hrecv.mapRecv fun r => { r with bound := (r.bound.parseHeader setting.recvMaxMsgSize).2 }
  have hret : ((d.received bytes).parseHeader setting).1 =
      ((c.received bytes).parseHeader setting).1 := by
    simp only [parseHeader, hrecv.recv]
  have hfuel : (d.received bytes).chainFuel = (c.received bytes).chainFuel := by
    rw [chainFuel, chainFuel, hrecv.recv]
  unfold readHandler at hc ⊢
  dsimp only at hc ⊢
  rw [hrecv.recv, hret, hfuel]
  split_ifs at hc ⊢ with hs h0 h1
  · exact (chain_alike _ hrecv).1 c' hc
  · exact (chain_alike _ hhead).2 c' hc
  · exact (chain_alike _ hhead).1 c' hc
  · obtain rfl := Option.some.inj hc
    exact ⟨_, rfl, hhead.shutdown⟩

lemma readMsgHandler_alike (h : Alike c d) {bytes : Bytes} {c' : TcpConnAsync}
    (hc : c.readMsgHandler setting bytes = some c') :
    ∃ d', d.readMsgHandler setting bytes = some d' ∧ Alike c' d' := by
  have hrecv : Alike (c.received bytes) (d.received bytes) :=
    h.mapRecv fun r => { r with bound := r.bound.received bytes }
  have hbody : Alike ((c.received bytes).parseMsgBody ⟨Header.zero, []⟩).2.2
      ((d.received bytes).parseMsgBody ⟨Header.zero, []⟩).2.2 :=
    hrecv.mapRecv fun r => { r with bound := (r.bound.parseMsgBody ⟨Header.zero, []⟩).2.2 }
  have hgot : (d.received bytes).parseMsgBody ⟨Header.zero, []⟩ =
      (((c.received bytes).parseMsgBody ⟨Header.zero, []⟩).1,
        ((c.received bytes).parseMsgBody ⟨Header.zero, []⟩).2.1,
        ((d.received bytes).parseMsgBody ⟨Header.zero, []⟩).2.2) := by
    simp only [parseMsgBody, hrecv.recv]
  have hfuel : (d.received bytes).chainFuel = (c.received bytes).chainFuel := by
    rw [chainFuel, chainFuel, hrecv.recv]
  unfold readMsgHandler at hc ⊢
  dsimp only at hc ⊢
  rw [hgot, hfuel]
  dsimp only
  split_ifs at hc ⊢ with h0 h1
  · exact (chain_alike _ (hbody.deliver _)).1 c' hc
  · exact (chain_alike _ hbody).2 c' hc
  · obtain rfl := Option.some.inj hc
    exact ⟨_, rfl, hbody.shutdown⟩

lemma handleSocketEc_alike (h : Alike c d) (ec : ErrorCode) :
    Alike (c.handleSocketEc ec) (d.handleSocketEc ec) := by
  unfold handleSocketEc
  split_ifs
  · exact h.shutdown
  · exact h

lemma step_readFail_alike (h : Alike c d) {i : ℕ} {ec : ErrorCode} {c' : TcpConnAsync}
    (hc : c.step setting (.readFail i ec) = some c') :
    ∃ d', d.step setting (.readFail i ec) = some d' ∧ Alike c' d' := by
  obtain ⟨op, hop, hmay, rfl⟩ := step_readFail hc
  have hdrop : Alike (c.dropRead i) (d.dropRead i) :=
    h.mapRecv fun r => { r with reads := r.reads.eraseIdx i }
  have hmay' : d.mayFail ec = true := by rwa [mayFail, h.net]
  have hop' : d.recv.reads[i]? = some op := by rwa [h.recv]
  refine ⟨_, ?_, handleSocketEc_alike hdrop ec⟩
  simp only [step, hop', Option.bind_some, if_pos hmay']

lemma doWriteCritical_alike (h : Alike c d) (hw : c.net.connStat = .kWorking)
    (hsend : d.send = c.send) :
    Alike c.doWriteCritical d.doWriteCritical ∧
      d.doWriteCritical.send = c.doWriteCritical.send := by
  unfold doWriteCritical
  rw [hsend]
  split_ifs with h0
  · exact ⟨h, hsend⟩
  · refine ⟨⟨h.recv, h.net, fun _ => ?_⟩, ?_⟩
    · simp only [startWrite, h.ops hw]
    · simp only [startWrite, hsend, h.ops hw]

lemma step_readDone_alike (h : Alike c d) {i : ℕ} {bytes : Bytes} {c' : TcpConnAsync}
    (hc : c.step setting (.readDone i bytes) = some c') :
    ∃ d', d.step setting (.readDone i bytes) = some d' ∧ Alike c' d' ∧ c'.send = c.send ∧
      d'.send = d.send := by
  obtain ⟨op, hop, hfits⟩ := Option.bind_eq_some_iff.mp hc
  split_ifs at hfits with hb
  have hop' : d.recv.reads[i]? = some op := by rwa [h.recv]
  obtain ⟨c'', hc'', hsend⟩ := @step_readDone setting c i op bytes hop hb.1 hb.2
  obtain rfl := Option.some.inj (hc.symm.trans hc'')
  obtain ⟨d', hd', hsend'⟩ := @step_readDone setting d i op bytes hop' hb.1 hb.2
  have hdrop : Alike (c.dropRead i) (d.dropRead i) :=
    h.mapRecv fun r => { r with reads := r.reads.eraseIdx i }
  have hstep := hd'
  simp only [step, hop', Option.bind_some, if_pos hb] at hstep
  refine ⟨d', hd', ?_, hsend, hsend'⟩
  cases hk : op.kind with
  | head =>
    rw [hk] at hfits hstep
    obtain ⟨d'', hd'', halike⟩ := readHandler_alike hdrop hfits
    exact Option.some.inj (hstep.symm.trans hd'') ▸ halike
  | body =>
    rw [hk] at hfits hstep
    obtain ⟨d'', hd'', halike⟩ := readMsgHandler_alike hdrop hfits
    exact Option.some.inj (hstep.symm.trans hd'') ▸ halike

end Alike

end TcpConnAsync

namespace SharedConn

open Client.TcpConnAsync (Action Past Alike)

/-- Where the two threads are, against the connection that has taken whole steps: it has
caught up, a finished write is still to be handled, or a message is still to be sent. -/
inductive Stage (setting : ClientSetting) (s : SharedConn) (a : TcpConnAsync) :
    List Message → Prop
  | closed (hnet : a.net.connStat = .kClosed) : Stage setting s a []
  | settled (hnet : a.net.connStat = .kWorking) (hsend : s.conn.send = a.send)
      (hstrand : a.send.status = .kDone → s.pc .strand = .idle) : Stage setting s a []
  | completing (op : WriteOp) (hnet : a.net.connStat = .kWorking) (hwrites : a.send.writes = [op])
      (hfull : op.sent = op.size) (hstatus : a.send.status = .kSend)
      (hsend : s.conn.send = ⟨.kDone, a.send.bound, []⟩) (hstrand : s.pc .strand ≠ .idle) :
      Stage setting s a []
  | sending (msg : Message) (hnet : a.net.connStat = .kWorking)
      (hfits : TcpConnAsync.refusesSize setting msg = false)
      (hsend : s.conn.send = (a.appendMessage msg).send) (hstatus : a.send.status = .kDone)
      (hstrand : s.pc .strand = .idle) (hcaller : s.pc .caller ≠ .idle) : Stage setting s a [msg]

/-- A run of whole steps has sent `ms`, up to what is still to be sent, with the same bytes
on the wire and the same receive side. -/
def Linearised (setting : ClientSetting) (s : SharedConn) (ms : List Message) : Prop :=
  ∃ a past pending, Past setting past s.wire a ∧ Alike s.conn a ∧
    Stage setting s a pending ∧ past ++ pending = ms

section Linearised

variable {setting : ClientSetting} {s t : SharedConn} {a b : TcpConnAsync}
  {past pending ms : List Message}

lemma alike_sendNetMessage {c d : TcpConnAsync} (h : Alike c d) (hw : c.net.connStat ≠ .kWorking)
    (msg : Message) : Alike c (d.sendNetMessage setting msg).2 := by
  refine ⟨?_, ?_, fun hn => absurd hn hw⟩
  · rw [TcpConnAsync.sendNetMessage_recv, h.recv]
  · rw [TcpConnAsync.sendNetMessage_net, h.net]

/-- A message that is still to be sent when the connection closes is sent after that. -/
lemma linearised_of_closed (hpast : Past setting past t.wire a) (halike : Alike t.conn a)
    (hw : a.net.connStat ≠ .kWorking) (hpending : pending = [] ∨ ∃ msg, pending = [msg]) :
    Linearised setting t (past ++ pending) := by
  have hclosed := hpast.closed hw
  rcases hpending with rfl | ⟨msg, rfl⟩
  · exact ⟨a, past, [], hpast, halike, .closed hclosed, rfl⟩
  · refine ⟨_, _, [], hpast.sends msg, alike_sendNetMessage halike (halike.net ▸ hw) msg,
      .closed ?_, List.append_nil _⟩
    rw [TcpConnAsync.sendNetMessage_net]
    exact hclosed

lemma Stage.pending_cases (h : Stage setting s a pending) :
    pending = [] ∨ ∃ msg, pending = [msg] := by
  cases h with
  | sending msg => exact Or.inr ⟨msg, rfl⟩
  | _ => exact Or.inl rfl

lemma handle_some {e : TcpConnAsync.Event} (hs : s.handle setting e = some t) :
    s.pc .strand = .idle ∧ ∃ c, s.conn.step setting e = some c ∧ t = { s with conn := c } := by
  unfold handle at hs
  split_ifs at hs with hidle
  obtain ⟨c, hc, rfl⟩ := Option.map_eq_some_iff.mp hs
  exact ⟨hidle, c, hc, rfl⟩

lemma step_closed {e : Event} (hpast : Past setting past s.wire a) (halike : Alike s.conn a)
    (hw : a.net.connStat ≠ .kWorking) (hs : step setting s e = some t) :
    Linearised setting t (past ++ e.sent) := by
  have hclosed : s.conn.net.connStat = .kClosed := halike.net ▸ hpast.closed hw
  have hkept : ∀ {c : TcpConnAsync}, c.recv = s.conn.recv → c.net = s.conn.net → Alike c a := by
    intro c hr hn
    refine ⟨halike.recv.trans hr.symm, halike.net.trans hn.symm, fun hwork => ?_⟩
    rw [hn, hclosed] at hwork
    cases hwork
  have hshut : s.conn.net.sockShutdownAndClose = s.conn.net := by
    rw [NetConn.sockShutdownAndClose, if_pos hclosed]
  cases e with
  | send msg =>
    have hpending : [msg] = [] ∨ ∃ m, [msg] = [m] := Or.inr ⟨msg, rfl⟩
    simp only [step] at hs
    split_ifs at hs
    · obtain rfl := Option.some.inj hs
      exact linearised_of_closed hpast halike hw hpending
    · obtain rfl := Option.some.inj hs
      exact linearised_of_closed hpast (hkept rfl rfl) hw hpending
  | test th =>
    by_cases hpc : s.pc th = .atTest
    · rw [step, if_pos hpc] at hs
      obtain rfl := Option.some.inj hs
      exact linearised_of_closed hpast halike hw (Or.inl rfl)
    · simp [step, hpc] at hs
  | critical th =>
    simp only [step] at hs
    split_ifs at hs
    obtain rfl := Option.some.inj hs
    refine linearised_of_closed hpast (hkept ?_ ?_) hw (Or.inl rfl)
    · exact TcpConnAsync.doWriteCritical_recv _
    · exact TcpConnAsync.doWriteCritical_net _
  | wrote i n =>
    obtain ⟨c, hc, -⟩ := Option.map_eq_some_iff.mp hs
    obtain ⟨op, -, hn, -⟩ := TcpConnAsync.step_wrote hc
    exact absurd hclosed hn.2
  | writeDone i =>
    obtain ⟨op, -, hs⟩ := Option.bind_eq_some_iff.mp hs
    split_ifs at hs
    obtain rfl := Option.some.inj hs
    exact linearised_of_closed hpast (hkept rfl rfl) hw (Or.inl rfl)
  | writeFail i ec =>
    obtain ⟨-, c, hc, rfl⟩ := handle_some hs
    obtain ⟨op, -, -, rfl⟩ := TcpConnAsync.step_writeFail hc
    refine linearised_of_closed hpast (hkept ?_ ?_) hw (Or.inl rfl)
    · exact TcpConnAsync.handleSocketEc_recv _ _
    · simp only [TcpConnAsync.writeHandler, TcpConnAsync.handleSocketEc]
      split_ifs
      · exact hshut
      · rfl
  | readDone i bytes =>
    obtain ⟨-, c, hc, rfl⟩ := handle_some hs
    obtain ⟨a', ha, halike', -⟩ := TcpConnAsync.step_readDone_alike halike hc
    exact linearised_of_closed (hpast.completes ha (by simp)) halike'
      (TcpConnAsync.step_stopped hw ha) (Or.inl rfl)
  | readFail i ec =>
    obtain ⟨-, c, hc, rfl⟩ := handle_some hs
    obtain ⟨a', ha, halike'⟩ := TcpConnAsync.step_readFail_alike halike hc
    exact linearised_of_closed (hpast.completes ha (by simp)) halike'
      (TcpConnAsync.step_stopped hw ha) (Or.inl rfl)
  | closes =>
    obtain rfl := Option.some.inj hs
    exact linearised_of_closed hpast (hkept rfl hshut) hw (Or.inl rfl)

/-! While the connection works, each step is one of the whole steps, or moves a thread on. -/

lemma Stage.send {msg : Message} (h : Stage setting s a pending)
    (hpast : Past setting past s.wire a) (halike : Alike s.conn a)
    (hw : a.net.connStat = .kWorking) (hs : step setting s (.send msg) = some t) :
    Linearised setting t (past ++ pending ++ [msg]) := by
  simp only [step] at hs
  split_ifs at hs with hidle hr
  · obtain rfl := Option.some.inj hs
    have hsame : (a.sendNetMessage setting msg).2 = a := by
      rw [TcpConnAsync.sendNetMessage, if_pos hr]
    cases h with
    | closed hnet => simp [hnet] at hw
    | settled hnet hsend hstrand =>
      refine ⟨a, _, [], hsame ▸ hpast.sends msg, halike, .settled hnet hsend hstrand, by simp⟩
    | completing op hnet hwrites hfull hstatus hsend hstrand =>
      exact ⟨a, _, [], hsame ▸ hpast.sends msg, halike,
        .completing op hnet hwrites hfull hstatus hsend hstrand, by simp⟩
    | sending _ _ _ _ _ _ hcaller => exact absurd hidle hcaller
  · obtain rfl := Option.some.inj hs
    have hfits : TcpConnAsync.refusesSize setting msg = false := by simpa using hr
    have hsent : a.send.status = .kSend →
        (a.sendNetMessage setting msg).2 = a.appendMessage msg := by
      intro hk
      have hk' : (a.appendMessage msg).send.status = .kSend := hk
      rw [TcpConnAsync.sendNetMessage, if_neg hr, TcpConnAsync.doWrite, if_pos (by simp [hk'])]
    have hkept : Alike (s.conn.appendMessage msg) (a.appendMessage msg) :=
      ⟨halike.recv, halike.net, halike.ops⟩
    cases h with
    | closed hnet => simp [hnet] at hw
    | settled hnet hsend hstrand =>
      cases hk : a.send.status with
      | kDone =>
        refine ⟨a, past, [msg], hpast, ⟨halike.recv, halike.net, halike.ops⟩,
          .sending msg hnet hfits ?_ hk ?_ ?_, by simp⟩
        · simp only [goto, TcpConnAsync.appendMessage, hsend]
        · simp [goto, hstrand hk]
        · simp [goto]
      | kSend =>
        refine ⟨_, _, [], hpast.sends msg, hsent hk ▸ hkept, ?_, by simp⟩
        rw [hsent hk]
        refine .settled hnet ?_ fun hd => ?_
        · simp only [goto, TcpConnAsync.appendMessage, hsend]
        · exact absurd (hk.symm.trans hd) (by simp)
    | completing op hnet hwrites hfull hstatus hsend hstrand =>
      refine ⟨_, _, [], hpast.sends msg, hsent hstatus ▸ hkept, ?_, by simp⟩
      rw [hsent hstatus]
      refine .completing op hnet hwrites hfull hstatus ?_ ?_
      · simp only [goto, TcpConnAsync.appendMessage, hsend]
      · simpa [goto] using hstrand
    | sending _ _ _ _ _ _ hcaller => exact absurd hidle hcaller

lemma Stage.test {th : WriteThread} (h : Stage setting s a pending)
    (hpast : Past setting past s.wire a) (halike : Alike s.conn a)
    (hw : a.net.connStat = .kWorking) (hs : step setting s (.test th) = some t) :
    Linearised setting t (past ++ pending) := by
  by_cases hpc : s.pc th = .atTest
  swap
  · simp [step, hpc] at hs
  rw [step, if_pos hpc] at hs
  obtain rfl := Option.some.inj hs
  have hopen : s.conn.net.connStat = .kWorking := halike.net ▸ hw
  refine ⟨a, past, pending, hpast, halike, ?_, rfl⟩
  cases h with
  | closed hnet => simp [hnet] at hw
  | settled hnet hsend hstrand =>
    refine .settled hnet hsend fun hd => ?_
    have hidle := hstrand hd
    cases th with
    | strand => simp [hpc] at hidle
    | caller => simpa [goto] using hidle
  | completing op hnet hwrites hfull hstatus hsend hstrand =>
    refine .completing op hnet hwrites hfull hstatus hsend ?_
    have htest : s.conn.doWriteTest = true :=
      TcpConnAsync.doWriteTest_eq_true.mpr ⟨by rw [hsend], hopen⟩
    cases th with
    | strand => simp [goto, htest]
    | caller => simpa [goto] using hstrand
  | sending msg hnet hfits hsend hstatus hstrand hcaller =>
    have htest : s.conn.doWriteTest = true :=
      TcpConnAsync.doWriteTest_eq_true.mpr ⟨by rw [hsend]; exact hstatus, hopen⟩
    cases th with
    | strand => simp [hpc] at hstrand
    | caller =>
      refine .sending msg hnet hfits hsend hstatus ?_ ?_
      · simpa [goto] using hstrand
      · simp [goto, htest]

lemma completes_writeDone {op : WriteOp} (hpast : Past setting past s.wire a)
    (halike : Alike s.conn a) (hw : a.net.connStat = .kWorking) (hwrites : a.send.writes = [op])
    (hfull : op.sent = op.size) (hsend : s.conn.send = ⟨.kDone, a.send.bound, []⟩) :
    ∃ b, Past setting past s.wire b ∧ Alike s.conn.doWriteCritical b ∧
      b.send = s.conn.doWriteCritical.send ∧ b.net = a.net := by
  have hdone : a.step setting (.writeDone 0) = some ((a.dropWrite 0).writeHandler none) := by
    simp [TcpConnAsync.step, hwrites, hfull]
  have hmid : Alike s.conn (a.dropWrite 0).writeCompleted :=
    ⟨halike.recv, halike.net, halike.ops⟩
  have hmidsend : (a.dropWrite 0).writeCompleted.send = s.conn.send := by
    simp [TcpConnAsync.writeCompleted, TcpConnAsync.dropWrite, hwrites, hsend]
  have htest : (a.dropWrite 0).writeCompleted.doWriteTest = true :=
    TcpConnAsync.doWriteTest_eq_true.mpr ⟨rfl, hw⟩
  have hwhole : (a.dropWrite 0).writeHandler none =
      (a.dropWrite 0).writeCompleted.doWriteCritical := by
    rw [TcpConnAsync.writeHandler_eq, TcpConnAsync.doWrite_eq, if_pos htest]
  obtain ⟨halike', hsend'⟩ :=
    TcpConnAsync.doWriteCritical_alike hmid (halike.net ▸ hw) hmidsend
  refine ⟨_, hpast.completes hdone (by simp), hwhole ▸ halike', hwhole ▸ hsend', ?_⟩
  rw [hwhole, TcpConnAsync.doWriteCritical_net]
  rfl

lemma Stage.critical {th : WriteThread} (h : Stage setting s a pending)
    (hpast : Past setting past s.wire a) (halike : Alike s.conn a)
    (hw : a.net.connStat = .kWorking) (hx : s.Exclusive (.critical th))
    (hs : step setting s (.critical th) = some t) : Linearised setting t (past ++ pending) := by
  simp only [step] at hs
  split_ifs at hs with hpc
  obtain rfl := Option.some.inj hs
  have hempty : s.conn.send.bound.buffer.getLength = 0 → s.conn.doWriteCritical = s.conn :=
    fun h0 => by rw [TcpConnAsync.doWriteCritical, if_pos h0]
  have hstarts : s.conn.send.bound.buffer.getLength ≠ 0 →
      s.conn.doWriteCritical.send.status = .kSend := by
    intro h0
    rw [TcpConnAsync.doWriteCritical, if_neg h0]
    rfl
  cases h with
  | closed hnet => simp [hnet] at hw
  | settled hnet hsend hstrand =>
    -- The buffer was drained by the other thread, or there was nothing to begin with.
    have h0 : s.conn.send.bound.buffer.getLength = 0 := by
      rcases hx with hnil | h0
      · cases hk : a.send.status with
        | kDone => exact hsend ▸ (hpast.stands.1.idle hw hk).2
        | kSend =>
          obtain ⟨op, hone⟩ := hpast.stands.1.sending hw hk
          rw [hsend, hone] at hnil
          cases hnil
      · exact h0
    rw [hempty h0]
    refine ⟨a, past, [], hpast, halike, .settled hnet hsend fun hd => ?_, rfl⟩
    cases th with
    | strand => simp [goto]
    | caller => simpa [goto] using hstrand hd
  | completing op hnet hwrites hfull hstatus hsend hstrand =>
    by_cases h0 : s.conn.send.bound.buffer.getLength = 0 ∧ th = .caller
    · obtain ⟨h0, rfl⟩ := h0
      rw [hempty h0]
      exact ⟨a, past, [], hpast, halike,
        .completing op hnet hwrites hfull hstatus hsend (by simpa [goto] using hstrand), rfl⟩
    · obtain ⟨b, hb, hbalike, hbsend, hbnet⟩ :=
        completes_writeDone hpast halike hw hwrites hfull hsend
      refine ⟨b, past, [], hb, hbalike, .settled (hbnet ▸ hnet) hbsend.symm fun hd => ?_, rfl⟩
      cases th with
      | strand => simp [goto]
      | caller =>
        rw [hbsend, hstarts fun hz => h0 ⟨hz, rfl⟩] at hd
        cases hd
  | sending msg hnet hfits hsend hstatus hstrand hcaller =>
    cases th with
    | strand => simp [hpc] at hstrand
    | caller =>
      have hmid : Alike s.conn (a.appendMessage msg) := ⟨halike.recv, halike.net, halike.ops⟩
      have htest : (a.appendMessage msg).doWriteTest = true :=
        TcpConnAsync.doWriteTest_eq_true.mpr ⟨hstatus, hw⟩
      have hwhole : (a.sendNetMessage setting msg).2 = (a.appendMessage msg).doWriteCritical := by
        rw [TcpConnAsync.sendNetMessage, if_neg (by simp [hfits]), TcpConnAsync.doWrite_eq,
          if_pos htest]
      obtain ⟨halike', hsend'⟩ :=
        TcpConnAsync.doWriteCritical_alike hmid (halike.net ▸ hw) hsend.symm
      refine ⟨_, _, [], hpast.sends msg, hwhole ▸ halike', .settled ?_ ?_ fun _ => ?_, by simp⟩
      · rw [TcpConnAsync.sendNetMessage_net]
        exact hnet
      · exact hwhole ▸ hsend'.symm
      · simpa [goto] using hstrand

lemma Stage.writing (h : Stage setting s a pending) (hpast : Past setting past s.wire a)
    (hw : a.net.connStat = .kWorking) {i : ℕ} {op : WriteOp}
    (hop : s.conn.send.writes[i]? = some op) :
    pending = [] ∧ s.conn.send = a.send ∧ i = 0 ∧ a.send.writes = [op] ∧
      a.send.status = .kSend := by
  cases h with
  | closed hnet => simp [hnet] at hw
  | settled hnet hsend hstrand =>
    exact ⟨rfl, hsend, hpast.stands.1.writing hw (hsend ▸ hop)⟩
  | completing _ _ _ _ _ hsend => simp [hsend] at hop
  | sending msg _ _ hsend hstatus =>
    have hnil : s.conn.send.writes = [] := by
      rw [hsend]
      exact (hpast.stands.1.idle hw hstatus).1
    simp [hnil] at hop

lemma Stage.wrote {i n : ℕ} (h : Stage setting s a pending) (hpast : Past setting past s.wire a)
    (halike : Alike s.conn a) (hw : a.net.connStat = .kWorking)
    (hs : step setting s (.wrote i n) = some t) : Linearised setting t (past ++ pending) := by
  obtain ⟨c, hc, rfl⟩ := Option.map_eq_some_iff.mp hs
  obtain ⟨op, hop, hn, rfl⟩ := TcpConnAsync.step_wrote hc
  obtain ⟨rfl, hsend, rfl, hone, hst⟩ := h.writing hpast hw hop
  have hstep : a.step setting (.wrote 0 n) = some (a.markSent 0 op n) := by
    simp [TcpConnAsync.step, hone, hn.1, hw]
  have hwire : s.conn.putsOnWire (.wrote 0 n) = a.putsOnWire (.wrote 0 n) := by
    simp only [TcpConnAsync.putsOnWire, hsend]
  have hpast' := hpast.act (a := .completes (.wrote 0 n)) hstep
  rw [show Action.sent (.completes (.wrote 0 n)) = [] from rfl, List.append_nil,
    show a.onWire (.completes (.wrote 0 n)) = s.conn.putsOnWire (.wrote 0 n) from hwire.symm]
    at hpast'
  refine ⟨a.markSent 0 op n, past, [], hpast', ⟨halike.recv, halike.net, halike.ops⟩,
    .settled hw ?_ fun hd => ?_, rfl⟩
  · simp only [TcpConnAsync.markSent, hsend]
  · exact absurd (hst.symm.trans hd) (by simp)

lemma Stage.writeDone {i : ℕ} (h : Stage setting s a pending) (hpast : Past setting past s.wire a)
    (halike : Alike s.conn a) (hw : a.net.connStat = .kWorking)
    (hs : step setting s (.writeDone i) = some t) : Linearised setting t (past ++ pending) := by
  obtain ⟨op, hop, hs⟩ := Option.bind_eq_some_iff.mp hs
  split_ifs at hs with hc
  obtain rfl := Option.some.inj hs
  obtain ⟨rfl, hsend, rfl, hone, hst⟩ := h.writing hpast hw hop
  refine ⟨a, past, [], hpast, ⟨halike.recv, halike.net, halike.ops⟩,
    .completing op hw hone hc.1 hst ?_ ?_, rfl⟩
  · simp [goto, TcpConnAsync.writeCompleted, TcpConnAsync.dropWrite, hsend, hone]
  · simp [goto]

lemma Stage.writeFail {i : ℕ} {ec : ErrorCode} (h : Stage setting s a pending)
    (hpast : Past setting past s.wire a) (halike : Alike s.conn a)
    (hw : a.net.connStat = .kWorking) (hs : step setting s (.writeFail i ec) = some t) :
    Linearised setting t (past ++ pending) := by
  obtain ⟨-, c, hc, rfl⟩ := handle_some hs
  obtain ⟨op, hop, hmay, rfl⟩ := TcpConnAsync.step_writeFail hc
  obtain ⟨rfl, hsend, rfl, hone, -⟩ := h.writing hpast hw hop
  have hmay' : a.mayFail ec = true := by rwa [TcpConnAsync.mayFail, halike.net]
  have hstep : a.step setting (.writeFail 0 ec) =
      some ((a.dropWrite 0).writeHandler (some ec)) := by
    simp [TcpConnAsync.step, hone, hmay']
  have hdrop : Alike (s.conn.dropWrite 0) (a.dropWrite 0) := ⟨halike.recv, halike.net, halike.ops⟩
  exact linearised_of_closed (hpast.completes hstep (by simp))
    (TcpConnAsync.handleSocketEc_alike hdrop ec)
    (TcpConnAsync.mayFail_stops (c := a.dropWrite 0) hmay') (Or.inl rfl)

lemma Stage.readDone {i : ℕ} {bytes : Bytes} (h : Stage setting s a pending)
    (hpast : Past setting past s.wire a) (halike : Alike s.conn a)
    (hs : step setting s (.readDone i bytes) = some t) :
    Linearised setting t (past ++ pending) := by
  obtain ⟨hidle, c, hc, rfl⟩ := handle_some hs
  obtain ⟨b, hb, hbalike, hcsend, hbsend⟩ := TcpConnAsync.step_readDone_alike halike hc
  have hpast' := hpast.completes hb (by simp)
  by_cases hbw : b.net.connStat = .kWorking
  swap
  · exact linearised_of_closed hpast' hbalike hbw h.pending_cases
  refine ⟨b, past, pending, hpast', hbalike, ?_, rfl⟩
  cases h with
  | closed hnet =>
    have hstopped := TcpConnAsync.step_stopped (by simp [hnet]) hb
    exact absurd hbw hstopped
  | settled hnet hsend hstrand =>
    exact .settled hbw (hcsend.trans (hsend.trans hbsend.symm)) fun _ => hidle
  | completing _ _ _ _ _ _ hstrand => exact absurd hidle hstrand
  | sending msg hnet hfits hsend hstatus hstrand hcaller =>
    refine .sending msg hbw hfits ?_ (by rw [hbsend]; exact hstatus) hstrand hcaller
    rw [hcsend, hsend]
    simp only [TcpConnAsync.appendMessage, hbsend]

lemma Stage.readFail {i : ℕ} {ec : ErrorCode} (h : Stage setting s a pending)
    (hpast : Past setting past s.wire a) (halike : Alike s.conn a)
    (hs : step setting s (.readFail i ec) = some t) : Linearised setting t (past ++ pending) := by
  obtain ⟨-, c, hc, rfl⟩ := handle_some hs
  obtain ⟨b, hb, hbalike⟩ := TcpConnAsync.step_readFail_alike halike hc
  refine linearised_of_closed (hpast.completes hb (by simp)) hbalike ?_ h.pending_cases
  obtain ⟨op, -, hmay, rfl⟩ := TcpConnAsync.step_readFail hb
  exact TcpConnAsync.mayFail_stops (c := a.dropRead i) hmay

/-- Every step of the two threads keeps a run of whole steps behind it. -/
theorem Linearised.step {e : Event} (h : Linearised setting s ms) (hx : s.Exclusive e)
    (hs : SharedConn.step setting s e = some t) : Linearised setting t (ms ++ e.sent) := by
  obtain ⟨a, past, pending, hpast, halike, hstage, rfl⟩ := h
  by_cases hw : a.net.connStat = .kWorking
  swap
  · cases hstage with
    | closed => simpa using step_closed hpast halike hw hs
    | _ => contradiction
  cases e with
  | send msg => exact hstage.send hpast halike hw hs
  | test th => exact (List.append_nil _).symm ▸ hstage.test hpast halike hw hs
  | critical th => exact (List.append_nil _).symm ▸ hstage.critical hpast halike hw hx hs
  | wrote i n => exact (List.append_nil _).symm ▸ hstage.wrote hpast halike hw hs
  | writeDone i => exact (List.append_nil _).symm ▸ hstage.writeDone hpast halike hw hs
  | writeFail i ec => exact (List.append_nil _).symm ▸ hstage.writeFail hpast halike hw hs
  | readDone i bytes => exact (List.append_nil _).symm ▸ hstage.readDone hpast halike hs
  | readFail i ec => exact (List.append_nil _).symm ▸ hstage.readFail hpast halike hs
  | closes =>
    obtain rfl := Option.some.inj hs
    refine (List.append_nil _).symm ▸
      linearised_of_closed hpast.closes halike.shutdown ?_ hstage.pending_cases
    simp [TcpConnAsync.shutdownAndCloseSocket]

lemma start_linearised (setting : ClientSetting) : Linearised setting (start setting) [] :=
  ⟨_, [], [], TcpConnAsync.started_past setting, ⟨rfl, rfl, fun _ => rfl⟩,
    .settled rfl rfl fun _ => rfl, rfl⟩

lemma Linearised.toPast (h : Linearised setting s ms) :
    ∃ a, Past setting ms s.wire a ∧ a.recv = s.conn.recv ∧ a.net = s.conn.net := by
  obtain ⟨a, past, pending, hpast, halike, hstage, rfl⟩ := h
  rcases hstage.pending_cases with rfl | ⟨msg, rfl⟩
  · exact ⟨a, (List.append_nil past).symm ▸ hpast, halike.recv, halike.net⟩
  · refine ⟨_, hpast.sends msg, ?_, ?_⟩
    · rw [TcpConnAsync.sendNetMessage_recv, halike.recv]
    · rw [TcpConnAsync.sendNetMessage_net, halike.net]

end Linearised

/-- The two threads can get there without taking bytes behind an outstanding write. -/
def Exclusively (setting : ClientSetting) (es : List Event) (s : SharedConn) : Prop :=
  (machine setting).run es = some s ∧
    ∀ u e v, (machine setting).Takes es u e v → u.Exclusive e

def resting (c : TcpConnAsync) (wire : Bytes) : SharedConn := ⟨c, fun _ => .idle, wire⟩

section Exclusively

variable {setting : ClientSetting} {s t : SharedConn} {es : List Event} {c d : TcpConnAsync}
  {wire : Bytes}

lemma Exclusively.linearised (h : Exclusively setting es s) :
    Linearised setting s (es.flatMap Event.sent) :=
  Machine.run_induction (M := machine setting) (C := Exclusive)
    (P := fun es s => Linearised setting s (es.flatMap Event.sent))
    (start_linearised setting) (fun es s e t _ hl hx hs => by simpa using hl.step hx hs) h.1 h.2

lemma Exclusively.snoc {e : Event} (h : Exclusively setting es s) (hx : s.Exclusive e)
    (hs : step setting s e = some t) : Exclusively setting (es ++ [e]) t := by
  refine ⟨?_, ?_⟩
  · rw [Machine.run_snoc, h.1]
    exact hs
  · rintro u f v ⟨pre, hpre, hu, hn⟩
    rcases List.prefix_concat_iff.mp hpre with heq | hpre
    · obtain ⟨rfl, hf⟩ := List.append_inj' heq rfl
      obtain rfl := List.singleton_injective hf
      obtain rfl := Option.some.inj (hu.symm.trans h.1)
      exact hx
    · exact h.2 u f v ⟨pre, hpre, hu, hn⟩

lemma Exclusively.doWrite {th : WriteThread}
    (h : Exclusively setting es ((resting c wire).goto th .atTest))
    (hnil : c.doWriteTest = true → c.send.writes = []) :
    ∃ fs, Exclusively setting (es ++ fs) (resting c.doWrite.2 wire) ∧
      fs.flatMap Event.sent = [] := by
  have htest : step setting ((resting c wire).goto th .atTest) (.test th) =
      some ((resting c wire).goto th (if c.doWriteTest then .atCritical else .idle)) := by
    rw [step, if_pos (by simp [goto])]
    change some (((resting c wire).goto th .atTest).goto th
      (if c.doWriteTest then .atCritical else .idle)) = _
    simp only [goto, Function.update_idem]
  have h1 := h.snoc (e := .test th) trivial htest
  rw [TcpConnAsync.doWrite_eq]
  cases hpass : c.doWriteTest with
  | false =>
    refine ⟨[.test th], ?_, rfl⟩
    have hidle : (resting c wire).goto th .idle = resting c wire := by simp [goto, resting]
    simpa [hpass, hidle] using h1
  | true =>
    rw [hpass, if_pos rfl] at h1
    have hcritical : step setting ((resting c wire).goto th .atCritical) (.critical th) =
        some (resting c.doWriteCritical wire) := by
      rw [step, if_pos (by simp [goto])]
      simp [goto, resting]
    refine ⟨[.test th, .critical th], ?_, rfl⟩
    simpa using h1.snoc (e := .critical th) (Or.inl (hnil hpass)) hcritical

lemma Exclusively.act {a : TcpConnAsync.Action} (h : Exclusively setting es (resting c wire))
    (hrests : c.Rests) (hs : TcpConnAsync.act setting c a = some d) :
    ∃ fs, Exclusively setting (es ++ fs) (resting d (wire ++ c.onWire a)) ∧
      fs.flatMap Event.sent = a.sent := by
  have hhandle : ∀ {e : TcpConnAsync.Event}, c.step setting e = some d →
      (resting c wire).handle setting e = some (resting d wire) := by
    intro e he
    simp [handle, resting, he]
  cases a with
  | sends msg =>
    obtain rfl := Option.some.inj hs
    rw [show c.onWire (.sends msg) = [] from rfl, List.append_nil, TcpConnAsync.sendNetMessage]
    split_ifs with hr
    · refine ⟨[.send msg], h.snoc trivial ?_, rfl⟩
      simp [step, resting, hr]
    · have hsend : step setting (resting c wire) (.send msg) =
          some ((resting (c.appendMessage msg) wire).goto .caller .atTest) := by
        simp [step, resting, hr, goto]
      obtain ⟨fs, hfs, hsent⟩ := (h.snoc (e := .send msg) trivial hsend).doWrite fun htest => by
        obtain ⟨hdone, hwork⟩ := TcpConnAsync.doWriteTest_eq_true.mp htest
        exact (hrests.idle hwork hdone).1
      exact ⟨.send msg :: fs, by simpa using hfs, by simp [hsent, Event.sent,
        TcpConnAsync.Action.sent]⟩
  | closes =>
    obtain rfl := Option.some.inj hs
    rw [show c.onWire .closes = [] from rfl, List.append_nil]
    exact ⟨[.closes], h.snoc trivial rfl, rfl⟩
  | completes e =>
    cases e with
    | wrote i n =>
      refine ⟨[.wrote i n], h.snoc trivial ?_, rfl⟩
      simp only [step, resting]
      rw [show c.step setting (.wrote i n) = some d from hs]
      rfl
    | writeDone i =>
      have hwhole : c.step setting (.writeDone i) = some d := hs
      obtain ⟨op, hop, hfull, rfl⟩ := TcpConnAsync.step_writeDone hwhole
      have hdone : step setting (resting c wire) (.writeDone i) =
          some ((resting (c.dropWrite i).writeCompleted wire).goto .strand .atTest) := by
        simp [step, resting, hop, hfull, goto]
      obtain ⟨fs, hfs, hsent⟩ := (h.snoc (e := .writeDone i) trivial hdone).doWrite fun htest => by
        have hwork := (TcpConnAsync.doWriteTest_eq_true.mp htest).2
        obtain ⟨rfl, hone, -⟩ := hrests.writing hwork hop
        simp [TcpConnAsync.writeCompleted, TcpConnAsync.dropWrite, hone]
      refine ⟨.writeDone i :: fs, ?_, by simp [hsent, Event.sent, TcpConnAsync.Action.sent]⟩
      rw [show c.onWire (.completes (.writeDone i)) = [] from rfl, List.append_nil,
        TcpConnAsync.writeHandler_eq]
      simpa using hfs
    | writeFail i ec =>
      rw [show c.onWire (.completes (.writeFail i ec)) = [] from rfl, List.append_nil]
      exact ⟨[.writeFail i ec], h.snoc trivial (hhandle hs), rfl⟩
    | readDone i bytes =>
      rw [show c.onWire (.completes (.readDone i bytes)) = [] from rfl, List.append_nil]
      exact ⟨[.readDone i bytes], h.snoc trivial (hhandle hs), rfl⟩
    | readFail i ec =>
      rw [show c.onWire (.completes (.readFail i ec)) = [] from rfl, List.append_nil]
      exact ⟨[.readFail i ec], h.snoc trivial (hhandle hs), rfl⟩

end Exclusively

section Writes

variable {setting : ClientSetting} {s t : SharedConn} {es : List Event}

lemma critical_writes (h : s.conn.send.bound.buffer.getLength ≠ 0) :
    s.conn.doWriteCritical.send.writes.length = s.conn.send.writes.length + 1 := by
  rw [TcpConnAsync.doWriteCritical, if_neg h]
  simp [TcpConnAsync.startWrite]

lemma step_writes {e : Event} (h : s.conn.send.writes.length ≤ 1) (hx : s.Exclusive e)
    (hs : step setting s e = some t) : t.conn.send.writes.length ≤ 1 := by
  cases e with
  | send msg =>
    simp only [step] at hs
    split_ifs at hs <;> obtain rfl := Option.some.inj hs <;> exact h
  | test th =>
    by_cases hpc : s.pc th = .atTest
    · rw [step, if_pos hpc] at hs
      obtain rfl := Option.some.inj hs
      exact h
    · simp [step, hpc] at hs
  | critical th =>
    simp only [step] at hs
    split_ifs at hs
    obtain rfl := Option.some.inj hs
    by_cases h0 : s.conn.send.bound.buffer.getLength = 0
    · rw [goto, TcpConnAsync.doWriteCritical, if_pos h0]
      exact h
    · have hstarted := critical_writes h0
      rw [hx.resolve_right h0] at hstarted
      exact hstarted.le
  | wrote i n =>
    obtain ⟨c, hc, rfl⟩ := Option.map_eq_some_iff.mp hs
    obtain ⟨op, -, -, rfl⟩ := TcpConnAsync.step_wrote hc
    simpa [TcpConnAsync.markSent] using h
  | writeDone i =>
    obtain ⟨op, -, hs⟩ := Option.bind_eq_some_iff.mp hs
    split_ifs at hs
    obtain rfl := Option.some.inj hs
    exact (List.length_eraseIdx_le _ _).trans h
  | writeFail i ec =>
    obtain ⟨-, c, hc, rfl⟩ := handle_some hs
    obtain ⟨op, -, -, rfl⟩ := TcpConnAsync.step_writeFail hc
    rw [TcpConnAsync.writeHandler, TcpConnAsync.handleSocketEc_send]
    exact (List.length_eraseIdx_le _ _).trans h
  | readDone i bytes =>
    obtain ⟨-, c, hc, rfl⟩ := handle_some hs
    obtain ⟨-, -, -, hsend, -⟩ := TcpConnAsync.step_readDone_alike ⟨rfl, rfl, fun _ => rfl⟩ hc
    rwa [hsend]
  | readFail i ec =>
    obtain ⟨-, c, hc, rfl⟩ := handle_some hs
    obtain ⟨op, -, -, rfl⟩ := TcpConnAsync.step_readFail hc
    rw [TcpConnAsync.handleSocketEc_send]
    exact h
  | closes =>
    obtain rfl := Option.some.inj hs
    exact h

lemma exclusively_iff : Exclusively setting es s ↔ (machine setting).run es = some s ∧
    ∀ u, (machine setting).Visits es u → u.conn.send.writes.length ≤ 1 := by
  constructor
  · rintro ⟨hrun, hx⟩
    refine ⟨hrun, fun u hu => Machine.visits_of_inductive (M := machine setting)
      (I := fun s => s.conn.send.writes.length ≤ 1) ?_ (fun _ _ _ => step_writes) hx hu⟩
    exact Nat.zero_le _
  · rintro ⟨hrun, hone⟩
    refine ⟨hrun, fun u e v ht => ?_⟩
    cases e with
    | critical th =>
      by_contra hx
      obtain ⟨hne, h0⟩ := not_or.mp hx
      have hlater := hone v ht.visits_next
      obtain ⟨-, -, -, hs⟩ := id ht
      simp only [machine, step] at hs
      split_ifs at hs
      obtain rfl := Option.some.inj hs
      have hstarted := critical_writes h0
      have hpos := List.length_pos_of_ne_nil hne
      simp only [goto] at hlater
      omega
    | _ => trivial

end Writes

/-- Without a second write behind an outstanding one, the caller and the strand show exactly
what the connection that does each send and each handler in one step shows: the messages
sent, the bytes on the wire, the receive side and the state of the socket. -/
theorem whole_steps_iff {setting : ClientSetting} {ms : List Message} {wire : Bytes}
    {recv : RecvSide} {net : NetConn} :
    (∃ es s, ((machine setting).run es = some s ∧
        ∀ u, (machine setting).Visits es u → u.conn.send.writes.length ≤ 1) ∧
      es.flatMap Event.sent = ms ∧ s.wire = wire ∧ s.conn.recv = recv ∧ s.conn.net = net) ↔
    ∃ c, Past setting ms wire c ∧ c.recv = recv ∧ c.net = net := by
  simp only [← exclusively_iff]
  constructor
  · rintro ⟨es, s, ⟨hrun, hx⟩, rfl, rfl, rfl, rfl⟩
    exact Exclusively.linearised ⟨hrun, hx⟩ |>.toPast
  · rintro ⟨c, ⟨as, hrun, rfl, rfl⟩, rfl, rfl⟩
    let M := TcpConnAsync.connection setting
    have hmirrored : ∃ es, Exclusively setting es (resting c ((M.trace M.start as).flatMap
        fun x => x.1.onWire x.2.1)) ∧ es.flatMap Event.sent = as.flatMap Action.sent := by
      refine Machine.run_induction (M := M) (C := fun _ _ => True)
        (P := fun as c => ∃ es, Exclusively setting es (resting c ((M.trace M.start as).flatMap
          fun x => x.1.onWire x.2.1)) ∧ es.flatMap Event.sent = as.flatMap Action.sent)
        ⟨[], ⟨rfl, ?_⟩, rfl⟩ ?_ hrun fun _ _ _ _ => trivial
      · rintro u e v ⟨pre, hpre, -⟩
        simp at hpre
      · rintro as c a d hc ⟨es, hes, hsent⟩ - hs
        have hpast : Past setting (as.flatMap Action.sent) _ c := ⟨as, hc, rfl, rfl⟩
        obtain ⟨fs, hfs, hmore⟩ := hes.act hpast.stands.1 hs
        refine ⟨es ++ fs, ?_, by simp [hsent, hmore]⟩
        rw [Machine.trace_append hc, List.flatMap_append]
        simpa [Machine.trace, hs] using hfs
    obtain ⟨es, hes, hsent⟩ := hmirrored
    exact ⟨es, _, hes, hsent, rfl, rfl, rfl⟩

/-- A call that has returned lets the next one append while the strand is past its tests. -/
def racingCaller : List Event :=
  [.send (.ofPayload [1]), .test .caller, .critical .caller, .wrote 0 17, .writeDone 0,
    .test .strand, .send (.ofPayload [2]), .test .caller, .critical .caller,
    .send (.ofPayload [3]), .critical .strand, .wrote 0 17]

/-- The third message goes out in the write of the second. -/
example : ((machine ⟨0, 0⟩).run racingCaller).any (fun s =>
    s.conn.send.writes.length = 2 ∧
      s.wire = [.ofPayload [1], .ofPayload [3]].flatMap Message.netStr) := by decide +kernel

end SharedConn

end Tzrpc.Client
