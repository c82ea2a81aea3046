import Tzrpc.Machine
import Tzrpc.NetConn
import Tzrpc.SteadyTimer

/-!
# The server connection

`TcpConnAsync` with its read chain, its send side and its operation timer. The operations
handed to asio and not yet completed are part of the state, the completions are events.
The read chain recurses through pipelined frames, so its routines take fuel and are `none`
when it runs out; the handlers give it enough for the bytes they hold.
-/
namespace Tzrpc

structure RecvSide where
  bound : IOBound
  reads : List ReadOp
  /-- The payloads handed to `Dispatcher::handle_RPC`, oldest first. -/
  dispatched : List Bytes
  deriving DecidableEq, Repr

structure TcpConnAsync where
  net : NetConn
  wasCancelled : Bool
  /-- Each wait carries the operation it was armed for. -/
  opsCancelTimer : SteadyTimer ℕ
  recv : RecvSide
  send : SendSide
  /-- Operations started so far; the next one gets this number. -/
  ops : ℕ
  deriving DecidableEq, Repr

/-- What a connection reads of its server and of the dispatcher. -/
structure ServerEnv where
  recvMaxMsgSize : Int32
  sendMaxMsgSize : Int32
  opsCancelTimeOut : Int32
  /-- The rejection `Dispatcher::handle_RPC` sends on the connection before it returns, if
  it rejects the payload. -/
  inlineReply : Bytes → Option Message

namespace TcpConnAsync

def fresh : TcpConnAsync where
  net := NetConn.fresh
  wasCancelled := false
  opsCancelTimer := SteadyTimer.empty
  recv := ⟨IOBound.fresh, [], []⟩
  send := ⟨.kDone, IOBound.fresh, []⟩
  ops := 0

def sockShutdownAndClose (c : TcpConnAsync) : TcpConnAsync :=
  { c with net := c.net.sockShutdownAndClose }

def setOpsCancelTimeout (env : ServerEnv) (c : TcpConnAsync) : TcpConnAsync :=
  if env.opsCancelTimeOut = 0 then c
  else
    let timer := if c.opsCancelTimer.object.isSome then c.opsCancelTimer.cancel
      else c.opsCancelTimer.create
    { c with opsCancelTimer := timer.expiresFromNow.asyncWait c.ops }

def revokeOpsCancelTimeout (c : TcpConnAsync) : TcpConnAsync :=
  if c.opsCancelTimer.object.isSome then
    { c with opsCancelTimer := c.opsCancelTimer.cancel.destroy }
  else c

def opsCancel (c : TcpConnAsync) : TcpConnAsync :=
  { c with net := c.net.setConnStat .kError, wasCancelled := true }

def opsCancelTimeoutCall (c : TcpConnAsync) : WaitCode → TcpConnAsync
  | .success => c.opsCancel.sockShutdownAndClose
  | .aborted => c

def handleSocketEc (c : TcpConnAsync) (ec : ErrorCode) : TcpConnAsync :=
  if ec.closeSocket || c.wasCancelled then
    c.revokeOpsCancelTimeout.opsCancel.sockShutdownAndClose
  else c

def asyncRead (c : TcpConnAsync) (kind : ReadKind) (atLeast : ℕ) : TcpConnAsync :=
  { c with
    recv := { c.recv with reads := c.recv.reads ++ [⟨c.ops, kind, atLeast⟩] }
    ops := c.ops + 1 }

/-- The tests `do_write` makes before it takes `bound_mutex_`. -/
def doWriteTest (c : TcpConnAsync) : Bool :=
  decide (c.send.status = .kDone) && decide (c.net.connStat = .kWorking) && !c.wasCancelled

/-- `consume` into the send block and `async_write` of it. -/
def startWrite (c : TcpConnAsync) (toWrite : UInt32) : TcpConnAsync :=
  let taken := c.send.bound.buffer.consumeBlock c.send.bound.ioBlock toWrite
  { c with
    send :=
      { status := .kSend
        bound := { c.send.bound with ioBlock := taken.1, buffer := taken.2 }
        writes := c.send.writes ++ [⟨c.ops, toWrite.toNat, 0⟩] }
    ops := c.ops + 1 }

/-- The critical section of `do_write`, under `bound_mutex_`. -/
def doWriteCritical (env : ServerEnv) (c : TcpConnAsync) : TcpConnAsync :=
  if c.send.bound.buffer.getLength = 0 then { c with send := { c.send with status := .kDone } }
  else (c.setOpsCancelTimeout env).startWrite
    (min c.send.bound.buffer.getLength kFixedIoBufferSize)

def doWrite (env : ServerEnv) (c : TcpConnAsync) : TcpConnAsync :=
  if c.doWriteTest then c.doWriteCritical env else c

def refusesSize (env : ServerEnv) (msg : Message) : Bool :=
  decide (env.sendMaxMsgSize ≠ 0) && decide (env.sendMaxMsgSize.toUInt32 < msg.header.length)

/-- The append of `async_send_message`, under `bound_mutex_`. -/
def appendMessage (c : TcpConnAsync) (msg : Message) : TcpConnAsync :=
  { c with
    send := { c.send with
      bound := { c.send.bound with buffer := c.send.bound.buffer.append msg } } }

def asyncSendMessage (env : ServerEnv) (c : TcpConnAsync) (msg : Message) : ℤ × TcpConnAsync :=
  if refusesSize env msg then (-1, c) else (0, (c.appendMessage msg).doWrite env)

/-- `write_handler` up to its call of `do_write`. -/
def writeCompleted (c : TcpConnAsync) : TcpConnAsync :=
  let c := c.revokeOpsCancelTimeout
  { c with send := { c.send with status := .kDone } }

def writeHandler (env : ServerEnv) (c : TcpConnAsync) : Option ErrorCode → TcpConnAsync
  | some ec => c.revokeOpsCancelTimeout.handleSocketEc ec
  | none => c.writeCompleted.doWrite env

def parseHeader (env : ServerEnv) (c : TcpConnAsync) : ℤ × TcpConnAsync :=
  let res := c.recv.bound.parseHeader env.recvMaxMsgSize.toUInt32
  (res.1, { c with recv := { c.recv with bound := res.2 } })

def parseMsgBody (c : TcpConnAsync) (msg : Message) : ℤ × Message × TcpConnAsync :=
  let res := c.recv.bound.parseMsgBody msg
  (res.1, res.2.1, { c with recv := { c.recv with bound := res.2.2 } })

/-- `Dispatcher::handle_RPC` on a new `RpcInstance`, as far as the connection sees it. -/
def dispatch (env : ServerEnv) (c : TcpConnAsync) (payload : Bytes) : TcpConnAsync :=
  let c := { c with recv := { c.recv with dispatched := c.recv.dispatched ++ [payload] } }
  match env.inlineReply payload with
  | none => c
  | some msg => (c.asyncSendMessage env msg).2

mutual

def doRead (env : ServerEnv) : ℕ → TcpConnAsync → Option TcpConnAsync
  | 0, _ => none
  | fuel + 1, c =>
    if c.net.connStat ≠ .kWorking then some c
    else if c.wasCancelled then some c
    else if c.recv.bound.buffer.getLength.toNat < Header.size then
      some ((c.setOpsCancelTimeout env).asyncRead .head
        (Header.size - c.recv.bound.buffer.getLength.toNat))
    else
      let res := c.parseHeader env
      if res.1 = 0 then doReadMsg env fuel res.2
      else if 0 < res.1 then doRead env fuel res.2
      else some res.2.sockShutdownAndClose

def doReadMsg (env : ServerEnv) : ℕ → TcpConnAsync → Option TcpConnAsync
  | 0, _ => none
  | fuel + 1, c =>
    if c.net.connStat ≠ .kWorking then some c
    else if c.wasCancelled then some c
    else if c.recv.bound.buffer.getLength < c.recv.bound.header.length then
      let toRead := min (c.recv.bound.header.length - c.recv.bound.buffer.getLength)
        kFixedIoBufferSize
      some ((c.setOpsCancelTimeout env).asyncRead .body toRead.toNat)
    else
      let res := c.parseMsgBody ⟨Header.zero, []⟩
      if res.1 = 0 then doRead env fuel (res.2.2.dispatch env res.2.1.payload)
      else if 0 < res.1 then doReadMsg env fuel res.2.2
      else some res.2.2.sockShutdownAndClose

end

/-- Two calls for every head the buffer can hold, and two for the rest. -/
def chainFuel (c : TcpConnAsync) : ℕ :=
  2 * (c.recv.bound.buffer.data.length / Header.size + 1)

/-- `append_internal` of the transferred bytes. -/
def received (c : TcpConnAsync) (bytes : Bytes) : TcpConnAsync :=
  { c with
    recv := { c.recv with
      bound := { c.recv.bound with buffer := c.recv.bound.buffer.appendInternal bytes } } }

def readHandler (env : ServerEnv) (c : TcpConnAsync) (bytes : Bytes) : Option TcpConnAsync :=
  let c := c.revokeOpsCancelTimeout.received bytes
  if c.recv.bound.buffer.getLength.toNat < Header.size then c.doRead env c.chainFuel
  else
    let res := c.parseHeader env
    if res.1 = 0 then doReadMsg env c.chainFuel res.2
    else if 0 < res.1 then doRead env c.chainFuel res.2
    else some res.2.sockShutdownAndClose

def readMsgHandler (env : ServerEnv) (c : TcpConnAsync) (bytes : Bytes) : Option TcpConnAsync :=
  let c := c.revokeOpsCancelTimeout.received bytes
  let res := c.parseMsgBody ⟨Header.zero, []⟩
  if res.1 = 0 then doRead env c.chainFuel (res.2.2.dispatch env res.2.1.payload)
  else if 0 < res.1 then doReadMsg env c.chainFuel res.2.2
  else some res.2.2.sockShutdownAndClose

/-- The error branch both read handlers begin with. -/
def readFailed (c : TcpConnAsync) (ec : ErrorCode) : TcpConnAsync :=
  c.revokeOpsCancelTimeout.handleSocketEc ec

def start (env : ServerEnv) (c : TcpConnAsync) : Option TcpConnAsync :=
  let c := { c with net := c.net.setConnStat .kWorking }
  c.doRead env c.chainFuel

inductive Event
  | readDone (i : ℕ) (bytes : Bytes)
  | readFail (i : ℕ) (ec : ErrorCode)
  | wrote (i n : ℕ)
  | writeDone (i : ℕ)
  | writeFail (i : ℕ) (ec : ErrorCode)
  | send (msg : Message)
  | timerExpire
  | timerHandler (i : ℕ)
  deriving DecidableEq, Repr

/-- `operation_aborted` is delivered only after the socket was cancelled or closed. -/
def mayFail (c : TcpConnAsync) (ec : ErrorCode) : Bool :=
  decide (ec ≠ .operationAborted) || c.wasCancelled || decide (c.net.connStat = .kClosed)

def dropRead (c : TcpConnAsync) (i : ℕ) : TcpConnAsync :=
  { c with recv := { c.recv with reads := c.recv.reads.eraseIdx i } }

def dropWrite (c : TcpConnAsync) (i : ℕ) : TcpConnAsync :=
  { c with send := { c.send with writes := c.send.writes.eraseIdx i } }

def nextBytes (c : TcpConnAsync) (op : WriteOp) (n : ℕ) : Bytes :=
  (c.send.bound.ioBlock.drop op.sent).take n

def markSent (c : TcpConnAsync) (i : ℕ) (op : WriteOp) (n : ℕ) : TcpConnAsync :=
  { c with send := { c.send with writes := c.send.writes.set i { op with sent := op.sent + n } } }

/-- One completion, send or timer callback, run to its end. -/
def step (env : ServerEnv) (c : TcpConnAsync) : Event → Option TcpConnAsync
  | .readDone i bytes =>
    c.recv.reads[i]?.bind fun op =>
      if op.atLeast ≤ bytes.length ∧ bytes.length ≤ kFixedIoBufferSize.toNat then
        match op.kind with
        | .head => (c.dropRead i).readHandler env bytes
        | .body => (c.dropRead i).readMsgHandler env bytes
      else none
  | .readFail i ec =>
    c.recv.reads[i]?.bind fun _ =>
      if c.mayFail ec then some ((c.dropRead i).readFailed ec) else none
  | .wrote i n =>
    c.send.writes[i]?.bind fun op =>
      if op.sent + n ≤ op.size ∧ c.net.connStat ≠ .kClosed then some (c.markSent i op n) else none
  | .writeDone i =>
    c.send.writes[i]?.bind fun op =>
      if op.sent = op.size then some ((c.dropWrite i).writeHandler env none) else none
  | .writeFail i ec =>
    c.send.writes[i]?.bind fun _ =>
      if c.mayFail ec then some ((c.dropWrite i).writeHandler env (some ec)) else none
  | .send msg => some (c.asyncSendMessage env msg).2
  | .timerExpire =>
    if c.opsCancelTimer.pending = [] then none
    else some { c with opsCancelTimer := c.opsCancelTimer.expire }
  | .timerHandler i =>
    (c.opsCancelTimer.take i).map fun h =>
      { c with opsCancelTimer := h.2 }.opsCancelTimeoutCall h.1.code

lemma writeHandler_failed (env : ServerEnv) (c : TcpConnAsync) (ec : ErrorCode) :
    c.writeHandler env (some ec) = c.readFailed ec := rfl

/-! What a completion of a step was, apart from a read. -/

section Inversion

variable {env : ServerEnv} {c d : TcpConnAsync} {i n : ℕ} {ec : ErrorCode}

lemma step_readFail (hs : step env c (.readFail i ec) = some d) :
    ∃ op, c.recv.reads[i]? = some op ∧ c.mayFail ec = true ∧ d = (c.dropRead i).readFailed ec := by
  obtain ⟨op, hop, hs⟩ := Option.bind_eq_some_iff.mp hs
  split_ifs at hs with hec
  exact ⟨op, hop, hec, (Option.some.inj hs).symm⟩

lemma step_wrote (hs : step env c (.wrote i n) = some d) :
    ∃ op, c.send.writes[i]? = some op ∧ (op.sent + n ≤ op.size ∧ c.net.connStat ≠ .kClosed) ∧
      d = c.markSent i op n := by
  obtain ⟨op, hop, hs⟩ := Option.bind_eq_some_iff.mp hs
  split_ifs at hs with hn
  exact ⟨op, hop, hn, (Option.some.inj hs).symm⟩

lemma step_writeDone (hs : step env c (.writeDone i) = some d) :
    ∃ op, c.send.writes[i]? = some op ∧ op.sent = op.size ∧
      d = (c.dropWrite i).writeHandler env none := by
  obtain ⟨op, hop, hs⟩ := Option.bind_eq_some_iff.mp hs
  split_ifs at hs with hall
  exact ⟨op, hop, hall, (Option.some.inj hs).symm⟩

lemma step_writeFail (hs : step env c (.writeFail i ec) = some d) :
    ∃ op, c.send.writes[i]? = some op ∧ c.mayFail ec = true ∧
      d = (c.dropWrite i).writeHandler env (some ec) := by
  obtain ⟨op, hop, hs⟩ := Option.bind_eq_some_iff.mp hs
  split_ifs at hs with hec
  exact ⟨op, hop, hec, (Option.some.inj hs).symm⟩

end Inversion

def started (env : ServerEnv) : TcpConnAsync := (fresh.start env).getD fresh

lemma started_eq (env : ServerEnv) :
    started env = (({ fresh with net := fresh.net.setConnStat .kWorking }).setOpsCancelTimeout
      env).asyncRead .head Header.size := rfl

def machine (env : ServerEnv) : Machine TcpConnAsync Event := ⟨started env, step env⟩

/-- The part of the state that decides whether and what the read chain reads. -/
def recvView (c : TcpConnAsync) : NetConn × Bool × RecvSide := (c.net, c.wasCancelled, c.recv)

lemma recvView_eq_iff {c d : TcpConnAsync} :
    c.recvView = d.recvView ↔ c.net = d.net ∧ c.wasCancelled = d.wasCancelled ∧ c.recv = d.recv := by
  simp [recvView]

@[simp] lemma setOpsCancelTimeout_recvView (env : ServerEnv) (c : TcpConnAsync) :
    (c.setOpsCancelTimeout env).recvView = c.recvView := by
  unfold setOpsCancelTimeout
  split_ifs <;> rfl

@[simp] lemma setOpsCancelTimeout_send (env : ServerEnv) (c : TcpConnAsync) :
    (c.setOpsCancelTimeout env).send = c.send := by
  unfold setOpsCancelTimeout
  split_ifs <;> rfl

@[simp] lemma revokeOpsCancelTimeout_recvView (c : TcpConnAsync) :
    c.revokeOpsCancelTimeout.recvView = c.recvView := by
  unfold revokeOpsCancelTimeout
  split_ifs <;> rfl

@[simp] lemma revokeOpsCancelTimeout_send (c : TcpConnAsync) :
    c.revokeOpsCancelTimeout.send = c.send := by
  unfold revokeOpsCancelTimeout
  split_ifs <;> rfl

@[simp] lemma doWriteCritical_recvView (env : ServerEnv) (c : TcpConnAsync) :
    (c.doWriteCritical env).recvView = c.recvView := by
  unfold doWriteCritical
  split_ifs
  · rfl
  · exact setOpsCancelTimeout_recvView env c

@[simp] lemma doWrite_recvView (env : ServerEnv) (c : TcpConnAsync) :
    (c.doWrite env).recvView = c.recvView := by
  unfold doWrite
  split_ifs
  · exact doWriteCritical_recvView env c
  · rfl

@[simp] lemma asyncSendMessage_recvView (env : ServerEnv) (c : TcpConnAsync) (msg : Message) :
    (c.asyncSendMessage env msg).2.recvView = c.recvView := by
  unfold asyncSendMessage
  split_ifs
  · rfl
  · rw [doWrite_recvView]
    rfl

lemma dispatch_recvView (env : ServerEnv) (c : TcpConnAsync) (payload : Bytes) :
    (c.dispatch env payload).recvView =
      (c.net, c.wasCancelled, { c.recv with dispatched := c.recv.dispatched ++ [payload] }) := by
  unfold dispatch
  cases env.inlineReply payload with
  | none => rfl
  | some msg => exact asyncSendMessage_recvView env _ msg

@[simp] lemma writeCompleted_recvView (c : TcpConnAsync) :
    c.writeCompleted.recvView = c.recvView := revokeOpsCancelTimeout_recvView c

end TcpConnAsync

end Tzrpc
