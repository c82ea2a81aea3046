import Tzrpc.ClientConnSync

/-!
# The client's asynchronous connection

Like the server's connection without its operation timer: the read chain hands whole
messages to `wrapper_handler_`, and `do_write` answers before it has looked at the
connection status while an earlier write is outstanding.
-/
namespace Tzrpc.Client

structure RecvSide where
  bound : IOBound
  reads : List ReadOp
  /-- The messages handed to `wrapper_handler_`, oldest first. -/
  delivered : List Message
  deriving DecidableEq, Repr

structure TcpConnAsync where
  net : NetConn
  recv : RecvSide
  send : SendSide
  /-- Operations started so far; the next one gets this number. -/
  ops : ℕ
  deriving DecidableEq, Repr

namespace TcpConnAsync

def fresh : TcpConnAsync where
  net := NetConn.fresh.setConnStat .kWorking
  recv := ⟨IOBound.fresh, [], []⟩
  send := ⟨.kDone, IOBound.fresh, []⟩
  ops := 0

def shutdownAndCloseSocket (c : TcpConnAsync) : TcpConnAsync :=
  { c with net := c.net.sockShutdownAndClose }

def handleSocketEc (c : TcpConnAsync) (ec : ErrorCode) : TcpConnAsync :=
  if ec.closeSocket then c.shutdownAndCloseSocket else c

def asyncRead (c : TcpConnAsync) (kind : ReadKind) (atLeast : ℕ) : TcpConnAsync :=
  { c with
    recv := { c.recv with reads := c.recv.reads ++ [⟨c.ops, kind, atLeast⟩] }
    ops := c.ops + 1 }

/-- `consume` into the send block and `async_write` of it. -/
def startWrite (c : TcpConnAsync) (toWrite : UInt32) : TcpConnAsync :=
  let taken := c.send.bound.buffer.consumeBlock c.send.bound.ioBlock toWrite
  { c with
    send :=
      { status := .kSend
        bound := { c.send.bound with ioBlock := taken.1, buffer := taken.2 }
        writes := c.send.writes ++ [⟨c.ops, toWrite.toNat, 0⟩] }
    ops := c.ops + 1 }

def doWrite (c : TcpConnAsync) : Bool × TcpConnAsync :=
  if c.send.status ≠ .kDone then (true, c)
  else if c.net.connStat ≠ .kWorking then (false, c)
  else if c.send.bound.buffer.getLength = 0 then (true, c)
  else (true, c.startWrite (min c.send.bound.buffer.getLength kFixedIoBufferSize))

def refusesSize (setting : ClientSetting) (msg : Message) : Bool :=
  decide (setting.sendMaxMsgSize ≠ 0) && decide (setting.sendMaxMsgSize < msg.header.length)

def appendMessage (c : TcpConnAsync) (msg : Message) : TcpConnAsync :=
  { c with
    send := { c.send with
      bound := { c.send.bound with buffer := c.send.bound.buffer.append msg } } }

def sendNetMessage (setting : ClientSetting) (c : TcpConnAsync) (msg : Message) :
    Bool × TcpConnAsync :=
  if refusesSize setting msg then (false, c) else (c.appendMessage msg).doWrite

def writeHandler (c : TcpConnAsync) : Option ErrorCode → TcpConnAsync
  | some ec => c.handleSocketEc ec
  | none => ({ c with send := { c.send with status := .kDone } } : TcpConnAsync).doWrite.2

def parseHeader (setting : ClientSetting) (c : TcpConnAsync) : ℤ × TcpConnAsync :=
  let res := c.recv.bound.parseHeader setting.recvMaxMsgSize
  (res.1, { c with recv := { c.recv with bound := res.2 } })

def parseMsgBody (c : TcpConnAsync) (msg : Message) : ℤ × Message × TcpConnAsync :=
  let res := c.recv.bound.parseMsgBody msg
  (res.1, res.2.1, { c with recv := { c.recv with bound := res.2.2 } })

/-- The call of `wrapper_handler_`. -/
def deliver (c : TcpConnAsync) (msg : Message) : TcpConnAsync :=
  { c with recv := { c.recv with delivered := c.recv.delivered ++ [msg] } }

mutual

def doRead (setting : ClientSetting) : ℕ → TcpConnAsync → Option TcpConnAsync
  | 0, _ => none
  | fuel + 1, c =>
    if c.net.connStat ≠ .kWorking then some c
    else if c.recv.bound.buffer.getLength.toNat < Header.size then
      some (c.asyncRead .head (Header.size - c.recv.bound.buffer.getLength.toNat))
    else
      let res := c.parseHeader setting
      if res.1 = 0 then doReadMsg setting fuel res.2
      else if 0 < res.1 then doRead setting fuel res.2
      else some res.2.shutdownAndCloseSocket

def doReadMsg (setting : ClientSetting) : ℕ → TcpConnAsync → Option TcpConnAsync
  | 0, _ => none
  | fuel + 1, c =>
    if c.net.connStat ≠ .kWorking then some c
    else if c.recv.bound.buffer.getLength < c.recv.bound.header.length then
      let toRead := min (c.recv.bound.header.length - c.recv.bound.buffer.getLength)
        kFixedIoBufferSize
      some (c.asyncRead .body toRead.toNat)
    else
      let res := c.parseMsgBody ⟨Header.zero, []⟩
      if res.1 = 0 then doRead setting fuel (res.2.2.deliver res.2.1)
      else if 0 < res.1 then doReadMsg setting fuel res.2.2
      else some res.2.2.shutdownAndCloseSocket

end

/-- Two calls for every head the buffer can hold, and two for the rest. -/
def chainFuel (c : TcpConnAsync) : ℕ :=
  2 * (c.recv.bound.buffer.data.length / Header.size + 1)

def received (c : TcpConnAsync) (bytes : Bytes) : TcpConnAsync :=
  { c with
    recv := { c.recv with
      bound := { c.recv.bound with buffer := c.recv.bound.buffer.appendInternal bytes } } }

def readHandler (setting : ClientSetting) (c : TcpConnAsync) (bytes : Bytes) :
    Option TcpConnAsync :=
  let c := c.received bytes
  if c.recv.bound.buffer.getLength.toNat < Header.size then c.doRead setting c.chainFuel
  else
    let res := c.parseHeader setting
    if res.1 = 0 then doReadMsg setting c.chainFuel res.2
    else if 0 < res.1 then doRead setting c.chainFuel res.2
    else some res.2.shutdownAndCloseSocket

def readMsgHandler (setting : ClientSetting) (c : TcpConnAsync) (bytes : Bytes) :
    Option TcpConnAsync :=
  let c := c.received bytes
  let res := c.parseMsgBody ⟨Header.zero, []⟩
  if res.1 = 0 then doRead setting c.chainFuel (res.2.2.deliver res.2.1)
  else if 0 < res.1 then doReadMsg setting c.chainFuel res.2.2
  else some res.2.2.shutdownAndCloseSocket

def started (setting : ClientSetting) : TcpConnAsync :=
  (fresh.doRead setting fresh.chainFuel).getD fresh

inductive Event
  | readDone (i : ℕ) (bytes : Bytes)
  | readFail (i : ℕ) (ec : ErrorCode)
  | wrote (i n : ℕ)
  | writeDone (i : ℕ)
  | writeFail (i : ℕ) (ec : ErrorCode)
  deriving DecidableEq, Repr

/-- `operation_aborted` is delivered only after the socket was closed. -/
def mayFail (c : TcpConnAsync) (ec : ErrorCode) : Bool :=
  decide (ec ≠ .operationAborted) || decide (c.net.connStat = .kClosed)

def dropRead (c : TcpConnAsync) (i : ℕ) : TcpConnAsync :=
  { c with recv := { c.recv with reads := c.recv.reads.eraseIdx i } }

def dropWrite (c : TcpConnAsync) (i : ℕ) : TcpConnAsync :=
  { c with send := { c.send with writes := c.send.writes.eraseIdx i } }

def markSent (c : TcpConnAsync) (i : ℕ) (op : WriteOp) (n : ℕ) : TcpConnAsync :=
  { c with send := { c.send with writes := c.send.writes.set i { op with sent := op.sent + n } } }

/-- One completion, run to its end. -/
def step (setting : ClientSetting) (c : TcpConnAsync) : Event → Option TcpConnAsync
  | .readDone i bytes =>
    c.recv.reads[i]?.bind fun op =>
      if op.atLeast ≤ bytes.length ∧ bytes.length ≤ kFixedIoBufferSize.toNat then
        match op.kind with
        | .head => (c.dropRead i).readHandler setting bytes
        | .body => (c.dropRead i).readMsgHandler setting bytes
      else none
  | .readFail i ec =>
    c.recv.reads[i]?.bind fun _ =>
      if c.mayFail ec then some ((c.dropRead i).handleSocketEc ec) else none
  | .wrote i n =>
    c.send.writes[i]?.bind fun op =>
      if op.sent + n ≤ op.size ∧ c.net.connStat ≠ .kClosed then some (c.markSent i op n) else none
  | .writeDone i =>
    c.send.writes[i]?.bind fun op =>
      if op.sent = op.size then some ((c.dropWrite i).writeHandler none) else none
  | .writeFail i ec =>
    c.send.writes[i]?.bind fun _ =>
      if c.mayFail ec then some ((c.dropWrite i).writeHandler (some ec)) else none

/-! What a completion of a step was, apart from a read. -/

section Inversion

variable {setting : ClientSetting} {c d : TcpConnAsync} {i n : ℕ} {ec : ErrorCode}

lemma step_readFail (hs : step setting c (.readFail i ec) = some d) :
    ∃ op, c.recv.reads[i]? = some op ∧ c.mayFail ec = true ∧
      d = (c.dropRead i).handleSocketEc ec := by
  obtain ⟨op, hop, hs⟩ := Option.bind_eq_some_iff.mp hs
  split_ifs at hs with hec
  exact ⟨op, hop, hec, (Option.some.inj hs).symm⟩

lemma step_wrote (hs : step setting c (.wrote i n) = some d) :
    ∃ op, c.send.writes[i]? = some op ∧ (op.sent + n ≤ op.size ∧ c.net.connStat ≠ .kClosed) ∧
      d = c.markSent i op n := by
  obtain ⟨op, hop, hs⟩ := Option.bind_eq_some_iff.mp hs
  split_ifs at hs with hn
  exact ⟨op, hop, hn, (Option.some.inj hs).symm⟩

lemma step_writeDone (hs : step setting c (.writeDone i) = some d) :
    ∃ op, c.send.writes[i]? = some op ∧ op.sent = op.size ∧
      d = (c.dropWrite i).writeHandler none := by
  obtain ⟨op, hop, hs⟩ := Option.bind_eq_some_iff.mp hs
  split_ifs at hs with hall
  exact ⟨op, hop, hall, (Option.some.inj hs).symm⟩

lemma step_writeFail (hs : step setting c (.writeFail i ec) = some d) :
    ∃ op, c.send.writes[i]? = some op ∧ c.mayFail ec = true ∧
      d = (c.dropWrite i).writeHandler (some ec) := by
  obtain ⟨op, hop, hs⟩ := Option.bind_eq_some_iff.mp hs
  split_ifs at hs with hec
  exact ⟨op, hop, hec, (Option.some.inj hs).symm⟩

end Inversion

/-- When a message is accepted: it is not too long, and either an earlier write is
outstanding, whatever the connection's status, or the connection is working. -/
theorem sendNetMessage_accepts {setting : ClientSetting} {c : TcpConnAsync} {msg : Message} :
    (c.sendNetMessage setting msg).1 = true ↔
      refusesSize setting msg = false ∧ (c.send.status = .kSend ∨ c.net.connStat = .kWorking) := by
  unfold sendNetMessage
  cases hr : refusesSize setting msg with
  | true => simp
  | false =>
    have hst : (c.appendMessage msg).send.status = c.send.status := rfl
    have hnet : (c.appendMessage msg).net = c.net := rfl
    simp only [doWrite, Bool.false_eq_true, ↓reduceIte, hst, hnet]
    cases hs : c.send.status with
    | kSend => simp
    | kDone =>
      by_cases hw : c.net.connStat = .kWorking
      · simp only [hw]
        split_ifs <;> simp_all
      · simp [hw]

section Chain

variable {setting : ClientSetting}

lemma parseHeader_length_div (setting : ClientSetting) {c : TcpConnAsync}
    (h : ¬ c.recv.bound.buffer.getLength.toNat < Header.size) :
    (c.parseHeader setting).2.recv.bound.buffer.data.length / Header.size + 1 =
      c.recv.bound.buffer.data.length / Header.size := by
  rw [← (IOBound.parseHeader_cut setting.recvMaxMsgSize h).2,
    Nat.add_div_right _ (by decide)]
  rfl

lemma parseMsgBody_length_div (c : TcpConnAsync) :
    (c.parseMsgBody ⟨Header.zero, []⟩).2.2.recv.bound.buffer.data.length / Header.size ≤
      c.recv.bound.buffer.data.length / Header.size :=
  Nat.div_le_div_right (c.recv.bound.parseMsgBody_cut _).2

lemma chain_send (fuel : ℕ) (c : TcpConnAsync) :
    (2 * (c.recv.bound.buffer.data.length / Header.size) + 1 ≤ fuel →
      ∃ d, doRead setting fuel c = some d ∧ d.send = c.send) ∧
    (2 * (c.recv.bound.buffer.data.length / Header.size) + 2 ≤ fuel →
      ∃ d, doReadMsg setting fuel c = some d ∧ d.send = c.send) := by
  induction fuel generalizing c with
  | zero => exact ⟨by omega, by omega⟩
  | succ fuel ih =>
    constructor
    · intro hfuel
      unfold doRead
      dsimp only
      split_ifs with hw hs h0 h1
      · exact ⟨c, rfl, rfl⟩
      · exact ⟨_, rfl, rfl⟩
      · have hdiv := parseHeader_length_div setting hs
        exact (ih (c.parseHeader setting).2).2 (by omega)
      · exact absurd h1 (IOBound.parseHeader_cut setting.recvMaxMsgSize hs).1.not_gt
      · exact ⟨_, rfl, rfl⟩
    · intro hfuel
      unfold doReadMsg
      dsimp only
      split_ifs with hw hs h0 h1
      · exact ⟨c, rfl, rfl⟩
      · exact ⟨_, rfl, rfl⟩
      · refine (ih (TcpConnAsync.deliver (c.parseMsgBody ⟨Header.zero, []⟩).2.2 _)).1 ?_
        have hdiv := parseMsgBody_length_div c
        change 2 * ((c.parseMsgBody ⟨Header.zero, []⟩).2.2.recv.bound.buffer.data.length /
          Header.size) + 1 ≤ fuel
        omega
      · exact absurd (c.recv.bound.parseMsgBody_cut _).1 (by rw [if_neg hs]; exact h0)
      · exact ⟨_, rfl, rfl⟩

lemma readHandler_send (c : TcpConnAsync) (bytes : Bytes) :
    ∃ d, c.readHandler setting bytes = some d ∧ d.send = c.send := by
  unfold readHandler
  dsimp only
  split_ifs with hs h0 h1
  · exact (chain_send _ (c.received bytes)).1 (by unfold chainFuel; omega)
  · have hdiv := parseHeader_length_div setting hs
    exact (chain_send _ ((c.received bytes).parseHeader setting).2).2 (by unfold chainFuel; omega)
  · exact absurd h1 (IOBound.parseHeader_cut setting.recvMaxMsgSize hs).1.not_gt
  · exact ⟨_, rfl, rfl⟩

lemma readMsgHandler_send (c : TcpConnAsync) (bytes : Bytes) :
    ∃ d, c.readMsgHandler setting bytes = some d ∧ d.send = c.send := by
  have hdiv := parseMsgBody_length_div (c.received bytes)
  have hcut := ((c.received bytes).recv.bound.parseMsgBody_cut ⟨Header.zero, []⟩).1
  unfold readMsgHandler
  dsimp only
  split_ifs with h0 h1
  · refine (chain_send _ (TcpConnAsync.deliver _ _)).1 ?_
    change 2 * (((c.received bytes).parseMsgBody
      ⟨Header.zero, []⟩).2.2.recv.bound.buffer.data.length / Header.size) + 1 ≤ _
    unfold chainFuel
    omega
  · exact (chain_send _ ((c.received bytes).parseMsgBody ⟨Header.zero, []⟩).2.2).2
      (by unfold chainFuel; omega)
  · exact ⟨_, rfl, rfl⟩

theorem step_readDone {c : TcpConnAsync} {i : ℕ} {op : ReadOp} {bytes : Bytes}
    (hop : c.recv.reads[i]? = some op) (hmin : op.atLeast ≤ bytes.length)
    (hmax : bytes.length ≤ kFixedIoBufferSize.toNat) :
    ∃ d, c.step setting (.readDone i bytes) = some d ∧ d.send = c.send := by
  simp only [step, hop, Option.bind_some, hmin, hmax, and_self, ↓reduceIte]
  cases op.kind with
  | head => exact readHandler_send (c.dropRead i) bytes
  | body => exact readMsgHandler_send (c.dropRead i) bytes

end Chain

lemma doWrite_net (c : TcpConnAsync) : c.doWrite.2.net = c.net := by
  unfold doWrite
  split_ifs <;> rfl

lemma doWrite_status (c : TcpConnAsync) :
    c.doWrite.2.send.status = c.send.status ∨ c.net.connStat = .kWorking := by
  unfold doWrite
  split_ifs with hs hw
  · exact Or.inl rfl
  · exact Or.inl rfl
  · exact Or.inl rfl
  · exact Or.inr (not_not.mp hw)

lemma handleSocketEc_send (c : TcpConnAsync) (ec : ErrorCode) :
    (c.handleSocketEc ec).send = c.send := by
  unfold handleSocketEc
  split_ifs <;> rfl

/-- The send status after one completion: reset by a finished write, kept, or that of a
write just started. -/
theorem step_status {setting : ClientSetting} {c d : TcpConnAsync} {e : Event}
    (h : c.step setting e = some d) :
    d.send.status = .kDone ∨ d.send.status = c.send.status ∨ d.net.connStat = .kWorking := by
  cases e with
  | readDone i bytes =>
    obtain ⟨op, hop, hd⟩ := Option.bind_eq_some_iff.mp h
    split_ifs at hd with hb
    obtain ⟨d', hd', hsend⟩ := @step_readDone setting c i op bytes hop hb.1 hb.2
    obtain rfl := Option.some.inj (h.symm.trans hd')
    exact Or.inr (Or.inl (by rw [hsend]))
  | readFail i ec =>
    obtain ⟨op, hop, -, rfl⟩ := step_readFail h
    exact Or.inr (Or.inl (by rw [handleSocketEc_send]; rfl))
  | wrote i n =>
    obtain ⟨op, hop, -, rfl⟩ := step_wrote h
    exact Or.inr (Or.inl rfl)
  | writeDone i =>
    obtain ⟨op, hop, -, rfl⟩ := step_writeDone h
    unfold writeHandler
    rcases doWrite_status { c.dropWrite i with
      send := { (c.dropWrite i).send with status := .kDone } } with hs | hw
    · exact Or.inl hs
    · exact Or.inr (Or.inr (by rw [doWrite_net]; exact hw))
  | writeFail i ec =>
    obtain ⟨op, hop, -, rfl⟩ := step_writeFail h
    exact Or.inr (Or.inl (by unfold writeHandler; rw [handleSocketEc_send]; rfl))

lemma started_net (setting : ClientSetting) : (started setting).net.connStat = .kWorking := rfl

lemma sendNetMessage_net (setting : ClientSetting) (c : TcpConnAsync) (msg : Message) :
    (c.sendNetMessage setting msg).2.net = c.net := by
  unfold sendNetMessage
  split_ifs
  · rfl
  · exact doWrite_net _

end TcpConnAsync

end Tzrpc.Client
