import Tzrpc.NetConn

/-!
# The client's synchronous connection

The blocking connection of the client. A routine runs until its next blocking socket
operation or to its result, and is entered again when that operation completes. `Reads`
says which of the two a stream of received bytes leads to.
-/
namespace Tzrpc.Client

/-- What the connections read of `RpcClientSetting`. -/
structure ClientSetting where
  sendMaxMsgSize : UInt32
  recvMaxMsgSize : UInt32
  deriving DecidableEq, Repr

/-- A blocking `write` of `size` bytes, of which `sent` are on the wire, or a `read` of at
least `atLeast` bytes. -/
inductive SyncOp
  | write (size sent : ℕ)
  | read (kind : ReadKind) (atLeast : ℕ)
  deriving DecidableEq, Repr

/-- Where a routine of the connection stands. -/
inductive Outcome
  | blocked (op : SyncOp)
  | sent
  | received (msg : Message)
  | failed
  deriving DecidableEq, Repr

structure TcpConnSync where
  net : NetConn
  recvBound : IOBound
  sendBound : IOBound
  deriving DecidableEq, Repr

namespace TcpConnSync

def fresh : TcpConnSync := ⟨NetConn.fresh.setConnStat .kWorking, IOBound.fresh, IOBound.fresh⟩

def shutdownAndCloseSocket (c : TcpConnSync) : TcpConnSync :=
  { c with net := c.net.sockShutdownAndClose }

def handleSocketEc (c : TcpConnSync) (ec : ErrorCode) : TcpConnSync :=
  if ec.closeSocket then c.shutdownAndCloseSocket else c

/-- The loop of `do_write`. -/
def writeLoop (c : TcpConnSync) : Outcome × TcpConnSync :=
  if c.sendBound.buffer.getLength = 0 then (.sent, c)
  else
    let toWrite := min c.sendBound.buffer.getLength kFixedIoBufferSize
    let taken := c.sendBound.buffer.consumeBlock c.sendBound.ioBlock toWrite
    (.blocked (.write toWrite.toNat 0),
      { c with sendBound := { c.sendBound with ioBlock := taken.1, buffer := taken.2 } })

def doWrite (c : TcpConnSync) : Outcome × TcpConnSync :=
  if c.net.connStat ≠ .kWorking then (.failed, c) else c.writeLoop

def sendNetMessage (setting : ClientSetting) (c : TcpConnSync) (msg : Message) :
    Outcome × TcpConnSync :=
  if setting.sendMaxMsgSize ≠ 0 ∧ setting.sendMaxMsgSize < msg.header.length then (.failed, c)
  else
    { c with sendBound := { c.sendBound with buffer := c.sendBound.buffer.append msg } }.doWrite

/-- The loop of `do_read_msg` and what follows it. -/
def readMsgLoop (c : TcpConnSync) : Outcome × TcpConnSync :=
  if c.recvBound.buffer.getLength < c.recvBound.header.length then
    let toRead := min (c.recvBound.header.length - c.recvBound.buffer.getLength) kFixedIoBufferSize
    (.blocked (.read .body toRead.toNat), c)
  else
    let res := c.recvBound.parseMsgBody ⟨Header.zero, []⟩
    let c := { c with recvBound := res.2.2 }
    if res.1 = 0 then (.received res.2.1, c) else (.failed, c.shutdownAndCloseSocket)

def doReadMsg (c : TcpConnSync) : Outcome × TcpConnSync :=
  if c.net.connStat ≠ .kWorking then (.failed, c) else c.readMsgLoop

/-- The loop of `do_read` and what follows it. -/
def readLoop (setting : ClientSetting) (c : TcpConnSync) : Outcome × TcpConnSync :=
  if c.recvBound.buffer.getLength.toNat < Header.size then
    (.blocked (.read .head (Header.size - c.recvBound.buffer.getLength.toNat)), c)
  else
    let res := c.recvBound.parseHeader setting.recvMaxMsgSize
    let c := { c with recvBound := res.2 }
    if res.1 = 0 then c.doReadMsg else (.failed, c.shutdownAndCloseSocket)

def doRead (setting : ClientSetting) (c : TcpConnSync) : Outcome × TcpConnSync :=
  if c.net.connStat ≠ .kWorking then (.failed, c) else c.readLoop setting

/-- A blocking read has returned these bytes. -/
def readDone (setting : ClientSetting) (c : TcpConnSync) (kind : ReadKind) (bytes : Bytes) :
    Outcome × TcpConnSync :=
  let c := { c with
    recvBound := { c.recvBound with buffer := c.recvBound.buffer.appendInternal bytes } }
  match kind with
  | .head => c.readLoop setting
  | .body => c.readMsgLoop

def framing (setting : ClientSetting) : Framing UInt8 :=
  wireFraming (limitOf setting.recvMaxMsgSize)

/-- Blocked in a read, the connection holds the stream `s`, a frame's first part. -/
def Waits (setting : ClientSetting) (s : Bytes) (c : TcpConnSync) : ReadKind → ℕ → Prop
  | .head, n =>
    s.length < Header.size ∧ c.recvBound.buffer.data = s ∧ n = Header.size - s.length
  | .body, n =>
    ∃ hd r m, s = hd ++ r ∧ hd.length = Header.size ∧ (framing setting).bodyLen hd = some m ∧
      r.length < m ∧ c.recvBound.header = Header.unwire hd ∧ c.recvBound.buffer.data = r ∧
      n = min (m - r.length) kFixedIoBufferSize.toNat

/-- The outcome for a reader that holds the stream `s`: it waits for more of an incomplete
frame, gives the first frame out and keeps the rest, or fails on a malformed head or a
connection closed under it. -/
def Reads (setting : ClientSetting) (s : Bytes) (c : TcpConnSync) (r : Outcome × TcpConnSync) :
    Prop :=
  r.2.sendBound = c.sendBound ∧
    match r.1 with
    | .blocked (.read kind n) => Waits setting s r.2 kind n ∧ r.2.net = c.net
    | .received msg =>
      ∃ f t, (framing setting).Accepts f ∧ s = f.elems ++ t ∧
        msg = ⟨Header.unwire f.head, f.body⟩ ∧ r.2.recvBound.buffer.data = t ∧ r.2.net = c.net
    | .failed =>
      c.net.connStat ≠ .kWorking ∨
        ((framing setting).parse s = ([], .malformed) ∧ r.2.net.connStat = .kClosed)
    | _ => False

section Spec

variable {setting : ClientSetting} {c : TcpConnSync}

lemma unwire_length_of_bodyLen {hd : Bytes} {n : ℕ} (hl : hd.length = Header.size)
    (hb : (framing setting).bodyLen hd = some n) : (Header.unwire hd).length.toNat = n := by
  rw [Header.unwire_length (by rw [hl]), (wireFraming_bodyLen_eq hb).1]

lemma readMsgLoop_reads {hd r : Bytes} {m : ℕ} (hl : hd.length = Header.size)
    (hb : (framing setting).bodyLen hd = some m) (hhead : c.recvBound.header = Header.unwire hd)
    (hdata : c.recvBound.buffer.data = r) (hlen : r.length < 2 ^ 32) :
    Reads setting (hd ++ r) c c.readMsgLoop := by
  have hm := unwire_length_of_bodyLen hl hb
  have hget : c.recvBound.buffer.getLength.toNat = r.length := by
    rw [Buffer.getLength_toNat (by rw [hdata]; exact hlen), hdata]
  by_cases hr : r.length < m
  · have hlt : c.recvBound.buffer.getLength < c.recvBound.header.length := by
      rw [UInt32.lt_iff_toNat_lt, hhead, hm, hget]
      exact hr
    have hmin : (min (c.recvBound.header.length - c.recvBound.buffer.getLength)
        kFixedIoBufferSize).toNat = min (m - r.length) kFixedIoBufferSize.toNat := by
      rw [UInt32.toNat_min, UInt32.toNat_sub_of_le _ _ (UInt32.le_of_lt hlt), hhead, hm, hget]
    rw [readMsgLoop, if_pos hlt]
    exact ⟨rfl, ⟨hd, r, m, rfl, hl, hb, hr, hhead, hdata, hmin⟩, rfl⟩
  · have hge : ¬ c.recvBound.buffer.getLength < c.recvBound.header.length := by
      rw [UInt32.lt_iff_toNat_lt, hhead, hm, hget]
      exact hr
    have hbody := @IOBound.parseMsgBody_eq c.recvBound ⟨Header.zero, []⟩
      (by rw [hhead, hm, hdata]; omega) (by rw [hdata]; exact hlen)
    rw [hhead, hm, hdata] at hbody
    have hf : (framing setting).Accepts ⟨hd, r.take m⟩ := by
      refine ⟨hl, ?_⟩
      rw [hb, List.length_take]
      congr 1
      omega
    rw [readMsgLoop, if_neg hge]
    simp only [hbody, ↓reduceIte]
    refine ⟨rfl, ⟨hd, r.take m⟩, r.drop m, hf, ?_, rfl, rfl, rfl⟩
    rw [Frame.elems, List.append_assoc, List.take_append_drop]

lemma Reads.of_eq {d : TcpConnSync} {s : Bytes} {r : Outcome × TcpConnSync}
    (h : Reads setting s d r) (hn : d.net = c.net) (hs : d.sendBound = c.sendBound) :
    Reads setting s c r := by
  unfold Reads at *
  rw [hn, hs] at h
  exact h

lemma readLoop_reads (hlen : c.recvBound.buffer.data.length < 2 ^ 32) :
    Reads setting c.recvBound.buffer.data c (c.readLoop setting) := by
  have hget := Buffer.getLength_toNat hlen
  by_cases hs : c.recvBound.buffer.data.length < Header.size
  · rw [readLoop, if_pos (by rw [hget]; exact hs)]
    exact ⟨rfl, ⟨hs, rfl, by rw [hget]⟩, rfl⟩
  · have hl : (c.recvBound.buffer.data.take Header.size).length = Header.size := by
      rw [List.length_take]
      omega
    have hsplit := List.take_append_drop Header.size c.recvBound.buffer.data
    have hhead := @IOBound.parseHeader_eq _ setting.recvMaxMsgSize _ _ hsplit.symm hl hlen
    rw [readLoop, if_neg (by rw [hget]; exact hs)]
    cases hb : (framing setting).bodyLen (c.recvBound.buffer.data.take Header.size) with
    | none =>
      have hb' : (wireFraming (limitOf setting.recvMaxMsgSize)).bodyLen
          (c.recvBound.buffer.data.take Header.size) = none := hb
      simp only [hb'] at hhead
      simp only [hhead, ↓reduceIte, Int.reduceNeg, neg_eq_zero, one_ne_zero]
      refine ⟨rfl, Or.inr ⟨?_, NetConn.sockShutdownAndClose_connStat _⟩⟩
      have hp := Framing.parse_malformed (F := framing setting)
        (t := c.recvBound.buffer.data.drop Header.size) hl hb
      rwa [hsplit] at hp
    | some m =>
      have hb' : (wireFraming (limitOf setting.recvMaxMsgSize)).bodyLen
          (c.recvBound.buffer.data.take Header.size) = some m := hb
      simp only [hb', reduceCtorEq, ↓reduceIte] at hhead
      simp only [hhead, ↓reduceIte]
      unfold doReadMsg
      split_ifs with hw
      · exact ⟨rfl, Or.inl hw⟩
      · have hread := @readMsgLoop_reads setting { c with recvBound :=
          { c.recvBound with
            header := Header.unwire (c.recvBound.buffer.data.take Header.size)
            buffer := ⟨c.recvBound.buffer.data.drop Header.size⟩ } } _
          (c.recvBound.buffer.data.drop Header.size) _ hl hb rfl rfl (by
            rw [List.length_drop]
            omega)
        rw [hsplit] at hread
        exact hread.of_eq rfl rfl

lemma doRead_reads (hlen : c.recvBound.buffer.data.length < 2 ^ 32) :
    Reads setting c.recvBound.buffer.data c (c.doRead setting) := by
  unfold doRead
  split_ifs with hw
  · exact ⟨rfl, Or.inl hw⟩
  · exact readLoop_reads hlen

theorem readDone_reads {s bytes : Bytes} {kind : ReadKind} {n : ℕ} (h : Waits setting s c kind n)
    (hlen : (c.recvBound.buffer.data ++ bytes).length < 2 ^ 32) :
    Reads setting (s ++ bytes) c (c.readDone setting kind bytes) := by
  cases kind with
  | head =>
    obtain ⟨-, rfl, -⟩ := h
    exact readLoop_reads (c := { c with recvBound :=
      { c.recvBound with buffer := c.recvBound.buffer.appendInternal bytes } }) hlen
  | body =>
    obtain ⟨hd, r, m, rfl, hl, hb, -, hhead, rfl, -⟩ := h
    rw [List.append_assoc]
    exact readMsgLoop_reads (c := { c with recvBound :=
      { c.recvBound with buffer := c.recvBound.buffer.appendInternal bytes } }) hl hb hhead rfl hlen

lemma bodyLen_message {data : Bytes} (hlen : data.length < 2 ^ 32) :
    (framing setting).bodyLen (Message.ofPayload data).header.wire =
      if (limitOf setting.recvMaxMsgSize).all (data.length ≤ ·) then some data.length else none := by
  have h := @wireFraming_bodyLen_wire (limitOf setting.recvMaxMsgSize)
    (Message.ofPayload data).header rfl rfl
  rwa [Message.ofPayload_length hlen] at h

/-- From a part of one message's bytes the reader can only give out that message, and only
when it holds all of them. -/
theorem received_of_message {data s : Bytes} {msg : Message} {d : TcpConnSync}
    (hlen : data.length < 2 ^ 32) (hs : s <+: (Message.ofPayload data).netStr)
    (h : Reads setting s c (.received msg, d)) :
    s = (Message.ofPayload data).netStr ∧ msg = Message.ofPayload data ∧
      d.recvBound.buffer.data = [] ∧ d.net = c.net := by
  obtain ⟨-, f, t, ⟨hhead, hbody⟩, rfl, rfl, ht, hnet⟩ := h
  obtain ⟨u, hu⟩ := hs
  simp only [Frame.elems, Message.netStr, List.append_assoc] at hu
  obtain ⟨hw, hrest⟩ := List.append_inj hu (by rw [hhead]; exact (Header.wire_length _).symm)
  rw [hw, bodyLen_message hlen] at hbody
  split_ifs at hbody
  have hfl : data.length = f.body.length := Option.some.inj hbody
  have hnil : t ++ u = [] := by
    have hl := congrArg List.length hrest
    rw [List.length_append, Message.ofPayload_payload] at hl
    exact List.eq_nil_of_length_eq_zero (by omega)
  obtain ⟨rfl, rfl⟩ := List.append_eq_nil_iff.mp hnil
  have hdata : f.body = data := by simpa using hrest
  have hun := Header.unwire_wire_append (Message.ofPayload data).header []
  rw [List.append_nil] at hun
  refine ⟨?_, ?_, ht, hnet⟩
  · rw [Frame.elems, Message.netStr, hw, hdata, List.append_nil, Message.ofPayload_payload]
  · rw [hw, hun, hdata]
    rfl

lemma Waits.buffer_le {s : Bytes} {kind : ReadKind} {n : ℕ} (h : Waits setting s c kind n) :
    c.recvBound.buffer.data.length ≤ s.length := by
  cases kind with
  | head => exact h.2.1 ▸ le_rfl
  | body =>
    obtain ⟨hd, r, m, rfl, -, -, -, -, hr, -⟩ := h
    rw [hr, List.length_append]
    exact Nat.le_add_left _ _

lemma not_waits_message {data : Bytes} {kind : ReadKind} {n : ℕ} (hlen : data.length < 2 ^ 32)
    (hlim : (limitOf setting.recvMaxMsgSize).all (data.length ≤ ·)) :
    ¬ Waits setting (Message.ofPayload data).netStr c kind n := by
  intro h
  cases kind with
  | head =>
    have hl := h.1
    rw [Message.netStr, List.length_append, Header.wire_length] at hl
    omega
  | body =>
    obtain ⟨hd, r, m, heq, hl, hb, hr, -⟩ := h
    obtain ⟨rfl, rfl⟩ := List.append_inj heq (by rw [Header.wire_length, hl])
    rw [bodyLen_message hlen, if_pos hlim] at hb
    obtain rfl := Option.some.inj hb
    exact lt_irrefl _ hr

theorem reads_within {data s : Bytes} {r : Outcome × TcpConnSync} (hlen : data.length < 2 ^ 32)
    (hlim : (limitOf setting.recvMaxMsgSize).all (data.length ≤ ·))
    (hs : s <+: (Message.ofPayload data).netStr) (hopen : c.net.connStat = .kWorking)
    (h : Reads setting s c r) :
    (s ≠ (Message.ofPayload data).netStr ∧
        ∃ kind n, r.1 = .blocked (.read kind n) ∧ Waits setting s r.2 kind n ∧ r.2.net = c.net) ∨
      (s = (Message.ofPayload data).netStr ∧ r.1 = .received (Message.ofPayload data) ∧
        r.2.net = c.net) := by
  have hacc : (framing setting).Accepts ⟨(Message.ofPayload data).header.wire, data⟩ :=
    ⟨Header.wire_length _, by rw [bodyLen_message hlen, if_pos hlim]⟩
  obtain ⟨outcome, d⟩ := r
  cases outcome with
  | blocked op =>
    cases op with
    | write size sent => exact h.2.elim
    | read kind n =>
      obtain ⟨-, hwaits, hnet⟩ := h
      refine Or.inl ⟨?_, kind, n, rfl, hwaits, hnet⟩
      rintro rfl
      exact not_waits_message hlen hlim hwaits
  | sent => exact h.2.elim
  | received msg =>
    obtain ⟨hfull, rfl, -, hnet⟩ := received_of_message hlen hs h
    exact Or.inr ⟨hfull, rfl, hnet⟩
  | failed =>
    obtain ⟨-, hclosed | ⟨hmal, -⟩⟩ := h
    · exact absurd hopen hclosed
    · obtain ⟨u, hu⟩ := hs
      have hfull := Framing.ending_malformed_append (t := u) (show (framing setting).ending s = _ by
        rw [Framing.ending, hmal])
      have hframe := Framing.parse_frame hacc []
      rw [List.append_nil, Frame.elems] at hframe
      rw [hu, hmal, Message.netStr, Message.ofPayload_payload, hframe] at hfull
      simp at hfull

end Spec

def unsent (c : TcpConnSync) : SyncOp → Bytes
  | .write size sent => (c.sendBound.ioBlock.take size).drop sent ++ c.sendBound.buffer.data
  | .read _ _ => []

section Write

variable {c : TcpConnSync}

lemma writeLoop_cases (hlen : c.sendBound.buffer.data.length < 2 ^ 32) :
    (c.sendBound.buffer.data = [] ∧ c.writeLoop = (.sent, c)) ∨
      ∃ size d, c.writeLoop = (.blocked (.write size 0), d) ∧ 1 ≤ size ∧
        size ≤ c.sendBound.buffer.data.length ∧
        d.sendBound.ioBlock.take size = c.sendBound.buffer.data.take size ∧
        d.sendBound.buffer.data = c.sendBound.buffer.data.drop size ∧ d.net = c.net ∧
        d.recvBound = c.recvBound := by
  have hget := Buffer.getLength_toNat hlen
  by_cases h0 : c.sendBound.buffer.getLength = 0
  · refine Or.inl ⟨?_, by rw [writeLoop, if_pos h0]⟩
    rw [h0] at hget
    exact List.eq_nil_of_length_eq_zero hget.symm
  · have hne : c.sendBound.buffer.getLength.toNat ≠ 0 := fun hz => h0 (UInt32.toNat_inj.mp hz)
    have h2048 : kFixedIoBufferSize.toNat = 2048 := rfl
    have hmin := UInt32.toNat_min c.sendBound.buffer.getLength kFixedIoBufferSize
    have hle : (min c.sendBound.buffer.getLength kFixedIoBufferSize).toNat ≤
        c.sendBound.buffer.data.length := by omega
    obtain ⟨hblock, hrest⟩ := @Buffer.consumeBlock_eq _ c.sendBound.ioBlock _ hle
    rw [writeLoop, if_neg h0]
    exact Or.inr ⟨_, _, rfl, by omega, hle, hblock, hrest, rfl, rfl⟩

lemma writeLoop_eq (hlen : c.sendBound.buffer.data.length < 2 ^ 32) :
    (c.sendBound.buffer.data = [] ∧ c.writeLoop = (.sent, c)) ∨
      ∃ size d, c.writeLoop = (.blocked (.write size 0), d) ∧ d.recvBound = c.recvBound ∧
        d.unsent (.write size 0) = c.sendBound.buffer.data ∧
        d.sendBound.buffer.data.length ≤ c.sendBound.buffer.data.length := by
  rcases writeLoop_cases hlen with hsent | ⟨size, d, hd, -, -, hblock, hrest, -, hrecv⟩
  · exact Or.inl hsent
  · refine Or.inr ⟨size, d, hd, hrecv, ?_, ?_⟩
    · rw [unsent, hblock, hrest, List.drop_zero, List.take_append_drop]
    · rw [hrest, List.length_drop]
      exact Nat.sub_le _ _

lemma unsent_wrote (size sent n : ℕ) (h : sent + n ≤ size) :
    c.unsent (.write size sent) =
      (c.sendBound.ioBlock.drop sent).take n ++ c.unsent (.write size (sent + n)) := by
  have hnext : (c.sendBound.ioBlock.drop sent).take n =
      ((c.sendBound.ioBlock.take size).drop sent).take n := by
    rw [List.drop_take, List.take_take, min_eq_left (by omega)]
  rw [unsent, unsent, hnext, ← List.append_assoc, ← List.drop_drop, List.take_append_drop]

lemma sendNetMessage_eq (setting : ClientSetting) (c : TcpConnSync) (msg : Message) :
    (∃ d, c.sendNetMessage setting msg = (.failed, d)) ∨
      ∃ d : TcpConnSync, c.sendNetMessage setting msg = d.writeLoop ∧ d.recvBound = c.recvBound ∧
        d.sendBound.buffer.data = c.sendBound.buffer.data ++ msg.netStr := by
  unfold sendNetMessage doWrite
  split_ifs
  · exact Or.inl ⟨_, rfl⟩
  · exact Or.inl ⟨_, rfl⟩
  · exact Or.inr ⟨_, rfl, rfl, Buffer.append_data _ _⟩

end Write

end TcpConnSync

end Tzrpc.Client
