import Tzrpc.Buffer
import Tzrpc.Framing

/-!
# What every connection shares

The connection status and the socket calls that change it, the I/O bound with its receive
buffer, and the two parsing routines, which the server connection and both client
connections repeat up to where their receive limit comes from. `wireFraming` is the format
as the protocol defines it, on raw bytes; the lemmas say that the routines follow it.
-/
namespace Tzrpc

inductive ConnStat
  | kWorking
  | kPending
  | kError
  | kClosed
  deriving DecidableEq, Repr

inductive SendStatus
  | kSend
  | kDone
  deriving DecidableEq, Repr

inductive ErrorCode
  | connectionReset
  | timedOut
  | badDescriptor
  | eof
  | operationAborted
  | other
  deriving DecidableEq, Repr

def ErrorCode.closeSocket : ErrorCode → Bool
  | .operationAborted => false
  | _ => true

def kFixedIoBufferSize : UInt32 := 2048

structure NetConn where
  connStat : ConnStat
  closes : ℕ
  deriving DecidableEq, Repr

namespace NetConn

def fresh : NetConn := ⟨.kPending, 0⟩

def setConnStat (c : NetConn) (stat : ConnStat) : NetConn := { c with connStat := stat }

def sockShutdownAndClose (c : NetConn) : NetConn :=
  if c.connStat = .kClosed then c else ⟨.kClosed, c.closes + 1⟩

@[simp] lemma sockShutdownAndClose_connStat (c : NetConn) :
    c.sockShutdownAndClose.connStat = .kClosed := by
  unfold sockShutdownAndClose
  split_ifs with h
  · exact h
  · rfl

end NetConn

structure IOBound where
  ioBlock : Bytes
  header : Header
  buffer : Buffer
  deriving DecidableEq, Repr

namespace IOBound

def fresh : IOBound := ⟨List.replicate kFixedIoBufferSize.toNat 0, Header.zero, Buffer.empty⟩

/-- `parse_header` with receive limit `recvMaxMsgSize`, `0` for none: `1` asks for more
bytes, `-1` refuses the header, `0` accepts it. -/
def parseHeader (b : IOBound) (recvMaxMsgSize : UInt32) : ℤ × IOBound :=
  if b.buffer.getLength.toNat < Header.size then (1, b)
  else
    let head := b.buffer.consume (UInt32.ofNat Header.size)
    let header := Header.unwire (head.1.getD [])
    let b := { b with header := header, buffer := head.2 }
    if header.magic ≠ kHeaderMagic ∨ header.version ≠ kHeaderVersion then (-1, b)
    else if recvMaxMsgSize ≠ 0 ∧ recvMaxMsgSize < header.length then (-1, b)
    else (0, b)

/-- `parse_msg_body`: `1` asks for more bytes, `0` has filled the message. -/
def parseMsgBody (b : IOBound) (msg : Message) : ℤ × Message × IOBound :=
  if b.buffer.getLength < b.header.length then (1, msg, b)
  else
    let body := b.buffer.consume b.header.length
    (0, ⟨b.header, body.1.getD []⟩, { b with buffer := body.2 })

def received (b : IOBound) (bytes : Bytes) : IOBound :=
  { b with buffer := b.buffer.appendInternal bytes }

end IOBound

inductive ReadKind
  | head
  | body
  deriving DecidableEq, Repr

/-- An outstanding `async_read` of at least `atLeast` bytes, completing in `read_handler`
or `read_msg_handler`. -/
structure ReadOp where
  id : ℕ
  kind : ReadKind
  atLeast : ℕ
  deriving DecidableEq, Repr

/-- An outstanding `async_write` of the first `size` bytes of the send block, of which the
first `sent` are on the wire. -/
structure WriteOp where
  id : ℕ
  size : ℕ
  sent : ℕ
  deriving DecidableEq, Repr

structure SendSide where
  status : SendStatus
  bound : IOBound
  writes : List WriteOp
  deriving DecidableEq, Repr

/-- The wire format: a 16-byte head with big-endian magic, version and body length, and
with a limit no longer body than the limit. -/
def wireFraming (limit : Option ℕ) : Framing UInt8 where
  headLen := 16
  headLen_pos := by decide
  bodyLen hd :=
    let len := ofBeBytes ((hd.drop 4).take 4)
    if ofBeBytes (hd.take 2) = 0x746b ∧ ofBeBytes ((hd.drop 2).take 2) = 1 ∧
        limit.all (len ≤ ·) then some len
    else none

def limitOf (recvMaxMsgSize : UInt32) : Option ℕ :=
  if recvMaxMsgSize = 0 then none else some recvMaxMsgSize.toNat

lemma limitOf_all {recvMaxMsgSize : UInt32} {n : ℕ} :
    (limitOf recvMaxMsgSize).all (n ≤ ·) ↔ recvMaxMsgSize = 0 ∨ n ≤ recvMaxMsgSize.toNat := by
  unfold limitOf
  split_ifs with h <;> simp [h]

@[simp] lemma wireFraming_headLen (limit : Option ℕ) : (wireFraming limit).headLen = 16 := rfl

lemma wireFraming_bodyLen_eq {limit : Option ℕ} {hd : Bytes} {n : ℕ}
    (h : (wireFraming limit).bodyLen hd = some n) :
    n = ofBeBytes ((hd.drop 4).take 4) ∧ limit.all (n ≤ ·) := by
  simp only [wireFraming] at h
  split_ifs at h with hc
  obtain rfl := Option.some.inj h
  exact ⟨rfl, hc.2.2⟩

lemma wireFraming_bodyLen_wire {limit : Option ℕ} {h : Header} (hm : h.magic = kHeaderMagic)
    (hv : h.version = kHeaderVersion) :
    (wireFraming limit).bodyLen h.wire =
      if limit.all (h.length.toNat ≤ ·) then some h.length.toNat else none := by
  have hmag := @Header.unwire_magic h.wire (by simp)
  have hver := @Header.unwire_version h.wire (by simp)
  have hlen := @Header.unwire_length h.wire (by simp)
  have hu := Header.unwire_wire_append h []
  rw [List.append_nil] at hu
  rw [hu] at hmag hver hlen
  simp only [wireFraming, ← hmag, ← hver, ← hlen, hm, hv]
  simp [kHeaderMagic, kHeaderVersion]

namespace IOBound

/-- `parse_header` takes exactly the head and judges it as the wire format does. -/
theorem parseHeader_eq {b : IOBound} {lim : UInt32} {hd t : Bytes}
    (hdata : b.buffer.data = hd ++ t) (hl : hd.length = Header.size)
    (hlen : b.buffer.data.length < 2 ^ 32) :
    b.parseHeader lim =
      (if (wireFraming (limitOf lim)).bodyLen hd = none then -1 else 0,
        { b with header := Header.unwire hd, buffer := ⟨t⟩ }) := by
  have hge : (UInt32.ofNat Header.size).toNat ≤ b.buffer.data.length := by
    rw [hdata, List.length_append, hl]
    exact Nat.le_add_right _ _
  obtain ⟨hc1, hc2⟩ := Buffer.consume_eq hge
  have h16 : (UInt32.ofNat Header.size).toNat = hd.length := by rw [hl]; rfl
  rw [hdata, h16] at hc1 hc2
  rw [List.take_left] at hc1
  rw [List.drop_left] at hc2
  have hmag := @Header.unwire_magic hd (by rw [hl])
  have hver := @Header.unwire_version hd (by rw [hl])
  have hbl := @Header.unwire_length hd (by rw [hl])
  have hm : (Header.unwire hd).magic = kHeaderMagic ↔ ofBeBytes (hd.take 2) = 0x746b := by
    rw [← hmag, ← UInt16.toNat_inj]
    exact Iff.rfl
  have hv : (Header.unwire hd).version = kHeaderVersion ↔ ofBeBytes ((hd.drop 2).take 2) = 1 := by
    rw [← hver, ← UInt16.toNat_inj]
    exact Iff.rfl
  have hlim : (lim ≠ 0 ∧ lim < (Header.unwire hd).length) ↔
      ¬ (limitOf lim).all (ofBeBytes ((hd.drop 4).take 4) ≤ ·) := by
    rw [← hbl, UInt32.lt_iff_toNat_lt, limitOf]
    by_cases h0 : lim = 0
    · simp [h0]
    · simp [h0]
  have hn : ¬ b.buffer.getLength.toNat < Header.size := by
    rw [Buffer.getLength_toNat hlen, hdata, List.length_append]
    omega
  rw [parseHeader, if_neg hn]
  simp only [hc1, hc2, wireFraming, hlim, ne_eq, hm, hv]
  split_ifs <;> simp_all

lemma parseHeader_cut {b : IOBound} (lim : UInt32)
    (h : ¬ b.buffer.getLength.toNat < Header.size) :
    (b.parseHeader lim).1 ≤ 0 ∧
      (b.parseHeader lim).2.buffer.data.length + Header.size = b.buffer.data.length := by
  have hle := b.buffer.getLength_le
  have h16 : (UInt32.ofNat Header.size).toNat = Header.size := rfl
  have hc := (@Buffer.consume_eq b.buffer (UInt32.ofNat Header.size) (by omega)).2
  have hlen : (b.buffer.data.drop Header.size).length + Header.size = b.buffer.data.length := by
    rw [List.length_drop]
    omega
  rw [h16] at hc
  rw [parseHeader, if_neg h]
  simp only [hc]
  split_ifs <;> exact ⟨by norm_num, hlen⟩

lemma parseHeader_getLength {b : IOBound} (lim : UInt32)
    (h : ¬ b.buffer.getLength.toNat < Header.size) :
    (b.parseHeader lim).2.buffer.getLength.toNat + Header.size = b.buffer.getLength.toNat := by
  have h16 : (UInt32.ofNat Header.size).toNat = Header.size := rfl
  have hc := @Buffer.getLength_consume b.buffer (UInt32.ofNat Header.size) (by omega)
  rw [parseHeader, if_neg h]
  dsimp only
  split_ifs <;> exact hc

lemma parseHeader_limit {b : IOBound} {lim : UInt32} (h0 : (b.parseHeader lim).1 = 0)
    (hlim : lim ≠ 0) : (b.parseHeader lim).2.header.length.toNat ≤ lim.toNat := by
  revert h0
  unfold parseHeader
  dsimp only
  split_ifs with hs hm hl
  · simp
  · simp
  · simp
  · intro _
    have hle := not_and.mp hl hlim
    rwa [UInt32.lt_iff_toNat_lt, not_lt] at hle

lemma parseMsgBody_short {b : IOBound} {msg : Message}
    (h : b.buffer.data.length < b.header.length.toNat) : b.parseMsgBody msg = (1, msg, b) := by
  have hl := b.buffer.getLength_le
  rw [parseMsgBody, if_pos (UInt32.lt_iff_toNat_lt.mpr (by omega))]

theorem parseMsgBody_eq {b : IOBound} {msg : Message}
    (h : b.header.length.toNat ≤ b.buffer.data.length) (hlen : b.buffer.data.length < 2 ^ 32) :
    b.parseMsgBody msg =
      (0, ⟨b.header, b.buffer.data.take b.header.length.toNat⟩,
        { b with buffer := ⟨b.buffer.data.drop b.header.length.toNat⟩ }) := by
  obtain ⟨hc1, hc2⟩ := Buffer.consume_eq h
  have hn : ¬ b.buffer.getLength < b.header.length := by
    rw [UInt32.lt_iff_toNat_lt, Buffer.getLength_toNat hlen]
    omega
  rw [parseMsgBody, if_neg hn]
  simp only [hc1, hc2]

lemma parseMsgBody_cut (b : IOBound) (msg : Message) :
    (b.parseMsgBody msg).1 = (if b.buffer.getLength < b.header.length then 1 else 0) ∧
      (b.parseMsgBody msg).2.2.buffer.data.length ≤ b.buffer.data.length := by
  unfold parseMsgBody
  split_ifs with h
  · exact ⟨rfl, le_rfl⟩
  · have hle := b.buffer.getLength_le
    rw [UInt32.lt_iff_toNat_lt] at h
    have hc := (@Buffer.consume_eq b.buffer b.header.length (by omega)).2
    refine ⟨rfl, ?_⟩
    simp only [hc, List.length_drop]
    exact Nat.sub_le _ _

lemma parseMsgBody_getLength (b : IOBound) (msg : Message) :
    (b.parseMsgBody msg).2.2.buffer.getLength.toNat ≤ b.buffer.getLength.toNat := by
  unfold parseMsgBody
  split_ifs with h
  · exact le_rfl
  · rw [UInt32.lt_iff_toNat_lt, not_lt] at h
    exact (Nat.le_add_right _ _).trans_eq (Buffer.getLength_consume h)

end IOBound

end Tzrpc
