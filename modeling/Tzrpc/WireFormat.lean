import Tzrpc.HeaderCodec
import Tzrpc.NetConn
import Tzrpc.RpcInstance

/-!
# The wire formats

The three packed headers are fixed size codecs, so each format is read back from what
`net_str` wrote and written back from what was read. `validate_request` takes the request
apart through a consuming buffer and accepts what the parser makes a request of.
-/
namespace Tzrpc

def Header.codec : HeaderCodec Header UInt8 :=
  ⟨Header.size, Header.wire, Header.unwire, Header.wire_length, Header.unwire_wire_append,
    fun _ => Header.wire_unwire_take⟩

def RpcRequestHeader.codec : HeaderCodec RpcRequestHeader UInt8 :=
  ⟨RpcRequestHeader.size, RpcRequestHeader.wire, RpcRequestHeader.unwire,
    RpcRequestHeader.wire_length, RpcRequestHeader.unwire_wire_append,
    fun _ => RpcRequestHeader.wire_unwire_take⟩

def RpcResponseHeader.codec : HeaderCodec RpcResponseHeader UInt8 :=
  ⟨RpcResponseHeader.size, RpcResponseHeader.wire, RpcResponseHeader.unwire,
    RpcResponseHeader.wire_length, RpcResponseHeader.unwire_wire_append,
    fun _ => RpcResponseHeader.wire_unwire_take⟩

def Message.parse (str : Bytes) : Option Message :=
  if str.length < Header.size then none
  else some ⟨Header.unwire str, str.drop Header.size⟩

/-- A coding that is undone by its decoder, and a decoder that is undone by the coding on
every string of at least `size` bytes. -/
def RoundTrips {α : Type*} (size : ℕ) (netStr : α → Bytes) (parse : Bytes → Option α) : Prop :=
  (∀ m, parse (netStr m) = some m) ∧ ∀ s, size ≤ s.length → (parse s).map netStr = some s

lemma RoundTrips.of_codec {α η : Type*} (C : HeaderCodec η UInt8) (pack : η × Bytes → α)
    (unpack : α → η × Bytes) {netStr : α → Bytes} {parse : Bytes → Option α}
    (hpack : ∀ m, pack (unpack m) = m) (hunpack : ∀ x, unpack (pack x) = x)
    (hput : ∀ m, netStr m = C.put (unpack m))
    (hget : ∀ s, parse s =
      if s.length < C.size then none else some (pack (C.decode s, s.drop C.size))) :
    RoundTrips C.size netStr parse := by
  have hparse : ∀ s, parse s = (C.get s).map pack := by
    intro s
    rw [hget, HeaderCodec.get]
    split_ifs <;> rfl
  refine ⟨fun m => ?_, fun s hs => ?_⟩
  · rw [hparse, hput, HeaderCodec.get_put, Option.map_some, hpack]
  · obtain ⟨x, hx, hs⟩ := HeaderCodec.exists_put hs
    rw [hparse, hx, Option.map_some, Option.map_some, hput, hunpack, hs]

theorem Message.roundTrips : RoundTrips Header.size Message.netStr Message.parse :=
  .of_codec Header.codec (fun x => Message.mk x.1 x.2) (fun m => (m.header, m.payload))
    (fun _ => rfl) (fun _ => rfl) (fun _ => rfl) fun _ => rfl

theorem RpcRequestMessage.roundTrips :
    RoundTrips RpcRequestHeader.size RpcRequestMessage.netStr RpcRequestMessage.parse :=
  .of_codec RpcRequestHeader.codec (fun x => RpcRequestMessage.mk x.1 x.2)
    (fun m => (m.header, m.payload)) (fun _ => rfl) (fun _ => rfl) (fun _ => rfl) fun _ => rfl

theorem RpcResponseMessage.roundTrips :
    RoundTrips RpcResponseHeader.size RpcResponseMessage.netStr RpcResponseMessage.parse :=
  .of_codec RpcResponseHeader.codec (fun x => RpcResponseMessage.mk x.1 x.2)
    (fun m => (m.header, m.payload)) (fun _ => rfl) (fun _ => rfl) (fun _ => rfl) fun _ => rfl

lemma Buffer.ofMessage_data (msg : Message) : (ofMessage msg).data = msg.netStr := by
  simp [ofMessage, empty, Message.netStr]

lemma IOBound.parseHeader_parse {b : IOBound} {m : Message} (lim : UInt32)
    (hm : Message.parse b.buffer.data = some m) (hlen : b.buffer.data.length < 2 ^ 32) :
    (b.parseHeader lim).2.header = m.header ∧ (b.parseHeader lim).2.buffer.data = m.payload := by
  unfold Message.parse at hm
  split_ifs at hm with hs
  obtain rfl := Option.some.inj hm
  have hl : (b.buffer.data.take Header.size).length = Header.size := by
    rw [List.length_take]
    omega
  have hsplit := (List.take_append_drop Header.size b.buffer.data).symm
  rw [parseHeader_eq hsplit hl hlen]
  refine ⟨?_, rfl⟩
  have hwire := Header.wire_unwire_take (show Header.size ≤ b.buffer.data.length by omega)
  have hun := Header.unwire_wire_append (Header.unwire b.buffer.data) []
  rw [List.append_nil, hwire] at hun
  exact hun

namespace RpcInstance

lemma msgSize_sub {n : ℕ} (h16 : RpcRequestHeader.size ≤ n) (hn : n < 2 ^ 32) :
    ((Int32.ofNat n).toUInt32 - UInt32.ofNat RpcRequestHeader.size).toNat =
      n - RpcRequestHeader.size := by
  have hu : (Int32.ofNat n).toUInt32 = UInt32.ofNat n := rfl
  have hs : (UInt32.ofNat RpcRequestHeader.size).toNat = RpcRequestHeader.size := rfl
  have hnn : (UInt32.ofNat n).toNat = n := UInt32.toNat_ofNat_of_lt' hn
  rw [hu, UInt32.toNat_sub_of_le _ _ (UInt32.le_iff_toNat_le.mpr (by rw [hs, hnn]; exact h16)),
    hs, hnn]

lemma validateRequest_short (id fullSocket : ℕ) {payload : Bytes}
    (hs : payload.length < RpcRequestHeader.size) :
    (ofPayload id fullSocket payload).validateRequest.1 = false := by
  have hlen : (ofPayload id fullSocket payload).request.getLength.toNat = payload.length :=
    Buffer.getLength_toNat (lt_trans hs (by decide))
  rw [validateRequest, if_pos (by rw [hlen]; exact hs)]

theorem validateRequest_netStr (id fullSocket : ℕ) {m : RpcRequestMessage}
    (hlen : m.netStr.length < 2 ^ 32) :
    (ofPayload id fullSocket m.netStr).validateRequest =
      let inst := { ofPayload id fullSocket m.netStr with request := ⟨m.payload⟩ }
      if m.header.magic ≠ kRpcHeaderMagic ∨ m.header.version ≠ kRpcHeaderVersion then (false, inst)
      else
        let inst := { inst with
          serviceId := m.header.serviceId, opcode := m.header.opcode, request := ⟨[]⟩ }
        if m.payload = [] then (false, inst)
        else (true, { inst with rpcRequestMessage := m }) := by
  have hl := RpcRequestMessage.netStr_length m
  have hget : (ofPayload id fullSocket m.netStr).request.getLength.toNat = m.netStr.length :=
    Buffer.getLength_toNat hlen
  have hge : ¬ (ofPayload id fullSocket m.netStr).request.getLength.toNat <
      RpcRequestHeader.size := by
    rw [hget, hl]
    omega
  -- the first take is the header, the second one, of the length less a header, the payload
  have h16 : (UInt32.ofNat RpcRequestHeader.size).toNat = m.header.wire.length := by
    rw [RpcRequestHeader.wire_length]
    rfl
  obtain ⟨hhead, hrest⟩ := @Buffer.consume_eq (ofPayload id fullSocket m.netStr).request
    (UInt32.ofNat RpcRequestHeader.size) (by
      change _ ≤ m.netStr.length
      rw [h16, RpcRequestMessage.netStr, List.length_append]
      omega)
  rw [h16] at hhead hrest
  change _ = (m.header.wire ++ m.payload).take _ at hhead
  change _ = (⟨(m.header.wire ++ m.payload).drop _⟩ : Buffer) at hrest
  rw [List.take_left] at hhead
  rw [List.drop_left] at hrest
  have hunwire : RpcRequestHeader.unwire m.header.wire = m.header := by
    have h := RpcRequestHeader.unwire_wire_append m.header []
    rwa [List.append_nil] at h
  have hsize : ((ofPayload id fullSocket m.netStr).msgSize.toUInt32 -
      UInt32.ofNat RpcRequestHeader.size).toNat = m.payload.length :=
    (msgSize_sub (by omega) hlen).trans (by rw [hl, Nat.add_sub_cancel_left])
  obtain ⟨hbody, hempty⟩ := @Buffer.consume_eq ⟨m.payload⟩ _ hsize.le
  rw [hsize, List.take_length] at hbody
  rw [hsize, List.drop_length] at hempty
  rw [validateRequest, if_neg hge]
  simp only [hhead, hrest, hunwire, hbody, hempty]

end RpcInstance

/-- A request the server takes: of its own magic and version, and with a payload. -/
def RpcRequestMessage.Valid (m : RpcRequestMessage) : Prop :=
  m.header.magic = 0x7472 ∧ m.header.version = 1 ∧ m.payload ≠ []

/-- The three formats are undone by their decoders in both directions, the encoders of a
message agree, and validation takes exactly the bytes of the valid requests. The decoder of
a message is `parse_header`, which leaves the payload in the buffer. -/
theorem wire_formats_exact :
    RoundTrips 16 Message.netStr Message.parse ∧
    RoundTrips 16 RpcRequestMessage.netStr RpcRequestMessage.parse ∧
    RoundTrips 17 RpcResponseMessage.netStr RpcResponseMessage.parse ∧
    (∀ (b : IOBound) (lim : UInt32) (msg : Message), b.buffer.data.length < 2 ^ 32 →
      Message.parse b.buffer.data = some msg →
        (b.parseHeader lim).2.header = msg.header ∧
          (b.parseHeader lim).2.buffer.data = msg.payload) ∧
    (∀ (msg : Message) (b : Buffer), (Buffer.ofMessage msg).data = msg.netStr ∧
      (b.append msg).data = b.data ++ msg.netStr) ∧
    ∀ (id fullSocket : ℕ) (payload : Bytes), payload.length < 2 ^ 32 →
      let res := (RpcInstance.ofPayload id fullSocket payload).validateRequest
      (res.1 = true ↔ ∃ m : RpcRequestMessage, m.Valid ∧ payload = m.netStr) ∧
      ∀ m : RpcRequestMessage, m.Valid → payload = m.netStr →
        res.2.rpcRequestMessage = m ∧ res.2.serviceId = m.header.serviceId ∧
          res.2.opcode = m.header.opcode := by
  refine ⟨Message.roundTrips, RpcRequestMessage.roundTrips, RpcResponseMessage.roundTrips,
    fun b lim msg hlen hm => IOBound.parseHeader_parse lim hm hlen,
    fun msg b => ⟨Buffer.ofMessage_data msg, Buffer.append_data b msg⟩, ?_⟩
  intro id fullSocket payload hlen
  dsimp only
  have hvalid : ∀ m : RpcRequestMessage, m.Valid → payload = m.netStr →
      (RpcInstance.ofPayload id fullSocket payload).validateRequest =
        (true, { RpcInstance.ofPayload id fullSocket m.netStr with
          request := ⟨[]⟩, serviceId := m.header.serviceId, opcode := m.header.opcode,
          rpcRequestMessage := m }) := by
    rintro m ⟨hmag, hver, hne⟩ rfl
    rw [RpcInstance.validateRequest_netStr id fullSocket hlen]
    simp [hmag, hver, hne, kRpcHeaderMagic, kRpcHeaderVersion]
  refine ⟨⟨fun h => ?_, fun ⟨m, hm, hp⟩ => by rw [hvalid m hm hp]⟩, fun m hm hp => ?_⟩
  · by_cases hs : payload.length < RpcRequestHeader.size
    · rw [RpcInstance.validateRequest_short id fullSocket hs] at h
      simp at h
    · obtain ⟨m, -, rfl⟩ := Option.map_eq_some_iff.mp
        (RpcRequestMessage.roundTrips.2 payload (not_lt.mp hs))
      rw [RpcInstance.validateRequest_netStr id fullSocket hlen] at h
      dsimp only at h
      split_ifs at h with hhead hnil
      rw [not_or, not_not, not_not] at hhead
      exact ⟨m, ⟨hhead.1, hhead.2, hnil⟩, rfl⟩
  · rw [hvalid m hm hp]
    exact ⟨rfl, rfl, rfl⟩

theorem request_validated :
    let m := RpcRequestMessage.ofRequest 1 2 [5]
    let res := (RpcInstance.ofPayload 0 0 m.netStr).validateRequest
    res.1 = true ∧ res.2.rpcRequestMessage = m ∧ res.2.serviceId = 1 ∧ res.2.opcode = 2 := by
  have hm : (RpcRequestMessage.ofRequest 1 2 [5]).Valid := by
    simp [RpcRequestMessage.Valid, RpcRequestMessage.ofRequest, kRpcHeaderMagic, kRpcHeaderVersion]
  obtain ⟨-, -, -, -, -, hvalidate⟩ := wire_formats_exact
  obtain ⟨hiff, hstored⟩ := hvalidate 0 0 (RpcRequestMessage.ofRequest 1 2 [5]).netStr (by decide)
  exact ⟨hiff.mpr ⟨_, hm, rfl⟩, hstored _ hm rfl⟩

end Tzrpc
