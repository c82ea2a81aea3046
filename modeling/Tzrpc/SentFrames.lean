import Tzrpc.ClientConnAsync
import Tzrpc.TcpConnAsync

/-!
# Sent frames and received frames

Each sender compares the length field of a message with its limit, each receiver compares
the same field with its own. The field has 32 bits and is filled from a payload of any size,
so a payload of `2 ^ 32` bytes or more passes both checks as what is left of its size.
-/
namespace Tzrpc

namespace IOBound

/-- A receiver that holds nothing takes `bytes`, in whatever pieces they arrive, as one frame
with this payload: `parse_header` accepts a first piece, `parse_msg_body` asks for more until
everything is there and then leaves nothing over. -/
def DecodesAs (recvMaxMsgSize : UInt32) (bytes payload : Bytes) : Prop :=
  ∀ (b : IOBound) (first rest : Bytes), b.buffer = Buffer.empty → first ++ rest = bytes →
    Header.size ≤ first.length → first.length < Header.size + kFixedIoBufferSize.toNat →
    ∃ h, (b.received first).parseHeader recvMaxMsgSize = (0, h) ∧
      (∀ more, more <+: rest → more ≠ rest →
        ∀ msg, (h.received more).parseMsgBody msg = (1, msg, h.received more)) ∧
      ∃ header d, (h.received rest).parseMsgBody ⟨Header.zero, []⟩ = (0, ⟨header, payload⟩, d) ∧
        d.buffer = Buffer.empty

end IOBound

/-- With `before` buffered, the sender has appended one frame that a receiver under the same
limit decodes to the payload, and the payload is within the limit. -/
def Carries (limit : UInt32) (payload before after : Bytes) : Prop :=
  (limit ≠ 0 → payload.length ≤ limit.toNat) ∧
    ∃ bytes, after = before ++ bytes ∧ IOBound.DecodesAs limit bytes payload

def TcpConnAsync.SendsExactly (limit : UInt32) (payload : Bytes) : Prop :=
  ∀ (env : ServerEnv) (c : TcpConnAsync), env.sendMaxMsgSize.toUInt32 = limit →
    (c.asyncSendMessage env (Message.ofPayload payload)).1 = 0 →
    let sent := c.appendMessage (Message.ofPayload payload)
    (c.asyncSendMessage env (Message.ofPayload payload)).2 = sent.doWrite env ∧
      Carries limit payload c.send.bound.buffer.data sent.send.bound.buffer.data

def Client.TcpConnAsync.SendsExactly (limit : UInt32) (payload : Bytes) : Prop :=
  ∀ (setting : ClientSetting) (c : Client.TcpConnAsync), setting.sendMaxMsgSize = limit →
    (c.sendNetMessage setting (Message.ofPayload payload)).1 = true →
    let sent := c.appendMessage (Message.ofPayload payload)
    (c.sendNetMessage setting (Message.ofPayload payload)).2 = sent.doWrite.2 ∧
      Carries limit payload c.send.bound.buffer.data sent.send.bound.buffer.data

def Client.TcpConnSync.SendsExactly (limit : UInt32) (payload : Bytes) : Prop :=
  ∀ (setting : ClientSetting) (c : Client.TcpConnSync), setting.sendMaxMsgSize = limit →
    (c.sendNetMessage setting (Message.ofPayload payload)).1 ≠ .failed →
    let sent : Client.TcpConnSync := { c with sendBound := { c.sendBound with
      buffer := c.sendBound.buffer.append (Message.ofPayload payload) } }
    c.sendNetMessage setting (Message.ofPayload payload) = sent.doWrite ∧
      Carries limit payload c.sendBound.buffer.data sent.sendBound.buffer.data

/-- The length field holds the whole size, or what it holds of it is already over the limit. -/
def FieldTells (limit : UInt32) (payload : Bytes) : Prop :=
  payload.length < 2 ^ 32 ∨ (limit ≠ 0 ∧ limit.toNat < payload.length % 2 ^ 32)

section Decode

variable {limit : UInt32} {payload : Bytes}

lemma ofPayload_length_mod (payload : Bytes) :
    (Message.ofPayload payload).header.length.toNat = payload.length % 2 ^ 32 := by
  rw [Message.ofPayload, UInt32.toNat_ofNat']

lemma parseHeader_sent {b : IOBound} {first t : Bytes}
    (hb : b.buffer = Buffer.empty) (hfirst : first = (Message.ofPayload payload).header.wire ++ t)
    (hlen : first.length < 2 ^ 32)
    (hlim : limit = 0 ∨ (Message.ofPayload payload).header.length.toNat ≤ limit.toNat) :
    (b.received first).parseHeader limit =
      (0, { b with header := (Message.ofPayload payload).header, buffer := ⟨t⟩ }) := by
  have hdata : (b.received first).buffer.data = (Message.ofPayload payload).header.wire ++ t := by
    rw [IOBound.received, Buffer.appendInternal_data, hb, hfirst]
    rfl
  have hun := Header.unwire_wire_append (Message.ofPayload payload).header []
  rw [List.append_nil] at hun
  rw [IOBound.parseHeader_eq hdata (Header.wire_length _) (by rw [hdata, ← hfirst]; exact hlen),
    wireFraming_bodyLen_wire rfl rfl, if_pos (limitOf_all.mpr hlim), hun]
  rfl

lemma carries_of_lt {before : Bytes} (hsize : payload.length < 2 ^ 32)
    (hlim : limit = 0 ∨ (Message.ofPayload payload).header.length.toNat ≤ limit.toNat) :
    Carries limit payload before (before ++ (Message.ofPayload payload).netStr) := by
  have hfield := Message.ofPayload_length hsize
  refine ⟨fun hne => ?_, _, rfl, ?_⟩
  · rw [← hfield]
    exact hlim.resolve_left hne
  · intro b first rest hb hsplit hge hlt
    obtain ⟨t, rfl⟩ : ∃ t, first = (Message.ofPayload payload).header.wire ++ t := by
      have hpre : (Message.ofPayload payload).header.wire <+: first :=
        List.prefix_of_prefix_length_le (List.prefix_append _ _)
          (hsplit ▸ List.prefix_append first rest) (by rw [Header.wire_length]; exact hge)
      exact ⟨_, hpre.choose_spec.symm⟩
    have hpayload : t ++ rest = payload := by
      rw [Message.netStr, List.append_assoc, List.append_cancel_left_eq] at hsplit
      exact hsplit
    have h2048 : kFixedIoBufferSize.toNat = 2048 := rfl
    have h16 : Header.size = 16 := rfl
    refine ⟨_, parseHeader_sent hb rfl (by omega) hlim, ?_, ?_⟩
    · intro more hmore hne msg
      apply IOBound.parseMsgBody_short
      show (t ++ more).length < (Message.ofPayload payload).header.length.toNat
      have hshort : more.length < rest.length := by
        refine lt_of_le_of_ne hmore.length_le fun he => hne (hmore.eq_of_length he)
      rw [hfield, ← hpayload, List.length_append, List.length_append]
      omega
    · have hbody := @IOBound.parseMsgBody_eq (IOBound.received
        { b with header := (Message.ofPayload payload).header, buffer := ⟨t⟩ } rest)
        ⟨Header.zero, []⟩
      simp only [IOBound.received, Buffer.appendInternal, hpayload, hfield, le_refl,
        List.take_length, List.drop_length, forall_const] at hbody
      simp only [IOBound.received, Buffer.appendInternal, hpayload]
      exact ⟨_, _, hbody hsize, rfl⟩

lemma not_decodesAs (hsize : 2 ^ 32 ≤ payload.length)
    (hlim : limit = 0 ∨ (Message.ofPayload payload).header.length.toNat ≤ limit.toNat) :
    ¬ IOBound.DecodesAs limit (Message.ofPayload payload).netStr payload := by
  intro h
  have h16 : (Message.ofPayload payload).header.wire.length = 16 := Header.wire_length _
  obtain ⟨b, hhead, -, header, d, hbody, -⟩ := h IOBound.fresh
    (Message.ofPayload payload).header.wire payload rfl rfl (by rw [h16]; decide)
    (by rw [h16]; decide)
  rw [parseHeader_sent rfl (List.append_nil _).symm (by rw [h16]; decide) hlim] at hhead
  obtain ⟨-, rfl⟩ := Prod.mk.inj hhead
  have hlt := (Message.ofPayload payload).header.length.toNat_lt
  have hgetLength : ¬ (Buffer.getLength ⟨payload⟩) < (Message.ofPayload payload).header.length :=
    UInt32.lt_irrefl _
  have htake := (@Buffer.consume_eq ⟨payload⟩ (Message.ofPayload payload).header.length
    (by simp only; omega)).1
  simp only [IOBound.received, Buffer.appendInternal, List.nil_append, IOBound.parseMsgBody,
    if_neg hgetLength, htake] at hbody
  have hpayload := (Message.mk.inj (Prod.mk.inj (Prod.mk.inj hbody).2).1).2
  have hlength := congrArg List.length hpayload
  rw [List.length_take] at hlength
  omega

lemma carries_iff {before : Bytes}
    (hlim : limit = 0 ∨ (Message.ofPayload payload).header.length.toNat ≤ limit.toNat) :
    Carries limit payload before (before ++ (Message.ofPayload payload).netStr) ↔
      FieldTells limit payload := by
  constructor
  · rintro ⟨-, bytes, hbytes, hdecodes⟩
    obtain rfl := List.append_cancel_left hbytes
    by_contra hn
    rw [FieldTells, not_or, not_lt] at hn
    exact not_decodesAs hn.1 hlim hdecodes
  · rintro (hsize | ⟨hne, hover⟩)
    · exact carries_of_lt hsize hlim
    · have hle := hlim.resolve_left hne
      rw [ofPayload_length_mod] at hle
      omega

end Decode

section Senders

variable {limit : UInt32} {payload : Bytes}

lemma refused_or_accepted (limit : UInt32) (payload : Bytes) :
    ((decide (limit ≠ 0) && decide (limit < (Message.ofPayload payload).header.length)) = true ∧
        FieldTells limit payload) ∨
      ((decide (limit ≠ 0) && decide (limit < (Message.ofPayload payload).header.length)) = false ∧
        (limit = 0 ∨ (Message.ofPayload payload).header.length.toNat ≤ limit.toNat)) := by
  by_cases h0 : limit = 0
  · exact Or.inr ⟨by simp [h0], Or.inl h0⟩
  by_cases hlt : limit < (Message.ofPayload payload).header.length
  · refine Or.inl ⟨by simp [h0, hlt], Or.inr ⟨h0, ?_⟩⟩
    rwa [UInt32.lt_iff_toNat_lt, ofPayload_length_mod] at hlt
  · refine Or.inr ⟨by simp [hlt], Or.inr ?_⟩
    rwa [UInt32.lt_iff_toNat_lt, not_lt] at hlt

lemma server_refusesSize {env : ServerEnv} (h : env.sendMaxMsgSize.toUInt32 = limit)
    (msg : Message) : TcpConnAsync.refusesSize env msg =
      (decide (limit ≠ 0) && decide (limit < msg.header.length)) := by
  have hzero : env.sendMaxMsgSize = 0 ↔ limit = 0 := by
    rw [← h]
    exact ⟨fun hz => by rw [hz]; rfl,
      fun hz => by rw [← Int32.toInt32_toUInt32 env.sendMaxMsgSize, hz]; rfl⟩
  rw [TcpConnAsync.refusesSize, h]
  simp only [ne_eq, hzero]

theorem server_sendsExactly_iff (limit : UInt32) (payload : Bytes) :
    TcpConnAsync.SendsExactly limit payload ↔ FieldTells limit payload := by
  have happend : ∀ c : TcpConnAsync,
      (c.appendMessage (Message.ofPayload payload)).send.bound.buffer.data =
        c.send.bound.buffer.data ++ (Message.ofPayload payload).netStr :=
    fun c => Buffer.append_data _ _
  rcases refused_or_accepted limit payload with ⟨hrefuses, htells⟩ | ⟨haccepts, hlim⟩
  · refine ⟨fun _ => htells, fun _ env c henv hacc => ?_⟩
    rw [TcpConnAsync.asyncSendMessage, server_refusesSize henv, if_pos hrefuses] at hacc
    cases hacc
  · constructor
    · intro h
      have hsent := h ⟨0, limit.toInt32, 0, fun _ => none⟩ .fresh rfl (by
        rw [TcpConnAsync.asyncSendMessage, server_refusesSize rfl, if_neg]
        rw [UInt32.toUInt32_toInt32, haccepts]
        simp)
      exact (carries_iff hlim).mp (happend _ ▸ hsent.2)
    · intro htells env c henv hacc
      refine ⟨?_, happend c ▸ (carries_iff hlim).mpr htells⟩
      rw [TcpConnAsync.asyncSendMessage, server_refusesSize henv,
        if_neg (by rw [haccepts]; decide)]

theorem client_sendsExactly_iff (limit : UInt32) (payload : Bytes) :
    Client.TcpConnAsync.SendsExactly limit payload ↔ FieldTells limit payload := by
  have happend : ∀ c : Client.TcpConnAsync,
      (c.appendMessage (Message.ofPayload payload)).send.bound.buffer.data =
        c.send.bound.buffer.data ++ (Message.ofPayload payload).netStr :=
    fun c => Buffer.append_data _ _
  rcases refused_or_accepted limit payload with ⟨hrefuses, htells⟩ | ⟨haccepts, hlim⟩
  · refine ⟨fun _ => htells, ?_⟩
    rintro _ setting c rfl hacc
    have hrefused := (Client.TcpConnAsync.sendNetMessage_accepts.mp hacc).1
    rw [Client.TcpConnAsync.refusesSize, hrefuses] at hrefused
    cases hrefused
  · constructor
    · intro h
      have hsent := h ⟨limit, 0⟩ .fresh rfl
        (Client.TcpConnAsync.sendNetMessage_accepts.mpr ⟨haccepts, Or.inr rfl⟩)
      exact (carries_iff hlim).mp (happend _ ▸ hsent.2)
    · rintro htells setting c rfl hacc
      refine ⟨?_, happend c ▸ (carries_iff hlim).mpr htells⟩
      rw [Client.TcpConnAsync.sendNetMessage, if_neg]
      rw [Client.TcpConnAsync.refusesSize, haccepts]
      simp

theorem sync_sendsExactly_iff (limit : UInt32) (payload : Bytes) :
    Client.TcpConnSync.SendsExactly limit payload ↔ FieldTells limit payload := by
  have happend : ∀ b : Buffer, (b.append (Message.ofPayload payload)).data =
      b.data ++ (Message.ofPayload payload).netStr := fun b => Buffer.append_data _ _
  have hcheck : (limit ≠ 0 ∧ limit < (Message.ofPayload payload).header.length) ↔
      (decide (limit ≠ 0) && decide (limit < (Message.ofPayload payload).header.length)) =
        true := by simp
  rcases refused_or_accepted limit payload with ⟨hrefuses, htells⟩ | ⟨haccepts, hlim⟩
  · refine ⟨fun _ => htells, ?_⟩
    rintro _ setting c rfl hacc
    rw [Client.TcpConnSync.sendNetMessage, if_pos (hcheck.mpr hrefuses)] at hacc
    exact absurd rfl hacc
  · have hpass : ¬ (limit ≠ 0 ∧ limit < (Message.ofPayload payload).header.length) := by
      rw [hcheck, haccepts]
      simp
    constructor
    · intro h
      have hsent := h ⟨limit, 0⟩ .fresh rfl (by
        rw [Client.TcpConnSync.sendNetMessage, if_neg hpass, Client.TcpConnSync.doWrite,
          if_neg (by simp [Client.TcpConnSync.fresh, NetConn.setConnStat]),
          Client.TcpConnSync.writeLoop]
        split_ifs <;> simp)
      exact (carries_iff hlim).mp (happend _ ▸ hsent.2)
    · rintro htells setting c rfl hacc
      refine ⟨?_, happend _ ▸ (carries_iff hlim).mpr htells⟩
      rw [Client.TcpConnSync.sendNetMessage, if_neg hpass]

/-- What a sender accepts is within the limit and is decoded by a receiver under the same
limit, byte for byte, exactly for the payloads whose size the length field tells. -/
theorem sendsExactly_iff (limit : UInt32) (payload : Bytes) :
    (TcpConnAsync.SendsExactly limit payload ↔ FieldTells limit payload) ∧
      (Client.TcpConnAsync.SendsExactly limit payload ↔ FieldTells limit payload) ∧
      (Client.TcpConnSync.SendsExactly limit payload ↔ FieldTells limit payload) :=
  ⟨server_sendsExactly_iff limit payload, client_sendsExactly_iff limit payload,
    sync_sendsExactly_iff limit payload⟩

/-- The shortest payload whose size does not fit the length field. -/
def longPayload : Bytes := List.replicate (2 ^ 32) 0

/-- Without a limit every sender takes it, as a message without a body. -/
theorem longPayload_not_carried :
    ¬ TcpConnAsync.SendsExactly 0 longPayload ∧ ¬ Client.TcpConnAsync.SendsExactly 0 longPayload ∧
      ¬ Client.TcpConnSync.SendsExactly 0 longPayload := by
  have hlen : longPayload.length = 2 ^ 32 := List.length_replicate
  have hn : ¬ FieldTells 0 longPayload := by
    rw [FieldTells, hlen]
    rintro (hlt | ⟨hne, -⟩)
    · exact absurd hlt (Nat.lt_irrefl _)
    · exact hne rfl
  exact ⟨fun h => hn ((server_sendsExactly_iff 0 _).mp h),
    fun h => hn ((client_sendsExactly_iff 0 _).mp h), fun h => hn ((sync_sendsExactly_iff 0 _).mp h)⟩

end Senders

end Tzrpc
