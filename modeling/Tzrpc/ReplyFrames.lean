import Tzrpc.NetConf
import Tzrpc.RpcInstance
import Tzrpc.TcpConnAsyncSenders

/-!
# Response frames

`reply_rpc_message` and `reject` drop what `async_send_message` returns. A rejection is
never above the message limit, since a limit leaves room for the headers, but a result can
be, and then the client gets no frame at all.
-/
namespace Tzrpc

namespace TcpConnAsync

/-- The bytes have been appended to the send buffer, and the front of the buffer may have
moved on into the block of a new write. -/
def Appends (c d : TcpConnAsync) (bytes : Bytes) : Prop :=
  ∃ taken, taken ++ d.send.bound.buffer.data = c.send.bound.buffer.data ++ bytes ∧
    ((taken = [] ∧ d.send.writes = c.send.writes) ∨
      ∃ op : WriteOp, op.sent = 0 ∧ d.send.writes = c.send.writes ++ [op] ∧
        d.send.bound.ioBlock.take op.size = taken)

variable {env : ServerEnv} {c : TcpConnAsync} {msg : Message}

lemma asyncSendMessage_appends (h : refusesSize env msg = false) :
    Appends c (c.asyncSendMessage env msg).2 msg.netStr := by
  have hdata : (c.appendMessage msg).send.bound.buffer.data =
      c.send.bound.buffer.data ++ msg.netStr := Buffer.append_data _ msg
  rw [asyncSendMessage, h]
  simp only [Bool.false_eq_true, ↓reduceIte]
  unfold doWrite
  split_ifs
  · by_cases h0 : (c.appendMessage msg).send.bound.buffer.getLength = 0
    · rw [Senders.doWriteCritical_empty h0]
      exact ⟨[], hdata, Or.inl ⟨rfl, rfl⟩⟩
    · obtain ⟨op, hsent, -, hwrites, hblock⟩ := @Senders.doWriteCritical_write env _ h0
      exact ⟨_, hblock.trans hdata, Or.inr ⟨op, hsent, hwrites, rfl⟩⟩
  · exact ⟨[], hdata, Or.inl ⟨rfl, rfl⟩⟩

lemma asyncSendMessage_refused (h : refusesSize env msg = true) :
    (c.asyncSendMessage env msg).2 = c := by
  rw [asyncSendMessage, h]
  rfl

lemma not_appends_self {bytes : Bytes} (h : bytes ≠ []) : ¬ Appends c c bytes := by
  rintro ⟨taken, hbytes, ⟨rfl, -⟩ | ⟨op, -, hwrites, -⟩⟩
  · exact h (by simpa using hbytes)
  · simp at hwrites

end TcpConnAsync

def Answer.size : Answer → ℕ
  | .reply msg => msg.length
  | .reject _ => 0

namespace RpcInstance

/-- `reply_rpc_message` or `reject`, with the connection still there. -/
def sendAnswer (env : ServerEnv) (inst : RpcInstance) (c : TcpConnAsync) (a : Answer) :
    TcpConnAsync := (c.asyncSendMessage env (inst.answerMessage a)).2

/-- A response to the request: the result, or an error status. -/
def RespondsTo (inst : RpcInstance) (a : Answer) (m : RpcResponseMessage) : Prop :=
  (∃ msg, a = .reply msg ∧ m = .ofReply inst.serviceId inst.opcode msg) ∨ m.header.status ≠ .OK

def Answered (env : ServerEnv) (inst : RpcInstance) (c : TcpConnAsync) (a : Answer) : Prop :=
  ∃ m, inst.RespondsTo a m ∧
    c.Appends (inst.sendAnswer env c a) (Message.ofPayload m.netStr).netStr

/-- A response header and the result are within the limit. -/
def Fits (sendMaxMsgSize : Int32) (a : Answer) : Prop :=
  sendMaxMsgSize = 0 ∨ (17 + a.size : ℤ) ≤ sendMaxMsgSize.toInt

lemma answerMessage_eq (inst : RpcInstance) (a : Answer) :
    ∃ m : RpcResponseMessage, inst.answerMessage a = .ofPayload m.netStr ∧
      m.payload.length = a.size ∧
      (a = .reply m.payload ∧ m = .ofReply inst.serviceId inst.opcode m.payload ∨
        ∃ status, a = .reject status ∧ m.header.status = status) := by
  cases a with
  | reply msg => exact ⟨.ofReply inst.serviceId inst.opcode msg, rfl, rfl, Or.inl ⟨rfl, rfl⟩⟩
  | reject status => exact ⟨.ofStatus status, rfl, rfl, Or.inr ⟨status, rfl, rfl⟩⟩

lemma refusesSize_answer {env : ServerEnv} (hpos : 0 ≤ env.sendMaxMsgSize) (inst : RpcInstance)
    {a : Answer} (hsize : a.size < 2 ^ 31) :
    TcpConnAsync.refusesSize env (inst.answerMessage a) = false ↔ Fits env.sendMaxMsgSize a := by
  obtain ⟨m, hm, hlen, -⟩ := inst.answerMessage_eq a
  have hnet := m.netStr_length
  have hheader : (Message.ofPayload m.netStr).header.length.toNat = 17 + a.size := by
    rw [Message.ofPayload_length (by rw [hnet, hlen, RpcResponseHeader.size]; omega), hnet, hlen]
    rfl
  have hmax : (env.sendMaxMsgSize.toUInt32.toNat : ℤ) = env.sendMaxMsgSize.toInt := by
    rw [Int32.toNat_toUInt32_of_le hpos, Int32.toNatClampNeg]
    rw [Int32.le_iff_toInt_le, Int32.toInt_zero] at hpos
    omega
  rw [hm, TcpConnAsync.refusesSize, Fits]
  by_cases h0 : env.sendMaxMsgSize = 0
  · simp [h0]
  · simp only [h0, ne_eq, not_false_eq_true, decide_true, Bool.true_and, decide_eq_false_iff_not,
      false_or, UInt32.lt_iff_toNat_lt, hheader]
    omega

lemma answered_iff {env : ServerEnv} (hpos : 0 ≤ env.sendMaxMsgSize) (inst : RpcInstance)
    (c : TcpConnAsync) {a : Answer} (hsize : a.size < 2 ^ 31)
    (herror : ∀ status, a = .reject status → status ≠ .OK) :
    inst.Answered env c a ↔ Fits env.sendMaxMsgSize a := by
  rw [← refusesSize_answer hpos inst hsize]
  constructor
  · rintro ⟨m, -, happends⟩
    by_contra hrefused
    rw [sendAnswer, TcpConnAsync.asyncSendMessage_refused (by simpa using hrefused)] at happends
    refine TcpConnAsync.not_appends_self (fun hnil => ?_) happends
    have hlen := congrArg List.length hnil
    rw [Message.netStr, List.length_append, Header.wire_length, List.length_nil] at hlen
    simp [Header.size] at hlen
  · intro hsent
    have happends := TcpConnAsync.asyncSendMessage_appends (c := c) hsent
    obtain ⟨m, hm, -, hkind⟩ := inst.answerMessage_eq a
    rw [hm] at happends
    refine ⟨m, ?_, by rw [sendAnswer, hm]; exact happends⟩
    rcases hkind with ⟨ha, hreply⟩ | ⟨status, ha, hstatus⟩
    · exact Or.inl ⟨m.payload, ha, hreply⟩
    · exact Or.inr (hstatus ▸ herror status ha)

end RpcInstance

namespace Dispatcher

/-- Every request that is answered gets a frame exactly when its result, if it has one, is
within the limit together with the response header. -/
theorem answers_framed_iff {conf : NetConf} {doc : NetworkDoc} {env : ServerEnv}
    (hload : (conf.loadConf doc).1 = true)
    (henv : env.sendMaxMsgSize = (conf.loadConf doc).2.sendMaxMsgSize) (pb : ProtoBuf)
    (services : UInt16 → Bool) (inst : RpcInstance) (c : TcpConnAsync)
    (hsize : ∀ msg, .reply msg ∈ answers pb services inst → msg.length < 2 ^ 31) :
    (∀ a ∈ answers pb services inst, (handleRPC services inst).2.Answered env c a) ↔
      ∀ msg, .reply msg ∈ answers pb services inst → env.sendMaxMsgSize = 0 ∨
        (17 + msg.length : ℤ) ≤ env.sendMaxMsgSize.toInt := by
  have hlimit := NetConf.loadConf_sendMax hload
  rw [← henv] at hlimit
  have hpos : 0 ≤ env.sendMaxMsgSize := by grind
  have hiff : ∀ a ∈ answers pb services inst,
      ((handleRPC services inst).2.Answered env c a ↔ RpcInstance.Fits env.sendMaxMsgSize a) := by
    intro a ha
    refine RpcInstance.answered_iff hpos _ c ?_ ?_
    · cases a with
      | reply msg => exact hsize msg ha
      | reject status => exact Nat.two_pow_pos 31
    · rintro status rfl
      rcases mem_answers_reject ha with rfl | rfl <;> decide
  constructor
  · intro h msg hmsg
    exact (hiff _ hmsg).mp (h _ hmsg)
  · intro h a ha
    refine (hiff a ha).mpr ?_
    cases a with
    | reply msg => exact h msg ha
    | reject status =>
      rcases hlimit with h0 | hlt
      · exact Or.inl h0
      · rw [Int32.lt_iff_toInt_lt, show (32 : Int32).toInt = 32 from rfl] at hlt
        refine Or.inr ?_
        change (17 + (0 : ℕ) : ℤ) ≤ _
        omega

def limitDoc (limit : Int32) : NetworkDoc :=
  { bindAddr := some anyAddress, bindPort := some 8434, safeIp := none, backlogSize := none
    ioThreadPoolSize := none, opsCancelTimeOut := none, sessionCancelTimeOut := none
    serviceEnable := none, serviceSpeed := none, serviceConcurrency := none
    sendMaxMsgSize := some limit, recvMaxMsgSize := none }

def limitEnv (limit : Int32) : ServerEnv := ⟨0, limit, 0, fun _ => none⟩

/-- A write request to service 1, whose result has 17 bytes. -/
def writeRequest : RpcInstance := .ofPayload 0 0 (RpcRequestMessage.ofRequest 1 2 [5]).netStr

/-- The write requests do not go through `roo::ProtoBuf`. -/
def noProtoBuf : ProtoBuf := ⟨fun _ => none, fun _ => []⟩

lemma writeRequest_answers : answers noProtoBuf (· = 1) writeRequest =
    [.reply (text "nicol_write_reply")] := by decide +kernel

/-- A limit of 33 loads, and the reply to a write request vanishes. -/
theorem writeReply_dropped :
    (NetConf.fresh.loadConf (limitDoc 33)).1 = true ∧
      (NetConf.fresh.loadConf (limitDoc 33)).2.sendMaxMsgSize = 33 ∧
      (TcpConnAsync.started (limitEnv 33)).net.connStat = .kWorking ∧
      (∀ a ∈ answers noProtoBuf (· = 1) writeRequest,
        (handleRPC (· = 1) writeRequest).2.sendAnswer (limitEnv 33)
          (.started (limitEnv 33)) a = .started (limitEnv 33)) ∧
      ¬ ∀ a ∈ answers noProtoBuf (· = 1) writeRequest,
        (handleRPC (· = 1) writeRequest).2.Answered (limitEnv 33) (.started (limitEnv 33)) a := by
  have hrefused : TcpConnAsync.refusesSize (limitEnv 33)
      ((handleRPC (· = 1) writeRequest).2.answerMessage
        (.reply (text "nicol_write_reply"))) = true := by
    decide +kernel
  refine ⟨by decide +kernel, by decide +kernel, by decide +kernel, fun a ha => ?_, fun h => ?_⟩
  · rw [writeRequest_answers, List.mem_singleton] at ha
    rw [ha, RpcInstance.sendAnswer, TcpConnAsync.asyncSendMessage_refused hrefused]
  · have hanswered := h _ (by rw [writeRequest_answers]; exact List.mem_singleton_self _)
    rw [RpcInstance.answered_iff (by decide) _ _ (by decide +kernel) (by simp)] at hanswered
    exact absurd hanswered (by unfold RpcInstance.Fits; decide +kernel)

theorem writeReply_framed :
    (handleRPC (· = 1) writeRequest).2.Answered (limitEnv 34) (.started (limitEnv 34))
      (.reply (text "nicol_write_reply")) := by
  have hload : (NetConf.fresh.loadConf (limitDoc 34)).1 = true := by decide +kernel
  have henv : (limitEnv 34).sendMaxMsgSize =
      (NetConf.fresh.loadConf (limitDoc 34)).2.sendMaxMsgSize := by decide +kernel
  have hlength : (text "nicol_write_reply").length = 17 := by decide +kernel
  have hiff := answers_framed_iff hload henv noProtoBuf (· = 1) writeRequest
    (.started (limitEnv 34))
  simp only [writeRequest_answers, List.mem_singleton, forall_eq, Answer.reply.injEq,
    hlength] at hiff
  exact (hiff (by decide)).mpr (Or.inr (by decide))

end Dispatcher

end Tzrpc
