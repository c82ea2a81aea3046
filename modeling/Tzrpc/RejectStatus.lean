import Tzrpc.RpcClientImpl
import Tzrpc.RpcInstance

/-!
# The status of a rejection at the caller

`reject` sends a response whose service and opcode are zero, and the synchronous client
compares both with those of its request before it looks at the status.
-/
namespace Tzrpc.Client.RpcClientImpl

/-- The bytes reach the call in progress through its reads, however they are split, and
nothing else touches the call, its connection or the results. -/
inductive Delivers : RpcClientImpl → Bytes → RpcClientImpl → Prop
  | done (cl : RpcClientImpl) : Delivers cl [] cl
  | read {cl cl₁ cl' : RpcClientImpl} {bytes more : Bytes} (h : cl.step (.readDone bytes) = some cl₁)
    (rest : Delivers cl₁ more cl') : Delivers cl (bytes ++ more) cl'
  | other {cl cl₁ cl' : RpcClientImpl} {e : Event} {more : Bytes} (h : cl.step e = some cl₁)
    (keep : cl₁.calling = cl.calling ∧ cl₁.connSync = cl.connSync ∧ cl₁.returned = cl.returned ∧
      cl₁.setting = cl.setting)
    (rest : Delivers cl₁ more cl') : Delivers cl more cl'

/-- `call` waits for its response on an open connection that holds the part `s` of it. -/
def Awaits (cl : RpcClientImpl) (call : Call) (s : Bytes) : Prop :=
  ∃ c kind n, cl.calling = some (call, .io (.read kind n)) ∧ cl.connSync = some c ∧
    c.net.connStat = .kWorking ∧ TcpConnSync.Waits cl.setting s c kind n

section Delivery

variable {cl cl' : RpcClientImpl} {call : Call} {data s more : Bytes}

lemma Awaits.of_keep (h : Awaits cl call s) (hcalling : cl'.calling = cl.calling)
    (hconn : cl'.connSync = cl.connSync) (hsetting : cl'.setting = cl.setting) :
    Awaits cl' call s := by
  unfold Awaits
  rw [hcalling, hconn, hsetting]
  exact h

lemma Awaits.read {bytes : Bytes} (h : Awaits cl call s) (hlen : data.length + Header.size < 2 ^ 32)
    (hlim : (limitOf cl.setting.recvMaxMsgSize).all (data.length ≤ ·))
    (hs : s ++ bytes <+: (Message.ofPayload data).netStr)
    (hstep : cl.step (.readDone bytes) = some cl') :
    (Awaits cl' call (s ++ bytes) ∧ cl'.returned = cl.returned ∧ cl'.setting = cl.setting) ∨
      (s ++ bytes = (Message.ofPayload data).netStr ∧ cl'.calling = none ∧
        cl'.returned = cl.returned ++ [checkResponse call (Message.ofPayload data)]) := by
  obtain ⟨c, kind, n, hcalling, hc, hopen, hwaits⟩ := h
  have hbuf : (c.recvBound.buffer.data ++ bytes).length < 2 ^ 32 := by
    have hle := hs.length_le
    have hb := hwaits.buffer_le
    rw [Message.netStr, List.length_append, List.length_append, Header.wire_length] at hle
    rw [List.length_append]
    simp only [Message.ofPayload_payload] at hle
    omega
  simp only [step, hcalling, hc] at hstep
  split_ifs at hstep with hb
  obtain rfl := Option.some.inj hstep
  have hreads := TcpConnSync.readDone_reads hwaits hbuf
  generalize c.readDone cl.setting kind bytes = res at hreads ⊢
  obtain ⟨outcome, d⟩ := res
  rcases TcpConnSync.reads_within (by omega) hlim hs hopen hreads with
    ⟨-, kind', n', hout, hwaits', hnet⟩ | ⟨hfull, hout, -⟩
  · obtain rfl := hout
    refine Or.inl ⟨⟨d, kind', n', rfl, rfl, ?_, hwaits'⟩, rfl, rfl⟩
    simp only at hnet
    rw [hnet]
    exact hopen
  · obtain rfl := hout
    exact Or.inr ⟨hfull, rfl, rfl⟩

lemma Delivers.returned_of_idle (h : Delivers cl more cl') (hidle : cl.calling = none) :
    cl'.returned = cl.returned := by
  induction h with
  | done => rfl
  | read hstep => simp [step, hidle] at hstep
  | other hstep keep rest ih => rw [ih (keep.1.trans hidle), keep.2.2.1]

/-- However a message within the limit is split, the call gets all of it and returns with it. -/
theorem Delivers.returned (h : Delivers cl more cl') (hwait : Awaits cl call s)
    (hlen : data.length + Header.size < 2 ^ 32)
    (hlim : (limitOf cl.setting.recvMaxMsgSize).all (data.length ≤ ·))
    (hs : s ++ more = (Message.ofPayload data).netStr) :
    cl'.returned = cl.returned ++ [checkResponse call (Message.ofPayload data)] := by
  induction h generalizing s with
  | done cl =>
    rw [List.append_nil] at hs
    obtain ⟨c, kind, n, -, -, -, hwaits⟩ := hwait
    exact absurd (hs ▸ hwaits) (TcpConnSync.not_waits_message (by omega) hlim)
  | @read cl cl₁ cl' bytes more hstep rest ih =>
    rw [← List.append_assoc] at hs
    rcases hwait.read hlen hlim ⟨more, hs⟩ hstep with ⟨hwait', hret, hset⟩ | ⟨hfull, hidle, hret⟩
    · rw [ih hwait' (hset ▸ hlim) hs, hret]
    · rw [rest.returned_of_idle hidle, hret]
  | other hstep keep rest ih =>
    obtain ⟨hcalling, hconn, hret, hset⟩ := keep
    rw [ih (hwait.of_keep hcalling hconn hset) (hset ▸ hlim) hs, hret]

end Delivery

section Reject

variable {cl cl' : RpcClientImpl} {call : Call} {status : RpcResponseStatus}

lemma checkResponse_reject (call : Call) (status : RpcResponseStatus) :
    (checkResponse call (RpcInstance.rejectMessage status)).status =
      if call.serviceId = 0 ∧ call.opcode = 0 then ⟨status.code⟩ else .RECV_FORMAT_ERROR := by
  rw [checkResponse_status (m := RpcResponseMessage.ofStatus status) rfl]
  simp [RpcResponseMessage.ofStatus, RpcResponseHeader.zero, eq_comm]

/-- A call whose request the server rejects, and which gets the rejection whole and within its
limit, returns the rejection's status exactly when it asked for service 0 and opcode 0. -/
theorem rejected_status_iff {pb : ProtoBuf} {services : UInt16 → Bool} {id fullSocket : ℕ}
    (hwait : Awaits cl call [])
    (hreject : .reject status ∈ Dispatcher.answers pb services
      (.ofPayload id fullSocket (requestMessage call).payload))
    (hlimit : cl.setting.recvMaxMsgSize = 0 ∨
      (RpcInstance.rejectMessage status).header.length ≤ cl.setting.recvMaxMsgSize)
    (hdelivers : Delivers cl (RpcInstance.rejectMessage status).netStr cl') :
    ∃ r, cl'.returned = cl.returned ++ [r] ∧ r.call = call ∧
      (r.status.code = status.code ↔ call.serviceId = 0 ∧ call.opcode = 0) := by
  have hsize : (RpcResponseMessage.ofStatus status).netStr.length = RpcResponseHeader.size := by
    rw [RpcResponseMessage.netStr_length]
    rfl
  have hlen : (RpcResponseMessage.ofStatus status).netStr.length + Header.size < 2 ^ 32 := by
    rw [hsize]
    decide
  have hlim : (limitOf cl.setting.recvMaxMsgSize).all
      ((RpcResponseMessage.ofStatus status).netStr.length ≤ ·) := by
    rw [limitOf_all]
    refine hlimit.imp_right fun h => ?_
    rwa [UInt32.le_iff_toNat_le, RpcInstance.rejectMessage,
      Message.ofPayload_length (by omega)] at h
  refine ⟨_, hdelivers.returned hwait hlen hlim rfl, checkResponse_call call _, ?_⟩
  have hstatus := checkResponse_reject call status
  rw [RpcInstance.rejectMessage] at hstatus
  rw [hstatus]
  split_ifs with h0
  · simp [h0]
  · simp only [h0, iff_false]
    rcases Dispatcher.mem_answers_reject hreject with rfl | rfl <;> decide

def zeroRun : List Event := [.callRPC true 0 0 [0] 0, .connected, .wrote 33, .writeDone]

theorem zeroRun_status :
    ∃ cl cl' r, (machine ⟨0, 0⟩).run zeroRun = some cl ∧
      Delivers cl (RpcInstance.rejectMessage .INVALID_SERVICE).netStr cl' ∧
      cl'.returned = cl.returned ++ [r] ∧ r.status.code = RpcResponseStatus.INVALID_SERVICE.code := by
  have hrun : ((machine ⟨0, 0⟩).run zeroRun).any (fun cl => decide (cl.setting = ⟨0, 0⟩) &&
      decide (cl.calling = some (⟨0, true, 0, 0, [0], 0⟩, .io (.read .head 16))) &&
      (cl.connSync.any fun c => decide (c.net.connStat = .kWorking ∧ c.recvBound.buffer.data = [])) &&
      (cl.step (.readDone (RpcInstance.rejectMessage .INVALID_SERVICE).netStr)).isSome) := by
    decide +kernel
  obtain ⟨cl, hcl, hd⟩ := (Option.any_eq_true _ _).mp hrun
  simp only [Bool.and_eq_true, decide_eq_true_eq] at hd
  obtain ⟨⟨⟨hset, hcalling⟩, hconn⟩, hsome⟩ := hd
  obtain ⟨c, hc, hopen⟩ := (Option.any_eq_true _ _).mp hconn
  obtain ⟨hopen, hempty⟩ := of_decide_eq_true hopen
  obtain ⟨cl', hstep⟩ := Option.isSome_iff_exists.mp hsome
  have hdel : Delivers cl (RpcInstance.rejectMessage .INVALID_SERVICE).netStr cl' := by
    simpa using Delivers.read hstep (.done cl')
  obtain ⟨r, hret, -, hiff⟩ := @rejected_status_iff cl cl' _ _ ⟨fun _ => none, fun _ => []⟩
    (fun _ => false) 0 0
    (⟨c, .head, 16, hcalling, hc, hopen, by decide, hempty, rfl⟩ :
      Awaits cl ⟨0, true, 0, 0, [0], 0⟩ [])
    (by decide +kernel) (Or.inl (by rw [hset])) hdel
  exact ⟨cl, cl', r, hcl, hdel, hret, hiff.mpr ⟨rfl, rfl⟩⟩

/-- A request for an unregistered service 7: the rejection becomes a format error. -/
theorem rejectedCall_formatError :
    (Answer.reject .INVALID_SERVICE ∈ Dispatcher.answers ⟨fun _ => none, fun _ => []⟩
      (fun _ => false) (.ofPayload 0 0 (requestMessage ⟨0, true, 7, 1, [0], 0⟩).payload)) ∧
    ∃ cl, (machine ⟨0, 0⟩).run [.callRPC true 7 1 [0] 0, .connected, .wrote 33, .writeDone,
        .readDone (RpcInstance.rejectMessage .INVALID_SERVICE).netStr] = some cl ∧
      cl.returned.map (·.status) = [.RECV_FORMAT_ERROR] := by
  refine ⟨by decide +kernel, ?_⟩
  have h : ((machine ⟨0, 0⟩).run [.callRPC true 7 1 [0] 0, .connected, .wrote 33, .writeDone,
      .readDone (RpcInstance.rejectMessage .INVALID_SERVICE).netStr]).any
      (fun cl => decide (cl.returned.map (·.status) = [.RECV_FORMAT_ERROR])) := by
    decide +kernel
  obtain ⟨cl, hcl, hd⟩ := (Option.any_eq_true _ _).mp h
  exact ⟨cl, hcl, of_decide_eq_true hd⟩

end Reject

end Tzrpc.Client.RpcClientImpl
