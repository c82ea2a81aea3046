import Tzrpc.RpcClientTimer

/-!
# Asynchronous calls and dead connections

`do_write` answers for a message before it looks at the connection while an earlier write
is outstanding. A connection that is closed under an outstanding write therefore goes on
accepting requests; one that is closed between writes is found out by the next call.
-/
namespace Tzrpc.Client.RpcClientImpl

/-- An asynchronous call goes on to send its request on the connection `c`. -/
inductive SendsOn (cl : RpcClientImpl) : Event → Call → TcpConnAsync → Prop
  | held (serviceId opcode : UInt16) (payload : Bytes) (timeoutSec : UInt32) (c : TcpConnAsync)
    (conn : cl.connAsync = some c) :
    SendsOn cl (.callRPC false serviceId opcode payload timeoutSec)
      ⟨cl.calls, false, serviceId, opcode, payload, timeoutSec⟩ c
  | opened (call : Call) (h : cl.calling = some (call, .connect)) (async : call.sync = false) :
    SendsOn cl .connected call (.started cl.setting)

/-- An asynchronous call returns `OK` only for a working connection, and it fails on and
drops one that is not. -/
def NoticesDead (cl : RpcClientImpl) (e : Event) (cl' : RpcClientImpl) : Prop :=
  ∀ call c, SendsOn cl e call c → ∃ r, cl'.returned = cl.returned ++ [r] ∧ r.call = call ∧
    (r.status = .OK → c.net.connStat = .kWorking) ∧
    (c.net.connStat ≠ .kWorking → r.status ≠ .OK ∧ cl'.connAsync = none)

def ClosesSending (cl cl' : RpcClientImpl) : Prop :=
  ∃ c d, cl.connAsync = some c ∧ c.net.connStat = .kWorking ∧ c.send.status = .kSend ∧
    cl'.connAsync = some d ∧ d.net.connStat ≠ .kWorking

def Detects (cl : RpcClientImpl) : Prop :=
  ∀ c, cl.connAsync = some c → c.net.connStat = .kWorking ∨ c.send.status = .kDone

section Calls

variable {setting : ClientSetting} {cl cl' : RpcClientImpl} {e : Event} {es : List Event}
  {call : Call} {c : TcpConnAsync}

lemma SendsOn.step (h : SendsOn cl e call c) (hstep : cl.step e = some cl') :
    ∃ n, cl' = { cl with calls := n }.startAsync call c := by
  cases h with
  | held serviceId opcode payload timeoutSec c conn =>
    simp only [RpcClientImpl.step] at hstep
    split at hstep
    · cases hstep
    · rw [callRPC_async rfl conn] at hstep
      exact ⟨cl.calls + 1, (Option.some.inj hstep).symm⟩
  | opened call hc async =>
    simp only [RpcClientImpl.step, hc, RpcClientImpl.connected, async, Bool.false_eq_true,
      ↓reduceIte] at hstep
    exact ⟨cl.calls, (Option.some.inj hstep).symm⟩

lemma failedStatus_ne_ok (cl : RpcClientImpl) : cl.failedStatus .NETWORK_SEND_ERROR ≠ .OK := by
  unfold failedStatus
  split_ifs <;> decide

lemma startAsync_accepted
    (h : (c.sendNetMessage cl.setting (requestMessage call)).1 = true) :
    (cl.startAsync call c).returned = cl.returned ++ [⟨call, .OK, none, none⟩] ∧
      (cl.startAsync call c).connAsync =
        some (c.sendNetMessage cl.setting (requestMessage call)).2 := by
  simp [startAsync, h, finish]

lemma startAsync_refused
    (h : (c.sendNetMessage cl.setting (requestMessage call)).1 = false) :
    (cl.startAsync call c).returned =
        cl.returned ++ [(cl.setRpcCallTimeout call).failure call .NETWORK_SEND_ERROR] ∧
      (cl.startAsync call c).connAsync = none := by
  simp [startAsync, h, finish]

lemma Detects.noticesDead (hd : Detects cl) (hstep : cl.step e = some cl') :
    NoticesDead cl e cl' := by
  intro call c h
  have hc : c.net.connStat = .kWorking ∨ c.send.status = .kDone := by
    cases h with
    | held _ _ _ _ _ conn => exact hd c conn
    | opened => exact Or.inl (TcpConnAsync.started_net _)
  obtain ⟨n, rfl⟩ := h.step hstep
  cases hs : (c.sendNetMessage cl.setting (requestMessage call)).1 with
  | true =>
    have hw : c.net.connStat = .kWorking := by
      rcases hc with hw | hdone
      · exact hw
      · rcases (TcpConnAsync.sendNetMessage_accepts.mp hs).2 with hk | hw
        · rw [hdone] at hk
          cases hk
        · exact hw
    exact ⟨_, (@startAsync_accepted { cl with calls := n } call c hs).1, rfl, fun _ => hw,
      fun hn => absurd hw hn⟩
  | false =>
    obtain ⟨hret, hnone⟩ := @startAsync_refused { cl with calls := n } call c hs
    exact ⟨_, hret, rfl, fun hok => absurd hok (failedStatus_ne_ok _),
      fun _ => ⟨failedStatus_ne_ok _, hnone⟩⟩

lemma rpcCallTimeout_connAsync {w : CallWait} {code : WaitCode} {d : TcpConnAsync}
    (h : (cl.rpcCallTimeout w code).connAsync = some d) :
    ∃ c, cl.connAsync = some c ∧ d.send.status = c.send.status := by
  cases code with
  | aborted => exact ⟨d, h, rfl⟩
  | success =>
    unfold rpcCallTimeout at h
    dsimp only at h
    split_ifs at h
    · split at h <;> exact ⟨d, h, rfl⟩
    · split at h
      · rename_i c hc
        obtain rfl := Option.some.inj h
        exact ⟨c, hc, rfl⟩
      · rename_i hc
        simp only at h
        rw [hc] at h
        cases h

lemma Detects.of_status {d : TcpConnAsync} (hd : Detects cl) (hclose : ¬ ClosesSending cl cl')
    (hc : cl.connAsync = some c) (hd' : cl'.connAsync = some d)
    (hs : d.send.status = .kDone ∨ d.send.status = c.send.status ∨ d.net.connStat = .kWorking) :
    d.net.connStat = .kWorking ∨ d.send.status = .kDone := by
  rcases hs with hs | hs | hs
  · exact Or.inr hs
  · by_cases hw : d.net.connStat = .kWorking
    · exact Or.inl hw
    · refine Or.inr (hs.trans ?_)
      rcases hd c hc with hcw | hcd
      · cases hk : c.send.status with
        | kDone => rfl
        | kSend => exact absurd ⟨c, d, hc, hcw, hk, hd', hw⟩ hclose
      · exact hcd
  · exact Or.inl hs

lemma Detects.step (hd : Detects cl) (hstep : cl.step e = some cl')
    (hclose : ¬ ClosesSending cl cl') : Detects cl' := by
  cases step_transition hstep with
  | connecting => exact hd
  | startSync call sync begins hp =>
    obtain ⟨n, -, rfl⟩ := begins.same
    intro d hd'
    rw [hp.same.2.2.1, setRpcCallTimeout_connAsync] at hd'
    exact hd d hd'
  | startAsync call c sync begins conn =>
    obtain ⟨n, -, rfl⟩ := begins.same
    intro d hd'
    cases hs : (c.sendNetMessage cl.setting (requestMessage call)).1 with
    | true =>
      rw [(@startAsync_accepted { cl with calls := n } call c hs).2] at hd'
      obtain rfl := Option.some.inj hd'
      refine Or.inl ?_
      rw [TcpConnAsync.sendNetMessage_net]
      rcases conn with hc | rfl
      · rcases hd c hc with hw | hdone
        · exact hw
        · refine (TcpConnAsync.sendNetMessage_accepts.mp hs).2.resolve_left fun hk => ?_
          rw [hdone] at hk
          cases hk
      · exact TcpConnAsync.started_net _
    | false =>
      rw [(@startAsync_refused { cl with calls := n } call c hs).2] at hd'
      cases hd'
  | connectFailed => exact hd
  | wrote => exact hd
  | proceeds call op hc hp =>
    intro d hd'
    rw [hp.same.2.2.1] at hd'
    exact hd d hd'
  | timerExpire => exact hd
  | timerHandler i w u he hu =>
    intro d hd'
    obtain ⟨c, hc, hs⟩ := rpcCallTimeout_connAsync hd'
    exact hd.of_status hclose hc hd' (Or.inr (Or.inl hs))
  | asyncConn c d ce hc hd' =>
    intro d' heq
    obtain rfl := Option.some.inj heq
    exact hd.of_status hclose hc rfl (TcpConnAsync.step_status hd')
  | droppedConn => exact hd

/-- When the held connection is closed only between writes, every asynchronous call of the
run is accepted on a working connection only, and drops one that is not. -/
theorem deadConn_noticed
    (hclose : ∀ cl e cl', (machine setting).Takes es cl e cl' → ¬ ClosesSending cl cl')
    (ht : (machine setting).Takes es cl e cl') : NoticesDead cl e cl' := by
  have hd : Detects cl := by
    refine Machine.visits_of_inductive (M := machine setting) (I := Detects)
      (C := fun s e => ∀ t, s.step e = some t → ¬ ClosesSending s t) ?_
      (fun s e t hd hc hn => hd.step hn (hc t hn)) (fun s e t ht u hu => ?_) ht.visits
    · intro c hc
      simp [machine, fresh] at hc
    · obtain ⟨-, -, -, hn⟩ := id ht
      obtain rfl := Option.some.inj (hn.symm.trans hu)
      exact hclose s e t ht
  obtain ⟨-, -, -, hn⟩ := ht
  exact hd.noticesDead hn

/-- A request is written, the server closes, and the next call finds the connection closed. -/
def noticedRun : List Event :=
  [.callRPC false 1 1 [0] 0, .connected, .asyncConn (.wrote 0 33), .asyncConn (.writeDone 0),
    .asyncConn (.readFail 0 .eof), .callRPC false 1 1 [0] 0]

theorem noticedRun_drops :
    ∃ cl cl' r, (machine ⟨0, 0⟩).Takes noticedRun cl (.callRPC false 1 1 [0] 0) cl' ∧
      cl'.returned = cl.returned ++ [r] ∧ r.status ≠ .OK ∧ cl'.connAsync = none := by
  have htrace : ∀ p ∈ (machine ⟨0, 0⟩).trace (machine ⟨0, 0⟩).start noticedRun,
      ∀ c ∈ p.1.connAsync, c.send.status = .kSend →
        ∀ d ∈ p.2.2.connAsync, d.net.connStat = .kWorking := by
    decide +kernel
  have hrun : ((machine ⟨0, 0⟩).run (noticedRun.take 5)).any (fun cl =>
      (cl.connAsync.any fun c => decide (c.net.connStat ≠ .kWorking)) &&
        (cl.step (.callRPC false 1 1 [0] 0)).isSome) := by
    decide +kernel
  obtain ⟨cl, hcl, hd⟩ := (Option.any_eq_true _ _).mp hrun
  obtain ⟨hdead, hsome⟩ := (Bool.and_eq_true _ _).mp hd
  obtain ⟨c, hc, hdead⟩ := (Option.any_eq_true _ _).mp hdead
  obtain ⟨cl', hstep⟩ := Option.isSome_iff_exists.mp hsome
  have htakes : (machine ⟨0, 0⟩).Takes noticedRun cl (.callRPC false 1 1 [0] 0) cl' :=
    Machine.takes_last hcl hstep
  obtain ⟨r, hret, -, -, hdrop⟩ := @deadConn_noticed ⟨0, 0⟩ cl cl' _ noticedRun (by
    rintro s e t ht ⟨c, d, hc, -, hk, hd, hw⟩
    exact hw (htrace _ ht.mem_trace c hc hk d hd)) htakes _ c (.held 1 1 [0] 0 c hc)
  obtain ⟨hne, hnone⟩ := hdrop (of_decide_eq_true hdead)
  exact ⟨cl, cl', r, htakes, hret, hne, hnone⟩

/-- A write fails; its status stays, and the next call is accepted on the closed connection. -/
def failedWriteRun : List Event :=
  [.callRPC false 1 1 [0] 0, .connected, .asyncConn (.writeFail 0 .connectionReset),
    .callRPC false 1 1 [0] 0]

theorem failedWriteRun_accepts :
    ∃ cl cl' c, (machine ⟨0, 0⟩).Takes failedWriteRun cl (.callRPC false 1 1 [0] 0) cl' ∧
      cl.connAsync = some c ∧ c.net.connStat = .kClosed ∧
      cl'.returned.map (·.status) = [.OK, .OK] ∧ cl'.connAsync.isSome := by
  have hrun : ((machine ⟨0, 0⟩).run (failedWriteRun.take 3)).any (fun cl =>
      (cl.connAsync.any fun c => decide (c.net.connStat = .kClosed)) &&
        (cl.step (.callRPC false 1 1 [0] 0)).any fun cl' =>
          decide (cl'.returned.map (·.status) = [.OK, .OK] ∧ cl'.connAsync.isSome)) := by
    decide +kernel
  obtain ⟨cl, hcl, hd⟩ := (Option.any_eq_true _ _).mp hrun
  obtain ⟨hdead, hnext⟩ := (Bool.and_eq_true _ _).mp hd
  obtain ⟨c, hc, hdead⟩ := (Option.any_eq_true _ _).mp hdead
  obtain ⟨cl', hstep, hd'⟩ := (Option.any_eq_true _ _).mp hnext
  exact ⟨cl, cl', c, Machine.takes_last hcl hstep, hc, of_decide_eq_true hdead,
    of_decide_eq_true hd'⟩

end Calls

end Tzrpc.Client.RpcClientImpl
