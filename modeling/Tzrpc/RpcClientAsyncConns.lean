import Tzrpc.RpcClientAsyncCall

/-!
# Steps of the client and its asynchronous connections

What each step does to the connection in `conn_async_`, to those that were reset, and to
the asynchronous calls that have returned `OK`.
-/
namespace Tzrpc.Client.RpcClientImpl

def okCalls (cl : RpcClientImpl) : List Returned :=
  cl.returned.filter fun r => !r.call.sync && decide (r.status = .OK)

/-- Only synchronous calls block in I/O, and an asynchronous one connects only when there is
no connection. -/
structure Serial (cl : RpcClientImpl) : Prop where
  io : ∀ call op, cl.calling = some (call, .io op) → call.sync = true
  connect : ∀ call, cl.calling = some (call, .connect) → call.sync = false → cl.connAsync = none

structure SameAsync (cl cl' : RpcClientImpl) : Prop where
  setting : cl'.setting = cl.setting
  conn : cl'.connAsync = cl.connAsync
  dropped : cl'.droppedAsync = cl.droppedAsync
  ok : cl'.okCalls = cl.okCalls

section Same

variable {cl cl' cl'' : RpcClientImpl} {call : Call}

lemma SameAsync.trans (h : SameAsync cl cl') (h' : SameAsync cl' cl'') : SameAsync cl cl'' :=
  ⟨h'.setting.trans h.setting, h'.conn.trans h.conn, h'.dropped.trans h.dropped, h'.ok.trans h.ok⟩

@[simp] lemma setRpcCallTimeout_droppedAsync :
    (cl.setRpcCallTimeout call).droppedAsync = cl.droppedAsync := by
  unfold setRpcCallTimeout
  split_ifs <;> rfl

lemma setRpcCallTimeout_sameAsync (cl : RpcClientImpl) (call : Call) :
    SameAsync cl (cl.setRpcCallTimeout call) :=
  ⟨by simp, by simp, by simp, by simp [okCalls]⟩

lemma finish_sameAsync {r : Returned} (h : r.call.sync = true ∨ r.status ≠ .OK) :
    SameAsync cl (cl.finish r) := by
  refine ⟨rfl, rfl, rfl, ?_⟩
  rw [okCalls, okCalls, finish, List.filter_append]
  rcases h with h | h <;> simp [h]

lemma Proceeds.sameAsync (h : Proceeds cl call cl') (hs : call.sync = true) : SameAsync cl cl' := by
  cases h with
  | blocked op c => exact ⟨rfl, rfl, rfl, rfl⟩
  | responded msg c =>
    exact SameAsync.trans
      (show SameAsync cl { cl with connSync := some c } from ⟨rfl, rfl, rfl, rfl⟩)
      (finish_sameAsync (Or.inl ((congrArg Call.sync (checkResponse_call call msg)).trans hs)))
  | failed status h =>
    exact SameAsync.trans (show SameAsync cl { cl with connSync := none } from ⟨rfl, rfl, rfl, rfl⟩)
      (finish_sameAsync (Or.inl hs))

end Same

structure Elsewhere (cl : RpcClientImpl) (e : Event) : Prop where
  sends : ∀ call c, ¬ SendsOn cl e call c
  conn : ∀ ce, e ≠ .asyncConn ce
  dropped : ∀ i ce, e ≠ .droppedConn i ce

def Aside : Event → Prop
  | .callRPC sync _ _ _ _ => sync = true
  | .connected | .asyncConn _ | .droppedConn _ _ => False
  | _ => True

lemma Elsewhere.of_aside {cl : RpcClientImpl} {e : Event} (h : Aside e) : Elsewhere cl e := by
  refine ⟨fun call c hs => ?_, fun ce he => ?_, fun i ce he => ?_⟩
  · cases hs with
    | held => cases h
    | opened => exact h
  · rw [he] at h
    exact h
  · rw [he] at h
    exact h

/-- What a step does to the asynchronous connections. -/
inductive AsyncEffect (cl : RpcClientImpl) (e : Event) (cl' : RpcClientImpl) : Prop
  | same (he : Elsewhere cl e) (h : SameAsync cl cl')
  | closed (c : TcpConnAsync) (he : ∃ i, e = .timerHandler i) (conn : cl.connAsync = some c)
    (h : SameAsync { cl with connAsync := some c.shutdownAndCloseSocket } cl')
  | completed (c d : TcpConnAsync) (ce : TcpConnAsync.Event) (he : e = .asyncConn ce)
    (conn : cl.connAsync = some c) (step : c.step cl.setting ce = some d)
    (h : cl' = { cl with connAsync := some d })
  | droppedCompleted (i : ℕ) (c d : TcpConnAsync) (ce : TcpConnAsync.Event)
    (he : e = .droppedConn i ce) (conn : cl.droppedAsync[i]? = some c)
    (step : c.step cl.setting ce = some d)
    (h : cl' = { cl with droppedAsync := cl.droppedAsync.set i d })
  | sent (call : Call) (c : TcpConnAsync) (sends : SendsOn cl e call c) (n : ℕ)
    (h : cl' = { cl with calls := n }.startAsync call c)

section Effect

variable {cl cl' : RpcClientImpl} {e : Event} {setting : ClientSetting}

lemma serial_of_idle (h : cl.calling = none) : Serial cl :=
  ⟨fun c op hc => by simp [h] at hc, fun c hc => by simp [h] at hc⟩

lemma serial_of_io {call : Call} {op : SyncOp} (h : cl.calling = some (call, .io op))
    (hs : call.sync = true) : Serial cl := by
  refine ⟨fun c op' hc => ?_, fun c hc => ?_⟩
  · rw [h] at hc
    cases hc
    exact hs
  · rw [h] at hc
    cases hc

lemma serial_of_connect {call : Call} (h : cl.calling = some (call, .connect))
    (hs : call.sync = false → cl.connAsync = none) : Serial cl := by
  refine ⟨fun c op hc => ?_, fun c hc => ?_⟩
  · rw [h] at hc
    cases hc
  · rw [h] at hc
    cases hc
    exact hs

lemma Proceeds.serial {call : Call} (h : Proceeds cl call cl') (hs : call.sync = true) :
    Serial cl' := by
  cases h with
  | blocked op c => exact serial_of_io rfl hs
  | responded msg c => exact serial_of_idle rfl
  | failed status h => exact serial_of_idle rfl

lemma startSync_effect {n : ℕ} {call : Call} {c : TcpConnSync} (hs : call.sync = true) :
    SameAsync cl ({ cl with calls := n }.startSync call c) ∧
      Serial ({ cl with calls := n }.startSync call c) := by
  have hp := startSync_proceeds { cl with calls := n } call c
  refine ⟨SameAsync.trans (show SameAsync cl { cl with calls := n } from ⟨rfl, rfl, rfl, rfl⟩) ?_,
    hp.serial hs⟩
  exact (setRpcCallTimeout_sameAsync _ call).trans (hp.sameAsync hs)

lemma rpcCallTimeout_effect (w : CallWait) (code : WaitCode) :
    SameAsync cl (cl.rpcCallTimeout w code) ∨ ∃ c, cl.connAsync = some c ∧
      SameAsync { cl with connAsync := some c.shutdownAndCloseSocket }
        (cl.rpcCallTimeout w code) := by
  cases code with
  | aborted => exact Or.inl ⟨rfl, rfl, rfl, rfl⟩
  | success =>
    unfold rpcCallTimeout
    dsimp only
    split_ifs
    · split <;> exact Or.inl ⟨rfl, rfl, rfl, rfl⟩
    · split
      · rename_i c hc
        exact Or.inr ⟨c, hc, rfl, rfl, rfl, rfl⟩
      · exact Or.inl ⟨rfl, rfl, rfl, rfl⟩

lemma Serial.of_eq (h : Serial cl) (hcalling : cl'.calling = cl.calling)
    (hconn : cl.connAsync = none → cl'.connAsync = none) : Serial cl' :=
  ⟨fun c op hc => h.io c op (hcalling ▸ hc),
    fun c hc hs => hconn (h.connect c (hcalling ▸ hc) hs)⟩

lemma callRPC_asyncEffect (sync : Bool) (serviceId opcode : UInt16) (payload : Bytes)
    (timeoutSec : UInt32) :
    AsyncEffect cl (.callRPC sync serviceId opcode payload timeoutSec)
        (cl.callRPC ⟨cl.calls, sync, serviceId, opcode, payload, timeoutSec⟩) ∧
      Serial (cl.callRPC ⟨cl.calls, sync, serviceId, opcode, payload, timeoutSec⟩) := by
  cases sync with
  | true =>
    rcases hc : cl.connSync with _ | c
    · rw [callRPC_connecting rfl (by simp [Holds, hc])]
      exact ⟨.same (.of_aside rfl) ⟨rfl, rfl, rfl, rfl⟩, serial_of_connect rfl (by simp)⟩
    · rw [callRPC_sync rfl hc]
      exact ⟨.same (.of_aside rfl) (startSync_effect rfl).1, (startSync_effect rfl).2⟩
  | false =>
    rcases hc : cl.connAsync with _ | c
    · rw [callRPC_connecting rfl (by simp [Holds, hc])]
      refine ⟨.same ⟨fun call c h => ?_, by simp, by simp⟩ ⟨rfl, rfl, rfl, rfl⟩,
        serial_of_connect rfl fun _ => hc⟩
      cases h with
      | held _ _ _ _ _ conn => simp [hc] at conn
    · rw [callRPC_async rfl hc]
      exact ⟨.sent _ c (.held _ _ _ _ c hc) _ rfl, serial_of_idle (startAsync_calling c)⟩

lemma timerHandler_asyncEffect {i : ℕ} (hserial : Serial cl)
    (h : cl.step (.timerHandler i) = some cl') :
    AsyncEffect cl (.timerHandler i) cl' ∧ Serial cl' := by
  simp only [RpcClientImpl.step] at h
  obtain ⟨⟨w, u⟩, hw, rfl⟩ := Option.map_eq_some_iff.mp h
  have hcalling := (@rpcCallTimeout_same { cl with rpcCallTimer := u } w.wait w.code).2.1
  rcases @rpcCallTimeout_effect { cl with rpcCallTimer := u } w.wait w.code with hsame |
    ⟨c, hc, hsame⟩
  · have htimer : SameAsync cl { cl with rpcCallTimer := u } := ⟨rfl, rfl, rfl, rfl⟩
    exact ⟨.same (.of_aside trivial) (htimer.trans hsame),
      hserial.of_eq hcalling fun hn => hsame.conn.trans hn⟩
  · refine ⟨.closed c ⟨i, rfl⟩ hc ⟨hsame.setting, hsame.conn, hsame.dropped, hsame.ok⟩,
      hserial.of_eq hcalling fun hn => ?_⟩
    rw [show cl.connAsync = some c from hc] at hn
    cases hn

theorem step_asyncEffect (hserial : Serial cl) (h : cl.step e = some cl') :
    AsyncEffect cl e cl' ∧ Serial cl' := by
  cases e with
  | callRPC sync serviceId opcode payload timeoutSec =>
    simp only [RpcClientImpl.step] at h
    split at h
    · cases h
    obtain rfl := Option.some.inj h
    exact callRPC_asyncEffect sync serviceId opcode payload timeoutSec
  | connected =>
    simp only [RpcClientImpl.step] at h
    split at h
    · rename_i call hcall
      obtain rfl := Option.some.inj h
      unfold RpcClientImpl.connected
      split_ifs with hs
      · obtain ⟨hsame, hserial'⟩ := @startSync_effect cl cl.calls call .fresh hs
        refine ⟨.same ⟨fun call' c h => ?_, by simp, by simp⟩ hsame, hserial'⟩
        cases h with
        | opened call' hcall' async =>
          obtain rfl : call = call' := by simpa [hcall] using hcall'
          simp [hs] at async
      · exact ⟨.sent call _ (.opened call hcall (by simpa using hs)) cl.calls rfl,
          serial_of_idle (startAsync_calling _)⟩
    · cases h
  | connectFailed =>
    simp only [RpcClientImpl.step] at h
    split at h
    · rename_i call hcall
      obtain rfl := Option.some.inj h
      have hne : RpcClientStatus.NETWORK_CONNECT_ERROR ≠ .OK := by decide
      exact ⟨.same (.of_aside trivial) (finish_sameAsync (Or.inr hne)), serial_of_idle rfl⟩
    · cases h
  | wrote | writeDone | readDone | ioFailed =>
    obtain ⟨call, op, hc, hp | ⟨op', rfl⟩⟩ := step_blockingIo h trivial
    · have hs := hserial.io call op hc
      exact ⟨.same (.of_aside trivial) (hp.sameAsync hs), hp.serial hs⟩
    · exact ⟨.same (.of_aside trivial) ⟨rfl, rfl, rfl, rfl⟩,
        serial_of_io rfl (hserial.io call op hc)⟩
  | timerExpire =>
    simp only [RpcClientImpl.step] at h
    split_ifs at h
    obtain rfl := Option.some.inj h
    exact ⟨.same (.of_aside trivial) ⟨rfl, rfl, rfl, rfl⟩, hserial.of_eq rfl id⟩
  | timerHandler i => exact timerHandler_asyncEffect hserial h
  | asyncConn ce =>
    simp only [RpcClientImpl.step] at h
    obtain ⟨c, hc, h⟩ := Option.bind_eq_some_iff.mp h
    obtain ⟨d, hd, rfl⟩ := Option.map_eq_some_iff.mp h
    refine ⟨.completed c d ce rfl hc hd rfl, hserial.of_eq rfl fun hn => ?_⟩
    rw [hc] at hn
    cases hn
  | droppedConn i ce =>
    simp only [RpcClientImpl.step] at h
    obtain ⟨c, hc, h⟩ := Option.bind_eq_some_iff.mp h
    obtain ⟨d, hd, rfl⟩ := Option.map_eq_some_iff.mp h
    exact ⟨.droppedCompleted i c d ce rfl hc hd rfl, hserial.of_eq rfl id⟩

lemma startAsync_accepts {call : Call} {c : TcpConnAsync} (hs : call.sync = false)
    (h : (c.sendNetMessage cl.setting (requestMessage call)).1 = true) :
    (cl.startAsync call c).setting = cl.setting ∧
      (cl.startAsync call c).connAsync =
        some (c.sendNetMessage cl.setting (requestMessage call)).2 ∧
      (cl.startAsync call c).droppedAsync = cl.droppedAsync ∧
      (cl.startAsync call c).okCalls = cl.okCalls ++ [⟨call, .OK, none, none⟩] := by
  simp [startAsync, h, finish, okCalls, hs]

lemma startAsync_drops {call : Call} {c : TcpConnAsync}
    (h : (c.sendNetMessage cl.setting (requestMessage call)).1 = false) :
    (cl.startAsync call c).setting = cl.setting ∧ (cl.startAsync call c).connAsync = none ∧
      (cl.startAsync call c).droppedAsync =
        cl.droppedAsync ++ [(c.sendNetMessage cl.setting (requestMessage call)).2] ∧
      (cl.startAsync call c).okCalls = cl.okCalls := by
  have hne := failedStatus_ne_ok (cl.setRpcCallTimeout call)
  simp [startAsync, h, finish, okCalls, failure, hne]

lemma startAsync_setting {call : Call} {c : TcpConnAsync} (hs : call.sync = false) :
    (cl.startAsync call c).setting = cl.setting := by
  cases h : (c.sendNetMessage cl.setting (requestMessage call)).1 with
  | true => exact (startAsync_accepts hs h).1
  | false => exact (startAsync_drops h).1

lemma SendsOn.async {call : Call} {c : TcpConnAsync} (h : SendsOn cl e call c) :
    call.sync = false := by
  cases h with
  | held => rfl
  | opened call hc async => exact async

lemma AsyncEffect.setting_eq (h : AsyncEffect cl e cl') : cl'.setting = cl.setting := by
  cases h with
  | same he h => exact h.setting
  | closed c he conn h => exact h.setting
  | completed c d ce he conn step h => exact h ▸ rfl
  | droppedCompleted i c d ce he conn step h => exact h ▸ rfl
  | sent call c sends n h => exact h ▸ startAsync_setting sends.async

end Effect

end Tzrpc.Client.RpcClientImpl
