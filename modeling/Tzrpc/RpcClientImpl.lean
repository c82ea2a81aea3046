import Tzrpc.ClientConnAsync
import Tzrpc.Machine
import Tzrpc.RpcMessage
import Tzrpc.SteadyTimer

/-!
# The client

`RpcClientImpl` with its two connections and its one call timer. A call holds
`call_mutex_` until it returns; while it is blocked in a socket operation, timer handlers
and the completions of asynchronous connections run.
-/
namespace Tzrpc.Client

/-- An `enum class : uint8_t`, whose first values are those of `RpcResponseStatus`. -/
structure RpcClientStatus where
  code : UInt8
  deriving DecidableEq, Repr

namespace RpcClientStatus

def OK : RpcClientStatus := ⟨0⟩
def NETWORK_CONNECT_ERROR : RpcClientStatus := ⟨11⟩
def NETWORK_SEND_ERROR : RpcClientStatus := ⟨12⟩
def NETWORK_RECV_ERROR : RpcClientStatus := ⟨13⟩
def RPC_CALL_TIMEOUT : RpcClientStatus := ⟨20⟩
def RECV_FORMAT_ERROR : RpcClientStatus := ⟨21⟩

end RpcClientStatus

/-- A call of `call_RPC`, numbered in the order they get `call_mutex_`. -/
structure Call where
  id : ℕ
  sync : Bool
  serviceId : UInt16
  opcode : UInt16
  payload : Bytes
  timeoutSec : UInt32
  deriving DecidableEq, Repr

/-- What the call in progress is blocked in. -/
inductive Blocked
  | connect
  | io (op : SyncOp)
  deriving DecidableEq, Repr

/-- A wait for `rpc_call_timeout`, with the call that armed it. -/
structure CallWait where
  call : ℕ
  sync : Bool
  sec : UInt32
  deriving DecidableEq, Repr

/-- A call that has returned: the message it received, if it got that far, and what it
assigned to `respload`, if it did. -/
structure Returned where
  call : Call
  status : RpcClientStatus
  response : Option Message
  respload : Option Bytes
  deriving DecidableEq, Repr

structure RpcClientImpl where
  setting : ClientSetting
  wasTimeout : Bool
  rpcCallTimer : SteadyTimer CallWait
  connSync : Option TcpConnSync
  connAsync : Option TcpConnAsync
  /-- Asynchronous connections that were reset but are kept alive by their operations. -/
  droppedAsync : List TcpConnAsync
  calling : Option (Call × Blocked)
  calls : ℕ
  returned : List Returned
  /-- Timer handlers that found no connection to close. -/
  nullDerefs : ℕ
  deriving DecidableEq, Repr

namespace RpcClientImpl

def fresh (setting : ClientSetting) : RpcClientImpl where
  setting := setting
  wasTimeout := false
  rpcCallTimer := SteadyTimer.empty
  connSync := none
  connAsync := none
  droppedAsync := []
  calling := none
  calls := 0
  returned := []
  nullDerefs := 0

/-- Armed with the call's timeout; a call without one leaves timer and flag alone. -/
def setRpcCallTimeout (cl : RpcClientImpl) (call : Call) : RpcClientImpl :=
  if call.timeoutSec = 0 then cl
  else
    let timer := if cl.rpcCallTimer.object.isSome then cl.rpcCallTimer.cancel
      else cl.rpcCallTimer.create
    { cl with
      wasTimeout := false
      rpcCallTimer := timer.expiresFromNow.asyncWait ⟨call.id, call.sync, call.timeoutSec⟩ }

/-- The callback of a wait. A null connection is only counted here. -/
def rpcCallTimeout (cl : RpcClientImpl) (wait : CallWait) : WaitCode → RpcClientImpl
  | .aborted => cl
  | .success =>
    let cl := { cl with wasTimeout := true }
    if wait.sync then
      match cl.connSync with
      | some c => { cl with connSync := some c.shutdownAndCloseSocket }
      | none => { cl with nullDerefs := cl.nullDerefs + 1 }
    else
      match cl.connAsync with
      | some c => { cl with connAsync := some c.shutdownAndCloseSocket }
      | none => { cl with nullDerefs := cl.nullDerefs + 1 }

def finish (cl : RpcClientImpl) (r : Returned) : RpcClientImpl :=
  { cl with calling := none, returned := cl.returned ++ [r] }

def failedStatus (cl : RpcClientImpl) (status : RpcClientStatus) : RpcClientStatus :=
  if cl.wasTimeout then .RPC_CALL_TIMEOUT else status

def requestMessage (call : Call) : Message :=
  .ofPayload (RpcRequestMessage.ofRequest call.serviceId call.opcode call.payload).netStr

def failure (cl : RpcClientImpl) (call : Call) (status : RpcClientStatus) : Returned :=
  ⟨call, cl.failedStatus status, none, none⟩

def checkResponse (call : Call) (msg : Message) : Returned :=
  match RpcResponseMessage.parse msg.payload with
  | none => ⟨call, .RECV_FORMAT_ERROR, some msg, none⟩
  | some res =>
    if res.header.magic ≠ kRpcHeaderMagic ∨ res.header.serviceId ≠ call.serviceId ∨
        res.header.opcode ≠ call.opcode then ⟨call, .RECV_FORMAT_ERROR, some msg, none⟩
    else if res.header.status ≠ .OK then ⟨call, ⟨res.header.status.code⟩, some msg, none⟩
    else ⟨call, .OK, some msg, some res.payload⟩

lemma checkResponse_call (call : Call) (msg : Message) : (checkResponse call msg).call = call := by
  unfold checkResponse
  split
  · rfl
  · split_ifs <;> rfl

lemma checkResponse_status {call : Call} {msg : Message} {m : RpcResponseMessage}
    (h : msg.payload = m.netStr) :
    (checkResponse call msg).status =
      if m.header.magic = kRpcHeaderMagic ∧ m.header.serviceId = call.serviceId ∧
          m.header.opcode = call.opcode then ⟨m.header.status.code⟩
      else .RECV_FORMAT_ERROR := by
  unfold checkResponse
  rw [h, RpcResponseMessage.parse_netStr]
  dsimp only
  split_ifs with hbad hgood hstatus hgood hgood
  · tauto
  · rfl
  · rfl
  · tauto
  · rw [not_not.mp hstatus]
    rfl
  · tauto

/-- The synchronous call from the outcome of `recv_net_message` on. -/
def afterRecv (cl : RpcClientImpl) (call : Call) : Outcome × TcpConnSync → RpcClientImpl
  | (.blocked op, c) => { cl with connSync := some c, calling := some (call, .io op) }
  | (.received msg, c) => { cl with connSync := some c }.finish (checkResponse call msg)
  | (_, _) => { cl with connSync := none }.finish (cl.failure call .NETWORK_RECV_ERROR)

/-- The synchronous call from the outcome of `send_net_message` on. -/
def afterSend (cl : RpcClientImpl) (call : Call) : Outcome × TcpConnSync → RpcClientImpl
  | (.blocked op, c) => { cl with connSync := some c, calling := some (call, .io op) }
  | (.sent, c) => cl.afterRecv call (c.doRead cl.setting)
  | (_, _) => { cl with connSync := none }.finish (cl.failure call .NETWORK_SEND_ERROR)

/-- The synchronous call from where it has a connection. -/
def startSync (cl : RpcClientImpl) (call : Call) (c : TcpConnSync) : RpcClientImpl :=
  let cl := cl.setRpcCallTimeout call
  cl.afterSend call (c.sendNetMessage cl.setting (requestMessage call))

/-- The asynchronous call from where it has a connection. -/
def startAsync (cl : RpcClientImpl) (call : Call) (c : TcpConnAsync) : RpcClientImpl :=
  let cl := cl.setRpcCallTimeout call
  let res := c.sendNetMessage cl.setting (requestMessage call)
  if res.1 then { cl with connAsync := some res.2 }.finish ⟨call, .OK, none, none⟩
  else
    { cl with connAsync := none, droppedAsync := cl.droppedAsync ++ [res.2] }.finish
      (cl.failure call .NETWORK_SEND_ERROR)

/-- `call_RPC` with `call_mutex_` held. -/
def callRPC (cl : RpcClientImpl) (call : Call) : RpcClientImpl :=
  let cl := { cl with calls := cl.calls + 1 }
  if call.sync then
    match cl.connSync with
    | some c => cl.startSync call c
    | none => { cl with calling := some (call, .connect) }
  else
    match cl.connAsync with
    | some c => cl.startAsync call c
    | none => { cl with calling := some (call, .connect) }

def connected (cl : RpcClientImpl) (call : Call) : RpcClientImpl :=
  if call.sync then cl.startSync call .fresh
  else cl.startAsync call (.started cl.setting)

inductive Event
  | callRPC (sync : Bool) (serviceId opcode : UInt16) (payload : Bytes) (timeoutSec : UInt32)
  | connected
  | connectFailed
  | wrote (n : ℕ)
  | writeDone
  | readDone (bytes : Bytes)
  | ioFailed (ec : ErrorCode)
  | timerExpire
  | timerHandler (i : ℕ)
  | asyncConn (e : TcpConnAsync.Event)
  | droppedConn (i : ℕ) (e : TcpConnAsync.Event)
  deriving DecidableEq, Repr

def step (cl : RpcClientImpl) : Event → Option RpcClientImpl
  | .callRPC sync serviceId opcode payload timeoutSec =>
    match cl.calling with
    | some _ => none
    | none => some (cl.callRPC ⟨cl.calls, sync, serviceId, opcode, payload, timeoutSec⟩)
  | .connected =>
    match cl.calling with
    | some (call, .connect) => some (cl.connected call)
    | _ => none
  | .connectFailed =>
    match cl.calling with
    | some (call, .connect) => some (cl.finish ⟨call, .NETWORK_CONNECT_ERROR, none, none⟩)
    | _ => none
  | .wrote n =>
    match cl.calling, cl.connSync with
    | some (call, .io (.write size sent)), some c =>
      if sent + n ≤ size ∧ c.net.connStat ≠ .kClosed then
        some { cl with calling := some (call, .io (.write size (sent + n))) }
      else none
    | _, _ => none
  | .writeDone =>
    match cl.calling, cl.connSync with
    | some (call, .io (.write size sent)), some c =>
      if sent = size then some (cl.afterSend call c.writeLoop) else none
    | _, _ => none
  | .readDone bytes =>
    match cl.calling, cl.connSync with
    | some (call, .io (.read kind atLeast)), some c =>
      if atLeast ≤ bytes.length ∧ bytes.length ≤ kFixedIoBufferSize.toNat then
        some (cl.afterRecv call (c.readDone cl.setting kind bytes))
      else none
    | _, _ => none
  | .ioFailed ec =>
    match cl.calling, cl.connSync with
    | some (call, .io (.write _ _)), some c =>
      some (cl.afterSend call (.failed, c.handleSocketEc ec))
    | some (call, .io (.read _ _)), some c =>
      some (cl.afterRecv call (.failed, c.handleSocketEc ec))
    | _, _ => none
  | .timerExpire =>
    if cl.rpcCallTimer.pending = [] then none
    else some { cl with rpcCallTimer := cl.rpcCallTimer.expire }
  | .timerHandler i =>
    (cl.rpcCallTimer.take i).map fun h =>
      { cl with rpcCallTimer := h.2 }.rpcCallTimeout h.1.wait h.1.code
  | .asyncConn e =>
    cl.connAsync.bind fun c =>
      (c.step cl.setting e).map fun d => { cl with connAsync := some d }
  | .droppedConn i e =>
    cl.droppedAsync[i]?.bind fun c =>
      (c.step cl.setting e).map fun d => { cl with droppedAsync := cl.droppedAsync.set i d }

def machine (setting : ClientSetting) : Machine RpcClientImpl Event := ⟨fresh setting, step⟩

/-- How a synchronous call goes on from the connection's outcome. -/
inductive Proceeds (cl : RpcClientImpl) (call : Call) : RpcClientImpl → Prop
  | blocked (op : SyncOp) (c : TcpConnSync) :
    Proceeds cl call { cl with connSync := some c, calling := some (call, .io op) }
  | responded (msg : Message) (c : TcpConnSync) :
    Proceeds cl call ({ cl with connSync := some c }.finish (checkResponse call msg))
  | failed (status : RpcClientStatus)
    (h : status = .NETWORK_SEND_ERROR ∨ status = .NETWORK_RECV_ERROR) :
    Proceeds cl call ({ cl with connSync := none }.finish (cl.failure call status))

lemma afterRecv_proceeds (cl : RpcClientImpl) (call : Call) (r : Outcome × TcpConnSync) :
    Proceeds cl call (cl.afterRecv call r) := by
  obtain ⟨outcome, c⟩ := r
  cases outcome with
  | blocked op => exact .blocked op c
  | received msg => exact .responded msg c
  | sent => exact .failed _ (Or.inr rfl)
  | failed => exact .failed _ (Or.inr rfl)

lemma afterSend_proceeds (cl : RpcClientImpl) (call : Call) (r : Outcome × TcpConnSync) :
    Proceeds cl call (cl.afterSend call r) := by
  obtain ⟨outcome, c⟩ := r
  cases outcome with
  | blocked op => exact .blocked op c
  | sent => exact afterRecv_proceeds cl call _
  | received msg => exact .failed _ (Or.inl rfl)
  | failed => exact .failed _ (Or.inl rfl)

def Holds (cl : RpcClientImpl) : Bool → Prop
  | true => cl.connSync.isSome
  | false => cl.connAsync.isSome

/-- The event lets `call` go past the connection check, in state `cl'`. -/
inductive Begins (cl : RpcClientImpl) : Event → Call → RpcClientImpl → Prop
  | held (sync : Bool) (serviceId opcode : UInt16) (payload : Bytes) (timeoutSec : UInt32)
    (idle : cl.calling = none) (conn : cl.Holds sync) :
    Begins cl (.callRPC sync serviceId opcode payload timeoutSec)
      ⟨cl.calls, sync, serviceId, opcode, payload, timeoutSec⟩ { cl with calls := cl.calls + 1 }
  | connected (call : Call) (h : cl.calling = some (call, .connect)) :
    Begins cl .connected call cl

inductive Transition (cl : RpcClientImpl) (e : Event) : RpcClientImpl → Prop
  | connecting (call : Call) (idle : cl.calling = none) (id : call.id = cl.calls) :
    Transition cl e { cl with calls := cl.calls + 1, calling := some (call, .connect) }
  | startSync {cl₁ cl' : RpcClientImpl} (call : Call) (sync : call.sync = true)
    (begins : cl.Begins e call cl₁) (h : Proceeds (cl₁.setRpcCallTimeout call) call cl') :
    Transition cl e cl'
  | startAsync {cl₁ : RpcClientImpl} (call : Call) (c : TcpConnAsync) (sync : call.sync = false)
    (begins : cl.Begins e call cl₁) (conn : cl.connAsync = some c ∨ c = .started cl.setting) :
    Transition cl e (cl₁.startAsync call c)
  | connectFailed (call : Call) (h : cl.calling = some (call, .connect)) :
    Transition cl e (cl.finish ⟨call, .NETWORK_CONNECT_ERROR, none, none⟩)
  | wrote (call : Call) (op op' : SyncOp) (h : cl.calling = some (call, .io op)) :
    Transition cl e { cl with calling := some (call, .io op') }
  | proceeds {cl' : RpcClientImpl} (call : Call) (op : SyncOp)
    (h : cl.calling = some (call, .io op)) (hp : Proceeds cl call cl') : Transition cl e cl'
  | timerExpire (he : e = .timerExpire) :
    Transition cl e { cl with rpcCallTimer := cl.rpcCallTimer.expire }
  | timerHandler (i : ℕ) (w : Completion CallWait) (u : SteadyTimer CallWait)
    (he : e = .timerHandler i) (h : cl.rpcCallTimer.take i = some (w, u)) :
    Transition cl e ({ cl with rpcCallTimer := u }.rpcCallTimeout w.wait w.code)
  | asyncConn (c d : TcpConnAsync) (ce : TcpConnAsync.Event) (h : cl.connAsync = some c)
    (hd : c.step cl.setting ce = some d) : Transition cl e { cl with connAsync := some d }
  | droppedConn (dropped : List TcpConnAsync) :
    Transition cl e { cl with droppedAsync := dropped }

lemma startSync_proceeds (cl : RpcClientImpl) (call : Call) (c : TcpConnSync) :
    Proceeds (cl.setRpcCallTimeout call) call (cl.startSync call c) :=
  afterSend_proceeds _ call _

section CallRPC

variable {cl : RpcClientImpl} {call : Call}

lemma callRPC_sync {c : TcpConnSync} (hs : call.sync = true) (hc : cl.connSync = some c) :
    cl.callRPC call = { cl with calls := cl.calls + 1 }.startSync call c := by
  simp only [callRPC, hs, ↓reduceIte]
  rw [hc]

lemma callRPC_async {c : TcpConnAsync} (hs : call.sync = false) (hc : cl.connAsync = some c) :
    cl.callRPC call = { cl with calls := cl.calls + 1 }.startAsync call c := by
  simp only [callRPC, hs, Bool.false_eq_true, ↓reduceIte]
  rw [hc]

lemma callRPC_connecting {sync : Bool} (hs : call.sync = sync) (hc : ¬ cl.Holds sync) :
    cl.callRPC call = { cl with calls := cl.calls + 1, calling := some (call, .connect) } := by
  cases sync <;> simp only [callRPC, hs, Bool.false_eq_true, ↓reduceIte]
  · rw [Option.not_isSome_iff_eq_none.mp hc]
  · rw [Option.not_isSome_iff_eq_none.mp hc]

end CallRPC

def BlockingIo : Event → Prop
  | .wrote _ | .writeDone | .readDone _ | .ioFailed _ => True
  | _ => False

/-- Such a completion lets the blocked call go on, or only counts bytes. -/
lemma step_blockingIo {cl cl' : RpcClientImpl} {e : Event}
    (h : cl.step e = some cl') (he : BlockingIo e) : ∃ call op, cl.calling = some (call, .io op) ∧
      (Proceeds cl call cl' ∨ ∃ op', cl' = { cl with calling := some (call, .io op') }) := by
  cases e with
  | wrote n =>
    simp only [step] at h
    split at h
    · rename_i call size sent c hcall hc
      split_ifs at h
      exact ⟨call, _, hcall, Or.inr ⟨_, (Option.some.inj h).symm⟩⟩
    · cases h
  | writeDone =>
    simp only [step] at h
    split at h
    · rename_i call size sent c hcall hc
      split_ifs at h
      obtain rfl := Option.some.inj h
      exact ⟨call, _, hcall, Or.inl (afterSend_proceeds cl call _)⟩
    · cases h
  | readDone bytes =>
    simp only [step] at h
    split at h
    · rename_i call kind atLeast c hcall hc
      split_ifs at h
      obtain rfl := Option.some.inj h
      exact ⟨call, _, hcall, Or.inl (afterRecv_proceeds cl call _)⟩
    · cases h
  | ioFailed ec =>
    simp only [step] at h
    split at h
    · rename_i call size sent c hcall hc
      obtain rfl := Option.some.inj h
      exact ⟨call, _, hcall, Or.inl (afterSend_proceeds cl call _)⟩
    · rename_i call kind atLeast c hcall hc
      obtain rfl := Option.some.inj h
      exact ⟨call, _, hcall, Or.inl (afterRecv_proceeds cl call _)⟩
    · cases h
  | _ => exact he.elim

theorem step_transition {cl cl' : RpcClientImpl} {e : Event} (h : cl.step e = some cl') :
    Transition cl e cl' := by
  cases e with
  | callRPC sync serviceId opcode payload timeoutSec =>
    simp only [step] at h
    split at h
    · cases h
    rename_i hidle
    obtain rfl := Option.some.inj h
    cases sync with
    | true =>
      rcases hc : cl.connSync with _ | c
      · rw [callRPC_connecting rfl (by simp [Holds, hc])]
        exact .connecting _ hidle rfl
      · rw [callRPC_sync rfl hc]
        exact .startSync _ rfl (.held true _ _ _ _ hidle (by simp [Holds, hc]))
          (startSync_proceeds _ _ c)
    | false =>
      rcases hc : cl.connAsync with _ | c
      · rw [callRPC_connecting rfl (by simp [Holds, hc])]
        exact .connecting _ hidle rfl
      · rw [callRPC_async rfl hc]
        exact .startAsync _ c rfl (.held false _ _ _ _ hidle (by simp [Holds, hc])) (Or.inl hc)
  | connected =>
    simp only [step] at h
    split at h
    · rename_i call hcall
      obtain rfl := Option.some.inj h
      unfold RpcClientImpl.connected
      split_ifs with hs
      · exact .startSync call hs (.connected call hcall) (startSync_proceeds cl call _)
      · exact .startAsync call _ (by simpa using hs) (.connected call hcall) (Or.inr rfl)
    · cases h
  | connectFailed =>
    simp only [step] at h
    split at h
    · rename_i call hcall
      obtain rfl := Option.some.inj h
      exact .connectFailed call hcall
    · cases h
  | wrote | writeDone | readDone | ioFailed =>
    obtain ⟨call, op, hc, hp | ⟨op', rfl⟩⟩ := step_blockingIo h trivial
    · exact .proceeds call op hc hp
    · exact .wrote call op op' hc
  | timerExpire =>
    simp only [step] at h
    split_ifs at h
    obtain rfl := Option.some.inj h
    exact .timerExpire rfl
  | timerHandler i =>
    simp only [step] at h
    obtain ⟨⟨w, u⟩, hw, rfl⟩ := Option.map_eq_some_iff.mp h
    exact .timerHandler i w u rfl hw
  | asyncConn ce =>
    simp only [step] at h
    obtain ⟨c, hc, h⟩ := Option.bind_eq_some_iff.mp h
    obtain ⟨d, hd, rfl⟩ := Option.map_eq_some_iff.mp h
    exact .asyncConn c d ce hc hd
  | droppedConn i ce =>
    simp only [step] at h
    obtain ⟨c, hc, h⟩ := Option.bind_eq_some_iff.mp h
    obtain ⟨d, hd, rfl⟩ := Option.map_eq_some_iff.mp h
    exact .droppedConn _

end RpcClientImpl

end Tzrpc.Client
