import Tzrpc.Buffer
import Tzrpc.RpcMessage

/-!
# Requests on the server

One `RpcInstance` is built from each received frame. The dispatcher validates it and
either rejects it or hands it to the executor of its service, whose worker runs
`XtraTaskService` on it. Handlers are functions to the list of `reply_rpc_message` and
`reject` calls they make, in order.
-/
namespace Tzrpc

inductive Answer
  | reply (msg : Bytes)
  | reject (status : RpcResponseStatus)
  deriving DecidableEq, Repr

structure RpcInstance where
  /-- The identity of the object. -/
  id : ℕ
  /-- The connection `full_socket_` refers to. -/
  fullSocket : ℕ
  request : Buffer
  rpcRequestMessage : RpcRequestMessage
  msgSize : Int32
  serviceId : UInt16
  opcode : UInt16
  deriving DecidableEq, Repr

namespace RpcInstance

/-- `RpcInstance(payload, socket, payload.size())`. -/
def ofPayload (id fullSocket : ℕ) (payload : Bytes) : RpcInstance where
  id := id
  fullSocket := fullSocket
  request := ⟨payload⟩
  rpcRequestMessage := RpcRequestMessage.empty
  msgSize := Int32.ofNat payload.length
  serviceId := -1
  opcode := -1

def validateRequest (inst : RpcInstance) : Bool × RpcInstance :=
  if inst.request.getLength.toNat < RpcRequestHeader.size then (false, inst)
  else
    let head := inst.request.consume (UInt32.ofNat RpcRequestHeader.size)
    let header := RpcRequestHeader.unwire (head.1.getD [])
    let inst := { inst with request := head.2 }
    if header.magic ≠ kRpcHeaderMagic ∨ header.version ≠ kRpcHeaderVersion then (false, inst)
    else
      let inst := { inst with serviceId := header.serviceId, opcode := header.opcode }
      let body := inst.request.consume
        (inst.msgSize.toUInt32 - UInt32.ofNat RpcRequestHeader.size)
      let msg := body.1.getD []
      let inst := { inst with request := body.2 }
      if msg = [] then (false, inst)
      else (true, { inst with rpcRequestMessage := ⟨header, msg⟩ })

def replyRpcMessage (inst : RpcInstance) (msg : Bytes) : Message :=
  .ofPayload (RpcResponseMessage.ofReply inst.serviceId inst.opcode msg).netStr

def rejectMessage (status : RpcResponseStatus) : Message :=
  .ofPayload (RpcResponseMessage.ofStatus status).netStr

def answerMessage (inst : RpcInstance) : Answer → Message
  | .reply msg => inst.replyRpcMessage msg
  | .reject status => rejectMessage status

lemma validateRequest_same (inst : RpcInstance) :
    (inst.validateRequest).2.id = inst.id ∧
      (inst.validateRequest).2.fullSocket = inst.fullSocket := by
  unfold validateRequest
  dsimp only
  split_ifs <;> exact ⟨rfl, rfl⟩

end RpcInstance

def text (s : String) : Bytes := s.toUTF8.data.toList

namespace XtraTask

def CMD_READ : UInt16 := 1
def CMD_WRITE : UInt16 := 2

/-- `XtraReadOps::Request` with the contents of its sub-requests. -/
structure ReadRequest where
  ping : Option Bytes
  gets : Option Bytes
  echo : Option Bytes
  timeout : Option Int32
  deriving DecidableEq, Repr

structure ReadResponse where
  code : Int32
  msg : Bytes
  ping : Option Bytes
  gets : Option Bytes
  echo : Option Bytes
  timeout : Option Bytes
  deriving DecidableEq, Repr

def ReadResponse.ok : ReadResponse := ⟨0, text "OK", none, none, none, none⟩

end XtraTask

/-- `roo::ProtoBuf`, which is not part of the repository. -/
structure ProtoBuf where
  unmarshallingFromString : Bytes → Option XtraTask.ReadRequest
  marshallingToString : XtraTask.ReadResponse → Bytes

namespace XtraTaskService

open XtraTask

/-- The `do { } while (0)` of `read_ops_impl`: the response to send, or `none` where it
rejects the request and returns. -/
def readResponse (pb : ProtoBuf) (payload : Bytes) : Option ReadResponse :=
  match pb.unmarshallingFromString payload with
  | none => some { ReadResponse.ok with code := -1, msg := text "参数错误" }
  | some request =>
    if request.ping.isSome then some { ReadResponse.ok with ping := some (text "[[[pong]]]") }
    else if request.gets.isSome then some { ReadResponse.ok with gets := some (text "[[[pong]]]") }
    else
      match request.echo, request.timeout with
      | some msg, _ => some { ReadResponse.ok with echo := some (text "echo:" ++ msg) }
      | none, some _ =>
        some { ReadResponse.ok with timeout := some (text "you should not see this.") }
      | none, none => none

def readOpsImpl (pb : ProtoBuf) (inst : RpcInstance) : List Answer :=
  if inst.rpcRequestMessage.header.opcode ≠ CMD_READ then [.reject .INVALID_REQUEST]
  else
    match readResponse pb inst.rpcRequestMessage.payload with
    | none => [.reject .INVALID_REQUEST]
    | some response => [.reply (pb.marshallingToString response)]

def writeOpsImpl (_inst : RpcInstance) : List Answer := [.reply (text "nicol_write_reply")]

def handleRPC (pb : ProtoBuf) (inst : RpcInstance) : List Answer :=
  if inst.opcode = CMD_READ then readOpsImpl pb inst
  else if inst.opcode = CMD_WRITE then writeOpsImpl inst
  else [.reject .INVALID_REQUEST]

lemma mem_handleRPC_reject {pb : ProtoBuf} {inst : RpcInstance} {status : RpcResponseStatus}
    (h : .reject status ∈ handleRPC pb inst) : status = .INVALID_REQUEST := by
  unfold handleRPC readOpsImpl writeOpsImpl at h
  split_ifs at h
  · simpa using h
  · cases hr : readResponse pb inst.rpcRequestMessage.payload <;> simp_all
  · simp at h
  · simpa using h

theorem handleRPC_length (pb : ProtoBuf) (inst : RpcInstance) :
    (handleRPC pb inst).length = 1 := by
  unfold handleRPC readOpsImpl writeOpsImpl
  split_ifs
  · rfl
  · cases readResponse pb inst.rpcRequestMessage.payload <;> rfl
  · rfl
  · rfl

end XtraTaskService

namespace Dispatcher

/-- Where `Dispatcher::handle_RPC` leaves a request: rejected, or with its service. -/
inductive Outcome
  | rejected (status : RpcResponseStatus)
  | handed
  deriving DecidableEq, Repr

/-- `services` tells which ids are registered. -/
def handleRPC (services : UInt16 → Bool) (inst : RpcInstance) : Outcome × RpcInstance :=
  let valid := inst.validateRequest
  if !valid.1 then (.rejected .INVALID_REQUEST, valid.2)
  else if services valid.2.serviceId then (.handed, valid.2)
  else (.rejected .INVALID_SERVICE, valid.2)

/-- The answers to a request, from the dispatcher or from the worker that takes it. -/
def answers (pb : ProtoBuf) (services : UInt16 → Bool) (inst : RpcInstance) : List Answer :=
  match handleRPC services inst with
  | (.rejected status, _) => [.reject status]
  | (.handed, inst) => XtraTaskService.handleRPC pb inst

lemma handleRPC_same (services : UInt16 → Bool) (inst : RpcInstance) :
    (handleRPC services inst).2.id = inst.id ∧
      (handleRPC services inst).2.fullSocket = inst.fullSocket := by
  unfold handleRPC
  dsimp only
  split_ifs <;> exact inst.validateRequest_same

lemma services_of_handed {services : UInt16 → Bool} {inst inst' : RpcInstance}
    (h : handleRPC services inst = (.handed, inst')) : services inst'.serviceId := by
  unfold handleRPC at h
  dsimp only at h
  split_ifs at h with hv hs
  · simp at h
  · obtain ⟨-, rfl⟩ := Prod.mk.inj h
    exact hs
  · simp at h

theorem mem_answers_reject {pb : ProtoBuf} {services : UInt16 → Bool} {inst : RpcInstance}
    {status : RpcResponseStatus} (h : .reject status ∈ answers pb services inst) :
    status = .INVALID_REQUEST ∨ status = .INVALID_SERVICE := by
  unfold answers at h
  split at h
  · rename_i st inst' heq
    obtain rfl : status = st := by simpa using h
    unfold handleRPC at heq
    dsimp only at heq
    split_ifs at heq <;> simp_all
  · exact Or.inl (XtraTaskService.mem_handleRPC_reject h)

end Dispatcher

end Tzrpc
