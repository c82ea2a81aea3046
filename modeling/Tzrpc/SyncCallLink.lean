import Tzrpc.Pipe
import Tzrpc.RpcClientImpl
import Tzrpc.RpcInstance
import Tzrpc.TcpConnAsyncLife

/-!
# A connection with the calls that use it

The server's end of one connection of the synchronous client, the two byte streams, and
the requests on it: no request carries an id, so the `k`th dispatched payload belongs to
the `k`th call that was made on the connection. A link also records what the server did to
answer each request and what each call has read.
-/
namespace Tzrpc

open Client (Call)
open Client.RpcClientImpl (requestMessage)

structure Setup where
  setting : Client.ClientSetting
  recvMaxMsgSize : Int32
  sendMaxMsgSize : Int32
  opsCancelTimeOut : Int32
  services : UInt16 → Bool

/-- What the handlers of the server answer: a payload below 2 GiB, or a rejection. -/
def Answer.fits : Answer → Bool
  | .reply msg => decide (msg.length < 2 ^ 31)
  | .reject status => decide (status ≠ .OK)

/-- A call of `reply_rpc_message` or `reject` for the request with this number on its link. -/
structure Response where
  request : ℕ
  answer : Answer
  message : Message
  /-- `async_send_message` was reached and appended the message. -/
  accepted : Bool
  deriving DecidableEq, Repr

def Response.bytes (a : Response) : Bytes := a.message.netStr

namespace Setup

/-- `Dispatcher::handle_RPC` on the instance of a payload; its identity and its connection
do not matter here. -/
def handleRPC (S : Setup) (payload : Bytes) : Dispatcher.Outcome × RpcInstance :=
  Dispatcher.handleRPC S.services (.ofPayload 0 0 payload)

def env (S : Setup) : ServerEnv where
  recvMaxMsgSize := S.recvMaxMsgSize
  sendMaxMsgSize := S.sendMaxMsgSize
  opsCancelTimeOut := S.opsCancelTimeOut
  inlineReply payload :=
    match (S.handleRPC payload).1 with
    | .rejected status => some (RpcInstance.rejectMessage status)
    | .handed => none

/-- `alive` tells whether `full_socket_` could be locked. -/
def response (S : Setup) (request : ℕ) (payload : Bytes) (answer : Answer) (alive : Bool) :
    Response :=
  let msg := (S.handleRPC payload).2.answerMessage answer
  ⟨request, answer, msg, alive && !TcpConnAsync.refusesSize S.env msg⟩

/-- The rejections given while payloads are dispatched, the first of them number `k`. -/
def rejections (S : Setup) : ℕ → List Bytes → List Response
  | _, [] => []
  | k, payload :: payloads =>
    match (S.handleRPC payload).1 with
    | .rejected status => S.response k payload (.reject status) true :: S.rejections (k + 1) payloads
    | .handed => S.rejections (k + 1) payloads

end Setup

structure Link where
  conn : TcpConnAsync
  /-- From the client to the server. -/
  up : Pipe UInt8
  down : Pipe UInt8
  /-- The calls made on the connection, oldest first. -/
  calls : List Call
  /-- In the order they were given. -/
  answers : List Response
  /-- The bytes the calls have read, with the ids of the calls. -/
  reads : List (ℕ × Bytes)
  deriving DecidableEq, Repr

namespace Link

def opened (S : Setup) (call : Call) : Link :=
  ⟨TcpConnAsync.started S.env, .empty, .empty, [call], [], []⟩

inductive Event
  | conn (e : TcpConnAsync.Event)
  | answer (request : ℕ) (answer : Answer) (alive : Bool)
  deriving DecidableEq, Repr

def takesOff : TcpConnAsync.Event → Bytes
  | .readDone _ bytes => bytes
  | _ => []

/-- A completion or timer callback on the server's connection. -/
def serve (S : Setup) (l : Link) (e : TcpConnAsync.Event) : Option Link :=
  (l.up.take (takesOff e)).bind fun up =>
    (l.conn.step S.env e).map fun conn =>
      { l with
        conn := conn
        up := up
        down := l.down.put (l.conn.putsOnWire e)
        answers := l.answers ++ S.rejections l.conn.recv.dispatched.length
          (conn.recv.dispatched.drop l.conn.recv.dispatched.length) }

def respond (S : Setup) (l : Link) (res : Response) (alive : Bool) : Link :=
  { l with
    conn := if alive then (l.conn.asyncSendMessage S.env res.message).2 else l.conn
    answers := l.answers ++ [res] }

/-- Only the answers send on the connection. A handler answers its request once; the
connection object lives as long as an operation on it is outstanding. -/
def step (S : Setup) (l : Link) : Event → Option Link
  | .conn (.send _) => none
  | .conn e => l.serve S e
  | .answer request answer alive =>
    l.conn.recv.dispatched[request]?.bind fun payload =>
      if (S.handleRPC payload).1 = .handed ∧ answer.fits ∧ request ∉ l.answers.map (·.request) ∧
          (alive ∨ l.conn.recv.reads = [] ∧ l.conn.send.writes = []) then
        some (l.respond S (S.response request payload answer alive) alive)
      else none

def join (l : Link) (call : Call) : Link := { l with calls := l.calls ++ [call] }

def write (l : Link) (bytes : Bytes) : Link := { l with up := l.up.put bytes }

/-- The call with this id reads what comes next on the stream. -/
def read (l : Link) (id : ℕ) (bytes : Bytes) : Option Link :=
  (l.down.take bytes).map fun down => { l with down := down, reads := l.reads ++ [(id, bytes)] }

def sent (l : Link) : List Response := l.answers.filter (·.accepted)

def readBy (l : Link) (id : ℕ) : Bytes :=
  (l.reads.filter fun x => decide (x.1 = id)).flatMap Prod.snd

def parts (l : Link) : List Bytes := l.calls.map fun call => l.readBy call.id

end Link

def requests (calls : List Call) : Bytes :=
  (calls.map fun call => (requestMessage call).netStr).flatten

lemma requests_singleton (call : Call) : requests [call] = (requestMessage call).netStr := by
  rw [requests, List.map_singleton, List.flatten_singleton]

@[simp] lemma Link.opened_up (S : Setup) (call : Call) : (opened S call).up = .empty := rfl

@[simp] lemma Link.opened_calls (S : Setup) (call : Call) : (opened S call).calls = [call] := rfl

def requestFrame (call : Call) : Frame UInt8 :=
  ⟨(requestMessage call).header.wire, (requestMessage call).payload⟩

section Requests

variable {env : ServerEnv}

lemma requestMessage_length {call : Call} (h : call.payload.length < 2 ^ 31) :
    (requestMessage call).payload.length < 2 ^ 31 + RpcRequestHeader.size := by
  rw [requestMessage, Message.ofPayload_payload, RpcRequestMessage.netStr_length]
  simp only [RpcRequestMessage.ofRequest]
  omega

lemma requestFrame_announces {call : Call} (h : call.payload.length < 2 ^ 31) :
    (TcpConnAsync.framing env).Announces (requestFrame call) := by
  refine ⟨Header.wire_length _, fun n hn => ?_⟩
  have hwire := @wireFraming_bodyLen_wire (limitOf env.recvMaxMsgSize.toUInt32)
    (requestMessage call).header rfl rfl
  have hbody : (requestMessage call).header.length.toNat = (requestMessage call).payload.length :=
    Message.ofPayload_length (by
      have hlen := requestMessage_length h
      simp only [requestMessage, Message.ofPayload_payload, RpcRequestHeader.size] at hlen
      omega)
  rw [TcpConnAsync.framing, requestFrame, hwire, hbody] at hn
  split_ifs at hn
  exact (Option.some.inj hn).symm

lemma requests_cut (env : ServerEnv) {calls : List Call}
    (hfits : ∀ call ∈ calls, call.payload.length < 2 ^ 31)
    {s : Bytes} (hs : s <+: requests calls) :
    (TcpConnAsync.framing env).bodies s <+: calls.map (fun call => (requestMessage call).payload) ∧
      TcpConnAsync.Bounded env s := by
  have hann : ∀ f ∈ calls.map requestFrame, (TcpConnAsync.framing env).Announces f := by
    intro f hf
    obtain ⟨call, hcall, rfl⟩ := List.mem_map.mp hf
    exact requestFrame_announces (hfits call hcall)
  have hflat : ((calls.map requestFrame).map Frame.elems).flatten = requests calls := by
    rw [List.map_map]
    rfl
  obtain ⟨hbodies, hending⟩ := Framing.parse_of_prefix hann (hflat ▸ hs)
  rw [List.map_map] at hbodies
  refine ⟨hbodies, fun hd r n he hn => ?_⟩
  obtain ⟨f, hf, rfl⟩ := hending hd r he
  have hn' := (hann f hf).2 n hn
  obtain ⟨call, hcall, rfl⟩ := List.mem_map.mp hf
  have hlen := requestMessage_length (hfits call hcall)
  have h2048 : kFixedIoBufferSize.toNat = 2048 := rfl
  simp only [requestFrame, RpcRequestHeader.size] at hn' hlen
  omega

end Requests

end Tzrpc
