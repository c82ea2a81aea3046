import Tzrpc.RpcClientLeak

/-!
# The client as its users see it

`RpcClient` in front of `RpcClientImpl`: its settings and constructors, the calls it refuses
itself, and who keeps the implementation object alive. Every armed wait and every queued timer
handler refers to it, and so does the handler inside each asynchronous connection, also inside
the one in `conn_async_`; `~RpcClientImpl` runs where the last reference goes.
-/
namespace Tzrpc.Client

def RpcClientStatus.NETWORK_BEFORE_ERROR : RpcClientStatus := ⟨10⟩

structure RpcClientSetting where
  servAddr : Bytes
  servPort : UInt32
  sendMaxMsgSize : UInt32
  recvMaxMsgSize : UInt32
  logLevel : UInt32
  /-- `handler_` is set. -/
  handler : Bool
  /-- `io_service_` is set. -/
  ioService : Bool
  deriving DecidableEq, Repr

namespace RpcClientSetting

def fresh : RpcClientSetting := ⟨[], 0, 0, 0, 7, false, false⟩

def conn (s : RpcClientSetting) : ClientSetting := ⟨s.sendMaxMsgSize, s.recvMaxMsgSize⟩

end RpcClientSetting

/-- The keys of `rpc.client`. -/
structure RpcClientDoc where
  servAddr : Option Bytes
  servPort : Option UInt32
  sendMaxMsgSize : Option UInt32
  recvMaxMsgSize : Option UInt32
  logLevel : Option UInt32
  deriving DecidableEq, Repr

/-- The object behind `impl_`, with the state its destructor left. -/
inductive ImplObject
  | null
  | live (cl : RpcClientImpl)
  | destroyed (cl : RpcClientImpl)
  deriving DecidableEq, Repr

def ImplObject.alive : ImplObject → Option RpcClientImpl
  | .live cl => some cl
  | _ => none

lemma ImplObject.eq_live {o : ImplObject} {cl : RpcClientImpl} (h : o.alive = some cl) :
    o = .live cl := by
  cases o with
  | live cl' => rw [alive] at h; rw [Option.some.inj h]
  | _ => cases h

namespace RpcClientImpl

/-- Somebody besides the façade holds a `shared_ptr` to the object. -/
def Referenced (cl : RpcClientImpl) : Prop :=
  cl.rpcCallTimer.pending ≠ [] ∨ cl.rpcCallTimer.queued ≠ [] ∨ cl.connAsync ≠ none ∨
    ∃ c ∈ cl.droppedAsync, c.recv.reads ≠ [] ∨ c.send.writes ≠ []

instance (cl : RpcClientImpl) : Decidable cl.Referenced :=
  inferInstanceAs (Decidable (_ ∨ _ ∨ _ ∨ ∃ c ∈ cl.droppedAsync, _))

/-- `~RpcClientImpl`. -/
def destruct (cl : RpcClientImpl) : RpcClientImpl :=
  { cl with
    connSync := cl.connSync.map TcpConnSync.shutdownAndCloseSocket
    connAsync := cl.connAsync.map TcpConnAsync.shutdownAndCloseSocket }

end RpcClientImpl

structure RpcClient where
  initialized : Bool
  clientSetting : RpcClientSetting
  impl : ImplObject
  /-- `~RpcClient` has run. -/
  dropped : Bool
  /-- What the calls returned that got no further than here. -/
  refused : List RpcClientStatus
  deriving DecidableEq, Repr

namespace RpcClient

def fresh : RpcClient := ⟨false, .fresh, .null, false, []⟩

/-- `RpcClient()`, with a handler assigned to its settings. -/
def withHandler (handler : Bool) : RpcClient :=
  { fresh with clientSetting := { RpcClientSetting.fresh with handler := handler } }

/-- `init(addr, port)`. `ioInit` tells whether `roo::IoService` can be created and started. -/
def init (ioInit : Bool) (c : RpcClient) (addr : Bytes) (port : UInt16) : Bool × RpcClient :=
  if c.initialized then (true, c)
  else
    let setting := { c.clientSetting with servAddr := addr, servPort := port.toUInt32 }
    let c := { c with clientSetting := setting, impl := .live (.fresh setting.conn) }
    if setting.ioService || ioInit then (true, { c with initialized := true }) else (false, c)

/-- `init(setting)`. A lookup that finds nothing leaves the member as it was; the comparisons
of unsigned members with zero are those of the source. -/
def initDoc (ioInit : Bool) (c : RpcClient) (doc : RpcClientDoc) : Bool × RpcClient :=
  let s := c.clientSetting
  match doc.servAddr, doc.servPort with
  | none, _ => (false, c)
  | some addr, none => (false, { c with clientSetting := { s with servAddr := addr } })
  | some addr, some port =>
    let s := { s with servAddr := addr, servPort := port }
    if s.servAddr = [] ∨ s.servPort ≤ 0 then (false, { c with clientSetting := s })
    else
      let s := { s with sendMaxMsgSize := doc.sendMaxMsgSize.getD s.sendMaxMsgSize }
      if doc.sendMaxMsgSize.isSome ∧ s.sendMaxMsgSize < 0 then
        (false, { c with clientSetting := s })
      else
        let s := { s with recvMaxMsgSize := doc.recvMaxMsgSize.getD s.recvMaxMsgSize }
        if doc.recvMaxMsgSize.isSome ∧ s.recvMaxMsgSize < 0 then
          (false, { c with clientSetting := s })
        else
          let s := { s with logLevel := doc.logLevel.getD s.logLevel }
          if doc.logLevel.isSome ∧ 7 < s.logLevel then (false, { c with clientSetting := s })
          else init ioInit { c with clientSetting := s } s.servAddr s.servPort.toUInt16

/-- A constructor throws where `init` fails. -/
def constructed : Bool × RpcClient → Option RpcClient
  | (true, c) => some c
  | (false, _) => none

def ofAddr (ioInit : Bool) (addr : Bytes) (port : UInt16) (handler : Bool) : Option RpcClient :=
  constructed ((withHandler handler).init ioInit addr port)

/-- From a section of a parsed document, or from a file that has one. -/
def ofDoc (ioInit : Bool) (doc : RpcClientDoc) (handler : Bool) : Option RpcClient :=
  constructed ((withHandler handler).initDoc ioInit doc)

def ofSetting (ioInit : Bool) (setting : RpcClientSetting) : Option RpcClient :=
  constructed (init ioInit { fresh with clientSetting := setting } setting.servAddr
    setting.servPort.toUInt16)

def Constructed (c : RpcClient) : Prop :=
  c = fresh ∨ (∃ ioInit addr port handler, ofAddr ioInit addr port handler = some c) ∨
    (∃ ioInit doc handler, ofDoc ioInit doc handler = some c) ∨
    ∃ ioInit setting, ofSetting ioInit setting = some c

/-- A call, a step of the implementation on its own, or the end of the façade. -/
inductive Event
  | callRPC (sync : Bool) (serviceId opcode : UInt16) (payload : Bytes) (timeoutSec : UInt32)
  | impl (e : RpcClientImpl.Event)
  | drop
  deriving DecidableEq, Repr

/-- The implementation goes when nobody refers to it any more. -/
def collect (c : RpcClient) : RpcClient :=
  match c.impl with
  | .live cl =>
    if c.dropped ∧ ¬ cl.Referenced then { c with impl := .destroyed cl.destruct } else c
  | _ => c

def refuse (c : RpcClient) : RpcClient :=
  { c with refused := c.refused ++ [.NETWORK_BEFORE_ERROR] }

/-- An asynchronous call needs a handler. -/
def refuses (c : RpcClient) (sync : Bool) : Bool :=
  !c.initialized || (!sync && !c.clientSetting.handler)

def idle (c : RpcClient) : Bool :=
  match c.impl with
  | .live cl => cl.calling.isNone
  | _ => true

/-- Nobody calls through a façade that is gone, and it goes only between calls. -/
def step (c : RpcClient) : Event → Option RpcClient
  | .callRPC sync serviceId opcode payload timeoutSec =>
    if c.dropped then none
    else
      match c.impl with
      | .live cl =>
        if c.refuses sync then some c.refuse
        else (cl.step (.callRPC sync serviceId opcode payload timeoutSec)).map fun cl =>
          { c with impl := .live cl }
      | _ => some c.refuse
  | .impl (.callRPC _ _ _ _ _) => none
  | .impl e =>
    match c.impl with
    | .live cl => (cl.step e).map fun cl => collect { c with impl := .live cl }
    | _ => none
  | .drop => if c.dropped ∨ ¬ c.idle then none else some { c with dropped := true }.collect

def machine (c : RpcClient) : Machine RpcClient Event := ⟨c, step⟩

end RpcClient

end Tzrpc.Client
