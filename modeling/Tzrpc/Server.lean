import Mathlib.Data.Nat.Pairing
import Tzrpc.ExecutorAnswers
import Tzrpc.TcpConnAsyncUpdatesReads

/-!
# The server as a whole

The acceptor and its settings, every connection it has accepted, the dispatcher and the
executors, with the steps of all of them interleaved. A call of the read chain that dispatches
goes through `Dispatcher::handle_RPC`; what a worker answers is appended on the connection its
instance refers to, if that still exists, and the worker is then in `do_write` there. The
peers may send anything.
-/
namespace Tzrpc

namespace Dispatcher

/-- The rejection `handle_RPC` sends before it returns. -/
def inlineReply (services : UInt16 → Bool) (payload : Bytes) : Option Message :=
  match (handleRPC services (.ofPayload 0 0 payload)).1 with
  | .rejected status => some (RpcInstance.rejectMessage status)
  | .handed => none

end Dispatcher

/-- An accepted connection, with what has gone over it. -/
structure AcceptedConn where
  senders : Senders
  readPc : ReadPc
  /-- The bytes its reads have delivered. -/
  received : Bytes
  /-- The object is destroyed, so `full_socket_` can no longer be locked. -/
  released : Bool

namespace AcceptedConn

def conn (p : AcceptedConn) : TcpConnAsync := p.senders.conn

/-- A connection that `accept_handler` has made and whose `start` is about to call `do_read`. -/
def opened : AcceptedConn :=
  let conn := { TcpConnAsync.fresh with net := NetConn.fresh.setConnStat .kWorking }
  ⟨⟨conn, fun _ => .idle, [], []⟩, .call .head, [], false⟩

def view (p : AcceptedConn) (net : NetServer) : UpdatedConn := ⟨p.senders, p.readPc, net⟩

def after (p : AcceptedConn) (e : UpdatedConn.Event) (u : UpdatedConn) : AcceptedConn :=
  { p with senders := u.senders, readPc := u.readPc, received := p.received ++ e.delivers }

/-- `reply_rpc_message` or `reject` in this thread, up to `do_write`. -/
def reply (env : ServerEnv) (th : Thread) (p : AcceptedConn) (msg : Message) : AcceptedConn :=
  if p.released then p
  else { p with senders := (Senders.step env p.senders (.append th msg)).getD p.senders }

/-- No handler that could still run, and none of these threads, refers to the connection. -/
def Unheld (threads : List Thread) (p : AcceptedConn) : Prop :=
  p.readPc = .idle ∧ p.conn.recv.reads = [] ∧ p.conn.send.writes = [] ∧
    p.conn.opsCancelTimer.pending = [] ∧ p.conn.opsCancelTimer.queued = [] ∧
    ∀ th ∈ threads, p.senders.pc th = .idle

instance (threads : List Thread) (p : AcceptedConn) : Decidable (p.Unheld threads) :=
  inferInstanceAs (Decidable (_ ∧ _ ∧ _ ∧ _ ∧ _ ∧ _))

end AcceptedConn

namespace RpcServer

/-- `Dispatcher::handle_RPC` on each of the payloads. -/
def dispatch (s : RpcServer) (conn : ℕ) (payloads : List Bytes) : RpcServer :=
  payloads.foldl (fun s payload => s.handleRPC (.ofPayload s.frames.length conn payload)) s

end RpcServer

structure Server where
  net : NetServer
  /-- In the order they were accepted. -/
  conns : List AcceptedConn
  rpc : RpcServer

namespace Server

/-- What the connections read of the settings, and what the dispatcher sends on them. -/
def env (s : Server) : ServerEnv where
  recvMaxMsgSize := s.net.conf.recvMaxMsgSize
  sendMaxMsgSize := s.net.conf.sendMaxMsgSize
  opsCancelTimeOut := s.net.conf.opsCancelTimeOut
  inlineReply := Dispatcher.inlineReply s.rpc.services

def worker (j i : ℕ) : Thread := .executor (Nat.pair j i)

def threads (s : Server) : List Thread :=
  .strand :: s.rpc.executors.zipIdx.flatMap fun ex =>
    (List.range ex.1.threads.length).map (worker ex.2)

/-- The thread is in `async_send_message` on some connection. -/
def sending (s : Server) (th : Thread) : Bool := s.conns.any fun p => p.senders.pc th ≠ .idle

def replies (pb : ProtoBuf) (s : Server) (j : ℕ) (e : Executor.Event) : List (ℕ × Message) :=
  (s.rpc.executors[j]?.bind (·.running e)).elim [] fun inst =>
    (XtraTaskService.handleRPC pb inst).map fun a => (inst.fullSocket, inst.answerMessage a)

inductive Event
  | net (e : NetServer.Event)
  | conn (k : ℕ) (e : UpdatedConn.Event)
  | release (k : ℕ)
  | executor (j : ℕ) (e : Executor.Event)
  deriving DecidableEq, Repr

/-- `accept_handler`, with the connection it may have made. -/
def accept (s : Server) (remote : Option Bytes) : Server :=
  let net := s.net.acceptHandler remote
  { s with
    net := net
    conns :=
      if s.net.currentConcurrency < net.currentConcurrency then s.conns ++ [.opened]
      else s.conns }

/-- A connection is started where it is made, updates come through the server, and nothing
but an answer is sent. -/
def ownEvent : UpdatedConn.Event → Bool
  | .start => false
  | .moduleRuntime _ => false
  | .sender (.append _ _) => false
  | _ => true

/-- A worker that is still in `do_write` takes no other step. -/
def step (pb : ProtoBuf) (s : Server) : Event → Option Server
  | .net (.accept remote) => some (s.accept remote)
  | .net .release => none
  | .net e => (s.net.step e).map fun net => { s with net := net }
  | .conn k e =>
    s.conns[k]?.bind fun p =>
      if ownEvent e ∧ p.released = false then
        ((p.view s.net).step (Dispatcher.inlineReply s.rpc.services) e).map fun u =>
          { s with
            conns := s.conns.set k (p.after e u)
            rpc := s.rpc.dispatch k
              (u.conn.recv.dispatched.drop p.conn.recv.dispatched.length) }
      else none
  | .release k =>
    s.conns[k]?.bind fun p =>
      if p.released = false ∧ p.Unheld s.threads then
        (s.net.step .release).map fun net =>
          { s with net := net, conns := s.conns.set k { p with released := true } }
      else none
  | .executor j e =>
    if e.worker.any fun i => s.sending (worker j i) then none
    else
      (s.rpc.step pb (.executor j e)).map fun rpc =>
        { s with
          rpc := rpc
          conns := (s.replies pb j e).foldl (fun conns m =>
            conns.modify m.1 (·.reply s.env (worker j (e.worker.getD 0)) m.2)) s.conns }

def start (doc : NetworkDoc) (table : List (UInt16 × ℕ)) : Server :=
  ⟨(NetServer.init doc).2, [], .start table⟩

def machine (pb : ProtoBuf) (doc : NetworkDoc) (table : List (UInt16 × ℕ)) :
    Machine Server Event :=
  ⟨start doc table, step pb⟩

section Step

variable {pb : ProtoBuf} {s t : Server} {e : Event} {R : AcceptedConn → AcceptedConn → Prop}

/-- What a step of the server does to its connections, by what a step of one of them, an
answer sent on it and its destruction do. -/
lemma step_conns (refl : ∀ p, R p p) (trans : ∀ {p q r}, R p q → R q r → R p r)
    (hconn : ∀ k f p u, e = .conn k f → s.conns[k]? = some p → ownEvent f = true →
      (p.view s.net).step (Dispatcher.inlineReply s.rpc.services) f = some u → R p (p.after f u))
    (hreply : ∀ env th p msg, R p (p.reply env th msg))
    (hrelease : ∀ p, R p { p with released := true }) (hs : s.step pb e = some t) :
    ∃ moved more, t.conns = moved ++ more ∧ List.Forall₂ R s.conns moved ∧
      ∀ p ∈ more, p = .opened := by
  have hsame : List.Forall₂ R s.conns s.conns := List.forall₂_same.mpr fun p _ => refl p
  have hkept : ∀ {conns : List AcceptedConn}, List.Forall₂ R s.conns conns →
      ∃ moved more, conns = moved ++ more ∧ List.Forall₂ R s.conns moved ∧
        ∀ p ∈ more, p = AcceptedConn.opened :=
    fun hmoved => ⟨_, [], (List.append_nil _).symm, hmoved, by simp⟩
  have hset : ∀ {k : ℕ} {p q : AcceptedConn}, s.conns[k]? = some p → R p q →
      List.Forall₂ R s.conns (s.conns.set k q) := fun hp hpq =>
    forall₂_set_right hsame fun p' hp' => Option.some.inj (hp.symm.trans hp') ▸ hpq
  cases e with
  | net e =>
    cases e with
    | accept remote =>
      obtain rfl := Option.some.inj hs
      unfold Server.accept
      dsimp only
      split_ifs
      · exact ⟨s.conns, [.opened], rfl, hsame, by simp⟩
      · exact hkept hsame
    | release => simp [step] at hs
    | moduleRuntime doc =>
      obtain rfl := Option.some.inj hs
      exact hkept hsame
    | feedExpire =>
      obtain ⟨net, -, rfl⟩ := Option.map_eq_some_iff.mp hs
      exact hkept hsame
    | feedHandler i =>
      obtain ⟨net, -, rfl⟩ := Option.map_eq_some_iff.mp hs
      exact hkept hsame
  | conn k e =>
    obtain ⟨p, hp, hs⟩ := Option.bind_eq_some_iff.mp hs
    split_ifs at hs with hown
    obtain ⟨u, hu, rfl⟩ := Option.map_eq_some_iff.mp hs
    exact hkept (hset hp (hconn k e p u rfl hp hown.1 hu))
  | release k =>
    obtain ⟨p, hp, hs⟩ := Option.bind_eq_some_iff.mp hs
    split_ifs at hs
    obtain ⟨net, -, rfl⟩ := Option.map_eq_some_iff.mp hs
    exact hkept (hset hp (hrelease p))
  | executor j e =>
    simp only [step] at hs
    split_ifs at hs
    obtain ⟨rpc, -, rfl⟩ := Option.map_eq_some_iff.mp hs
    refine hkept (List.foldlRecOn (motive := fun conns : List AcceptedConn =>
      List.Forall₂ R s.conns conns) _ _ hsame fun conns hconns m _ => ?_)
    exact forall₂_modify_right hconns fun p q hpq => trans hpq (hreply _ _ q _)

lemma step_forall_conns {P : AcceptedConn → Prop} (h : ∀ p ∈ s.conns, P p) (hopened : P .opened)
    (hconn : ∀ k f p u, e = .conn k f → s.conns[k]? = some p → ownEvent f = true →
      (p.view s.net).step (Dispatcher.inlineReply s.rpc.services) f = some u →
        P p → P (p.after f u))
    (hreply : ∀ env th p msg, P p → P (p.reply env th msg))
    (hrelease : ∀ p, P p → P { p with released := true }) (hs : s.step pb e = some t) :
    ∀ p ∈ t.conns, P p := by
  obtain ⟨moved, more, hconns, hmoved, hmore⟩ := step_conns (R := fun p q => P p → P q)
    (fun _ hp => hp) (fun hpq hqr hp => hqr (hpq hp)) hconn hreply hrelease hs
  rw [hconns]
  intro q hq
  rcases List.mem_append.mp hq with hq | hq
  · obtain ⟨p, hp, hpq⟩ := forall₂_mem_right hmoved hq
    exact hpq (h p hp)
  · exact hmore q hq ▸ hopened

end Step

end Server

end Tzrpc
