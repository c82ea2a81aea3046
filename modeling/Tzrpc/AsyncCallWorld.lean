import Tzrpc.ClientConnAsyncLife
import Tzrpc.ListUpdate
import Tzrpc.RpcClientAsyncConns
import Tzrpc.SyncCallServer

/-!
# Asynchronous calls against the server

A client with every asynchronous connection it has made: the one in `conn_async_`, and
those that were reset, which their own operations keep alive. The client's completions
drive the two streams of each; the server goes on with any of them. Synchronous calls may
come in between, with whatever their connections give them.
-/
namespace Tzrpc

open Client (Call RpcClientImpl)
open Client.RpcClientImpl (requestMessage)

namespace Client.TcpConnAsync

def takesOff : Event → Bytes
  | .readDone _ bytes => bytes
  | _ => []

end Client.TcpConnAsync

namespace Link

def unused (S : Setup) : Link := ⟨TcpConnAsync.started S.env, .empty, .empty, [], [], []⟩

def drive (l : Link) (c : Client.TcpConnAsync) (e : Client.TcpConnAsync.Event) : Option Link :=
  (l.down.take (Client.TcpConnAsync.takesOff e)).map fun down =>
    { l with up := l.up.put (c.putsOnWire e), down := down }

end Link

structure AsyncWorld where
  client : RpcClientImpl
  /-- The connection of `conn_async_`. -/
  link : Option Link
  /-- Those of `droppedAsync`. -/
  dropped : List Link
  deriving DecidableEq, Repr

namespace AsyncWorld

inductive Event
  | client (e : RpcClientImpl.Event)
  | server (e : Link.Event)
  | dropped (i : ℕ) (e : Link.Event)
  deriving DecidableEq, Repr

def start (S : Setup) : AsyncWorld := ⟨.fresh S.setting, none, []⟩

/-- The world after a call on the connection with link `l`, which has left the client in
state `cl`: it was accepted, or the connection was reset. Requests stay below 2 GiB. -/
def afterCall (w : AsyncWorld) (cl : RpcClientImpl) (l : Link) (call : Call) : Option AsyncWorld :=
  if call.payload.length < 2 ^ 31 then
    if cl.connAsync.isSome then some ⟨cl, some (l.join call), w.dropped⟩
    else some ⟨cl, none, w.dropped ++ [l]⟩
  else none

/-- The world after an event of the client, which has left it in state `cl`; `none` where the
streams do not allow it. -/
def afterClient (S : Setup) (w : AsyncWorld) (cl : RpcClientImpl) :
    RpcClientImpl.Event → Option AsyncWorld
  | .callRPC false serviceId opcode payload timeoutSec =>
    match w.link with
    | some l =>
      w.afterCall cl l ⟨w.client.calls, false, serviceId, opcode, payload, timeoutSec⟩
    | none => some { w with client := cl }
  | .connected =>
    w.client.calling.bind fun x =>
      if x.1.sync then some { w with client := cl } else w.afterCall cl (.unused S) x.1
  | .asyncConn e =>
    w.client.connAsync.bind fun c => w.link.bind fun l =>
      (l.drive c e).map fun l' => { w with client := cl, link := some l' }
  | .droppedConn i e =>
    w.client.droppedAsync[i]?.bind fun c => w.dropped[i]?.bind fun l =>
      (l.drive c e).map fun l' => { w with client := cl, dropped := w.dropped.set i l' }
  | _ => some { w with client := cl }

def step (S : Setup) (w : AsyncWorld) : Event → Option AsyncWorld
  | .client e => (w.client.step e).bind fun cl => w.afterClient S cl e
  | .server e => w.link.bind fun l => (l.step S e).map fun l' => { w with link := some l' }
  | .dropped i e =>
    w.dropped[i]?.bind fun l => (l.step S e).map fun l' => { w with dropped := w.dropped.set i l' }

def machine (S : Setup) : Machine AsyncWorld Event := ⟨start S, step S⟩

def conns (w : AsyncWorld) : List Client.TcpConnAsync :=
  w.client.connAsync.toList ++ w.client.droppedAsync

def links (w : AsyncWorld) : List Link := w.link.toList ++ w.dropped

end AsyncWorld

open Client.TcpConnAsync (messages)

/-- The client's end of a link that is sound on the server: it has put the requests of its
calls on the stream, in order, and has handed on the messages it has read. -/
structure Ends (S : Setup) (c : Client.TcpConnAsync) (l : Link) : Prop where
  sound : l.Sound S
  conserves : c.Conserves (requests l.calls) l.up.all
  trails : c.Trails S.setting l.down.taken

section Ends

variable {S : Setup} {c d : Client.TcpConnAsync} {l l' : Link} {call : Call}

def responseFrame (a : Response) : Frame UInt8 := ⟨a.message.header.wire, a.message.payload⟩

lemma Link.unused_sound (S : Setup) : (Link.unused S).Sound S where
  fits := by simp [unused]
  requested := List.nil_prefix
  trails := TcpConnAsync.Follows.trails (TcpConnAsync.started_follows S.env)
  sends := TcpConnAsync.Sends.of_oneWrite (Senders.start_oneWrite S.env)
  once := List.nodup_nil
  answered := by simp [unused]

lemma responseFrame_announces (h : l.Sound S) {a : Response} (ha : a ∈ l.answers) :
    (Client.TcpConnSync.framing S.setting).Announces (responseFrame a) ∧
      (responseFrame a).body.length + kFixedIoBufferSize.toNat ≤ 2 ^ 32 := by
  obtain ⟨m, hmsg, hlen, -⟩ := h.message ha
  have h2048 : kFixedIoBufferSize.toNat = 2048 := rfl
  rw [responseFrame, hmsg]
  refine ⟨⟨Header.wire_length _, fun n hn => ?_⟩, hlen⟩
  rw [Client.TcpConnSync.bodyLen_message (by omega)] at hn
  split_ifs at hn
  exact (Option.some.inj hn).symm

lemma Link.Sound.frames_le (h : l.Sound S) :
    (messages S.setting l.down.taken).length ≤ l.sent.length ∧
      Client.Bounded S.setting l.down.taken := by
  have hmem : ∀ a ∈ l.sent, a ∈ l.answers := fun a ha => (List.mem_filter.mp ha).1
  have hann : ∀ f ∈ l.sent.map responseFrame,
      (Client.TcpConnSync.framing S.setting).Announces f := by
    intro f hf
    obtain ⟨a, ha, rfl⟩ := List.mem_map.mp hf
    exact (responseFrame_announces h (hmem a ha)).1
  have hflat : ((l.sent.map responseFrame).map Frame.elems).flatten =
      ((l.sent.map (·.message)).map Message.netStr).flatten := by
    rw [List.map_map, List.map_map]
    rfl
  have hwire : l.down.taken <+: ((l.sent.map responseFrame).map Frame.elems).flatten := by
    rw [hflat]
    exact l.down.taken_prefix.trans h.sends.sent
  obtain ⟨hbodies, hending⟩ := Framing.parse_of_prefix hann hwire
  refine ⟨?_, fun hd t m he hm => ?_⟩
  · have hle := hbodies.length_le
    rw [Framing.bodies, List.length_map, List.length_map, List.length_map] at hle
    rwa [messages, List.length_map]
  · obtain ⟨f, hf, rfl⟩ := hending hd t he
    obtain rfl := (hann f hf).2 m hm
    obtain ⟨a, ha, rfl⟩ := List.mem_map.mp hf
    exact (responseFrame_announces h (hmem a ha)).2

lemma Link.Sound.sent_le (h : l.Sound S) : l.sent.length ≤ l.calls.length := by
  have hsub : l.answers.map (·.request) ⊆ List.range l.calls.length := by
    intro k hk
    obtain ⟨a, ha, rfl⟩ := List.mem_map.mp hk
    exact List.mem_range.mpr (h.request_lt ha)
  have hle := (List.subperm_of_subset h.once hsub).length_le
  rw [List.length_map, List.length_range] at hle
  exact (List.length_filter_le _ _).trans hle

theorem Ends.delivered_le (h : Ends S c l) : c.recv.delivered.length ≤ l.calls.length :=
  (h.trails.delivered_prefix.length_le.trans h.sound.frames_le.1).trans h.sound.sent_le

lemma Ends.unused (S : Setup) : Ends S (.started S.setting) (.unused S) :=
  ⟨Link.unused_sound S, Client.TcpConnAsync.started_conserves _,
    Client.TcpConnAsync.started_trails _⟩

lemma Ends.close (h : Ends S c l) : Ends S c.shutdownAndCloseSocket l := by
  have hnot : c.shutdownAndCloseSocket.net.connStat = .kWorking →
      c.net.connStat = .kWorking := by
    intro hw
    simp [Client.TcpConnAsync.shutdownAndCloseSocket] at hw
  exact ⟨h.sound, h.conserves.of_send rfl hnot, h.trails.of_recv rfl hnot⟩

lemma Ends.drive {e : Client.TcpConnAsync.Event} (h : Ends S c l)
    (hc : c.step S.setting e = some d) (hl : l.drive c e = some l') :
    Ends S d l' ∧ c.recv.delivered <+: d.recv.delivered := by
  obtain ⟨down, hdown, rfl⟩ := Option.map_eq_some_iff.mp hl
  obtain ⟨htaken, hall⟩ := Pipe.take_eq hdown
  have hconserves := h.conserves.step hc
  have hsound : Link.Sound S { l with up := l.up.put (c.putsOnWire e), down := down } :=
    ⟨h.sound.fits, by rw [Pipe.put_all]; exact hconserves.sent, h.sound.trails,
      hall ▸ h.sound.sends, h.sound.once, h.sound.answered⟩
  have htrails : d.Trails S.setting down.taken ∧ c.recv.delivered <+: d.recv.delivered := by
    rw [htaken]
    cases e with
    | readDone i bytes => exact h.trails.readDone h.sound.frames_le.2 hc
    | _ => simpa [Client.TcpConnAsync.takesOff] using h.trails.step (by simp) hc
  exact ⟨⟨hsound, by rw [Pipe.put_all]; exact hconserves, htrails.1⟩, htrails.2⟩

lemma Ends.server {e : Link.Event} (h : Ends S c l) (hl : l.step S e = some l') : Ends S c l' := by
  obtain ⟨hcalls, -, htaken, hup, -⟩ := Link.step_client_view hl
  exact ⟨Link.step_sound h.sound hl, hcalls ▸ hup ▸ h.conserves, htaken ▸ h.trails⟩

lemma Ends.send (h : Ends S c l) (hfits : call.payload.length < 2 ^ 31) :
    Ends S (c.sendNetMessage S.setting (requestMessage call)).2
      (if (c.sendNetMessage S.setting (requestMessage call)).1 then l.join call else l) := by
  have hconserves := @Client.TcpConnAsync.Conserves.sendNetMessage S.setting _ _ _ h.conserves
    (requestMessage call)
  have htrails : (c.sendNetMessage S.setting (requestMessage call)).2.Trails S.setting
      l.down.taken := by
    refine h.trails.of_recv (Client.TcpConnAsync.sendNetMessage_recv _ _ _) fun hw => ?_
    rwa [Client.TcpConnAsync.sendNetMessage_net] at hw
  split_ifs at hconserves ⊢ with hacc
  · refine ⟨Link.join_sound h.sound hfits, ?_, htrails⟩
    simp only [Link.join, requests, List.map_append, List.flatten_append, List.map_singleton,
      List.flatten_singleton]
    exact hconserves
  · exact ⟨h.sound, hconserves, htrails⟩

end Ends

namespace AsyncWorld

def callsOn (w : AsyncWorld) : Event → Option Client.TcpConnAsync
  | .client (.callRPC false _ _ _ _) => w.client.connAsync
  | _ => none

/-- `c` and `l` are the ends of the connection a call is made on: the held one, or a new
one when none is held. -/
def CallEnds (S : Setup) (w : AsyncWorld) (e : Event) (c : Client.TcpConnAsync) (l : Link) : Prop :=
  (w.callsOn e = some c ∧ w.client.connAsync = some c ∧ w.link = some l) ∨
    (w.client.connAsync = none ∧ w.link = none ∧ c = .started S.setting ∧ l = .unused S)

/-- The steps of the world, seen from its connections. -/
inductive Moves (S : Setup) (w : AsyncWorld) (e : Event) : AsyncWorld → Prop
  | same (cl : RpcClientImpl) (h : w.client.SameAsync cl) : Moves S w e { w with client := cl }
  | closed (cl : RpcClientImpl) (c : Client.TcpConnAsync) (l : Link)
    (conn : w.client.connAsync = some c) (link : w.link = some l)
    (h : RpcClientImpl.SameAsync
      { w.client with connAsync := some c.shutdownAndCloseSocket } cl) :
    Moves S w e { w with client := cl }
  | drive (c d : Client.TcpConnAsync) (l l' : Link) (ce : Client.TcpConnAsync.Event)
    (conn : w.client.connAsync = some c) (link : w.link = some l)
    (hc : c.step S.setting ce = some d) (hl : l.drive c ce = some l') :
    Moves S w e ⟨{ w.client with connAsync := some d }, some l', w.dropped⟩
  | driveDropped (i : ℕ) (c d : Client.TcpConnAsync) (l l' : Link)
    (ce : Client.TcpConnAsync.Event) (conn : w.client.droppedAsync[i]? = some c)
    (link : w.dropped[i]? = some l) (hc : c.step S.setting ce = some d)
    (hl : l.drive c ce = some l') :
    Moves S w e ⟨{ w.client with droppedAsync := w.client.droppedAsync.set i d }, w.link,
      w.dropped.set i l'⟩
  | server (l l' : Link) (le : Link.Event) (link : w.link = some l) (hl : l.step S le = some l') :
    Moves S w e { w with link := some l' }
  | serverDropped (i : ℕ) (l l' : Link) (le : Link.Event) (link : w.dropped[i]? = some l)
    (hl : l.step S le = some l') : Moves S w e { w with dropped := w.dropped.set i l' }
  | accepted (cl : RpcClientImpl) (c : Client.TcpConnAsync) (l : Link) (call : Call)
    (ends : CallEnds S w e c l) (fits : call.payload.length < 2 ^ 31)
    (acc : (c.sendNetMessage S.setting (requestMessage call)).1 = true)
    (setting : cl.setting = w.client.setting)
    (conn : cl.connAsync = some (c.sendNetMessage S.setting (requestMessage call)).2)
    (dropped : cl.droppedAsync = w.client.droppedAsync)
    (ok : cl.okCalls = w.client.okCalls ++ [⟨call, .OK, none, none⟩]) :
    Moves S w e ⟨cl, some (l.join call), w.dropped⟩
  | refused (cl : RpcClientImpl) (c : Client.TcpConnAsync) (l : Link) (call : Call)
    (ends : CallEnds S w e c l) (fits : call.payload.length < 2 ^ 31)
    (ref : (c.sendNetMessage S.setting (requestMessage call)).1 = false)
    (setting : cl.setting = w.client.setting) (conn : cl.connAsync = none)
    (dropped : cl.droppedAsync =
      w.client.droppedAsync ++ [(c.sendNetMessage S.setting (requestMessage call)).2])
    (ok : cl.okCalls = w.client.okCalls) :
    Moves S w e ⟨cl, none, w.dropped ++ [l]⟩

/-- Both ends of every connection are there, and fit together like this. -/
structure Paired (R : Client.TcpConnAsync → Link → Prop) (w : AsyncWorld) : Prop where
  held : Option.Rel R w.client.connAsync w.link
  dropped : List.Forall₂ R w.client.droppedAsync w.dropped

def Becomes (w w' : AsyncWorld) (c : Client.TcpConnAsync) (l : Link) (d : Client.TcpConnAsync) :
    Prop :=
  (w.client.connAsync = some c ∧ w.link = some l ∧ w'.client.connAsync = some d) ∨
    ∃ i : ℕ, w.client.droppedAsync[i]? = some c ∧ w.dropped[i]? = some l ∧
      w'.client.droppedAsync[i]? = some d

section Moves

variable {S : Setup} {w w' : AsyncWorld} {e : Event} {R R' : Client.TcpConnAsync → Link → Prop}

lemma Paired.held_some (h : Paired R w) {c : Client.TcpConnAsync}
    (hc : w.client.connAsync = some c) : ∃ l, w.link = some l ∧ R c l := by
  have hheld := h.held
  rw [hc] at hheld
  cases hl : w.link with
  | none =>
    rw [hl] at hheld
    cases hheld
  | some l =>
    rw [hl] at hheld
    cases hheld with
    | some hR => exact ⟨l, rfl, hR⟩

lemma Paired.held_none (h : Paired R w) (hc : w.client.connAsync = none) : w.link = none := by
  have hheld := h.held
  rw [hc] at hheld
  cases hl : w.link with
  | none => rfl
  | some l =>
    rw [hl] at hheld
    cases hheld

lemma afterCall_moves {c : Client.TcpConnAsync} {l : Link} {call : Call} {n : ℕ}
    (hset : w.client.setting = S.setting) (hs : call.sync = false) (ends : CallEnds S w e c l)
    (h : w.afterCall ({ w.client with calls := n }.startAsync call c) l call = some w') :
    Moves S w e w' := by
  have hset' : ({ w.client with calls := n } : RpcClientImpl).setting = S.setting := hset
  unfold afterCall at h
  split_ifs at h with hfits hsome
  · obtain rfl := Option.some.inj h
    cases hsend : (c.sendNetMessage S.setting (requestMessage call)).1 with
    | true =>
      obtain ⟨hsetting, hconn, hdropped, hok⟩ := @RpcClientImpl.startAsync_accepts
        { w.client with calls := n } _ _ hs (by rw [hset']; exact hsend)
      exact .accepted _ c l call ends hfits hsend hsetting (by rw [hconn, hset']) hdropped hok
    | false =>
      obtain ⟨-, hconn, -, -⟩ := @RpcClientImpl.startAsync_drops
        { w.client with calls := n } call c (by rw [hset']; exact hsend)
      simp [hconn] at hsome
  · obtain rfl := Option.some.inj h
    cases hsend : (c.sendNetMessage S.setting (requestMessage call)).1 with
    | true =>
      obtain ⟨-, hconn, -, -⟩ := @RpcClientImpl.startAsync_accepts
        { w.client with calls := n } _ _ hs (by rw [hset']; exact hsend)
      simp [hconn] at hsome
    | false =>
      obtain ⟨hsetting, hconn, hdropped, hok⟩ := @RpcClientImpl.startAsync_drops
        { w.client with calls := n } call c (by rw [hset']; exact hsend)
      exact .refused _ c l call ends hfits hsend hsetting hconn (by rw [hdropped, hset']) hok

lemma afterCall_client {cl : RpcClientImpl} {l : Link} {call : Call}
    (h : w.afterCall cl l call = some w') : w'.client = cl := by
  unfold afterCall at h
  split_ifs at h <;> exact Option.some.inj h ▸ rfl

lemma afterClient_client {cl : RpcClientImpl} {ce : RpcClientImpl.Event}
    (h : w.afterClient S cl ce = some w') : w'.client = cl := by
  unfold afterClient at h
  split at h
  · split at h
    · exact afterCall_client h
    · exact Option.some.inj h ▸ rfl
  · obtain ⟨x, -, h⟩ := Option.bind_eq_some_iff.mp h
    split_ifs at h
    · exact Option.some.inj h ▸ rfl
    · exact afterCall_client h
  · obtain ⟨c, -, h⟩ := Option.bind_eq_some_iff.mp h
    obtain ⟨l, -, h⟩ := Option.bind_eq_some_iff.mp h
    obtain ⟨l', -, rfl⟩ := Option.map_eq_some_iff.mp h
    rfl
  · obtain ⟨c, -, h⟩ := Option.bind_eq_some_iff.mp h
    obtain ⟨l, -, h⟩ := Option.bind_eq_some_iff.mp h
    obtain ⟨l', -, rfl⟩ := Option.map_eq_some_iff.mp h
    rfl
  · exact Option.some.inj h ▸ rfl

lemma step_client {P : RpcClientImpl → Prop} (h : P w.client)
    (hstep : ∀ ce cl, w.client.step ce = some cl → P cl) (hs : step S w e = some w') :
    P w'.client := by
  cases e with
  | client ce =>
    obtain ⟨cl, hcl, hs⟩ := Option.bind_eq_some_iff.mp hs
    exact (afterClient_client hs).symm ▸ hstep ce cl hcl
  | server le =>
    obtain ⟨l, -, hs⟩ := Option.bind_eq_some_iff.mp hs
    obtain ⟨l', -, rfl⟩ := Option.map_eq_some_iff.mp hs
    exact h
  | dropped i le =>
    obtain ⟨l, -, hs⟩ := Option.bind_eq_some_iff.mp hs
    obtain ⟨l', -, rfl⟩ := Option.map_eq_some_iff.mp hs
    exact h

lemma afterClient_elsewhere {cl : RpcClientImpl} {ce : RpcClientImpl.Event}
    (hp : Paired R w) (he : w.client.Elsewhere ce) (hstep : w.client.step ce = some cl) :
    w.afterClient S cl ce = some { w with client := cl } := by
  unfold afterClient
  split
  · rename_i sid op p t
    have hnone : w.client.connAsync = none := by
      rw [Option.eq_none_iff_forall_ne_some]
      exact fun c hc => he.sends _ c (.held sid op p t c hc)
    rw [hp.held_none hnone]
  · simp only [RpcClientImpl.step] at hstep
    split at hstep
    · rename_i call hcall
      have hs : call.sync = true := by
        by_contra hs
        exact he.sends call _ (.opened call hcall (by simpa using hs))
      simp [hcall, hs]
    · cases hstep
  · exact absurd rfl (he.conn _)
  · exact absurd rfl (he.dropped _ _)
  · rfl

theorem step_moves (hset : w.client.setting = S.setting) (hserial : w.client.Serial)
    (hp : Paired R w) (hs : step S w e = some w') :
    Moves S w e w' ∧ w'.client.setting = S.setting ∧ w'.client.Serial := by
  cases e with
  | server le =>
    obtain ⟨l, hl, hs⟩ := Option.bind_eq_some_iff.mp hs
    obtain ⟨l', hl', rfl⟩ := Option.map_eq_some_iff.mp hs
    exact ⟨.server l l' le hl hl', hset, hserial⟩
  | dropped i le =>
    obtain ⟨l, hl, hs⟩ := Option.bind_eq_some_iff.mp hs
    obtain ⟨l', hl', rfl⟩ := Option.map_eq_some_iff.mp hs
    exact ⟨.serverDropped i l l' le hl hl', hset, hserial⟩
  | client ce =>
    obtain ⟨cl, hcl, hs⟩ := Option.bind_eq_some_iff.mp hs
    obtain ⟨heffect, hserial'⟩ := RpcClientImpl.step_asyncEffect hserial hcl
    have hset' := heffect.setting_eq.trans hset
    cases heffect with
    | same he h =>
      rw [afterClient_elsewhere hp he hcl] at hs
      obtain rfl := Option.some.inj hs
      exact ⟨.same cl h, hset', hserial'⟩
    | closed c he conn h =>
      obtain ⟨i, rfl⟩ := he
      obtain rfl := Option.some.inj hs
      obtain ⟨l, hl, -⟩ := hp.held_some conn
      exact ⟨.closed cl c l conn hl h, hset', hserial'⟩
    | completed c d ce he conn hstep h =>
      subst he h
      obtain ⟨c', hc', hs⟩ := Option.bind_eq_some_iff.mp hs
      obtain rfl := Option.some.inj (conn.symm.trans hc')
      obtain ⟨l, hl, hs⟩ := Option.bind_eq_some_iff.mp hs
      obtain ⟨l', hl', rfl⟩ := Option.map_eq_some_iff.mp hs
      exact ⟨.drive c d l l' ce conn hl (hset ▸ hstep) hl', hset', hserial'⟩
    | droppedCompleted i c d ce he conn hstep h =>
      subst he h
      obtain ⟨c', hc', hs⟩ := Option.bind_eq_some_iff.mp hs
      obtain rfl := Option.some.inj (conn.symm.trans hc')
      obtain ⟨l, hl, hs⟩ := Option.bind_eq_some_iff.mp hs
      obtain ⟨l', hl', rfl⟩ := Option.map_eq_some_iff.mp hs
      exact ⟨.driveDropped i c d l l' ce conn hl (hset ▸ hstep) hl', hset', hserial'⟩
    | sent call c sends n h =>
      subst h
      have hsent : ∃ l, CallEnds S w (.client ce) c l ∧
          w.afterCall ({ w.client with calls := n }.startAsync call c) l call = some w' := by
        cases sends with
        | held sid op p t c conn =>
          obtain ⟨l, hl, -⟩ := hp.held_some conn
          simp only [afterClient, hl] at hs
          exact ⟨l, Or.inl ⟨conn, conn, hl⟩, hs⟩
        | opened call hcall async =>
          have hnone := hserial.connect call hcall async
          obtain ⟨x, hx, hs⟩ := Option.bind_eq_some_iff.mp hs
          obtain rfl := Option.some.inj (hcall.symm.trans hx)
          rw [if_neg (by simp [async])] at hs
          exact ⟨_, Or.inr ⟨hnone, hp.held_none hnone, by rw [hset], rfl⟩, hs⟩
      obtain ⟨l, hends, hcall⟩ := hsent
      rw [afterCall_client hcall]
      exact ⟨afterCall_moves hset sends.async hends hcall, hset', hserial'⟩

/-- A relation of the two ends that every operation on them keeps, or turns into another. -/
theorem Paired.moves (h : Paired R w) (hm : Moves S w e w') (keep : ∀ c l, R c l → R' c l)
    (close : ∀ c l, Becomes w w' c l c.shutdownAndCloseSocket → R c l →
      R' c.shutdownAndCloseSocket l)
    (drive : ∀ c d l l' ce, Becomes w w' c l d → R c l → c.step S.setting ce = some d →
      l.drive c ce = some l' → R' d l')
    (server : ∀ c l l' le, R c l → l.step S le = some l' → R' c l')
    (unused : R (.started S.setting) (.unused S))
    (send : ∀ c l call, CallEnds S w e c l → R c l → call.payload.length < 2 ^ 31 →
      R' (c.sendNetMessage S.setting (requestMessage call)).2
        (if (c.sendNetMessage S.setting (requestMessage call)).1 then l.join call else l)) :
    Paired R' w' := by
  have hdropped := h.dropped.imp keep
  have hheld : Option.Rel R' w.client.connAsync w.link := by
    have hheld := h.held
    revert hheld
    generalize w.client.connAsync = x
    generalize w.link = y
    rintro (⟨hR⟩ | -)
    · exact .some (keep _ _ hR)
    · exact .none
  have hof : ∀ {c l}, w.client.connAsync = some c → w.link = some l → R c l := by
    intro c l hc hl
    obtain ⟨l', hl', hR⟩ := h.held_some hc
    exact Option.some.inj (hl'.symm.trans hl) ▸ hR
  have hends : ∀ {c l}, CallEnds S w e c l → R c l := by
    rintro c l (⟨-, hc, hl⟩ | ⟨-, -, rfl, rfl⟩)
    · exact hof hc hl
    · exact unused
  cases hm with
  | same cl hs => exact ⟨hs.conn ▸ hheld, hs.dropped ▸ hdropped⟩
  | closed cl c l conn link hs =>
    refine ⟨?_, hs.dropped ▸ hdropped⟩
    have hnew := close c l (Or.inl ⟨conn, link, hs.conn⟩) (hof conn link)
    simp only [hs.conn, link]
    exact .some hnew
  | drive c d l l' ce conn link hc hl =>
    exact ⟨.some (drive c d l l' ce (Or.inl ⟨conn, link, rfl⟩) (hof conn link) hc hl), hdropped⟩
  | driveDropped i c d l l' ce conn link hc hl =>
    have hR := forall₂_getElem? h.dropped conn link
    have hset : (w.client.droppedAsync.set i d)[i]? = some d :=
      List.getElem?_set_self (List.getElem?_eq_some_iff.mp conn).1
    exact ⟨hheld, forall₂_set hdropped i
      (drive c d l l' ce (Or.inr ⟨i, conn, link, hset⟩) hR hc hl)⟩
  | server l l' le link hl =>
    refine ⟨?_, hdropped⟩
    have hheld' := h.held
    rw [link] at hheld'
    revert hheld'
    generalize w.client.connAsync = x
    rintro ⟨hR⟩
    exact .some (server _ l l' le hR hl)
  | serverDropped i l l' le link hl =>
    refine ⟨hheld, forall₂_set_right hdropped fun c hc => ?_⟩
    exact server c l l' le (forall₂_getElem? h.dropped hc link) hl
  | accepted cl c l call ends fits acc setting conn dropped ok =>
    have hnew := send c l call ends (hends ends) fits
    rw [acc, if_pos rfl] at hnew
    refine ⟨?_, dropped ▸ hdropped⟩
    simp only [conn]
    exact .some hnew
  | refused cl c l call ends fits ref setting conn dropped ok =>
    have hnew := send c l call ends (hends ends) fits
    rw [ref, if_neg (by simp)] at hnew
    refine ⟨?_, ?_⟩
    · simp only [conn]
      exact .none
    · simp only [dropped]
      exact List.rel_append hdropped (.cons hnew .nil)

end Moves

end AsyncWorld

end Tzrpc
