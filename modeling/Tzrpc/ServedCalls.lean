import Tzrpc.CallResults
import Tzrpc.ClientConnAsyncSenders
import Tzrpc.SendPipeline
import Tzrpc.ServerReplies

/-!
# Calls through the whole server

An asynchronous connection of a client, with its two threads, is connected to the server as a
whole: acceptor, connections, dispatcher, executors and updates, with every thread preempted
anywhere. Between them is a stream in each direction, of which the other end has read a first
part. As long as no thread starts a write behind the back of another, the handler is invoked with
the answers to calls that keep the size limits, once to each; and to all of them, once nothing
moves any more.
-/
namespace Tzrpc

open Client (Call ClientSetting SharedConn)
open Client.RpcClientImpl (requestMessage)

section Lists

variable {α β : Type*} {f : α → β} {xs : List α} {ys : List β} {P : Prop}

lemma exists_sublist_map (h : ys.Sublist (xs.map f)) (hall : P → ys = xs.map f) :
    ∃ zs : List α, ys = zs.map f ∧ zs.Sublist xs ∧ (P → zs = xs) := by
  obtain ⟨zs, hzs, rfl⟩ := List.sublist_map_iff.mp h
  exact ⟨zs, rfl, hzs, fun hp => hzs.eq_of_length (by simpa using congrArg List.length (hall hp))⟩

lemma exists_subperm_map (h : ys.Subperm (xs.map f)) (hall : P → ys.Perm (xs.map f)) :
    ∃ zs : List α, ys = zs.map f ∧ zs.Subperm xs ∧ (P → zs.Perm xs) := by
  obtain ⟨part, hperm, hsub⟩ := h
  obtain ⟨ws, hws, rfl⟩ := List.sublist_map_iff.mp hsub
  obtain ⟨zs, hzs, hzsperm⟩ : ∃ zs : List α, ys = zs.map f ∧ zs.Perm ws := by
    have hcomp : (Relation.Comp (· = List.map f ·) List.Perm) ys ws := by
      rw [List.eq_map_comp_perm]
      exact hperm.symm
    exact hcomp
  have hzsub : zs.Subperm xs := hzsperm.subperm.trans hws.subperm
  refine ⟨zs, hzs, hzsub, fun hp => hzsub.perm_of_length_le ?_⟩
  have hlen := (hall hp).length_eq
  rw [hzs, List.length_map, List.length_map] at hlen
  exact hlen.ge

end Lists

/-- A message made of a payload whose length the header and the counters of a reader hold. -/
def Message.Fits (msg : Message) : Prop :=
  ∃ data : Bytes, msg = .ofPayload data ∧ data.length + kFixedIoBufferSize.toNat ≤ 2 ^ 32

def Message.frame (msg : Message) : Frame UInt8 := ⟨msg.header.wire, msg.payload⟩

section Frames

variable {limit : Option ℕ} {msgs : List Message} {bytes : Bytes}

lemma Message.Fits.announces {msg : Message} (h : msg.Fits) :
    (wireFraming limit).Announces msg.frame ∧
      msg.frame.body.length + kFixedIoBufferSize.toNat ≤ 2 ^ 32 := by
  obtain ⟨data, rfl, hlen⟩ := h
  have h2048 : kFixedIoBufferSize.toNat = 2048 := rfl
  refine ⟨⟨Header.wire_length _, fun n hn => ?_⟩, hlen⟩
  rw [Message.frame, wireFraming_bodyLen_wire rfl rfl, Message.ofPayload_length (by omega)] at hn
  split_ifs at hn
  exact (Option.some.inj hn).symm

lemma frames_eq (msgs : List Message) :
    frames msgs = ((msgs.map Message.frame).map Frame.elems).flatten := by
  rw [frames, List.map_map]
  rfl

/-- From a first part of the frames a reader gets the first payloads and never waits for more
than its counters hold; from all of them it gets all payloads, unless it refuses one. -/
lemma frames_cut (hfits : ∀ msg ∈ msgs, msg.Fits) (hs : bytes <+: frames msgs) :
    (wireFraming limit).bodies bytes <+: msgs.map Message.payload ∧
      (∀ hd r n, (wireFraming limit).ending bytes = .body hd r →
        (wireFraming limit).bodyLen hd = some n → n + kFixedIoBufferSize.toNat ≤ 2 ^ 32) ∧
      (bytes = frames msgs → (wireFraming limit).ending bytes ≠ .malformed →
        (wireFraming limit).bodies bytes = msgs.map Message.payload) := by
  have hann : ∀ f ∈ msgs.map Message.frame, (wireFraming limit).Announces f ∧
      f.body.length + kFixedIoBufferSize.toNat ≤ 2 ^ 32 := by
    intro f hf
    obtain ⟨msg, hmsg, rfl⟩ := List.mem_map.mp hf
    exact (hfits msg hmsg).announces
  have hbody : (msgs.map Message.frame).map Frame.body = msgs.map Message.payload := by
    rw [List.map_map]
    rfl
  rw [frames_eq] at hs ⊢
  obtain ⟨hbodies, hending⟩ := Framing.parse_of_prefix (fun f hf => (hann f hf).1) hs
  refine ⟨hbody ▸ hbodies, fun hd r n he hn => ?_, fun heq hm => ?_⟩
  · obtain ⟨f, hf, rfl⟩ := hending hd r he
    obtain rfl := (hann f hf).1.2 n hn
    exact (hann f hf).2
  · subst heq
    rw [Framing.bodies_of_frames (fun f hf => (hann f hf).1) hm, hbody]

end Frames

namespace Client

/-- The messages among these that `send_net_message` takes while the connection works. -/
def withinSendLimit (setting : ClientSetting) (msgs : List Message) : List Message :=
  msgs.filter fun msg => !TcpConnAsync.refusesSize setting msg

/-- The bytes of some of the messages are on the wire or about to be; of all that are not too
long, as long as the connection works. -/
def TcpConnAsync.Carries (setting : ClientSetting) (c : TcpConnAsync) (ms : List Message)
    (wire : Bytes) : Prop :=
  ∃ accepted, accepted.Sublist (withinSendLimit setting ms) ∧
    c.Conserves (frames accepted) wire ∧
    (c.net.connStat = .kWorking → accepted = withinSendLimit setting ms)

namespace TcpConnAsync

variable {setting : ClientSetting} {c d : TcpConnAsync} {ms : List Message} {wire : Bytes}

lemma Carries.sends (h : c.Carries setting ms wire) (msg : Message) :
    (c.sendNetMessage setting msg).2.Carries setting (ms ++ [msg]) wire := by
  obtain ⟨accepted, hsub, hcons, hall⟩ := h
  have hcons' := @Conserves.sendNetMessage setting _ _ _ hcons msg
  have hwork : (c.sendNetMessage setting msg).2.net.connStat = .kWorking →
      c.net.connStat = .kWorking := by
    intro hw
    rwa [sendNetMessage_net] at hw
  unfold Carries
  rw [withinSendLimit, List.filter_append, ← withinSendLimit]
  cases hacc : (c.sendNetMessage setting msg).1 with
  | true =>
    have hfits := (sendNetMessage_accepts.mp hacc).1
    rw [hacc, if_pos rfl, ← frames_singleton msg, ← frames_append] at hcons'
    have hone : [msg].filter (fun msg => !refusesSize setting msg) = [msg] := by simp [hfits]
    refine ⟨accepted ++ [msg], ?_, hcons', fun hw => ?_⟩
    · rw [hone]
      exact hsub.append (List.Sublist.refl _)
    · rw [hone, hall (hwork hw)]
  | false =>
    rw [hacc, if_neg (by simp)] at hcons'
    refine ⟨accepted, hsub.trans (List.sublist_append_left _ _), hcons', fun hw => ?_⟩
    have hrefused : refusesSize setting msg = true := by
      by_contra hr
      have htrue := sendNetMessage_accepts.mpr ⟨by simpa using hr, Or.inr (hwork hw)⟩
      rw [hacc] at htrue
      cases htrue
    simp [hall (hwork hw), hrefused]

lemma Carries.completes {e : Event} (h : c.Carries setting ms wire)
    (hs : c.step setting e = some d) : d.Carries setting ms (wire ++ c.putsOnWire e) := by
  obtain ⟨accepted, hsub, hcons, hall⟩ := h
  refine ⟨accepted, hsub, hcons.step hs, fun hw => hall ?_⟩
  by_contra hn
  exact step_stopped hn hs hw

lemma Carries.closes (h : c.Carries setting ms wire) :
    c.shutdownAndCloseSocket.Carries setting ms wire := by
  obtain ⟨accepted, hsub, hcons, -⟩ := h
  have hnot : c.shutdownAndCloseSocket.net.connStat ≠ .kWorking := by
    simp [shutdownAndCloseSocket]
  exact ⟨accepted, hsub, hcons.of_send rfl fun hw => absurd hw hnot, fun hw => absurd hw hnot⟩

lemma Past.carries (h : c.Past setting ms wire) : c.Carries setting ms wire := by
  obtain ⟨as, hrun, rfl, rfl⟩ := h
  refine Machine.run_induction (M := connection setting) (C := fun _ _ => True)
    (P := fun as c => c.Carries setting (as.flatMap Action.sent)
      (((connection setting).trace (connection setting).start as).flatMap
        fun x => x.1.onWire x.2.1)) ?_ (fun as c a d hrun h _ hs => ?_) hrun fun _ _ _ _ => trivial
  · exact ⟨[], List.Sublist.refl _, started_conserves setting, fun _ => rfl⟩
  · have hwire : ((connection setting).trace (connection setting).start (as ++ [a])).flatMap
        (fun x => x.1.onWire x.2.1) = ((connection setting).trace (connection setting).start
          as).flatMap (fun x => x.1.onWire x.2.1) ++ c.onWire a := by
      rw [Machine.trace_append hrun, List.flatMap_append]
      simp [Machine.trace, hs]
    rw [hwire, List.flatMap_append, List.flatMap_singleton]
    cases a with
    | sends msg =>
      obtain rfl := Option.some.inj hs
      exact (List.append_nil _).symm ▸ h.sends msg
    | completes e => exact (List.append_nil (as.flatMap Action.sent)).symm ▸ h.completes hs
    | closes =>
      obtain rfl := Option.some.inj hs
      exact (List.append_nil (as.flatMap Action.sent)).symm ▸
        (List.append_nil _).symm ▸ h.closes

end TcpConnAsync

namespace SharedConn

/-- The connection works, has nothing left to send, and no thread is about to write. -/
structure AtRest (s : SharedConn) : Prop where
  idle : ∀ t, s.pc t = .idle
  working : s.conn.net.connStat = .kWorking
  written : s.conn.send.writes = []
  empty : s.conn.send.bound.buffer.data = []

variable {setting : ClientSetting} {s : SharedConn} {ms : List Message}

lemma Linearised.sent (h : Linearised setting s ms) :
    ∃ accepted, accepted.Sublist (withinSendLimit setting ms) ∧ s.wire <+: frames accepted ∧
      (s.AtRest → accepted = withinSendLimit setting ms ∧ s.wire = frames accepted) := by
  by_cases hrest : s.AtRest
  swap
  · obtain ⟨a, hpast, -⟩ := h.toPast
    obtain ⟨accepted, hsub, hcons, -⟩ := hpast.carries
    exact ⟨accepted, hsub, hcons.sent, fun hr => absurd hr hrest⟩
  obtain ⟨a, past, pending, hpast, halike, hstage, rfl⟩ := h
  obtain ⟨accepted, hsub, hcons, hall⟩ := hpast.carries
  have hw : a.net.connStat = .kWorking := halike.net ▸ hrest.working
  cases hstage with
  | closed hnet => simp [hnet] at hw
  | completing _ _ _ _ _ _ hstrand => exact absurd (hrest.idle .strand) hstrand
  | sending _ _ _ _ _ _ hcaller => exact absurd (hrest.idle .caller) hcaller
  | settled hnet hsend =>
    have hdone : a.send.status = .kDone := by
      cases hk : a.send.status with
      | kDone => rfl
      | kSend =>
        obtain ⟨op, hop⟩ := hpast.stands.1.sending hw hk
        have hnil := hrest.written
        rw [hsend, hop] at hnil
        cases hnil
    rw [List.append_nil]
    refine ⟨accepted, hsub, hcons.sent, fun _ => ⟨hall hw, ?_⟩⟩
    have hbytes := (hcons.idle hdone).2 hw
    rwa [← hsend, hrest.empty, List.append_nil] at hbytes

lemma Exclusively.sent {es : List Event} {calls : List Call} (h : Exclusively setting es s)
    (hcalls : es.flatMap Event.sent = calls.map requestMessage) :
    ∃ sent : List Call,
      let sendable := calls.filter fun call =>
        !TcpConnAsync.refusesSize setting (requestMessage call)
      sent.Sublist sendable ∧ s.wire <+: frames (sent.map requestMessage) ∧
      (s.AtRest → sent = sendable ∧ s.wire = frames (sent.map requestMessage)) := by
  have hlinear := h.linearised
  rw [hcalls] at hlinear
  obtain ⟨accepted, hsub, hwire, hall⟩ := hlinear.sent
  have hsendable : withinSendLimit setting (calls.map requestMessage) =
      (calls.filter fun call =>
        !TcpConnAsync.refusesSize setting (requestMessage call)).map requestMessage := by
    rw [withinSendLimit, List.filter_map]
    rfl
  rw [hsendable] at hsub hall
  obtain ⟨sent, rfl, hsent, heq⟩ := exists_sublist_map hsub fun hrest => (hall hrest).1
  exact ⟨sent, hsent, hwire, fun hrest => ⟨heq hrest, (hall hrest).2⟩⟩

def Event.received : Event → Bytes
  | .readDone _ bytes => bytes
  | _ => []

lemma step_trails {t : SharedConn} {e : Event} {bytes : Bytes}
    (h : s.conn.Trails setting bytes) (hB : Bounded setting bytes)
    (hs : step setting s e = some t) : t.conn.Trails setting (bytes ++ e.received) := by
  have hsend : ∀ {c : TcpConnAsync}, c.recv = s.conn.recv → c.net = s.conn.net →
      c.Trails setting (bytes ++ []) := by
    intro c hr hn
    rw [List.append_nil]
    exact h.of_recv hr fun hw => hn ▸ hw
  cases e with
  | send msg =>
    simp only [step] at hs
    split_ifs at hs
    · exact Option.some.inj hs ▸ hsend rfl rfl
    · exact Option.some.inj hs ▸ hsend rfl rfl
  | test th =>
    by_cases hpc : s.pc th = .atTest
    · rw [step, if_pos hpc] at hs
      exact Option.some.inj hs ▸ hsend rfl rfl
    · simp [step, hpc] at hs
  | critical th =>
    simp only [step] at hs
    split_ifs at hs
    obtain rfl := Option.some.inj hs
    exact hsend (TcpConnAsync.doWriteCritical_recv _) (TcpConnAsync.doWriteCritical_net _)
  | wrote i n =>
    obtain ⟨c, hc, rfl⟩ := Option.map_eq_some_iff.mp hs
    exact (List.append_nil _).symm ▸ (h.step (by simp) hc).1
  | writeDone i =>
    obtain ⟨op, -, hs⟩ := Option.bind_eq_some_iff.mp hs
    split_ifs at hs
    exact Option.some.inj hs ▸ hsend rfl rfl
  | writeFail i ec =>
    obtain ⟨-, c, hc, rfl⟩ := handle_some hs
    exact (List.append_nil _).symm ▸ (h.step (by simp) hc).1
  | readDone i bytes =>
    obtain ⟨-, c, hc, rfl⟩ := handle_some hs
    exact (h.readDone hB hc).1
  | readFail i ec =>
    obtain ⟨-, c, hc, rfl⟩ := handle_some hs
    exact (List.append_nil _).symm ▸ (h.step (by simp) hc).1
  | closes =>
    obtain rfl := Option.some.inj hs
    refine (List.append_nil _).symm ▸ h.of_recv rfl fun hw => ?_
    simp [TcpConnAsync.shutdownAndCloseSocket] at hw

lemma run_trails {es : List Event} (hrun : (machine setting).run es = some s)
    (hB : ∀ bytes, bytes <+: es.flatMap Event.received → Bounded setting bytes) :
    s.conn.Trails setting (es.flatMap Event.received) := by
  refine Machine.run_induction (M := machine setting) (C := fun _ _ => True)
    (P := fun es s => (∀ bytes, bytes <+: es.flatMap Event.received → Bounded setting bytes) →
      s.conn.Trails setting (es.flatMap Event.received))
    (fun _ => TcpConnAsync.started_trails setting) (fun es s e t _ h _ hs hB => ?_) hrun
    (fun _ _ _ _ => trivial) hB
  rw [List.flatMap_append, List.flatMap_singleton] at hB ⊢
  exact step_trails (h fun bytes hb => hB bytes (hb.trans (List.prefix_append _ _)))
    (hB _ (List.prefix_append _ _)) hs

lemma run_reports {es : List Event} (hrun : (machine setting).run es = some s)
    {msgs : List Message} (hfits : ∀ msg ∈ msgs, msg.Fits)
    (hs : es.flatMap Event.received <+: frames msgs) :
    ∃ got, got <+: msgs ∧
      s.conn.recv.delivered.map asyncRecvWrapper = got.map asyncRecvWrapper ∧
      (s.conn.net.connStat = .kWorking → es.flatMap Event.received = frames msgs →
        got = msgs) := by
  have htrails := run_trails hrun fun bytes hb hd r n he hn =>
    (frames_cut hfits (hb.trans hs)).2.1 hd r n he hn
  obtain ⟨hbodies, -, hall⟩ := @frames_cut (limitOf setting.recvMaxMsgSize) _ _ hfits hs
  have hmessages : (TcpConnAsync.messages setting (es.flatMap Event.received)).map Message.payload =
      (wireFraming (limitOf setting.recvMaxMsgSize)).bodies (es.flatMap Event.received) := by
    rw [TcpConnAsync.messages, List.map_map]
    rfl
  have hpre := (htrails.delivered_prefix.map Message.payload).trans (hmessages ▸ hbodies)
  let n := s.conn.recv.delivered.length
  have htake : s.conn.recv.delivered.map Message.payload = (msgs.take n).map Message.payload := by
    rw [List.prefix_iff_eq_take.mp hpre, List.length_map, List.map_take]
  refine ⟨msgs.take n, List.take_prefix n msgs, ?_, fun hw heq => List.take_of_length_le ?_⟩
  · have hmap := congrArg (List.map fun p => asyncRecvWrapper ⟨Header.zero, p⟩) htake
    rw [List.map_map, List.map_map] at hmap
    exact hmap
  · have hread : (wireFraming (limitOf setting.recvMaxMsgSize)).ending
        (es.flatMap Event.received) ≠ .malformed := by
      intro hm
      rcases htrails with ⟨-, id, kind, k, p, -, hp, -⟩ | ⟨-, hnot, -⟩
      · have hnone := congrArg Ending.pending hm
        exact absurd (hp.symm.trans hnone) (by simp [Ending.pending])
      · exact hnot hw
    have hlen := congrArg List.length (hall heq hread)
    rw [← hmessages, ← htrails.delivered_eq hw, List.length_map, List.length_map] at hlen
    exact hlen.ge

end SharedConn

end Client

namespace Server

variable {pb : ProtoBuf} {services : UInt16 → Bool} {env : ServerEnv} {s : Server} {k : ℕ}
  {p : AcceptedConn}

lemma Serving.wellFormed (h : Serving pb services env s) (hp : s.conns[k]? = some p)
    (hrest : p.Resting) : (TcpConnAsync.framing env).ending p.received ≠ .malformed := by
  intro hm
  rcases ((h.conns k p hp).receives s.net).of_idle hrest.idle with ⟨-, hawaits, -⟩ | ⟨hreads, -⟩
  · rw [hm] at hawaits
    exact hrest.reading hawaits
  · exact hrest.reading hreads

end Server

namespace Client

def Call.response (pb : ProtoBuf) (services : UInt16 → Bool) (call : Call) : Message :=
  (Dispatcher.handleRPC services
    (.ofPayload 0 0 (requestMessage call).payload)).2.answerMessage (call.answer pb services)

section Response

variable {pb : ProtoBuf} {services : UInt16 → Bool} {call : Call} {setting : ClientSetting}

lemma Call.answer_fits (hpb : ∀ r, (pb.marshallingToString r).length < 2 ^ 31) :
    (call.answer pb services).fits := by
  unfold Call.answer
  split_ifs
  · rfl
  · rfl
  · cases XtraTaskService.readResponse pb call.payload with
    | none => rfl
    | some response => exact decide_eq_true (hpb response)
  · decide
  · rfl

lemma Call.request_fits (hlen : call.payload.length < 2 ^ 31) : (requestMessage call).Fits := by
  refine ⟨_, rfl, ?_⟩
  have h2048 : kFixedIoBufferSize.toNat = 2048 := rfl
  have h31 := requestMessage_length hlen
  simp only [requestMessage, Message.ofPayload_payload, RpcRequestHeader.size] at h31
  omega

lemma Call.responses_request (hlen : call.payload.length < 2 ^ 31) :
    Dispatcher.responses pb services (requestMessage call).payload =
      [call.response pb services] := by
  have hanswers := @Setup.answers_request ⟨⟨0, 0⟩, 0, 0, 0, services⟩ pb _ hlen
  rw [Dispatcher.responses, hanswers]
  rfl

lemma Call.response_fits (hpb : ∀ r, (pb.marshallingToString r).length < 2 ^ 31) :
    (call.response pb services).Fits := by
  have hfits := @Call.answer_fits pb services call hpb
  have h2048 : kFixedIoBufferSize.toNat = 2048 := rfl
  unfold Call.response
  cases hans : call.answer pb services with
  | reply p =>
    rw [hans] at hfits
    have hp : p.length < 2 ^ 31 := of_decide_eq_true hfits
    refine ⟨_, rfl, ?_⟩
    rw [RpcResponseMessage.netStr_length]
    simp only [RpcResponseMessage.ofReply, RpcResponseHeader.size]
    omega
  | reject status =>
    refine ⟨_, rfl, ?_⟩
    rw [RpcResponseMessage.netStr_length]
    simp [RpcResponseMessage.ofStatus, RpcResponseHeader.size, h2048]

lemma Call.asyncRecvWrapper_response (hpb : ∀ r, (pb.marshallingToString r).length < 2 ^ 31)
    (hlen : call.payload.length < 2 ^ 31) :
    asyncRecvWrapper (call.response pb services) =
      .ofAnswer call (call.answer pb services) :=
  Setup.asyncRecvWrapper_response (S := ⟨⟨0, 0⟩, 0, 0, 0, services⟩) hlen
    (Call.answer_fits hpb) 0 true

end Response

end Client

namespace Server

variable {pb : ProtoBuf} {services : UInt16 → Bool} {env : ServerEnv} {setting : ClientSetting}
  {s : Server} {k : ℕ} {p : AcceptedConn} {u : SharedConn} {received : Bytes} {calls : List Call}

/-- Neither the client nor the server refuses to send what belongs to the call. -/
def withinLimits (pb : ProtoBuf) (services : UInt16 → Bool) (setting : ClientSetting)
    (env : ServerEnv) (call : Call) : Bool :=
  !Client.TcpConnAsync.refusesSize setting (requestMessage call) &&
    !TcpConnAsync.refusesSize env (call.response pb services)

lemma filter_withinLimits (calls : List Call) :
    calls.filter (withinLimits pb services setting env) = (calls.filter fun call =>
      !Client.TcpConnAsync.refusesSize setting (requestMessage call)).filter fun call =>
        !TcpConnAsync.refusesSize env (call.response pb services) := by
  rw [List.filter_filter]
  exact List.filter_congr fun call _ => Bool.and_comm _ _

/-- Each end has read a first part of what the other has put on the wire. -/
structure Joined (p : AcceptedConn) (u : SharedConn) (received : Bytes) : Prop where
  up : p.received <+: u.wire
  down : received <+: p.senders.wire

/-- Everything sent has been read, and nobody has anything left to do. -/
structure Drained (s : Server) (p : AcceptedConn) (u : SharedConn) (received : Bytes) :
    Prop where
  quiescent : s.rpc.Quiescent
  server : p.Resting
  client : u.AtRest
  up : p.received = u.wire
  down : received = p.senders.wire

lemma acceptsAll_responses (hlen : ∀ call ∈ calls, call.payload.length < 2 ^ 31) :
    TcpConnAsync.acceptsAll env ((calls.map fun call => (requestMessage call).payload).flatMap
        (Dispatcher.responses pb services)) =
      (calls.filter fun call => !TcpConnAsync.refusesSize env (call.response pb services)).map
        (Call.response pb services) := by
  induction calls with
  | nil => rfl
  | cons call calls ih =>
    obtain ⟨hcall, hcalls⟩ := List.forall_mem_cons.mp hlen
    have ih := ih hcalls
    rw [TcpConnAsync.acceptsAll] at ih ⊢
    rw [List.map_cons, List.flatMap_cons, List.flatMap_append, ih,
      Call.responses_request hcall, List.flatMap_singleton, TcpConnAsync.accepts, List.filter_cons]
    cases TcpConnAsync.refusesSize env (call.response pb services) <;> rfl

/-- The bytes sent on a connection that has received a first part of the requests of these calls
are a first part of the responses to some of them, and at rest the responses to all. -/
lemma Serving.answers (h : Serving pb services env s) (hordered : s.Ordered)
    (hp : s.conns[k]? = some p) (hlen : ∀ call ∈ calls, call.payload.length < 2 ^ 31)
    (hup : p.received <+: frames (calls.map requestMessage)) :
    ∃ answered : List Call, answered.Subperm calls ∧
      let responses := (answered.filter fun call =>
        !TcpConnAsync.refusesSize env (call.response pb services)).map (Call.response pb services)
      p.senders.wire <+: frames responses ∧
      (s.rpc.Quiescent → p.Resting → p.received = frames (calls.map requestMessage) →
        answered.Perm calls ∧ p.senders.wire = frames responses) := by
  obtain ⟨order, hsub, hacc, hall⟩ := h.requests hp
  have hsends := hordered p (List.mem_of_getElem? hp)
  have hfits : ∀ msg ∈ calls.map requestMessage, msg.Fits := by
    intro msg hmsg
    obtain ⟨call, hcall, rfl⟩ := List.mem_map.mp hmsg
    exact Call.request_fits (hlen call hcall)
  obtain ⟨hbodies, -, hwhole⟩ :=
    @frames_cut (limitOf env.recvMaxMsgSize.toUInt32) _ _ hfits hup
  rw [List.map_map] at hbodies hwhole
  obtain ⟨answered, rfl, hans, hperm⟩ := exists_subperm_map
    (P := s.rpc.Quiescent ∧ p.Resting ∧ p.received = frames (calls.map requestMessage))
    (hsub.trans hbodies.sublist.subperm) fun hrest => by
      have hord := hall hrest.1 hrest.2.1
      rwa [TcpConnAsync.framing, hwhole hrest.2.2 (h.wellFormed hp hrest.2.1)] at hord
  have hanswered : ∀ call ∈ answered, call.payload.length < 2 ^ 31 :=
    fun call hcall => hlen call (hans.subset hcall)
  rw [show answered.map (Message.payload ∘ requestMessage) =
    answered.map (fun call => (requestMessage call).payload) from rfl,
    acceptsAll_responses hanswered] at hacc
  have hframes : p.senders.frames = frames ((answered.filter fun call =>
      !TcpConnAsync.refusesSize env (call.response pb services)).map
        (Call.response pb services)) := by
    rw [Senders.frames, hacc, frames]
  exact ⟨answered, hans, hframes ▸ hsends.sent, fun hq hrest heq =>
    ⟨hperm ⟨hq, hrest, heq⟩, (hrest.wire_eq hsends).trans hframes⟩⟩

variable {doc : NetworkDoc} {table : List (UInt16 × ℕ)}

/-- End to end through the whole server, without writes behind outstanding ones: the handler is
invoked with the answers to calls that keep the size limits, once to each, and in the end to all
of them. -/
theorem calls_served {es : List Event} (hroom : WithinWord pb doc table es)
    (hpb : ∀ r, (pb.marshallingToString r).length < 2 ^ 31)
    (hrun : (machine pb doc table).run es = some s)
    (hx : ∀ s e t, (machine pb doc table).Takes es s e t → s.exclusive e = true)
    (hp : s.conns[k]? = some p) {cs : List SharedConn.Event}
    (hclient : SharedConn.Exclusively setting cs u)
    (hcalls : cs.flatMap SharedConn.Event.sent = calls.map requestMessage)
    (hlen : ∀ call ∈ calls, call.payload.length < 2 ^ 31)
    (hjoined : Joined p u (cs.flatMap SharedConn.Event.received)) :
    ∃ answered : List Call,
      let services := (RpcServer.start table).services
      let servable := calls.filter (withinLimits pb services setting (start doc table).env)
      answered.Subperm servable ∧
      u.conn.recv.delivered.map asyncRecvWrapper =
        (answered.map fun call => Report.ofAnswer call (call.answer pb services)) ∧
      (s.Drained p u (cs.flatMap SharedConn.Event.received) → answered.Perm servable) := by
  have hserving := run_serving hroom hrun
  -- The client has accepted `sent`, and the server has answered `answered` of these.
  obtain ⟨sent, hsent, hwire, hall⟩ := hclient.sent hcalls
  have hsentlen : ∀ call ∈ sent, call.payload.length < 2 ^ 31 :=
    fun call hcall => hlen call (List.mem_of_mem_filter (hsent.subset hcall))
  obtain ⟨answered, hans, hdown, hrest⟩ :=
    hserving.answers (run_ordered hrun hx) hp hsentlen (hjoined.up.trans hwire)
  have hanslen : ∀ call ∈ answered, call.payload.length < 2 ^ 31 :=
    fun call hcall => hsentlen call (hans.subset hcall)
  -- The client hands on the first of the responses the server has accepted.
  let responded := answered.filter fun call =>
    !TcpConnAsync.refusesSize (start doc table).env
      (call.response pb (RpcServer.start table).services)
  have hfits : ∀ msg ∈ responded.map (Call.response pb (RpcServer.start table).services),
      msg.Fits := by
    intro msg hmsg
    obtain ⟨call, -, rfl⟩ := List.mem_map.mp hmsg
    exact Call.response_fits hpb
  obtain ⟨got, hgot, hreports, hgotall⟩ :=
    SharedConn.run_reports hclient.1 hfits (hjoined.down.trans hdown)
  obtain ⟨handed, rfl, hhanded, hhandedall⟩ := exists_sublist_map (P := got = _) hgot.sublist id
  refine ⟨handed, ?_, ?_, fun hdrained => ?_⟩
  · rw [filter_withinLimits]
    exact hhanded.subperm.trans ((hans.trans hsent.subperm).filter _)
  · rw [hreports, List.map_map]
    refine List.map_congr_left fun call hcall => ?_
    exact Call.asyncRecvWrapper_response hpb
      (hanslen call (List.mem_of_mem_filter (hhanded.subset hcall)))
  · obtain ⟨hperm, hwhole⟩ := hrest hdrained.quiescent hdrained.server
      (hdrained.up.trans (hall hdrained.client).2)
    rw [hhandedall (hgotall hdrained.client.working (hdrained.down.trans hwhole)),
      filter_withinLimits]
    exact ((hall hdrained.client).1 ▸ hperm).filter _

/-- The two requests of `overtakingSample`, and the two responses to them. The second request
is appended while the first is written. -/
def sampleCalls : List Call := [⟨0, false, 1, 2, [5], 0⟩, ⟨1, false, 9, 2, [5], 0⟩]

def sampleClient : List SharedConn.Event :=
  let request (service : UInt16) := requestMessage ⟨0, false, service, 2, [5], 0⟩
  let response (call : Call) := (call.response ⟨fun _ => none, fun _ => []⟩
    (RpcServer.start [(1, 1)]).services).netStr
  [.send (request 1), .test .caller, .critical .caller, .send (request 9), .test .caller,
    .wrote 0 33, .writeDone 0, .test .strand, .critical .strand, .wrote 0 33, .writeDone 0,
    .test .strand, .critical .strand, .readDone 0 (sampleCalls.flatMap response)]

lemma sampleClient_drained : ∃ s p u, sampleMachine.run overtakingSample = some s ∧
    s.conns[0]? = some p ∧ (SharedConn.machine ⟨0, 0⟩).run sampleClient = some u ∧
    s.Drained p u (sampleClient.flatMap SharedConn.Event.received) ∧
    u.conn.recv.delivered.length = 2 := by
  have hruns : (sampleMachine.run overtakingSample).any (fun s => s.conns[0]?.any fun p =>
      ((SharedConn.machine ⟨0, 0⟩).run sampleClient).any fun u =>
        decide ((u.pc .strand = .idle ∧ u.pc .caller = .idle ∧ u.conn.net.connStat = .kWorking ∧
          u.conn.send.writes = [] ∧ u.conn.send.bound.buffer.data = []) ∧
          p.received = u.wire ∧
          sampleClient.flatMap SharedConn.Event.received = p.senders.wire ∧
          u.conn.recv.delivered.length = 2)) := by
    decide +kernel
  obtain ⟨s, p, hs, hp, hq, hrest, -⟩ := overtakingSample_rests
  rw [hs, Option.any_some, hp, Option.any_some] at hruns
  obtain ⟨u, hu, hd⟩ := (Option.any_eq_true _ _).mp hruns
  obtain ⟨⟨hstrand, hcaller, hwork, hwrites, hempty⟩, hup, hdown, hlen⟩ := of_decide_eq_true hd
  refine ⟨s, p, u, hs, hp, hu, ⟨hq, hrest, ⟨fun th => ?_, hwork, hwrites, hempty⟩, hup, hdown⟩,
    hlen⟩
  cases th with
  | strand => exact hstrand
  | caller => exact hcaller

/-- What the worker answers and what the dispatcher rejects both reach the handler. -/
theorem sampleClient_served : ∃ u answered, (SharedConn.machine ⟨0, 0⟩).run sampleClient = some u ∧
    u.conn.recv.delivered.length = 2 ∧ List.Perm answered sampleCalls ∧
    u.conn.recv.delivered.map asyncRecvWrapper = answered.map fun call =>
      .ofAnswer call (call.answer ⟨fun _ => none, fun _ => []⟩
        (RpcServer.start [(1, 1)]).services) := by
  obtain ⟨s, p, u, hs, hp, hu, hdrained, hlen⟩ := sampleClient_drained
  have htrace : ∀ x ∈ sampleMachine.trace sampleMachine.start overtakingSample,
      x.1.exclusive x.2.1 = true := List.all_eq_true.mp (by decide +kernel)
  have hone : ∀ x ∈ (SharedConn.machine ⟨0, 0⟩).trace (SharedConn.machine ⟨0, 0⟩).start
      sampleClient, x.2.2.conn.send.writes.length ≤ 1 := by
    decide +kernel
  have hclient : SharedConn.Exclusively ⟨0, 0⟩ sampleClient u :=
    SharedConn.exclusively_iff.mpr ⟨hu, fun v hv =>
      hv.of_trace (P := fun v => v.conn.send.writes.length ≤ 1) (Nat.zero_le _) hone⟩
  have hcalls : sampleClient.flatMap SharedConn.Event.sent = sampleCalls.map requestMessage := by
    decide +kernel
  have hlimits : sampleCalls.filter (withinLimits ⟨fun _ => none, fun _ => []⟩
      (RpcServer.start [(1, 1)]).services ⟨0, 0⟩ (start sampleDoc [(1, 1)]).env) =
        sampleCalls := by
    decide +kernel
  have hpb : ∀ r, ((⟨fun _ => none, fun _ => []⟩ : ProtoBuf).marshallingToString r).length <
      2 ^ 31 := fun _ => Nat.two_pow_pos 31
  obtain ⟨answered, -, hreports, hall⟩ := calls_served overtakingSample_withinWord hpb hs
    (fun s e t ht => htrace _ ht.mem_trace) hp hclient hcalls (by decide)
    ⟨hdrained.up ▸ List.prefix_refl _, hdrained.down ▸ List.prefix_refl _⟩
  exact ⟨u, answered, hu, hlen, hlimits ▸ hall hdrained, hreports⟩

end Server

end Tzrpc
