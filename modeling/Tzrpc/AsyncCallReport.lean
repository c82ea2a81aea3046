import Tzrpc.AsyncCallWorld

/-!
# What the handler hears of asynchronous calls

`handler_` is invoked for the messages of the asynchronous connections and for nothing
else: no call is recorded, and a connection that ends takes its unanswered calls with it.
-/
namespace Tzrpc

open Client (Call RpcClientImpl RpcClientStatus)
open Client.RpcClientImpl (requestMessage)
open Client.TcpConnAsync (messages)

structure Report where
  status : RpcClientStatus
  serviceId : UInt16
  opcode : UInt16
  respload : Bytes
  deriving DecidableEq, Repr

/-- A report without a response has the ids that no service has. -/
def Report.failed (status : RpcClientStatus) : Report := ⟨status, 0xffff, 0xffff, []⟩

/-- `async_recv_wrapper` with `handler_` set. -/
def asyncRecvWrapper (msg : Message) : Report :=
  match RpcResponseMessage.parse msg.payload with
  | none => .failed .RECV_FORMAT_ERROR
  | some res =>
    if res.header.magic ≠ kRpcHeaderMagic then .failed .RECV_FORMAT_ERROR
    else if res.header.status ≠ .OK then .failed ⟨res.header.status.code⟩
    else ⟨.OK, res.header.serviceId, res.header.opcode, res.payload⟩

namespace AsyncWorld

def reports (w : AsyncWorld) : List Report :=
  w.conns.flatMap fun c => c.recv.delivered.map asyncRecvWrapper

/-- As many whole responses were read from the connection as calls were accepted on it. -/
def Answered (S : Setup) (l : Link) : Prop :=
  (messages S.setting l.down.taken).length = l.calls.length

/-- A connection stops working only with all of its calls answered, and no call is made on
one that does not work while a write of it is outstanding. -/
structure LosesNone (S : Setup) (w : AsyncWorld) (e : Event) (w' : AsyncWorld) : Prop where
  stops : ∀ c l d, Becomes w w' c l d → c.net.connStat = .kWorking →
    d.net.connStat ≠ .kWorking → Answered S l
  calls : ∀ c, w.callsOn e = some c → c.net.connStat ≠ .kWorking → c.send.status = .kDone

section Run

variable {S : Setup} {w w' : AsyncWorld} {e : Event} {es : List Event}
  {R R' : Client.TcpConnAsync → Link → Prop}

/-- What holds of the world after every step: the calls that returned `OK` are those accepted
on some connection. -/
structure Counted (S : Setup) (w : AsyncWorld) : Prop where
  setting : w.client.setting = S.setting
  serial : w.client.Serial
  ends : Paired (Ends S) w
  counted : w.client.okCalls.length = (w.links.map fun l => l.calls.length).sum

lemma CallEnds.links {c : Client.TcpConnAsync} {l : Link} (h : CallEnds S w e c l) :
    (w.link.toList.map fun l => l.calls.length).sum = l.calls.length := by
  rcases h with ⟨-, -, hl⟩ | ⟨-, hl, -, rfl⟩
  · simp [hl]
  · simp [hl, Link.unused]

lemma Moves.counted (hm : Moves S w e w')
    (h : w.client.okCalls.length = (w.links.map fun l => l.calls.length).sum) :
    w'.client.okCalls.length = (w'.links.map fun l => l.calls.length).sum := by
  have hdrive : ∀ {c l l' ce}, Link.drive l c ce = some l' → l'.calls = l.calls := by
    intro c l l' ce hl
    obtain ⟨down, -, rfl⟩ := Option.map_eq_some_iff.mp hl
    rfl
  cases hm with
  | same cl hs =>
    rw [hs.ok]
    exact h
  | closed cl c l conn link hs =>
    rw [hs.ok]
    exact h
  | drive c d l l' ce conn link hc hl =>
    rw [links, link] at h
    change w.client.okCalls.length = _
    simpa [links, hdrive hl] using h
  | driveDropped i c d l l' ce conn link hc hl =>
    have hset := map_set_of_eq (f := fun l => l.calls.length) link
      (congrArg List.length (hdrive hl))
    rw [links, List.map_append] at h ⊢
    rw [hset]
    exact h
  | server l l' le link hl =>
    rw [links, link] at h
    simpa [links, (Link.step_client_view hl).1] using h
  | serverDropped i l l' le link hl =>
    have hset := map_set_of_eq (f := fun l => l.calls.length) link
      (congrArg List.length (Link.step_client_view hl).1)
    rw [links, List.map_append] at h ⊢
    rw [hset]
    exact h
  | accepted cl c l call ends fits acc setting conn dropped ok =>
    have hl := ends.links
    rw [links, List.map_append, List.sum_append] at h
    rw [ok, List.length_append, h, hl]
    simp [links, Link.join]
    omega
  | refused cl c l call ends fits ref setting conn dropped ok =>
    have hl := ends.links
    rw [links, List.map_append, List.sum_append] at h
    rw [ok, h, hl]
    simp [links]
    omega

lemma counted_start (S : Setup) : Counted S (start S) :=
  ⟨rfl, RpcClientImpl.serial_of_idle rfl, ⟨.none, .nil⟩, rfl⟩

theorem Counted.step (h : Counted S w) (hs : AsyncWorld.step S w e = some w') :
    Counted S w' ∧ Moves S w e w' := by
  obtain ⟨hm, hset, hserial⟩ := step_moves h.setting h.serial h.ends hs
  refine ⟨⟨hset, hserial, ?_, hm.counted h.counted⟩, hm⟩
  exact h.ends.moves hm (fun _ _ h => h) (fun _ _ _ h => h.close)
    (fun _ _ _ _ _ _ h hc hl => (h.drive hc hl).1) (fun _ _ _ _ h hl => h.server hl)
    (.unused S) fun _ _ _ _ h hfits => h.send hfits

lemma Paired.all (h : Paired R w) : List.Forall₂ R w.conns w.links := by
  refine List.rel_append ?_ h.dropped
  have hheld := h.held
  revert hheld
  generalize w.client.connAsync = x
  generalize w.link = y
  rintro (⟨hR⟩ | -)
  · exact .cons hR .nil
  · exact .nil

lemma reports_length (w : AsyncWorld) :
    w.reports.length = (w.conns.map fun c => c.recv.delivered.length).sum := by
  simp [reports, List.length_flatMap]

theorem Counted.reports_le (h : Counted S w) : w.reports.length ≤ w.client.okCalls.length := by
  rw [reports_length, h.counted]
  exact sum_le_of_forall₂ h.ends.all fun c l hR => hR.delivered_le

def Accounted (S : Setup) (c : Client.TcpConnAsync) (l : Link) : Prop :=
  Ends S c l ∧ (c.net.connStat ≠ .kWorking → c.recv.delivered.length = l.calls.length)

lemma accounted_of_prefix {c d : Client.TcpConnAsync} {l l' : Link} (h : Ends S d l')
    (hcalls : l'.calls = l.calls) (hpre : c.recv.delivered <+: d.recv.delivered)
    (hc : c.recv.delivered.length = l.calls.length) :
    d.recv.delivered.length = l'.calls.length := by
  have hle := h.delivered_le
  have hge := hpre.length_le
  rw [hcalls] at hle ⊢
  omega

theorem Counted.accounted (h : Counted S w) (hp : Paired (Accounted S) w)
    (hs : AsyncWorld.step S w e = some w') (hnone : LosesNone S w e w') :
    Paired (Accounted S) w' := by
  have hstops : ∀ c l d, Becomes w w' c l d → Accounted S c l → d.net.connStat ≠ .kWorking →
      c.recv.delivered.length = l.calls.length := by
    intro c l d hb hacc hnot
    by_cases hw : c.net.connStat = .kWorking
    · rw [hacc.1.trails.delivered_eq hw]
      exact hnone.stops c l d hb hw hnot
    · exact hacc.2 hw
  refine hp.moves (h.step hs).2 (fun _ _ h => h) (fun c l hb hacc => ⟨hacc.1.close, ?_⟩)
    (fun c d l l' ce hb hacc hc hl => ?_) (fun c l l' le hacc hl => ⟨hacc.1.server hl, ?_⟩)
    ⟨.unused S, fun hn => absurd rfl hn⟩ (fun c l call hends hacc hfits => ⟨hacc.1.send hfits, ?_⟩)
  · exact hstops c l _ hb hacc
  · obtain ⟨hends, hpre⟩ := hacc.1.drive hc hl
    obtain ⟨down, -, rfl⟩ := Option.map_eq_some_iff.mp hl
    exact ⟨hends, fun hnot => accounted_of_prefix hends rfl hpre (hstops c l d hb hacc hnot)⟩
  · rw [(Link.step_client_view hl).1]
    exact hacc.2
  · rw [Client.TcpConnAsync.sendNetMessage_net, Client.TcpConnAsync.sendNetMessage_recv]
    intro hnot
    split_ifs with hsent
    · rcases hends with ⟨hon, -, -⟩ | ⟨-, -, rfl, -⟩
      · rcases (Client.TcpConnAsync.sendNetMessage_accepts.mp hsent).2 with hk | hw
        · rw [hnone.calls c hon hnot] at hk
          cases hk
        · exact absurd hw hnot
      · exact absurd (Client.TcpConnAsync.started_net _) hnot
    · exact hacc.2 hnot

theorem counted_visits (h : (machine S).Visits es w) : Counted S w :=
  Machine.visits_of_inductive (M := machine S) (I := Counted S) (C := fun _ _ => True)
    (counted_start S) (fun _ _ _ hi _ hn => (hi.step hn).1) (fun _ _ _ _ => trivial) h

lemma Counted.answered_iff (h : Counted S w) {c : Client.TcpConnAsync} {l : Link}
    (hc : w.client.connAsync = some c) (hl : w.link = some l) (hw : c.net.connStat = .kWorking) :
    Answered S l ↔ c.recv.delivered.length = l.calls.length := by
  obtain ⟨l', hl', hends⟩ := h.ends.held_some hc
  obtain rfl := Option.some.inj (hl'.symm.trans hl)
  rw [Answered, hends.trails.delivered_eq hw]

/-- In every run that loses no call, every call that returned `OK` has been reported once, and
nothing else, in every state in which the connections are closed. -/
theorem async_calls_reported (hrun : (machine S).run es = some w)
    (hnone : ∀ u e v, (machine S).Takes es u e v → LosesNone S u e v)
    (hclosed : ∀ c ∈ w.conns, c.net.connStat = .kClosed) :
    w.reports.length = w.client.okCalls.length := by
  have hinv : Counted S w ∧ Paired (Accounted S) w :=
    Machine.visits_of_inductive (M := machine S)
      (I := fun u => Counted S u ∧ Paired (Accounted S) u)
      (C := fun u e => ∀ v, AsyncWorld.step S u e = some v → LosesNone S u e v)
      ⟨counted_start S, .none, .nil⟩
      (fun u e v hi hc hn => ⟨(hi.1.step hn).1, hi.1.accounted hi.2 hn (hc v hn)⟩)
      (fun u e v ht v' hv' => by
        obtain ⟨-, -, -, hn⟩ := id ht
        obtain rfl := Option.some.inj (hn.symm.trans hv')
        exact hnone u e v ht) (Machine.visits_self hrun)
  obtain ⟨hcounted, hpaired⟩ := hinv
  rw [reports_length, hcounted.counted]
  refine sum_eq_of_forall₂ hpaired.all fun c hc l hacc => hacc.2 ?_
  rw [hclosed c hc]
  decide

end Run

/-- No connection is open and nothing on one can still complete. -/
def Terminal (w : AsyncWorld) : Prop :=
  ∀ c ∈ w.conns, c.net.connStat = .kClosed ∧ c.recv.reads = [] ∧ c.send.writes = []

instance (w : AsyncWorld) : Decidable w.Terminal := inferInstanceAs (Decidable (∀ c ∈ w.conns, _))

def oneService : Setup := ⟨⟨0, 0⟩, 0, 0, 0, fun id => id = 1⟩

/-- A call is accepted and its request sent, and then the server ends the stream. -/
def lostCall : List Event :=
  [.client (.callRPC false 1 1 [0] 0), .client .connected, .client (.asyncConn (.wrote 0 33)),
    .client (.asyncConn (.writeDone 0)), .client (.asyncConn (.readFail 0 .eof))]

def answeredCall : List Event :=
  lostCall.take 4 ++
    [.server (.conn (.readDone 0 (requestMessage ⟨0, false, 1, 1, [0], 0⟩).netStr)),
      .server (.answer 0 (.reply [7]) true), .server (.conn (.wrote 0 34)),
      .client (.asyncConn (.readDone 0
        (Message.ofPayload (RpcResponseMessage.ofReply 1 1 [7]).netStr).netStr)),
      .client (.asyncConn (.readFail 0 .eof))]

theorem lostCall_unreported : ∃ w, (machine oneService).run lostCall = some w ∧ w.Terminal ∧
    w.client.okCalls.length = 1 ∧ w.reports = [] := by
  have h : ((machine oneService).run lostCall).any (fun w =>
      decide (w.Terminal ∧ w.client.okCalls.length = 1 ∧ w.reports = [])) := by
    decide +kernel
  obtain ⟨w, hw, hd⟩ := (Option.any_eq_true _ _).mp h
  exact ⟨w, hw, of_decide_eq_true hd⟩

theorem answeredCall_reported : ∃ w, (machine oneService).run answeredCall = some w ∧ w.Terminal ∧
    w.client.okCalls.length = 1 ∧ w.reports.length = w.client.okCalls.length := by
  have h : ((machine oneService).run answeredCall).any (fun w =>
      decide (w.Terminal ∧ w.client.okCalls.length = 1)) := by
    decide +kernel
  have htrace : ∀ p ∈ (machine oneService).trace (machine oneService).start answeredCall,
      p.1.client.droppedAsync = [] ∧
      (∀ c ∈ p.1.client.connAsync, ∀ l ∈ p.1.link, ∀ d ∈ p.2.2.client.connAsync,
        d.net.connStat ≠ .kWorking → c.recv.delivered.length = l.calls.length) ∧
      ∀ c ∈ p.1.callsOn p.2.1, c.net.connStat ≠ .kWorking → c.send.status = .kDone := by
    decide +kernel
  obtain ⟨w, hw, hd⟩ := (Option.any_eq_true _ _).mp h
  obtain ⟨hterm, hok⟩ := of_decide_eq_true hd
  refine ⟨w, hw, hterm, hok, async_calls_reported hw (fun u e v ht => ?_) fun c hc => ?_⟩
  swap
  · exact (hterm c hc).1
  obtain ⟨hnil, hstops, hcalls⟩ := htrace _ ht.mem_trace
  refine ⟨fun c l d hb hopen hnot => ?_, hcalls⟩
  rcases hb with ⟨hc, hl, hd⟩ | ⟨i, hc, -, -⟩
  · rw [(counted_visits ht.visits).answered_iff hc hl hopen]
    exact hstops c hc l hl d hd hnot
  · rw [show u.client.droppedAsync = [] from hnil] at hc
    simp at hc

end AsyncWorld

end Tzrpc
