import Tzrpc.NetServer
import Tzrpc.TcpConnAsyncTimeout

/-!
# A connection under updates

The operation timeout can change while a handler runs. The read chain is cut here into its
single calls, and `do_write` into its test and its critical section, so that updates and
other threads come in between any two of them.
-/
namespace Tzrpc

/-- Where the strand is in the read chain: in no handler, behind the append of
`read_handler` or `read_msg_handler`, or about to call `do_read` or `do_read_msg`. -/
inductive ReadPc
  | idle
  | handler (kind : ReadKind)
  | call (kind : ReadKind)
  deriving DecidableEq, Repr

structure UpdatedConn where
  senders : Senders
  readPc : ReadPc
  /-- `server_`. -/
  server : NetServer

namespace UpdatedConn

variable (inlineReply : Bytes → Option Message)

def conn (s : UpdatedConn) : TcpConnAsync := s.senders.conn

def opsCancelTimeOut (s : UpdatedConn) : Int32 := s.server.conf.opsCancelTimeOut

def env (s : UpdatedConn) : ServerEnv where
  recvMaxMsgSize := s.server.conf.recvMaxMsgSize
  sendMaxMsgSize := s.server.conf.sendMaxMsgSize
  opsCancelTimeOut := s.opsCancelTimeOut
  inlineReply := inlineReply

def setConn (s : UpdatedConn) (c : TcpConnAsync) (readPc : ReadPc) : UpdatedConn :=
  { s with senders := { s.senders with conn := c }, readPc := readPc }

def strandFree (s : UpdatedConn) : Bool :=
  decide (s.readPc = .idle) && decide (s.senders.pc .strand = .idle)

instance (c : TcpConnAsync) (kind : ReadKind) : Decidable (c.Lacks kind) :=
  match kind with
  | .head => inferInstanceAs (Decidable (_ < _))
  | .body => inferInstanceAs (Decidable (_ < _))

def atLeast (c : TcpConnAsync) : ReadKind → ℕ
  | .head => Header.size - c.recv.bound.buffer.getLength.toNat
  | .body =>
    (min (c.recv.bound.header.length - c.recv.bound.buffer.getLength) kFixedIoBufferSize).toNat

/-- `Dispatcher::handle_RPC` up to the append of the rejection it may send. -/
def dispatch (s : UpdatedConn) (payload : Bytes) : Option UpdatedConn :=
  let c := { s.conn with recv := { s.conn.recv with
    dispatched := s.conn.recv.dispatched ++ [payload] } }
  let s := s.setConn c (.call .head)
  match inlineReply payload with
  | none => some s
  | some msg =>
    (Senders.step (s.env inlineReply) s.senders (.append .strand msg)).map fun senders =>
      { s with senders := senders }

/-- `parse_header` or `parse_msg_body` and what the chain does with the outcome. -/
def parse (s : UpdatedConn) : ReadKind → Option UpdatedConn
  | .head =>
    let res := s.conn.parseHeader (s.env inlineReply)
    if res.1 = 0 then some (s.setConn res.2 (.call .body))
    else if 0 < res.1 then some (s.setConn res.2 (.call .head))
    else some (s.setConn res.2.sockShutdownAndClose .idle)
  | .body =>
    let res := s.conn.parseMsgBody ⟨Header.zero, []⟩
    if res.1 = 0 then (s.setConn res.2.2 (.call .head)).dispatch inlineReply res.2.1.payload
    else if 0 < res.1 then some (s.setConn res.2.2 (.call .body))
    else some (s.setConn res.2.2.sockShutdownAndClose .idle)

/-- `read_handler` or `read_msg_handler` behind its append. -/
def handleRead (s : UpdatedConn) (kind : ReadKind) : Option UpdatedConn :=
  if kind = .head ∧ s.conn.Lacks .head then some (s.setConn s.conn (.call .head))
  else s.parse inlineReply kind

/-- `do_read` or `do_read_msg`. -/
def callRead (s : UpdatedConn) (kind : ReadKind) : Option UpdatedConn :=
  if s.conn.net.connStat ≠ .kWorking then some (s.setConn s.conn .idle)
  else if s.conn.wasCancelled then some (s.setConn s.conn .idle)
  else if s.conn.Lacks kind then
    some (s.setConn ((s.conn.setOpsCancelTimeout (s.env inlineReply)).asyncRead kind
      (atLeast s.conn kind)) .idle)
  else s.parse inlineReply kind

/-- One call of the read chain, once the strand is out of `do_write`. -/
def chain (s : UpdatedConn) : Option UpdatedConn :=
  if s.senders.pc .strand ≠ .idle then none
  else
    match s.readPc with
    | .idle => none
    | .handler kind => s.handleRead inlineReply kind
    | .call kind => s.callRead inlineReply kind

/-- The steps of the send side that may be taken now. The strand sends only from a dispatch,
and starts a handler only when it is in none. -/
def allows (s : UpdatedConn) : Senders.Event → Bool
  | .append .strand _ => false
  | .writeDone _ => s.strandFree
  | .writeFail _ _ => s.strandFree
  | .readFail _ => false
  | .refuseHead => false
  | _ => true

inductive Event
  | start
  | readDone (i : ℕ) (bytes : Bytes)
  | readFail (i : ℕ) (ec : ErrorCode)
  | chain
  | sender (e : Senders.Event)
  | moduleRuntime (doc : NetworkDoc)
  deriving DecidableEq, Repr

def step (s : UpdatedConn) : Event → Option UpdatedConn
  | .start =>
    if s.conn.net.connStat = .kPending ∧ s.strandFree then
      some (s.setConn { s.conn with net := s.conn.net.setConnStat .kWorking } (.call .head))
    else none
  | .readDone i bytes =>
    s.conn.recv.reads[i]?.bind fun op =>
      if s.strandFree ∧ op.atLeast ≤ bytes.length ∧ bytes.length ≤ kFixedIoBufferSize.toNat then
        some (s.setConn ((s.conn.dropRead i).revokeOpsCancelTimeout.received bytes)
          (.handler op.kind))
      else none
  | .readFail i ec =>
    s.conn.recv.reads[i]?.bind fun _ =>
      if s.strandFree ∧ s.conn.mayFail ec then
        some (s.setConn ((s.conn.dropRead i).readFailed ec) .idle)
      else none
  | .chain => s.chain inlineReply
  | .sender e =>
    if s.allows e then
      (Senders.step (s.env inlineReply) s.senders e).map fun senders =>
        { s with senders := senders }
    else none
  | .moduleRuntime doc => some { s with server := (s.server.moduleRuntime doc).2 }

def machine (doc : NetworkDoc) : Machine UpdatedConn Event :=
  ⟨⟨⟨.fresh, fun _ => .idle, [], []⟩, .idle, (NetServer.init doc).2⟩, step inlineReply⟩

def SetsTimeout (s : UpdatedConn) : Event → Prop
  | .chain => s.senders.pc .strand = .idle ∧
      ∃ kind, s.readPc = .call kind ∧ ¬ s.conn.Halted ∧ s.conn.Lacks kind
  | .sender (.critical t) =>
    s.senders.pc t = .atCritical ∧ s.conn.send.bound.buffer.getLength ≠ 0
  | _ => False

def Completes : Event → Prop
  | .readDone _ _ => True
  | .readFail _ _ => True
  | .sender (.writeDone _) => True
  | .sender (.writeFail _ _) => True
  | _ => False

/-- An operation has been started under a timeout, and none has completed since. -/
def Guarded (M : Machine UpdatedConn Event) (es : List Event) : Prop :=
  ∃ pre e mid s, es = pre ++ e :: mid ∧ M.run pre = some s ∧ s.SetsTimeout e ∧
    s.opsCancelTimeOut ≠ 0 ∧ ∀ f ∈ mid, ¬ Completes f

section Step

variable {inlineReply : Bytes → Option Message} {s t : UpdatedConn}

@[simp] lemma setConn_conn (s : UpdatedConn) (c : TcpConnAsync) (pc : ReadPc) :
    (s.setConn c pc).conn = c := rfl

def SameTimer (s t : UpdatedConn) : Prop :=
  t.conn.opsCancelTimer = s.conn.opsCancelTimer ∧ t.conn.ops = s.conn.ops

lemma dispatch_timer {payload : Bytes} (hs : s.dispatch inlineReply payload = some t) :
    SameTimer s t := by
  unfold dispatch at hs
  cases hr : inlineReply payload with
  | none =>
    rw [hr] at hs
    obtain rfl := Option.some.inj hs
    exact ⟨rfl, rfl⟩
  | some msg =>
    rw [hr] at hs
    obtain ⟨senders, hsend, rfl⟩ := Option.map_eq_some_iff.mp hs
    simp only [Senders.step] at hsend
    split_ifs at hsend <;> obtain rfl := Option.some.inj hsend <;> exact ⟨rfl, rfl⟩

lemma parse_timer {kind : ReadKind} (hs : s.parse inlineReply kind = some t) : SameTimer s t := by
  cases kind with
  | head =>
    simp only [parse] at hs
    split_ifs at hs <;> obtain rfl := Option.some.inj hs <;> exact ⟨rfl, rfl⟩
  | body =>
    simp only [parse] at hs
    split_ifs at hs
    · have h := dispatch_timer hs
      exact h
    · obtain rfl := Option.some.inj hs
      exact ⟨rfl, rfl⟩
    · obtain rfl := Option.some.inj hs
      exact ⟨rfl, rfl⟩

lemma chain_timer (hs : s.chain inlineReply = some t) :
    (s.SetsTimeout .chain ∧
      t.conn.opsCancelTimer = (s.conn.setOpsCancelTimeout (s.env inlineReply)).opsCancelTimer ∧
      t.conn.ops = s.conn.ops + 1) ∨ (¬ s.SetsTimeout .chain ∧ SameTimer s t) := by
  unfold chain at hs
  split_ifs at hs with hpc
  rw [not_not] at hpc
  cases hr : s.readPc with
  | idle => simp [hr] at hs
  | handler kind =>
    simp only [hr, handleRead] at hs
    refine Or.inr ⟨by simp [SetsTimeout, hr], ?_⟩
    split_ifs at hs with hshort
    · obtain rfl := Option.some.inj hs
      exact ⟨rfl, rfl⟩
    · exact parse_timer hs
  | call kind =>
    simp only [hr, callRead] at hs
    have hsets : s.SetsTimeout .chain ↔ ¬ s.conn.Halted ∧ s.conn.Lacks kind := by
      simp [SetsTimeout, hpc, hr]
    split_ifs at hs with hw hc hl
    · obtain rfl := Option.some.inj hs
      exact Or.inr ⟨fun h => (hsets.mp h).1 (Or.inl hw), rfl, rfl⟩
    · obtain rfl := Option.some.inj hs
      exact Or.inr ⟨fun h => (hsets.mp h).1 (Or.inr hc), rfl, rfl⟩
    · obtain rfl := Option.some.inj hs
      refine Or.inl ⟨hsets.mpr ⟨?_, hl⟩, rfl, ?_⟩
      · simp [TcpConnAsync.Halted, hw, hc]
      · simp [TcpConnAsync.asyncRead]
    · exact Or.inr ⟨fun h => hl (hsets.mp h).2, parse_timer hs⟩

lemma readFailed_object (c : TcpConnAsync) (ec : ErrorCode) :
    (c.readFailed ec).opsCancelTimer.object = none ∧ (c.readFailed ec).ops = c.ops := by
  have hrevoked := (TcpConnAsync.revokeOpsCancelTimeout_timer c).1
  refine ⟨?_, by simp [TcpConnAsync.readFailed, TcpConnAsync.handleSocketEc_ops]⟩
  unfold TcpConnAsync.readFailed TcpConnAsync.handleSocketEc
  split_ifs
  · exact (TcpConnAsync.revokeOpsCancelTimeout_timer _).1
  · exact hrevoked

/-- What a step can do to the timer: a completion leaves none, the start of an operation
sets it under the current timeout, and any other step leaves it there or absent. -/
inductive Effect (env : ServerEnv) (s : UpdatedConn) (e : Event) (t : UpdatedConn) : Prop
  | completed (h : Completes e) (hn : ¬ s.SetsTimeout e)
      (ho : t.conn.opsCancelTimer.object = none) (hops : t.conn.ops = s.conn.ops)
  | started (h : s.SetsTimeout e) (hn : ¬ Completes e)
      (ht : t.conn.opsCancelTimer = (s.conn.setOpsCancelTimeout env).opsCancelTimer)
      (hops : t.conn.ops = s.conn.ops + 1)
  | other (hn : ¬ Completes e) (hs : ¬ s.SetsTimeout e)
      (ho : t.conn.opsCancelTimer.object.isSome = s.conn.opsCancelTimer.object.isSome)
      (hops : t.conn.ops = s.conn.ops)

lemma sender_effect {e : Senders.Event} {senders : Senders} (hallow : s.allows e = true)
    (hs : Senders.step (s.env inlineReply) s.senders e = some senders) :
    Effect (s.env inlineReply) s (.sender e) { s with senders := senders } := by
  cases e with
  | append th msg =>
    simp only [Senders.step] at hs
    split_ifs at hs <;> obtain rfl := Option.some.inj hs <;>
      exact .other not_false not_false rfl rfl
  | test th =>
    simp only [Senders.step] at hs
    split_ifs at hs <;> obtain rfl := Option.some.inj hs <;>
      exact .other not_false not_false rfl rfl
  | critical th =>
    simp only [Senders.step] at hs
    split_ifs at hs with hpc
    obtain rfl := Option.some.inj hs
    by_cases h0 : s.senders.conn.send.bound.buffer.getLength = 0
    · have hempty := @Senders.doWriteCritical_empty (s.env inlineReply) _ h0
      refine .other not_false (fun h => h.2 h0) ?_ ?_ <;>
        simp [conn, Senders.goto, hempty]
    · refine .started ⟨hpc, h0⟩ not_false ?_ ?_
      · simp only [conn, Senders.goto, TcpConnAsync.doWriteCritical, if_neg h0]
        rfl
      · simp [conn, Senders.goto, TcpConnAsync.doWriteCritical, if_neg h0,
          TcpConnAsync.startWrite]
  | wrote i n =>
    obtain ⟨op, -, hs⟩ := Option.bind_eq_some_iff.mp hs
    split_ifs at hs
    obtain rfl := Option.some.inj hs
    exact .other not_false not_false rfl rfl
  | writeDone i =>
    obtain ⟨op, -, hs⟩ := Option.bind_eq_some_iff.mp hs
    split_ifs at hs
    obtain rfl := Option.some.inj hs
    refine .completed trivial not_false ?_ ?_
    · exact (TcpConnAsync.revokeOpsCancelTimeout_timer (s.conn.dropWrite i)).1
    · exact TcpConnAsync.revokeOpsCancelTimeout_ops (s.conn.dropWrite i)
  | writeFail i ec =>
    obtain ⟨op, -, hs⟩ := Option.bind_eq_some_iff.mp hs
    split_ifs at hs
    obtain rfl := Option.some.inj hs
    obtain ⟨ho, hops⟩ := readFailed_object (s.conn.dropWrite i) ec
    exact .completed trivial not_false ho hops
  | readFail ec => simp [allows] at hallow
  | refuseHead => simp [allows] at hallow
  | timerExpire =>
    simp only [Senders.step] at hs
    split_ifs at hs
    obtain rfl := Option.some.inj hs
    exact .other not_false not_false (by simp [conn, SteadyTimer.expire]) rfl
  | timerHandler i =>
    obtain ⟨⟨⟨w, code⟩, u⟩, ht, rfl⟩ := Option.map_eq_some_iff.mp hs
    obtain ⟨-, ho, -⟩ := SteadyTimer.take_spec ht
    refine .other not_false not_false ?_ ?_
    · cases code <;> exact congrArg Option.isSome ho
    · cases code <;> rfl

theorem step_effect {e : Event} (hs : s.step inlineReply e = some t) :
    Effect (s.env inlineReply) s e t := by
  cases e with
  | start =>
    simp only [step] at hs
    split_ifs at hs
    obtain rfl := Option.some.inj hs
    exact .other not_false not_false rfl rfl
  | readDone i bytes =>
    obtain ⟨op, -, hs⟩ := Option.bind_eq_some_iff.mp hs
    split_ifs at hs
    obtain rfl := Option.some.inj hs
    refine .completed trivial not_false ?_ ?_
    · exact (TcpConnAsync.revokeOpsCancelTimeout_timer (s.conn.dropRead i)).1
    · exact TcpConnAsync.revokeOpsCancelTimeout_ops (s.conn.dropRead i)
  | readFail i ec =>
    obtain ⟨op, -, hs⟩ := Option.bind_eq_some_iff.mp hs
    split_ifs at hs
    obtain rfl := Option.some.inj hs
    obtain ⟨ho, hops⟩ := readFailed_object (s.conn.dropRead i) ec
    exact .completed trivial not_false ho hops
  | chain =>
    rcases chain_timer hs with ⟨hsets, ht, hops⟩ | ⟨hsets, ht, hops⟩
    · exact .started hsets not_false ht hops
    · exact .other not_false hsets (by rw [ht]) hops
  | sender e =>
    simp only [step] at hs
    split_ifs at hs with hallow
    obtain ⟨senders, hsend, rfl⟩ := Option.map_eq_some_iff.mp hs
    exact sender_effect hallow hsend
  | moduleRuntime doc =>
    obtain rfl := Option.some.inj hs
    exact .other not_false not_false rfl rfl

lemma setsTimeout_iff_ops {e : Event} (hs : s.step inlineReply e = some t) :
    s.SetsTimeout e ↔ t.conn.ops = s.conn.ops + 1 := by
  cases step_effect hs with
  | completed _ hn _ hops => exact ⟨fun h => absurd h hn, fun h => by omega⟩
  | started h _ _ hops => exact ⟨fun _ => hops, fun _ => h⟩
  | other _ hn _ hops => exact ⟨fun h => absurd h hn, fun h => by omega⟩

lemma setOpsCancelTimeout_object (inlineReply : Bytes → Option Message) (s : UpdatedConn) :
    (s.conn.setOpsCancelTimeout (s.env inlineReply)).opsCancelTimer.object.isSome =
      (decide (s.opsCancelTimeOut ≠ 0) || s.conn.opsCancelTimer.object.isSome) := by
  by_cases h0 : s.opsCancelTimeOut = 0
  · rw [TcpConnAsync.setOpsCancelTimeout,
      if_pos (show (s.env inlineReply).opsCancelTimeOut = 0 from h0)]
    simp [h0]
  · have hset := (@TcpConnAsync.setOpsCancelTimeout_timer (s.env inlineReply) h0 s.conn).1
    simp [hset, h0]

end Step

section Run

variable {inlineReply : Bytes → Option Message} {doc : NetworkDoc}

lemma guarded_snoc {es : List Event} {e : Event} {s : UpdatedConn}
    (hrun : (machine inlineReply doc).run es = some s) :
    Guarded (machine inlineReply doc) (es ++ [e]) ↔
      (s.SetsTimeout e ∧ s.opsCancelTimeOut ≠ 0) ∨
        (Guarded (machine inlineReply doc) es ∧ ¬ Completes e) := by
  constructor
  · rintro ⟨pre, f, mid, u, heq, hu, hsets, h0, hmid⟩
    rcases List.eq_nil_or_concat mid with rfl | ⟨mid, g, rfl⟩
    · obtain ⟨rfl, hf⟩ := List.append_inj' heq rfl
      obtain rfl := List.head_eq_of_cons_eq hf
      obtain rfl := Option.some.inj (hrun.symm.trans hu)
      exact Or.inl ⟨hsets, h0⟩
    · rw [List.concat_eq_append, ← List.cons_append, ← List.append_assoc] at heq
      obtain ⟨rfl, hg⟩ := List.append_inj' heq rfl
      obtain rfl := List.head_eq_of_cons_eq hg
      refine Or.inr ⟨⟨pre, f, mid, u, rfl, hu, hsets, h0, fun x hx => ?_⟩, ?_⟩
      · exact hmid x (by simp [hx])
      · exact hmid e (by simp)
  · rintro (⟨hsets, h0⟩ | ⟨⟨pre, f, mid, u, rfl, hu, hsets, h0, hmid⟩, hn⟩)
    · exact ⟨es, e, [], s, rfl, hrun, hsets, h0, by simp⟩
    · refine ⟨pre, f, mid ++ [e], u, by simp, hu, hsets, h0, fun x hx => ?_⟩
      rcases List.mem_append.mp hx with hx | hx
      · exact hmid x hx
      · rw [List.mem_singleton.mp hx]
        exact hn

/-- There is a timer exactly while a started operation guards the connection. -/
theorem object_iff_guarded {es : List Event} {s : UpdatedConn}
    (hrun : (machine inlineReply doc).run es = some s) :
    s.conn.opsCancelTimer.object.isSome = true ↔ Guarded (machine inlineReply doc) es := by
  refine Machine.run_induction (M := machine inlineReply doc) (C := fun _ _ => True)
    (P := fun es s => s.conn.opsCancelTimer.object.isSome = true ↔
      Guarded (machine inlineReply doc) es) ?_ (fun es s e t hs ih _ hn => ?_) hrun
    fun _ _ _ _ => trivial
  · refine ⟨fun h => ?_, fun ⟨pre, e, mid, u, heq, _⟩ => by simp at heq⟩
    simp [machine, conn, TcpConnAsync.fresh, SteadyTimer.empty] at h
  · rw [guarded_snoc hs]
    cases step_effect hn with
    | completed h hsets ho => simp [h, hsets, ho]
    | started hsets hn ht =>
      rw [ht, setOpsCancelTimeout_object]
      simp [hsets, hn, ih]
    | other hn hsets ho =>
      rw [ho, ih]
      simp [hn, hsets]

/-- The assertion holds at every `set_ops_cancel_timeout` exactly when no operation is
started without a timeout after one was started under a timeout and before any completed. -/
theorem timerAssert_iff (inlineReply : Bytes → Option Message) (doc : NetworkDoc)
    (es : List Event) :
    (∀ s e t, (machine inlineReply doc).Takes es s e t → s.SetsTimeout e →
        s.opsCancelTimeOut = 0 → s.conn.opsCancelTimer.object = none) ↔
      ∀ pre e s t, pre ++ [e] <+: es → (machine inlineReply doc).run pre = some s →
        s.step inlineReply e = some t → Guarded (machine inlineReply doc) pre →
        s.SetsTimeout e → s.opsCancelTimeOut ≠ 0 := by
  constructor
  · intro h pre e s t hpre hs hn hguarded hsets h0
    have hnone := h s e t ⟨pre, hpre, hs, hn⟩ hsets h0
    have hsome := (object_iff_guarded hs).mpr hguarded
    rw [hnone] at hsome
    simp at hsome
  · rintro h s e t ⟨pre, hpre, hs, hn⟩ hsets h0
    by_contra hobj
    refine h pre e s t hpre hs hn ((object_iff_guarded hs).mp ?_) hsets h0
    rwa [Option.isSome_iff_ne_none]

def timeoutDoc (opsCancelTimeOut : Int32) : NetworkDoc :=
  { bindAddr := some anyAddress, bindPort := some 8434, safeIp := none, backlogSize := none
    ioThreadPoolSize := none, opsCancelTimeOut := some opsCancelTimeOut
    sessionCancelTimeOut := none, serviceEnable := none, serviceSpeed := none
    serviceConcurrency := none, sendMaxMsgSize := none, recvMaxMsgSize := none }

/-- The first read is armed with ten seconds, then an update disables the timeout and an
executor sends a reply. -/
def disabledEvents : List Event :=
  [.start, .chain, .moduleRuntime (timeoutDoc 0), .sender (.append (.executor 0) (.ofPayload [])),
    .sender (.test (.executor 0))]

/-- The write of the reply meets the timer of the read. -/
theorem disabledEvents_timer :
    ¬ ∀ s e t, (machine (fun _ => none) (timeoutDoc 10)).Takes
      (disabledEvents ++ [.sender (.critical (.executor 0))]) s e t → s.SetsTimeout e →
        s.opsCancelTimeOut = 0 → s.conn.opsCancelTimer.object = none := by
  have hrun : ((machine (fun _ => none) (timeoutDoc 10)).run disabledEvents).any (fun s =>
      decide ((s.step (fun _ => none) (.sender (.critical (.executor 0)))).isSome ∧
        s.senders.pc (.executor 0) = .atCritical ∧
        s.conn.send.bound.buffer.getLength ≠ 0 ∧ s.opsCancelTimeOut = 0 ∧
        s.conn.opsCancelTimer.object ≠ none)) = true := by decide +kernel
  obtain ⟨s, hs, hd⟩ := (Option.any_eq_true _ _).mp hrun
  obtain ⟨hstep, hpc, hlen, h0, htimer⟩ := of_decide_eq_true hd
  obtain ⟨t, hn⟩ := Option.isSome_iff_exists.mp hstep
  exact fun h => htimer (h s _ t (Machine.takes_last hs hn) ⟨hpc, hlen⟩ h0)

end Run

end UpdatedConn

end Tzrpc
