import Tzrpc.ClientConnAsync
import Tzrpc.TcpConnAsyncReads

/-!
# The send pipeline

Both asynchronous connections append messages to a byte buffer and write it out in blocks,
one at a time. `Sender` is what they have in common: a connection with its send side, whose
every step is an append, a transfer or a completion followed by `do_write`. The bytes are
conserved, and the buffer is empty whenever no write is outstanding. The blocking loop of
the synchronous connection cuts the same bytes into blocks before it returns.
-/
namespace Tzrpc

inductive SendEvent
  | send (msg : Message)
  | wrote (i n : ℕ)
  | writeDone (i : ℕ)
  deriving DecidableEq, Repr

def frames (msgs : List Message) : Bytes := (msgs.map Message.netStr).flatten

@[simp] lemma frames_nil : frames [] = [] := rfl

@[simp] lemma frames_singleton (msg : Message) : frames [msg] = msg.netStr := by simp [frames]

lemma frames_append (xs ys : List Message) : frames (xs ++ ys) = frames xs ++ frames ys := by
  simp [frames]

namespace SendSide

def append (s : SendSide) (msg : Message) : SendSide :=
  { s with bound := { s.bound with buffer := s.bound.buffer.append msg } }

def startWrite (s : SendSide) (id : ℕ) (toWrite : UInt32) : SendSide :=
  let taken := s.bound.buffer.consumeBlock s.bound.ioBlock toWrite
  { status := .kSend
    bound := { s.bound with ioBlock := taken.1, buffer := taken.2 }
    writes := s.writes ++ [⟨id, toWrite.toNat, 0⟩] }

/-- `do_write` on a connection that works, and the operation count after it. -/
def doWrite (s : SendSide) (ops : ℕ) : SendSide × ℕ :=
  if s.status = .kDone ∧ s.bound.buffer.getLength ≠ 0 then
    (s.startWrite ops (min s.bound.buffer.getLength kFixedIoBufferSize), ops + 1)
  else (s, ops)

def complete (s : SendSide) (i : ℕ) : SendSide :=
  { s with status := .kDone, writes := s.writes.eraseIdx i }

lemma doWrite_cases (s : SendSide) (ops : ℕ) (hlen : s.bound.buffer.data.length < 2 ^ 32) :
    (s.doWrite ops = (s, ops) ∧ (s.status = .kDone → s.bound.buffer.data = [])) ∨
      ∃ size t, s.status = .kDone ∧ s.doWrite ops = (t, ops + 1) ∧ 1 ≤ size ∧ size ≤ 2048 ∧
        size ≤ s.bound.buffer.data.length ∧ t.status = .kSend ∧
        t.writes = s.writes ++ [⟨ops, size, 0⟩] ∧
        t.bound.ioBlock.take size = s.bound.buffer.data.take size ∧
        t.bound.buffer.data = s.bound.buffer.data.drop size := by
  have hget := Buffer.getLength_toNat hlen
  unfold doWrite
  split_ifs with h
  · obtain ⟨hs, h0⟩ := h
    have hne : s.bound.buffer.getLength.toNat ≠ 0 := fun hz => h0 (UInt32.toNat_inj.mp hz)
    have h2048 : kFixedIoBufferSize.toNat = 2048 := rfl
    have hmin := UInt32.toNat_min s.bound.buffer.getLength kFixedIoBufferSize
    have hle : (min s.bound.buffer.getLength kFixedIoBufferSize).toNat ≤
        s.bound.buffer.data.length := by omega
    obtain ⟨hblock, hrest⟩ := @Buffer.consumeBlock_eq _ s.bound.ioBlock _ hle
    exact Or.inr ⟨_, _, hs, rfl, by omega, by omega, hle, rfl, rfl, hblock, hrest⟩
  · refine Or.inl ⟨rfl, fun hs => ?_⟩
    have hz := not_not.mp (not_and.mp h hs)
    rw [hz] at hget
    exact List.eq_nil_of_length_eq_zero hget.symm

end SendSide

structure Sender (σ : Type*) where
  machine : Machine σ SendEvent
  send : σ → SendSide
  /-- Operations started so far; the next one gets this number. -/
  ops : σ → ℕ
  refuses : Message → Bool

namespace Sender

variable {σ : Type*} (S : Sender σ)

def accepts : SendEvent → List Message
  | .send msg => if S.refuses msg then [] else [msg]
  | _ => []

def held (s : σ) (e : SendEvent) : Bytes :=
  (S.send s).bound.buffer.data ++ frames (S.accepts e)

def newWrites (s t : σ) : List WriteOp := (S.send t).writes.filter (S.ops s ≤ ·.id)

def block (t : σ) (op : WriteOp) : Bytes := (S.send t).bound.ioBlock.take op.size

def blocks (es : List SendEvent) : List Bytes :=
  (S.machine.trace S.machine.start es).flatMap fun x =>
    (S.newWrites x.1 x.2.2).map (S.block x.2.2)

/-- After a run no byte is lost, duplicated, out of order or left behind. -/
structure Conveys (es : List SendEvent) (s : σ) : Prop where
  conserved : (S.blocks es).flatten ++ (S.send s).bound.buffer.data = frames (es.flatMap S.accepts)
  sized : ∀ u e v, S.machine.Takes es u e v → ∀ op ∈ S.newWrites u v,
    1 ≤ op.size ∧ op.size ≤ 2048 ∧ op.size ≤ (S.held u e).length ∧
      S.block v op = (S.held u e).take op.size
  refused : ∀ u msg v, S.machine.Takes es u (.send msg) v → S.refuses msg = true → v = u
  atMostOne : (S.send s).writes.length ≤ 1
  sending : (S.send s).writes ≠ [] ↔ (S.send s).status = .kSend
  drained : (S.send s).writes = [] → (S.send s).bound.buffer.data = []

/-- The steps of the machine are those of the send side, as long as `ok` holds, and `ok`
is kept. -/
structure Lawful (ok : σ → Prop) : Prop where
  ok_start : ok S.machine.start
  start : (S.send S.machine.start).status = .kDone ∧ (S.send S.machine.start).writes = [] ∧
    (S.send S.machine.start).bound.buffer.data = []
  ok_next : ∀ s e t, ok s → S.machine.next s e = some t → ok t
  send : ∀ s msg t, ok s → S.machine.next s (.send msg) = some t →
    if S.refuses msg then t = s
    else (S.send t, S.ops t) = ((S.send s).append msg).doWrite (S.ops s)
  wrote : ∀ s i n t, ok s → S.machine.next s (.wrote i n) = some t →
    ∃ op, (S.send s).writes[i]? = some op ∧ S.ops t = S.ops s ∧
      S.send t = { S.send s with
        writes := (S.send s).writes.set i { op with sent := op.sent + n } }
  writeDone : ∀ s i t, ok s → S.machine.next s (.writeDone i) = some t →
    i < (S.send s).writes.length ∧
      (S.send t, S.ops t) = ((S.send s).complete i).doWrite (S.ops s)

/-- One numbered write under `kSend`, none and an empty buffer under `kDone`. -/
structure Settled (s : σ) : Prop where
  numbered : ∀ op ∈ (S.send s).writes, op.id < S.ops s
  sending : (S.send s).status = .kSend → (S.send s).writes.length = 1
  idle : (S.send s).status = .kDone → (S.send s).writes = [] ∧ (S.send s).bound.buffer.data = []

variable {S} {ok : σ → Prop} {s t : σ}

lemma newWrites_of_old (h : ∀ op ∈ (S.send t).writes, op.id < S.ops s) : S.newWrites s t = [] :=
  List.filter_eq_nil_iff.mpr fun op hop => by simpa using h op hop

lemma Settled.doWrite (mid : SendSide) (hold : ∀ op ∈ mid.writes, op.id < S.ops s)
    (hsend : mid.status = .kSend → mid.writes.length = 1)
    (hidle : mid.status = .kDone → mid.writes = []) (hlen : mid.bound.buffer.data.length < 2 ^ 32)
    (ht : (S.send t, S.ops t) = mid.doWrite (S.ops s)) :
    S.Settled t ∧
      ((S.newWrites s t).map (S.block t)).flatten ++ (S.send t).bound.buffer.data =
        mid.bound.buffer.data ∧
      ∀ op ∈ S.newWrites s t, 1 ≤ op.size ∧ op.size ≤ 2048 ∧
        op.size ≤ mid.bound.buffer.data.length ∧
        S.block t op = mid.bound.buffer.data.take op.size := by
  rcases mid.doWrite_cases (S.ops s) hlen with ⟨hsame, hempty⟩ |
    ⟨size, side, hdone, hstart, hpos, hmax, hle, hs, hw, hblock, hrest⟩
  · obtain ⟨hst, hops⟩ := Prod.mk.inj (ht.trans hsame)
    have hnone : S.newWrites s t = [] := newWrites_of_old (by rwa [hst])
    refine ⟨⟨?_, ?_, ?_⟩, by simp [hnone, hst], by simp [hnone]⟩
    · rwa [hst, hops]
    · rwa [hst]
    · rw [hst]
      exact fun hd => ⟨hidle hd, hempty hd⟩
  · obtain ⟨rfl, hops⟩ := Prod.mk.inj (ht.trans hstart)
    have hone : S.newWrites s t = [⟨S.ops s, size, 0⟩] := by
      rw [newWrites, hw, hidle hdone]
      simp
    have hwrites : (S.send t).writes = [⟨S.ops s, size, 0⟩] := by
      rw [hw, hidle hdone]
      rfl
    refine ⟨⟨?_, ?_, ?_⟩, ?_, ?_⟩
    · rw [hwrites, hops]
      simp
    · simp [hwrites]
    · simp [hs]
    · simp [hone, block, hblock, hrest]
    · rw [hone]
      simp only [List.mem_singleton, forall_eq]
      exact ⟨hpos, hmax, hle, hblock⟩

lemma Lawful.step (hS : S.Lawful ok) (hok : ok s) (h : S.Settled s) {e : SendEvent}
    (hlen : (S.held s e).length < 2 ^ 32) (hn : S.machine.next s e = some t) :
    S.Settled t ∧
      ((S.newWrites s t).map (S.block t)).flatten ++ (S.send t).bound.buffer.data = S.held s e ∧
      ∀ op ∈ S.newWrites s t, 1 ≤ op.size ∧ op.size ≤ 2048 ∧ op.size ≤ (S.held s e).length ∧
        S.block t op = (S.held s e).take op.size := by
  cases e with
  | send msg =>
    have hnext := hS.send s msg t hok hn
    cases hr : S.refuses msg with
    | true =>
      rw [if_pos hr] at hnext
      subst hnext
      have hnone := newWrites_of_old h.numbered
      exact ⟨h, by simp [hnone, held, accepts, hr], by simp [hnone]⟩
    | false =>
      simp only [hr, Bool.false_eq_true, ↓reduceIte] at hnext
      have hheld : S.held s (.send msg) = ((S.send s).append msg).bound.buffer.data := by
        simp [held, accepts, hr, SendSide.append]
      rw [hheld] at hlen ⊢
      exact Settled.doWrite ((S.send s).append msg) h.numbered h.sending
        (fun hd => (h.idle hd).1) hlen hnext
  | wrote i n =>
    obtain ⟨op, hop, hops, hst⟩ := hS.wrote s i n t hok hn
    have hids : ∀ op' ∈ (S.send t).writes, op'.id < S.ops s := by
      intro op' hop'
      rw [hst] at hop'
      rcases List.mem_or_eq_of_mem_set hop' with hmem | rfl
      · exact h.numbered op' hmem
      · exact h.numbered op (List.mem_of_getElem? hop)
    have hnone := newWrites_of_old hids
    refine ⟨⟨?_, ?_, ?_⟩, by simp [hnone, held, accepts, hst], by simp [hnone]⟩
    · rwa [hops]
    · simpa [hst] using h.sending
    · simpa [hst] using h.idle
  | writeDone i =>
    obtain ⟨hi, hnext⟩ := hS.writeDone s i t hok hn
    have hsend : (S.send s).status = .kSend := by
      cases hs : (S.send s).status with
      | kSend => rfl
      | kDone => simp [(h.idle hs).1] at hi
    have hone := h.sending hsend
    have hnil : ((S.send s).complete i).writes = [] := by
      apply List.eq_nil_of_length_eq_zero
      rw [SendSide.complete, List.length_eraseIdx_of_lt hi]
      omega
    have hheld : S.held s (.writeDone i) = ((S.send s).complete i).bound.buffer.data := by
      simp [held, accepts, SendSide.complete]
    rw [hheld] at hlen ⊢
    exact Settled.doWrite ((S.send s).complete i) (by simp [hnil])
      (by simp [SendSide.complete]) (fun _ => hnil) hlen hnext

lemma Lawful.settled_start (hS : S.Lawful ok) : S.Settled S.machine.start := by
  obtain ⟨hs, hw, hd⟩ := hS.start
  exact ⟨by simp [hw], by simp [hs], fun _ => ⟨hw, hd⟩⟩

/-- A sender whose steps are those of the send side conveys what it accepts. -/
theorem Lawful.conveys (hS : S.Lawful ok) {es : List SendEvent} (hrun : S.machine.run es = some s)
    (hback : ∀ u e v, S.machine.Takes es u e v → (S.held u e).length < 2 ^ 32) :
    S.Conveys es s := by
  have hsettled : ∀ u, S.machine.Visits es u → ok u ∧ S.Settled u := fun u hu =>
    Machine.visits_of_inductive (M := S.machine) (C := fun u e => (S.held u e).length < 2 ^ 32)
      (I := fun u => ok u ∧ S.Settled u) ⟨hS.ok_start, hS.settled_start⟩
      (fun u e v hi hlen hn => ⟨hS.ok_next u e v hi.1 hn, (hS.step hi.1 hi.2 hlen hn).1⟩) hback hu
  obtain ⟨-, hs⟩ := hsettled s (Machine.visits_self hrun)
  have hsending : (S.send s).writes ≠ [] ↔ (S.send s).status = .kSend := by
    cases hst : (S.send s).status with
    | kSend => simp [← List.length_pos_iff, hs.sending hst]
    | kDone => simp [(hs.idle hst).1]
  refine ⟨?_, ?_, ?_, ?_, hsending, fun hw => ?_⟩
  · have hinv := Machine.run_induction (M := S.machine)
      (C := fun u e => (S.held u e).length < 2 ^ 32)
      (P := fun es u => (ok u ∧ S.Settled u) ∧
        (S.blocks es).flatten ++ (S.send u).bound.buffer.data = frames (es.flatMap S.accepts))
      ⟨⟨hS.ok_start, hS.settled_start⟩, by simp [blocks, Machine.trace, hS.start.2.2]⟩
      (fun es u e v hu ⟨⟨hok, hset⟩, ih⟩ hlen hn => by
        obtain ⟨hset', hconv, -⟩ := hS.step hok hset hlen hn
        refine ⟨⟨hS.ok_next u e v hok hn, hset'⟩, ?_⟩
        have htrace : S.blocks (es ++ [e]) =
            S.blocks es ++ (S.newWrites u v).map (S.block v) := by
          rw [blocks, Machine.trace_append hu]
          simp [Machine.trace, hn, blocks]
        rw [htrace, List.flatten_append, List.append_assoc, hconv, held, ← List.append_assoc, ih,
          ← frames_append, List.flatMap_append, List.flatMap_singleton])
      hrun hback
    exact hinv.2
  · intro u e v ht
    obtain ⟨-, -, -, hn⟩ := id ht
    obtain ⟨hok, hset⟩ := hsettled u ht.visits
    exact (hS.step hok hset (hback u e v ht) hn).2.2
  · intro u msg v ht hr
    obtain ⟨-, -, -, hn⟩ := id ht
    have hnext := hS.send u msg v (hsettled u ht.visits).1 hn
    rwa [if_pos hr] at hnext
  · cases hst : (S.send s).status with
    | kSend => exact (hs.sending hst).le
    | kDone => simp [(hs.idle hst).1]
  · cases hst : (S.send s).status with
    | kSend => exact absurd hw (hsending.mpr hst)
    | kDone => exact (hs.idle hst).2

end Sender

namespace TcpConnAsync

def SendEvent.toEvent : SendEvent → Event
  | .send msg => .send msg
  | .wrote i n => .wrote i n
  | .writeDone i => .writeDone i

/-- A started server connection under sends and successful write completions. -/
def sender (env : ServerEnv) : Sender TcpConnAsync where
  machine := ⟨started env, fun c e => step env c (SendEvent.toEvent e)⟩
  send := TcpConnAsync.send
  ops := TcpConnAsync.ops
  refuses := refusesSize env

section Server

variable {env : ServerEnv} {c d : TcpConnAsync}

lemma doWrite_sendSide (h : ¬ c.Halted) :
    ((c.doWrite env).send, (c.doWrite env).ops) = c.send.doWrite c.ops := by
  unfold SendSide.doWrite
  rcases doWrite_cases env c with ⟨hd, h0⟩ | ⟨hs, -, h0, hd⟩
  · rw [hd, if_neg]
    exact fun hc => hc.2 (h0 hc.1 h)
  · rw [hd, if_pos ⟨hs, h0⟩, startWrite, SendSide.startWrite]
    simp only [setOpsCancelTimeout_send, setOpsCancelTimeout_ops]

lemma step_send_not_halted (h : ¬ c.Halted) {e : SendEvent}
    (hs : step env c (SendEvent.toEvent e) = some d) : ¬ d.Halted := by
  have hview : d.net = c.net ∧ d.wasCancelled = c.wasCancelled := by
    cases e with
    | send msg =>
      obtain rfl := Option.some.inj hs
      have hv := recvView_eq_iff.mp (asyncSendMessage_recvView env c msg)
      exact ⟨hv.1, hv.2.1⟩
    | wrote i n =>
      obtain ⟨op, -, -, rfl⟩ := step_wrote hs
      exact ⟨rfl, rfl⟩
    | writeDone i =>
      obtain ⟨op, -, -, rfl⟩ := step_writeDone hs
      have hv := recvView_eq_iff.mp ((doWrite_recvView env _).trans
        (writeCompleted_recvView (c.dropWrite i)))
      exact ⟨hv.1, hv.2.1⟩
  exact fun hd => h (hd.of_view hview.1.symm hview.2.symm)

lemma sender_lawful (env : ServerEnv) : (sender env).Lawful fun c => ¬ c.Halted where
  ok_start := by
    obtain ⟨hw, hc, -⟩ := started_view env
    change ¬ (started env).Halted
    simp [Halted, hw, hc]
  start := by
    have hs : (started env).send = fresh.send := by
      rw [started_eq]
      exact setOpsCancelTimeout_send env _
    change (started env).send.status = _ ∧ (started env).send.writes = _ ∧ _
    rw [show (sender env).send (sender env).machine.start = (started env).send from rfl, hs]
    exact ⟨rfl, rfl, rfl⟩
  ok_next _ _ _ h hs := step_send_not_halted h hs
  send c msg d h hs := by
    obtain rfl := Option.some.inj hs
    change if refusesSize env msg then _ else _
    unfold asyncSendMessage
    split_ifs with hr
    · rfl
    · exact doWrite_sendSide (c := c.appendMessage msg) h
  wrote c i n d _ hs := by
    obtain ⟨op, hop, -, rfl⟩ := @step_wrote env _ _ _ _ hs
    exact ⟨op, hop, rfl, rfl⟩
  writeDone c i d h hs := by
    obtain ⟨op, hop, -, rfl⟩ := @step_writeDone env _ _ _ hs
    refine ⟨(List.getElem?_eq_some_iff.mp hop).1, ?_⟩
    have hv := recvView_eq_iff.mp (writeCompleted_recvView (c.dropWrite i))
    have hsend : (c.dropWrite i).writeCompleted.send = c.send.complete i := by
      change { (c.dropWrite i).revokeOpsCancelTimeout.send with status := .kDone } = _
      rw [revokeOpsCancelTimeout_send]
      rfl
    have hops : (c.dropWrite i).writeCompleted.ops = c.ops :=
      revokeOpsCancelTimeout_ops (c.dropWrite i)
    have hd := @doWrite_sendSide env (c.dropWrite i).writeCompleted
      fun hh => h (hh.of_view (d := c) hv.1.symm hv.2.1.symm)
    rw [hsend, hops] at hd
    exact hd

end Server

end TcpConnAsync

namespace Client.TcpConnAsync

def sender (setting : ClientSetting) : Sender TcpConnAsync where
  machine := ⟨started setting, fun c e =>
    match e with
    | .send msg => some (c.sendNetMessage setting msg).2
    | .wrote i n => step setting c (.wrote i n)
    | .writeDone i => step setting c (.writeDone i)⟩
  send := TcpConnAsync.send
  ops := TcpConnAsync.ops
  refuses := refusesSize setting

section Client

variable {setting : ClientSetting} {c d : TcpConnAsync}

lemma doWrite_sendSide (h : c.net.connStat = .kWorking) :
    (c.doWrite.2.send, c.doWrite.2.ops) = c.send.doWrite c.ops := by
  unfold doWrite SendSide.doWrite
  cases hs : c.send.status with
  | kSend => simp
  | kDone =>
    by_cases h0 : c.send.bound.buffer.getLength = 0
    · simp [h, h0]
    · simp only [ne_eq, not_true_eq_false, ↓reduceIte, h, h0, not_false_eq_true, and_self]
      rfl

lemma sender_lawful (setting : ClientSetting) :
    (sender setting).Lawful fun c => c.net.connStat = .kWorking where
  ok_start := started_net setting
  start := ⟨rfl, rfl, rfl⟩
  ok_next c e d h hs := by
    cases e with
    | send msg =>
      obtain rfl := Option.some.inj hs
      rwa [sendNetMessage_net]
    | wrote i n =>
      obtain ⟨op, -, -, rfl⟩ := @step_wrote setting _ _ _ _ hs
      exact h
    | writeDone i =>
      obtain ⟨op, -, -, rfl⟩ := @step_writeDone setting _ _ _ hs
      rw [writeHandler, doWrite_net]
      exact h
  send c msg d h hs := by
    obtain rfl := Option.some.inj hs
    change if refusesSize setting msg then _ else _
    unfold sendNetMessage
    split_ifs with hr
    · rfl
    · exact doWrite_sendSide (c := c.appendMessage msg) h
  wrote c i n d _ hs := by
    obtain ⟨op, hop, -, rfl⟩ := @step_wrote setting _ _ _ _ hs
    exact ⟨op, hop, rfl, rfl⟩
  writeDone c i d h hs := by
    obtain ⟨op, hop, -, rfl⟩ := @step_writeDone setting _ _ _ hs
    refine ⟨(List.getElem?_eq_some_iff.mp hop).1, ?_⟩
    exact doWrite_sendSide (c := { c.dropWrite i with
      send := { (c.dropWrite i).send with status := .kDone } }) h

end Client

end Client.TcpConnAsync

namespace Client.TcpConnSync

/-- From where a sending routine stands, the blocks it hands to `write` until it returns,
each of them written whole. -/
inductive Writes : Outcome × TcpConnSync → List Bytes → Outcome × TcpConnSync → Prop
  | returns {r : Outcome × TcpConnSync} (h : ∀ op, r.1 ≠ .blocked op) : Writes r [] r
  | block {c : TcpConnSync} {size : ℕ} {bs : List Bytes} {r : Outcome × TcpConnSync}
      (rest : Writes c.writeLoop bs r) :
      Writes (.blocked (.write size 0), c) (c.sendBound.ioBlock.take size :: bs) r

/-- Blocking sends of messages one after the other, with the blocks they hand to `write`. -/
inductive SendsAll (setting : ClientSetting) :
    TcpConnSync → List Message → List Bytes → TcpConnSync → Prop
  | nil (c : TcpConnSync) : SendsAll setting c [] [] c
  | cons {c d e : TcpConnSync} {msg : Message} {msgs : List Message} {bs bs' : List Bytes}
      {out : Outcome} (first : Writes (c.sendNetMessage setting msg) bs (out, d))
      (rest : SendsAll setting d msgs bs' e) : SendsAll setting c (msg :: msgs) (bs ++ bs') e

section Writes

variable {setting : ClientSetting} {c d : TcpConnSync}

lemma Writes.unique {r u v : Outcome × TcpConnSync} {bs bs' : List Bytes} (h : Writes r bs u)
    (h' : Writes r bs' v) : bs' = bs ∧ v = u := by
  induction h generalizing bs' with
  | returns hr =>
    cases h' with
    | returns => exact ⟨rfl, rfl⟩
    | block => exact absurd rfl (hr _)
  | block _ ih =>
    cases h' with
    | returns hr => exact absurd rfl (hr _)
    | block rest =>
      obtain ⟨rfl, rfl⟩ := ih rest
      exact ⟨rfl, rfl⟩

lemma SendsAll.unique {e e' : TcpConnSync} {msgs : List Message} {bs bs' : List Bytes}
    (h : SendsAll setting c msgs bs e) (h' : SendsAll setting c msgs bs' e') :
    bs' = bs ∧ e' = e := by
  induction h generalizing bs' with
  | nil =>
    cases h'
    exact ⟨rfl, rfl⟩
  | cons first _ ih =>
    cases h' with
    | cons first' rest' =>
      obtain ⟨rfl, hd⟩ := first.unique first'
      obtain ⟨-, rfl⟩ := Prod.mk.inj hd
      obtain ⟨rfl, rfl⟩ := ih rest'
      exact ⟨rfl, rfl⟩

lemma writes_writeLoop (hlen : c.sendBound.buffer.data.length < 2 ^ 32) :
    ∃ bs d, Writes c.writeLoop bs (.sent, d) ∧ bs.flatten = c.sendBound.buffer.data ∧
      d.sendBound.buffer.data = [] ∧ d.net = c.net := by
  induction hn : c.sendBound.buffer.data.length using Nat.strong_induction_on generalizing c with
  | _ n ih =>
    rcases writeLoop_cases hlen with ⟨hnil, hsent⟩ |
      ⟨size, d, hd, hpos, hle, hblock, hrest, hnet, -⟩
    · refine ⟨[], c, ?_, by simp [hnil], hnil, rfl⟩
      rw [hsent]
      exact .returns (by simp)
    · have hdrop : d.sendBound.buffer.data.length = n - size := by
        rw [hrest, List.length_drop, hn]
      obtain ⟨bs, e, hw, hflat, hempty, hnet'⟩ := ih (n - size) (by omega) (by omega) hdrop
      refine ⟨d.sendBound.ioBlock.take size :: bs, e, ?_, ?_, hempty, hnet'.trans hnet⟩
      · rw [hd]
        exact .block hw
      · rw [List.flatten_cons, hflat, hblock, hrest, List.take_append_drop]

lemma writes_sendNetMessage (hw : c.net.connStat = .kWorking)
    (hdata : c.sendBound.buffer.data = []) (msg : Message)
    (hlen : TcpConnAsync.refusesSize setting msg = false → msg.netStr.length < 2 ^ 32) :
    ∃ bs out d, Writes (c.sendNetMessage setting msg) bs (out, d) ∧
      bs.flatten = frames (if TcpConnAsync.refusesSize setting msg then [] else [msg]) ∧
      d.sendBound.buffer.data = [] ∧ d.net = c.net ∧
      (TcpConnAsync.refusesSize setting msg = true → d = c) := by
  cases hr : TcpConnAsync.refusesSize setting msg with
  | true =>
    have hsend : c.sendNetMessage setting msg = (.failed, c) := by
      rw [sendNetMessage, if_pos (by simpa [TcpConnAsync.refusesSize] using hr)]
    refine ⟨[], .failed, c, ?_, by simp, hdata, rfl, fun _ => rfl⟩
    rw [hsend]
    exact .returns (by simp)
  | false =>
    have hsend : c.sendNetMessage setting msg =
        ({ c with sendBound := { c.sendBound with
          buffer := c.sendBound.buffer.append msg } } : TcpConnSync).writeLoop := by
      rw [sendNetMessage, if_neg (by simpa [TcpConnAsync.refusesSize] using hr), doWrite,
        if_neg (by simp [hw])]
    have happend : (c.sendBound.buffer.append msg).data = msg.netStr := by simp [hdata]
    obtain ⟨bs, d, hwrites, hflat, hempty, hnet⟩ := writes_writeLoop
      (c := { c with sendBound := { c.sendBound with buffer := c.sendBound.buffer.append msg } })
      (by simp only [happend]; exact hlen hr)
    refine ⟨bs, .sent, d, hsend ▸ hwrites, ?_, hempty, hnet, by simp⟩
    rw [hflat, happend]
    simp

lemma sendsAll (hw : c.net.connStat = .kWorking) (hdata : c.sendBound.buffer.data = [])
    (msgs : List Message)
    (hlen : ∀ msg ∈ msgs, TcpConnAsync.refusesSize setting msg = false →
      msg.netStr.length < 2 ^ 32) :
    ∃ bs d, SendsAll setting c msgs bs d ∧ d.sendBound.buffer.data = [] ∧
      bs.flatten = frames ((msgs.map SendEvent.send).flatMap
        (TcpConnAsync.sender setting).accepts) := by
  induction msgs generalizing c with
  | nil => exact ⟨[], c, .nil c, hdata, rfl⟩
  | cons msg msgs ih =>
    obtain ⟨bs, out, d, hwrites, hflat, hempty, hnet, -⟩ :=
      writes_sendNetMessage hw hdata msg (hlen msg List.mem_cons_self)
    obtain ⟨bs', e, hrest, hempty', hflat'⟩ := ih (c := d) (by rw [hnet, hw]) hempty
      fun m hm => hlen m (List.mem_cons_of_mem _ hm)
    refine ⟨bs ++ bs', e, .cons hwrites hrest, hempty', ?_⟩
    rw [List.flatten_append, hflat, hflat', List.map_cons, List.flatMap_cons, frames_append]
    rfl

end Writes

end Client.TcpConnSync

/-- The send pipeline neither loses, duplicates, reorders nor strands bytes: on the server
connection and on the client's asynchronous connection, over every run of sends and write
completions with the backlog below the word size, and in the blocking loop of the client's
synchronous connection, which writes the same bytes for the same accepted messages. -/
theorem send_pipeline_conveys :
    (∀ (env : ServerEnv) (es : List SendEvent) (c : TcpConnAsync),
      (TcpConnAsync.sender env).machine.run es = some c →
      (∀ u e v, (TcpConnAsync.sender env).machine.Takes es u e v →
        ((TcpConnAsync.sender env).held u e).length < 2 ^ 32) →
      (TcpConnAsync.sender env).Conveys es c) ∧
    (∀ (setting : Client.ClientSetting) (es : List SendEvent) (c : Client.TcpConnAsync),
      (Client.TcpConnAsync.sender setting).machine.run es = some c →
      (∀ u e v, (Client.TcpConnAsync.sender setting).machine.Takes es u e v →
        ((Client.TcpConnAsync.sender setting).held u e).length < 2 ^ 32) →
      (Client.TcpConnAsync.sender setting).Conveys es c) ∧
    (∀ (setting : Client.ClientSetting) (c : Client.TcpConnSync) (msgs : List Message),
      c.net.connStat = .kWorking → c.sendBound.buffer.data = [] →
      (∀ msg ∈ msgs, Client.TcpConnAsync.refusesSize setting msg = false →
        msg.netStr.length < 2 ^ 32) →
      ∃ bs d, Client.TcpConnSync.SendsAll setting c msgs bs d ∧ d.sendBound.buffer.data = [] ∧
        bs.flatten = frames ((msgs.map SendEvent.send).flatMap
          (Client.TcpConnAsync.sender setting).accepts) ∧
        ∀ bs' d', Client.TcpConnSync.SendsAll setting c msgs bs' d' → bs' = bs ∧ d' = d) := by
  refine ⟨fun env es c hrun hback => ?_, fun setting es c hrun hback => ?_,
    fun setting c msgs hw hdata hlen => ?_⟩
  · exact (TcpConnAsync.sender_lawful env).conveys hrun hback
  · exact (Client.TcpConnAsync.sender_lawful setting).conveys hrun hback
  · obtain ⟨bs, d, hsends, hempty, hflat⟩ := Client.TcpConnSync.sendsAll hw hdata msgs hlen
    exact ⟨bs, d, hsends, hempty, hflat, fun bs' d' h => hsends.unique h⟩

/-- Two replies, the second accepted while the first is being written. -/
def twoReplies : List SendEvent :=
  [.send (Message.ofPayload [1]), .send (Message.ofPayload [2]), .wrote 0 17, .writeDone 0]

theorem twoReplies_conveyed :
    ∃ c, (TcpConnAsync.sender TcpConnAsync.sampleEnv).machine.run twoReplies = some c ∧
      ((TcpConnAsync.sender TcpConnAsync.sampleEnv).blocks twoReplies).flatten ++
          c.send.bound.buffer.data = frames [Message.ofPayload [1], Message.ofPayload [2]] := by
  have h : ((TcpConnAsync.sender TcpConnAsync.sampleEnv).machine.run twoReplies).isSome := by
    decide +kernel
  have hback : ∀ x ∈ (TcpConnAsync.sender TcpConnAsync.sampleEnv).machine.trace
      (TcpConnAsync.sender TcpConnAsync.sampleEnv).machine.start twoReplies,
      ((TcpConnAsync.sender TcpConnAsync.sampleEnv).held x.1 x.2.1).length < 2 ^ 32 := by
    decide +kernel
  obtain ⟨c, hc⟩ := Option.isSome_iff_exists.mp h
  exact ⟨c, hc, (send_pipeline_conveys.1 _ _ c hc fun u e v ht => hback _ ht.mem_trace).conserved⟩

end Tzrpc
