import Tzrpc.ClientReceive

/-!
# An asynchronous connection over its whole life

What holds of the client's connection whatever completes, fails or closes it: it hands on
the messages of the bytes it has read, in order, all of them for as long as it works, and
puts the messages it accepted on the wire in order.
-/
namespace Tzrpc.Client.TcpConnAsync

open TcpConnSync (Waits framing)

def messages (setting : ClientSetting) (s : Bytes) : List Message :=
  ((framing setting).parse s).1.map messageOf

/-- The connection as the synchronous routines see it. -/
def view (c : TcpConnAsync) : TcpConnSync := ⟨c.net, c.recv.bound, c.send.bound⟩

/-- Every message of `s` was handed on, and a read waits for more of the next. -/
def Reading (setting : ClientSetting) (s : Bytes) (c : TcpConnAsync) : Prop :=
  c.recv.delivered = messages setting s ∧ ∃ id kind n p, c.recv.reads = [⟨id, kind, n⟩] ∧
    ((framing setting).ending s).pending = some p ∧ Waits setting p c.view kind n

/-- The connection reads on, or it has stopped somewhere in the stream and does not work. -/
def Trails (setting : ClientSetting) (s : Bytes) (c : TcpConnAsync) : Prop :=
  c.Reading setting s ∨ (c.recv.reads = [] ∧ c.net.connStat ≠ .kWorking ∧
    c.recv.delivered <+: messages setting s)

section Trails

variable {setting : ClientSetting} {c d : TcpConnAsync} {s bytes : Bytes} {i : ℕ}

lemma messages_append {p : Bytes} (hp : ((framing setting).ending s).pending = some p)
    (t : Bytes) : messages setting (s ++ t) = messages setting s ++ messages setting (p ++ t) := by
  simp only [messages, Framing.parse_append s t, hp, List.map_append]

lemma messages_prefix (setting : ClientSetting) (s t : Bytes) :
    messages setting s <+: messages setting (s ++ t) := by
  rw [messages, messages, Framing.parse_append s t]
  cases ((framing setting).ending s).pending with
  | none => exact List.prefix_refl _
  | some p => exact List.map_append ▸ List.prefix_append _ _

lemma waits_congr {p : Bytes} {a b : TcpConnSync} {kind : ReadKind} {n : ℕ}
    (h : a.recvBound = b.recvBound) (hw : Waits setting p a kind n) : Waits setting p b kind n := by
  unfold Waits at *
  rwa [← h]

lemma Trails.delivered_prefix (h : c.Trails setting s) :
    c.recv.delivered <+: messages setting s := by
  rcases h with ⟨hd, -⟩ | ⟨-, -, hd⟩
  · exact hd ▸ List.prefix_refl _
  · exact hd

lemma Trails.delivered_eq (h : c.Trails setting s) (hw : c.net.connStat = .kWorking) :
    c.recv.delivered = messages setting s := by
  rcases h with ⟨hd, -⟩ | ⟨-, hn, -⟩
  · exact hd
  · exact absurd hw hn

lemma started_trails (setting : ClientSetting) : (started setting).Trails setting [] := by
  refine Or.inl ⟨?_, 0, .head, Header.size, [], rfl, ?_, ⟨by decide, rfl, rfl⟩⟩
  · rw [messages, Framing.parse_nil]
    rfl
  · rw [Framing.ending, Framing.parse_nil]
    rfl

lemma Trails.of_recv (h : c.Trails setting s) (hr : d.recv = c.recv)
    (hn : d.net.connStat = .kWorking → c.net.connStat = .kWorking) : d.Trails setting s := by
  rcases h with ⟨hd, id, kind, n, p, hreads, hp, hw⟩ | ⟨hreads, hnot, hd⟩
  · exact Or.inl ⟨hr ▸ hd, id, kind, n, p, hr ▸ hreads, hp,
      waits_congr (congrArg RecvSide.bound hr).symm hw⟩
  · exact Or.inr ⟨hr ▸ hreads, fun hw => hnot (hn hw), hr ▸ hd⟩

lemma doRead_stopped {fuel : ℕ} (h : c.net.connStat ≠ .kWorking) :
    c.doRead setting (fuel + 1) = some c := by
  rw [TcpConnAsync.doRead, if_pos h]

lemma doReadMsg_stopped {fuel : ℕ} (h : c.net.connStat ≠ .kWorking) :
    c.doReadMsg setting (fuel + 1) = some c := by
  rw [TcpConnAsync.doReadMsg, if_pos h]

lemma chainFuel_succ (c : TcpConnAsync) : ∃ k, c.chainFuel = k + 1 :=
  ⟨_, by rw [chainFuel, Nat.mul_add]⟩

lemma readHandler_stopped (h : c.net.connStat ≠ .kWorking) (bytes : Bytes) :
    ∃ d, c.readHandler setting bytes = some d ∧ d.recv.reads = c.recv.reads ∧
      d.recv.delivered = c.recv.delivered ∧ d.net.connStat ≠ .kWorking := by
  obtain ⟨k, hk⟩ := (c.received bytes).chainFuel_succ
  unfold readHandler
  simp only [hk]
  split_ifs
  · exact ⟨_, doRead_stopped (c := c.received bytes) h, rfl, rfl, h⟩
  · exact ⟨_, doReadMsg_stopped (c := ((c.received bytes).parseHeader setting).2) h, rfl, rfl, h⟩
  · exact ⟨_, doRead_stopped (c := ((c.received bytes).parseHeader setting).2) h, rfl, rfl, h⟩
  · exact ⟨_, rfl, rfl, rfl, by simp [shutdownAndCloseSocket]⟩

lemma readMsgLoop_received {s : TcpConnSync}
    (hs : ¬ s.recvBound.buffer.getLength < s.recvBound.header.length) :
    ∃ s', s.readMsgLoop = (.received (s.recvBound.parseMsgBody ⟨Header.zero, []⟩).2.1, s') := by
  have h0 := (s.recvBound.parseMsgBody_cut ⟨Header.zero, []⟩).1
  rw [if_neg hs] at h0
  rw [TcpConnSync.readMsgLoop, if_neg hs]
  exact ⟨_, if_pos h0⟩

/-- A body that completes on a connection that does not work is still handed on, and
nothing after it. -/
lemma readMsgHandler_stopped (h : c.net.connStat ≠ .kWorking) (bytes : Bytes) :
    ∃ d, c.readMsgHandler setting bytes = some d ∧ d.recv.reads = c.recv.reads ∧
      d.net.connStat ≠ .kWorking ∧ (d.recv.delivered = c.recv.delivered ∨
        ∃ msg s', c.view.readDone setting .body bytes = (.received msg, s') ∧
          d.recv.delivered = c.recv.delivered ++ [msg]) := by
  obtain ⟨k, hk⟩ := (c.received bytes).chainFuel_succ
  unfold readMsgHandler
  simp only [hk]
  by_cases hs : (c.received bytes).recv.bound.buffer.getLength <
      (c.received bytes).recv.bound.header.length
  · rw [parseMsgBody_short hs, if_neg one_ne_zero, if_pos one_pos]
    exact ⟨_, doReadMsg_stopped (c := c.received bytes) h, rfl, h, Or.inl rfl⟩
  · have h0 := ((c.received bytes).recv.bound.parseMsgBody_cut ⟨Header.zero, []⟩).1
    rw [if_neg hs] at h0
    have hview : c.view.readDone setting .body bytes = (c.received bytes).view.readMsgLoop := rfl
    obtain ⟨s', hloop⟩ := readMsgLoop_received (s := (c.received bytes).view) hs
    rw [if_pos (show ((c.received bytes).parseMsgBody ⟨Header.zero, []⟩).1 = 0 from h0)]
    exact ⟨_, doRead_stopped (c := TcpConnAsync.deliver
      ((c.received bytes).parseMsgBody ⟨Header.zero, []⟩).2.2 _) h, rfl, h,
      Or.inr ⟨_, s', hview.trans hloop, rfl⟩⟩

lemma step_readDone_single {op : ReadOp} (hreads : c.recv.reads = [op])
    (hs : c.step setting (.readDone i bytes) = some d) :
    i = 0 ∧ bytes.length ≤ kFixedIoBufferSize.toNat ∧ (c.dropRead 0).recv.reads = [] ∧
      (match op.kind with
        | .head => (c.dropRead 0).readHandler setting bytes
        | .body => (c.dropRead 0).readMsgHandler setting bytes) = some d := by
  cases i with
  | succ i => simp [TcpConnAsync.step, hreads] at hs
  | zero =>
    simp only [TcpConnAsync.step, hreads, List.getElem?_cons_zero, Option.bind_some] at hs
    split_ifs at hs with hb
    exact ⟨rfl, hb.2, by simp [dropRead, hreads], hs⟩

theorem Trails.readDone (hB : Bounded setting s) (h : c.Trails setting s)
    (hs : c.step setting (.readDone i bytes) = some d) :
    d.Trails setting (s ++ bytes) ∧ c.recv.delivered <+: d.recv.delivered := by
  rcases h with ⟨hdel, id, kind, n, p, hreads, hp, hw⟩ | ⟨hreads, -⟩
  swap
  · simp [TcpConnAsync.step, hreads] at hs
  obtain ⟨rfl, hmax, hnil, hhandler⟩ := step_readDone_single hreads hs
  by_cases hopen : c.net.connStat = .kWorking
  · obtain ⟨-, ms, r, hcalls, hdel', hstands⟩ :=
      step_matches (show Stands c (.blocked (.read kind n), c.view) from
        ⟨⟨rfl, rfl⟩, hopen, id, hreads⟩) hs
    have hholds : Holds setting ((framing setting).ending s) (.blocked (.read kind n), c.view) := by
      unfold Holds
      rw [hp]
      exact ⟨kind, n, rfl, hw, hopen⟩
    obtain ⟨hms, hend⟩ := hcalls.parse_read hmax hB hholds
    have hall : d.recv.delivered = messages setting (s ++ bytes) := by
      rw [hdel', hdel]
      exact hms.symm
    refine ⟨?_, hdel' ▸ List.prefix_append _ _⟩
    unfold Holds at hend
    obtain ⟨hag, hstands⟩ := hstands
    split at hend
    · rw [hend.1] at hstands
      refine Or.inr ⟨hstands, ?_, hall ▸ List.prefix_refl _⟩
      rw [hag.net, hend.2]
      decide
    · rename_i p' hp'
      obtain ⟨kind', n', hop, hw', -⟩ := hend
      rw [hop] at hstands
      obtain ⟨-, id', hreads'⟩ := hstands
      exact Or.inl ⟨hall, id', kind', n', p', hreads', hp', waits_congr hag.bound.symm hw'⟩
  · have hstop : (c.dropRead 0).net.connStat ≠ .kWorking := hopen
    have hkeep := messages_prefix setting s bytes
    cases kind with
    | head =>
      obtain ⟨e, he, hreads', hdel', hnot⟩ := @readHandler_stopped setting _ hstop bytes
      obtain rfl := Option.some.inj (hhandler.symm.trans he)
      exact ⟨Or.inr ⟨hreads'.trans hnil, hnot, (hdel'.trans hdel) ▸ hkeep⟩,
        hdel' ▸ List.prefix_refl _⟩
    | body =>
      obtain ⟨e, he, hreads', hnot, hcase⟩ := @readMsgHandler_stopped setting _ hstop bytes
      obtain rfl := Option.some.inj (hhandler.symm.trans he)
      rcases hcase with hdel' | ⟨msg, s', hread, hdel'⟩
      · exact ⟨Or.inr ⟨hreads'.trans hnil, hnot, (hdel'.trans hdel) ▸ hkeep⟩,
          hdel' ▸ List.prefix_refl _⟩
      · refine ⟨Or.inr ⟨hreads'.trans hnil, hnot, ?_⟩, hdel' ▸ List.prefix_append _ _⟩
        have hnext := TcpConnSync.readDone_reads hw (TcpConnSync.Waits.room hw hp hB hmax).1
        rw [show c.view = (c.dropRead 0).view from rfl, hread] at hnext
        obtain ⟨-, f, t, hf, hsplit, rfl, -⟩ := hnext
        rw [hdel', show (c.dropRead 0).recv.delivered = _ from hdel, messages_append hp, hsplit,
          messages, messages, Framing.parse_frame hf, List.prefix_append_right_inj]
        exact List.prefix_append [_] _

lemma doWrite_recv (c : TcpConnAsync) : c.doWrite.2.recv = c.recv := by
  unfold doWrite
  split_ifs <;> rfl

lemma sendNetMessage_recv (setting : ClientSetting) (c : TcpConnAsync) (msg : Message) :
    (c.sendNetMessage setting msg).2.recv = c.recv := by
  unfold sendNetMessage
  split_ifs
  · rfl
  · exact doWrite_recv _

lemma handleSocketEc_recv (c : TcpConnAsync) (ec : ErrorCode) :
    (c.handleSocketEc ec).recv = c.recv := by
  unfold handleSocketEc
  split_ifs <;> rfl

lemma handleSocketEc_working {ec : ErrorCode} (h : (c.handleSocketEc ec).net.connStat = .kWorking) :
    c.net.connStat = .kWorking ∧ ec.closeSocket = false := by
  unfold handleSocketEc at h
  split_ifs at h with hc
  · simp [shutdownAndCloseSocket] at h
  · exact ⟨h, by simpa using hc⟩

lemma mayFail_stops {ec : ErrorCode} (h : c.mayFail ec) :
    (c.handleSocketEc ec).net.connStat ≠ .kWorking := by
  intro hw
  obtain ⟨hopen, hclose⟩ := handleSocketEc_working hw
  cases ec <;> simp_all [mayFail, ErrorCode.closeSocket]

lemma step_stopped {e : Event} (h : c.net.connStat ≠ .kWorking) (hs : c.step setting e = some d) :
    d.net.connStat ≠ .kWorking := by
  cases e with
  | readDone i bytes =>
    obtain ⟨op, -, hs⟩ := Option.bind_eq_some_iff.mp hs
    split_ifs at hs
    have hdrop : (c.dropRead i).net.connStat ≠ .kWorking := h
    cases hk : op.kind with
    | head =>
      obtain ⟨e, he, -, -, hnot⟩ := @readHandler_stopped setting _ hdrop bytes
      rw [hk] at hs
      obtain rfl := Option.some.inj (hs.symm.trans he)
      exact hnot
    | body =>
      obtain ⟨e, he, -, hnot, -⟩ := @readMsgHandler_stopped setting _ hdrop bytes
      rw [hk] at hs
      obtain rfl := Option.some.inj (hs.symm.trans he)
      exact hnot
  | readFail i ec =>
    obtain ⟨op, -, -, rfl⟩ := step_readFail hs
    exact fun hw => h (handleSocketEc_working hw).1
  | wrote i n =>
    obtain ⟨op, -, -, rfl⟩ := step_wrote hs
    exact h
  | writeDone i =>
    obtain ⟨op, -, -, rfl⟩ := step_writeDone hs
    rw [writeHandler, doWrite_net]
    exact h
  | writeFail i ec =>
    obtain ⟨op, -, -, rfl⟩ := step_writeFail hs
    exact fun hw => h (handleSocketEc_working hw).1

theorem Trails.step {e : Event} (h : c.Trails setting s) (he : ∀ i bytes, e ≠ .readDone i bytes)
    (hs : c.step setting e = some d) :
    d.Trails setting s ∧ c.recv.delivered <+: d.recv.delivered := by
  cases e with
  | readDone i bytes => exact absurd rfl (he i bytes)
  | readFail i ec =>
    obtain ⟨op, hop, hmay, rfl⟩ := step_readFail hs
    have hrecv := handleSocketEc_recv (c.dropRead i) ec
    refine ⟨Or.inr ⟨?_, mayFail_stops (c := c.dropRead i) hmay, ?_⟩, hrecv ▸ List.prefix_refl _⟩
    · rw [hrecv]
      rcases h with ⟨-, id, kind, n, p, hreads, -⟩ | ⟨hreads, -⟩
      · rw [hreads] at hop
        have hlt := (List.getElem?_eq_some_iff.mp hop).1
        apply List.eq_nil_of_length_eq_zero
        rw [dropRead, hreads, List.length_eraseIdx_of_lt hlt]
        rfl
      · simp [hreads] at hop
    · rw [hrecv]
      exact h.delivered_prefix
  | wrote i n =>
    obtain ⟨op, -, -, rfl⟩ := step_wrote hs
    exact ⟨h.of_recv rfl id, List.prefix_refl _⟩
  | writeDone i =>
    obtain ⟨op, -, -, rfl⟩ := step_writeDone hs
    refine ⟨h.of_recv (doWrite_recv _) fun hw => ?_, ?_⟩
    · rwa [writeHandler, doWrite_net] at hw
    · rw [writeHandler, doWrite_recv]
      exact List.prefix_refl _
  | writeFail i ec =>
    obtain ⟨op, -, -, rfl⟩ := step_writeFail hs
    refine ⟨h.of_recv (handleSocketEc_recv _ ec) fun hw => (handleSocketEc_working hw).1, ?_⟩
    rw [writeHandler, handleSocketEc_recv]
    exact List.prefix_refl _

end Trails

/-- The connection is closed, or it works and a read is outstanding. -/
def ReadsOrClosed (c : TcpConnAsync) : Prop :=
  c.net.connStat = .kClosed ∨ (c.net.connStat = .kWorking ∧ c.recv.reads ≠ [])

structure Leaves (c d : TcpConnAsync) : Prop where
  net : d.net = c.net ∨ d.net.connStat = .kClosed
  reads : d.net.connStat = .kWorking → d.recv.reads ≠ []

section Closing

variable {setting : ClientSetting} {c d : TcpConnAsync}

lemma Leaves.of_halted (h : c.net.connStat ≠ .kWorking) : Leaves c c :=
  ⟨Or.inl rfl, fun hw => absurd hw h⟩

lemma Leaves.of_shutdown (c d : TcpConnAsync) : Leaves c d.shutdownAndCloseSocket := by
  have hclosed : d.shutdownAndCloseSocket.net.connStat = .kClosed :=
    NetConn.sockShutdownAndClose_connStat _
  exact ⟨Or.inr hclosed, fun hw => by rw [hclosed] at hw; cases hw⟩

lemma Leaves.of_asyncRead (c : TcpConnAsync) (kind : ReadKind) (n : ℕ) :
    Leaves c (c.asyncRead kind n) := ⟨Or.inl rfl, fun _ => by simp [asyncRead]⟩

lemma Leaves.of_net {f : TcpConnAsync} (h : Leaves d f) (hn : d.net = c.net) : Leaves c f :=
  ⟨hn ▸ h.net, h.reads⟩

lemma chain_leaves (fuel : ℕ) (c : TcpConnAsync) :
    (∀ d, doRead setting fuel c = some d → Leaves c d) ∧
      (∀ d, doReadMsg setting fuel c = some d → Leaves c d) := by
  induction fuel generalizing c with
  | zero => simp [doRead, doReadMsg]
  | succ fuel ih =>
    constructor
    · intro d h
      unfold doRead at h
      dsimp only at h
      split_ifs at h with hw hs h0 h1
      · obtain rfl := Option.some.inj h
        exact .of_halted hw
      · obtain rfl := Option.some.inj h
        exact .of_asyncRead c _ _
      · exact ((ih _).2 d h).of_net rfl
      · exact ((ih _).1 d h).of_net rfl
      · obtain rfl := Option.some.inj h
        exact .of_shutdown c _
    · intro d h
      unfold doReadMsg at h
      dsimp only at h
      split_ifs at h with hw hs h0 h1
      · obtain rfl := Option.some.inj h
        exact .of_halted hw
      · obtain rfl := Option.some.inj h
        exact .of_asyncRead c _ _
      · exact ((ih _).1 d h).of_net rfl
      · exact ((ih _).2 d h).of_net rfl
      · obtain rfl := Option.some.inj h
        exact .of_shutdown c _

lemma readHandler_leaves {bytes : Bytes} (h : c.readHandler setting bytes = some d) :
    Leaves c d := by
  unfold readHandler at h
  dsimp only at h
  split_ifs at h
  · exact ((chain_leaves _ _).1 d h).of_net rfl
  · exact ((chain_leaves _ _).2 d h).of_net rfl
  · exact ((chain_leaves _ _).1 d h).of_net rfl
  · obtain rfl := Option.some.inj h
    exact .of_shutdown c _

lemma readMsgHandler_leaves {bytes : Bytes} (h : c.readMsgHandler setting bytes = some d) :
    Leaves c d := by
  unfold readMsgHandler at h
  dsimp only at h
  split_ifs at h
  · exact ((chain_leaves _ _).1 d h).of_net rfl
  · exact ((chain_leaves _ _).2 d h).of_net rfl
  · obtain rfl := Option.some.inj h
    exact .of_shutdown c _

lemma handleSocketEc_net (c : TcpConnAsync) (ec : ErrorCode) :
    (c.handleSocketEc ec).net = c.net ∨ (c.handleSocketEc ec).net.connStat = .kClosed := by
  unfold handleSocketEc
  split_ifs
  · exact Or.inr (NetConn.sockShutdownAndClose_connStat _)
  · exact Or.inl rfl

lemma ReadsOrClosed.of_net (h : c.ReadsOrClosed) (hn : d.net = c.net)
    (hr : d.recv.reads = c.recv.reads) : d.ReadsOrClosed := by
  unfold ReadsOrClosed at *
  rw [hn, hr]
  exact h

lemma ReadsOrClosed.of_leaves (h : c.ReadsOrClosed) (hl : Leaves c d) : d.ReadsOrClosed := by
  rcases hl.net with hd | hd
  · rcases h with hc | ⟨hw, -⟩
    · exact Or.inl (by rw [hd, hc])
    · have hwork : d.net.connStat = .kWorking := by rw [hd, hw]
      exact Or.inr ⟨hwork, hl.reads hwork⟩
  · exact Or.inl hd

lemma ReadsOrClosed.step {e : Event} (h : c.ReadsOrClosed) (hs : c.step setting e = some d) :
    d.ReadsOrClosed := by
  cases e with
  | readDone i bytes =>
    obtain ⟨op, -, hd⟩ := Option.bind_eq_some_iff.mp hs
    split_ifs at hd
    cases hk : op.kind with
    | head =>
      rw [hk] at hd
      exact h.of_leaves ((readHandler_leaves hd).of_net rfl)
    | body =>
      rw [hk] at hd
      exact h.of_leaves ((readMsgHandler_leaves hd).of_net rfl)
  | readFail i ec =>
    obtain ⟨op, -, hmay, rfl⟩ := step_readFail hs
    have hstop : ((c.dropRead i).handleSocketEc ec).net.connStat ≠ .kWorking := mayFail_stops hmay
    rcases handleSocketEc_net (c.dropRead i) ec with hn | hn
    · rcases h with hc | ⟨hw, -⟩
      · exact Or.inl (by rw [hn]; exact hc)
      · exact absurd ((congrArg NetConn.connStat hn).trans hw) hstop
    · exact Or.inl hn
  | wrote i n =>
    obtain ⟨op, -, -, rfl⟩ := step_wrote hs
    exact h.of_net rfl rfl
  | writeDone i =>
    obtain ⟨op, -, -, rfl⟩ := step_writeDone hs
    exact h.of_net (doWrite_net _) (congrArg RecvSide.reads (doWrite_recv _))
  | writeFail i ec =>
    obtain ⟨op, -, -, rfl⟩ := step_writeFail hs
    rcases handleSocketEc_net (c.dropWrite i) ec with hn | hn
    · exact h.of_net hn (congrArg RecvSide.reads (handleSocketEc_recv (c.dropWrite i) ec))
    · exact Or.inl hn

lemma started_readsOrClosed (setting : ClientSetting) : (started setting).ReadsOrClosed :=
  Or.inr ⟨rfl, List.cons_ne_nil _ _⟩

lemma reachable_stopped (h : (receiver setting).Reachable c) (hw : c.net.connStat ≠ .kWorking) :
    c.net.connStat = .kClosed := by
  have hstands : c.ReadsOrClosed := Machine.reachable_of_inductive (M := receiver setting)
    (started_readsOrClosed setting) (fun _ _ _ h hs => h.step hs) h
  exact hstands.resolve_right fun hr => hw hr.1

end Closing

def putsOnWire (c : TcpConnAsync) : Event → Bytes
  | .wrote i n => (c.send.writes[i]?).elim [] fun op => (c.send.bound.ioBlock.drop op.sent).take n
  | _ => []

lemma putsOnWire_of_ne {c : TcpConnAsync} {e : Event} (h : ∀ i n, e ≠ .wrote i n) :
    c.putsOnWire e = [] := by
  cases e <;> first | rfl | exact absurd rfl (h _ _)

def unsent (c : TcpConnAsync) (op : WriteOp) : Bytes :=
  (c.send.bound.ioBlock.take op.size).drop op.sent

/-- Of the bytes accepted, `wire` is on the wire; a single write has the next of them, unless
one has failed, and as long as the connection works the buffer has the rest. -/
structure Conserves (accepted wire : Bytes) (c : TcpConnAsync) : Prop where
  sent : wire <+: accepted
  sending : c.send.status = .kSend → c.send.writes = [] ∨ ∃ op, c.send.writes = [op] ∧
    wire ++ c.unsent op ++ c.send.bound.buffer.data = accepted
  idle : c.send.status = .kDone → c.send.writes = [] ∧
    (c.net.connStat = .kWorking → wire ++ c.send.bound.buffer.data = accepted)

section Conserves

variable {setting : ClientSetting} {c d : TcpConnAsync} {accepted wire : Bytes}

lemma started_conserves (setting : ClientSetting) : (started setting).Conserves [] [] :=
  ⟨List.prefix_refl _, fun h => (by cases h), fun _ => ⟨rfl, fun _ => rfl⟩⟩

lemma Conserves.of_send (h : c.Conserves accepted wire) (hs : d.send = c.send)
    (hn : d.net.connStat = .kWorking → c.net.connStat = .kWorking) : d.Conserves accepted wire := by
  refine ⟨h.sent, fun hk => ?_, fun hk => ?_⟩
  · simpa only [unsent, hs] using h.sending (hs ▸ hk)
  · obtain ⟨hw, hb⟩ := h.idle (hs ▸ hk)
    exact ⟨hs ▸ hw, fun hwork => hs ▸ hb (hn hwork)⟩

lemma startWrite_conserves {toWrite : UInt32} (hsent : wire <+: accepted)
    (hle : toWrite.toNat ≤ c.send.bound.buffer.data.length) (hw : c.send.writes = [])
    (hb : wire ++ c.send.bound.buffer.data = accepted) :
    (c.startWrite toWrite).Conserves accepted wire := by
  obtain ⟨hblock, hrest⟩ := @Buffer.consumeBlock_eq _ c.send.bound.ioBlock _ hle
  refine ⟨hsent, fun _ => Or.inr ⟨⟨c.ops, toWrite.toNat, 0⟩, by simp [startWrite, hw], ?_⟩,
    fun hk => by cases hk⟩
  simp only [startWrite, unsent, hblock, hrest, List.drop_zero, List.append_assoc,
    List.take_append_drop]
  exact hb

lemma doWrite_conserves (hsent : wire <+: accepted) (hdone : c.send.status = .kDone)
    (hw : c.send.writes = [])
    (hb : c.net.connStat = .kWorking → wire ++ c.send.bound.buffer.data = accepted) :
    c.doWrite.2.Conserves accepted wire := by
  have hkeep : c.Conserves accepted wire :=
    ⟨hsent, fun hk => (by rw [hdone] at hk; cases hk), fun _ => ⟨hw, hb⟩⟩
  have hmin := UInt32.toNat_min c.send.bound.buffer.getLength kFixedIoBufferSize
  have hget := c.send.bound.buffer.getLength_le
  unfold doWrite
  split_ifs with hs hn h0
  · exact hkeep
  · exact hkeep
  · exact hkeep
  · exact startWrite_conserves hsent (by omega) hw (hb (not_not.mp hn))

theorem Conserves.sendNetMessage (h : c.Conserves accepted wire) (msg : Message) :
    (c.sendNetMessage setting msg).2.Conserves
      (if (c.sendNetMessage setting msg).1 then accepted ++ msg.netStr else accepted) wire := by
  have happend : (c.appendMessage msg).send.bound.buffer.data =
      c.send.bound.buffer.data ++ msg.netStr := Buffer.append_data _ _
  have hsent := h.sent.trans (List.prefix_append accepted msg.netStr)
  unfold TcpConnAsync.sendNetMessage
  cases hr : refusesSize setting msg with
  | true => exact h
  | false =>
    simp only [Bool.false_eq_true, ↓reduceIte]
    cases hs : c.send.status with
    | kSend =>
      have hkeep : (c.appendMessage msg).doWrite = (true, c.appendMessage msg) := by
        rw [doWrite, if_pos (by simp [appendMessage, hs])]
      rw [hkeep]
      refine ⟨hsent, fun _ => ?_, fun hk => ?_⟩
      · rcases h.sending hs with hnil | ⟨op, hop, hconv⟩
        · exact Or.inl hnil
        · refine Or.inr ⟨op, hop, ?_⟩
          rw [happend, if_pos rfl, ← hconv, List.append_assoc, List.append_assoc,
            List.append_assoc]
          rfl
      · rw [show (c.appendMessage msg).send.status = c.send.status from rfl, hs] at hk
        cases hk
    | kDone =>
      obtain ⟨hnone, hb⟩ := h.idle hs
      by_cases hw : c.net.connStat = .kWorking
      · have hacc : (c.appendMessage msg).doWrite.1 = true := by
          have hnet : (c.appendMessage msg).net.connStat = .kWorking := hw
          unfold doWrite
          split_ifs <;> simp_all
        rw [hacc, if_pos rfl]
        exact doWrite_conserves hsent hs hnone fun _ => by
          rw [happend, ← List.append_assoc, hb hw]
      · have hrefuse : (c.appendMessage msg).doWrite = (false, c.appendMessage msg) := by
          rw [doWrite, if_neg (by simp [appendMessage, hs]), if_pos (by exact hw)]
        rw [hrefuse, if_neg (by simp)]
        refine ⟨h.sent, fun hk => ?_, fun _ => ⟨hnone, fun hw' => absurd hw' hw⟩⟩
        rw [show (c.appendMessage msg).send.status = c.send.status from rfl, hs] at hk
        cases hk

lemma Conserves.writing {i : ℕ} {op : WriteOp} (h : c.Conserves accepted wire)
    (hop : c.send.writes[i]? = some op) :
    i = 0 ∧ c.send.status = .kSend ∧ c.send.writes = [op] ∧
      wire ++ c.unsent op ++ c.send.bound.buffer.data = accepted := by
  cases hs : c.send.status with
  | kDone => simp [(h.idle hs).1] at hop
  | kSend =>
    rcases h.sending hs with hnil | ⟨op', hone, hconv⟩
    · simp [hnil] at hop
    · rw [hone] at hop
      cases i with
      | zero =>
        obtain rfl := Option.some.inj hop
        exact ⟨rfl, rfl, hone, hconv⟩
      | succ i => simp at hop

/-- A completion puts the next bytes on the wire, or none. -/
theorem Conserves.step {e : Event} (h : c.Conserves accepted wire)
    (hs : c.step setting e = some d) : d.Conserves accepted (wire ++ c.putsOnWire e) := by
  have hnet : d.net.connStat = .kWorking → c.net.connStat = .kWorking := fun hw =>
    by_contra fun hn => step_stopped hn hs hw
  cases e with
  | readDone i bytes =>
    obtain ⟨op, hop, hd⟩ := Option.bind_eq_some_iff.mp hs
    split_ifs at hd with hb
    obtain ⟨d', hd', hsend⟩ := @step_readDone setting c i op bytes hop hb.1 hb.2
    obtain rfl := Option.some.inj (hs.symm.trans hd')
    rw [putsOnWire_of_ne (by simp), List.append_nil]
    exact h.of_send hsend hnet
  | readFail i ec =>
    obtain ⟨op, -, -, rfl⟩ := step_readFail hs
    rw [putsOnWire_of_ne (by simp), List.append_nil]
    exact h.of_send (handleSocketEc_send _ ec) hnet
  | wrote i n =>
    obtain ⟨op, hop, hfits, rfl⟩ := step_wrote hs
    obtain ⟨rfl, hk, hone, hconv⟩ := h.writing hop
    have hmoved : (c.send.bound.ioBlock.drop op.sent).take n ++
        c.unsent { op with sent := op.sent + n } = c.unsent op := by
      have htake : (c.send.bound.ioBlock.drop op.sent).take n =
          ((c.send.bound.ioBlock.take op.size).drop op.sent).take n := by
        rw [List.drop_take, List.take_take, min_eq_left (by omega)]
      rw [unsent, unsent, htake, ← List.drop_drop, List.take_append_drop]
    have hconv' : (wire ++ c.putsOnWire (.wrote 0 n)) ++ c.unsent { op with sent := op.sent + n } ++
        c.send.bound.buffer.data = accepted := by
      rw [← hconv, ← hmoved, putsOnWire, hop, Option.elim_some]
      simp only [List.append_assoc]
    refine ⟨?_, fun _ => Or.inr ⟨{ op with sent := op.sent + n }, ?_, hconv'⟩, fun hd => ?_⟩
    · rw [← hconv', List.append_assoc]
      exact List.prefix_append _ _
    · simp [markSent, hone]
    · rw [show (c.markSent 0 op n).send.status = c.send.status from rfl, hk] at hd
      cases hd
  | writeDone i =>
    obtain ⟨op, hop, hall, rfl⟩ := step_writeDone hs
    rw [putsOnWire_of_ne (by simp), List.append_nil]
    obtain ⟨rfl, hk, hone, hconv⟩ := h.writing hop
    have hnil : c.unsent op = [] := by
      rw [unsent, hall]
      exact List.drop_eq_nil_of_le (List.length_take_le _ _)
    rw [hnil, List.append_nil] at hconv
    exact doWrite_conserves (c := { c.dropWrite 0 with
      send := { (c.dropWrite 0).send with status := .kDone } }) h.sent rfl
      (by simp [dropWrite, hone]) fun _ => hconv
  | writeFail i ec =>
    obtain ⟨op, hop, -, rfl⟩ := step_writeFail hs
    rw [putsOnWire_of_ne (by simp), List.append_nil]
    obtain ⟨rfl, hk, hone, -⟩ := h.writing hop
    have hsend : ((c.dropWrite 0).writeHandler (some ec)).send = (c.dropWrite 0).send :=
      handleSocketEc_send _ ec
    refine ⟨h.sent, fun _ => Or.inl ?_, fun hd => ?_⟩
    · rw [hsend]
      simp [dropWrite, hone]
    · rw [hsend, show (c.dropWrite 0).send.status = c.send.status from rfl, hk] at hd
      cases hd

end Conserves

end Tzrpc.Client.TcpConnAsync
