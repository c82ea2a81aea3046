import Tzrpc.TcpConnAsyncChain
import Tzrpc.TcpConnAsyncFraming
import Tzrpc.TcpConnAsyncSenders

/-!
# A server connection over its whole life

What holds of a connection that may fail or be closed at any moment: it dispatches only
what the stream it received contains, in order, and puts only whole messages on the wire,
in the order they were accepted. Between two completions no sender is inside `do_write`.
-/
namespace Tzrpc.TcpConnAsync

/-- The connection follows the parse of `s`, or it has stopped reading before its end. -/
def Trails (env : ServerEnv) (s : Bytes) (c : TcpConnAsync) : Prop :=
  (c.recv.dispatched = (framing env).bodies s ∧ c.Awaits ((framing env).ending s) ∧
      ((framing env).ending s = .malformed → c.net.connStat = .kClosed)) ∨
    (c.recv.reads = [] ∧ c.recv.dispatched <+: (framing env).bodies s)

section Trails

variable {env : ServerEnv} {c d : TcpConnAsync} {s : Bytes}

lemma Trails.dispatched_prefix (h : Trails env s c) :
    c.recv.dispatched <+: (framing env).bodies s := by
  rcases h with ⟨hd, -, -⟩ | ⟨-, hd⟩
  · exact hd ▸ List.prefix_refl _
  · exact hd

lemma Awaits.length_le {en : Ending UInt8} (h : c.Awaits en) : c.recv.reads.length ≤ 1 := by
  cases en with
  | head r =>
    obtain ⟨-, id, hreads⟩ := h
    rw [hreads, List.length_singleton]
  | body hd r =>
    obtain ⟨-, -, id, hreads⟩ := h
    rw [hreads, List.length_singleton]
  | malformed => simp [show c.recv.reads = [] from h]

lemma Follows.trails (h : Follows env [] s c) : Trails env s c :=
  Or.inl ⟨by simpa using h.dispatched, h.awaits, h.closed⟩

lemma Trails.of_recvView (h : Trails env s c) (hv : d.recvView = c.recvView) : Trails env s d := by
  obtain ⟨hn, -, hr⟩ := recvView_eq_iff.mp hv
  rcases h with ⟨hdisp, hawaits, hclosed⟩ | ⟨hreads, hpre⟩
  · refine Or.inl ⟨hr ▸ hdisp, ?_, fun hm => hn ▸ hclosed hm⟩
    cases he : (framing env).ending s <;> simpa only [he, Awaits, hr] using hawaits
  · exact Or.inr ⟨hr ▸ hreads, hr ▸ hpre⟩

lemma doRead_halted {fuel : ℕ} (h : c.Halted) : c.doRead env (fuel + 1) = some c := by
  rcases h with h | h
  · rw [doRead, if_pos h]
  · rw [doRead]
    split_ifs <;> rfl

lemma doReadMsg_halted {fuel : ℕ} (h : c.Halted) : c.doReadMsg env (fuel + 1) = some c := by
  rcases h with h | h
  · rw [doReadMsg, if_pos h]
  · rw [doReadMsg]
    split_ifs <;> rfl

lemma readHandler_halted (h : c.Halted) (bytes : Bytes) :
    ∃ d, c.readHandler env bytes = some d ∧ d.recv.reads = c.recv.reads ∧
      d.recv.dispatched = c.recv.dispatched := by
  obtain ⟨hn, hc, hr⟩ := recvView_eq_iff.mp (revokeOpsCancelTimeout_recvView c)
  have hhalt : (c.revokeOpsCancelTimeout.received bytes).Halted := h.of_view hn hc
  have hrecv : (c.revokeOpsCancelTimeout.received bytes).recv.reads = c.recv.reads ∧
      (c.revokeOpsCancelTimeout.received bytes).recv.dispatched = c.recv.dispatched := by
    simp [received, hr]
  obtain ⟨k, hk⟩ : ∃ k, (c.revokeOpsCancelTimeout.received bytes).chainFuel = k + 1 :=
    ⟨_, by rw [chainFuel, Nat.mul_add]⟩
  unfold readHandler
  simp only [hk]
  split_ifs
  · exact ⟨_, doRead_halted hhalt, hrecv⟩
  · exact ⟨_, doReadMsg_halted (hhalt.of_view rfl rfl), hrecv⟩
  · exact ⟨_, doRead_halted (hhalt.of_view rfl rfl), hrecv⟩
  · exact ⟨_, rfl, hrecv⟩

lemma readMsgHandler_halted {hd r bytes : Bytes} {n : ℕ} (h : c.Halted)
    (hdata : c.recv.bound.buffer.data = r) (hhead : c.recv.bound.header = Header.unwire hd)
    (hl : hd.length = Header.size) (hb : (framing env).bodyLen hd = some n)
    (hlen : (r ++ bytes).length < 2 ^ 32) :
    ∃ d, c.readMsgHandler env bytes = some d ∧ d.recv.reads = c.recv.reads ∧
      (d.recv.dispatched = c.recv.dispatched ∨
        n ≤ (r ++ bytes).length ∧
          d.recv.dispatched = c.recv.dispatched ++ [(r ++ bytes).take n]) := by
  obtain ⟨hn, hc, hr⟩ := recvView_eq_iff.mp (revokeOpsCancelTimeout_recvView c)
  have hhalt : (c.revokeOpsCancelTimeout.received bytes).Halted := h.of_view hn hc
  have hrecv : (c.revokeOpsCancelTimeout.received bytes).recv =
      { c.recv with bound := { c.recv.bound with buffer := ⟨r ++ bytes⟩ } } := by
    simp [received, hr, hdata, Buffer.appendInternal]
  have hhl : (c.revokeOpsCancelTimeout.received bytes).recv.bound.header.length.toNat = n := by
    rw [hrecv]
    simp only [hhead]
    exact unwire_length_of_bodyLen hl hb
  obtain ⟨k, hk⟩ : ∃ k, (c.revokeOpsCancelTimeout.received bytes).chainFuel = k + 1 :=
    ⟨_, by rw [chainFuel, Nat.mul_add]⟩
  by_cases hshort : (r ++ bytes).length < n
  · rw [readMsgHandler_short (by rw [hhl, hrecv]; exact hshort), hk]
    refine ⟨_, doReadMsg_halted hhalt, by rw [hrecv], Or.inl (by rw [hrecv])⟩
  · have hbody := @IOBound.parseMsgBody_eq (c.revokeOpsCancelTimeout.received bytes).recv.bound
      ⟨Header.zero, []⟩ (by rw [hhl, hrecv]; simp only; omega) (by rw [hrecv]; exact hlen)
    have hbuf : (c.revokeOpsCancelTimeout.received bytes).recv.bound.buffer.data = r ++ bytes := by
      rw [hrecv]
    rw [hhl, hbuf] at hbody
    have hview := dispatch_recvView env
      ((c.revokeOpsCancelTimeout.received bytes).parseMsgBody ⟨Header.zero, []⟩).2.2
      ((r ++ bytes).take n)
    simp only [recvView, Prod.mk.injEq] at hview
    obtain ⟨hn', hc', hr'⟩ := hview
    have hres : c.readMsgHandler env bytes =
        doRead env (k + 1) (((c.revokeOpsCancelTimeout.received bytes).parseMsgBody
          ⟨Header.zero, []⟩).2.2.dispatch env ((r ++ bytes).take n)) := by
      simp only [readMsgHandler, parseMsgBody, hbody, hk, ↓reduceIte]
    refine ⟨_, hres.trans (doRead_halted (hhalt.of_view hn' hc')), ?_, Or.inr ⟨by omega, ?_⟩⟩
    · rw [hr']
      simp [parseMsgBody, hrecv]
    · rw [hr']
      simp [parseMsgBody, hrecv]

lemma step_readDone_single {i : ℕ} {bytes : Bytes} {op : ReadOp} (hreads : c.recv.reads = [op])
    (hs : step env c (.readDone i bytes) = some d) :
    bytes.length ≤ kFixedIoBufferSize.toNat ∧ (c.dropRead 0).recv.reads = [] ∧
      (match op.kind with
        | .head => (c.dropRead 0).readHandler env bytes
        | .body => (c.dropRead 0).readMsgHandler env bytes) = some d := by
  cases i with
  | succ i => simp [step, hreads] at hs
  | zero =>
    simp only [step, hreads, List.getElem?_cons_zero, Option.bind_some] at hs
    split_ifs at hs with hb
    exact ⟨hb.2, by simp [dropRead, hreads], hs⟩

lemma bodies_append_cut {hd r t : Bytes} {n : ℕ} (he : (framing env).ending s = .body hd r)
    (hl : hd.length = Header.size) (hb : (framing env).bodyLen hd = some n)
    (hn : n ≤ (r ++ t).length) :
    (framing env).bodies s ++ [(r ++ t).take n] <+: (framing env).bodies (s ++ t) := by
  have hpend : ((framing env).ending s).pending = some (hd ++ r) := by
    rw [he]
    rfl
  have hacc : (framing env).Accepts ⟨hd, (r ++ t).take n⟩ := by
    refine ⟨hl, ?_⟩
    rw [hb, List.length_take, min_eq_left hn]
  have hframe := Framing.parse_frame hacc ((r ++ t).drop n)
  rw [Frame.elems, List.append_assoc, List.take_append_drop, ← List.append_assoc] at hframe
  rw [Framing.bodies_append hpend, List.prefix_append_right_inj, Framing.bodies, hframe]
  exact ⟨_, rfl⟩

lemma Trails.readDone {bytes : Bytes} {i : ℕ} (hB : Bounded env s) (h : Trails env s c)
    (hs : step env c (.readDone i bytes) = some d) : Trails env (s ++ bytes) d := by
  rcases h with ⟨hdisp, hawaits, hclosed⟩ | ⟨hreads, -⟩
  swap
  · simp [step, hreads] at hs
  by_cases halt : c.Halted
  swap
  · simp only [Halted, not_or, not_not, Bool.not_eq_true] at halt
    refine (Follows.readDone hB ⟨by simpa using hdisp, hawaits, hclosed, fun _ => halt⟩ hs).trails
  have hdrop : (c.dropRead 0).Halted := halt.of_view rfl rfl
  refine Or.inr ?_
  rcases Framing.ending_cases (F := framing env) s with ⟨r, he, hr⟩ | ⟨hd, r, n, he, hl, hb, hr⟩ | he
    <;> rw [he] at hawaits
  · obtain ⟨-, id, hreads⟩ := hawaits
    obtain ⟨-, hnil, hd⟩ := step_readDone_single hreads hs
    obtain ⟨e, he', hr', hd'⟩ := @readHandler_halted env _ hdrop bytes
    obtain rfl := Option.some.inj (hd.symm.trans he')
    exact ⟨hr'.trans hnil, by
      rw [hd']
      exact hdisp ▸ Framing.bodies_prefix (List.prefix_append s bytes)⟩
  · obtain ⟨hdata, hhead, id, hreads⟩ := hawaits
    obtain ⟨hmax, hnil, hd'⟩ := step_readDone_single hreads hs
    have hlen : (r ++ bytes).length < 2 ^ 32 := by
      have hn := hB hd r n he hb
      rw [List.length_append]
      omega
    obtain ⟨e, he', hr', hcase⟩ := @readMsgHandler_halted env _ _ _ _ _ hdrop hdata hhead hl hb hlen
    obtain rfl := Option.some.inj (hd'.symm.trans he')
    refine ⟨hr'.trans hnil, ?_⟩
    rcases hcase with hsame | ⟨hn, hmore⟩
    · rw [hsame]
      exact hdisp ▸ Framing.bodies_prefix (List.prefix_append s bytes)
    · rw [hmore]
      exact hdisp ▸ bodies_append_cut he hl hb hn
  · simp [step, show c.recv.reads = [] from hawaits] at hs

lemma Trails.step {e : Event} (h : Trails env s c) (hd : ∀ i bytes, e ≠ .readDone i bytes)
    (hs : step env c e = some d) : Trails env s d := by
  by_cases hf : ∃ i ec, e = .readFail i ec
  · obtain ⟨i, ec, rfl⟩ := hf
    obtain ⟨op, hop, -, rfl⟩ := step_readFail hs
    have hrecv := readFailed_recv (c.dropRead i) ec
    refine Or.inr ⟨?_, ?_⟩
    · rw [hrecv]
      rcases h with ⟨-, hawaits, -⟩ | ⟨hreads, -⟩
      · have hlt : i < c.recv.reads.length := (List.getElem?_eq_some_iff.mp hop).1
        have hle := hawaits.length_le
        apply List.eq_nil_of_length_eq_zero
        rw [dropRead, List.length_eraseIdx_of_lt hlt]
        omega
      · simp [dropRead, hreads]
    · rw [hrecv]
      exact h.dispatched_prefix
  · obtain ⟨hr, hc, -⟩ := step_recv hd (Or.inr fun i ec he => hf ⟨i, ec, he⟩) hs
    rcases h with ⟨hdisp, hawaits, hclosed⟩ | ⟨hreads, hpre⟩
    · refine Or.inl ⟨hr ▸ hdisp, ?_, fun hm => hc (hclosed hm)⟩
      cases he : (framing env).ending s <;> simpa only [he, Awaits, hr] using hawaits
    · exact Or.inr ⟨hr ▸ hreads, hr ▸ hpre⟩

end Trails

def putsOnWire (c : TcpConnAsync) : Event → Bytes
  | .wrote i n => (c.send.writes[i]?).elim [] fun op => c.nextBytes op n
  | _ => []

lemma putsOnWire_of_ne {c : TcpConnAsync} {e : Event} (h : ∀ i n, e ≠ .wrote i n) :
    c.putsOnWire e = [] := by
  cases e <;> first | rfl | exact absurd rfl (h _ _)

def accepts (env : ServerEnv) (msg : Message) : List Message :=
  if refusesSize env msg then [] else [msg]

/-- What a dispatched payload adds to the accepted messages before `handle_RPC` returns. -/
def acceptsInline (env : ServerEnv) (payload : Bytes) : List Message :=
  (env.inlineReply payload).elim [] (accepts env)

/-- With no thread inside `do_write`, the accepted messages are sent whole and in order. -/
def Sends (c : TcpConnAsync) (accepted : List Message) (wire : Bytes) : Prop :=
  Senders.OneWrite ⟨c, fun _ => .idle, accepted, wire⟩

section Sends

variable {env : ServerEnv} {c d : TcpConnAsync} {accepted : List Message} {wire : Bytes}

lemma Sends.of_oneWrite {s : Senders} (h : Senders.OneWrite s) :
    Sends s.conn s.accepted s.wire :=
  ⟨⟨h.atMostOne, h.sent, h.conserved⟩, h.sending⟩

lemma Sends.of_send_eq (h : Sends c accepted wire) (hsend : d.send = c.send)
    (hclosed : c.net.connStat = .kClosed → d.net.connStat = .kClosed) : Sends d accepted wire :=
  Senders.OneWrite.of_send_eq h hsend rfl rfl hclosed

lemma Sends.close (h : Sends c accepted wire) : Sends c.sockShutdownAndClose accepted wire :=
  Sends.of_send_eq (d := c.sockShutdownAndClose) h rfl fun _ =>
    NetConn.sockShutdownAndClose_connStat _

lemma Sends.doWrite (h : Sends c accepted wire) : Sends (c.doWrite env) accepted wire := by
  unfold TcpConnAsync.doWrite
  split_ifs with ht
  · have hidle : c.send.writes = [] := by
      by_contra hn
      have hk : c.send.status = .kSend := h.sending hn
      simp [doWriteTest, hk] at ht
    exact .of_oneWrite (Senders.OneWrite.critical h .strand hidle)
  · exact h

lemma Sends.asyncSendMessage (h : Sends c accepted wire) (msg : Message) :
    Sends (c.asyncSendMessage env msg).2 (accepted ++ accepts env msg) wire := by
  unfold TcpConnAsync.asyncSendMessage accepts
  split_ifs with hr
  · rwa [List.append_nil]
  · exact (Sends.of_oneWrite (Senders.OneWrite.append h .strand msg)).doWrite

lemma Sends.dispatch (h : Sends c accepted wire) (payload : Bytes) :
    Sends (c.dispatch env payload) (accepted ++ acceptsInline env payload) wire := by
  unfold TcpConnAsync.dispatch acceptsInline
  have hrecord : Sends { c with recv := { c.recv with
      dispatched := c.recv.dispatched ++ [payload] } } accepted wire := h.of_send_eq rfl id
  cases env.inlineReply payload with
  | none => simpa using hrecord
  | some msg => exact hrecord.asyncSendMessage msg

/-- `d` has dispatched more than `c`, and accepted the replies given inline. -/
def Advances (env : ServerEnv) (accepted : List Message) (wire : Bytes) (c d : TcpConnAsync) :
    Prop :=
  ∃ new, d.recv.dispatched = c.recv.dispatched ++ new ∧
    Sends d (accepted ++ new.flatMap (acceptsInline env)) wire

lemma Sends.advances (h : Sends d accepted wire) (hd : d.recv.dispatched = c.recv.dispatched) :
    Advances env accepted wire c d := ⟨[], by simpa using hd, by simpa using h⟩

lemma Advances.dispatch {payload : Bytes}
    (h : Advances env (accepted ++ acceptsInline env payload) wire (c.dispatch env payload) d) :
    Advances env accepted wire c d := by
  obtain ⟨new, hd, hsends⟩ := h
  have hview := dispatch_recvView env c payload
  simp only [recvView, Prod.mk.injEq] at hview
  refine ⟨payload :: new, ?_, by simpa using hsends⟩
  rw [hd, hview.2.2]
  simp

lemma Advances.of_dispatched {b : TcpConnAsync} (h : Advances env accepted wire b d)
    (hd : b.recv.dispatched = c.recv.dispatched) : Advances env accepted wire c d := by
  obtain ⟨new, hnew, hsends⟩ := h
  exact ⟨new, hd ▸ hnew, hsends⟩

lemma Chain.advances {kind : ReadKind} (hchain : Chain env kind c d) (h : Sends c accepted wire) :
    Advances env accepted wire c d := by
  induction hchain generalizing accepted with
  | halted => exact h.advances rfl
  | @arm kind c n =>
    have hv := recvView_eq_iff.mp (setOpsCancelTimeout_recvView env c)
    exact Sends.advances (Sends.of_send_eq (d := (c.setOpsCancelTimeout env).asyncRead kind n) h
      (setOpsCancelTimeout_send env c) fun hc => hv.1.symm ▸ hc) (by rw [asyncRead, hv.2.2])
  | @refuse c =>
    exact (Sends.of_send_eq (d := (c.parseHeader env).2) h rfl id).close.advances rfl
  | @header c d _ _ _ ih =>
    have hhead : Sends (c.parseHeader env).2 accepted wire := h.of_send_eq rfl id
    exact (ih hhead).of_dispatched rfl
  | @message c d _ _ ih =>
    have hbody : Sends (c.parseMsgBody ⟨Header.zero, []⟩).2.2 accepted wire := h.of_send_eq rfl id
    exact Advances.dispatch (c := (c.parseMsgBody ⟨Header.zero, []⟩).2.2) (ih (hbody.dispatch _))

lemma received_sends (h : Sends c accepted wire) (bytes : Bytes) :
    Sends (c.revokeOpsCancelTimeout.received bytes) accepted wire := by
  have hv := recvView_eq_iff.mp (revokeOpsCancelTimeout_recvView c)
  exact h.of_send_eq (revokeOpsCancelTimeout_send c) fun hc => hv.1.symm ▸ hc

lemma received_dispatched (c : TcpConnAsync) (bytes : Bytes) :
    (c.revokeOpsCancelTimeout.received bytes).recv.dispatched = c.recv.dispatched := by
  have hv := recvView_eq_iff.mp (revokeOpsCancelTimeout_recvView c)
  rw [received, hv.2.2]

theorem Sends.step {e : Event} (h : Sends c accepted wire) (he : ∀ msg, e ≠ .send msg)
    (hs : step env c e = some d) : Advances env accepted (wire ++ c.putsOnWire e) c d := by
  cases e with
  | readDone i bytes =>
    obtain ⟨op, -, -, -, hchain⟩ := step_readDone_chain hs
    rw [putsOnWire_of_ne (by simp), List.append_nil]
    have hdrop : Sends (c.dropRead i) accepted wire := h.of_send_eq rfl id
    exact (hchain.advances (received_sends hdrop bytes)).of_dispatched (received_dispatched _ bytes)
  | readFail i ec =>
    obtain ⟨op, hop, hec, rfl⟩ := step_readFail hs
    rw [putsOnWire_of_ne (by simp), List.append_nil]
    have hrecv : ((c.dropRead i).readFailed ec).recv.dispatched = c.recv.dispatched := by
      rw [readFailed_recv, dropRead]
    refine Sends.advances (Sends.of_send_eq (d := (c.dropRead i).readFailed ec) h ?_ ?_) hrecv
    · rw [Senders.readFailed_send, dropRead]
    · exact fun _ => Senders.readFailed_closed (show (c.dropRead i).mayFail ec from hec)
  | wrote i n =>
    obtain ⟨op, hop, hn, rfl⟩ := step_wrote hs
    rw [putsOnWire, hop]
    exact (Sends.of_oneWrite (Senders.OneWrite.wrote h hop hn.1 hn.2)).advances rfl
  | writeDone i =>
    obtain ⟨op, hop, hn, rfl⟩ := step_writeDone hs
    rw [putsOnWire_of_ne (by simp), List.append_nil]
    have hdone : Sends (c.dropWrite i).writeCompleted accepted wire :=
      .of_oneWrite (Senders.OneWrite.writeDone h hop hn)
    refine hdone.doWrite.advances ?_
    obtain ⟨-, -, hr⟩ := recvView_eq_iff.mp ((doWrite_recvView env _).trans
      (writeCompleted_recvView (c.dropWrite i)))
    rw [hr, dropWrite]
  | writeFail i ec =>
    obtain ⟨op, hop, hec, rfl⟩ := step_writeFail hs
    rw [putsOnWire_of_ne (by simp), List.append_nil]
    have hfail : Sends ((c.dropWrite i).writeHandler env (some ec)) accepted wire :=
      .of_oneWrite (@Senders.OneWrite.writeFail env _ h _ _ _ hop hec)
    refine hfail.advances ?_
    rw [writeHandler_failed, readFailed_recv, dropWrite]
  | send msg => exact absurd rfl (he msg)
  | timerExpire =>
    simp only [TcpConnAsync.step] at hs
    split_ifs at hs
    obtain rfl := Option.some.inj hs
    rw [putsOnWire_of_ne (by simp), List.append_nil]
    exact (Sends.of_send_eq (d := { c with opsCancelTimer := c.opsCancelTimer.expire }) h rfl
      id).advances rfl
  | timerHandler i =>
    obtain ⟨w, -, rfl⟩ := Option.map_eq_some_iff.mp hs
    rw [putsOnWire_of_ne (by simp), List.append_nil]
    have hcall := Senders.opsCancelTimeoutCall_send { c with opsCancelTimer := w.2 } w.1.code
    refine Sends.advances (h.of_send_eq hcall fun hc =>
      Senders.opsCancelTimeoutCall_closed w.1.code hc) ?_
    cases w.1.code <;> rfl

end Sends

end Tzrpc.TcpConnAsync
