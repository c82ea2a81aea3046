import Tzrpc.TcpConnAsyncUpdates

/-!
# Handlers as runs of their calls

While no setting changes and no other thread comes in between, the calls of a handler taken
one after the other are the handler: each step of the connection is a run of the connection
under updates.
-/
namespace Tzrpc.UpdatedConn

def NoWriter (s : UpdatedConn) : Prop := ∀ th, s.senders.pc th = .idle

/-- Steps that leave the settings alone lead from `s` to the connection `d`, with every
thread out of its routine. -/
def Settles (inlineReply : Bytes → Option Message) (doc : NetworkDoc) (s : UpdatedConn)
    (d : TcpConnAsync) : Prop :=
  ∃ es t, (machine inlineReply doc).exec s es = some t ∧ t.conn = d ∧ t.readPc = .idle ∧
    t.NoWriter ∧ t.server = s.server

section Steps

variable {inlineReply : Bytes → Option Message} {doc : NetworkDoc} {s t : UpdatedConn}
  {d : TcpConnAsync}

lemma Settles.of_idle (hc : s.conn = d) (hpc : s.readPc = .idle) (hw : s.NoWriter) :
    Settles inlineReply doc s d := ⟨[], s, rfl, hc, hpc, hw, rfl⟩

lemma Settles.cons {e : Event} (hs : s.step inlineReply e = some t) (hv : t.server = s.server)
    (h : Settles inlineReply doc t d) : Settles inlineReply doc s d := by
  obtain ⟨es, u, hu, hc, hpc, hw, hserver⟩ := h
  refine ⟨e :: es, u, ?_, hc, hpc, hw, hserver.trans hv⟩
  rw [Machine.exec_cons, show (machine inlineReply doc).next s e = some t from hs]
  exact hu

lemma NoWriter.strandFree (hw : s.NoWriter) (hpc : s.readPc = .idle) : s.strandFree = true := by
  simp [UpdatedConn.strandFree, hpc, hw .strand]

def OnlyWriter (s : UpdatedConn) (th : Thread) (pc : SendPc) : Prop :=
  s.senders.pc th = pc ∧ ∀ u, u ≠ th → s.senders.pc u = .idle

lemma NoWriter.goto (hw : s.NoWriter) (th : Thread) (pc : SendPc) (senders : Senders)
    (hs : senders.pc = s.senders.pc) :
    OnlyWriter { s with senders := senders.goto th pc } th pc := by
  refine ⟨by simp [Senders.goto], fun u hu => ?_⟩
  simp [Senders.goto, hu, hs, hw u]

lemma OnlyWriter.goto_idle {th : Thread} {pc : SendPc} (h : s.OnlyWriter th pc)
    (senders : Senders) (hs : senders.pc = s.senders.pc) :
    NoWriter { s with senders := senders.goto th .idle } := by
  intro u
  by_cases hu : u = th
  · simp [Senders.goto, hu]
  · simp [Senders.goto, hu, hs, h.2 u hu]

lemma OnlyWriter.settles {th : Thread} (h : s.OnlyWriter th .atTest)
    (hrest : ∀ t, t.conn = s.conn.doWrite (s.env inlineReply) → t.readPc = s.readPc →
      t.NoWriter → t.server = s.server → Settles inlineReply doc t d) :
    Settles inlineReply doc s d := by
  by_cases ht : s.senders.conn.doWriteTest
  · have htest : s.step inlineReply (.sender (.test th)) =
        some { s with senders := s.senders.goto th .atCritical } := by
      simp [step, allows, Senders.step, h.1, ht]
    refine Settles.cons htest rfl ?_
    have hcritical : UpdatedConn.step inlineReply
        { s with senders := s.senders.goto th .atCritical } (.sender (.critical th)) =
        some { s with senders := ({ s.senders.goto th .atCritical with
          conn := s.senders.conn.doWriteCritical (s.env inlineReply) }).goto th .idle } := by
      simp [step, allows, Senders.step, Senders.goto]
      rfl
    refine Settles.cons hcritical rfl (hrest _ ?_ rfl ?_ rfl)
    · simp [conn, Senders.goto, TcpConnAsync.doWrite, ht]
    · intro u
      by_cases hu : u = th
      · simp [Senders.goto, hu]
      · simp [Senders.goto, hu, h.2 u hu]
  · have htest : s.step inlineReply (.sender (.test th)) =
        some { s with senders := s.senders.goto th .idle } := by
      simp [step, allows, Senders.step, h.1, ht]
    refine Settles.cons htest rfl (hrest _ ?_ rfl (h.goto_idle _ rfl) rfl)
    simp [conn, Senders.goto, TcpConnAsync.doWrite, ht]

def readCall (env : ServerEnv) (fuel : ℕ) (c : TcpConnAsync) : ReadKind → Option TcpConnAsync
  | .head => c.doRead env fuel
  | .body => c.doReadMsg env fuel

/-- What a handler does behind its append, with this fuel for the chain. -/
def parseCall (env : ServerEnv) (fuel : ℕ) (c : TcpConnAsync) : ReadKind → Option TcpConnAsync
  | .head =>
    let res := c.parseHeader env
    if res.1 = 0 then readCall env fuel res.2 .body
    else if 0 < res.1 then readCall env fuel res.2 .head
    else some res.2.sockShutdownAndClose
  | .body =>
    let res := c.parseMsgBody ⟨Header.zero, []⟩
    if res.1 = 0 then readCall env fuel (res.2.2.dispatch env res.2.1.payload) .head
    else if 0 < res.1 then readCall env fuel res.2.2 .body
    else some res.2.2.sockShutdownAndClose

lemma readCall_succ (env : ServerEnv) (fuel : ℕ) (c : TcpConnAsync) (kind : ReadKind) :
    readCall env (fuel + 1) c kind =
      if c.net.connStat ≠ .kWorking then some c
      else if c.wasCancelled then some c
      else if c.Lacks kind then
        some ((c.setOpsCancelTimeout env).asyncRead kind (atLeast c kind))
      else parseCall env fuel c kind := by
  cases kind with
  | head =>
    rw [readCall, TcpConnAsync.doRead]
    rfl
  | body =>
    rw [readCall, TcpConnAsync.doReadMsg]
    rfl

/-- With this fuel, what the calls compute is where they settle. -/
def CallsSettle (inlineReply : Bytes → Option Message) (doc : NetworkDoc) (fuel : ℕ) : Prop :=
  ∀ s d kind, s.NoWriter → s.readPc = .call kind →
    readCall (s.env inlineReply) fuel s.conn kind = some d → Settles inlineReply doc s d

lemma env_congr (hv : t.server = s.server) : t.env inlineReply = s.env inlineReply := by
  simp [env, opsCancelTimeOut, hv]

lemma reply_settles {fuel : ℕ} {e : Event} {msg : Message}
    (hcalls : CallsSettle inlineReply doc fuel) (hw : t.NoWriter)
    (hpc : t.readPc = .call .head) (hv : t.server = s.server)
    (hs : s.step inlineReply e =
      (Senders.step (t.env inlineReply) t.senders (.append .strand msg)).map fun senders =>
        { t with senders := senders })
    (h : readCall (t.env inlineReply) fuel (t.conn.asyncSendMessage (t.env inlineReply) msg).2
      .head = some d) : Settles inlineReply doc s d := by
  cases hsize : TcpConnAsync.refusesSize (t.env inlineReply) msg with
  | true =>
    have hsend : Senders.step (t.env inlineReply) t.senders (.append .strand msg) =
        some t.senders := by
      simp [Senders.step, hw .strand, hsize]
    rw [hsend] at hs
    refine Settles.cons hs hv (hcalls _ d .head hw hpc ?_)
    simpa [TcpConnAsync.asyncSendMessage, hsize] using h
  | false =>
    have hsend : Senders.step (t.env inlineReply) t.senders (.append .strand msg) =
        some ({ t.senders with
          conn := t.conn.appendMessage msg
          accepted := t.senders.accepted ++ [msg] }.goto .strand .atTest) := by
      simp [Senders.step, hw .strand, hsize, conn]
    rw [hsend] at hs
    refine Settles.cons hs hv (OnlyWriter.settles (hw.goto .strand .atTest _ ?_) ?_)
    · rfl
    intro u hc hpc' hnw hv'
    refine hcalls u d .head hnw (hpc'.trans hpc) ?_
    rw [hc, env_congr hv']
    simp only [TcpConnAsync.asyncSendMessage, hsize, Bool.false_eq_true, ↓reduceIte] at h
    exact h

lemma dispatch_settles {fuel : ℕ} {e : Event} {payload : Bytes}
    (hcalls : CallsSettle inlineReply doc fuel) (hw : t.NoWriter) (hv : t.server = s.server)
    (hs : s.step inlineReply e = t.dispatch inlineReply payload)
    (h : readCall (t.env inlineReply) fuel (t.conn.dispatch (t.env inlineReply) payload) .head =
      some d) : Settles inlineReply doc s d := by
  unfold dispatch at hs
  unfold TcpConnAsync.dispatch at h
  cases hr : inlineReply payload with
  | none =>
    simp only [hr] at hs
    simp only [show (t.env inlineReply).inlineReply payload = none from hr] at h
    exact Settles.cons hs hv (hcalls _ d .head hw rfl h)
  | some msg =>
    simp only [hr] at hs
    simp only [show (t.env inlineReply).inlineReply payload = some msg from hr] at h
    let c := { t.conn with recv := { t.conn.recv with
      dispatched := t.conn.recv.dispatched ++ [payload] } }
    exact @reply_settles _ _ s (t.setConn c (.call .head)) d _ e msg hcalls hw rfl hv hs h

lemma parse_settles {fuel : ℕ} {e : Event} {kind : ReadKind}
    (hcalls : CallsSettle inlineReply doc fuel) (hw : t.NoWriter) (hv : t.server = s.server)
    (hs : s.step inlineReply e = t.parse inlineReply kind)
    (h : parseCall (t.env inlineReply) fuel t.conn kind = some d) :
    Settles inlineReply doc s d := by
  cases kind with
  | head =>
    simp only [parse] at hs
    simp only [parseCall] at h
    split_ifs at hs h with h0 h1
    · exact Settles.cons hs hv (hcalls _ d .body hw rfl h)
    · exact Settles.cons hs hv (hcalls _ d .head hw rfl h)
    · exact Settles.cons hs hv (Settles.of_idle (Option.some.inj h) rfl hw)
  | body =>
    simp only [parse] at hs
    simp only [parseCall] at h
    split_ifs at hs h with h0 h1
    · let c := (t.conn.parseMsgBody ⟨Header.zero, []⟩).2.2
      exact @dispatch_settles _ _ s (t.setConn c (.call .head)) d _ _ _ hcalls hw hv hs h
    · exact Settles.cons hs hv (hcalls _ d .body hw rfl h)
    · exact Settles.cons hs hv (Settles.of_idle (Option.some.inj h) rfl hw)

lemma callsSettle (inlineReply : Bytes → Option Message) (doc : NetworkDoc) (fuel : ℕ) :
    CallsSettle inlineReply doc fuel := by
  induction fuel with
  | zero =>
    intro s d kind _ _ h
    cases kind <;> simp [readCall, TcpConnAsync.doRead, TcpConnAsync.doReadMsg] at h
  | succ fuel ih =>
    intro s d kind hw hpc h
    have hs : s.step inlineReply .chain = s.callRead inlineReply kind := by
      simp [step, chain, hw .strand, hpc]
    unfold callRead at hs
    rw [readCall_succ] at h
    split_ifs at hs h with hwork hcancel hl
    · exact Settles.cons hs rfl (Settles.of_idle (Option.some.inj h) rfl hw)
    · exact Settles.cons hs rfl (Settles.of_idle (Option.some.inj h) rfl hw)
    · exact Settles.cons hs rfl (Settles.of_idle (Option.some.inj h) rfl hw)
    · exact parse_settles ih hw rfl hs h

def handlerCall (env : ServerEnv) (c : TcpConnAsync) (kind : ReadKind) : Option TcpConnAsync :=
  if kind = .head ∧ c.Lacks .head then readCall env c.chainFuel c .head
  else parseCall env c.chainFuel c kind

lemma readHandler_eq (env : ServerEnv) (c : TcpConnAsync) (bytes : Bytes) :
    c.readHandler env bytes =
      handlerCall env (c.revokeOpsCancelTimeout.received bytes) .head := by
  unfold handlerCall
  simp only [true_and]
  rfl

lemma readMsgHandler_eq (env : ServerEnv) (c : TcpConnAsync) (bytes : Bytes) :
    c.readMsgHandler env bytes =
      handlerCall env (c.revokeOpsCancelTimeout.received bytes) .body := by
  unfold handlerCall
  simp only [reduceCtorEq, false_and, ↓reduceIte]
  rfl

lemma handler_settles {kind : ReadKind} (hw : s.NoWriter) (hpc : s.readPc = .handler kind)
    (h : handlerCall (s.env inlineReply) s.conn kind = some d) : Settles inlineReply doc s d := by
  have hs : s.step inlineReply .chain = s.handleRead inlineReply kind := by
    simp [step, chain, hw .strand, hpc]
  unfold handleRead at hs
  unfold handlerCall at h
  split_ifs at hs h with hshort
  · exact Settles.cons hs rfl (callsSettle inlineReply doc _ _ d .head hw rfl h)
  · exact parse_settles (callsSettle inlineReply doc _) hw rfl hs h

lemma sender_settles {e : Senders.Event} {senders : Senders} (hallow : s.allows e = true)
    (hs : Senders.step (s.env inlineReply) s.senders e = some senders)
    (h : Settles inlineReply doc { s with senders := senders } d) :
    Settles inlineReply doc s d := by
  have hstep : s.step inlineReply (.sender e) = some { s with senders := senders } := by
    simp [step, hallow, hs]
  exact Settles.cons hstep rfl h

lemma readDone_settles {i : ℕ} {bytes : Bytes} (hw : s.NoWriter) (hpc : s.readPc = .idle)
    (hs : TcpConnAsync.step (s.env inlineReply) s.conn (.readDone i bytes) = some d) :
    Settles inlineReply doc s d := by
  obtain ⟨op, hop, h⟩ := Option.bind_eq_some_iff.mp hs
  split_ifs at h with hb
  have hstep : s.step inlineReply (.readDone i bytes) =
      some (s.setConn ((s.conn.dropRead i).revokeOpsCancelTimeout.received bytes)
        (.handler op.kind)) := by
    simp [step, hop, hw.strandFree hpc, hb]
  refine Settles.cons hstep rfl (handler_settles hw rfl ?_)
  cases hk : op.kind with
  | head =>
    rw [hk] at h
    exact (readHandler_eq _ _ _).symm.trans h
  | body =>
    rw [hk] at h
    exact (readMsgHandler_eq _ _ _).symm.trans h

lemma send_settles {msg : Message} (hw : s.NoWriter) (hpc : s.readPc = .idle) :
    Settles inlineReply doc s (s.conn.asyncSendMessage (s.env inlineReply) msg).2 := by
  cases hsize : TcpConnAsync.refusesSize (s.env inlineReply) msg with
  | true =>
    rw [TcpConnAsync.asyncSendMessage, if_pos hsize]
    exact Settles.of_idle rfl hpc hw
  | false =>
    rw [TcpConnAsync.asyncSendMessage, if_neg (by simp [hsize])]
    have happend : Senders.step (s.env inlineReply) s.senders (.append (.executor 0) msg) =
        some ({ s.senders with
          conn := s.conn.appendMessage msg
          accepted := s.senders.accepted ++ [msg] }.goto (.executor 0) .atTest) := by
      simp [Senders.step, hw (.executor 0), hsize, conn]
    refine sender_settles rfl happend (OnlyWriter.settles (hw.goto (.executor 0) .atTest _ ?_) ?_)
    · rfl
    · intro t hc hpc' hnw _
      exact Settles.of_idle hc (hpc'.trans hpc) hnw

theorem step_settles {e : TcpConnAsync.Event} (hw : s.NoWriter) (hpc : s.readPc = .idle)
    (hs : TcpConnAsync.step (s.env inlineReply) s.conn e = some d) :
    Settles inlineReply doc s d := by
  have hfree := hw.strandFree hpc
  cases e with
  | readDone i bytes => exact readDone_settles hw hpc hs
  | readFail i ec =>
    obtain ⟨op, hop, hec, rfl⟩ := TcpConnAsync.step_readFail hs
    have hstep : s.step inlineReply (.readFail i ec) =
        some (s.setConn ((s.conn.dropRead i).readFailed ec) .idle) := by
      simp [step, hop, hfree, hec]
    exact Settles.cons hstep rfl (Settles.of_idle rfl rfl hw)
  | wrote i n =>
    obtain ⟨op, hop, hn, rfl⟩ := TcpConnAsync.step_wrote hs
    have hwrote : Senders.step (s.env inlineReply) s.senders (.wrote i n) =
        some { s.senders with
          conn := s.conn.markSent i op n
          wire := s.senders.wire ++ s.conn.nextBytes op n } := by
      simp only [conn] at hop hn
      simp [Senders.step, hop, hn, conn]
    exact sender_settles rfl hwrote (Settles.of_idle rfl hpc hw)
  | writeDone i =>
    obtain ⟨op, hop, hall, rfl⟩ := TcpConnAsync.step_writeDone hs
    have hdone : Senders.step (s.env inlineReply) s.senders (.writeDone i) =
        some ({ s.senders with conn := (s.conn.dropWrite i).writeCompleted }.goto
          .strand .atTest) := by
      simp only [conn] at hop
      simp [Senders.step, hop, hall, hw .strand, conn]
    refine sender_settles (by exact hfree) hdone
      (OnlyWriter.settles (hw.goto .strand .atTest _ ?_) ?_)
    · rfl
    · intro t hc hpc' hnw _
      exact Settles.of_idle hc (hpc'.trans hpc) hnw
  | writeFail i ec =>
    obtain ⟨op, hop, hec, rfl⟩ := TcpConnAsync.step_writeFail hs
    have hfail : Senders.step (s.env inlineReply) s.senders (.writeFail i ec) =
        some { s.senders with
          conn := (s.conn.dropWrite i).writeHandler (s.env inlineReply) (some ec) } := by
      simp only [conn] at hop hec
      simp [Senders.step, hop, hec, hw .strand, conn]
    exact sender_settles (by exact hfree) hfail (Settles.of_idle rfl hpc hw)
  | send msg =>
    obtain rfl := Option.some.inj hs
    exact send_settles hw hpc
  | timerExpire =>
    have hexpire : Senders.step (s.env inlineReply) s.senders .timerExpire =
        some { s.senders with conn := d } := by
      simp only [TcpConnAsync.step] at hs
      split_ifs at hs with hp
      obtain rfl := Option.some.inj hs
      simp only [conn] at hp
      simp [Senders.step, hp, conn]
    exact sender_settles rfl hexpire (Settles.of_idle rfl hpc hw)
  | timerHandler i =>
    obtain ⟨h, ht, rfl⟩ := Option.map_eq_some_iff.mp hs
    have hhandler : Senders.step (s.env inlineReply) s.senders (.timerHandler i) =
        some { s.senders with
          conn := { s.conn with opsCancelTimer := h.2 }.opsCancelTimeoutCall h.1.code } := by
      simp only [conn] at ht
      simp [Senders.step, ht, conn]
    exact sender_settles rfl hhandler (Settles.of_idle rfl hpc hw)

lemma Settles.trans {c : TcpConnAsync} (h : Settles inlineReply doc s c)
    (hrest : ∀ t, t.conn = c → t.readPc = .idle → t.NoWriter → t.server = s.server →
      Settles inlineReply doc t d) : Settles inlineReply doc s d := by
  obtain ⟨es, t, ht, hc, hpc, hw, hv⟩ := h
  obtain ⟨fs, u, hu, hd, hpc', hw', hv'⟩ := hrest t hc hpc hw hv
  refine ⟨es ++ fs, u, ?_, hd, hpc', hw', hv'.trans hv⟩
  rw [Machine.exec_append, ht]
  exact hu

lemma start_settles (inlineReply : Bytes → Option Message) (doc : NetworkDoc) :
    Settles inlineReply doc (machine inlineReply doc).start
      (.started ((machine inlineReply doc).start.env inlineReply)) := by
  have hstep : (machine inlineReply doc).start.step inlineReply .start =
      some ((machine inlineReply doc).start.setConn
        { TcpConnAsync.fresh with net := TcpConnAsync.fresh.net.setConnStat .kWorking }
        (.call .head)) := rfl
  have hw : (machine inlineReply doc).start.NoWriter := fun _ => rfl
  exact Settles.cons hstep rfl (callsSettle inlineReply doc 1 _ _ .head hw rfl rfl)

end Steps

/-- Every run of the connection under the settings the server was started with is, call by
call, a run under updates that brings none. -/
theorem run_settles (inlineReply : Bytes → Option Message) (doc : NetworkDoc)
    {es : List TcpConnAsync.Event} {d : TcpConnAsync}
    (hrun : (TcpConnAsync.machine ((machine inlineReply doc).start.env inlineReply)).run es =
      some d) : Settles inlineReply doc (machine inlineReply doc).start d := by
  refine Machine.run_induction
    (M := TcpConnAsync.machine ((machine inlineReply doc).start.env inlineReply))
    (C := fun _ _ => True)
    (P := fun _ c => Settles inlineReply doc (machine inlineReply doc).start c)
    (start_settles inlineReply doc) (fun es c e d _ ih _ hn => ?_) hrun fun _ _ _ _ => trivial
  refine ih.trans fun t hc hpc hw hv => ?_
  have hs : TcpConnAsync.step (t.env inlineReply) t.conn e = some d := by
    rw [env_congr hv, hc]
    exact hn
  exact step_settles hw hpc hs

end Tzrpc.UpdatedConn
