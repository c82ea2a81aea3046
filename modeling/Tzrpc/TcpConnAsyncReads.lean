import Tzrpc.TcpConnAsyncChain
import Tzrpc.TcpConnAsyncFraming
import Tzrpc.TcpConnAsyncSenders

/-!
# One read chain within its bounds

A server connection has one read outstanding for as long as it works, and starts nothing
once it has stopped working. What it buffers is bounded by the receive limit: a head is
asked for while less than a head is buffered, a body while less than an accepted body is.
-/
namespace Tzrpc.TcpConnAsync

section Halted

variable {env : ServerEnv} {c d : TcpConnAsync}

@[simp] lemma setOpsCancelTimeout_ops (env : ServerEnv) (c : TcpConnAsync) :
    (c.setOpsCancelTimeout env).ops = c.ops := by
  unfold setOpsCancelTimeout
  split_ifs <;> rfl

@[simp] lemma revokeOpsCancelTimeout_ops (c : TcpConnAsync) :
    c.revokeOpsCancelTimeout.ops = c.ops := by
  unfold revokeOpsCancelTimeout
  split_ifs <;> rfl

lemma handleSocketEc_ops (c : TcpConnAsync) (ec : ErrorCode) :
    (c.handleSocketEc ec).ops = c.ops := by
  unfold handleSocketEc
  split_ifs
  · exact revokeOpsCancelTimeout_ops c
  · rfl

lemma doWrite_halted (h : c.Halted) : c.doWrite env = c := by
  rcases doWrite_cases env c with ⟨hd, -⟩ | ⟨-, hh, -, -⟩
  · exact hd
  · exact absurd h hh

lemma asyncSendMessage_halted (h : c.Halted) (msg : Message) :
    (c.asyncSendMessage env msg).2.ops = c.ops := by
  unfold asyncSendMessage
  split_ifs
  · rfl
  · rw [doWrite_halted (c := c.appendMessage msg) h]
    rfl

lemma dispatchBody_halted (h : c.Halted) : (c.dispatchBody env).ops = c.ops := by
  obtain ⟨r, hd | ⟨msg, hd⟩⟩ := dispatchBody_cases env c
  · rw [hd]
  · rw [hd, asyncSendMessage_halted (c := { c with recv := r }) h]

end Halted

section Status

variable {env : ServerEnv} {c d : TcpConnAsync} {kind : ReadKind}

lemma dispatchBody_net (env : ServerEnv) (c : TcpConnAsync) :
    (c.dispatchBody env).net = c.net ∧ (c.dispatchBody env).wasCancelled = c.wasCancelled ∧
      (c.dispatchBody env).recv.reads = c.recv.reads := by
  have hv := dispatchBody_recvView env c
  simp only [recvView, Prod.mk.injEq] at hv
  exact ⟨hv.1, hv.2.1, by rw [hv.2.2]⟩

lemma Chain.net (h : Chain env kind c d) :
    (d.net = c.net ∨ d.net = c.net.sockShutdownAndClose) ∧
      d.wasCancelled = c.wasCancelled := by
  induction h with
  | halted => exact ⟨Or.inl rfl, rfl⟩
  | @arm kind c n =>
    have hv := recvView_eq_iff.mp (setOpsCancelTimeout_recvView env c)
    exact ⟨Or.inl hv.1, hv.2.1⟩
  | refuse => exact ⟨Or.inr rfl, rfl⟩
  | header _ _ _ ih => exact ih
  | @message c d _ _ ih =>
    obtain ⟨hn, hc, -⟩ := dispatchBody_net env c
    rwa [hn, hc] at ih

lemma Chain.reads (h : Chain env kind c d) (hr : c.recv.reads = []) :
    d.recv.reads.length ≤ 1 ∧ (¬ d.Halted → d.recv.reads.length = 1) := by
  induction h with
  | halted h => exact ⟨by simp [hr], fun hn => absurd h hn⟩
  | @arm kind c n =>
    have hv := recvView_eq_iff.mp (setOpsCancelTimeout_recvView env c)
    have hone : ((c.setOpsCancelTimeout env).asyncRead kind n).recv.reads.length = 1 := by
      simp [asyncRead, hv.2.2, hr]
    exact ⟨hone.le, fun _ => hone⟩
  | @refuse c =>
    refine ⟨by simp [sockShutdownAndClose, parseHeader, hr], fun hn => ?_⟩
    have hclosed : (c.parseHeader env).2.sockShutdownAndClose.net.connStat = .kClosed :=
      NetConn.sockShutdownAndClose_connStat _
    exact absurd (Or.inl (by simp [hclosed])) hn
  | header _ _ _ ih => exact ih hr
  | @message c d _ _ ih => exact ih ((dispatchBody_net env c).2.2.trans hr)

lemma Chain.ops (h : Chain env kind c d) (hh : c.Halted) : d.ops = c.ops := by
  induction h with
  | halted => rfl
  | arm _ hn => exact absurd hh hn
  | refuse => rfl
  | header _ _ _ ih => exact ih hh
  | @message c d _ _ ih =>
    obtain ⟨hn, hc, -⟩ := dispatchBody_net env c
    exact (ih (hh.of_view hn hc)).trans (dispatchBody_halted hh)

lemma step_net {e : Event} (hs : step env c e = some d) :
    (d.net = c.net ∧ d.wasCancelled = c.wasCancelled) ∨ d.net.connStat = .kClosed := by
  cases e with
  | readDone i bytes =>
    obtain ⟨op, -, -, -, hchain⟩ := step_readDone_chain hs
    have hv := recvView_eq_iff.mp (revokeOpsCancelTimeout_recvView (c.dropRead i))
    rcases hchain.net with ⟨hn | hn, hc⟩
    · exact Or.inl ⟨hn.trans hv.1, hc.trans hv.2.1⟩
    · exact Or.inr (hn ▸ NetConn.sockShutdownAndClose_connStat _)
  | readFail i ec =>
    obtain ⟨op, -, hec, rfl⟩ := step_readFail hs
    exact Or.inr (Senders.readFailed_closed (show (c.dropRead i).mayFail ec from hec))
  | wrote i n =>
    obtain ⟨op, -, -, rfl⟩ := step_wrote hs
    exact Or.inl ⟨rfl, rfl⟩
  | writeDone i =>
    obtain ⟨op, -, -, rfl⟩ := step_writeDone hs
    have hv := recvView_eq_iff.mp ((doWrite_recvView env _).trans
      (writeCompleted_recvView (c.dropWrite i)))
    exact Or.inl ⟨hv.1, hv.2.1⟩
  | writeFail i ec =>
    obtain ⟨op, -, hec, rfl⟩ := step_writeFail hs
    exact Or.inr (Senders.readFailed_closed (show (c.dropWrite i).mayFail ec from hec))
  | send msg =>
    obtain rfl := Option.some.inj hs
    have hv := recvView_eq_iff.mp (asyncSendMessage_recvView env c msg)
    exact Or.inl ⟨hv.1, hv.2.1⟩
  | timerExpire =>
    simp only [step] at hs
    split_ifs at hs
    obtain rfl := Option.some.inj hs
    exact Or.inl ⟨rfl, rfl⟩
  | timerHandler i =>
    obtain ⟨⟨⟨w, code⟩, u⟩, -, rfl⟩ := Option.map_eq_some_iff.mp hs
    cases code with
    | aborted => exact Or.inl ⟨rfl, rfl⟩
    | success => exact Or.inr (NetConn.sockShutdownAndClose_connStat _)

lemma step_stopped {e : Event} (hw : c.net.connStat ≠ .kWorking) (hs : step env c e = some d) :
    d.net.connStat ≠ .kWorking ∧ d.ops = c.ops := by
  refine ⟨?_, ?_⟩
  · rcases step_net hs with ⟨hn, -⟩ | hn
    · rwa [hn]
    · simp [hn]
  · have hh : c.Halted := Or.inl hw
    cases e with
    | readDone i bytes =>
      obtain ⟨op, -, -, -, hchain⟩ := step_readDone_chain hs
      have hv := recvView_eq_iff.mp (revokeOpsCancelTimeout_recvView (c.dropRead i))
      exact (hchain.ops (hh.of_view hv.1 hv.2.1)).trans (revokeOpsCancelTimeout_ops _)
    | readFail i ec =>
      obtain ⟨op, -, -, rfl⟩ := step_readFail hs
      exact (handleSocketEc_ops _ ec).trans (revokeOpsCancelTimeout_ops _)
    | wrote i n =>
      obtain ⟨op, -, -, rfl⟩ := step_wrote hs
      rfl
    | writeDone i =>
      obtain ⟨op, -, -, rfl⟩ := step_writeDone hs
      have hv := recvView_eq_iff.mp (writeCompleted_recvView (c.dropWrite i))
      rw [writeHandler, doWrite_halted (hh.of_view hv.1 hv.2.1)]
      exact revokeOpsCancelTimeout_ops (c.dropWrite i)
    | writeFail i ec =>
      obtain ⟨op, -, -, rfl⟩ := step_writeFail hs
      exact (handleSocketEc_ops _ ec).trans (revokeOpsCancelTimeout_ops _)
    | send msg =>
      obtain rfl := Option.some.inj hs
      exact asyncSendMessage_halted hh msg
    | timerExpire =>
      simp only [step] at hs
      split_ifs at hs
      obtain rfl := Option.some.inj hs
      rfl
    | timerHandler i =>
      obtain ⟨w, -, rfl⟩ := Option.map_eq_some_iff.mp hs
      cases w.1.code <;> rfl

end Status

/-- At most one read is outstanding, exactly one while the connection may still read, and
a cancelled connection does not work. -/
structure OneRead (c : TcpConnAsync) : Prop where
  atMostOne : c.recv.reads.length ≤ 1
  reading : ¬ c.Halted → c.recv.reads.length = 1
  cancelled : c.wasCancelled = true → c.net.connStat ≠ .kWorking

section OneRead

variable {env : ServerEnv} {c d : TcpConnAsync}

lemma OneRead.dropRead (h : OneRead c) {i : ℕ} {op : ReadOp} (hop : c.recv.reads[i]? = some op) :
    (c.dropRead i).recv.reads = [] := by
  have hlt : i < c.recv.reads.length := (List.getElem?_eq_some_iff.mp hop).1
  have hle := h.atMostOne
  apply List.eq_nil_of_length_eq_zero
  rw [TcpConnAsync.dropRead, List.length_eraseIdx_of_lt hlt]
  omega

lemma OneRead.step {e : Event} (h : OneRead c) (hs : TcpConnAsync.step env c e = some d) :
    OneRead d := by
  have hcancelled : d.wasCancelled = true → d.net.connStat ≠ .kWorking := by
    rcases step_net hs with ⟨hn, hc⟩ | hn
    · rw [hn, hc]
      exact h.cancelled
    · simp [hn]
  by_cases hread : ∃ i bytes, e = .readDone i bytes
  · obtain ⟨i, bytes, rfl⟩ := hread
    obtain ⟨op, hop, -, -, hchain⟩ := step_readDone_chain hs
    have hv := recvView_eq_iff.mp (revokeOpsCancelTimeout_recvView (c.dropRead i))
    obtain ⟨hle, hone⟩ := hchain.reads (by
      rw [received, hv.2.2]
      exact h.dropRead hop)
    exact ⟨hle, hone, hcancelled⟩
  by_cases hfail : ∃ i ec, e = .readFail i ec
  · obtain ⟨i, ec, rfl⟩ := hfail
    obtain ⟨op, hop, hec, rfl⟩ := step_readFail hs
    have hclosed := Senders.readFailed_closed (show (c.dropRead i).mayFail ec from hec)
    have hreads : ((c.dropRead i).readFailed ec).recv.reads = [] := by
      rw [readFailed_recv, h.dropRead hop]
    exact ⟨by simp [hreads], fun hn => absurd (Or.inl (by simp [hclosed])) hn, hcancelled⟩
  · obtain ⟨hr, -, -⟩ := step_recv (fun i bytes he => hread ⟨i, bytes, he⟩)
      (Or.inr fun i ec he => hfail ⟨i, ec, he⟩) hs
    refine ⟨by rw [hr]; exact h.atMostOne, fun hn => ?_, hcancelled⟩
    rw [hr]
    apply h.reading
    intro hh
    rcases step_net hs with ⟨hnet, hc⟩ | hclosed
    · exact hn (hh.of_view hnet hc)
    · exact hn (Or.inl (by simp [hclosed]))

lemma started_view (env : ServerEnv) :
    (started env).net.connStat = .kWorking ∧ (started env).wasCancelled = false ∧
      (started env).recv = ⟨IOBound.fresh, [⟨0, .head, Header.size⟩], []⟩ := by
  rw [started_eq]
  generalize hf : ({ fresh with net := fresh.net.setConnStat .kWorking } : TcpConnAsync) = f
  obtain ⟨hn, hc, hr⟩ := recvView_eq_iff.mp (setOpsCancelTimeout_recvView env f)
  have hops := setOpsCancelTimeout_ops env f
  subst hf
  refine ⟨congrArg NetConn.connStat hn, hc, ?_⟩
  rw [asyncRead, hr, hops]
  rfl

lemma started_oneRead (env : ServerEnv) : OneRead (started env) := by
  obtain ⟨-, hc, hr⟩ := started_view env
  exact ⟨by simp [hr], fun _ => by simp [hr], by simp [hc]⟩

lemma reachable_oneRead (h : (machine env).Reachable c) : OneRead c :=
  Machine.reachable_of_inductive (started_oneRead env) (fun _ _ _ h hs => h.step hs) h

/-- The connection has one read chain for as long as it works, every completion of its read
is handled to the end, and from the first state in which it does not work on nothing is
started any more. -/
theorem one_read_chain {es : List Event} (hrun : (machine env).run es = some c) :
    c.recv.reads.length ≤ 1 ∧
      (c.net.connStat = .kWorking → c.wasCancelled = false → c.recv.reads.length = 1) ∧
      (c.wasCancelled = true → c.net.connStat ≠ .kWorking) ∧
      (∀ i op, c.recv.reads[i]? = some op → ∀ bytes : Bytes, op.atLeast ≤ bytes.length →
        bytes.length ≤ kFixedIoBufferSize.toNat →
          ((machine env).next c (.readDone i bytes)).isSome) ∧
      ∀ pre more u, pre ++ more = es → (machine env).run pre = some u →
        u.net.connStat ≠ .kWorking → c.net.connStat ≠ .kWorking ∧ c.ops = u.ops := by
  have h := reachable_oneRead ⟨es, hrun⟩
  refine ⟨h.atMostOne, fun hw hu => h.reading (by simp [Halted, hw, hu]), h.cancelled, ?_, ?_⟩
  · intro i op hop bytes hmin hmax
    obtain ⟨d, hd, -⟩ := @step_readDone env c i op bytes hop hmin hmax
    exact Option.isSome_iff_exists.mpr ⟨d, hd⟩
  · rintro pre more u rfl hu hw
    rw [Machine.run_append, hu] at hrun
    exact Machine.exec_of_inductive (M := machine env) (K := fun _ => True)
      (I := fun d => d.net.connStat ≠ .kWorking ∧ d.ops = u.ops)
      (fun s e t hi _ hs => by
        obtain ⟨hwt, hops⟩ := step_stopped hi.1 hs
        exact ⟨hwt, hops.trans hi.2⟩) (fun _ _ => trivial) ⟨hw, rfl⟩ hrun

end OneRead

def eofSample : List Event := framingSample ++ [.readFail 0 .eof]

theorem eofSample_stops :
    ∃ c, (machine sampleEnv).run eofSample = some c ∧ c.wasCancelled = true ∧
      c.net.connStat ≠ .kWorking := by
  have h : ((machine sampleEnv).run eofSample).any (·.wasCancelled) := by
    decide +kernel
  obtain ⟨c, hc, hcancelled⟩ := (Option.any_eq_true _ _).mp h
  exact ⟨c, hc, hcancelled, (one_read_chain hc).2.2.1 hcancelled⟩

/-- Under the limit `M` no more is buffered than one read past an accepted body, and a read
is outstanding only for a part that is still missing. -/
structure Fits (M : ℕ) (c : TcpConnAsync) : Prop where
  buffered : c.recv.bound.buffer.data.length ≤ M + 2047
  awaiting : ∀ op ∈ c.recv.reads,
    match op.kind with
    | .head => c.recv.bound.buffer.data.length < Header.size
    | .body => c.recv.bound.buffer.data.length < c.recv.bound.header.length.toNat ∧
        c.recv.bound.header.length.toNat ≤ M

section Fits

variable {env : ServerEnv} {c d : TcpConnAsync} {kind : ReadKind} {M : ℕ}

lemma Fits.of_recv (h : Fits M c) (hr : d.recv = c.recv) : Fits M d :=
  ⟨hr ▸ h.buffered, hr ▸ h.awaiting⟩

lemma lacks_length (hlen : c.recv.bound.buffer.data.length < 2 ^ 32) (hl : c.Lacks kind) :
    match kind with
    | .head => c.recv.bound.buffer.data.length < Header.size
    | .body => c.recv.bound.buffer.data.length < c.recv.bound.header.length.toNat := by
  cases kind with
  | head => simpa only [Lacks, Buffer.getLength_toNat hlen] using hl
  | body => simpa only [Lacks, UInt32.lt_iff_toNat_lt, Buffer.getLength_toNat hlen] using hl

lemma Chain.fits (hlim : env.recvMaxMsgSize.toUInt32.toNat = M) (h0 : 0 < M) (hM : M < 2 ^ 31)
    (h : Chain env kind c d) (hr : c.recv.reads = [])
    (hlen : c.recv.bound.buffer.data.length ≤ M + 2047)
    (hbody : kind = .body → c.recv.bound.header.length.toNat ≤ M) : Fits M d := by
  induction h with
  | halted => exact ⟨hlen, by simp [hr]⟩
  | @arm kind c n _ hl =>
    have hv := recvView_eq_iff.mp (setOpsCancelTimeout_recvView env c)
    have hmissing := lacks_length (by omega) hl
    constructor
    · simpa only [asyncRead, hv.2.2] using hlen
    · simp only [asyncRead, hv.2.2, hr, List.nil_append, List.mem_singleton, forall_eq]
      cases kind with
      | head => exact hmissing
      | body => exact ⟨hmissing, hbody rfl⟩
  | @refuse c hl =>
    have hcut := (IOBound.parseHeader_cut env.recvMaxMsgSize.toUInt32 hl).2
    constructor
    · simp only [sockShutdownAndClose, parseHeader]
      omega
    · simp [sockShutdownAndClose, parseHeader, hr]
  | @header c d hl hz _ ih =>
    have hcut := (IOBound.parseHeader_cut env.recvMaxMsgSize.toUInt32 hl).2
    refine ih hr ?_ fun _ => ?_
    · simp only [parseHeader]
      omega
    · rw [← hlim]
      refine IOBound.parseHeader_limit hz fun hzero => ?_
      rw [hzero] at hlim
      simp at hlim
      omega
  | @message c d _ _ ih =>
    have hv := dispatchBody_recvView env c
    simp only [recvView, Prod.mk.injEq] at hv
    refine ih ((dispatchBody_net env c).2.2.trans hr) ?_ (by simp)
    rw [hv.2.2]
    exact (c.recv.bound.parseMsgBody_cut _).2.trans hlen

lemma Fits.received (h : Fits M c) (h16 : Header.size ≤ M) {i : ℕ} {op : ReadOp}
    (hop : c.recv.reads[i]? = some op) {bytes : Bytes}
    (hmax : bytes.length ≤ kFixedIoBufferSize.toNat) :
    (c.recv.bound.buffer.appendInternal bytes).data.length ≤ M + 2047 := by
  have h2048 : kFixedIoBufferSize.toNat = 2048 := rfl
  have hop' := h.awaiting op (List.mem_of_getElem? hop)
  rw [Buffer.appendInternal_data, List.length_append]
  cases hk : op.kind with
  | head =>
    rw [hk] at hop'
    omega
  | body =>
    rw [hk] at hop'
    omega

lemma Fits.step (hlim : env.recvMaxMsgSize.toUInt32.toNat = M) (h16 : Header.size ≤ M)
    (hM : M < 2 ^ 31) {e : Event} (h : Fits M c) (h1 : OneRead c)
    (hs : TcpConnAsync.step env c e = some d) : Fits M d := by
  have hpos : 0 < M := lt_of_lt_of_le (by decide) h16
  by_cases hread : ∃ i bytes, e = .readDone i bytes
  · obtain ⟨i, bytes, rfl⟩ := hread
    obtain ⟨op, hop, -, hmax, hchain⟩ := step_readDone_chain hs
    have hv := recvView_eq_iff.mp (revokeOpsCancelTimeout_recvView (c.dropRead i))
    refine hchain.fits hlim hpos hM ?_ ?_ fun hk => ?_
    · rw [TcpConnAsync.received, hv.2.2]
      exact h1.dropRead hop
    · rw [TcpConnAsync.received, hv.2.2]
      exact h.received h16 hop hmax
    · rw [TcpConnAsync.received, hv.2.2]
      have hop' := h.awaiting op (List.mem_of_getElem? hop)
      rw [hk] at hop'
      exact hop'.2
  by_cases hfail : ∃ i ec, e = .readFail i ec
  · obtain ⟨i, ec, rfl⟩ := hfail
    obtain ⟨op, hop, -, rfl⟩ := step_readFail hs
    have hdrop : Fits M (c.dropRead i) :=
      ⟨h.buffered, by simp [h1.dropRead hop]⟩
    exact hdrop.of_recv (readFailed_recv _ ec)
  · exact h.of_recv (step_recv (fun i bytes he => hread ⟨i, bytes, he⟩)
      (Or.inr fun i ec he => hfail ⟨i, ec, he⟩) hs).1

lemma toNat_of_limit {x : Int32} (hlim : x.toInt = M) : x.toUInt32.toNat = M ∧ M < 2 ^ 31 := by
  have hlt := x.toInt_lt
  refine ⟨?_, by omega⟩
  rw [Int32.toNat_toUInt32_of_le (by rw [Int32.le_iff_toInt_le, hlim]; simp)]
  simp [Int32.toNatClampNeg, hlim]

/-- With a receive limit `M` the connection never buffers more than `M + 2047` bytes, not
even between the append of a read and the parse, and waits only for bodies within `M`. -/
theorem buffered_le (hM : 32 < M) (hlim : env.recvMaxMsgSize.toInt = M)
    (hc : (machine env).Reachable c) :
    c.recv.bound.buffer.data.length ≤ M + 2047 ∧
      (∀ i bytes, ((machine env).next c (.readDone i bytes)).isSome →
        (c.received bytes).recv.bound.buffer.data.length ≤ M + 2047) ∧
      ∀ op ∈ c.recv.reads, op.kind = .body → c.recv.bound.header.length.toNat ≤ M := by
  obtain ⟨hnat, hM31⟩ := toNat_of_limit hlim
  have h16 : Header.size ≤ M := by simp only [Header.size]; omega
  have hstart : OneRead (started env) ∧ Fits M (started env) := by
    obtain ⟨-, -, hr⟩ := started_view env
    refine ⟨started_oneRead env, ?_, ?_⟩
    · simp [hr, IOBound.fresh, Buffer.empty]
    · simp [hr, IOBound.fresh, Buffer.empty, Header.size]
  obtain ⟨h1, hfits⟩ := Machine.reachable_of_inductive (M := machine env)
    (I := fun c => OneRead c ∧ Fits M c) hstart
    (fun s e t h hs => ⟨h.1.step hs, h.2.step hnat h16 hM31 h.1 hs⟩) hc
  refine ⟨hfits.buffered, fun i bytes hs => ?_, fun op hop hk => ?_⟩
  · obtain ⟨d, hd⟩ := Option.isSome_iff_exists.mp hs
    obtain ⟨op, hop, -, hmax, -⟩ := step_readDone_chain hd
    exact hfits.received h16 hop hmax
  · have hop' := hfits.awaiting op hop
    rw [hk] at hop'
    exact hop'.2

end Fits

theorem framingSample_buffered :
    ∃ c, (machine sampleEnv).run framingSample = some c ∧
      c.recv.bound.buffer.data.length ≤ 64 + 2047 := by
  have h : ((machine sampleEnv).run framingSample).isSome := by
    decide +kernel
  obtain ⟨c, hc⟩ := Option.isSome_iff_exists.mp h
  exact ⟨c, hc, (buffered_le (M := 64) (by decide) rfl ⟨_, hc⟩).1⟩

end Tzrpc.TcpConnAsync
