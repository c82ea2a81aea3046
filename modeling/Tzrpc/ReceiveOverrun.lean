import Tzrpc.ReceiveLength

/-!
# A read that overruns

Without a receive limit, or under one within a read of the word, a body of `2 ^ 32 - 2047`
bytes is accepted. Whole reads then end with `2 ^ 32` bytes buffered, of which `get_length`
reports none, and every receive machine goes on waiting for the body it has.
-/
namespace Tzrpc

/-- A header that announces `2 ^ 32 - 2047` bytes. -/
def overlong : Header := ⟨kHeaderMagic, kHeaderVersion, 4294965249, 0, 0⟩

def wholeBlock : Bytes := List.replicate 2048 0

lemma wholeBlock_fits {n : ℕ} (hn : n ≤ 2048) :
    n ≤ wholeBlock.length ∧ wholeBlock.length ≤ kFixedIoBufferSize.toNat := by
  rw [wholeBlock, List.length_replicate]
  exact ⟨hn, le_rfl⟩

def wholeReads : ℕ := 2 ^ 21

namespace IOBound

/-- Behind an `overlong` head, `k` whole reads are buffered. -/
structure Filled (k : ℕ) (b : IOBound) : Prop where
  head : b.header.length = overlong.length
  data : b.buffer.data.length = 2048 * k

variable {b : IOBound} {k : ℕ} {lim : UInt32}

lemma Filled.received (h : b.Filled k) : (b.received wholeBlock).Filled (k + 1) := by
  refine ⟨h.head, ?_⟩
  rw [IOBound.received, Buffer.appendInternal_data, List.length_append, h.data, wholeBlock,
    List.length_replicate]
  ring

lemma Filled.getLength (h : b.Filled k) : b.buffer.getLength.toNat = 2048 * k % 2 ^ 32 := by
  rw [Buffer.getLength, UInt32.toNat_ofNat', h.data]

/-- The body never seems complete: no number of whole reads is its length. -/
lemma Filled.lacks (h : b.Filled k) : b.buffer.getLength < b.header.length := by
  have hlong : overlong.length.toNat = 4294965249 := rfl
  rw [UInt32.lt_iff_toNat_lt, h.getLength, h.head, hlong]
  omega

lemma Filled.overruns (h : b.Filled k) (hk : k + 1 = wholeReads) :
    b.Overruns .body wholeBlock := by
  have hlong : overlong.length.toNat = 4294965249 := rfl
  have h2048 : kFixedIoBufferSize.toNat = 2048 := rfl
  simp only [wholeReads] at hk
  refine ⟨rfl, ?_, ?_⟩
  · rw [h.head, hlong, h2048]
    decide
  · rw [h.data, wholeBlock, List.length_replicate]
    omega

lemma parseHeader_overlong (hroom : ¬ LeavesRoom lim) (hb : b.buffer.data = []) :
    ((b.received overlong.wire).parseHeader lim).1 = 0 ∧
      ((b.received overlong.wire).parseHeader lim).2.Filled 0 := by
  have hdata : (b.received overlong.wire).buffer.data = overlong.wire ++ [] := by
    rw [IOBound.received, Buffer.appendInternal_data, hb, List.nil_append, List.append_nil]
  have hlong : overlong.length.toNat = 4294965249 := rfl
  have h2048 : kFixedIoBufferSize.toNat = 2048 := rfl
  have hwithin : (limitOf lim).all (overlong.length.toNat ≤ ·) := by
    rw [limitOf_all, hlong]
    by_cases h0 : lim = 0
    · exact Or.inl h0
    · have hroom' := not_and.mp hroom h0
      omega
  have hparse := @parseHeader_eq (b.received overlong.wire) lim _ _ hdata (Header.wire_length _)
    (by rw [hdata]; decide)
  rw [wireFraming_bodyLen_wire rfl rfl, if_pos hwithin, if_neg (by simp)] at hparse
  have hun := Header.unwire_wire_append overlong []
  rw [List.append_nil] at hun
  rw [hparse]
  exact ⟨rfl, by rw [hun], rfl⟩

end IOBound

namespace Receiver

variable {σ ε : Type*} {R : Receiver σ ε} {I : ℕ → σ → Prop} {J : σ → Prop} {first next : ε}

/-- `first` completes the read of an `overlong` head and each `next` a whole read of its body;
`I k` is where the receiver is behind `k` of them. -/
structure Fills (R : Receiver σ ε) (first next : ε) (I : ℕ → σ → Prop) : Prop where
  start : ∃ s, R.machine.next R.machine.start first = some s ∧ I 0 s
  step : ∀ k s, I k s → ∃ t, R.machine.next s next = some t ∧ I (k + 1) t
  bound : ∀ k s, I k s → (R.bound s).Filled k
  completes : ∀ k s, I k s → R.Completes s next .body wholeBlock

def overlongReads (first next : ε) (k : ℕ) : List ε := first :: List.replicate k next

lemma Fills.run (h : R.Fills first next I) (k : ℕ) :
    ∃ s, R.machine.run (overlongReads first next k) = some s ∧ I k s := by
  obtain ⟨s, hs, hi⟩ := h.start
  obtain ⟨t, ht, hi'⟩ := Machine.exec_replicate (M := R.machine) h.step hi k
  refine ⟨t, ?_, hi'⟩
  rw [overlongReads, Machine.run, Machine.exec_cons, hs]
  exact ht

lemma Fills.overrun (h : R.Fills first next I) :
    R.Overrun (overlongReads first next wholeReads) := by
  obtain ⟨s, hs, hi⟩ := h.run (wholeReads - 1)
  obtain ⟨t, ht, -⟩ := h.step _ s hi
  have hsplit : overlongReads first next wholeReads =
      overlongReads first next (wholeReads - 1) ++ [next] := by
    rw [overlongReads, overlongReads, List.cons_append, ← List.replicate_succ']
    rfl
  rw [hsplit]
  exact ⟨s, next, t, .body, wholeBlock, Machine.takes_last hs ht, h.completes _ s hi,
    (h.bound _ s hi).overruns rfl⟩

/-- A steady receiver judges its buffer right in every run exactly under a limit that leaves
room, if it fills up without one. -/
theorem Steady.judges_all_iff (h : R.Steady J)
    (hfills : ¬ LeavesRoom R.recvMaxMsgSize → R.Fills first next I) :
    (∀ es, R.JudgesThroughout es) ↔ LeavesRoom R.recvMaxMsgSize := by
  constructor
  · intro hall
    by_contra hroom
    exact (h.judges_iff _).mp (hall _) (hfills hroom).overrun
  · intro hroom es
    exact (h.judges_iff es).mpr (h.not_overrun hroom es)

end Receiver

namespace TcpConnAsync

structure Filling (k : ℕ) (c : TcpConnAsync) : Prop where
  working : c.net.connStat = .kWorking
  uncancelled : c.wasCancelled = false
  bound : c.recv.bound.Filled k
  reads : ∃ id n, c.recv.reads = [⟨id, .body, n⟩] ∧ n ≤ 2048
  dispatched : c.recv.dispatched = []

section Overrun

variable {env : ServerEnv} {c : TcpConnAsync} {k : ℕ}

lemma chainFuel_pos (c : TcpConnAsync) : 0 < c.chainFuel := Nat.mul_pos two_pos (Nat.succ_pos _)

lemma doReadMsg_filling (hc : c.Ready) (hb : c.recv.bound.Filled k)
    (hdisp : c.recv.dispatched = []) {fuel : ℕ} (hfuel : 0 < fuel) :
    ∃ d, c.doReadMsg env fuel = some d ∧ d.Filling k := by
  obtain ⟨fuel, rfl⟩ := Nat.exists_eq_succ_of_ne_zero hfuel.ne'
  have hv := recvView_eq_iff.mp (setOpsCancelTimeout_recvView env c)
  refine ⟨_, by rw [doReadMsg, if_neg (by simp [hc.working]), if_neg (by simp [hc.uncancelled]),
    if_pos hb.lacks], ?_, ?_, ?_, ?_, ?_⟩
  · simpa [asyncRead, hv.1] using hc.working
  · simpa [asyncRead, hv.2.1] using hc.uncancelled
  · simpa only [asyncRead, hv.2.2] using hb
  · refine ⟨(c.setOpsCancelTimeout env).ops, _, by simp [asyncRead, hv.2.2, hc.idle]; rfl, ?_⟩
    rw [UInt32.toNat_min]
    exact min_le_right _ _
  · simpa only [asyncRead, hv.2.2] using hdisp

lemma Filling.step (h : c.Filling k) :
    ∃ d, TcpConnAsync.step env c (.readDone 0 wholeBlock) = some d ∧ d.Filling (k + 1) := by
  obtain ⟨id, n, hreads, hn⟩ := h.reads
  obtain ⟨hready, hrecv⟩ := @received_ready (c.dropRead 0) h.working h.uncancelled
    (by simp [dropRead, hreads]) wholeBlock
  have hb : ((c.dropRead 0).revokeOpsCancelTimeout.received wholeBlock).recv.bound.Filled
      (k + 1) := by
    rw [hrecv]
    exact h.bound.received
  obtain ⟨d, hd, hf⟩ := @doReadMsg_filling env _ _ hready hb (by rw [hrecv]; exact h.dispatched)
    _ (chainFuel_pos _)
  refine ⟨d, ?_, hf⟩
  simp only [TcpConnAsync.step, hreads, List.getElem?_cons_zero, Option.bind_some, if_pos (wholeBlock_fits hn)]
  rw [readMsgHandler_lacks hb.lacks, hd]

lemma started_filling (hroom : ¬ LeavesRoom env.recvMaxMsgSize.toUInt32) :
    ∃ d, TcpConnAsync.step env (started env) (.readDone 0 overlong.wire) = some d ∧
      d.Filling 0 := by
  obtain ⟨hw, hu, hr⟩ := started_view env
  obtain ⟨hready, hrecv⟩ := @received_ready ((started env).dropRead 0) hw hu
    (by simp [dropRead, hr]) overlong.wire
  generalize hc : ((started env).dropRead 0).revokeOpsCancelTimeout.received overlong.wire = c
    at hready hrecv
  have hbound : c.recv.bound = IOBound.fresh.received overlong.wire := by
    rw [hrecv, dropRead, hr]
    rfl
  have hdisp : (c.parseHeader env).2.recv.dispatched = [] := by
    show c.recv.dispatched = []
    rw [hrecv, dropRead, hr]
  obtain ⟨h0, hb⟩ := IOBound.parseHeader_overlong (b := IOBound.fresh) hroom rfl
  rw [← hbound] at h0 hb
  obtain ⟨d, hd, hf⟩ := @doReadMsg_filling env (c.parseHeader env).2 _
    ⟨hready.working, hready.uncancelled, hready.idle⟩ hb hdisp _ c.chainFuel_pos
  refine ⟨d, ?_, hf⟩
  have hget : ¬ c.recv.bound.buffer.getLength.toNat < Header.size := by
    rw [hbound]
    decide
  simp only [TcpConnAsync.step, hr, List.getElem?_cons_zero, Option.bind_some]
  rw [if_pos (by decide), readHandler, hc, if_neg hget,
    if_pos (show (c.parseHeader env).1 = 0 from h0), hd]

lemma receiving_fills (hroom : ¬ LeavesRoom env.recvMaxMsgSize.toUInt32) :
    (receiving env).Fills (.readDone 0 overlong.wire) (.readDone 0 wholeBlock) Filling where
  start := started_filling hroom
  step _ _ h := h.step
  bound _ _ h := h.bound
  completes _ _ h := by
    obtain ⟨id, n, hreads, -⟩ := h.reads
    exact ⟨0, ⟨id, .body, n⟩, rfl, by rw [hreads]; rfl, rfl⟩

end Overrun

end TcpConnAsync

namespace Client.TcpConnAsync

structure Filling (k : ℕ) (c : TcpConnAsync) : Prop where
  working : c.net.connStat = .kWorking
  bound : c.recv.bound.Filled k
  reads : ∃ id n, c.recv.reads = [⟨id, .body, n⟩] ∧ n ≤ 2048

section Overrun

variable {setting : ClientSetting} {c : TcpConnAsync} {k : ℕ}

lemma chainFuel_pos (c : TcpConnAsync) : 0 < c.chainFuel := Nat.mul_pos two_pos (Nat.succ_pos _)

lemma doReadMsg_filling (hw : c.net.connStat = .kWorking) (hr : c.recv.reads = [])
    (hb : c.recv.bound.Filled k) {fuel : ℕ} (hfuel : 0 < fuel) :
    ∃ d, c.doReadMsg setting fuel = some d ∧ d.Filling k := by
  obtain ⟨fuel, rfl⟩ := Nat.exists_eq_succ_of_ne_zero hfuel.ne'
  refine ⟨c.asyncRead .body (min (c.recv.bound.header.length - c.recv.bound.buffer.getLength)
    kFixedIoBufferSize).toNat, ?_, hw, hb, c.ops, _, by simp [asyncRead, hr]; rfl, ?_⟩
  · rw [doReadMsg, if_neg (by simp [hw]), if_pos hb.lacks]
  · rw [UInt32.toNat_min]
    exact min_le_right _ _

lemma Filling.step (h : c.Filling k) :
    ∃ d, act setting c (.completes (.readDone 0 wholeBlock)) = some d ∧ d.Filling (k + 1) := by
  obtain ⟨id, n, hreads, hn⟩ := h.reads
  have hb : ((c.dropRead 0).received wholeBlock).recv.bound.Filled (k + 1) := h.bound.received
  obtain ⟨d, hd, hf⟩ := @doReadMsg_filling setting ((c.dropRead 0).received wholeBlock) _ h.working
    (by simp [dropRead, received, hreads]) hb _ (chainFuel_pos _)
  refine ⟨d, ?_, hf⟩
  simp only [act, TcpConnAsync.step, hreads, List.getElem?_cons_zero, Option.bind_some,
    if_pos (wholeBlock_fits hn)]
  rw [readMsgHandler, parseMsgBody_short hb.lacks, if_neg one_ne_zero, if_pos one_pos, hd]

lemma started_filling (hroom : ¬ LeavesRoom setting.recvMaxMsgSize) :
    ∃ d, act setting (started setting) (.completes (.readDone 0 overlong.wire)) = some d ∧
      d.Filling 0 := by
  obtain ⟨h0, hb⟩ := IOBound.parseHeader_overlong (b := IOBound.fresh) hroom rfl
  generalize hc : ((started setting).dropRead 0).received overlong.wire = c
  have hbound : c.recv.bound = IOBound.fresh.received overlong.wire := by
    rw [← hc]
    rfl
  have hget : ¬ c.recv.bound.buffer.getLength.toNat < Header.size := by
    rw [hbound]
    decide
  rw [← hbound] at h0 hb
  obtain ⟨d, hd, hf⟩ := @doReadMsg_filling setting (c.parseHeader setting).2 _
    (by rw [← hc]; rfl) (by rw [← hc]; rfl) hb _ c.chainFuel_pos
  refine ⟨d, ?_, hf⟩
  have hreads : (started setting).recv.reads = [⟨0, .head, Header.size⟩] := rfl
  simp only [act, TcpConnAsync.step, hreads, List.getElem?_cons_zero, Option.bind_some]
  rw [if_pos (by decide), readHandler, hc, if_neg hget,
    if_pos (show (c.parseHeader setting).1 = 0 from h0), hd]

lemma receiving_fills (hroom : ¬ LeavesRoom setting.recvMaxMsgSize) :
    (receiving setting).Fills (.completes (.readDone 0 overlong.wire))
      (.completes (.readDone 0 wholeBlock)) Filling where
  start := started_filling hroom
  step _ _ h := h.step
  bound _ _ h := h.bound
  completes _ _ h := by
    obtain ⟨id, n, hreads, -⟩ := h.reads
    exact ⟨0, ⟨id, .body, n⟩, rfl, by rw [hreads]; rfl, rfl⟩

end Overrun

end Client.TcpConnAsync

namespace Client.TcpConnSync

structure Filling (k : ℕ) (r : Outcome × TcpConnSync) : Prop where
  bound : r.2.recvBound.Filled k
  blocked : ∃ n, r.1 = .blocked (.read .body n) ∧ n ≤ 2048

section Overrun

variable {setting : ClientSetting} {c : TcpConnSync} {r : Outcome × TcpConnSync} {k : ℕ}

lemma readMsgLoop_filling (hb : c.recvBound.Filled k) : Filling k c.readMsgLoop := by
  rw [readMsgLoop, if_pos hb.lacks]
  refine ⟨hb, _, rfl, ?_⟩
  rw [UInt32.toNat_min]
  exact min_le_right _ _

lemma Filling.step (h : Filling k r) :
    ∃ r', readStep setting r (.readDone wholeBlock) = some r' ∧ Filling (k + 1) r' := by
  obtain ⟨o, c⟩ := r
  obtain ⟨hb, n, rfl, hn⟩ := h
  exact ⟨_, by simp only [readStep, if_pos (wholeBlock_fits hn)]; rfl,
    readMsgLoop_filling (c := { c with recvBound := c.recvBound.received wholeBlock }) hb.received⟩

lemma started_filling (hroom : ¬ LeavesRoom setting.recvMaxMsgSize) :
    ∃ r, readStep setting (fresh.doRead setting) (.readDone overlong.wire) = some r ∧
      Filling 0 r := by
  obtain ⟨h0, hb⟩ := IOBound.parseHeader_overlong (b := IOBound.fresh) hroom rfl
  have hget : ¬ (IOBound.fresh.received overlong.wire).buffer.getLength.toNat < Header.size := by
    decide
  have hread : fresh.doRead setting = (.blocked (.read .head Header.size), fresh) := rfl
  refine ⟨_, ?_, readMsgLoop_filling (c := { fresh with
    recvBound := ((IOBound.fresh.received overlong.wire).parseHeader setting.recvMaxMsgSize).2 })
    hb⟩
  rw [hread]
  simp only [readStep]
  rw [if_pos (by decide)]
  show some (readLoop setting { fresh with recvBound := IOBound.fresh.received overlong.wire }) = _
  rw [readLoop, if_neg hget]
  simp only [h0, ↓reduceIte]
  rw [doReadMsg, if_neg (by simp [fresh, NetConn.setConnStat])]

lemma receiving_fills (hroom : ¬ LeavesRoom setting.recvMaxMsgSize) :
    (receiving setting).Fills (.readDone overlong.wire) (.readDone wholeBlock) Filling where
  start := started_filling hroom
  step _ _ h := h.step
  bound _ _ h := h.bound
  completes _ _ h := by
    obtain ⟨n, hblocked, -⟩ := h.blocked
    exact ⟨rfl, n, hblocked⟩

end Overrun

end Client.TcpConnSync

/-- The receive machines of the server and of both client connections judge their buffers
right in exactly the runs without a read that overruns, and in every run exactly under a
limit that leaves room for a read behind the longest body. -/
theorem receivers_judge_iff (env : ServerEnv) (setting : Client.ClientSetting) :
    ((∀ es, (TcpConnAsync.receiving env).JudgesThroughout es ↔
          ¬ (TcpConnAsync.receiving env).Overrun es) ∧
        ((∀ es, (TcpConnAsync.receiving env).JudgesThroughout es) ↔
          LeavesRoom env.recvMaxMsgSize.toUInt32)) ∧
      ((∀ es, (Client.TcpConnAsync.receiving setting).JudgesThroughout es ↔
          ¬ (Client.TcpConnAsync.receiving setting).Overrun es) ∧
        ((∀ es, (Client.TcpConnAsync.receiving setting).JudgesThroughout es) ↔
          LeavesRoom setting.recvMaxMsgSize)) ∧
      (∀ es, (Client.TcpConnSync.receiving setting).JudgesThroughout es ↔
          ¬ (Client.TcpConnSync.receiving setting).Overrun es) ∧
        ((∀ es, (Client.TcpConnSync.receiving setting).JudgesThroughout es) ↔
          LeavesRoom setting.recvMaxMsgSize) := by
  have hserver := TcpConnAsync.receiving_steady env
  have hasync := Client.TcpConnAsync.receiving_steady setting
  have hsync := Client.TcpConnSync.receiving_steady setting
  exact ⟨⟨hserver.judges_iff, hserver.judges_all_iff TcpConnAsync.receiving_fills⟩,
    ⟨hasync.judges_iff, hasync.judges_all_iff Client.TcpConnAsync.receiving_fills⟩,
    hsync.judges_iff, hsync.judges_all_iff Client.TcpConnSync.receiving_fills⟩

def unlimitedEnv : ServerEnv := ⟨0, 0, 0, fun _ => none⟩

def overlongRun : List TcpConnAsync.Event :=
  Receiver.overlongReads (.readDone 0 overlong.wire) (.readDone 0 wholeBlock) wholeReads

/-- Without a limit the whole body is buffered, none of it is reported and nothing is
dispatched. -/
theorem overlongRun_misjudged :
    ¬ (TcpConnAsync.receiving unlimitedEnv).JudgesThroughout overlongRun ∧
      ∃ c, (TcpConnAsync.machine unlimitedEnv).run overlongRun = some c ∧
        c.recv.bound.header.length.toNat < c.recv.bound.buffer.data.length ∧
        c.recv.bound.buffer.getLength = 0 ∧ c.recv.dispatched = [] ∧ c.WaitsFor .body := by
  have hroom : ¬ LeavesRoom unlimitedEnv.recvMaxMsgSize.toUInt32 := fun h => h.1 rfl
  have hfills := TcpConnAsync.receiving_fills hroom
  refine ⟨fun h => ((TcpConnAsync.receiving_steady _).judges_iff _).mp h hfills.overrun, ?_⟩
  obtain ⟨c, hc, hf⟩ := hfills.run wholeReads
  obtain ⟨id, n, hreads, -⟩ := hf.reads
  have hlong : overlong.length.toNat = 4294965249 := rfl
  refine ⟨c, hc, ?_, ?_, hf.dispatched, ⟨id, .body, n⟩, by simp [hreads], rfl⟩
  · rw [hf.bound.head, hf.bound.data, hlong, wholeReads]
    decide
  · apply UInt32.toNat_inj.mp
    rw [hf.bound.getLength, wholeReads]
    decide

end Tzrpc
