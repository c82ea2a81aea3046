import Tzrpc.TcpConnAsync

/-!
# Server framing

The read chain cuts the received stream exactly as the wire format does, whatever pieces
the reads deliver. `Follows` ties the state of a connection to the parse of the bytes
delivered so far; every read completion extends that parse.
-/
namespace Tzrpc.TcpConnAsync

def framing (env : ServerEnv) : Framing UInt8 := wireFraming (limitOf env.recvMaxMsgSize.toUInt32)

/-- The outstanding reads and the buffer are the ones a stream with this ending calls for. -/
def Awaits (c : TcpConnAsync) : Ending UInt8 → Prop
  | .head r => c.recv.bound.buffer.data = r ∧
      ∃ id, c.recv.reads = [⟨id, .head, Header.size - r.length⟩]
  | .body hd r => c.recv.bound.buffer.data = r ∧ c.recv.bound.header = Header.unwire hd ∧
      ∃ id, c.recv.reads =
        [⟨id, .body, min ((Header.unwire hd).length.toNat - r.length) kFixedIoBufferSize.toNat⟩]
  | .malformed => c.recv.reads = []

/-- Working, not cancelled and with no read outstanding: a state the chain can run on from. -/
structure Ready (c : TcpConnAsync) : Prop where
  working : c.net.connStat = .kWorking
  uncancelled : c.wasCancelled = false
  idle : c.recv.reads = []

/-- The connection is where the parse of `s` is, having dispatched `before` ahead of it. -/
structure Follows (env : ServerEnv) (before : List Bytes) (s : Bytes) (c : TcpConnAsync) :
    Prop where
  dispatched : c.recv.dispatched = before ++ (framing env).bodies s
  awaits : c.Awaits ((framing env).ending s)
  closed : (framing env).ending s = .malformed → c.net.connStat = .kClosed
  working : (framing env).ending s ≠ .malformed →
    c.net.connStat = .kWorking ∧ c.wasCancelled = false

/-- `do_read` drains `s`, given one call for each routine a frame passes through. -/
def Drains (env : ServerEnv) (s : Bytes) : Prop :=
  ∀ fuel (c : TcpConnAsync), c.Ready → c.recv.bound.buffer.data = s → s.length < 2 ^ 32 →
    2 * (s.length / Header.size) + 1 ≤ fuel →
    ∃ d, c.doRead env fuel = some d ∧ Follows env c.recv.dispatched s d

section Spec

variable {env : ServerEnv}

@[simp] lemma framing_headLen : (framing env).headLen = Header.size := rfl

lemma unwire_length_of_bodyLen {hd : Bytes} {n : ℕ} (hl : hd.length = Header.size)
    (hb : (framing env).bodyLen hd = some n) : (Header.unwire hd).length.toNat = n := by
  rw [Header.unwire_length (by rw [hl]), (wireFraming_bodyLen_eq hb).1]

lemma drains_short {s : Bytes} (hs : s.length < Header.size) : Drains env s := by
  intro fuel c hc hdata hlen hfuel
  obtain ⟨fuel, rfl⟩ : ∃ k, fuel = k + 1 := ⟨fuel - 1, by omega⟩
  have hget : c.recv.bound.buffer.getLength.toNat = s.length := by
    rw [Buffer.getLength_toNat (by rw [hdata]; exact hlen), hdata]
  have hv := recvView_eq_iff.mp (setOpsCancelTimeout_recvView env c)
  have hparse : (framing env).parse s = ([], .head s) := Framing.parse_short hs
  refine ⟨_, by rw [doRead, if_neg (by simp [hc.working]), if_neg (by simp [hc.uncancelled]),
    if_pos (by rw [hget]; exact hs)], ?_⟩
  constructor
  · simp [asyncRead, hv.2.2, Framing.bodies, hparse]
  · simp only [Framing.ending, hparse, Awaits, asyncRead, hv.2.2]
    exact ⟨hdata, c.setOpsCancelTimeout env |>.ops, by simp [hc.idle, hget]⟩
  · simp [Framing.ending, hparse]
  · intro _
    exact ⟨by simpa [asyncRead, hv.1] using hc.working,
      by simpa [asyncRead, hv.2.1] using hc.uncancelled⟩

lemma doReadMsg_cut {hd t : Bytes} {n fuel : ℕ} {c : TcpConnAsync} (hc : c.Ready)
    (hl : hd.length = Header.size) (hb : (framing env).bodyLen hd = some n) (ht : t.length < n)
    (hhead : c.recv.bound.header = Header.unwire hd) (hdata : c.recv.bound.buffer.data = t) :
    ∃ d, c.doReadMsg env (fuel + 1) = some d ∧ Follows env c.recv.dispatched (hd ++ t) d := by
  have hn := unwire_length_of_bodyLen hl hb
  have hn32 : n < 2 ^ 32 := hn ▸ (Header.unwire hd).length.toNat_lt
  have hget : c.recv.bound.buffer.getLength.toNat = t.length := by
    rw [Buffer.getLength_toNat (by rw [hdata]; omega), hdata]
  have hlt : c.recv.bound.buffer.getLength < c.recv.bound.header.length := by
    rw [UInt32.lt_iff_toNat_lt, hhead, hn, hget]
    exact ht
  have hv := recvView_eq_iff.mp (setOpsCancelTimeout_recvView env c)
  have hparse : (framing env).parse (hd ++ t) = ([], .body hd t) :=
    Framing.parse_cut hl hb ht
  have hmin : (min (c.recv.bound.header.length - c.recv.bound.buffer.getLength)
      kFixedIoBufferSize).toNat =
      min ((Header.unwire hd).length.toNat - t.length) kFixedIoBufferSize.toNat := by
    have hsub : (c.recv.bound.header.length - c.recv.bound.buffer.getLength).toNat =
        (Header.unwire hd).length.toNat - t.length := by
      rw [UInt32.toNat_sub_of_le _ _ (UInt32.le_of_lt hlt), hhead, hget]
    rw [UInt32.toNat_min, hsub]
  refine ⟨_, by rw [doReadMsg, if_neg (by simp [hc.working]), if_neg (by simp [hc.uncancelled]),
    if_pos hlt], ?_⟩
  constructor
  · simp [asyncRead, hv.2.2, Framing.bodies, hparse]
  · simp only [Framing.ending, hparse, Awaits, asyncRead, hv.2.2]
    exact ⟨hdata, hhead, c.setOpsCancelTimeout env |>.ops, by simp [hc.idle, hmin]⟩
  · simp [Framing.ending, hparse]
  · intro _
    exact ⟨by simpa [asyncRead, hv.1] using hc.working,
      by simpa [asyncRead, hv.2.1] using hc.uncancelled⟩

lemma doReadMsg_frame {f : Frame UInt8} {t : Bytes} {fuel : ℕ} {c : TcpConnAsync}
    (hf : (framing env).Accepts f) (ih : Drains env t) (hc : c.Ready)
    (hhead : c.recv.bound.header = Header.unwire f.head)
    (hdata : c.recv.bound.buffer.data = f.body ++ t) (hlen : (f.body ++ t).length < 2 ^ 32)
    (hfuel : 2 * (t.length / Header.size) + 1 ≤ fuel) :
    ∃ d, c.doReadMsg env (fuel + 1) = some d ∧ Follows env c.recv.dispatched (f.elems ++ t) d := by
  have hn := unwire_length_of_bodyLen hf.1 hf.2
  have hget : c.recv.bound.buffer.getLength.toNat = (f.body ++ t).length := by
    rw [Buffer.getLength_toNat (by rw [hdata]; exact hlen), hdata]
  have hge : ¬ c.recv.bound.buffer.getLength < c.recv.bound.header.length := by
    rw [UInt32.lt_iff_toNat_lt, hhead, hn, hget, List.length_append]
    omega
  have hbody := @IOBound.parseMsgBody_eq c.recv.bound ⟨Header.zero, []⟩
    (by rw [hhead, hn, hdata, List.length_append]; omega) (by rw [hdata]; exact hlen)
  rw [hhead, hn, hdata, List.take_left, List.drop_left] at hbody
  let c' : TcpConnAsync := { c with recv := { c.recv with
    bound := { c.recv.bound with header := Header.unwire f.head, buffer := ⟨t⟩ } } }
  have hv := dispatch_recvView env c' f.body
  simp only [recvView, Prod.mk.injEq] at hv
  obtain ⟨hnet, hcan, hrecv⟩ := hv
  have hc' : (c'.dispatch env f.body).Ready :=
    ⟨by rw [hnet]; exact hc.working, by rw [hcan]; exact hc.uncancelled,
      by rw [hrecv]; exact hc.idle⟩
  obtain ⟨d, hd, hdr⟩ := ih fuel _ hc' (by rw [hrecv]) (by
    simp only [List.length_append] at hlen
    omega) hfuel
  have hparse := Framing.parse_frame hf t
  refine ⟨d, ?_, ?_⟩
  · rw [doReadMsg, if_neg (by simp [hc.working]), if_neg (by simp [hc.uncancelled]), if_neg hge]
    simp only [parseMsgBody, hbody, ↓reduceIte]
    exact hd
  · constructor
    · rw [hdr.dispatched, hrecv]
      simp [c', Framing.bodies, hparse]
    · simpa only [Framing.ending, hparse] using hdr.awaits
    · simpa only [Framing.ending, hparse] using hdr.closed
    · simpa only [Framing.ending, hparse] using hdr.working

lemma doRead_head {hd t : Bytes} {fuel : ℕ} {c : TcpConnAsync} (hc : c.Ready)
    (hl : hd.length = Header.size) (hdata : c.recv.bound.buffer.data = hd ++ t)
    (hlen : (hd ++ t).length < 2 ^ 32) :
    let c' : TcpConnAsync := { c with recv := { c.recv with
      bound := { c.recv.bound with header := Header.unwire hd, buffer := ⟨t⟩ } } }
    c.doRead env (fuel + 1) =
      if (framing env).bodyLen hd = none then some c'.sockShutdownAndClose
      else c'.doReadMsg env fuel := by
  have hget : c.recv.bound.buffer.getLength.toNat = (hd ++ t).length := by
    rw [Buffer.getLength_toNat (by rw [hdata]; exact hlen), hdata]
  have hge : ¬ c.recv.bound.buffer.getLength.toNat < Header.size := by
    rw [hget, List.length_append]
    omega
  have hhead := @IOBound.parseHeader_eq c.recv.bound env.recvMaxMsgSize.toUInt32 _ _
    hdata hl (by rw [hdata]; exact hlen)
  rw [doRead, if_neg (by simp [hc.working]), if_neg (by simp [hc.uncancelled]), if_neg hge]
  simp only [parseHeader, hhead, framing]
  by_cases hb : (wireFraming (limitOf env.recvMaxMsgSize.toUInt32)).bodyLen hd = none <;> simp [hb]

/-- The read chain drains every buffer whose length is reported correctly. -/
theorem drains (env : ServerEnv) (s : Bytes) : Drains env s := by
  induction s using Framing.parse_induction (F := framing env) with
  | short s hs => exact drains_short hs
  | malformed hd t hl hb =>
    intro fuel c hc hdata hlen hfuel
    obtain ⟨fuel, rfl⟩ : ∃ k, fuel = k + 1 := ⟨fuel - 1, by omega⟩
    have hparse : (framing env).parse (hd ++ t) = ([], .malformed) := Framing.parse_malformed hl hb
    refine ⟨_, by rw [doRead_head hc hl hdata hlen, if_pos hb], ?_⟩
    constructor
    · simp [sockShutdownAndClose, Framing.bodies, hparse]
    · simpa [sockShutdownAndClose, Framing.ending, hparse, Awaits] using hc.idle
    · simp [sockShutdownAndClose]
    · simp [Framing.ending, hparse]
  | cut hd t n hl hb ht =>
    intro fuel c hc hdata hlen hfuel
    have hl16 : hd.length = 16 := hl
    have hfuel' : 2 ≤ fuel := by
      simp only [List.length_append, hl16, Header.size] at hfuel
      omega
    obtain ⟨fuel, rfl⟩ : ∃ k, fuel = k + 1 + 1 := ⟨fuel - 2, by omega⟩
    rw [doRead_head hc hl hdata hlen, if_neg (by simp [hb])]
    exact doReadMsg_cut (c := { c with recv := { c.recv with bound :=
      { c.recv.bound with header := Header.unwire hd, buffer := ⟨t⟩ } } })
      ⟨hc.working, hc.uncancelled, hc.idle⟩ hl hb ht rfl rfl
  | frame f t hf ih =>
    intro fuel c hc hdata hlen hfuel
    have hl16 : f.head.length = 16 := hf.1
    rw [Frame.elems, List.append_assoc] at hdata hlen hfuel
    have hfuel' : 2 * (t.length / 16) + 3 ≤ fuel := by
      simp only [List.length_append, hl16, Header.size] at hfuel
      omega
    obtain ⟨fuel, rfl⟩ : ∃ k, fuel = k + 1 + 1 := ⟨fuel - 2, by omega⟩
    rw [doRead_head hc hf.1 hdata hlen, if_neg (by simp [hf.2])]
    refine doReadMsg_frame (c := { c with recv := { c.recv with bound :=
      { c.recv.bound with header := Header.unwire f.head, buffer := ⟨f.body ++ t⟩ } } })
      hf ih ⟨hc.working, hc.uncancelled, hc.idle⟩ rfl rfl ?_ ?_
    · simp only [List.length_append] at hlen ⊢
      omega
    · simp only [Header.size]
      omega

end Spec

section Completions

variable {env : ServerEnv} {c : TcpConnAsync}

lemma received_ready (hw : c.net.connStat = .kWorking) (hu : c.wasCancelled = false)
    (hi : c.recv.reads = []) (bytes : Bytes) :
    (c.revokeOpsCancelTimeout.received bytes).Ready ∧
      (c.revokeOpsCancelTimeout.received bytes).recv =
        { c.recv with bound := { c.recv.bound with
          buffer := ⟨c.recv.bound.buffer.data ++ bytes⟩ } } := by
  obtain ⟨hn, hc, hr⟩ := recvView_eq_iff.mp (revokeOpsCancelTimeout_recvView c)
  refine ⟨⟨?_, ?_, ?_⟩, ?_⟩
  · simpa [received, hn] using hw
  · simpa [received, hc] using hu
  · simpa [received, hr] using hi
  · simp [received, hr, Buffer.appendInternal]

lemma readHandler_eq {bytes : Bytes}
    (hr : (c.revokeOpsCancelTimeout.received bytes).Ready)
    (hlen : ¬ (c.revokeOpsCancelTimeout.received bytes).recv.bound.buffer.getLength.toNat <
      Header.size) :
    c.readHandler env bytes = (c.revokeOpsCancelTimeout.received bytes).doRead env
      ((c.revokeOpsCancelTimeout.received bytes).chainFuel + 1) := by
  simp only [readHandler, doRead, if_neg hlen, hr.working, hr.uncancelled, ne_eq,
    not_true_eq_false, Bool.false_eq_true, ↓reduceIte]

lemma readMsgHandler_lacks {bytes : Bytes}
    (hlt : (c.revokeOpsCancelTimeout.received bytes).recv.bound.buffer.getLength <
      (c.revokeOpsCancelTimeout.received bytes).recv.bound.header.length) :
    c.readMsgHandler env bytes = (c.revokeOpsCancelTimeout.received bytes).doReadMsg env
      (c.revokeOpsCancelTimeout.received bytes).chainFuel := by
  simp only [readMsgHandler, parseMsgBody, IOBound.parseMsgBody, if_pos hlt, one_ne_zero,
    zero_lt_one, ↓reduceIte]

lemma readMsgHandler_short {bytes : Bytes}
    (hlen : (c.revokeOpsCancelTimeout.received bytes).recv.bound.buffer.data.length <
      (c.revokeOpsCancelTimeout.received bytes).recv.bound.header.length.toNat) :
    c.readMsgHandler env bytes = (c.revokeOpsCancelTimeout.received bytes).doReadMsg env
      (c.revokeOpsCancelTimeout.received bytes).chainFuel :=
  readMsgHandler_lacks (UInt32.lt_iff_toNat_lt.mpr ((Buffer.getLength_le _).trans_lt hlen))

lemma readMsgHandler_full {bytes : Bytes}
    (hr : (c.revokeOpsCancelTimeout.received bytes).Ready)
    (hlen : ¬ (c.revokeOpsCancelTimeout.received bytes).recv.bound.buffer.getLength <
      (c.revokeOpsCancelTimeout.received bytes).recv.bound.header.length) :
    c.readMsgHandler env bytes = (c.revokeOpsCancelTimeout.received bytes).doReadMsg env
      ((c.revokeOpsCancelTimeout.received bytes).chainFuel + 1) := by
  simp only [readMsgHandler, doReadMsg, if_neg hlen, hr.working, hr.uncancelled, ne_eq,
    not_true_eq_false, Bool.false_eq_true, ↓reduceIte]

lemma readHandler_follows {r bytes : Bytes} (hw : c.net.connStat = .kWorking)
    (hu : c.wasCancelled = false) (hi : c.recv.reads = []) (hdata : c.recv.bound.buffer.data = r)
    (hr : r.length < Header.size) (hmin : Header.size - r.length ≤ bytes.length)
    (hmax : bytes.length ≤ kFixedIoBufferSize.toNat) :
    ∃ d, c.readHandler env bytes = some d ∧
      Follows env c.recv.dispatched (r ++ bytes) d := by
  obtain ⟨hready, hrecv⟩ := received_ready hw hu hi bytes
  rw [hdata] at hrecv
  have hlen : (r ++ bytes).length < 2 ^ 32 := by
    have h2048 : kFixedIoBufferSize.toNat = 2048 := rfl
    simp only [Header.size] at hr
    simp only [List.length_append]
    omega
  have hget : ¬ (c.revokeOpsCancelTimeout.received bytes).recv.bound.buffer.getLength.toNat <
      Header.size := by
    rw [hrecv, Buffer.getLength_toNat hlen, List.length_append]
    omega
  rw [readHandler_eq hready hget]
  have hd := drains env (r ++ bytes) ((c.revokeOpsCancelTimeout.received bytes).chainFuel + 1) _
    hready (by rw [hrecv]) hlen (by rw [chainFuel, hrecv]; simp only; omega)
  rwa [hrecv] at hd

lemma readMsgHandler_follows {hd r bytes : Bytes} {n : ℕ} (hw : c.net.connStat = .kWorking)
    (hu : c.wasCancelled = false) (hi : c.recv.reads = []) (hdata : c.recv.bound.buffer.data = r)
    (hhead : c.recv.bound.header = Header.unwire hd) (hl : hd.length = Header.size)
    (hb : (framing env).bodyLen hd = some n) (hr : r.length < n)
    (hn : n + kFixedIoBufferSize.toNat ≤ 2 ^ 32)
    (hmax : bytes.length ≤ kFixedIoBufferSize.toNat) :
    ∃ d, c.readMsgHandler env bytes = some d ∧
      Follows env c.recv.dispatched (hd ++ r ++ bytes) d := by
  obtain ⟨hready, hrecv⟩ := received_ready hw hu hi bytes
  rw [hdata] at hrecv
  have hlen : (r ++ bytes).length < 2 ^ 32 := by
    rw [List.length_append]
    omega
  have hfuel : (c.revokeOpsCancelTimeout.received bytes).chainFuel =
      2 * ((r ++ bytes).length / Header.size) + 1 + 1 := by
    rw [chainFuel, hrecv]
    ring
  have hlen' := unwire_length_of_bodyLen hl hb
  have hdata' : (c.revokeOpsCancelTimeout.received bytes).recv.bound.buffer.data = r ++ bytes := by
    rw [hrecv]
  have hhead' : (c.revokeOpsCancelTimeout.received bytes).recv.bound.header =
      Header.unwire hd := by rw [hrecv]; exact hhead
  have hdisp : (c.revokeOpsCancelTimeout.received bytes).recv.dispatched = c.recv.dispatched := by
    rw [hrecv]
  rw [List.append_assoc, ← hdisp]
  by_cases hshort : (r ++ bytes).length < n
  · rw [readMsgHandler_short (by rw [hdata', hhead', hlen']; exact hshort), hfuel]
    exact doReadMsg_cut hready hl hb hshort hhead' hdata'
  · have hf : (framing env).Accepts ⟨hd, (r ++ bytes).take n⟩ := by
      refine ⟨hl, ?_⟩
      rw [hb, List.length_take]
      congr 1
      omega
    have hsplit : (r ++ bytes).take n ++ (r ++ bytes).drop n = r ++ bytes :=
      List.take_append_drop n _
    rw [readMsgHandler_full hready (by
      rw [UInt32.lt_iff_toNat_lt, hhead', hlen', Buffer.getLength_toNat (hdata' ▸ hlen), hdata']
      exact hshort)]
    have hgoal := @doReadMsg_frame env _ ((r ++ bytes).drop n)
      (c.revokeOpsCancelTimeout.received bytes).chainFuel _ hf (drains env _) hready hhead'
      (by rw [hdata']; exact hsplit.symm) (by rw [hsplit]; exact hlen) (by
        have hle : ((r ++ bytes).drop n).length / Header.size ≤
            (r ++ bytes).length / Header.size := Nat.div_le_div_right (by simp)
        rw [hfuel]
        omega)
    rwa [Frame.elems, List.append_assoc, hsplit] at hgoal

end Completions

section Runs

variable {env : ServerEnv} {c d : TcpConnAsync}

def Event.delivers : Event → Bytes
  | .readDone _ bytes => bytes
  | _ => []

/-- No operation fails and no timeout fires before the connection is closed. -/
def Quiet (c : TcpConnAsync) : Event → Prop
  | .readFail _ _ => c.net.connStat = .kClosed
  | .writeFail _ _ => c.net.connStat = .kClosed
  | .timerHandler i =>
    c.net.connStat = .kClosed ∨ ∀ h ∈ c.opsCancelTimer.queued[i]?, h.code = .aborted
  | _ => True

def held (c : TcpConnAsync) : Bytes :=
  if c.recv.reads.any (·.kind = .body) then c.recv.bound.header.wire ++ c.recv.bound.buffer.data
  else c.recv.bound.buffer.data

/-- The body the stream is in the middle of fits the buffer with a whole read more. -/
def Bounded (env : ServerEnv) (s : Bytes) : Prop :=
  ∀ hd r n, (framing env).ending s = .body hd r → (framing env).bodyLen hd = some n →
    n + kFixedIoBufferSize.toNat ≤ 2 ^ 32

lemma framing_eq {M : ℕ} (h0 : 0 < M) (hM : env.recvMaxMsgSize.toInt = M) :
    framing env = wireFraming (some M) := by
  have hnat : env.recvMaxMsgSize.toUInt32.toNat = M := by
    rw [Int32.toNat_toUInt32_of_le (by rw [Int32.le_iff_toInt_le, hM]; simp)]
    simp [Int32.toNatClampNeg, hM]
  have hne : env.recvMaxMsgSize.toUInt32 ≠ 0 := by
    intro h
    rw [h] at hnat
    simp at hnat
    omega
  rw [framing, limitOf, if_neg hne, hnat]

lemma bounded_of_limit {M : ℕ} (hF : framing env = wireFraming (some M)) (hM : M < 2 ^ 31)
    (s : Bytes) : Bounded env s := by
  intro hd r n _ hb
  have hlim := (wireFraming_bodyLen_eq (hF ▸ hb)).2
  have hnM : n ≤ M := by simpa using hlim
  have h2048 : kFixedIoBufferSize.toNat = 2048 := rfl
  omega

lemma Follows.resume {before : List Bytes} {s r t : Bytes}
    (hr : ((framing env).ending s).pending = some r)
    (h : Follows env (before ++ (framing env).bodies s) (r ++ t) d) :
    Follows env before (s ++ t) d := by
  have he := Framing.ending_append (t := t) hr
  constructor
  · rw [h.dispatched, Framing.bodies_append hr, List.append_assoc]
  · rw [he]
    exact h.awaits
  · rw [he]
    exact h.closed
  · rw [he]
    exact h.working

/-- A connection that has not met a malformed head has one read outstanding, and every
completion of that read follows the longer stream. -/
lemma Follows.reads {s : Bytes} (hB : Bounded env s) (h : Follows env [] s c)
    (hm : (framing env).ending s ≠ .malformed) :
    ∃ op, c.recv.reads = [op] ∧ 0 < op.atLeast ∧
      op.atLeast ≤ (framing env).need ((framing env).ending s) ∧
      ((framing env).ending s).pending = some c.held ∧
      ∀ bytes : Bytes, op.atLeast ≤ bytes.length → bytes.length ≤ kFixedIoBufferSize.toNat →
        ∃ d, step env c (.readDone 0 bytes) = some d ∧ Follows env [] (s ++ bytes) d := by
  obtain ⟨hw, hu⟩ := h.working hm
  have hdisp := h.dispatched
  have haw := h.awaits
  rcases Framing.ending_cases (F := framing env) s with ⟨r, he, hr⟩ | ⟨hd, r, n, he, hl, hb, hr⟩ | he
  · have hpend : ((framing env).ending s).pending = some r := by rw [he]; rfl
    rw [he] at haw
    obtain ⟨hdata, id, hreads⟩ := haw
    refine ⟨_, hreads, ?_, ?_, ?_, fun bytes hmin hmax => ?_⟩
    · simp only [framing_headLen] at hr
      exact Nat.sub_pos_of_lt hr
    · rw [he]
      exact le_refl _
    · simp [held, hreads, hdata, hpend]
    · obtain ⟨d, hd, hf⟩ := @readHandler_follows env (c.dropRead 0) r bytes hw hu
        (by simp [dropRead, hreads]) hdata hr hmin hmax
      refine ⟨d, ?_, ?_⟩
      · simp only [step, hreads, List.getElem?_cons_zero, Option.bind_some, hmin, hmax, and_self,
          ↓reduceIte]
        exact hd
      · exact Follows.resume hpend (by rw [← hdisp]; exact hf)
  · have hpend : ((framing env).ending s).pending = some (hd ++ r) := by rw [he]; rfl
    have hn := unwire_length_of_bodyLen hl hb
    have hnB := hB hd r n he hb
    rw [he] at haw
    obtain ⟨hdata, hhead, id, hreads⟩ := haw
    refine ⟨_, hreads, ?_, ?_, ?_, fun bytes hmin hmax => ?_⟩
    · have h2048 : kFixedIoBufferSize.toNat = 2048 := rfl
      simp only [hn]
      omega
    · rw [he]
      simp only [Framing.need, hb, hn, Option.getD_some]
      exact min_le_left _ _
    · simp [held, hreads, hdata, hhead, hpend, Header.wire_unwire hl]
    · obtain ⟨d, hd, hf⟩ := @readMsgHandler_follows env (c.dropRead 0) hd r bytes n hw hu
        (by simp [dropRead, hreads]) hdata hhead hl hb hr hnB hmax
      refine ⟨d, ?_, ?_⟩
      · simp only [step, hreads, List.getElem?_cons_zero, Option.bind_some, hmin, hmax, and_self,
          ↓reduceIte]
        exact hd
      · exact Follows.resume hpend (by rw [← hdisp]; exact hf)
  · exact absurd he hm

lemma Follows.readDone {s bytes : Bytes} {i : ℕ} (hB : Bounded env s) (h : Follows env [] s c)
    (hs : step env c (.readDone i bytes) = some d) : Follows env [] (s ++ bytes) d := by
  by_cases hm : (framing env).ending s = .malformed
  · have haw := h.awaits
    rw [hm] at haw
    simp [step, show c.recv.reads = [] from haw] at hs
  · obtain ⟨op, hreads, -, -, -, hnext⟩ := h.reads hB hm
    cases i with
    | succ i => simp [step, hreads] at hs
    | zero =>
      have hbounds : op.atLeast ≤ bytes.length ∧ bytes.length ≤ kFixedIoBufferSize.toNat := by
        by_contra hn
        simp [step, hreads, hn] at hs
      obtain ⟨e, he, hf⟩ := hnext bytes hbounds.1 hbounds.2
      rw [hs] at he
      obtain rfl := Option.some.inj he
      exact hf

lemma handleSocketEc_recv (c : TcpConnAsync) (ec : ErrorCode) :
    (c.handleSocketEc ec).recv = c.recv ∧
      (c.net.connStat = .kClosed → (c.handleSocketEc ec).net.connStat = .kClosed) := by
  have hv := recvView_eq_iff.mp (revokeOpsCancelTimeout_recvView c)
  unfold handleSocketEc
  split_ifs
  · exact ⟨hv.2.2, fun _ => NetConn.sockShutdownAndClose_connStat _⟩
  · exact ⟨rfl, id⟩

lemma readFailed_recv (c : TcpConnAsync) (ec : ErrorCode) : (c.readFailed ec).recv = c.recv :=
  (handleSocketEc_recv _ ec).1.trans
    (recvView_eq_iff.mp (revokeOpsCancelTimeout_recvView c)).2.2

lemma step_recv {e : Event} (hd : ∀ i bytes, e ≠ .readDone i bytes)
    (hf : c.recv.reads = [] ∨ ∀ i ec, e ≠ .readFail i ec) (hs : step env c e = some d) :
    d.recv = c.recv ∧ (c.net.connStat = .kClosed → d.net.connStat = .kClosed) ∧
      (c.net.connStat ≠ .kClosed → c.Quiet e → d.recvView = c.recvView) := by
  have hview : d.recvView = c.recvView → d.recv = c.recv ∧
      (c.net.connStat = .kClosed → d.net.connStat = .kClosed) ∧
      (c.net.connStat ≠ .kClosed → c.Quiet e → d.recvView = c.recvView) := by
    intro h
    obtain ⟨hn, -, hr⟩ := recvView_eq_iff.mp h
    exact ⟨hr, fun hc => hn ▸ hc, fun _ _ => h⟩
  cases e with
  | readDone i bytes => exact absurd rfl (hd i bytes)
  | readFail i ec =>
    rcases hf with hf | hf
    · simp [step, hf] at hs
    · exact absurd rfl (hf i ec)
  | wrote i n =>
    obtain ⟨op, -, -, rfl⟩ := step_wrote hs
    exact hview rfl
  | writeDone i =>
    obtain ⟨op, -, -, rfl⟩ := step_writeDone hs
    exact hview (by
      rw [writeHandler, doWrite_recvView, writeCompleted_recvView]
      rfl)
  | writeFail i ec =>
    obtain ⟨op, -, -, rfl⟩ := step_writeFail hs
    have hv := recvView_eq_iff.mp (revokeOpsCancelTimeout_recvView (c.dropWrite i))
    have hec := handleSocketEc_recv (c.dropWrite i).revokeOpsCancelTimeout ec
    refine ⟨readFailed_recv (c.dropWrite i) ec, fun hc => hec.2 (by rw [hv.1]; exact hc),
      fun hn hq => ?_⟩
    exact absurd hq hn
  | send msg =>
    obtain rfl := Option.some.inj hs
    exact hview (asyncSendMessage_recvView env c msg)
  | timerExpire =>
    simp only [step] at hs
    split_ifs at hs
    obtain rfl := Option.some.inj hs
    exact hview rfl
  | timerHandler i =>
    obtain ⟨⟨⟨w, code⟩, u⟩, hh, rfl⟩ := Option.map_eq_some_iff.mp hs
    cases code with
    | aborted => exact hview rfl
    | success =>
      refine ⟨rfl, fun _ => ?_, fun hn hq => ?_⟩
      · exact NetConn.sockShutdownAndClose_connStat _
      · obtain ⟨w', hw, hwe⟩ := Option.map_eq_some_iff.mp hh
        obtain ⟨rfl, -⟩ := Prod.mk.inj hwe
        rcases hq with hq | hq
        · exact absurd hq hn
        · exact absurd (hq _ hw) (by simp)

lemma Follows.step {before : List Bytes} {s : Bytes} {e : Event} (h : Follows env before s c)
    (hd : ∀ i bytes, e ≠ .readDone i bytes) (hq : c.Quiet e)
    (hs : TcpConnAsync.step env c e = some d) : Follows env before s d := by
  have haw := h.awaits
  by_cases hm : (framing env).ending s = .malformed
  · rw [hm] at haw
    obtain ⟨hr, hc, -⟩ := step_recv hd (Or.inl haw) hs
    constructor
    · rw [hr, h.dispatched]
    · rw [hm]
      show d.recv.reads = []
      rw [hr]
      exact haw
    · exact fun _ => hc (h.closed hm)
    · exact fun hn => absurd hm hn
  · obtain ⟨hw, hu⟩ := h.working hm
    have hnc : c.net.connStat ≠ .kClosed := by simp [hw]
    have hf : ∀ i ec, e ≠ .readFail i ec := by
      rintro i ec rfl
      exact hnc hq
    obtain ⟨-, -, hv⟩ := step_recv hd (Or.inr hf) hs
    obtain ⟨hn, hcan, hr⟩ := recvView_eq_iff.mp (hv hnc hq)
    constructor
    · rw [hr, h.dispatched]
    · cases he : (framing env).ending s with
      | malformed => exact absurd he hm
      | head r => simpa only [he, Awaits, hr] using haw
      | body hd r => simpa only [he, Awaits, hr] using haw
    · exact fun h => absurd h hm
    · exact fun _ => ⟨hn ▸ hw, hcan ▸ hu⟩

lemma started_follows (env : ServerEnv) : Follows env [] [] (started env) := by
  let c : TcpConnAsync := { fresh with net := fresh.net.setConnStat .kWorking }
  have hready : c.Ready := ⟨rfl, rfl, rfl⟩
  have hfuel : 1 ≤ c.chainFuel := by
    rw [chainFuel, Header.size]
    omega
  obtain ⟨d, hd, hf⟩ := drains env [] c.chainFuel c hready rfl (by simp) hfuel
  have hs : started env = d := by
    rw [started, start, hd]
    rfl
  exact hs ▸ hf

/-- In a run without failures the connection follows the stream delivered to it. -/
theorem run_follows {M : ℕ} (hF : framing env = wireFraming (some M)) (hM : M < 2 ^ 31)
    {es : List Event} (hrun : (machine env).run es = some c)
    (hq : ∀ s e t, (machine env).Takes es s e t → s.Quiet e) :
    Follows env [] (es.flatMap Event.delivers) c := by
  refine Machine.run_induction (M := machine env) (C := Quiet)
    (P := fun es c => Follows env [] (es.flatMap Event.delivers) c)
    (started_follows env) (fun es s e t _ ih hq hs => ?_) hrun hq
  rw [List.flatMap_append]
  by_cases hd : ∃ i bytes, e = .readDone i bytes
  · obtain ⟨i, bytes, rfl⟩ := hd
    simpa [Event.delivers] using ih.readDone (bounded_of_limit hF hM _) hs
  · have hd' : ∀ i bytes, e ≠ .readDone i bytes := fun i bytes h => hd ⟨i, bytes, h⟩
    have hnil : e.delivers = [] := by
      cases e with
      | readDone i bytes => exact absurd rfl (hd' i bytes)
      | _ => rfl
    simpa [hnil] using ih.step hd' hq hs

/-- Whatever pieces the reads deliver a stream in, the dispatched payloads are the bodies of
its parse. Behind the last frame the connection keeps what it has and can go on reading; a
malformed head closes it for good. -/
theorem dispatched_eq_bodies {M : ℕ} (hM : 32 < M) (hlim : env.recvMaxMsgSize.toInt = M)
    {es : List Event} (hrun : (machine env).run es = some c)
    (hq : ∀ s e t, (machine env).Takes es s e t → s.Quiet e) {r : Bytes}
    (hrest : ∀ op ∈ c.recv.reads, r.length < op.atLeast) :
    let s := es.flatMap Event.delivers ++ r
    c.recv.dispatched = (wireFraming (some M)).bodies s ∧
      ((wireFraming (some M)).ending s = .malformed →
        c.net.connStat = .kClosed ∧ c.recv.reads = []) ∧
      ((wireFraming (some M)).ending s ≠ .malformed →
        c.net.connStat = .kWorking ∧
          ((wireFraming (some M)).ending s).pending = some (c.held ++ r) ∧
          ∃ op, c.recv.reads = [op] ∧
            ∀ bytes : Bytes, op.atLeast ≤ bytes.length → bytes.length ≤ kFixedIoBufferSize.toNat →
              ((machine env).next c (.readDone 0 bytes)).isSome) := by
  have hF := framing_eq (by omega) hlim
  have hM31 : M < 2 ^ 31 := by
    have hlt := env.recvMaxMsgSize.toInt_lt
    omega
  have h := run_follows hF hM31 hrun hq
  rw [← hF]
  intro s
  by_cases hm : (framing env).ending (es.flatMap Event.delivers) = .malformed
  · have hparse := Framing.ending_malformed_append (t := r) hm
    have he : (framing env).ending s = .malformed := by
      rw [Framing.ending, hparse]
      exact hm
    have haw := h.awaits
    rw [hm] at haw
    refine ⟨?_, fun _ => ⟨h.closed hm, haw⟩, fun hn => absurd he hn⟩
    rw [h.dispatched, List.nil_append, Framing.bodies, Framing.bodies, hparse]
  · obtain ⟨op, hreads, -, hneed, hpend, hnext⟩ := h.reads (bounded_of_limit hF hM31 _) hm
    have hlt := hrest op (by rw [hreads]; exact List.mem_singleton_self op)
    obtain ⟨hp1, hp2, hp3⟩ := Framing.parse_append_of_lt_need _ (lt_of_lt_of_le hlt hneed)
    refine ⟨?_, fun he => absurd he hp3, fun _ => ⟨(h.working hm).1, ?_, op, hreads, ?_⟩⟩
    · rw [h.dispatched, List.nil_append, Framing.bodies, Framing.bodies, hp1]
    · rw [hp2, hpend]
      rfl
    · intro bytes hmin hmax
      obtain ⟨d, hd, -⟩ := hnext bytes hmin hmax
      exact Option.isSome_iff_exists.mpr ⟨d, hd⟩

end Runs

def sampleEnv : ServerEnv := ⟨64, 0, 0, fun _ => none⟩

/-- Two frames and part of a third, cut inside the first body and inside two heads. -/
def framingSample : List Event :=
  [.readDone 0 (0x74 :: 0x6b :: 0 :: 1 :: 0 :: 0 :: 0 :: 2 :: List.replicate 8 0 ++ [7]),
    .readDone 0 [8, 0x74, 0x6b],
    .readDone 0 (0 :: 1 :: List.replicate 12 0 ++ [0x74, 0x6b])]

theorem framingSample_dispatched :
    ∃ c, (machine sampleEnv).run framingSample = some c ∧ c.recv.dispatched = [[7, 8], []] ∧
      c.recv.dispatched =
        (wireFraming (some 64)).bodies (framingSample.flatMap Event.delivers ++ [0]) := by
  have hrun : ((machine sampleEnv).run framingSample).any (fun c =>
      decide (c.recv.dispatched = [[7, 8], []] ∧ ∀ op ∈ c.recv.reads, 1 < op.atLeast)) := by
    decide +kernel
  obtain ⟨c, hc, hd⟩ := (Option.any_eq_true _ _).mp hrun
  obtain ⟨hd, hreads⟩ := of_decide_eq_true hd
  refine ⟨c, hc, hd, (dispatched_eq_bodies (M := 64) (by decide) rfl hc (fun s e t h => ?_)
    (r := [0]) hreads).1⟩
  have he : ∀ e ∈ framingSample, ∃ i bytes, e = .readDone i bytes := by
    simp [framingSample]
  obtain ⟨i, bytes, rfl⟩ := he e h.mem
  trivial

end Tzrpc.TcpConnAsync
