import Tzrpc.ClientConnAsync
import Tzrpc.Machine

/-!
# The two receive paths of the client

A caller of the synchronous connection repeats `do_read`; the asynchronous one restarts its
read chain itself. Over the same completed reads the second does what the first does, call
by call, and what either gives out is the parse of the bytes it was given.
-/
namespace Tzrpc.Client

open TcpConnSync TcpConnAsync

/-- `do_read` called again for as long as it returns a message: the messages, and where it
then stands. -/
inductive Calls (setting : ClientSetting) :
    Outcome × TcpConnSync → List Message → Outcome × TcpConnSync → Prop
  | halt {r} (h : ∀ msg, r.1 ≠ .received msg) : Calls setting r [] r
  | again {msg c ms r} (rest : Calls setting (c.doRead setting) ms r) :
      Calls setting (.received msg, c) (msg :: ms) r

/-- The calls over a list of error-free reads, each of at least the requested minimum and no
more than the block holds. -/
inductive Session (setting : ClientSetting) :
    Outcome × TcpConnSync → List Bytes → List Message → Outcome × TcpConnSync → Prop
  | nil (r) : Session setting r [] [] r
  | read {kind n c bytes chunks ms ms' r r'}
      (fits : n ≤ bytes.length ∧ bytes.length ≤ kFixedIoBufferSize.toNat)
      (calls : Calls setting (c.readDone setting kind bytes) ms r)
      (rest : Session setting r chunks ms' r') :
      Session setting (.blocked (.read kind n), c) (bytes :: chunks) (ms ++ ms') r'

def receiver (setting : ClientSetting) : Machine TcpConnAsync Event :=
  ⟨started setting, TcpConnAsync.step setting⟩

def readsOf (chunks : List Bytes) : List Event := chunks.map fun bytes => .readDone 0 bytes

def Outcome.Starves (t : Bytes) : Outcome → Prop
  | .blocked (.read _ n) => t.length < n
  | _ => True

def TcpConnAsync.Starves (t : Bytes) (d : TcpConnAsync) : Prop :=
  ∀ op ∈ d.recv.reads, t.length < op.atLeast

structure Agrees (d : TcpConnAsync) (c : TcpConnSync) : Prop where
  net : d.net = c.net
  bound : d.recv.bound = c.recvBound

def Stands (d : TcpConnAsync) (r : Outcome × TcpConnSync) : Prop :=
  Agrees d r.2 ∧
    match r.1 with
    | .blocked (.read kind n) =>
      d.net.connStat = .kWorking ∧ ∃ id, d.recv.reads = [⟨id, kind, n⟩]
    | .failed => d.recv.reads = []
    | _ => False

/-- The chain from `c` and the calls from `r₀` give out the same messages and end alike. -/
def Matches (setting : ClientSetting) (c : TcpConnAsync) (res : Option TcpConnAsync)
    (r₀ : Outcome × TcpConnSync) : Prop :=
  ∃ d ms r, res = some d ∧ Calls setting r₀ ms r ∧
    d.recv.delivered = c.recv.delivered ++ ms ∧ Stands d r

section Simulation

variable {setting : ClientSetting} {c : TcpConnAsync} {s : TcpConnSync}

lemma matches_failed {d : TcpConnAsync} (h : Agrees d s) (hreads : d.recv.reads = [])
    (hdel : d.recv.delivered = c.recv.delivered) :
    Matches setting c (some d) (.failed, s) :=
  ⟨d, [], _, rfl, .halt (by simp), by simp [hdel], h, hreads⟩

lemma matches_blocked (h : Agrees c s) (hreads : c.recv.reads = [])
    (hopen : s.net.connStat = .kWorking) (kind : ReadKind) (n : ℕ) :
    Matches setting c (some (c.asyncRead kind n)) (.blocked (.read kind n), s) :=
  ⟨_, [], _, rfl, .halt (by simp), by simp [asyncRead], ⟨h.net, h.bound⟩, h.net ▸ hopen, c.ops, by
    simp [asyncRead, hreads]⟩

lemma Matches.deliver {msg : Message} {res : Option TcpConnAsync}
    (h : Matches setting (c.deliver msg) res (s.doRead setting)) :
    Matches setting c res (.received msg, s) := by
  obtain ⟨d, ms, r, hd, hcalls, hdel, hst⟩ := h
  refine ⟨d, msg :: ms, r, hd, .again hcalls, ?_, hst⟩
  rw [hdel]
  simp [TcpConnAsync.deliver]

lemma Agrees.close (h : Agrees c s) :
    Agrees c.shutdownAndCloseSocket s.shutdownAndCloseSocket :=
  ⟨congrArg NetConn.sockShutdownAndClose h.net, h.bound⟩

lemma Agrees.parseHeader (h : Agrees c s) (setting : ClientSetting) :
    (c.parseHeader setting).1 = (s.recvBound.parseHeader setting.recvMaxMsgSize).1 ∧
      Agrees (c.parseHeader setting).2
        { s with recvBound := (s.recvBound.parseHeader setting.recvMaxMsgSize).2 } := by
  rw [← h.bound]
  exact ⟨rfl, h.net, rfl⟩

lemma Agrees.parseMsgBody (h : Agrees c s) (msg : Message) :
    (c.parseMsgBody msg).1 = (s.recvBound.parseMsgBody msg).1 ∧
      (c.parseMsgBody msg).2.1 = (s.recvBound.parseMsgBody msg).2.1 ∧
      Agrees (c.parseMsgBody msg).2.2
        { s with recvBound := (s.recvBound.parseMsgBody msg).2.2 } := by
  rw [← h.bound]
  exact ⟨rfl, rfl, h.net, rfl⟩

lemma readLoop_matches (h : Agrees c s) (hreads : c.recv.reads = [])
    (hs : ¬ c.recv.bound.buffer.getLength.toNat < Header.size) {next again : Option TcpConnAsync}
    (hnext : ∀ s', Agrees (c.parseHeader setting).2 s' → Matches setting c next s'.doReadMsg) :
    Matches setting c
      (if (c.parseHeader setting).1 = 0 then next
        else if 0 < (c.parseHeader setting).1 then again
        else some (c.parseHeader setting).2.shutdownAndCloseSocket)
      (s.readLoop setting) := by
  obtain ⟨hres, hag⟩ := h.parseHeader setting
  have hle : (c.parseHeader setting).1 ≤ 0 :=
    (IOBound.parseHeader_cut setting.recvMaxMsgSize hs).1
  rw [h.bound] at hs
  rw [readLoop, if_neg hs]
  dsimp only
  rw [← hres]
  by_cases h0 : (c.parseHeader setting).1 = 0
  · rw [if_pos h0, if_pos h0]
    exact hnext _ hag
  · rw [if_neg h0, if_neg h0, if_neg (not_lt.mpr hle)]
    exact matches_failed hag.close hreads rfl

lemma readMsgLoop_matches (h : Agrees c s)
    (hs : ¬ c.recv.bound.buffer.getLength < c.recv.bound.header.length)
    {next again : Option TcpConnAsync}
    (hnext : ∀ s', Agrees (c.parseMsgBody ⟨Header.zero, []⟩).2.2 s' →
      Matches setting (c.deliver (c.parseMsgBody ⟨Header.zero, []⟩).2.1) next
        (s'.doRead setting)) :
    Matches setting c
      (if (c.parseMsgBody ⟨Header.zero, []⟩).1 = 0 then next
        else if 0 < (c.parseMsgBody ⟨Header.zero, []⟩).1 then again
        else some (c.parseMsgBody ⟨Header.zero, []⟩).2.2.shutdownAndCloseSocket)
      s.readMsgLoop := by
  obtain ⟨hres, hmsg, hag⟩ := h.parseMsgBody ⟨Header.zero, []⟩
  have h0 : (c.parseMsgBody ⟨Header.zero, []⟩).1 = 0 := by
    have hcut := (c.recv.bound.parseMsgBody_cut ⟨Header.zero, []⟩).1
    rwa [if_neg hs] at hcut
  rw [h.bound] at hs
  rw [readMsgLoop, if_neg hs]
  dsimp only
  rw [← hres, ← hmsg, if_pos h0, if_pos h0]
  exact (hnext _ hag).deliver

theorem chain_matches (fuel : ℕ) (c : TcpConnAsync) (s : TcpConnSync) (h : Agrees c s)
    (hreads : c.recv.reads = []) :
    (2 * (c.recv.bound.buffer.data.length / Header.size) + 1 ≤ fuel →
      Matches setting c (TcpConnAsync.doRead setting fuel c) (s.doRead setting)) ∧
    (2 * (c.recv.bound.buffer.data.length / Header.size) + 2 ≤ fuel →
      Matches setting c (TcpConnAsync.doReadMsg setting fuel c) s.doReadMsg) := by
  induction fuel generalizing c s with
  | zero => exact ⟨by omega, by omega⟩
  | succ fuel ih =>
    constructor
    · intro hfuel
      rw [TcpConnAsync.doRead, TcpConnSync.doRead, h.net]
      by_cases hw : s.net.connStat ≠ .kWorking
      · rw [if_pos hw, if_pos hw]
        exact matches_failed h hreads rfl
      · rw [if_neg hw, if_neg hw]
        by_cases hs : c.recv.bound.buffer.getLength.toNat < Header.size
        · rw [if_pos hs, readLoop, ← h.bound, if_pos hs]
          exact matches_blocked h hreads (not_not.mp hw) _ _
        · rw [if_neg hs]
          refine readLoop_matches h hreads hs fun s' hag => ?_
          have hdiv := parseHeader_length_div setting hs
          exact (ih _ s' hag hreads).2 (by omega)
    · intro hfuel
      rw [TcpConnAsync.doReadMsg, TcpConnSync.doReadMsg, h.net]
      by_cases hw : s.net.connStat ≠ .kWorking
      · rw [if_pos hw, if_pos hw]
        exact matches_failed h hreads rfl
      · rw [if_neg hw, if_neg hw]
        by_cases hs : c.recv.bound.buffer.getLength < c.recv.bound.header.length
        · rw [if_pos hs, readMsgLoop, ← h.bound, if_pos hs]
          exact matches_blocked h hreads (not_not.mp hw) _ _
        · rw [if_neg hs]
          refine readMsgLoop_matches h hs fun s' hag => ?_
          have hdiv := parseMsgBody_length_div c
          exact (ih (TcpConnAsync.deliver (c.parseMsgBody ⟨Header.zero, []⟩).2.2 _) s'
            ⟨hag.net, hag.bound⟩ hreads).1 (by
              change 2 * ((c.parseMsgBody ⟨Header.zero, []⟩).2.2.recv.bound.buffer.data.length /
                Header.size) + 1 ≤ fuel
              omega)

lemma Agrees.received (h : Agrees c s) (bytes : Bytes) :
    Agrees (c.received bytes) { s with
      recvBound := { s.recvBound with buffer := s.recvBound.buffer.appendInternal bytes } } := by
  rw [← h.bound]
  exact ⟨h.net, rfl⟩

lemma readHandler_matches (h : Agrees c s) (hreads : c.recv.reads = [])
    (hopen : c.net.connStat = .kWorking) (bytes : Bytes) :
    Matches setting c (c.readHandler setting bytes) (s.readDone setting .head bytes) := by
  have hag := h.received bytes
  unfold readHandler readDone
  dsimp only
  by_cases hs : (c.received bytes).recv.bound.buffer.getLength.toNat < Header.size
  · have hchain := (@chain_matches setting (c.received bytes).chainFuel _ _ hag hreads).1 (by
      unfold chainFuel
      omega)
    rw [TcpConnSync.doRead, if_neg (by rw [← hag.net]; exact not_not.mpr hopen)] at hchain
    rw [if_pos hs]
    exact hchain
  · rw [if_neg hs]
    refine readLoop_matches (c := c.received bytes) hag hreads hs fun s' hag' => ?_
    have hdiv := parseHeader_length_div setting hs
    exact (chain_matches _ _ s' hag' hreads).2 (by unfold chainFuel; omega)

lemma parseMsgBody_short (hs : c.recv.bound.buffer.getLength < c.recv.bound.header.length) :
    c.parseMsgBody ⟨Header.zero, []⟩ = (1, ⟨Header.zero, []⟩, c) := by
  rw [parseMsgBody, IOBound.parseMsgBody, if_pos hs]

lemma readMsgHandler_matches (h : Agrees c s) (hreads : c.recv.reads = [])
    (hopen : c.net.connStat = .kWorking) (bytes : Bytes) :
    Matches setting c (c.readMsgHandler setting bytes) (s.readDone setting .body bytes) := by
  have hag := h.received bytes
  have hdiv := parseMsgBody_length_div (c.received bytes)
  unfold readMsgHandler readDone
  dsimp only
  by_cases hs : (c.received bytes).recv.bound.buffer.getLength <
      (c.received bytes).recv.bound.header.length
  · rw [parseMsgBody_short hs, if_neg one_ne_zero, if_pos one_pos]
    have hchain := (@chain_matches setting (c.received bytes).chainFuel _ _ hag hreads).2 (by
      unfold chainFuel
      omega)
    rw [TcpConnSync.doReadMsg, if_neg (by rw [← hag.net]; exact not_not.mpr hopen)] at hchain
    exact hchain
  · refine readMsgLoop_matches (c := c.received bytes) hag hs fun s' hag' => ?_
    refine (chain_matches _ (TcpConnAsync.deliver ((c.received bytes).parseMsgBody
      ⟨Header.zero, []⟩).2.2 _) s' ⟨hag'.net, hag'.bound⟩ hreads).1 ?_
    change 2 * (((c.received bytes).parseMsgBody
      ⟨Header.zero, []⟩).2.2.recv.bound.buffer.data.length / Header.size) + 1 ≤ _
    unfold chainFuel
    omega

theorem step_matches {d : TcpConnAsync} {kind : ReadKind} {n : ℕ} {bytes : Bytes}
    (hst : Stands c (.blocked (.read kind n), s))
    (h : c.step setting (.readDone 0 bytes) = some d) :
    (n ≤ bytes.length ∧ bytes.length ≤ kFixedIoBufferSize.toNat) ∧
      ∃ ms r, Calls setting (s.readDone setting kind bytes) ms r ∧
        d.recv.delivered = c.recv.delivered ++ ms ∧ Stands d r := by
  obtain ⟨hag, hopen, id, hreads⟩ := hst
  have hdrop : (c.dropRead 0).recv.reads = [] := by simp [dropRead, hreads]
  obtain ⟨op, hop, hd⟩ := Option.bind_eq_some_iff.mp h
  obtain rfl : (⟨id, kind, n⟩ : ReadOp) = op := by
    rw [hreads] at hop
    exact Option.some.inj hop
  split_ifs at hd with hfits
  refine ⟨hfits, ?_⟩
  have hm : Matches setting c (some d) (s.readDone setting kind bytes) := by
    cases kind with
    | head =>
      rw [← hd]
      exact readHandler_matches (c := c.dropRead 0) ⟨hag.net, hag.bound⟩ hdrop hopen bytes
    | body =>
      rw [← hd]
      exact readMsgHandler_matches (c := c.dropRead 0) ⟨hag.net, hag.bound⟩ hdrop hopen bytes
  obtain ⟨d', ms, r, hd', hcalls, hdel, hst⟩ := hm
  obtain rfl := Option.some.inj hd'
  exact ⟨ms, r, hcalls, hdel, hst⟩

theorem exec_session {chunks : List Bytes} {r₀ : Outcome × TcpConnSync} {d : TcpConnAsync}
    (hst : Stands c r₀) (h : (receiver setting).exec c (readsOf chunks) = some d) :
    ∃ ms r, Session setting r₀ chunks ms r ∧ d.recv.delivered = c.recv.delivered ++ ms ∧
      Stands d r := by
  induction chunks generalizing c r₀ with
  | nil =>
    obtain rfl := Option.some.inj h
    exact ⟨[], r₀, .nil r₀, by simp, hst⟩
  | cons bytes chunks ih =>
    obtain ⟨c', hc', hrest⟩ := Option.bind_eq_some_iff.mp h
    obtain ⟨outcome, s⟩ := r₀
    obtain ⟨op, hop, -⟩ := Option.bind_eq_some_iff.mp hc'
    cases outcome with
    | blocked sop =>
      cases sop with
      | write size sent => exact hst.2.elim
      | read kind n =>
        obtain ⟨hfits, ms, r, hcalls, hdel, hst'⟩ := step_matches hst hc'
        obtain ⟨ms', r', hsession, hdel', hst''⟩ := ih hst' hrest
        exact ⟨ms ++ ms', r', .read hfits hcalls hsession, by simp [hdel', hdel], hst''⟩
    | sent => exact hst.2.elim
    | received msg => exact hst.2.elim
    | failed =>
      have hnil : c.recv.reads = [] := hst.2
      simp [hnil] at hop

/-- Every run of the asynchronous receiver is a session of the synchronous calls over the
same reads. -/
theorem run_session {chunks : List Bytes} {d : TcpConnAsync}
    (h : (receiver setting).run (readsOf chunks) = some d) :
    ∃ ms r, Session setting (TcpConnSync.fresh.doRead setting) chunks ms r ∧
      d.recv.delivered = ms ∧ Stands d r := by
  have hst : Stands (started setting) (TcpConnSync.fresh.doRead setting) :=
    ⟨⟨rfl, rfl⟩, rfl, 0, rfl⟩
  obtain ⟨ms, r, hsession, hdel, hend⟩ := exec_session hst h
  exact ⟨ms, r, hsession, hdel, hend⟩

end Simulation

def messageOf (f : Frame UInt8) : Message := ⟨Header.unwire f.head, f.body⟩

/-- Where the calls stand when the stream so far ends like this. -/
def Holds (setting : ClientSetting) (e : Ending UInt8) (r : Outcome × TcpConnSync) : Prop :=
  match e.pending with
  | none => r.1 = .failed ∧ r.2.net.connStat = .kClosed
  | some p => ∃ kind n,
    r.1 = .blocked (.read kind n) ∧ Waits setting p r.2 kind n ∧ r.2.net.connStat = .kWorking

section Parse

variable {setting : ClientSetting} {c : TcpConnSync} {r : Outcome × TcpConnSync} {s : Bytes}

lemma TcpConnSync.Waits.parse {kind : ReadKind} {n : ℕ} (h : Waits setting s c kind n) :
    ((framing setting).parse s).1 = [] ∧ ((framing setting).ending s).pending = some s := by
  cases kind with
  | head =>
    have hp := Framing.parse_short (F := framing setting) h.1
    rw [Framing.ending, hp]
    exact ⟨rfl, rfl⟩
  | body =>
    obtain ⟨hd, t, m, rfl, hl, hb, hlt, -⟩ := h
    have hp := Framing.parse_cut (F := framing setting) hl hb hlt
    rw [Framing.ending, hp]
    exact ⟨rfl, rfl⟩

theorem Calls.parse {r₀ : Outcome × TcpConnSync} {ms : List Message} (h : Calls setting r₀ ms r)
    (hreads : Reads setting s c r₀) (hopen : c.net.connStat = .kWorking)
    (hlen : s.length < 2 ^ 32 + Header.size) :
    ms = ((framing setting).parse s).1.map messageOf ∧
      Holds setting ((framing setting).ending s) r := by
  induction h generalizing s c with
  | @halt r₀ hne =>
    obtain ⟨outcome, d⟩ := r₀
    cases outcome with
    | blocked op =>
      cases op with
      | write size sent => exact hreads.2.elim
      | read kind n =>
        obtain ⟨-, hwaits, hnet⟩ := hreads
        obtain ⟨hp, he⟩ := TcpConnSync.Waits.parse hwaits
        rw [hp, Holds, he]
        exact ⟨rfl, kind, n, rfl, hwaits, hnet ▸ hopen⟩
    | sent => exact hreads.2.elim
    | received msg => exact absurd rfl (hne msg)
    | failed =>
      obtain ⟨-, hclosed | ⟨hmal, hclosed⟩⟩ := hreads
      · exact absurd hopen hclosed
      · rw [Holds, Framing.ending, hmal]
        exact ⟨rfl, rfl, hclosed⟩
  | @again msg d ms r rest ih =>
    obtain ⟨-, f, t, hf, rfl, rfl, ht, hnet⟩ := hreads
    have hhead : f.head.length = Header.size := hf.1
    rw [Frame.elems, List.length_append, List.length_append] at hlen
    obtain ⟨rfl, hend⟩ := ih (ht ▸ doRead_reads (by rw [ht]; omega)) (hnet ▸ hopen) (by omega)
    rw [Framing.ending, Framing.parse_frame hf]
    exact ⟨rfl, hend⟩

lemma TcpConnSync.Waits.pos_and_le {kind : ReadKind} {n : ℕ} (h : Waits setting s c kind n) :
    0 < n ∧ n ≤ kFixedIoBufferSize.toNat := by
  have h2048 : kFixedIoBufferSize.toNat = 2048 := rfl
  cases kind with
  | head =>
    obtain ⟨hlt, -, rfl⟩ := h
    have hsize : Header.size = 16 := rfl
    omega
  | body =>
    obtain ⟨hd, t, m, -, -, -, hlt, -, -, rfl⟩ := h
    omega

lemma TcpConnSync.Waits.ending {p : Bytes} {kind : ReadKind} {n : ℕ}
    (h : Waits setting p c kind n) (hp : ((framing setting).ending s).pending = some p) :
    ((framing setting).ending s = .head p ∧ p.length < Header.size ∧
        c.recvBound.buffer.data = p ∧ n = Header.size - p.length) ∨
      ∃ hd t m, (framing setting).ending s = .body hd t ∧ (framing setting).bodyLen hd = some m ∧
        hd.length = Header.size ∧ p = hd ++ t ∧ t.length < m ∧
        c.recvBound.header = Header.unwire hd ∧ c.recvBound.buffer.data = t ∧
        n ≤ m - t.length := by
  have hsize : (framing setting).headLen = Header.size := rfl
  rcases Framing.ending_cases (F := framing setting) s with
    ⟨q, he, hq⟩ | ⟨hd, q, m, he, hl, hb, hq⟩ | he
  · rw [he] at hp
    obtain rfl : q = p := Option.some.inj hp
    cases kind with
    | head => exact Or.inl ⟨he, h.1, h.2.1, h.2.2⟩
    | body =>
      obtain ⟨hd, t, m, rfl, hl, -⟩ := h
      rw [List.length_append] at hq
      omega
  · rw [he] at hp
    obtain rfl : hd ++ q = p := Option.some.inj hp
    cases kind with
    | head =>
      have hlt := h.1
      rw [List.length_append] at hlt
      omega
    | body =>
      obtain ⟨hd', t, m', heq, hl', hb', -, hhead, hdata, rfl⟩ := h
      obtain ⟨rfl, rfl⟩ := List.append_inj heq (hl.trans (hsize.trans hl'.symm))
      rw [hb] at hb'
      obtain rfl := Option.some.inj hb'
      exact Or.inr ⟨hd, q, m, he, hb, hl', rfl, hq, hhead, hdata, min_le_left _ _⟩
  · simp [he, Ending.pending] at hp

def Bounded (setting : ClientSetting) (s : Bytes) : Prop :=
  ∀ hd t m, (framing setting).ending s = .body hd t → (framing setting).bodyLen hd = some m →
    m + kFixedIoBufferSize.toNat ≤ 2 ^ 32

lemma bounded_of_limit (hlim : setting.recvMaxMsgSize ≠ 0)
    (hmax : setting.recvMaxMsgSize.toNat < 2 ^ 31) (s : Bytes) : Bounded setting s := by
  intro hd t m _ hb
  have h2048 : kFixedIoBufferSize.toNat = 2048 := rfl
  have hm := (limitOf_all.mp (wireFraming_bodyLen_eq hb).2).resolve_left hlim
  omega

lemma TcpConnSync.Waits.room {p bytes : Bytes} {kind : ReadKind} {n : ℕ}
    (h : Waits setting p c kind n) (hp : ((framing setting).ending s).pending = some p)
    (hB : Bounded setting s) (hfits : bytes.length ≤ kFixedIoBufferSize.toNat) :
    (c.recvBound.buffer.data ++ bytes).length < 2 ^ 32 ∧
      (p ++ bytes).length < 2 ^ 32 + Header.size := by
  have h2048 : kFixedIoBufferSize.toNat = 2048 := rfl
  have hsize : Header.size = 16 := rfl
  rw [List.length_append, List.length_append]
  rcases h.ending hp with ⟨-, hlt, hdata, -⟩ | ⟨hd, t, m, he, hb, hl, rfl, ht, -, hdata, -⟩
  · rw [hdata]
    omega
  · have hm := hB hd t m he hb
    rw [hdata, List.length_append]
    omega

theorem Calls.parse_read {kind : ReadKind} {n : ℕ} {bytes : Bytes} {ms : List Message}
    (h : Calls setting (c.readDone setting kind bytes) ms r)
    (hfits : bytes.length ≤ kFixedIoBufferSize.toNat) (hB : Bounded setting s)
    (hholds : Holds setting ((framing setting).ending s) (.blocked (.read kind n), c)) :
    ((framing setting).parse (s ++ bytes)).1.map messageOf =
        ((framing setting).parse s).1.map messageOf ++ ms ∧
      Holds setting ((framing setting).ending (s ++ bytes)) r := by
  unfold Holds at hholds
  cases hp : ((framing setting).ending s).pending with
  | none => simp [hp] at hholds
  | some p =>
    rw [hp] at hholds
    obtain ⟨kind', n', hop, hwaits, hopen⟩ := hholds
    obtain ⟨rfl, rfl⟩ : kind = kind' ∧ n = n' := by simpa using hop
    have hroom := TcpConnSync.Waits.room hwaits hp hB hfits
    obtain ⟨rfl, hend⟩ := h.parse (readDone_reads hwaits hroom.1) hopen hroom.2
    have happ := (framing setting).parse_append s bytes
    rw [hp] at happ
    have hending : (framing setting).ending (s ++ bytes) = (framing setting).ending (p ++ bytes) :=
      Framing.ending_append hp
    exact ⟨by rw [happ, List.map_append], hending ▸ hend⟩

theorem Session.parse {r₀ : Outcome × TcpConnSync} {chunks : List Bytes} {ms : List Message}
    (h : Session setting r₀ chunks ms r) (hB : ∀ u, Bounded setting u)
    (hholds : Holds setting ((framing setting).ending s) r₀) :
    ((framing setting).parse (s ++ chunks.flatten)).1.map messageOf =
        ((framing setting).parse s).1.map messageOf ++ ms ∧
      Holds setting ((framing setting).ending (s ++ chunks.flatten)) r := by
  induction h generalizing s with
  | nil r => simpa using hholds
  | @read kind n c bytes chunks ms ms' r r' fits calls rest ih =>
    obtain ⟨hms, hend⟩ := calls.parse_read fits.2 (hB s) hholds
    obtain ⟨hms', hholds'⟩ := ih hend
    rw [List.flatten_cons, ← List.append_assoc]
    exact ⟨by rw [hms', hms, List.append_assoc], hholds'⟩

lemma TcpConnSync.Waits.le_need {p : Bytes} {kind : ReadKind} {n : ℕ}
    (h : Waits setting p c kind n) (hp : ((framing setting).ending s).pending = some p) :
    n ≤ (framing setting).need ((framing setting).ending s) := by
  rcases h.ending hp with ⟨he, -, -, rfl⟩ | ⟨hd, t, m, he, hb, -, -, -, -, -, hn⟩
  · rw [he]
    rfl
  · rwa [he, Framing.need, hb, Option.getD_some]

lemma Holds.closed_iff {e : Ending UInt8} (h : Holds setting e r) :
    r.2.net.connStat = .kClosed ↔ r.1 = .failed := by
  unfold Holds at h
  cases hp : e.pending with
  | none =>
    rw [hp] at h
    simp [h.1, h.2]
  | some p =>
    rw [hp] at h
    obtain ⟨kind, n, hop, -, hopen⟩ := h
    simp [hop, hopen]

theorem Holds.parse_append {t : Bytes} (h : Holds setting ((framing setting).ending s) r)
    (ht : r.1.Starves t) :
    ((framing setting).parse (s ++ t)).1 = ((framing setting).parse s).1 ∧
      ((framing setting).ending (s ++ t) = .malformed ↔ r.1 = .failed) := by
  unfold Holds at h
  cases hp : ((framing setting).ending s).pending with
  | none =>
    rw [hp] at h
    have hmal : (framing setting).ending s = .malformed := by
      cases he : (framing setting).ending s <;> simp [he, Ending.pending] at hp ⊢
    have happ := Framing.ending_malformed_append (t := t) hmal
    rw [Framing.ending, happ]
    exact ⟨rfl, fun _ => h.1, fun _ => hmal⟩
  | some p =>
    rw [hp] at h
    obtain ⟨kind, n, hop, hwaits, -⟩ := h
    rw [hop] at ht
    obtain ⟨hparse, -, hne⟩ := Framing.parse_append_of_lt_need s
      (lt_of_lt_of_le ht (TcpConnSync.Waits.le_need hwaits hp))
    exact ⟨hparse, fun he => absurd he hne, fun hf => by simp [hop] at hf⟩

lemma fresh_holds : Holds setting ((framing setting).ending []) (fresh.doRead setting) := by
  rw [Framing.ending, Framing.parse_nil]
  exact ⟨.head, Header.size, rfl, ⟨by decide, rfl, rfl⟩, rfl⟩

/-- What a caller of `do_read` gets from a stream: the messages of its frames, and a failed
call on a closed connection exactly where a header is malformed. -/
theorem session_parse {chunks : List Bytes} {t : Bytes} {ms : List Message}
    (h : Session setting (fresh.doRead setting) chunks ms r) (hlim : setting.recvMaxMsgSize ≠ 0)
    (hmax : setting.recvMaxMsgSize.toNat < 2 ^ 31) (ht : r.1.Starves t) :
    ms = ((framing setting).parse (chunks.flatten ++ t)).1.map messageOf ∧
      ((framing setting).ending (chunks.flatten ++ t) = .malformed ↔ r.1 = .failed) ∧
      (r.2.net.connStat = .kClosed ↔ r.1 = .failed) := by
  obtain ⟨hms, hholds⟩ := h.parse (bounded_of_limit hlim hmax) fresh_holds
  rw [Framing.parse_nil, List.nil_append] at hms
  rw [List.nil_append] at hholds
  obtain ⟨htail, hend⟩ := hholds.parse_append ht
  refine ⟨?_, hend, hholds.closed_iff⟩
  rw [htail, hms]
  rfl

end Parse

section Agreement

variable {setting : ClientSetting} {d : TcpConnAsync} {r : Outcome × TcpConnSync} {t : Bytes}

lemma limit_ne_zero {lim : UInt32} (h : 1 ≤ lim.toNat) : lim ≠ 0 := by
  rintro rfl
  exact absurd h (by decide)

lemma Stands.starves (h : Stands d r) (ht : d.Starves t) : r.1.Starves t := by
  obtain ⟨-, hend⟩ := h
  revert hend
  rcases r.1 with (_ | ⟨kind, n⟩) | _ | _ | _
  · exact fun hend => trivial
  · rintro ⟨-, id, hreads⟩
    exact ht ⟨id, kind, n⟩ (by simp [hreads])
  all_goals exact fun hend => trivial

/-- Over one stream, however it is split into error-free reads, both paths give out the same
messages, and one closes its connection over a header exactly when the other does: when the
stream has a malformed header. -/
theorem receive_paths_agree {chunks₁ chunks₂ : List Bytes} {t₁ t₂ : Bytes} {ms : List Message}
    (hmin : 1 ≤ setting.recvMaxMsgSize.toNat) (hmax : setting.recvMaxMsgSize.toNat ≤ 2 ^ 31 - 1)
    (hsync : Session setting (fresh.doRead setting) chunks₁ ms r)
    (hasync : (receiver setting).run (readsOf chunks₂) = some d)
    (hstream : chunks₁.flatten ++ t₁ = chunks₂.flatten ++ t₂)
    (ht₁ : r.1.Starves t₁) (ht₂ : d.Starves t₂) :
    ms = d.recv.delivered ∧
      (r.1 = .failed ∧ r.2.net.connStat = .kClosed ↔ d.net.connStat = .kClosed) ∧
      (d.net.connStat = .kClosed ↔
        (TcpConnSync.framing setting).ending (chunks₁.flatten ++ t₁) = .malformed) := by
  have hlim := limit_ne_zero hmin
  have hlt : setting.recvMaxMsgSize.toNat < 2 ^ 31 := by omega
  obtain ⟨ms', r', hsession, hdel, hst⟩ := run_session hasync
  obtain ⟨hms, hend, hclosed⟩ := session_parse hsync hlim hlt ht₁
  obtain ⟨hms', hend', hclosed'⟩ := session_parse hsession hlim hlt (hst.starves ht₂)
  rw [← hstream] at hms' hend'
  have hnet : d.net.connStat = .kClosed ↔ r'.1 = .failed := by rw [hst.1.net, hclosed']
  refine ⟨?_, ?_, ?_⟩
  · rw [hdel, hms, hms']
  · rw [hclosed, and_self, hnet, ← hend', ← hend]
  · rw [hnet, hend']

/-- Two messages and a malformed header behind them. -/
def splitSample : Bytes :=
  (Message.ofPayload [1, 2]).netStr ++ (Message.ofPayload [3]).netStr ++ List.replicate 17 0

theorem splitSample_agrees : ∃ ms r d,
    Session ⟨0, 64⟩ (fresh.doRead ⟨0, 64⟩) [splitSample.take 18, (splitSample.drop 18).take 33]
      ms r ∧
    (receiver ⟨0, 64⟩).run (readsOf [splitSample.take 16, (splitSample.drop 16).take 23,
      splitSample.drop 39]) = some d ∧
    d.recv.delivered = [Message.ofPayload [1, 2], Message.ofPayload [3]] ∧
    ms = d.recv.delivered ∧
    (r.1 = .failed ∧ r.2.net.connStat = .kClosed ↔ d.net.connStat = .kClosed) ∧
    (d.net.connStat = .kClosed ↔
      (TcpConnSync.framing ⟨0, 64⟩).ending splitSample = .malformed) := by
  have hrun₁ : ((receiver ⟨0, 64⟩).run (readsOf [splitSample.take 18,
      (splitSample.drop 18).take 33])).any (fun d => decide (d.recv.reads = [])) := by
    decide +kernel
  have hrun₂ : ((receiver ⟨0, 64⟩).run (readsOf [splitSample.take 16,
      (splitSample.drop 16).take 23, splitSample.drop 39])).any (fun d =>
        decide (d.recv.reads = [] ∧
          d.recv.delivered = [Message.ofPayload [1, 2], Message.ofPayload [3]])) := by
    decide +kernel
  obtain ⟨d₁, hd₁, hnone₁⟩ := (Option.any_eq_true _ _).mp hrun₁
  obtain ⟨d₂, hd₂, hnone₂⟩ := (Option.any_eq_true _ _).mp hrun₂
  obtain ⟨hreads₂, hdel⟩ := of_decide_eq_true hnone₂
  obtain ⟨ms, r, hsession, -, hst⟩ := run_session hd₁
  have hstarves : ∀ {d : TcpConnAsync} (t : Bytes), d.recv.reads = [] → d.Starves t := by
    intro d t hnil op hop
    simp [hnil] at hop
  have hagree := @receive_paths_agree _ _ _ _ _ [0] [] _ (by decide) (by decide) hsession hd₂
    (by decide) (hst.starves (hstarves _ (of_decide_eq_true hnone₁))) (hstarves _ hreads₂)
  exact ⟨ms, r, d₂, hsession, hd₂, hdel, hagree⟩

lemma run_exhausts (hlim : setting.recvMaxMsgSize ≠ 0)
    (hmax : setting.recvMaxMsgSize.toNat < 2 ^ 31) (s : Bytes) {chunks : List Bytes}
    (hd : (receiver setting).run (readsOf chunks) = some d) :
    ∃ more t d', (receiver setting).run (readsOf (chunks ++ more)) = some d' ∧
      more.flatten ++ t = s ∧ d'.Starves t := by
  induction hn : s.length using Nat.strongRecOn generalizing s chunks d with
  | ind len ih =>
    subst hn
    by_cases hs : d.Starves s
    · exact ⟨[], s, d, by rw [List.append_nil]; exact hd, rfl, hs⟩
    · obtain ⟨ms, r, hsession, -, -, hend⟩ := run_session hd
      obtain ⟨-, hholds⟩ := hsession.parse (bounded_of_limit hlim hmax) fresh_holds
      unfold Holds at hholds
      split at hholds
      · rw [hholds.1] at hend
        simp [TcpConnAsync.Starves, show d.recv.reads = [] from hend] at hs
      · obtain ⟨kind, n, hop, hwaits, -⟩ := hholds
        rw [hop] at hend
        obtain ⟨-, id, hreads⟩ := hend
        obtain ⟨hpos, hle⟩ := TcpConnSync.Waits.pos_and_le hwaits
        have hn : n ≤ s.length := by simpa [TcpConnAsync.Starves, hreads] using hs
        have htake : (s.take n).length = n := List.length_take_of_le hn
        obtain ⟨d₁, hd₁, -⟩ := @step_readDone setting d 0 _ (s.take n)
          (show d.recv.reads[0]? = some ⟨id, kind, n⟩ by rw [hreads]; rfl) htake.ge
          (htake.trans_le hle)
        have hrun : (receiver setting).run (readsOf (chunks ++ [s.take n])) = some d₁ := by
          rw [readsOf, List.map_append, List.map_singleton, Machine.run_snoc]
          exact Option.bind_eq_some_iff.mpr ⟨d, hd, hd₁⟩
        obtain ⟨more, t, d', hd', hsplit, hst⟩ := ih (s.drop n).length
          (by rw [List.length_drop]; omega) (s.drop n) hrun rfl
        refine ⟨s.take n :: more, t, d', by simpa using hd', ?_, hst⟩
        rw [List.flatten_cons, List.append_assoc, hsplit, List.take_append_drop]

theorem stream_read (hmin : 1 ≤ setting.recvMaxMsgSize.toNat)
    (hmax : setting.recvMaxMsgSize.toNat ≤ 2 ^ 31 - 1) (s : Bytes) :
    ∃ chunks t ms r d, chunks.flatten ++ t = s ∧
      Session setting (fresh.doRead setting) chunks ms r ∧ r.1.Starves t ∧
      (receiver setting).run (readsOf chunks) = some d ∧ d.Starves t := by
  obtain ⟨chunks, t, d, hd, hs, hstarves⟩ := run_exhausts (limit_ne_zero hmin)
    (by omega) s (show (receiver setting).run (readsOf []) = some (started setting) from rfl)
  obtain ⟨ms, r, hsession, -, hst⟩ := run_session hd
  exact ⟨chunks, t, ms, r, d, hs, hsession, hst.starves hstarves, hd, hstarves⟩

end Agreement

end Tzrpc.Client
