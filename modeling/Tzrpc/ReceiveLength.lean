import Tzrpc.ReadDrain

/-!
# The reported buffer length

The receive machines compare `get_length`, which has 32 bits, with what they need. It falls
short of the real length only behind a read that carries a body of more than `2 ^ 32 - 2048`
bytes past the word; without such a read every machine awaits exactly what is still missing.
-/
namespace Tzrpc

namespace IOBound

def Exact (b : IOBound) : Prop := b.buffer.getLength.toNat = b.buffer.data.length

def Short (b : IOBound) : ReadKind → Prop
  | .head => b.buffer.data.length < Header.size
  | .body => b.buffer.data.length < b.header.length.toNat

/-- The length is right, and a read is outstanding only for what is missing: a body that has
arrived has been taken. -/
def Judges (b : IOBound) (waits : ReadKind → Prop) : Prop :=
  b.Exact ∧ ∀ kind, waits kind → b.Short kind

/-- The read is for a body of more than `2 ^ 32 - 2048` bytes and carries what is buffered of
it to `2 ^ 32` bytes. -/
def Overruns (b : IOBound) (kind : ReadKind) (bytes : Bytes) : Prop :=
  kind = .body ∧ 2 ^ 32 < b.header.length.toNat + kFixedIoBufferSize.toNat ∧
    2 ^ 32 ≤ b.buffer.data.length + bytes.length

/-- The receive side between two completions, under a receive limit. -/
structure Sound (b : IOBound) (recvMaxMsgSize : UInt32) (waits : ReadKind → Prop) : Prop where
  length : b.buffer.data.length < 2 ^ 32
  short : ∀ kind, waits kind → b.Short kind
  passed : waits .body → recvMaxMsgSize = 0 ∨ b.header.length.toNat ≤ recvMaxMsgSize.toNat

end IOBound

/-- The limit keeps a whole read more than a body within the word. -/
def LeavesRoom (recvMaxMsgSize : UInt32) : Prop :=
  recvMaxMsgSize ≠ 0 ∧ recvMaxMsgSize.toNat + kFixedIoBufferSize.toNat ≤ 2 ^ 32

namespace IOBound

variable {b : IOBound} {lim : UInt32} {kind : ReadKind} {bytes : Bytes} {waits : ReadKind → Prop}

lemma exact_iff : b.Exact ↔ b.buffer.data.length < 2 ^ 32 :=
  ⟨fun h => h ▸ b.buffer.getLength.toNat_lt, fun h => Buffer.getLength_toNat h⟩

lemma Sound.judges (h : b.Sound lim waits) : b.Judges waits := ⟨exact_iff.mpr h.length, h.short⟩

lemma Sound.received (h : b.Sound lim waits) (hw : waits kind)
    (hmax : bytes.length ≤ kFixedIoBufferSize.toNat) (hno : ¬ b.Overruns kind bytes) :
    (b.received bytes).buffer.data.length < 2 ^ 32 := by
  have h2048 : kFixedIoBufferSize.toNat = 2048 := rfl
  have hshort := h.short kind hw
  rw [IOBound.received, Buffer.appendInternal_data, List.length_append]
  cases kind with
  | head =>
    simp only [Short, Header.size] at hshort
    omega
  | body =>
    simp only [Short] at hshort
    simp only [Overruns, true_and, not_and, not_le] at hno
    by_cases hlong : 2 ^ 32 < b.header.length.toNat + kFixedIoBufferSize.toNat
    · exact hno hlong
    · omega

lemma Sound.not_overruns (h : b.Sound lim waits) (hw : waits kind) (hroom : LeavesRoom lim) :
    ¬ b.Overruns kind bytes := by
  rintro ⟨rfl, hlong, -⟩
  have hpass := (h.passed hw).resolve_left hroom.1
  have hle := hroom.2
  omega

lemma not_overruns_of_exact (h : (b.received bytes).Exact) : ¬ b.Overruns kind bytes := by
  rintro ⟨-, -, hover⟩
  rw [exact_iff, IOBound.received, Buffer.appendInternal_data, List.length_append] at h
  omega

lemma parseHeader_length_lt (hlen : b.buffer.data.length < 2 ^ 32) :
    (b.parseHeader lim).2.buffer.data.length < 2 ^ 32 := by
  by_cases hs : b.buffer.getLength.toNat < Header.size
  · rw [parseHeader, if_pos hs]
    exact hlen
  · have hcut := (parseHeader_cut lim hs).2
    omega

lemma parseMsgBody_length_lt {msg : Message} (hlen : b.buffer.data.length < 2 ^ 32) :
    (b.parseMsgBody msg).2.2.buffer.data.length < 2 ^ 32 :=
  lt_of_le_of_lt (b.parseMsgBody_cut msg).2 hlen

lemma parseMsgBody_header (b : IOBound) (msg : Message) :
    (b.parseMsgBody msg).2.2.header = b.header := by
  unfold parseMsgBody
  split_ifs <;> rfl

lemma parseHeader_passed (h0 : (b.parseHeader lim).1 = 0) :
    lim = 0 ∨ (b.parseHeader lim).2.header.length.toNat ≤ lim.toNat := by
  by_cases hlim : lim = 0
  · exact Or.inl hlim
  · exact Or.inr (parseHeader_limit h0 hlim)

end IOBound

/-- What the receive side of a machine shows: what it has buffered, the reads it waits for, and
the read that an event completes. -/
structure Receiver (σ ε : Type*) where
  machine : Machine σ ε
  recvMaxMsgSize : UInt32
  bound : σ → IOBound
  WaitsFor : σ → ReadKind → Prop
  Completes : σ → ε → ReadKind → Bytes → Prop

namespace Receiver

variable {σ ε : Type*} (R : Receiver σ ε)

def JudgesThroughout (es : List ε) : Prop :=
  (∀ s, R.machine.Visits es s → (R.bound s).Judges (R.WaitsFor s)) ∧
    ∀ s e t kind bytes, R.machine.Takes es s e t → R.Completes s e kind bytes →
      ((R.bound s).received bytes).Exact

def Overrun (es : List ε) : Prop :=
  ∃ s e t kind bytes, R.machine.Takes es s e t ∧ R.Completes s e kind bytes ∧
    (R.bound s).Overruns kind bytes

/-- The states of `I` are sound, and a step that does not overrun stays among them. -/
structure Steady (I : σ → Prop) : Prop where
  start : I R.machine.start
  sound : ∀ s, I s → (R.bound s).Sound R.recvMaxMsgSize (R.WaitsFor s)
  fits : ∀ s e t kind bytes, R.machine.next s e = some t → R.Completes s e kind bytes →
    R.WaitsFor s kind ∧ bytes.length ≤ kFixedIoBufferSize.toNat
  step : ∀ s e t, I s →
    (∀ kind bytes, R.Completes s e kind bytes → ¬ (R.bound s).Overruns kind bytes) →
    R.machine.next s e = some t → I t

variable {R} {I : σ → Prop}

/-- A steady receiver judges its buffer right in exactly the runs without an overrun. -/
theorem Steady.judges_iff (h : R.Steady I) (es : List ε) :
    R.JudgesThroughout es ↔ ¬ R.Overrun es := by
  constructor
  · rintro ⟨-, hexact⟩ ⟨s, e, t, kind, bytes, ht, hc, hover⟩
    exact IOBound.not_overruns_of_exact (hexact s e t kind bytes ht hc) hover
  · intro hno
    have hinv : ∀ s, R.machine.Visits es s → I s := fun s hs =>
      Machine.visits_of_inductive (M := R.machine)
        (C := fun s e => ∀ kind bytes, R.Completes s e kind bytes →
          ¬ (R.bound s).Overruns kind bytes) h.start h.step
        (fun s e t ht kind bytes hc hover => hno ⟨s, e, t, kind, bytes, ht, hc, hover⟩) hs
    refine ⟨fun s hs => (h.sound s (hinv s hs)).judges, fun s e t kind bytes ht hc => ?_⟩
    have hs := hinv s ht.visits
    have hno' : ¬ (R.bound s).Overruns kind bytes := fun hover =>
      hno ⟨s, e, t, kind, bytes, ht, hc, hover⟩
    obtain ⟨pre, -, -, hn⟩ := ht
    obtain ⟨hw, hmax⟩ := h.fits s e t kind bytes hn hc
    exact IOBound.exact_iff.mpr ((h.sound s hs).received hw hmax hno')

lemma Steady.not_overrun (h : R.Steady I) (hroom : LeavesRoom R.recvMaxMsgSize) (es : List ε) :
    ¬ R.Overrun es := by
  have hno : ∀ s e t kind bytes, I s → R.machine.next s e = some t → R.Completes s e kind bytes →
      ¬ (R.bound s).Overruns kind bytes := fun s e t kind bytes hs hn hc =>
    (h.sound s hs).not_overruns (h.fits s e t kind bytes hn hc).1 hroom
  rintro ⟨s, e, t, kind, bytes, ht, hc, hover⟩
  have hs : I s := Machine.reachable_of_inductive (M := R.machine) h.start
    (fun s e t hs hn => h.step s e t hs (fun kind bytes hc => hno s e t kind bytes hs hn hc) hn)
    ht.visits.reachable
  obtain ⟨pre, -, -, hn⟩ := ht
  exact hno s e t kind bytes hs hn hc hover

end Receiver

namespace TcpConnAsync

def WaitsFor (c : TcpConnAsync) (kind : ReadKind) : Prop := ∃ op ∈ c.recv.reads, op.kind = kind

def receiving (env : ServerEnv) : Receiver TcpConnAsync Event where
  machine := machine env
  recvMaxMsgSize := env.recvMaxMsgSize.toUInt32
  bound c := c.recv.bound
  WaitsFor := WaitsFor
  Completes c e kind bytes :=
    ∃ i op, e = .readDone i bytes ∧ c.recv.reads[i]? = some op ∧ op.kind = kind

section Judges

variable {env : ServerEnv} {c d : TcpConnAsync} {kind : ReadKind}

/-- Connections with one read at most, which await what is missing. -/
def Awaiting (env : ServerEnv) (c : TcpConnAsync) : Prop :=
  OneRead c ∧ c.recv.bound.Sound env.recvMaxMsgSize.toUInt32 c.WaitsFor

lemma Chain.sound (h : Chain env kind c d) (hr : c.recv.reads = [])
    (hlen : c.recv.bound.buffer.data.length < 2 ^ 32)
    (hpass : kind = .body → env.recvMaxMsgSize.toUInt32 = 0 ∨
      c.recv.bound.header.length.toNat ≤ env.recvMaxMsgSize.toUInt32.toNat) :
    d.recv.bound.Sound env.recvMaxMsgSize.toUInt32 d.WaitsFor := by
  induction h with
  | halted => exact ⟨hlen, by simp [WaitsFor, hr], by simp [WaitsFor, hr]⟩
  | @arm kind c n _ hl =>
    have hv := recvView_eq_iff.mp (setOpsCancelTimeout_recvView env c)
    have hmissing := lacks_length hlen hl
    have hwaits : ∀ k, ((c.setOpsCancelTimeout env).asyncRead kind n).WaitsFor k → kind = k := by
      rintro k ⟨op, hop, rfl⟩
      simp only [asyncRead, hv.2.2, hr, List.nil_append, List.mem_singleton] at hop
      rw [hop]
    refine ⟨by simpa only [asyncRead, hv.2.2] using hlen, fun k hk => ?_, fun hk => ?_⟩
    · obtain rfl := hwaits k hk
      simp only [asyncRead, hv.2.2]
      cases kind <;> exact hmissing
    · simp only [asyncRead, hv.2.2]
      exact hpass (hwaits _ hk)
  | @refuse c hl =>
    refine ⟨IOBound.parseHeader_length_lt hlen, ?_, ?_⟩ <;>
      simp [WaitsFor, sockShutdownAndClose, parseHeader, hr]
  | @header c d hl h0 _ ih =>
    exact ih hr (IOBound.parseHeader_length_lt hlen) fun _ => IOBound.parseHeader_passed h0
  | @message c d _ _ ih =>
    have hv := dispatchBody_recvView env c
    simp only [recvView, Prod.mk.injEq] at hv
    refine ih ((dispatchBody_net env c).2.2.trans hr) ?_ (by simp)
    rw [hv.2.2]
    exact IOBound.parseMsgBody_length_lt hlen

lemma Awaiting.step {e : Event} (h : c.Awaiting env)
    (hno : ∀ i bytes op, e = .readDone i bytes → c.recv.reads[i]? = some op →
      ¬ c.recv.bound.Overruns op.kind bytes)
    (hs : TcpConnAsync.step env c e = some d) : d.Awaiting env := by
  refine ⟨h.1.step hs, ?_⟩
  by_cases hread : ∃ i bytes, e = .readDone i bytes
  · obtain ⟨i, bytes, rfl⟩ := hread
    obtain ⟨op, hop, -, hmax, hchain⟩ := step_readDone_chain hs
    have hv := recvView_eq_iff.mp (revokeOpsCancelTimeout_recvView (c.dropRead i))
    have hw : c.WaitsFor op.kind := ⟨op, List.mem_of_getElem? hop, rfl⟩
    refine hchain.sound ?_ ?_ fun hk => ?_
    · rw [received, hv.2.2]
      exact h.1.dropRead hop
    · rw [received, hv.2.2]
      exact h.2.received hw hmax (hno i bytes op rfl hop)
    · rw [received, hv.2.2]
      exact h.2.passed (hk ▸ hw)
  have hkeep : ∀ b : TcpConnAsync, b.recv.bound = c.recv.bound →
      (∀ k, b.WaitsFor k → c.WaitsFor k) →
      b.recv.bound.Sound env.recvMaxMsgSize.toUInt32 b.WaitsFor := by
    intro b hb hw
    rw [hb]
    exact ⟨h.2.length, fun k hk => h.2.short k (hw k hk), fun hk => h.2.passed (hw _ hk)⟩
  by_cases hfail : ∃ i ec, e = .readFail i ec
  · obtain ⟨i, ec, rfl⟩ := hfail
    obtain ⟨op, hop, -, rfl⟩ := step_readFail hs
    have hrecv := readFailed_recv (c.dropRead i) ec
    refine hkeep _ (by rw [hrecv]; rfl) ?_
    rintro k ⟨op', hop', -⟩
    rw [hrecv, h.1.dropRead hop] at hop'
    cases hop'
  · have hrecv := (step_recv (fun i bytes he => hread ⟨i, bytes, he⟩)
      (Or.inr fun i ec he => hfail ⟨i, ec, he⟩) hs).1
    refine hkeep d (by rw [hrecv]) ?_
    rintro k ⟨op, hop, hk⟩
    exact ⟨op, hrecv ▸ hop, hk⟩

lemma started_awaiting (env : ServerEnv) : (started env).Awaiting env := by
  obtain ⟨-, -, hr⟩ := started_view env
  refine ⟨started_oneRead env, ?_, ?_, ?_⟩
  · simp [hr, IOBound.fresh, Buffer.empty]
  · rintro k ⟨op, hop, rfl⟩
    rw [hr] at hop ⊢
    obtain rfl := List.mem_singleton.mp hop
    show IOBound.fresh.buffer.data.length < Header.size
    decide
  · rintro ⟨op, hop, hk⟩
    rw [hr] at hop
    obtain rfl := List.mem_singleton.mp hop
    cases hk

lemma receiving_steady (env : ServerEnv) : (receiving env).Steady (Awaiting env) where
  start := started_awaiting env
  sound c h := h.2
  fits c e d kind bytes hs hc := by
    obtain ⟨i, op, rfl, hop, rfl⟩ := hc
    obtain ⟨op', hop', -, hmax, -⟩ := step_readDone_chain hs
    exact ⟨⟨op, List.mem_of_getElem? hop, rfl⟩, hmax⟩
  step c e d h hno hs :=
    h.step (fun i bytes op he hop => hno op.kind bytes ⟨i, op, he, hop, rfl⟩) hs

end Judges

end TcpConnAsync

namespace Client.TcpConnAsync

/-- What happens to a connection: a completion, a message its client sends, or the client
closing it. -/
inductive Action
  | completes (e : Event)
  | sends (msg : Message)
  | closes
  deriving DecidableEq, Repr

def act (setting : ClientSetting) (c : TcpConnAsync) : Action → Option TcpConnAsync
  | .completes e => c.step setting e
  | .sends msg => some (c.sendNetMessage setting msg).2
  | .closes => some c.shutdownAndCloseSocket

def connection (setting : ClientSetting) : Machine TcpConnAsync Action :=
  ⟨started setting, act setting⟩

def WaitsFor (c : TcpConnAsync) (kind : ReadKind) : Prop := ∃ op ∈ c.recv.reads, op.kind = kind

def receiving (setting : ClientSetting) : Receiver TcpConnAsync Action where
  machine := connection setting
  recvMaxMsgSize := setting.recvMaxMsgSize
  bound c := c.recv.bound
  WaitsFor := WaitsFor
  Completes c a kind bytes :=
    ∃ i op, a = .completes (.readDone i bytes) ∧ c.recv.reads[i]? = some op ∧ op.kind = kind

section Judges

variable {setting : ClientSetting} {c d : TcpConnAsync} {kind : ReadKind} {i : ℕ} {bytes : Bytes}

def Awaiting (setting : ClientSetting) (c : TcpConnAsync) : Prop :=
  c.recv.reads.length ≤ 1 ∧ c.recv.bound.Sound setting.recvMaxMsgSize c.WaitsFor

lemma awaiting_of_idle (hr : c.recv.reads = []) (hlen : c.recv.bound.buffer.data.length < 2 ^ 32) :
    c.Awaiting setting :=
  ⟨by simp [hr], hlen, by simp [WaitsFor, hr], by simp [WaitsFor, hr]⟩

lemma awaiting_of_arm (hr : c.recv.reads = []) (hlen : c.recv.bound.buffer.data.length < 2 ^ 32)
    (hpass : kind = .body → setting.recvMaxMsgSize = 0 ∨
      c.recv.bound.header.length.toNat ≤ setting.recvMaxMsgSize.toNat)
    (hl : c.Lacks kind) (n : ℕ) : (c.asyncRead kind n).Awaiting setting := by
  have hreads : (c.asyncRead kind n).recv.reads = [⟨c.ops, kind, n⟩] := by simp [asyncRead, hr]
  have hwaits : ∀ k, (c.asyncRead kind n).WaitsFor k → kind = k := by
    rintro k ⟨op, hop, rfl⟩
    rw [hreads] at hop
    rw [List.mem_singleton.mp hop]
  refine ⟨by simp [hreads], hlen, fun k hk => ?_, fun hk => hpass (hwaits _ hk)⟩
  obtain rfl := hwaits k hk
  show c.recv.bound.Short kind
  cases kind with
  | head => simpa only [IOBound.Short, Lacks, Buffer.getLength_toNat hlen] using hl
  | body =>
    simpa only [IOBound.Short, Lacks, UInt32.lt_iff_toNat_lt, Buffer.getLength_toNat hlen] using hl

lemma routine_awaiting {fuel : ℕ} (h : routine setting fuel kind c = some d)
    (hr : c.recv.reads = []) (hlen : c.recv.bound.buffer.data.length < 2 ^ 32)
    (hpass : kind = .body → setting.recvMaxMsgSize = 0 ∨
      c.recv.bound.header.length.toNat ≤ setting.recvMaxMsgSize.toNat) : d.Awaiting setting := by
  rw [routine_eq_runs] at h
  obtain ⟨calls, hunwinds⟩ := Activation.unwinds_of_runs (activate_ne_retries setting) h
  obtain ⟨kind', b, ⟨hrb, hlenb, hpassb⟩, hret⟩ := hunwinds.last
    (I := fun kind b => b.recv.reads = [] ∧ b.recv.bound.buffer.data.length < 2 ^ 32 ∧
      (kind = .body → setting.recvMaxMsgSize = 0 ∨
        b.recv.bound.header.length.toNat ≤ setting.recvMaxMsgSize.toNat)) ⟨hr, hlen, hpass⟩ (by
      rintro kind b kind' d ⟨hrb, hlenb, -⟩ ha
      rcases activate_cases setting kind b with
        ⟨-, he⟩ | ⟨-, -, n, he⟩ | ⟨-, -, he⟩ | ⟨-, -, h0, -, he⟩ | ⟨-, -, he⟩
      · simp [he] at ha
      · simp [he] at ha
      · simp [he] at ha
      · obtain ⟨rfl, rfl⟩ := Activation.enters.inj (he.symm.trans ha)
        exact ⟨hrb, IOBound.parseHeader_length_lt hlenb, fun _ => IOBound.parseHeader_passed h0⟩
      · obtain ⟨rfl, rfl⟩ := Activation.enters.inj (he.symm.trans ha)
        exact ⟨hrb, IOBound.parseMsgBody_length_lt hlenb, by simp⟩)
  rcases activate_cases setting kind' b with
    ⟨-, he⟩ | ⟨-, hl, n, he⟩ | ⟨-, -, he⟩ | ⟨-, -, -, -, he⟩ | ⟨-, -, he⟩
  · obtain rfl := Activation.returns.inj (he.symm.trans hret)
    exact awaiting_of_idle hrb hlenb
  · obtain rfl := Activation.returns.inj (he.symm.trans hret)
    exact awaiting_of_arm hrb hlenb hpassb hl n
  · obtain rfl := Activation.returns.inj (he.symm.trans hret)
    exact awaiting_of_idle (c := (b.parseHeader setting).2.shutdownAndCloseSocket) hrb
      (IOBound.parseHeader_length_lt hlenb)
  · simp [he] at hret
  · simp [he] at hret

lemma readHandler_awaiting (h : c.readHandler setting bytes = some d) (hr : c.recv.reads = [])
    (hlen : (c.recv.bound.received bytes).buffer.data.length < 2 ^ 32) : d.Awaiting setting := by
  have hparse : ((c.received bytes).parseHeader setting).2.recv.bound.buffer.data.length < 2 ^ 32 :=
    IOBound.parseHeader_length_lt hlen
  simp only [readHandler] at h
  split_ifs at h with hs h0 h1
  · exact @routine_awaiting setting (c.received bytes) d .head (c.received bytes).chainFuel h hr
      hlen (by simp)
  · exact @routine_awaiting setting ((c.received bytes).parseHeader setting).2 d .body
      (c.received bytes).chainFuel h hr hparse fun _ => IOBound.parseHeader_passed h0
  · exact @routine_awaiting setting ((c.received bytes).parseHeader setting).2 d .head
      (c.received bytes).chainFuel h hr hparse (by simp)
  · obtain rfl := Option.some.inj h
    exact awaiting_of_idle (c := ((c.received bytes).parseHeader setting).2.shutdownAndCloseSocket)
      hr hparse

lemma readMsgHandler_awaiting (h : c.readMsgHandler setting bytes = some d)
    (hr : c.recv.reads = [])
    (hlen : (c.recv.bound.received bytes).buffer.data.length < 2 ^ 32)
    (hpass : setting.recvMaxMsgSize = 0 ∨
      c.recv.bound.header.length.toNat ≤ setting.recvMaxMsgSize.toNat) : d.Awaiting setting := by
  have hparse : ((c.received bytes).parseMsgBody
      ⟨Header.zero, []⟩).2.2.recv.bound.buffer.data.length < 2 ^ 32 :=
    IOBound.parseMsgBody_length_lt hlen
  have hheader : ((c.received bytes).parseMsgBody ⟨Header.zero, []⟩).2.2.recv.bound.header =
      c.recv.bound.header := IOBound.parseMsgBody_header _ _
  simp only [readMsgHandler] at h
  split_ifs at h with h0 h1
  · exact @routine_awaiting setting (c.received bytes).deliverBody d .head
      (c.received bytes).chainFuel h hr hparse (by simp)
  · exact @routine_awaiting setting ((c.received bytes).parseMsgBody ⟨Header.zero, []⟩).2.2 d .body
      (c.received bytes).chainFuel h hr hparse fun _ => hheader ▸ hpass
  · obtain rfl := Option.some.inj h
    exact awaiting_of_idle (c := ((c.received bytes).parseMsgBody
      ⟨Header.zero, []⟩).2.2.shutdownAndCloseSocket) hr hparse

lemma Awaiting.dropRead (h : c.Awaiting setting) {op : ReadOp}
    (hop : c.recv.reads[i]? = some op) : (c.dropRead i).recv.reads = [] := by
  have hlt : i < c.recv.reads.length := (List.getElem?_eq_some_iff.mp hop).1
  have hle := h.1
  apply List.eq_nil_of_length_eq_zero
  rw [TcpConnAsync.dropRead, List.length_eraseIdx_of_lt hlt]
  omega

lemma step_readDone_op (hs : c.step setting (.readDone i bytes) = some d) :
    ∃ op, c.recv.reads[i]? = some op ∧ bytes.length ≤ kFixedIoBufferSize.toNat ∧
      (match op.kind with
        | .head => (c.dropRead i).readHandler setting bytes
        | .body => (c.dropRead i).readMsgHandler setting bytes) = some d := by
  obtain ⟨op, hop, h⟩ := Option.bind_eq_some_iff.mp hs
  split_ifs at h with hb
  exact ⟨op, hop, hb.2, h⟩

lemma Awaiting.readDone (h : c.Awaiting setting)
    (hno : ∀ op, c.recv.reads[i]? = some op → ¬ c.recv.bound.Overruns op.kind bytes)
    (hs : c.step setting (.readDone i bytes) = some d) : d.Awaiting setting := by
  obtain ⟨op, hop, hmax, hd⟩ := step_readDone_op hs
  have hw : c.WaitsFor op.kind := ⟨op, List.mem_of_getElem? hop, rfl⟩
  have hlen := h.2.received hw hmax (hno op hop)
  cases hk : op.kind with
  | head =>
    rw [hk] at hd
    exact readHandler_awaiting hd (h.dropRead hop) hlen
  | body =>
    rw [hk] at hd hw
    exact readMsgHandler_awaiting hd (h.dropRead hop) hlen (h.2.passed hw)

lemma Awaiting.of_recv (h : c.Awaiting setting) (hb : d.recv.bound = c.recv.bound)
    (hle : d.recv.reads.length ≤ c.recv.reads.length)
    (hsub : ∀ op ∈ d.recv.reads, op ∈ c.recv.reads) : d.Awaiting setting := by
  have hw : ∀ k, d.WaitsFor k → c.WaitsFor k := by
    rintro k ⟨op, hop, hk⟩
    exact ⟨op, hsub op hop, hk⟩
  refine ⟨hle.trans h.1, ?_⟩
  rw [hb]
  exact ⟨h.2.length, fun k hk => h.2.short k (hw k hk), fun hk => h.2.passed (hw _ hk)⟩

lemma Awaiting.step {e : Event} (h : c.Awaiting setting)
    (hno : ∀ i bytes op, e = .readDone i bytes → c.recv.reads[i]? = some op →
      ¬ c.recv.bound.Overruns op.kind bytes)
    (hs : c.step setting e = some d) : d.Awaiting setting := by
  cases e with
  | readDone i bytes => exact h.readDone (hno i bytes · rfl) hs
  | readFail i ec =>
    obtain ⟨op, hop, -, rfl⟩ := step_readFail hs
    have hrecv := handleSocketEc_recv (c.dropRead i) ec
    refine h.of_recv (by rw [hrecv]; rfl) ?_ ?_ <;> rw [hrecv, h.dropRead hop]
    · exact Nat.zero_le _
    · simp
  | wrote i n =>
    obtain ⟨op, -, -, rfl⟩ := step_wrote hs
    exact h
  | writeDone i =>
    obtain ⟨op, -, -, rfl⟩ := step_writeDone hs
    have hrecv : ((c.dropWrite i).writeHandler none).recv = c.recv := doWrite_recv _
    exact h.of_recv (by rw [hrecv]) (by rw [hrecv]) (by rw [hrecv]; simp)
  | writeFail i ec =>
    obtain ⟨op, -, -, rfl⟩ := step_writeFail hs
    have hrecv : ((c.dropWrite i).writeHandler (some ec)).recv = c.recv :=
      handleSocketEc_recv (c.dropWrite i) ec
    exact h.of_recv (by rw [hrecv]) (by rw [hrecv]) (by rw [hrecv]; simp)

lemma Awaiting.act {a : Action} (h : c.Awaiting setting)
    (hno : ∀ i bytes op, a = .completes (.readDone i bytes) → c.recv.reads[i]? = some op →
      ¬ c.recv.bound.Overruns op.kind bytes)
    (hs : TcpConnAsync.act setting c a = some d) : d.Awaiting setting := by
  cases a with
  | completes e => exact h.step (fun i bytes op he => hno i bytes op (congrArg _ he)) hs
  | sends msg =>
    obtain rfl := Option.some.inj hs
    have hrecv := sendNetMessage_recv setting c msg
    exact h.of_recv (by rw [hrecv]) (by rw [hrecv]) (by rw [hrecv]; simp)
  | closes =>
    obtain rfl := Option.some.inj hs
    exact h

lemma started_awaiting (setting : ClientSetting) : (started setting).Awaiting setting :=
  @awaiting_of_arm setting fresh .head rfl (by decide) (by simp) (show 0 < Header.size by decide)
    Header.size

lemma receiving_steady (setting : ClientSetting) :
    (receiving setting).Steady (Awaiting setting) where
  start := started_awaiting setting
  sound c h := h.2
  fits c a d kind bytes hs hc := by
    obtain ⟨i, op, rfl, hop, rfl⟩ := hc
    obtain ⟨op', hop', hmax, -⟩ := step_readDone_op hs
    exact ⟨⟨op, List.mem_of_getElem? hop, rfl⟩, hmax⟩
  step c a d h hno hs :=
    h.act (fun i bytes op he hop => hno op.kind bytes ⟨i, op, he, hop, rfl⟩) hs

end Judges

end Client.TcpConnAsync

namespace Client

def Outcome.WaitsFor (o : Outcome) (kind : ReadKind) : Prop := ∃ n, o = .blocked (.read kind n)

namespace TcpConnSync

/-- What happens to a connection whose caller repeats `do_read`: the read it is blocked in
returns or fails, it calls again, or the timeout callback closes the socket. -/
inductive ReadEvent
  | readDone (bytes : Bytes)
  | readFail (ec : ErrorCode)
  | call
  | close
  deriving DecidableEq, Repr

def readStep (setting : ClientSetting) (r : Outcome × TcpConnSync) :
    ReadEvent → Option (Outcome × TcpConnSync)
  | .readDone bytes =>
    match r.1 with
    | .blocked (.read kind n) =>
      if n ≤ bytes.length ∧ bytes.length ≤ kFixedIoBufferSize.toNat then
        some (r.2.readDone setting kind bytes)
      else none
    | _ => none
  | .readFail ec =>
    match r.1 with
    | .blocked (.read _ _) => some (.failed, r.2.handleSocketEc ec)
    | _ => none
  | .call =>
    match r.1 with
    | .blocked _ => none
    | _ => some (r.2.doRead setting)
  | .close => some (r.1, r.2.shutdownAndCloseSocket)

def reader (setting : ClientSetting) : Machine (Outcome × TcpConnSync) ReadEvent :=
  ⟨fresh.doRead setting, readStep setting⟩

def receiving (setting : ClientSetting) : Receiver (Outcome × TcpConnSync) ReadEvent where
  machine := reader setting
  recvMaxMsgSize := setting.recvMaxMsgSize
  bound r := r.2.recvBound
  WaitsFor r := r.1.WaitsFor
  Completes r e kind bytes := e = .readDone bytes ∧ r.1.WaitsFor kind

section Judges

variable {setting : ClientSetting} {c : TcpConnSync} {r r' : Outcome × TcpConnSync}
  {kind : ReadKind} {bytes : Bytes}

def Awaiting (setting : ClientSetting) (r : Outcome × TcpConnSync) : Prop :=
  r.2.recvBound.Sound setting.recvMaxMsgSize r.1.WaitsFor

lemma awaiting_of_idle (hlen : r.2.recvBound.buffer.data.length < 2 ^ 32)
    (hidle : ∀ k, ¬ r.1.WaitsFor k) : Awaiting setting r :=
  ⟨hlen, fun k hk => absurd hk (hidle k), fun hk => absurd hk (hidle _)⟩

lemma awaiting_of_read (hlen : c.recvBound.buffer.data.length < 2 ^ 32)
    (hshort : c.recvBound.Short kind)
    (hpass : kind = .body → setting.recvMaxMsgSize = 0 ∨
      c.recvBound.header.length.toNat ≤ setting.recvMaxMsgSize.toNat) (n : ℕ) :
    Awaiting setting (.blocked (.read kind n), c) := by
  have hwaits : ∀ k, (Outcome.blocked (.read kind n)).WaitsFor k → kind = k := by
    rintro k ⟨m, hm⟩
    cases hm
    rfl
  exact ⟨hlen, fun k hk => hwaits k hk ▸ hshort, fun hk => hpass (hwaits _ hk)⟩

lemma readMsgLoop_awaiting (hlen : c.recvBound.buffer.data.length < 2 ^ 32)
    (hpass : setting.recvMaxMsgSize = 0 ∨
      c.recvBound.header.length.toNat ≤ setting.recvMaxMsgSize.toNat) :
    Awaiting setting c.readMsgLoop := by
  have hparse := @IOBound.parseMsgBody_length_lt c.recvBound ⟨Header.zero, []⟩ hlen
  unfold readMsgLoop
  dsimp only
  split_ifs with hl h0
  · refine awaiting_of_read hlen ?_ (fun _ => hpass) _
    rwa [UInt32.lt_iff_toNat_lt, Buffer.getLength_toNat hlen] at hl
  · exact awaiting_of_idle hparse (by simp [Outcome.WaitsFor])
  · exact awaiting_of_idle hparse (by simp [Outcome.WaitsFor])

lemma readLoop_awaiting (hlen : c.recvBound.buffer.data.length < 2 ^ 32) :
    Awaiting setting (c.readLoop setting) := by
  have hparse := @IOBound.parseHeader_length_lt c.recvBound setting.recvMaxMsgSize hlen
  unfold readLoop doReadMsg
  dsimp only
  split_ifs with hl h0 hw
  · refine awaiting_of_read hlen ?_ (by simp) _
    rwa [Buffer.getLength_toNat hlen] at hl
  · exact awaiting_of_idle hparse (by simp [Outcome.WaitsFor])
  · exact readMsgLoop_awaiting hparse (IOBound.parseHeader_passed h0)
  · exact awaiting_of_idle hparse (by simp [Outcome.WaitsFor])

lemma doRead_awaiting (hlen : c.recvBound.buffer.data.length < 2 ^ 32) :
    Awaiting setting (c.doRead setting) := by
  unfold doRead
  split_ifs
  · exact awaiting_of_idle hlen (by simp [Outcome.WaitsFor])
  · exact readLoop_awaiting hlen

lemma readStep_readDone (hs : readStep setting r (.readDone bytes) = some r') :
    ∃ kind, r.1.WaitsFor kind ∧ bytes.length ≤ kFixedIoBufferSize.toNat ∧
      r' = r.2.readDone setting kind bytes := by
  obtain ⟨o, c⟩ := r
  cases o with
  | blocked op =>
    cases op with
    | read kind n =>
      simp only [readStep] at hs
      split_ifs at hs with hb
      exact ⟨kind, ⟨n, rfl⟩, hb.2, (Option.some.inj hs).symm⟩
    | write size sent => cases hs
  | sent => cases hs
  | received msg => cases hs
  | failed => cases hs

lemma Awaiting.readDone (h : Awaiting setting r)
    (hno : ∀ kind, r.1.WaitsFor kind → ¬ r.2.recvBound.Overruns kind bytes)
    (hs : readStep setting r (.readDone bytes) = some r') : Awaiting setting r' := by
  obtain ⟨kind, hw, hmax, rfl⟩ := readStep_readDone hs
  have hlen := h.received hw hmax (hno kind hw)
  cases kind with
  | head =>
    exact readLoop_awaiting (c := { r.2 with recvBound := r.2.recvBound.received bytes }) hlen
  | body =>
    exact readMsgLoop_awaiting (c := { r.2 with recvBound := r.2.recvBound.received bytes }) hlen
      (h.passed hw)

lemma handleSocketEc_recvBound (c : TcpConnSync) (ec : ErrorCode) :
    (c.handleSocketEc ec).recvBound = c.recvBound := by
  unfold handleSocketEc
  split_ifs <;> rfl

lemma Awaiting.step {e : ReadEvent} (h : Awaiting setting r)
    (hno : ∀ bytes kind, e = .readDone bytes → r.1.WaitsFor kind →
      ¬ r.2.recvBound.Overruns kind bytes)
    (hs : readStep setting r e = some r') : Awaiting setting r' := by
  cases e with
  | readDone bytes => exact h.readDone (hno bytes · rfl) hs
  | readFail ec =>
    obtain ⟨o, c⟩ := r
    simp only [readStep] at hs
    split at hs
    · obtain rfl := Option.some.inj hs
      refine awaiting_of_idle ?_ (by simp [Outcome.WaitsFor])
      rw [handleSocketEc_recvBound]
      exact h.length
    · cases hs
  | call =>
    obtain ⟨o, c⟩ := r
    simp only [readStep] at hs
    split at hs
    · cases hs
    · obtain rfl := Option.some.inj hs
      exact doRead_awaiting h.length
  | close =>
    obtain rfl := Option.some.inj hs
    exact h

lemma started_awaiting (setting : ClientSetting) : Awaiting setting (fresh.doRead setting) :=
  doRead_awaiting (by decide)

lemma receiving_steady (setting : ClientSetting) :
    (receiving setting).Steady (Awaiting setting) where
  start := started_awaiting setting
  sound r h := h
  fits r e r' kind bytes hs hc := by
    obtain ⟨rfl, hw⟩ := hc
    obtain ⟨kind', -, hmax, -⟩ := readStep_readDone hs
    exact ⟨hw, hmax⟩
  step r e r' h hno hs := h.step (fun bytes kind he hw => hno kind bytes ⟨he, hw⟩) hs

end Judges

end TcpConnSync

end Client

end Tzrpc
