import Tzrpc.TcpConnAsyncLife
import Tzrpc.TcpConnAsyncUpdates

/-!
# What a connection under updates dispatches

The calls of the read chain with whatever comes between them: other threads that send, timer
callbacks, updates. Between two calls the chain has some of the received stream still in
front of it, and the frames of that part are the ones it has not dispatched.
-/
namespace Tzrpc

namespace TcpConnAsync

variable {env : ServerEnv} {c d : TcpConnAsync} {s : Bytes}

lemma readFailed_closed (ec : ErrorCode) (h : c.net.connStat = .kClosed) :
    (c.readFailed ec).net.connStat = .kClosed := by
  have hv := recvView_eq_iff.mp (revokeOpsCancelTimeout_recvView c)
  exact (handleSocketEc_recv c.revokeOpsCancelTimeout ec).2 (hv.1.symm ▸ h)

lemma Trails.of_recv (h : Trails env s c) (hr : d.recv = c.recv)
    (hc : c.net.connStat = .kClosed → d.net.connStat = .kClosed) : Trails env s d := by
  rcases h with ⟨hdisp, hawaits, hclosed⟩ | ⟨hreads, hpre⟩
  · refine Or.inl ⟨hr ▸ hdisp, ?_, fun hm => hc (hclosed hm)⟩
    cases he : (framing env).ending s <;> simpa only [he, Awaits, hr] using hawaits
  · exact Or.inr ⟨hr ▸ hreads, hr ▸ hpre⟩

end TcpConnAsync

lemma Senders.step_recv {env : ServerEnv} {s t : Senders} {e : Senders.Event}
    (hs : Senders.step env s e = some t) : t.conn.recv = s.conn.recv ∧
      (s.conn.net.connStat = .kClosed → t.conn.net.connStat = .kClosed) := by
  have hview : t.conn.recvView = s.conn.recvView → t.conn.recv = s.conn.recv ∧
      (s.conn.net.connStat = .kClosed → t.conn.net.connStat = .kClosed) := by
    intro h
    obtain ⟨hn, -, hr⟩ := TcpConnAsync.recvView_eq_iff.mp h
    exact ⟨hr, fun hc => hn ▸ hc⟩
  cases e with
  | append th msg =>
    simp only [Senders.step] at hs
    split_ifs at hs <;> obtain rfl := Option.some.inj hs <;> exact hview rfl
  | test th =>
    simp only [Senders.step] at hs
    split_ifs at hs <;> obtain rfl := Option.some.inj hs <;> exact hview rfl
  | critical th =>
    simp only [Senders.step] at hs
    split_ifs at hs
    obtain rfl := Option.some.inj hs
    exact hview (TcpConnAsync.doWriteCritical_recvView env s.conn)
  | wrote i n =>
    obtain ⟨op, -, hs⟩ := Option.bind_eq_some_iff.mp hs
    split_ifs at hs
    obtain rfl := Option.some.inj hs
    exact hview rfl
  | writeDone i =>
    obtain ⟨op, -, hs⟩ := Option.bind_eq_some_iff.mp hs
    split_ifs at hs
    obtain rfl := Option.some.inj hs
    exact hview (TcpConnAsync.writeCompleted_recvView (s.conn.dropWrite i))
  | writeFail i ec =>
    obtain ⟨op, -, hs⟩ := Option.bind_eq_some_iff.mp hs
    split_ifs at hs
    obtain rfl := Option.some.inj hs
    exact ⟨TcpConnAsync.readFailed_recv (s.conn.dropWrite i) ec,
      TcpConnAsync.readFailed_closed (c := s.conn.dropWrite i) ec⟩
  | readFail ec =>
    simp only [Senders.step] at hs
    split_ifs at hs
    obtain rfl := Option.some.inj hs
    exact ⟨TcpConnAsync.readFailed_recv s.conn ec, TcpConnAsync.readFailed_closed ec⟩
  | refuseHead =>
    simp only [Senders.step] at hs
    split_ifs at hs
    obtain rfl := Option.some.inj hs
    exact ⟨rfl, fun _ => NetConn.sockShutdownAndClose_connStat _⟩
  | timerExpire =>
    simp only [Senders.step] at hs
    split_ifs at hs
    obtain rfl := Option.some.inj hs
    exact hview rfl
  | timerHandler i =>
    obtain ⟨⟨⟨w, code⟩, u⟩, -, rfl⟩ := Option.map_eq_some_iff.mp hs
    cases code with
    | success => exact ⟨rfl, fun _ => NetConn.sockShutdownAndClose_connStat _⟩
    | aborted => exact hview rfl

def ReadPc.kind : ReadPc → Option ReadKind
  | .idle => none
  | .handler kind => some kind
  | .call kind => some kind

namespace UpdatedConn

def Event.delivers : Event → Bytes
  | .readDone _ bytes => bytes
  | _ => []

open TcpConnAsync (framing framing_headLen)

/-- What the chain has in front of it when it is about to look for a part of this kind. -/
def Front (F : Framing UInt8) (pending : Bytes) (c : TcpConnAsync) : ReadKind → Prop
  | .head => c.recv.bound.buffer.data = pending
  | .body => ∃ hd n, pending = hd ++ c.recv.bound.buffer.data ∧ hd.length = Header.size ∧
      F.bodyLen hd = some n ∧ c.recv.bound.header = Header.unwire hd

/-- The chain runs, and has dispatched what of the stream `s` is not in front of it. -/
structure Draining (F : Framing UInt8) (s pending : Bytes) (kind : ReadKind)
    (c : TcpConnAsync) : Prop where
  idle : c.recv.reads = []
  short : c.recv.bound.buffer.data.length < 2 ^ 32
  front : Front F pending c kind
  bodies : F.bodies s = c.recv.dispatched ++ F.bodies pending
  ending : F.ending s = F.ending pending

/-- Where the strand is in the stream `s`. -/
def Receives (env : ServerEnv) (s : Bytes) (u : UpdatedConn) : Prop :=
  match u.readPc.kind with
  | none => u.conn.Trails env s
  | some kind => ∃ pending, Draining (framing env) s pending kind u.conn

section Receives

variable {inlineReply : Bytes → Option Message} {env : ServerEnv} {u v : UpdatedConn}
  {s pending : Bytes} {kind : ReadKind} {c d : TcpConnAsync}

lemma Draining.of_recv {F : Framing UInt8} (h : Draining F s pending kind c)
    (hr : d.recv = c.recv) : Draining F s pending kind d := by
  obtain ⟨h1, h2, h3, h4, h5⟩ := h
  refine ⟨hr ▸ h1, hr ▸ h2, ?_, hr ▸ h4, h5⟩
  cases kind <;> simpa only [Front, hr] using h3

lemma Receives.idle (h : u.conn.Trails env s) (hpc : u.readPc = .idle) : Receives env s u := by
  rw [Receives, hpc]
  exact h

lemma Receives.draining (kind : ReadKind) (pending : Bytes)
    (h : Draining (framing env) s pending kind u.conn)
    (hpc : u.readPc.kind = some kind) : Receives env s u := by
  rw [Receives, hpc]
  exact ⟨pending, h⟩

lemma Receives.of_kind (h : Receives env s u) (hpc : u.readPc.kind = some kind) :
    ∃ pending, Draining (framing env) s pending kind u.conn := by
  rw [Receives, hpc] at h
  exact h

lemma Receives.of_idle (h : Receives env s u) (hpc : u.readPc = .idle) : u.conn.Trails env s := by
  rw [Receives, hpc] at h
  exact h

lemma Receives.of_recv (h : Receives env s u) (hpc : v.readPc = u.readPc)
    (hr : v.conn.recv = u.conn.recv)
    (hc : u.conn.net.connStat = .kClosed → v.conn.net.connStat = .kClosed) :
    Receives env s v := by
  unfold Receives at *
  rw [hpc]
  cases hk : u.readPc.kind with
  | none =>
    rw [hk] at h
    exact h.of_recv hr hc
  | some kind =>
    rw [hk] at h
    obtain ⟨pending, hd⟩ := h
    exact ⟨pending, hd.of_recv hr⟩

lemma Receives.dispatched_prefix (h : Receives env s u) :
    u.conn.recv.dispatched <+: (framing env).bodies s := by
  unfold Receives at h
  cases hk : u.readPc.kind with
  | none =>
    rw [hk] at h
    exact h.dispatched_prefix
  | some kind =>
    rw [hk] at h
    obtain ⟨pending, hd⟩ := h
    exact ⟨_, hd.bodies.symm⟩

lemma Draining.lacks_head {F : Framing UInt8} (h : Draining F s pending .head c) :
    c.Lacks .head ↔ pending.length < Header.size := by
  have hdata : c.recv.bound.buffer.data = pending := h.front
  rw [TcpConnAsync.Lacks, Buffer.getLength_toNat h.short, hdata]

lemma Draining.body (h : Draining (framing env) s pending .body c) :
    ∃ hd n, pending = hd ++ c.recv.bound.buffer.data ∧ hd.length = Header.size ∧
      (framing env).bodyLen hd = some n ∧ c.recv.bound.header = Header.unwire hd ∧
      c.recv.bound.header.length.toNat = n ∧
      (c.Lacks .body ↔ c.recv.bound.buffer.data.length < n) := by
  obtain ⟨hd, n, hp, hl, hb, hhead⟩ := h.front
  have hn : c.recv.bound.header.length.toNat = n := by
    rw [hhead]
    exact TcpConnAsync.unwire_length_of_bodyLen hl hb
  refine ⟨hd, n, hp, hl, hb, hhead, hn, ?_⟩
  rw [TcpConnAsync.Lacks, UInt32.lt_iff_toNat_lt, hn, Buffer.getLength_toNat h.short]

lemma Draining.parse_head (hmax : (u.env inlineReply).recvMaxMsgSize = env.recvMaxMsgSize)
    (h : Draining (framing env) s pending .head u.conn) (hl : ¬ u.conn.Lacks .head)
    (hv : u.parse inlineReply .head = some v) : Receives env s v := by
  have hdata : u.conn.recv.bound.buffer.data = pending := h.front
  rw [h.lacks_head, not_lt] at hl
  have hsplit : u.conn.recv.bound.buffer.data =
      pending.take Header.size ++ pending.drop Header.size := by
    rw [hdata, List.take_append_drop]
  have htake : (pending.take Header.size).length = Header.size := List.length_take_of_le hl
  have hparse := @IOBound.parseHeader_eq _ env.recvMaxMsgSize.toUInt32 _ _ hsplit htake h.short
  have hpend := List.take_append_drop Header.size pending
  simp only [parse, TcpConnAsync.parseHeader, hmax, hparse] at hv
  cases hb : (framing env).bodyLen (pending.take Header.size) with
  | none =>
    rw [framing] at hb
    simp only [hb, ↓reduceIte, show ¬ (-1 : ℤ) = 0 by decide, show ¬ 0 < (-1 : ℤ) by decide] at hv
    obtain rfl := Option.some.inj hv
    have hmal : (framing env).parse pending = ([], .malformed) := by
      rw [← hpend]
      exact Framing.parse_malformed htake hb
    refine Receives.idle (Or.inl ⟨?_, ?_, fun _ => ?_⟩) rfl
    · rw [h.bodies, Framing.bodies, hmal]
      simp [TcpConnAsync.sockShutdownAndClose]
    · rw [h.ending, Framing.ending, hmal]
      exact h.idle
    · exact NetConn.sockShutdownAndClose_connStat _
  | some n =>
    have hb' := hb
    rw [framing] at hb'
    simp only [hb', reduceCtorEq, ↓reduceIte] at hv
    obtain rfl := Option.some.inj hv
    refine Receives.draining .body pending ⟨h.idle, ?_, ?_, h.bodies, h.ending⟩ rfl
    · have hshort := h.short
      rw [hdata] at hshort
      simp only [setConn_conn, List.length_drop]
      omega
    · exact ⟨pending.take Header.size, n, hpend.symm, htake, hb, rfl⟩

lemma dispatch_recv {payload : Bytes} (hv : u.dispatch inlineReply payload = some v) :
    v.readPc = .call .head ∧ v.conn.recv =
      { u.conn.recv with dispatched := u.conn.recv.dispatched ++ [payload] } := by
  unfold dispatch at hv
  cases hr : inlineReply payload with
  | none =>
    rw [hr] at hv
    obtain rfl := Option.some.inj hv
    exact ⟨rfl, rfl⟩
  | some msg =>
    rw [hr] at hv
    obtain ⟨senders, hs, rfl⟩ := Option.map_eq_some_iff.mp hv
    exact ⟨rfl, (Senders.step_recv hs).1⟩

lemma Draining.parse_body (h : Draining (framing env) s pending .body u.conn)
    (hv : u.parse inlineReply .body = some v) : Receives env s v := by
  obtain ⟨hd, n, hp, hl, hb, hhead, hn, hlacks⟩ := h.body
  by_cases hshort : u.conn.recv.bound.buffer.data.length < n
  · have hparse := @IOBound.parseMsgBody_short u.conn.recv.bound ⟨Header.zero, []⟩ (by omega)
    simp only [parse, TcpConnAsync.parseMsgBody, hparse, one_ne_zero, ↓reduceIte,
      zero_lt_one] at hv
    obtain rfl := Option.some.inj hv
    exact Receives.draining .body pending (h.of_recv rfl) rfl
  · rw [not_lt] at hshort
    have hparse := @IOBound.parseMsgBody_eq u.conn.recv.bound ⟨Header.zero, []⟩ (by omega) h.short
    simp only [parse, TcpConnAsync.parseMsgBody, hparse, ↓reduceIte] at hv
    obtain ⟨hpc, hrecv⟩ := dispatch_recv hv
    rw [hn] at hrecv
    have hframe := Framing.parse_frame (F := framing env)
      (f := ⟨hd, u.conn.recv.bound.buffer.data.take n⟩)
      ⟨hl, by rw [hb, List.length_take_of_le hshort]⟩ (u.conn.recv.bound.buffer.data.drop n)
    rw [Frame.elems, List.append_assoc, List.take_append_drop, ← hp] at hframe
    refine Receives.draining .head (u.conn.recv.bound.buffer.data.drop n)
      ⟨?_, ?_, ?_, ?_, ?_⟩ (by rw [hpc]; rfl)
    · rw [hrecv]
      exact h.idle
    · rw [hrecv]
      have h32 := h.short
      simp only [setConn_conn, List.length_drop]
      omega
    · simp only [Front, hrecv, setConn_conn]
    · rw [h.bodies, Framing.bodies, hframe, hrecv]
      simp [Framing.bodies]
    · rw [h.ending, Framing.ending, hframe]
      rfl

/-- A call of `do_read` or `do_read_msg` stops, waits for more of the stream, or goes on. -/
lemma Draining.call (hmax : (u.env inlineReply).recvMaxMsgSize = env.recvMaxMsgSize)
    (h : Draining (framing env) s pending kind u.conn)
    (hv : u.callRead inlineReply kind = some v) : Receives env s v := by
  have hstop : ∀ c : TcpConnAsync, c.recv = u.conn.recv →
      Receives env s (u.setConn c .idle) := by
    intro c hr
    refine Receives.idle (Or.inr ⟨hr ▸ h.idle, ?_⟩) rfl
    rw [setConn_conn, hr]
    exact ⟨_, h.bodies.symm⟩
  unfold callRead at hv
  split_ifs at hv with hw hc hl
  · obtain rfl := Option.some.inj hv
    exact hstop _ rfl
  · obtain rfl := Option.some.inj hv
    exact hstop _ rfl
  · obtain rfl := Option.some.inj hv
    have hset := (TcpConnAsync.recvView_eq_iff.mp
      (TcpConnAsync.setOpsCancelTimeout_recvView (u.env inlineReply) u.conn)).2.2
    have hreads : ((u.conn.setOpsCancelTimeout (u.env inlineReply)).asyncRead kind
        (atLeast u.conn kind)).recv = { u.conn.recv with
          reads := [⟨(u.conn.setOpsCancelTimeout (u.env inlineReply)).ops, kind,
            atLeast u.conn kind⟩] } := by
      simp [TcpConnAsync.asyncRead, hset, h.idle]
    refine Receives.idle (Or.inl ?_) rfl
    rw [setConn_conn, TcpConnAsync.Awaits.eq_def, hreads, h.bodies, h.ending]
    cases kind with
    | head =>
      have hparse : (framing env).parse pending = ([], .head pending) :=
        Framing.parse_short (h.lacks_head.mp hl)
      have hdata : u.conn.recv.bound.buffer.data = pending := h.front
      simp [Framing.bodies, Framing.ending, hparse, atLeast, Buffer.getLength_toNat h.short, hdata]
    | body =>
      obtain ⟨hd, n, hp, hlen, hb, hhead, hn, hlacks⟩ := h.body
      have hcut := hlacks.mp hl
      have hparse := Framing.parse_cut hlen hb hcut
      have hat : atLeast u.conn .body =
          min ((Header.unwire hd).length.toNat - u.conn.recv.bound.buffer.data.length)
            kFixedIoBufferSize.toNat := by
        rw [atLeast, UInt32.toNat_min, UInt32.toNat_sub_of_le _ _ (UInt32.le_of_lt hl), hhead,
          Buffer.getLength_toNat h.short]
      simp [Framing.bodies, Framing.ending, hp, hparse, hat, hhead]
  · cases kind with
    | head => exact h.parse_head hmax hl hv
    | body => exact h.parse_body hv

lemma Receives.chain (hmax : (u.env inlineReply).recvMaxMsgSize = env.recvMaxMsgSize)
    (h : Receives env s u) (hv : u.chain inlineReply = some v) : Receives env s v := by
  unfold UpdatedConn.chain at hv
  split_ifs at hv
  cases hpc : u.readPc with
  | idle => simp [hpc] at hv
  | handler kind =>
    simp only [hpc, handleRead] at hv
    have hk : u.readPc.kind = some kind := by rw [hpc]; rfl
    obtain ⟨pending, hd⟩ := h.of_kind hk
    split_ifs at hv with hshort
    · obtain rfl := Option.some.inj hv
      exact Receives.draining .head pending (hshort.1 ▸ hd.of_recv rfl) rfl
    · cases kind with
      | head => exact hd.parse_head hmax (fun hl => hshort ⟨rfl, hl⟩) hv
      | body => exact hd.parse_body hv
  | call kind =>
    simp only [hpc] at hv
    have hk : u.readPc.kind = some kind := by rw [hpc]; rfl
    obtain ⟨pending, hd⟩ := h.of_kind hk
    exact hd.call hmax hv

lemma strandFree_readPc (h : u.strandFree = true) : u.readPc = .idle := by
  simp only [strandFree, Bool.and_eq_true, decide_eq_true_eq] at h
  exact h.1

lemma Receives.awaits {i : ℕ} {bytes : Bytes} (h : Receives env s u)
    (hv : u.step inlineReply (.readDone i bytes) = some v) :
    ∃ op, u.conn.recv.reads[i]? = some op ∧ bytes.length ≤ kFixedIoBufferSize.toNat ∧
      v = u.setConn ((u.conn.dropRead i).revokeOpsCancelTimeout.received bytes)
        (.handler op.kind) ∧
      u.conn.recv.dispatched = (framing env).bodies s ∧
      u.conn.Awaits ((framing env).ending s) := by
  obtain ⟨op, hop, hv⟩ := Option.bind_eq_some_iff.mp hv
  split_ifs at hv with hfree
  obtain ⟨hfree, -, hmax⟩ := hfree
  rcases h.of_idle (strandFree_readPc hfree) with ⟨hdisp, hawaits, -⟩ | ⟨hreads, -⟩
  · exact ⟨op, hop, hmax, (Option.some.inj hv).symm, hdisp, hawaits⟩
  · simp [hreads] at hop

lemma Receives.room {i : ℕ} {bytes : Bytes} (hB : TcpConnAsync.Bounded env s)
    (h : Receives env s u) (hv : u.step inlineReply (.readDone i bytes) = some v) :
    u.conn.recv.bound.buffer.data.length + bytes.length < 2 ^ 32 := by
  obtain ⟨op, hop, hmax, -, -, hawaits⟩ := h.awaits hv
  have h2048 : kFixedIoBufferSize.toNat = 2048 := rfl
  rcases Framing.ending_cases (F := framing env) s with
    ⟨r, he, hr⟩ | ⟨hd, r, n, he, -, hb, hr⟩ | he
    <;> rw [he] at hawaits
  · obtain ⟨hdata, -⟩ := hawaits
    simp only [framing_headLen, Header.size] at hr
    rw [hdata]
    omega
  · obtain ⟨hdata, -⟩ := hawaits
    have hn := hB hd r n he hb
    rw [hdata]
    omega
  · simp [show u.conn.recv.reads = [] from hawaits] at hop

lemma Receives.readDone {i : ℕ} {bytes : Bytes}
    (hroom : u.conn.recv.bound.buffer.data.length + bytes.length < 2 ^ 32)
    (h : Receives env s u) (hv : u.step inlineReply (.readDone i bytes) = some v) :
    Receives env (s ++ bytes) v := by
  obtain ⟨op, hop, -, rfl, hdisp, hawaits⟩ := h.awaits hv
  have hrecv : ((u.conn.dropRead i).revokeOpsCancelTimeout.received bytes).recv =
      { u.conn.recv with
        reads := u.conn.recv.reads.eraseIdx i
        bound := { u.conn.recv.bound with
          buffer := ⟨u.conn.recv.bound.buffer.data ++ bytes⟩ } } := by
    obtain ⟨-, -, hr⟩ := TcpConnAsync.recvView_eq_iff.mp
      (TcpConnAsync.revokeOpsCancelTimeout_recvView (u.conn.dropRead i))
    rw [TcpConnAsync.received, hr]
    rfl
  have hshort : ((u.conn.dropRead i).revokeOpsCancelTimeout.received
      bytes).recv.bound.buffer.data.length < 2 ^ 32 := by
    rw [hrecv, List.length_append]
    exact hroom
  have hsingle : ∀ op', u.conn.recv.reads = [op'] → i = 0 ∧ op = op' := by
    intro op' hreads
    rw [hreads, List.getElem?_singleton] at hop
    split_ifs at hop with hi
    exact ⟨hi, (Option.some.inj hop).symm⟩
  rcases Framing.ending_cases (F := framing env) s with
    ⟨r, he, hr⟩ | ⟨hd, r, n, he, hl, hb, hr⟩ | he
    <;> rw [he] at hawaits
  · obtain ⟨hdata, id, hreads⟩ := hawaits
    obtain ⟨rfl, rfl⟩ := hsingle _ hreads
    have hpend : ((framing env).ending s).pending = some r := by rw [he]; rfl
    refine Receives.draining .head (r ++ bytes) ⟨?_, hshort, ?_, ?_, ?_⟩ rfl
    · simp [hrecv, hreads]
    · simp only [Front, setConn_conn, hrecv, hdata]
    · rw [setConn_conn, hrecv, hdisp, Framing.bodies_append hpend]
    · exact Framing.ending_append hpend
  · obtain ⟨hdata, hhead, id, hreads⟩ := hawaits
    obtain ⟨rfl, rfl⟩ := hsingle _ hreads
    have hpend : ((framing env).ending s).pending = some (hd ++ r) := by rw [he]; rfl
    refine Receives.draining .body (hd ++ r ++ bytes) ⟨?_, hshort, ?_, ?_, ?_⟩ rfl
    · simp [hrecv, hreads]
    · exact ⟨hd, n, by simp [hrecv, hdata], hl, hb, by simp [hrecv, hhead]⟩
    · rw [setConn_conn, hrecv, hdisp, Framing.bodies_append hpend]
    · exact Framing.ending_append hpend
  · simp [show u.conn.recv.reads = [] from hawaits] at hop

/-- The completed read of an event, if it has one, leaves less than 4 GiB buffered. -/
def Event.Fits (u : UpdatedConn) : Event → Prop
  | .readDone _ bytes => u.conn.recv.bound.buffer.data.length + bytes.length < 2 ^ 32
  | _ => True

lemma Receives.step {e : Event} (hmax : (u.env inlineReply).recvMaxMsgSize = env.recvMaxMsgSize)
    (hfits : e.Fits u) (h : Receives env s u) (hstart : e ≠ .start)
    (hv : u.step inlineReply e = some v) : Receives env (s ++ e.delivers) v := by
  cases e with
  | start => exact absurd rfl hstart
  | readDone i bytes => exact h.readDone hfits hv
  | readFail i ec =>
    change Receives env (s ++ []) v
    rw [List.append_nil]
    obtain ⟨op, hop, hv⟩ := Option.bind_eq_some_iff.mp hv
    split_ifs at hv with hfree
    obtain rfl := Option.some.inj hv
    have hpc := strandFree_readPc hfree.1
    refine Receives.idle ((h.of_idle hpc).step (e := .readFail i ec) (by simp) ?_) rfl
    simp [TcpConnAsync.step, hop, hfree.2]
  | chain =>
    change Receives env (s ++ []) v
    rw [List.append_nil]
    exact h.chain hmax hv
  | sender e =>
    change Receives env (s ++ []) v
    rw [List.append_nil]
    simp only [UpdatedConn.step] at hv
    split_ifs at hv
    obtain ⟨senders, hs, rfl⟩ := Option.map_eq_some_iff.mp hv
    obtain ⟨hr, hc⟩ := Senders.step_recv hs
    exact h.of_recv rfl hr hc
  | moduleRuntime doc =>
    change Receives env (s ++ []) v
    rw [List.append_nil]
    obtain rfl := Option.some.inj hv
    exact h.of_recv rfl rfl id

end Receives

section Accepts

variable {inlineReply : Bytes → Option Message} {u v : UpdatedConn}

structure SameSends (c d : TcpConnAsync) : Prop where
  send : d.send = c.send
  dispatched : d.recv.dispatched = c.recv.dispatched
  closed : c.net.connStat = .kClosed → d.net.connStat = .kClosed

lemma parse_cases {kind : ReadKind} (hv : u.parse inlineReply kind = some v) :
    (∃ c pc, v = u.setConn c pc ∧ SameSends u.conn c) ∨
      ∃ c payload, SameSends u.conn c ∧
        (u.setConn c (.call .head)).dispatch inlineReply payload = some v := by
  cases kind with
  | head =>
    simp only [parse] at hv
    split_ifs at hv <;> obtain rfl := Option.some.inj hv
    · exact Or.inl ⟨_, _, rfl, rfl, rfl, id⟩
    · exact Or.inl ⟨_, _, rfl, rfl, rfl, id⟩
    · exact Or.inl ⟨_, _, rfl, rfl, rfl, fun _ => NetConn.sockShutdownAndClose_connStat _⟩
  | body =>
    simp only [parse] at hv
    split_ifs at hv
    · exact Or.inr ⟨(u.conn.parseMsgBody ⟨Header.zero, []⟩).2.2, _, ⟨rfl, rfl, id⟩, hv⟩
    · obtain rfl := Option.some.inj hv
      exact Or.inl ⟨_, _, rfl, rfl, rfl, id⟩
    · obtain rfl := Option.some.inj hv
      exact Or.inl ⟨_, _, rfl, rfl, rfl, fun _ => NetConn.sockShutdownAndClose_connStat _⟩

lemma chain_cases (hv : u.chain inlineReply = some v) :
    (∃ c pc, v = u.setConn c pc ∧ SameSends u.conn c) ∨
      ∃ c payload, SameSends u.conn c ∧
        (u.setConn c (.call .head)).dispatch inlineReply payload = some v := by
  unfold UpdatedConn.chain at hv
  split_ifs at hv
  cases hpc : u.readPc with
  | idle => simp [hpc] at hv
  | handler kind =>
    simp only [hpc, handleRead] at hv
    split_ifs at hv
    · obtain rfl := Option.some.inj hv
      exact Or.inl ⟨_, _, rfl, rfl, rfl, id⟩
    · exact parse_cases hv
  | call kind =>
    simp only [hpc, callRead] at hv
    split_ifs at hv
    · obtain rfl := Option.some.inj hv
      exact Or.inl ⟨_, _, rfl, rfl, rfl, id⟩
    · obtain rfl := Option.some.inj hv
      exact Or.inl ⟨_, _, rfl, rfl, rfl, id⟩
    · obtain rfl := Option.some.inj hv
      have hset := TcpConnAsync.recvView_eq_iff.mp
        (TcpConnAsync.setOpsCancelTimeout_recvView (u.env inlineReply) u.conn)
      refine Or.inl ⟨_, _, rfl, ?_, ?_, fun hc => ?_⟩
      · exact TcpConnAsync.setOpsCancelTimeout_send (u.env inlineReply) u.conn
      · simp [TcpConnAsync.asyncRead, hset.2.2]
      · simpa [TcpConnAsync.asyncRead, hset.1] using hc
    · exact parse_cases hv

/-- The dispatched payloads are the ones of `u` and `new`, the accepted messages the ones of
`u` and the rejections of `new`. -/
def Gains (inlineReply : Bytes → Option Message) (u v : UpdatedConn) : Prop :=
  ∃ new, v.conn.recv.dispatched = u.conn.recv.dispatched ++ new ∧
    v.senders.accepted = u.senders.accepted ++
      new.flatMap (TcpConnAsync.acceptsInline (u.env inlineReply))

lemma Gains.of_eq (hd : v.conn.recv.dispatched = u.conn.recv.dispatched)
    (ha : v.senders.accepted = u.senders.accepted) : Gains inlineReply u v :=
  ⟨[], by simpa using hd, by simpa using ha⟩

lemma append_cases {env : ServerEnv} {s t : Senders} {th : Thread} {msg : Message}
    (hs : Senders.step env s (.append th msg) = some t) :
    t.accepted = s.accepted ++ TcpConnAsync.accepts env msg ∧
      t.wire = s.wire ∧ t.conn.recv = s.conn.recv := by
  simp only [Senders.step] at hs
  split_ifs at hs with hpc hr <;> obtain rfl := Option.some.inj hs
  · simp [TcpConnAsync.accepts, hr]
  · simp [TcpConnAsync.accepts, hr, Senders.goto, TcpConnAsync.appendMessage]

lemma readFailed_dispatched (i : ℕ) (ec : ErrorCode) :
    ((u.conn.dropRead i).readFailed ec).recv.dispatched = u.conn.recv.dispatched := by
  rw [TcpConnAsync.readFailed_recv, TcpConnAsync.dropRead]

lemma dispatch_gains {payload : Bytes} (hv : u.dispatch inlineReply payload = some v) :
    Gains inlineReply u v := by
  obtain ⟨-, hrecv⟩ := dispatch_recv hv
  refine ⟨[payload], by rw [hrecv], ?_⟩
  unfold dispatch at hv
  rw [List.flatMap_singleton, TcpConnAsync.acceptsInline,
    show (u.env inlineReply).inlineReply payload = inlineReply payload from rfl]
  cases hr : inlineReply payload with
  | none =>
    rw [hr] at hv
    obtain rfl := Option.some.inj hv
    exact (List.append_nil _).symm
  | some msg =>
    rw [hr] at hv
    obtain ⟨senders, hs, rfl⟩ := Option.map_eq_some_iff.mp hv
    exact (append_cases hs).1

lemma sender_accepted {env : ServerEnv} {s t : Senders} {e : Senders.Event}
    (he : ∀ th msg, e ≠ .append th msg) (hs : Senders.step env s e = some t) :
    t.accepted = s.accepted := by
  cases e with
  | append th msg => exact absurd rfl (he th msg)
  | test th =>
    simp only [Senders.step] at hs
    split_ifs at hs <;> obtain rfl := Option.some.inj hs <;> rfl
  | critical th =>
    simp only [Senders.step] at hs
    split_ifs at hs
    obtain rfl := Option.some.inj hs
    rfl
  | wrote i n =>
    obtain ⟨op, -, hs⟩ := Option.bind_eq_some_iff.mp hs
    split_ifs at hs
    obtain rfl := Option.some.inj hs
    rfl
  | writeDone i =>
    obtain ⟨op, -, hs⟩ := Option.bind_eq_some_iff.mp hs
    split_ifs at hs
    obtain rfl := Option.some.inj hs
    rfl
  | writeFail i ec =>
    obtain ⟨op, -, hs⟩ := Option.bind_eq_some_iff.mp hs
    split_ifs at hs
    obtain rfl := Option.some.inj hs
    rfl
  | readFail ec =>
    simp only [Senders.step] at hs
    split_ifs at hs
    obtain rfl := Option.some.inj hs
    rfl
  | refuseHead =>
    simp only [Senders.step] at hs
    split_ifs at hs
    obtain rfl := Option.some.inj hs
    rfl
  | timerExpire =>
    simp only [Senders.step] at hs
    split_ifs at hs
    obtain rfl := Option.some.inj hs
    rfl
  | timerHandler i =>
    obtain ⟨w, -, rfl⟩ := Option.map_eq_some_iff.mp hs
    rfl

lemma step_gains {e : Event} (he : ∀ th msg, e ≠ .sender (.append th msg))
    (hv : u.step inlineReply e = some v) : Gains inlineReply u v := by
  cases e with
  | start =>
    simp only [UpdatedConn.step] at hv
    split_ifs at hv
    obtain rfl := Option.some.inj hv
    exact Gains.of_eq rfl rfl
  | readDone i bytes =>
    obtain ⟨op, -, hv⟩ := Option.bind_eq_some_iff.mp hv
    split_ifs at hv
    obtain rfl := Option.some.inj hv
    exact Gains.of_eq (TcpConnAsync.received_dispatched (u.conn.dropRead i) bytes) rfl
  | readFail i ec =>
    obtain ⟨op, -, hv⟩ := Option.bind_eq_some_iff.mp hv
    split_ifs at hv
    obtain rfl := Option.some.inj hv
    exact Gains.of_eq (readFailed_dispatched i ec) rfl
  | chain =>
    rcases chain_cases hv with ⟨c, pc, rfl, hc⟩ | ⟨c, payload, hc, hd⟩
    · exact Gains.of_eq hc.dispatched rfl
    · obtain ⟨new, hdisp, hacc⟩ := dispatch_gains hd
      exact ⟨new, by rw [hdisp, setConn_conn, hc.dispatched], hacc⟩
  | sender e =>
    simp only [UpdatedConn.step] at hv
    split_ifs at hv
    obtain ⟨senders, hs, rfl⟩ := Option.map_eq_some_iff.mp hv
    exact Gains.of_eq (congrArg RecvSide.dispatched (Senders.step_recv hs).1)
      (sender_accepted (fun th msg heq => he th msg (congrArg _ heq)) hs)
  | moduleRuntime doc =>
    obtain rfl := Option.some.inj hv
    exact Gains.of_eq rfl rfl

/-- No thread takes bytes out of the buffer while a write is outstanding. -/
def TakesAlone (u : UpdatedConn) : Event → Prop
  | .sender e => u.senders.TakesAlone e
  | _ => True

lemma inOrder_setConn {c : TcpConnAsync} {pc : ReadPc} (h : Senders.InOrder u.senders)
    (hc : SameSends u.conn c) : Senders.InOrder (u.setConn c pc).senders :=
  Senders.InOrder.of_send_eq h hc.send rfl rfl hc.closed

lemma inOrder_dispatch {payload : Bytes} (h : Senders.InOrder u.senders)
    (hv : u.dispatch inlineReply payload = some v) : Senders.InOrder v.senders := by
  unfold UpdatedConn.dispatch at hv
  have hrec : Senders.InOrder (u.setConn { u.conn with recv := { u.conn.recv with
      dispatched := u.conn.recv.dispatched ++ [payload] } } (.call .head)).senders :=
    Senders.InOrder.of_send_eq h rfl rfl rfl id
  cases hr : inlineReply payload with
  | none =>
    rw [hr] at hv
    obtain rfl := Option.some.inj hv
    exact hrec
  | some msg =>
    rw [hr] at hv
    obtain ⟨senders, hs, rfl⟩ := Option.map_eq_some_iff.mp hv
    exact (Senders.InOrder.step (e := .append .strand msg) hrec trivial hs).1

lemma inOrder_step {e : Event} (h : Senders.InOrder u.senders) (hx : u.TakesAlone e)
    (hv : u.step inlineReply e = some v) : Senders.InOrder v.senders := by
  cases e with
  | start =>
    simp only [UpdatedConn.step] at hv
    split_ifs at hv with hp
    obtain rfl := Option.some.inj hv
    exact inOrder_setConn h ⟨rfl, rfl, fun hc => absurd (hp.1.symm.trans hc) (by decide)⟩
  | readDone i bytes =>
    obtain ⟨op, -, hv⟩ := Option.bind_eq_some_iff.mp hv
    split_ifs at hv
    obtain rfl := Option.some.inj hv
    obtain ⟨hn, -, -⟩ := TcpConnAsync.recvView_eq_iff.mp
      (TcpConnAsync.revokeOpsCancelTimeout_recvView (u.conn.dropRead i))
    refine inOrder_setConn h ⟨?_, TcpConnAsync.received_dispatched (u.conn.dropRead i) bytes,
      fun hc => hn.symm ▸ hc⟩
    exact TcpConnAsync.revokeOpsCancelTimeout_send (u.conn.dropRead i)
  | readFail i ec =>
    obtain ⟨op, -, hv⟩ := Option.bind_eq_some_iff.mp hv
    split_ifs at hv
    obtain rfl := Option.some.inj hv
    exact inOrder_setConn h ⟨Senders.readFailed_send (u.conn.dropRead i) ec,
      readFailed_dispatched i ec, TcpConnAsync.readFailed_closed (c := u.conn.dropRead i) ec⟩
  | chain =>
    rcases chain_cases hv with ⟨c, pc, rfl, hc⟩ | ⟨c, payload, hc, hd⟩
    · exact inOrder_setConn h hc
    · exact inOrder_dispatch (inOrder_setConn h hc) hd
  | sender e =>
    simp only [UpdatedConn.step] at hv
    split_ifs at hv
    obtain ⟨senders, hs, rfl⟩ := Option.map_eq_some_iff.mp hv
    exact (Senders.InOrder.step h hx hs).1
  | moduleRuntime doc =>
    obtain rfl := Option.some.inj hv
    exact h

end Accepts

end UpdatedConn

end Tzrpc
