import Mathlib.Algebra.Order.BigOperators.Group.List
import Tzrpc.ListUpdate
import Tzrpc.RpcMessage
import Tzrpc.SendWakeups
import Tzrpc.TcpConnAsyncUpdatesReads

/-!
# A connection winds down

How many steps a connection can still take of itself once its peer sends nothing more. What
it has buffered of requests and of messages, its operations and its timer each account for a
number of steps, and every step takes more off this number than it adds.
-/
namespace Tzrpc

/-- A pending wait completes, then its handler runs. -/
def SteadyTimer.remaining {α : Type*} (t : SteadyTimer α) : ℕ :=
  2 * t.pending.length + t.queued.length

def SendPc.remaining : SendPc → ℕ
  | .idle => 0
  | .atCritical => 1
  | .atTest => 2

def WriteOp.remaining (op : WriteOp) : ℕ := 3 + (op.size - op.sent)

/-- A byte in the send buffer may take a write of its own. -/
def TcpConnAsync.remaining (c : TcpConnAsync) : ℕ :=
  c.recv.reads.length + 6 * c.send.bound.buffer.data.length +
    (c.send.writes.map WriteOp.remaining).sum + c.opsCancelTimer.remaining

def rejectLength : ℕ := Header.size + RpcResponseHeader.size

/-- A body that is dispatched may be rejected, which takes the sending of the rejection. -/
def ReadPc.remaining : ReadPc → ℕ
  | .idle => 0
  | .call .head => 4
  | .handler .head => 5
  | .call .body => 7 + 6 * rejectLength
  | .handler .body => 8 + 6 * rejectLength

def Senders.busy (workers : List Thread) (s : Senders) : ℕ :=
  (s.pc .strand).remaining + (workers.map fun th => (s.pc th).remaining).sum

namespace UpdatedConn

/-- The read chain goes through what is buffered only while it runs. -/
def chainRemaining (u : UpdatedConn) : ℕ :=
  if u.readPc = .idle then 0
  else u.readPc.remaining + 13 * u.conn.recv.bound.buffer.data.length

def remaining (workers : List Thread) (u : UpdatedConn) : ℕ :=
  u.chainRemaining + u.conn.remaining + u.senders.busy workers

/-- A step the connection takes without anything new to read or to send. A write that puts
no byte on the wire is no step. -/
def Event.windsDown : Event → Bool
  | .readFail _ _ => true
  | .chain => true
  | .sender (.append _ _) => false
  | .sender (.wrote _ n) => decide (n ≠ 0)
  | .sender _ => true
  | _ => false

end UpdatedConn

namespace SteadyTimer

variable {α : Type*} {t u : SteadyTimer α}

lemma completed_remaining {code : WaitCode} (hp : u.pending = [])
    (hq : u.queued = t.completeAll code) : u.remaining + t.pending.length = t.remaining := by
  simp only [remaining, hp, hq, completeAll, List.length_nil, List.length_append, List.length_map]
  omega

lemma cancel_remaining (t : SteadyTimer α) : t.cancel.remaining ≤ t.remaining :=
  Nat.le.intro (completed_remaining t.pending_cancel rfl)

lemma create_remaining (t : SteadyTimer α) : t.create.remaining ≤ t.remaining :=
  Nat.le.intro (completed_remaining t.pending_create rfl)

lemma destroy_remaining (t : SteadyTimer α) : t.destroy.remaining ≤ t.remaining :=
  Nat.le.intro (completed_remaining t.pending_destroy rfl)

lemma expire_remaining (h : t.pending ≠ []) : t.expire.remaining < t.remaining := by
  have hpos := List.length_pos_iff.mpr h
  have hsum := completed_remaining t.pending_expire rfl
  omega

lemma asyncWait_remaining (t : SteadyTimer α) (a : α) :
    (t.asyncWait a).remaining ≤ t.remaining + 2 := by
  cases h : t.object <;> simp only [remaining, asyncWait, pending, h, Option.map_none,
    Option.map_some, Option.getD_none, Option.getD_some, List.length_append, List.length_nil,
    List.length_singleton] <;> omega

lemma take_remaining {i : ℕ} {c : Completion α} (h : t.take i = some (c, u)) :
    u.remaining < t.remaining := by
  obtain ⟨d, hd, he⟩ := Option.map_eq_some_iff.mp h
  obtain ⟨rfl, rfl⟩ := Prod.mk.inj he
  have hi := (List.getElem?_eq_some_iff.mp hd).1
  simp only [remaining, pending, List.length_eraseIdx, if_pos hi]
  omega

end SteadyTimer

namespace TcpConnAsync

variable {env : ServerEnv} {c d : TcpConnAsync}

lemma setOpsCancelTimeout_remaining (env : ServerEnv) (c : TcpConnAsync) :
    (c.setOpsCancelTimeout env).opsCancelTimer.remaining ≤ c.opsCancelTimer.remaining + 2 := by
  unfold setOpsCancelTimeout
  split_ifs with h0 ho
  · exact Nat.le_add_right _ _
  · have hwait := c.opsCancelTimer.cancel.expiresFromNow.asyncWait_remaining c.ops
    have hset := c.opsCancelTimer.cancel.cancel_remaining
    have hcancel := c.opsCancelTimer.cancel_remaining
    exact hwait.trans (Nat.add_le_add_right (hset.trans hcancel) 2)
  · have hwait := c.opsCancelTimer.create.expiresFromNow.asyncWait_remaining c.ops
    have hset := c.opsCancelTimer.create.cancel_remaining
    have hcreate := c.opsCancelTimer.create_remaining
    exact hwait.trans (Nat.add_le_add_right (hset.trans hcreate) 2)

lemma revokeOpsCancelTimeout_remaining (c : TcpConnAsync) :
    c.revokeOpsCancelTimeout.opsCancelTimer.remaining ≤ c.opsCancelTimer.remaining := by
  unfold revokeOpsCancelTimeout
  split_ifs
  · exact c.opsCancelTimer.cancel.destroy_remaining.trans c.opsCancelTimer.cancel_remaining
  · exact le_rfl

lemma remaining_le (hreads : d.recv.reads = c.recv.reads) (hsend : d.send = c.send)
    (htimer : d.opsCancelTimer.remaining ≤ c.opsCancelTimer.remaining) :
    d.remaining ≤ c.remaining := by
  simp only [remaining, hreads, hsend]
  omega

lemma readFailed_remaining (c : TcpConnAsync) (ec : ErrorCode) :
    (c.readFailed ec).remaining ≤ c.remaining := by
  refine remaining_le (congrArg RecvSide.reads (readFailed_recv c ec))
    (Senders.readFailed_send c ec) ?_
  have hrevoke := c.revokeOpsCancelTimeout_remaining
  have hagain := c.revokeOpsCancelTimeout.revokeOpsCancelTimeout_remaining
  unfold readFailed handleSocketEc
  split_ifs
  · exact hagain.trans hrevoke
  · exact hrevoke

lemma writeCompleted_remaining (c : TcpConnAsync) : c.writeCompleted.remaining ≤ c.remaining := by
  obtain ⟨-, -, hrecv⟩ := recvView_eq_iff.mp c.revokeOpsCancelTimeout_recvView
  have hrevoke := c.revokeOpsCancelTimeout_remaining
  simp only [remaining, writeCompleted, hrecv, revokeOpsCancelTimeout_send]
  omega

lemma dropRead_remaining {i : ℕ} {op : ReadOp} (h : c.recv.reads[i]? = some op) :
    (c.dropRead i).remaining < c.remaining := by
  have hi := (List.getElem?_eq_some_iff.mp h).1
  simp only [remaining, dropRead, List.length_eraseIdx, if_pos hi]
  omega

lemma dropWrite_remaining {i : ℕ} {op : WriteOp} (h : c.send.writes[i]? = some op) :
    (c.dropWrite i).remaining + 3 ≤ c.remaining := by
  have hsum := @sum_eraseIdx_add _ WriteOp.remaining _ _ _ h
  have hop : 3 ≤ op.remaining := Nat.le_add_right _ _
  simp only [remaining, dropWrite]
  omega

lemma markSent_remaining {i n : ℕ} {op : WriteOp} (h : c.send.writes[i]? = some op)
    (hn : op.sent + n ≤ op.size) (h0 : n ≠ 0) : (c.markSent i op n).remaining < c.remaining := by
  have hsum := @sum_set_add _ WriteOp.remaining _ _ _ { op with sent := op.sent + n } h
  have hop : ({ op with sent := op.sent + n } : WriteOp).remaining < op.remaining := by
    simp only [WriteOp.remaining]
    omega
  simp only [remaining, markSent]
  omega

lemma doWriteCritical_remaining (env : ServerEnv) (c : TcpConnAsync) :
    (c.doWriteCritical env).remaining ≤ c.remaining := by
  by_cases h0 : c.send.bound.buffer.getLength = 0
  · rw [Senders.doWriteCritical_empty h0]
    exact le_rfl
  · have hlen := c.send.bound.buffer.getLength_le
    have hpos : 0 < c.send.bound.buffer.getLength.toNat :=
      Nat.pos_of_ne_zero fun h => h0 (UInt32.toNat_inj.mp h)
    have h2048 : kFixedIoBufferSize.toNat = 2048 := rfl
    have hn := UInt32.toNat_min c.send.bound.buffer.getLength kFixedIoBufferSize
    have hdata := (@Buffer.consumeBlock_eq c.send.bound.buffer c.send.bound.ioBlock
      (min c.send.bound.buffer.getLength kFixedIoBufferSize) (by omega)).2
    obtain ⟨-, -, hrecv⟩ := recvView_eq_iff.mp (setOpsCancelTimeout_recvView env c)
    have hset := setOpsCancelTimeout_remaining env c
    rw [doWriteCritical, if_neg h0]
    simp only [remaining, startWrite, setOpsCancelTimeout_send, hrecv, hdata, List.length_drop,
      List.map_append, List.sum_append, List.map_singleton, List.sum_singleton, WriteOp.remaining]
    omega

lemma asyncRead_remaining (env : ServerEnv) (c : TcpConnAsync) (kind : ReadKind) (n : ℕ) :
    ((c.setOpsCancelTimeout env).asyncRead kind n).remaining ≤ c.remaining + 3 := by
  obtain ⟨-, -, hrecv⟩ := recvView_eq_iff.mp (setOpsCancelTimeout_recvView env c)
  have hset := setOpsCancelTimeout_remaining env c
  simp only [remaining, asyncRead, setOpsCancelTimeout_send, hrecv, List.length_append,
    List.length_singleton]
  omega

lemma appendMessage_remaining (c : TcpConnAsync) (msg : Message) :
    (c.appendMessage msg).remaining = c.remaining + 6 * msg.netStr.length := by
  simp only [remaining, appendMessage, Buffer.append_data, List.length_append]
  omega

end TcpConnAsync

namespace Senders

variable {env : ServerEnv} {workers : List Thread} {s t : Senders} {th : Thread} {pc : SendPc}

lemma goto_pc_self : (s.goto th pc).pc th = pc := Function.update_self _ _ _

lemma goto_pc_of_ne {u : Thread} (h : u ≠ th) : (s.goto th pc).pc u = s.pc u :=
  Function.update_of_ne h _ _

lemma busy_goto_lt (hth : th ∈ Thread.strand :: workers)
    (hpc : pc.remaining < (s.pc th).remaining) : (s.goto th pc).busy workers < s.busy workers := by
  have hsum : ((Thread.strand :: workers).map fun u => ((s.goto th pc).pc u).remaining).sum <
      ((Thread.strand :: workers).map fun u => (s.pc u).remaining).sum := by
    refine List.sum_lt_sum _ _ (fun u _ => ?_) ⟨th, hth, by rwa [goto_pc_self]⟩
    by_cases hu : u = th
    · rw [hu, goto_pc_self]
      exact hpc.le
    · rw [goto_pc_of_ne hu]
  simpa [busy] using hsum

lemma busy_goto_strand (h : .strand ∉ workers) :
    (s.goto .strand pc).busy workers + (s.pc .strand).remaining =
      s.busy workers + pc.remaining := by
  have hsame : (workers.map fun th => ((s.goto .strand pc).pc th).remaining) =
      workers.map fun th => (s.pc th).remaining := by
    refine List.map_congr_left fun th hth => ?_
    rw [goto_pc_of_ne (ne_of_mem_of_not_mem hth h)]
  rw [busy, busy, hsame, goto_pc_self]
  omega

lemma append_isSome {msg : Message} (h : s.pc th = .idle) :
    (step env s (.append th msg)).isSome := by
  rw [step, if_pos h]
  split_ifs <;> rfl

def BusyOnly (workers : List Thread) (s : Senders) : Prop :=
  ∀ th, s.pc th ≠ .idle → th ∈ Thread.strand :: workers

lemma append_remaining {msg : Message} (hw : .strand ∉ workers)
    (hs : step env s (.append .strand msg) = some t) :
    t.conn.remaining + t.busy workers ≤
      s.conn.remaining + s.busy workers + (6 * msg.netStr.length + 2) := by
  simp only [step] at hs
  split_ifs at hs
  · obtain rfl := Option.some.inj hs
    exact Nat.le_add_right _ _
  · obtain rfl := Option.some.inj hs
    have hbytes := s.conn.appendMessage_remaining msg
    have hbusy := @busy_goto_strand workers { s with
      conn := s.conn.appendMessage msg, accepted := s.accepted ++ [msg] } .atTest hw
    have hsame : ({ s with conn := s.conn.appendMessage msg, accepted := s.accepted ++ [msg] } :
      Senders).busy workers = s.busy workers := rfl
    have hpc : SendPc.atTest.remaining = 2 := rfl
    change (s.conn.appendMessage msg).remaining + _ ≤ _
    omega

lemma step_remaining {e : Event} (hw : .strand ∉ workers) (hb : s.BusyOnly workers)
    (hown : (UpdatedConn.Event.sender e).windsDown) (hread : ∀ ec, e ≠ .readFail ec)
    (hhead : e ≠ .refuseHead) (hs : step env s e = some t) :
    t.conn.remaining + t.busy workers < s.conn.remaining + s.busy workers := by
  cases e with
  | append th msg => simp [UpdatedConn.Event.windsDown] at hown
  | test th =>
    by_cases hpc : s.pc th = .atTest
    · rw [step, if_pos hpc] at hs
      obtain rfl := Option.some.inj hs
      refine Nat.add_lt_add_left (busy_goto_lt (hb th (by simp [hpc])) ?_) _
      rw [hpc]
      split_ifs <;> decide
    · simp [step, hpc] at hs
  | critical th =>
    by_cases hpc : s.pc th = .atCritical
    · rw [step, if_pos hpc] at hs
      obtain rfl := Option.some.inj hs
      have hlt := @busy_goto_lt workers { s with conn := s.conn.doWriteCritical env } th .idle
        (hb th (by simp [hpc])) (by simp [hpc, SendPc.remaining])
      exact Nat.add_lt_add_of_le_of_lt (s.conn.doWriteCritical_remaining env) hlt
    · simp [step, hpc] at hs
  | wrote i n =>
    obtain ⟨op, hop, hs⟩ := Option.bind_eq_some_iff.mp hs
    split_ifs at hs with hn
    obtain rfl := Option.some.inj hs
    have h0 : n ≠ 0 := by simpa [UpdatedConn.Event.windsDown] using hown
    exact Nat.add_lt_add_right (TcpConnAsync.markSent_remaining hop hn.1 h0) _
  | writeDone i =>
    obtain ⟨op, hop, hs⟩ := Option.bind_eq_some_iff.mp hs
    split_ifs at hs with hn
    obtain rfl := Option.some.inj hs
    have hdrop := TcpConnAsync.dropWrite_remaining hop
    have hdone := (s.conn.dropWrite i).writeCompleted_remaining
    have hbusy := @busy_goto_strand workers
      { s with conn := (s.conn.dropWrite i).writeCompleted } .atTest hw
    simp only [hn.2, SendPc.remaining] at hbusy
    have hsame : ({ s with conn := (s.conn.dropWrite i).writeCompleted } : Senders).busy workers =
      s.busy workers := rfl
    change (s.conn.dropWrite i).writeCompleted.remaining + _ < _
    omega
  | writeFail i ec =>
    obtain ⟨op, hop, hs⟩ := Option.bind_eq_some_iff.mp hs
    split_ifs at hs
    obtain rfl := Option.some.inj hs
    have hdrop := TcpConnAsync.dropWrite_remaining hop
    have hfail := (s.conn.dropWrite i).readFailed_remaining ec
    refine Nat.add_lt_add_right ?_ (s.busy workers)
    change ((s.conn.dropWrite i).readFailed ec).remaining < _
    omega
  | readFail ec => exact absurd rfl (hread ec)
  | refuseHead => exact absurd rfl hhead
  | timerExpire =>
    simp only [step] at hs
    split_ifs at hs with hp
    obtain rfl := Option.some.inj hs
    have hlt := SteadyTimer.expire_remaining hp
    refine Nat.add_lt_add_right ?_ (s.busy workers)
    simp only [TcpConnAsync.remaining]
    omega
  | timerHandler i =>
    obtain ⟨⟨w, u⟩, ht, rfl⟩ := Option.map_eq_some_iff.mp hs
    have hlt := SteadyTimer.take_remaining ht
    refine Nat.add_lt_add_right ?_ (s.busy workers)
    obtain ⟨wait, code⟩ := w
    cases code <;> simp only [TcpConnAsync.remaining, TcpConnAsync.opsCancelTimeoutCall,
      TcpConnAsync.opsCancel, TcpConnAsync.sockShutdownAndClose] <;> omega

end Senders

namespace UpdatedConn

variable {inlineReply : Bytes → Option Message} {workers : List Thread} {u v : UpdatedConn}

lemma remaining_setConn {c : TcpConnAsync} {pc : ReadPc} (hc : c.remaining ≤ u.conn.remaining)
    (hpc : (u.setConn c pc).chainRemaining < u.chainRemaining) :
    (u.setConn c pc).remaining workers < u.remaining workers :=
  Nat.add_lt_add_right (Nat.add_lt_add_of_lt_of_le hpc hc) _

lemma chainRemaining_of_ne (h : u.readPc ≠ .idle) : u.chainRemaining =
    u.readPc.remaining + 13 * u.conn.recv.bound.buffer.data.length := if_neg h

lemma chainRemaining_idle (c : TcpConnAsync) : (u.setConn c .idle).chainRemaining = 0 :=
  if_pos rfl

lemma parse_head_remaining (hl : ¬ u.conn.Lacks .head)
    (hpc : u.readPc = .handler .head ∨ u.readPc = .call .head)
    (hv : u.parse inlineReply .head = some v) : v.remaining workers < u.remaining workers := by
  have hchain : 4 + 13 * u.conn.recv.bound.buffer.data.length ≤ u.chainRemaining := by
    rcases hpc with h | h
    · rw [chainRemaining_of_ne (by simp [h]), h, ReadPc.remaining]
      omega
    · rw [chainRemaining_of_ne (by simp [h]), h, ReadPc.remaining]
  obtain ⟨-, hcut⟩ :=
    IOBound.parseHeader_cut (u.env inlineReply).recvMaxMsgSize.toUInt32 hl
  simp only [parse] at hv
  split_ifs at hv with h0 h1
  · obtain rfl := Option.some.inj hv
    refine remaining_setConn le_rfl ?_
    have h16 : Header.size = 16 := rfl
    have h33 : rejectLength = 33 := rfl
    rw [chainRemaining_of_ne (by simp [setConn])]
    simp only [setConn, ReadPc.remaining, conn, TcpConnAsync.parseHeader] at hcut hchain ⊢
    omega
  · exact absurd h1 (TcpConnAsync.parseHeader_not_pos hl)
  · obtain rfl := Option.some.inj hv
    refine remaining_setConn le_rfl ?_
    rw [chainRemaining_idle]
    omega

lemma dispatch_remaining {payload : Bytes} (hw : .strand ∉ workers)
    (hreply : ∀ msg, inlineReply payload = some msg → msg.netStr.length ≤ rejectLength)
    (hv : u.dispatch inlineReply payload = some v) :
    v.readPc = .call .head ∧ v.conn.recv.bound = u.conn.recv.bound ∧
      v.conn.remaining + v.senders.busy workers ≤
        u.conn.remaining + u.senders.busy workers + (6 * rejectLength + 2) := by
  obtain ⟨hpc, hrecv⟩ := dispatch_recv hv
  refine ⟨hpc, by rw [hrecv], ?_⟩
  unfold dispatch at hv
  cases hr : inlineReply payload with
  | none =>
    rw [hr] at hv
    obtain rfl := Option.some.inj hv
    exact Nat.le_add_right _ _
  | some msg =>
    rw [hr] at hv
    obtain ⟨senders, hs, rfl⟩ := Option.map_eq_some_iff.mp hv
    have hlen := hreply msg hr
    exact (Senders.append_remaining hw hs).trans (Nat.add_le_add_left
      (Nat.add_le_add_right (Nat.mul_le_mul_left 6 hlen) 2) (u.conn.remaining + _))

/-- A body that is parsed leaves less to do, unless `do_read_msg` finds too few bytes. -/
lemma parse_body_remaining (hw : .strand ∉ workers)
    (hreply : ∀ payload msg, inlineReply payload = some msg → msg.netStr.length ≤ rejectLength)
    (hpc : u.readPc = .handler .body ∨ u.readPc = .call .body ∧ ¬ u.conn.Lacks .body)
    (hv : u.parse inlineReply .body = some v) : v.remaining workers < u.remaining workers := by
  have hchain : 7 + 6 * rejectLength + 13 * u.conn.recv.bound.buffer.data.length ≤
      u.chainRemaining := by
    rcases hpc with h | ⟨h, -⟩
    · rw [chainRemaining_of_ne (by simp [h]), h, ReadPc.remaining]
      omega
    · rw [chainRemaining_of_ne (by simp [h]), h, ReadPc.remaining]
  have hcut := (u.conn.recv.bound.parseMsgBody_cut ⟨Header.zero, []⟩).2
  simp only [parse] at hv
  split_ifs at hv with h0 h1
  · obtain ⟨hread, hbound, hle⟩ := dispatch_remaining hw (hreply _) hv
    have hle' : v.conn.remaining + v.senders.busy workers ≤
      u.conn.remaining + u.senders.busy workers + (6 * rejectLength + 2) := hle
    have hdata : v.conn.recv.bound =
      (u.conn.recv.bound.parseMsgBody ⟨Header.zero, []⟩).2.2 := hbound
    rw [remaining, remaining, chainRemaining_of_ne (by simp [hread]), hread, hdata,
      ReadPc.remaining]
    omega
  · obtain rfl := Option.some.inj hv
    rcases hpc with h | ⟨-, hl⟩
    · refine remaining_setConn le_rfl ?_
      rw [chainRemaining_of_ne (by simp [setConn]), chainRemaining_of_ne (by simp [h]), h]
      simp only [setConn, ReadPc.remaining, conn, TcpConnAsync.parseMsgBody] at hcut ⊢
      omega
    · exact absurd (TcpConnAsync.parseMsgBody_zero hl) h0
  · obtain rfl := Option.some.inj hv
    refine remaining_setConn le_rfl ?_
    rw [chainRemaining_idle]
    omega

lemma chain_remaining (hw : .strand ∉ workers)
    (hreply : ∀ payload msg, inlineReply payload = some msg → msg.netStr.length ≤ rejectLength)
    (hv : u.chain inlineReply = some v) : v.remaining workers < u.remaining workers := by
  have hstop : u.readPc ≠ .idle → ∀ c : TcpConnAsync, c.remaining ≤ u.conn.remaining + 3 →
      (u.setConn c .idle).remaining workers < u.remaining workers := by
    intro hne c hc
    have hpos : 4 ≤ u.readPc.remaining := by
      match hr : u.readPc, hne with
      | .call .head, _ => exact le_rfl
      | .handler .head, _ => decide
      | .call .body, _ => decide
      | .handler .body, _ => decide
    have hchain := chainRemaining_of_ne hne
    change 0 + c.remaining + u.senders.busy workers < _
    rw [remaining, hchain]
    omega
  unfold UpdatedConn.chain at hv
  split_ifs at hv
  cases hpc : u.readPc with
  | idle => simp [hpc] at hv
  | handler kind =>
    simp only [hpc, handleRead] at hv
    split_ifs at hv with hshort
    · obtain ⟨rfl, -⟩ := hshort
      obtain rfl := Option.some.inj hv
      refine remaining_setConn le_rfl ?_
      rw [chainRemaining_of_ne (by simp [setConn]), chainRemaining_of_ne (by simp [hpc]), hpc]
      exact Nat.add_lt_add_right (show 4 < 5 by decide) _
    · cases kind with
      | head => exact parse_head_remaining (fun hl => hshort ⟨rfl, hl⟩) (Or.inl hpc) hv
      | body => exact parse_body_remaining hw hreply (Or.inl hpc) hv
  | call kind =>
    simp only [hpc, callRead] at hv
    have hne : u.readPc ≠ .idle := by simp [hpc]
    split_ifs at hv with hwork hcancel hl
    · obtain rfl := Option.some.inj hv
      exact hstop hne _ (Nat.le_add_right _ _)
    · obtain rfl := Option.some.inj hv
      exact hstop hne _ (Nat.le_add_right _ _)
    · obtain rfl := Option.some.inj hv
      exact hstop hne _ (TcpConnAsync.asyncRead_remaining _ _ _ _)
    · cases kind with
      | head => exact parse_head_remaining hl (Or.inr hpc) hv
      | body => exact parse_body_remaining hw hreply (Or.inr ⟨hpc, hl⟩) hv

lemma busyOnly_step {e : Event} (he : ∀ th msg, e ≠ .sender (.append th msg))
    (hb : u.senders.BusyOnly workers) (hv : u.step inlineReply e = some v) :
    v.senders.BusyOnly workers := by
  have hsender : ∀ {env : ServerEnv} {s t : Senders} {e : Senders.Event},
      Senders.step env s e = some t → s.BusyOnly workers →
        (∀ th msg, th ≠ .strand → e ≠ .append th msg) → t.BusyOnly workers := by
    intro env s t e ht hs hne th hbusy
    by_cases hth : th = .strand
    · exact hth ▸ List.mem_cons_self
    · refine hs th fun hidle => hbusy ?_
      exact Senders.step_idle ht hth hidle fun msg => hne th msg hth
  cases e with
  | start =>
    simp only [step] at hv
    split_ifs at hv
    obtain rfl := Option.some.inj hv
    exact hb
  | readDone i bytes =>
    obtain ⟨op, -, hv⟩ := Option.bind_eq_some_iff.mp hv
    split_ifs at hv
    obtain rfl := Option.some.inj hv
    exact hb
  | readFail i ec =>
    obtain ⟨op, -, hv⟩ := Option.bind_eq_some_iff.mp hv
    split_ifs at hv
    obtain rfl := Option.some.inj hv
    exact hb
  | chain =>
    rcases chain_cases hv with ⟨c, pc, rfl, -⟩ | ⟨c, payload, -, hd⟩
    · exact hb
    · unfold dispatch at hd
      cases hr : inlineReply payload with
      | none =>
        rw [hr] at hd
        obtain rfl := Option.some.inj hd
        exact hb
      | some msg =>
        rw [hr] at hd
        obtain ⟨senders, hs, rfl⟩ := Option.map_eq_some_iff.mp hd
        refine hsender hs hb fun th msg' hth heq => hth ?_
        injection heq with h
        exact h.symm
  | sender e =>
    simp only [step] at hv
    split_ifs at hv
    obtain ⟨senders, hs, rfl⟩ := Option.map_eq_some_iff.mp hv
    exact hsender hs hb fun th msg _ heq => he th msg (congrArg _ heq)
  | moduleRuntime doc =>
    obtain rfl := Option.some.inj hv
    exact hb

/-- Every step the connection takes of itself leaves it less to do. -/
theorem step_remaining {e : Event} (hw : .strand ∉ workers)
    (hreply : ∀ payload msg, inlineReply payload = some msg → msg.netStr.length ≤ rejectLength)
    (hb : u.senders.BusyOnly workers) (hown : e.windsDown) (hv : u.step inlineReply e = some v) :
    v.remaining workers < u.remaining workers := by
  cases e with
  | start => simp [Event.windsDown] at hown
  | readDone i bytes => simp [Event.windsDown] at hown
  | moduleRuntime doc => simp [Event.windsDown] at hown
  | readFail i ec =>
    obtain ⟨op, hop, hv⟩ := Option.bind_eq_some_iff.mp hv
    split_ifs at hv with hfree
    obtain rfl := Option.some.inj hv
    have hlt := TcpConnAsync.dropRead_remaining hop
    have hle := (u.conn.dropRead i).readFailed_remaining ec
    have hchain : u.chainRemaining = 0 := if_pos (strandFree_readPc hfree.1)
    change 0 + ((u.conn.dropRead i).readFailed ec).remaining + u.senders.busy workers < _
    rw [remaining, hchain]
    omega
  | chain => exact chain_remaining hw hreply hv
  | sender e =>
    simp only [step] at hv
    split_ifs at hv with hallow
    obtain ⟨senders, hs, rfl⟩ := Option.map_eq_some_iff.mp hv
    have hlt := Senders.step_remaining hw hb hown
      (by rintro ec rfl; simp [allows] at hallow) (by rintro rfl; simp [allows] at hallow) hs
    have hchain : ({ u with senders := senders } : UpdatedConn).chainRemaining =
        u.chainRemaining := by
      rw [chainRemaining, chainRemaining, conn, (Senders.step_recv hs).1]
      rfl
    rw [remaining, remaining, hchain, Nat.add_assoc, Nat.add_assoc]
    exact Nat.add_lt_add_left hlt _

lemma dispatch_isSome {payload : Bytes} (h : u.senders.pc .strand = .idle) :
    (u.dispatch inlineReply payload).isSome := by
  unfold dispatch
  cases inlineReply payload with
  | none => rfl
  | some msg =>
    rw [Option.isSome_map]
    exact Senders.append_isSome h

lemma parse_isSome {kind : ReadKind} (h : u.senders.pc .strand = .idle) :
    (u.parse inlineReply kind).isSome := by
  cases kind with
  | head =>
    simp only [parse]
    split_ifs <;> rfl
  | body =>
    simp only [parse]
    split_ifs
    · exact dispatch_isSome h
    · rfl
    · rfl

lemma chain_isSome (h : u.senders.pc .strand = .idle) (hpc : u.readPc ≠ .idle) :
    (u.chain inlineReply).isSome := by
  unfold UpdatedConn.chain
  rw [if_neg (not_not.mpr h)]
  cases hr : u.readPc with
  | idle => exact absurd hr hpc
  | handler kind =>
    simp only [handleRead]
    split_ifs
    · rfl
    · exact parse_isSome h
  | call kind =>
    simp only [callRead]
    split_ifs
    · rfl
    · rfl
    · rfl
    · exact parse_isSome h

/-- Nothing refers to the connection any more: no handler waits to run, and no thread is in
one. -/
structure Unused (u : UpdatedConn) : Prop where
  readPc : u.readPc = .idle
  reads : u.conn.recv.reads = []
  writes : u.conn.send.writes = []
  pending : u.conn.opsCancelTimer.pending = []
  queued : u.conn.opsCancelTimer.queued = []
  senders : ∀ th, u.senders.pc th = .idle

theorem unused_of_stuck (h : ∀ e : Event, e.windsDown → u.step inlineReply e = none) :
    u.Unused := by
  have hsenders : ∀ th, u.senders.pc th = .idle := by
    intro th
    cases hpc : u.senders.pc th with
    | idle => rfl
    | atTest =>
      have hnone := h (.sender (.test th)) rfl
      simp [step, allows, Senders.step, hpc] at hnone
    | atCritical =>
      have hnone := h (.sender (.critical th)) rfl
      simp [step, allows, Senders.step, hpc] at hnone
  have hread : u.readPc = .idle := by
    by_contra hne
    have hsome : (u.chain inlineReply).isSome := chain_isSome (hsenders .strand) hne
    rw [show u.chain inlineReply = none from h .chain rfl] at hsome
    simp at hsome
  have hfree : u.strandFree = true := by simp [strandFree, hread, hsenders]
  refine ⟨hread, ?_, ?_, ?_, ?_, hsenders⟩
  · cases hr : u.conn.recv.reads with
    | nil => rfl
    | cons op ops =>
      have hnone := h (.readFail 0 .eof) rfl
      simp [step, hr, hfree, TcpConnAsync.mayFail] at hnone
  · cases hw : u.conn.send.writes with
    | nil => rfl
    | cons op ops =>
      have hnone := h (.sender (.writeFail 0 .eof)) rfl
      have hwrites : u.senders.conn.send.writes = op :: ops := hw
      simp [step, allows, Senders.step, hwrites, hfree, hsenders, TcpConnAsync.mayFail] at hnone
  · by_contra hp
    have hnone := h (.sender .timerExpire) rfl
    have hpending : u.senders.conn.opsCancelTimer.pending ≠ [] := hp
    simp [step, allows, Senders.step, hpending] at hnone
  · cases hq : u.conn.opsCancelTimer.queued with
    | nil => rfl
    | cons c cs =>
      have hnone := h (.sender (.timerHandler 0)) rfl
      have hqueued : u.senders.conn.opsCancelTimer.queued = c :: cs := hq
      simp [step, allows, Senders.step, SteadyTimer.take, hqueued] at hnone

end UpdatedConn

end Tzrpc
