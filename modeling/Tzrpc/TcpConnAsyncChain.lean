import Tzrpc.TcpConnAsync

/-!
# The read chain

`Chain` is the recursion of `do_read` and `do_read_msg` as a relation, one constructor for
each thing a call can do. The fuel the handlers have is enough for it, so every read that
meets its minimum is handled to its end, and what holds of a whole chain is proved by
induction on the relation.
-/
namespace Tzrpc.TcpConnAsync

/-- The read chain stops at its next test. -/
def Halted (c : TcpConnAsync) : Prop := c.net.connStat ≠ .kWorking ∨ c.wasCancelled = true

def Lacks (c : TcpConnAsync) : ReadKind → Prop
  | .head => c.recv.bound.buffer.getLength.toNat < Header.size
  | .body => c.recv.bound.buffer.getLength < c.recv.bound.header.length

/-- The connection behind `parse_msg_body` and the dispatch of the body. -/
def dispatchBody (env : ServerEnv) (c : TcpConnAsync) : TcpConnAsync :=
  let res := c.parseMsgBody ⟨Header.zero, []⟩
  res.2.2.dispatch env res.2.1.payload

/-- A call of `do_read` (`head`) or `do_read_msg` (`body`) on `c` ends in `d`. The handlers
enter past the tests, so only a new read asks for a connection that is not halted. -/
inductive Chain (env : ServerEnv) : ReadKind → TcpConnAsync → TcpConnAsync → Prop
  | halted {kind : ReadKind} {c : TcpConnAsync} (h : c.Halted) : Chain env kind c c
  | arm {kind : ReadKind} {c : TcpConnAsync} (atLeast : ℕ) (h : ¬ c.Halted) (hl : c.Lacks kind) :
      Chain env kind c ((c.setOpsCancelTimeout env).asyncRead kind atLeast)
  | refuse {c : TcpConnAsync} (hl : ¬ c.Lacks .head) :
      Chain env .head c (c.parseHeader env).2.sockShutdownAndClose
  | header {c d : TcpConnAsync} (hl : ¬ c.Lacks .head) (h0 : (c.parseHeader env).1 = 0)
      (rest : Chain env .body (c.parseHeader env).2 d) : Chain env .head c d
  | message {c d : TcpConnAsync} (hl : ¬ c.Lacks .body)
      (rest : Chain env .head (c.dispatchBody env) d) : Chain env .body c d

section Fuel

variable {env : ServerEnv} {c d : TcpConnAsync}

lemma Halted.of_view (h : c.Halted) (hn : d.net = c.net) (hc : d.wasCancelled = c.wasCancelled) :
    d.Halted := by
  unfold Halted
  rw [hn, hc]
  exact h

lemma dispatchBody_recvView (env : ServerEnv) (c : TcpConnAsync) :
    (c.dispatchBody env).recvView =
      (c.net, c.wasCancelled, { c.recv with
        bound := (c.recv.bound.parseMsgBody ⟨Header.zero, []⟩).2.2
        dispatched := c.recv.dispatched ++
          [(c.recv.bound.parseMsgBody ⟨Header.zero, []⟩).2.1.payload] }) :=
  dispatch_recvView env _ _

lemma parseHeader_length_div (h : ¬ c.Lacks .head) :
    (c.parseHeader env).2.recv.bound.buffer.data.length / Header.size + 1 =
      c.recv.bound.buffer.data.length / Header.size := by
  rw [← (IOBound.parseHeader_cut env.recvMaxMsgSize.toUInt32 h).2,
    Nat.add_div_right _ (by decide)]
  rfl

lemma dispatchBody_length_div (env : ServerEnv) (c : TcpConnAsync) :
    (c.dispatchBody env).recv.bound.buffer.data.length / Header.size ≤
      c.recv.bound.buffer.data.length / Header.size := by
  have hv := dispatchBody_recvView env c
  simp only [recvView, Prod.mk.injEq] at hv
  rw [hv.2.2]
  exact Nat.div_le_div_right (c.recv.bound.parseMsgBody_cut _).2

lemma parseHeader_not_pos (h : ¬ c.Lacks .head) : ¬ 0 < (c.parseHeader env).1 :=
  (IOBound.parseHeader_cut env.recvMaxMsgSize.toUInt32 h).1.not_gt

lemma parseMsgBody_zero (h : ¬ c.Lacks .body) : (c.parseMsgBody ⟨Header.zero, []⟩).1 = 0 :=
  (c.recv.bound.parseMsgBody_cut _).1.trans (if_neg h)

lemma chain_total (fuel : ℕ) (c : TcpConnAsync) :
    (2 * (c.recv.bound.buffer.data.length / Header.size) + 1 ≤ fuel →
      ∃ d, doRead env fuel c = some d ∧ Chain env .head c d) ∧
    (2 * (c.recv.bound.buffer.data.length / Header.size) + 2 ≤ fuel →
      ∃ d, doReadMsg env fuel c = some d ∧ Chain env .body c d) := by
  induction fuel generalizing c with
  | zero => exact ⟨by omega, by omega⟩
  | succ fuel ih =>
    constructor
    · intro hfuel
      unfold doRead
      dsimp only
      split_ifs with hw hc hl h0 h1
      · exact ⟨c, rfl, .halted (Or.inl hw)⟩
      · exact ⟨c, rfl, .halted (Or.inr hc)⟩
      · exact ⟨_, rfl, .arm _ (by simp [Halted, hw, hc]) hl⟩
      · have hdiv := @parseHeader_length_div env c hl
        obtain ⟨d, hd, hchain⟩ := (ih (c.parseHeader env).2).2 (by omega)
        exact ⟨d, hd, .header hl h0 hchain⟩
      · exact absurd h1 (parseHeader_not_pos hl)
      · exact ⟨_, rfl, .refuse hl⟩
    · intro hfuel
      unfold doReadMsg
      dsimp only
      split_ifs with hw hc hl h0 h1
      · exact ⟨c, rfl, .halted (Or.inl hw)⟩
      · exact ⟨c, rfl, .halted (Or.inr hc)⟩
      · exact ⟨_, rfl, .arm _ (by simp [Halted, hw, hc]) hl⟩
      · have hdiv := dispatchBody_length_div env c
        obtain ⟨d, hd, hchain⟩ := (ih (c.dispatchBody env)).1 (by omega)
        exact ⟨d, hd, .message hl hchain⟩
      · exact absurd (parseMsgBody_zero hl) h0
      · exact absurd (parseMsgBody_zero hl) h0

lemma readHandler_chain (c : TcpConnAsync) (bytes : Bytes) :
    ∃ d, c.readHandler env bytes = some d ∧
      Chain env .head (c.revokeOpsCancelTimeout.received bytes) d := by
  generalize hr : c.revokeOpsCancelTimeout.received bytes = r
  unfold readHandler
  simp only [hr]
  split_ifs with hl h0 h1
  · exact (chain_total _ r).1 (by unfold chainFuel; omega)
  · have hdiv := @parseHeader_length_div env r hl
    obtain ⟨d, hd, hchain⟩ := (chain_total r.chainFuel (r.parseHeader env).2).2
      (by unfold chainFuel; omega)
    exact ⟨d, hd, .header hl h0 hchain⟩
  · exact absurd h1 (parseHeader_not_pos hl)
  · exact ⟨_, rfl, .refuse hl⟩

lemma readMsgHandler_chain (c : TcpConnAsync) (bytes : Bytes) :
    ∃ d, c.readMsgHandler env bytes = some d ∧
      Chain env .body (c.revokeOpsCancelTimeout.received bytes) d := by
  generalize hr : c.revokeOpsCancelTimeout.received bytes = r
  unfold readMsgHandler
  simp only [hr]
  by_cases hl : r.Lacks .body
  · have hshort : r.recv.bound.parseMsgBody ⟨Header.zero, []⟩ =
        (1, ⟨Header.zero, []⟩, r.recv.bound) := by
      rw [IOBound.parseMsgBody]
      exact if_pos hl
    simp only [parseMsgBody, hshort, one_ne_zero, zero_lt_one, ↓reduceIte]
    exact (chain_total _ r).2 (by unfold chainFuel; omega)
  · rw [if_pos (parseMsgBody_zero hl)]
    have hdiv := dispatchBody_length_div env r
    obtain ⟨d, hd, hchain⟩ := (chain_total r.chainFuel (r.dispatchBody env)).1
      (by unfold chainFuel; omega)
    exact ⟨d, hd, .message hl hchain⟩

/-- A read that meets its minimum is always handled to its end. -/
theorem step_readDone {i : ℕ} {op : ReadOp} {bytes : Bytes} (hop : c.recv.reads[i]? = some op)
    (hmin : op.atLeast ≤ bytes.length) (hmax : bytes.length ≤ kFixedIoBufferSize.toNat) :
    ∃ d, step env c (.readDone i bytes) = some d ∧
      Chain env op.kind ((c.dropRead i).revokeOpsCancelTimeout.received bytes) d := by
  simp only [step, hop, Option.bind_some, hmin, hmax, and_self, ↓reduceIte]
  cases op.kind with
  | head => exact readHandler_chain (c.dropRead i) bytes
  | body => exact readMsgHandler_chain (c.dropRead i) bytes

lemma step_readDone_chain {i : ℕ} {bytes : Bytes} (hs : step env c (.readDone i bytes) = some d) :
    ∃ op, c.recv.reads[i]? = some op ∧ op.atLeast ≤ bytes.length ∧
      bytes.length ≤ kFixedIoBufferSize.toNat ∧
      Chain env op.kind ((c.dropRead i).revokeOpsCancelTimeout.received bytes) d := by
  obtain ⟨op, hop, h⟩ := Option.bind_eq_some_iff.mp hs
  split_ifs at h with hb
  obtain ⟨e, he, hchain⟩ := @step_readDone env c i op bytes hop hb.1 hb.2
  obtain rfl := Option.some.inj (hs.symm.trans he)
  exact ⟨op, hop, hb.1, hb.2, hchain⟩

end Fuel

section Sending

variable {env : ServerEnv} {c : TcpConnAsync}

lemma doWriteTest_eq_true : c.doWriteTest = true ↔ c.send.status = .kDone ∧ ¬ c.Halted := by
  simp [doWriteTest, Halted, and_assoc]

lemma doWrite_cases (env : ServerEnv) (c : TcpConnAsync) :
    (c.doWrite env = c ∧
        (c.send.status = .kDone → ¬ c.Halted → c.send.bound.buffer.getLength = 0)) ∨
      (c.send.status = .kDone ∧ ¬ c.Halted ∧ c.send.bound.buffer.getLength ≠ 0 ∧
        c.doWrite env = (c.setOpsCancelTimeout env).startWrite
          (min c.send.bound.buffer.getLength kFixedIoBufferSize)) := by
  unfold doWrite
  split_ifs with ht
  · obtain ⟨hs, hh⟩ := doWriteTest_eq_true.mp ht
    by_cases h0 : c.send.bound.buffer.getLength = 0
    · refine Or.inl ⟨?_, fun _ _ => h0⟩
      rw [doWriteCritical, if_pos h0, ← hs]
    · exact Or.inr ⟨hs, hh, h0, by rw [doWriteCritical, if_neg h0]⟩
  · refine Or.inl ⟨rfl, fun hs hh => ?_⟩
    exact absurd (doWriteTest_eq_true.mpr ⟨hs, hh⟩) ht

lemma dispatchBody_cases (env : ServerEnv) (c : TcpConnAsync) :
    ∃ r : RecvSide, c.dispatchBody env = { c with recv := r } ∨
      ∃ msg, c.dispatchBody env = (asyncSendMessage env { c with recv := r } msg).2 := by
  unfold dispatchBody dispatch
  dsimp only
  cases env.inlineReply (c.parseMsgBody ⟨Header.zero, []⟩).2.1.payload with
  | none => exact ⟨_, Or.inl rfl⟩
  | some msg => exact ⟨_, Or.inr ⟨msg, rfl⟩⟩

end Sending

end Tzrpc.TcpConnAsync
