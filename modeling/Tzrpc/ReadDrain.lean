import Tzrpc.Activation
import Tzrpc.ClientConnAsyncLife
import Tzrpc.TcpConnAsyncReads

/-!
# Draining the receive buffer

`do_read` and `do_read_msg` call each other while whole frames are buffered. One activation
of either, with its calls named instead of made, shows when they go on and when they try
again: every round takes a head out of the buffer, and neither is ever tried again.
-/
namespace Tzrpc

/-- Two routines that call each other, the first with a head less in the buffer, unwind with
no more calls of the first than the buffer has heads, and one. -/
lemma unwinds_of_heads {σ : Type*} {act : ReadKind → σ → Activation ReadKind σ} (len : σ → ℕ)
    (noRetry : ∀ kind s kind' s', act kind s ≠ .retries kind' s')
    (head : ∀ s kind s', act .head s = .enters kind s' →
      kind = .body ∧ len s' + Header.size = len s)
    (body : ∀ s kind s', act .body s = .enters kind s' → kind = .head ∧ len s' ≤ len s)
    (kind : ReadKind) (s : σ) :
    ∃ calls t, Activation.Unwinds act calls kind s t ∧
      calls.count .head ≤ len s / Header.size + 1 := by
  have hsize : Header.size = 16 := rfl
  have hdiv : ∀ s kind s', act .head s = .enters kind s' →
      len s' / Header.size + 1 = len s / Header.size := by
    intro s kind s' ha
    rw [← (head s kind s' ha).2, Nat.add_div_right _ (by decide)]
  refine Activation.exists_unwinds .head
    (fun kind s => 2 * (len s / Header.size) + if kind = .body then 1 else 0)
    (fun _ s => len s / Header.size + 1) noRetry ?_ ?_ (fun _ _ => Nat.le_add_left _ _) kind s
  · intro kind s kind' s' ha
    cases kind with
    | head =>
      have hq := hdiv s kind' s' ha
      obtain ⟨rfl, -⟩ := head s kind' s' ha
      simp only [reduceCtorEq, ↓reduceIte]
      omega
    | body =>
      obtain ⟨rfl, hle⟩ := body s kind' s' ha
      have hq := Nat.div_le_div_right (c := Header.size) hle
      simp only [reduceCtorEq, ↓reduceIte]
      omega
  · intro kind s kind' s' ha
    cases kind with
    | head =>
      have hq := hdiv s kind' s' ha
      simp only [↓reduceIte]
      omega
    | body =>
      have hq := Nat.div_le_div_right (c := Header.size) (body s kind' s' ha).2
      simp only [reduceCtorEq, ↓reduceIte]
      omega

namespace TcpConnAsync

/-- One activation of `do_read` (`head`) or `do_read_msg` (`body`). -/
def activate (env : ServerEnv) : ReadKind → TcpConnAsync → Activation ReadKind TcpConnAsync
  | .head, c =>
    if c.net.connStat ≠ .kWorking then .returns c
    else if c.wasCancelled then .returns c
    else if c.recv.bound.buffer.getLength.toNat < Header.size then
      .returns ((c.setOpsCancelTimeout env).asyncRead .head
        (Header.size - c.recv.bound.buffer.getLength.toNat))
    else
      let res := c.parseHeader env
      if res.1 = 0 then .enters .body res.2
      else if 0 < res.1 then .retries .head res.2
      else .returns res.2.sockShutdownAndClose
  | .body, c =>
    if c.net.connStat ≠ .kWorking then .returns c
    else if c.wasCancelled then .returns c
    else if c.recv.bound.buffer.getLength < c.recv.bound.header.length then
      let toRead := min (c.recv.bound.header.length - c.recv.bound.buffer.getLength)
        kFixedIoBufferSize
      .returns ((c.setOpsCancelTimeout env).asyncRead .body toRead.toNat)
    else
      let res := c.parseMsgBody ⟨Header.zero, []⟩
      if res.1 = 0 then .enters .head (res.2.2.dispatch env res.2.1.payload)
      else if 0 < res.1 then .retries .body res.2.2
      else .returns res.2.2.sockShutdownAndClose

def routine (env : ServerEnv) (fuel : ℕ) : ReadKind → TcpConnAsync → Option TcpConnAsync
  | .head => doRead env fuel
  | .body => doReadMsg env fuel

section Drain

variable {env : ServerEnv} {c d : TcpConnAsync} {kind : ReadKind}

theorem routine_eq_runs (env : ServerEnv) (fuel : ℕ) (kind : ReadKind) (c : TcpConnAsync) :
    routine env fuel kind c = Activation.runs (activate env) fuel kind c := by
  induction fuel generalizing kind c with
  | zero => cases kind <;> simp [routine, doRead, doReadMsg, Activation.runs]
  | succ fuel ih =>
    cases kind with
    | head =>
      simp only [routine, doRead, Activation.runs, activate]
      split_ifs
      · rfl
      · rfl
      · rfl
      · exact ih .body _
      · exact ih .head _
      · rfl
    | body =>
      simp only [routine, doReadMsg, Activation.runs, activate]
      split_ifs
      · rfl
      · rfl
      · rfl
      · exact ih .head _
      · exact ih .body _
      · rfl

/-- What an activation can do: it is stopped, it asks for what is missing, it refuses a head,
or it calls the other routine with a head less to read or a body dispatched. -/
lemma activate_cases (env : ServerEnv) (kind : ReadKind) (c : TcpConnAsync) :
    (c.Halted ∧ activate env kind c = .returns c) ∨
      (¬ c.Halted ∧ ∃ n, activate env kind c =
        .returns ((c.setOpsCancelTimeout env).asyncRead kind n)) ∨
      (¬ c.Halted ∧ activate env kind c =
        .returns (c.parseHeader env).2.sockShutdownAndClose) ∨
      (¬ c.Halted ∧ ¬ c.Lacks kind ∧ kind = .head ∧
        activate env kind c = .enters .body (c.parseHeader env).2) ∨
      (¬ c.Halted ∧ kind = .body ∧
        activate env kind c = .enters .head (c.dispatchBody env)) := by
  by_cases hh : c.Halted
  · refine Or.inl ⟨hh, ?_⟩
    cases kind <;> rcases hh with hw | hc <;> simp_all [activate]
  have hw : c.net.connStat = .kWorking := by
    by_contra hn
    exact hh (Or.inl hn)
  have hc : c.wasCancelled = false := by
    cases hcan : c.wasCancelled with
    | false => rfl
    | true => exact absurd (Or.inr hcan) hh
  refine Or.inr ?_
  by_cases hl : c.Lacks kind
  · refine Or.inl ⟨hh, ?_⟩
    cases kind with
    | head => exact ⟨_, by simp only [activate, hw, hc, if_pos (show _ < _ from hl)]; rfl⟩
    | body => exact ⟨_, by simp only [activate, hw, hc, if_pos (show _ < _ from hl)]; rfl⟩
  refine Or.inr ?_
  cases kind with
  | head =>
    have hl' : ¬ c.recv.bound.buffer.getLength.toNat < Header.size := hl
    by_cases h0 : (c.parseHeader env).1 = 0
    · exact Or.inr (Or.inl ⟨hh, hl, rfl, by simp [activate, hw, hc, hl', h0]⟩)
    · exact Or.inl ⟨hh, by simp [activate, hw, hc, hl', h0, parseHeader_not_pos hl]⟩
  | body =>
    have hl' : ¬ c.recv.bound.buffer.getLength < c.recv.bound.header.length := hl
    exact Or.inr (Or.inr ⟨hh, rfl, by
      simp only [activate, hw, hc, hl', parseMsgBody_zero hl]
      rfl⟩)

lemma activate_ne_retries (env : ServerEnv) (kind : ReadKind) (c : TcpConnAsync)
    (kind' : ReadKind) (d : TcpConnAsync) : activate env kind c ≠ .retries kind' d := by
  rcases activate_cases env kind c with ⟨-, h⟩ | ⟨-, n, h⟩ | ⟨-, h⟩ | ⟨-, -, -, h⟩ | ⟨-, -, h⟩ <;>
    simp [h]

lemma activate_enters_head {kind' : ReadKind} (h : activate env .head c = .enters kind' d) :
    kind' = .body ∧ d.recv.bound.buffer.getLength.toNat + Header.size =
      c.recv.bound.buffer.getLength.toNat := by
  rcases activate_cases env .head c with
    ⟨-, ha⟩ | ⟨-, n, ha⟩ | ⟨-, ha⟩ | ⟨-, hl, -, ha⟩ | ⟨-, hk, -⟩
  · simp [ha] at h
  · simp [ha] at h
  · simp [ha] at h
  · obtain ⟨rfl, rfl⟩ := Activation.enters.inj (ha.symm.trans h)
    exact ⟨rfl, IOBound.parseHeader_getLength _ hl⟩
  · cases hk

lemma activate_enters_body {kind' : ReadKind} (h : activate env .body c = .enters kind' d) :
    kind' = .head ∧ d.recv.bound.buffer.getLength.toNat ≤
      c.recv.bound.buffer.getLength.toNat := by
  rcases activate_cases env .body c with
    ⟨-, ha⟩ | ⟨-, n, ha⟩ | ⟨-, ha⟩ | ⟨-, -, hk, -⟩ | ⟨-, -, ha⟩
  · simp [ha] at h
  · simp [ha] at h
  · simp [ha] at h
  · cases hk
  · obtain ⟨rfl, rfl⟩ := Activation.enters.inj (ha.symm.trans h)
    have hv := dispatchBody_recvView env c
    simp only [recvView, Prod.mk.injEq] at hv
    rw [hv.2.2]
    exact ⟨rfl, c.recv.bound.parseMsgBody_getLength _⟩

lemma unwinds_settles {calls : List ReadKind}
    (h : Activation.Unwinds (activate env) calls kind c d) (hh : ¬ c.Halted) :
    (∃ op, d.recv.reads = c.recv.reads ++ [op]) ∨ d.net.connStat = .kClosed := by
  obtain ⟨kind', b, ⟨hb, hreads⟩, hret⟩ := h.last
    (I := fun _ b => ¬ b.Halted ∧ b.recv.reads = c.recv.reads) ⟨hh, rfl⟩ (by
      rintro kind b kind' d ⟨hb, hreads⟩ ha
      rcases activate_cases env kind b with
        ⟨-, hr⟩ | ⟨-, n, hr⟩ | ⟨-, hr⟩ | ⟨-, -, -, hr⟩ | ⟨-, -, hr⟩
      · simp [hr] at ha
      · simp [hr] at ha
      · simp [hr] at ha
      · obtain ⟨rfl, rfl⟩ := Activation.enters.inj (hr.symm.trans ha)
        exact ⟨hb, hreads⟩
      · obtain ⟨rfl, rfl⟩ := Activation.enters.inj (hr.symm.trans ha)
        obtain ⟨hnet, hcan, hr⟩ := dispatchBody_net env b
        refine ⟨fun hd => hb (hd.of_view hnet.symm hcan.symm), hr.trans hreads⟩)
  rcases activate_cases env kind' b with
    ⟨hhb, -⟩ | ⟨-, n, hr⟩ | ⟨-, hr⟩ | ⟨-, -, -, hr⟩ | ⟨-, -, hr⟩
  · exact absurd hhb hb
  · obtain rfl := Activation.returns.inj (hr.symm.trans hret)
    refine Or.inl ⟨⟨(b.setOpsCancelTimeout env).ops, kind', n⟩, ?_⟩
    have hv := recvView_eq_iff.mp (setOpsCancelTimeout_recvView env b)
    rw [← hreads, asyncRead, hv.2.2]
  · obtain rfl := Activation.returns.inj (hr.symm.trans hret)
    exact Or.inr (NetConn.sockShutdownAndClose_connStat _)
  · simp [hr] at hret
  · simp [hr] at hret

lemma unwinds_halted {calls : List ReadKind}
    (h : Activation.Unwinds (activate env) calls kind c d) (hh : c.Halted) : d = c := by
  have hstop : activate env kind c = .returns c := by
    rcases activate_cases env kind c with ⟨-, hr⟩ | ⟨hn, -⟩ | ⟨hn, -⟩ | ⟨hn, -⟩ | ⟨hn, -⟩
    · exact hr
    · exact absurd hh hn
    · exact absurd hh hn
    · exact absurd hh hn
    · exact absurd hh hn
  cases h with
  | returns ha => exact (Activation.returns.inj (hstop.symm.trans ha)).symm
  | enters ha => simp [hstop] at ha

lemma reachable_halted (h : (machine env).Reachable c) (hh : c.Halted) :
    c.net.connStat = .kClosed := by
  have hstat : c.net.connStat = .kWorking ∨ c.net.connStat = .kClosed := by
    refine Machine.reachable_of_inductive (M := machine env)
      (I := fun c => c.net.connStat = .kWorking ∨ c.net.connStat = .kClosed)
      (Or.inl (started_view env).1) (fun b e d hb hs => ?_) h
    rcases step_net hs with ⟨hn, -⟩ | hn
    · rwa [hn]
    · exact Or.inr hn
  rcases hh with hw | hc
  · exact hstat.resolve_left hw
  · exact hstat.resolve_left ((reachable_oneRead h).cancelled hc)

end Drain

end TcpConnAsync

namespace Client.TcpConnAsync

def activate (setting : ClientSetting) : ReadKind → TcpConnAsync → Activation ReadKind TcpConnAsync
  | .head, c =>
    if c.net.connStat ≠ .kWorking then .returns c
    else if c.recv.bound.buffer.getLength.toNat < Header.size then
      .returns (c.asyncRead .head (Header.size - c.recv.bound.buffer.getLength.toNat))
    else
      let res := c.parseHeader setting
      if res.1 = 0 then .enters .body res.2
      else if 0 < res.1 then .retries .head res.2
      else .returns res.2.shutdownAndCloseSocket
  | .body, c =>
    if c.net.connStat ≠ .kWorking then .returns c
    else if c.recv.bound.buffer.getLength < c.recv.bound.header.length then
      let toRead := min (c.recv.bound.header.length - c.recv.bound.buffer.getLength)
        kFixedIoBufferSize
      .returns (c.asyncRead .body toRead.toNat)
    else
      let res := c.parseMsgBody ⟨Header.zero, []⟩
      if res.1 = 0 then .enters .head (res.2.2.deliver res.2.1)
      else if 0 < res.1 then .retries .body res.2.2
      else .returns res.2.2.shutdownAndCloseSocket

def routine (setting : ClientSetting) (fuel : ℕ) : ReadKind → TcpConnAsync → Option TcpConnAsync
  | .head => doRead setting fuel
  | .body => doReadMsg setting fuel

section Drain

variable {setting : ClientSetting} {c d : TcpConnAsync} {kind : ReadKind}

theorem routine_eq_runs (setting : ClientSetting) (fuel : ℕ) (kind : ReadKind)
    (c : TcpConnAsync) :
    routine setting fuel kind c = Activation.runs (activate setting) fuel kind c := by
  induction fuel generalizing kind c with
  | zero => cases kind <;> simp [routine, doRead, doReadMsg, Activation.runs]
  | succ fuel ih =>
    cases kind with
    | head =>
      simp only [routine, doRead, Activation.runs, activate]
      split_ifs
      · rfl
      · rfl
      · exact ih .body _
      · exact ih .head _
      · rfl
    | body =>
      simp only [routine, doReadMsg, Activation.runs, activate]
      split_ifs
      · rfl
      · rfl
      · exact ih .head _
      · exact ih .body _
      · rfl

def Lacks (c : TcpConnAsync) : ReadKind → Prop
  | .head => c.recv.bound.buffer.getLength.toNat < Header.size
  | .body => c.recv.bound.buffer.getLength < c.recv.bound.header.length

/-- The connection behind `parse_msg_body` and the call of `wrapper_handler_`. -/
def deliverBody (c : TcpConnAsync) : TcpConnAsync :=
  (c.parseMsgBody ⟨Header.zero, []⟩).2.2.deliver (c.parseMsgBody ⟨Header.zero, []⟩).2.1

lemma activate_cases (setting : ClientSetting) (kind : ReadKind) (c : TcpConnAsync) :
    (c.net.connStat ≠ .kWorking ∧ activate setting kind c = .returns c) ∨
      (c.net.connStat = .kWorking ∧ c.Lacks kind ∧
        ∃ n, activate setting kind c = .returns (c.asyncRead kind n)) ∨
      (c.net.connStat = .kWorking ∧ ¬ c.Lacks .head ∧
        activate setting kind c = .returns (c.parseHeader setting).2.shutdownAndCloseSocket) ∨
      (c.net.connStat = .kWorking ∧ ¬ c.Lacks .head ∧ (c.parseHeader setting).1 = 0 ∧
        kind = .head ∧ activate setting kind c = .enters .body (c.parseHeader setting).2) ∨
      (c.net.connStat = .kWorking ∧ kind = .body ∧
        activate setting kind c = .enters .head c.deliverBody) := by
  by_cases hw : c.net.connStat ≠ .kWorking
  · exact Or.inl ⟨hw, by cases kind <;> simp [activate, hw]⟩
  have hopen : c.net.connStat = .kWorking := not_not.mp hw
  refine Or.inr ?_
  cases kind with
  | head =>
    by_cases hl : c.recv.bound.buffer.getLength.toNat < Header.size
    · exact Or.inl ⟨hopen, hl, _, by simp only [activate, if_neg hw, if_pos hl]; rfl⟩
    have hle := (IOBound.parseHeader_cut setting.recvMaxMsgSize hl).1
    by_cases h0 : (c.parseHeader setting).1 = 0
    · exact Or.inr (Or.inr (Or.inl ⟨hopen, hl, h0, rfl, by simp [activate, hopen, hl, h0]⟩))
    · have hneg : ¬ 0 < (c.parseHeader setting).1 := not_lt.mpr hle
      exact Or.inr (Or.inl ⟨hopen, hl, by simp [activate, hopen, hl, h0, hneg]⟩)
  | body =>
    by_cases hl : c.recv.bound.buffer.getLength < c.recv.bound.header.length
    · exact Or.inl ⟨hopen, hl, _, by simp only [activate, if_neg hw, if_pos hl]; rfl⟩
    have h0 : (c.parseMsgBody ⟨Header.zero, []⟩).1 = 0 :=
      (c.recv.bound.parseMsgBody_cut _).1.trans (if_neg hl)
    exact Or.inr (Or.inr (Or.inr ⟨hopen, rfl, by simp [activate, hopen, hl, h0, deliverBody]⟩))

lemma activate_ne_retries (setting : ClientSetting) (kind : ReadKind) (c : TcpConnAsync)
    (kind' : ReadKind) (d : TcpConnAsync) : activate setting kind c ≠ .retries kind' d := by
  rcases activate_cases setting kind c with
    ⟨-, h⟩ | ⟨-, -, n, h⟩ | ⟨-, -, h⟩ | ⟨-, -, -, -, h⟩ | ⟨-, -, h⟩ <;> simp [h]

lemma activate_enters_head {kind' : ReadKind} (h : activate setting .head c = .enters kind' d) :
    kind' = .body ∧ d.recv.bound.buffer.getLength.toNat + Header.size =
      c.recv.bound.buffer.getLength.toNat := by
  rcases activate_cases setting .head c with
    ⟨-, ha⟩ | ⟨-, -, n, ha⟩ | ⟨-, -, ha⟩ | ⟨-, hl, -, -, ha⟩ | ⟨-, hk, -⟩
  · simp [ha] at h
  · simp [ha] at h
  · simp [ha] at h
  · obtain ⟨rfl, rfl⟩ := Activation.enters.inj (ha.symm.trans h)
    exact ⟨rfl, IOBound.parseHeader_getLength _ hl⟩
  · cases hk

lemma activate_enters_body {kind' : ReadKind} (h : activate setting .body c = .enters kind' d) :
    kind' = .head ∧ d.recv.bound.buffer.getLength.toNat ≤
      c.recv.bound.buffer.getLength.toNat := by
  rcases activate_cases setting .body c with
    ⟨-, ha⟩ | ⟨-, -, n, ha⟩ | ⟨-, -, ha⟩ | ⟨-, -, -, hk, -⟩ | ⟨-, -, ha⟩
  · simp [ha] at h
  · simp [ha] at h
  · simp [ha] at h
  · cases hk
  · obtain ⟨rfl, rfl⟩ := Activation.enters.inj (ha.symm.trans h)
    exact ⟨rfl, c.recv.bound.parseMsgBody_getLength _⟩

lemma unwinds_settles {calls : List ReadKind}
    (h : Activation.Unwinds (activate setting) calls kind c d) (hw : c.net.connStat = .kWorking) :
    (∃ op, d.recv.reads = c.recv.reads ++ [op]) ∨ d.net.connStat = .kClosed := by
  obtain ⟨kind', b, ⟨hb, hreads⟩, hret⟩ := h.last
    (I := fun _ b => b.net.connStat = .kWorking ∧ b.recv.reads = c.recv.reads) ⟨hw, rfl⟩ (by
      rintro kind b kind' d ⟨hb, hreads⟩ ha
      rcases activate_cases setting kind b with
        ⟨-, hr⟩ | ⟨-, -, n, hr⟩ | ⟨-, -, hr⟩ | ⟨-, -, -, -, hr⟩ | ⟨-, -, hr⟩
      · simp [hr] at ha
      · simp [hr] at ha
      · simp [hr] at ha
      · obtain ⟨rfl, rfl⟩ := Activation.enters.inj (hr.symm.trans ha)
        exact ⟨hb, hreads⟩
      · obtain ⟨rfl, rfl⟩ := Activation.enters.inj (hr.symm.trans ha)
        exact ⟨hb, hreads⟩)
  rcases activate_cases setting kind' b with
    ⟨hnb, -⟩ | ⟨-, -, n, hr⟩ | ⟨-, -, hr⟩ | ⟨-, -, -, -, hr⟩ | ⟨-, -, hr⟩
  · exact absurd hb hnb
  · obtain rfl := Activation.returns.inj (hr.symm.trans hret)
    exact Or.inl ⟨⟨b.ops, kind', n⟩, by rw [← hreads, asyncRead]⟩
  · obtain rfl := Activation.returns.inj (hr.symm.trans hret)
    exact Or.inr (NetConn.sockShutdownAndClose_connStat _)
  · simp [hr] at hret
  · simp [hr] at hret

lemma unwinds_stopped {calls : List ReadKind}
    (h : Activation.Unwinds (activate setting) calls kind c d)
    (hw : c.net.connStat ≠ .kWorking) : d = c := by
  have hstop : activate setting kind c = .returns c := by
    cases kind <;> simp [activate, hw]
  cases h with
  | returns ha => exact (Activation.returns.inj (hstop.symm.trans ha)).symm
  | enters ha => simp [hstop] at ha

end Drain

end Client.TcpConnAsync

/-- Whatever is buffered, announced and allowed, the read chain of a server connection and of
an asynchronous client connection ends: no activation asks to be tried again, `do_read` is
called at most once for every head in the buffer and once more, and there is then a read
outstanding or the connection is closed. The chain leaves a connection as it is only where it
has stopped already, and a connection that is reached so is closed. -/
theorem drains_end :
    (∀ (env : ServerEnv) (kind : ReadKind) (c : TcpConnAsync),
      (∀ kind' d, TcpConnAsync.activate env kind c ≠ .retries kind' d) ∧
        (∃ calls d, Activation.Unwinds (TcpConnAsync.activate env) calls kind c d ∧
          calls.count .head ≤ c.recv.bound.buffer.getLength.toNat / Header.size + 1 ∧
          (∀ fuel, calls.length ≤ fuel → TcpConnAsync.routine env fuel kind c = some d) ∧
          ((∃ op, d.recv.reads = c.recv.reads ++ [op]) ∨ d.net.connStat = .kClosed ∨
            c.Halted ∧ d = c)) ∧
        ((TcpConnAsync.machine env).Reachable c → c.Halted → c.net.connStat = .kClosed)) ∧
      ∀ (setting : Client.ClientSetting) (kind : ReadKind) (c : Client.TcpConnAsync),
        (∀ kind' d, Client.TcpConnAsync.activate setting kind c ≠ .retries kind' d) ∧
          (∃ calls d, Activation.Unwinds (Client.TcpConnAsync.activate setting) calls kind c d ∧
            calls.count .head ≤ c.recv.bound.buffer.getLength.toNat / Header.size + 1 ∧
            (∀ fuel, calls.length ≤ fuel →
              Client.TcpConnAsync.routine setting fuel kind c = some d) ∧
            ((∃ op, d.recv.reads = c.recv.reads ++ [op]) ∨ d.net.connStat = .kClosed ∨
              c.net.connStat ≠ .kWorking ∧ d = c)) ∧
          ((Client.receiver setting).Reachable c → c.net.connStat ≠ .kWorking →
            c.net.connStat = .kClosed) := by
  refine ⟨fun env kind c => ⟨TcpConnAsync.activate_ne_retries env kind c, ?_,
      TcpConnAsync.reachable_halted⟩,
    fun setting kind c => ⟨Client.TcpConnAsync.activate_ne_retries setting kind c, ?_,
      Client.TcpConnAsync.reachable_stopped⟩⟩
  · obtain ⟨calls, d, hunwinds, hcount⟩ := unwinds_of_heads
      (fun c : TcpConnAsync => c.recv.bound.buffer.getLength.toNat)
      (TcpConnAsync.activate_ne_retries env)
      (fun _ _ _ => TcpConnAsync.activate_enters_head)
      (fun _ _ _ => TcpConnAsync.activate_enters_body) kind c
    refine ⟨calls, d, hunwinds, hcount, fun fuel hfuel => ?_, ?_⟩
    · rw [TcpConnAsync.routine_eq_runs]
      exact hunwinds.runs hfuel
    · by_cases hh : c.Halted
      · exact Or.inr (Or.inr ⟨hh, TcpConnAsync.unwinds_halted hunwinds hh⟩)
      · rw [← or_assoc]
        exact Or.inl (TcpConnAsync.unwinds_settles hunwinds hh)
  · obtain ⟨calls, d, hunwinds, hcount⟩ := unwinds_of_heads
      (fun c : Client.TcpConnAsync => c.recv.bound.buffer.getLength.toNat)
      (Client.TcpConnAsync.activate_ne_retries setting)
      (fun _ _ _ => Client.TcpConnAsync.activate_enters_head)
      (fun _ _ _ => Client.TcpConnAsync.activate_enters_body) kind c
    refine ⟨calls, d, hunwinds, hcount, fun fuel hfuel => ?_, ?_⟩
    · rw [Client.TcpConnAsync.routine_eq_runs]
      exact hunwinds.runs hfuel
    · by_cases hw : c.net.connStat = .kWorking
      · rw [← or_assoc]
        exact Or.inl (Client.TcpConnAsync.unwinds_settles hunwinds hw)
      · exact Or.inr (Or.inr ⟨hw, Client.TcpConnAsync.unwinds_stopped hunwinds hw⟩)

end Tzrpc
