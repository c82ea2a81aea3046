import Tzrpc.ListUpdate
import Tzrpc.RpcClient
import Tzrpc.RpcClientTimeout

/-!
# When the client goes

After the façade is gone the implementation lives until its timer and its reset connections
are done with it. The connection in `conn_async_` and the implementation refer to each other,
so a client that has one is never destroyed, and `~RpcClientImpl` finds none to close.
-/
namespace Tzrpc.Client

namespace RpcClientImpl

def Alone : Event → Prop
  | .callRPC _ _ _ _ _ => False
  | _ => True

variable {cl cl' : RpcClientImpl} {e : Event}

lemma rpcCallTimeout_holds (w : CallWait) (code : WaitCode) (sync : Bool) :
    (cl.rpcCallTimeout w code).Holds sync ↔ cl.Holds sync := by
  cases code with
  | aborted => rfl
  | success =>
    unfold rpcCallTimeout
    dsimp only
    cases sync <;> split_ifs <;> split <;> simp_all [Holds]

lemma alone_step (hc : cl.calling = none) (he : Alone e) (h : cl.step e = some cl') :
    cl'.calling = none ∧ (∀ sync, cl'.Holds sync ↔ cl.Holds sync) ∧ cl.begun e = none ∧
      e ≠ .connected := by
  cases e with
  | callRPC => exact he.elim
  | connected => simp [step, hc] at h
  | connectFailed => simp [step, hc] at h
  | wrote n => simp [step, hc] at h
  | writeDone => simp [step, hc] at h
  | readDone bytes => simp [step, hc] at h
  | ioFailed ec => simp [step, hc] at h
  | timerExpire =>
    simp only [step] at h
    split_ifs at h
    obtain rfl := Option.some.inj h
    exact ⟨hc, fun sync => by cases sync <;> rfl, rfl, by simp⟩
  | timerHandler i =>
    obtain ⟨⟨w, u⟩, -, rfl⟩ := Option.map_eq_some_iff.mp h
    refine ⟨?_, fun sync => ?_, rfl, by simp⟩
    · rw [(@rpcCallTimeout_same { cl with rpcCallTimer := u } w.wait w.code).2.1]
      exact hc
    · rw [rpcCallTimeout_holds]
      cases sync <;> rfl
  | asyncConn ce =>
    obtain ⟨c, hconn, h⟩ := Option.bind_eq_some_iff.mp h
    obtain ⟨d, -, rfl⟩ := Option.map_eq_some_iff.mp h
    refine ⟨hc, fun sync => ?_, rfl, by simp⟩
    cases sync
    · simp [Holds, hconn]
    · rfl
  | droppedConn i ce =>
    obtain ⟨c, -, h⟩ := Option.bind_eq_some_iff.mp h
    obtain ⟨d, -, rfl⟩ := Option.map_eq_some_iff.mp h
    exact ⟨hc, fun sync => by cases sync <;> rfl, rfl, by simp⟩

lemma Backed.alone_step (hb : Backed cl) (hc : cl.calling = none) (he : Alone e)
    (h : cl.step e = some cl') : Backed cl' := by
  obtain ⟨-, hholds, -, hne⟩ := RpcClientImpl.alone_step hc he h
  refine hb.step h fun w hr => ?_
  rcases hr with ⟨hn, hh | ⟨call, rfl, -⟩⟩
  · exact absurd ((hholds _).mpr hh) hn
  · exact absurd rfl hne

lemma step_runsTimeout {w : CallWait} (hr : RunsTimeout cl e w) (hn : ¬ cl.Holds w.sync)
    (h : cl.step e = some cl') : cl'.nullDerefs = cl.nullDerefs + 1 := by
  obtain ⟨i, rfl, hi⟩ := hr
  obtain ⟨⟨x, u⟩, hx, rfl⟩ := Option.map_eq_some_iff.mp h
  have hxw : x = ⟨w, .success⟩ := by
    simp only [SteadyTimer.take, hi, Option.map_some, Option.some.injEq, Prod.mk.injEq] at hx
    exact hx.1.symm
  subst hxw
  exact @rpcCallTimeout_null { cl with rpcCallTimer := u } w hn

lemma alone_unbacked {w : CallWait} (hc : cl.calling = none) (he : Alone e)
    (h : cl.step e = some cl') (hn : ¬ cl.Holds w.sync) :
    cl.nullDerefs ≤ cl'.nullDerefs ∧
      (cl.rpcCallTimer.Live w → cl'.rpcCallTimer.Live w ∨ cl.nullDerefs < cl'.nullDerefs) := by
  obtain ⟨-, -, hbegun, -⟩ := alone_step hc he h
  constructor
  · rcases step_nullDerefs h with hsame | ⟨x, hx, hnx⟩
    · exact hsame.ge
    · exact (step_runsTimeout hx hnx h).ge.trans' (Nat.le_succ _)
  · intro hw
    by_cases hr : RunsTimeout cl e w
    · exact Or.inr (by rw [step_runsTimeout hr hn h]; exact Nat.lt_succ_self _)
    · exact Or.inl (step_keeps_live h hw (by simp [hbegun]) hr)

def toCome (cl : RpcClientImpl) : ℕ :=
  2 * cl.rpcCallTimer.pending.length + cl.rpcCallTimer.queued.length +
    (cl.droppedAsync.map fun c => c.recv.reads.length + c.send.writes.length).sum

lemma exists_ends (setting : ClientSetting) {c : TcpConnAsync}
    (h : c.recv.reads ≠ [] ∨ c.send.writes ≠ []) :
    ∃ ce d, c.step setting ce = some d ∧
      d.recv.reads.length + d.send.writes.length + 1 =
        c.recv.reads.length + c.send.writes.length := by
  rcases h with h | h
  · obtain ⟨op, ops, hr⟩ := List.exists_cons_of_ne_nil h
    refine ⟨.readFail 0 .eof, (c.dropRead 0).handleSocketEc .eof, ?_, ?_⟩
    · simp [TcpConnAsync.step, hr, TcpConnAsync.mayFail]
    · simp [TcpConnAsync.handleSocketEc, ErrorCode.closeSocket, TcpConnAsync.dropRead,
        TcpConnAsync.shutdownAndCloseSocket, hr]
      omega
  · obtain ⟨op, ops, hw⟩ := List.exists_cons_of_ne_nil h
    refine ⟨.writeFail 0 .connectionReset, (c.dropWrite 0).writeHandler (some .connectionReset),
      ?_, ?_⟩
    · simp [TcpConnAsync.step, hw, TcpConnAsync.mayFail]
    · simp [TcpConnAsync.writeHandler, TcpConnAsync.handleSocketEc, ErrorCode.closeSocket,
        TcpConnAsync.dropWrite, TcpConnAsync.shutdownAndCloseSocket, hw]
      omega

lemma Referenced.winds_down (h : cl.Referenced) (hn : cl.connAsync = none) :
    ∃ e cl', Alone e ∧ cl.step e = some cl' ∧ cl'.toCome < cl.toCome := by
  by_cases hp : cl.rpcCallTimer.pending = []
  swap
  · refine ⟨.timerExpire, { cl with rpcCallTimer := cl.rpcCallTimer.expire }, trivial,
      by simp [step, hp], ?_⟩
    have hpos := List.length_pos_of_ne_nil hp
    have hpending : cl.rpcCallTimer.expire.pending.length = 0 := by simp
    have hqueued : cl.rpcCallTimer.expire.queued.length =
        cl.rpcCallTimer.queued.length + cl.rpcCallTimer.pending.length := by
      simp [SteadyTimer.expire, SteadyTimer.completeAll]
    simp only [toCome]
    omega
  by_cases hq : cl.rpcCallTimer.queued = []
  swap
  · obtain ⟨x, xs, hx⟩ := List.exists_cons_of_ne_nil hq
    have htake : cl.rpcCallTimer.take 0 = some (x, ⟨cl.rpcCallTimer.object, xs⟩) := by
      simp [SteadyTimer.take, hx]
    let taken : RpcClientImpl := { cl with rpcCallTimer := ⟨cl.rpcCallTimer.object, xs⟩ }
    refine ⟨.timerHandler 0, taken.rpcCallTimeout x.wait x.code, trivial,
      by simp [step, htake, taken], ?_⟩
    have htimer : (taken.rpcCallTimeout x.wait x.code).rpcCallTimer = taken.rpcCallTimer :=
      (rpcCallTimeout_same x.code).1
    have hdropped : (taken.rpcCallTimeout x.wait x.code).droppedAsync = cl.droppedAsync := by
      rcases @rpcCallTimeout_effect taken x.wait x.code with hsame | ⟨c, hc, -⟩
      · exact hsame.dropped
      · exact absurd (hc.symm.trans hn) (by simp)
    have hpending : taken.rpcCallTimer.pending = cl.rpcCallTimer.pending := rfl
    simp only [toCome, htimer, hdropped, hpending, hx, List.length_cons]
    simp only [taken]
    omega
  obtain ⟨c, hc, hops⟩ : ∃ c ∈ cl.droppedAsync, c.recv.reads ≠ [] ∨ c.send.writes ≠ [] := by
    rcases h with h | h | h | h
    · exact absurd hp h
    · exact absurd hq h
    · exact absurd hn h
    · exact h
  obtain ⟨i, hi⟩ := List.getElem?_of_mem hc
  obtain ⟨ce, d, hd, hless⟩ := exists_ends cl.setting hops
  refine ⟨.droppedConn i ce, { cl with droppedAsync := cl.droppedAsync.set i d }, trivial,
    by simp [step, hi, hd], ?_⟩
  have hsum := @sum_set_add _ (fun c => c.recv.reads.length + c.send.writes.length) _ _ _ d hi
  simp only [toCome] at hsum ⊢
  omega

end RpcClientImpl

namespace RpcClient

open RpcClientImpl (Alone)

variable {c₀ c c' : RpcClient} {cl : RpcClientImpl}

lemma constructed_init {ioInit : Bool} {addr : Bytes} {port : UInt16}
    (hi : c₀.initialized = false) (hd : c₀.dropped = false)
    (h : constructed (c₀.init ioInit addr port) = some c) :
    c.dropped = false ∧ ∃ setting, c.impl = .live (.fresh setting) := by
  simp only [init, hi, Bool.false_eq_true, ↓reduceIte] at h
  split_ifs at h
  · obtain rfl := Option.some.inj h
    exact ⟨hd, _, rfl⟩
  · cases h

lemma Constructed.impl (h : Constructed c) :
    c.dropped = false ∧ (c.impl = .null ∨ ∃ setting, c.impl = .live (.fresh setting)) := by
  rcases h with rfl | ⟨ioInit, addr, port, handler, h⟩ | ⟨ioInit, doc, handler, h⟩ |
    ⟨ioInit, setting, h⟩
  · exact ⟨rfl, Or.inl rfl⟩
  · exact (constructed_init rfl rfl h).imp_right Or.inr
  · unfold ofDoc initDoc at h
    dsimp only at h
    split at h
    · cases h
    · cases h
    · split_ifs at h
      · cases h
      · cases h
      · cases h
      · cases h
      · exact (constructed_init rfl rfl h).imp_right Or.inr
  · exact (constructed_init rfl rfl h).imp_right Or.inr

lemma collect_live (hl : c.impl = .live cl) :
    (c.dropped = true ∧ ¬ cl.Referenced ∧ c.collect = { c with impl := .destroyed cl.destruct }) ∨
      ((c.dropped = true → cl.Referenced) ∧ c.collect = c) := by
  unfold collect
  rw [hl]
  dsimp only
  split_ifs with h
  · exact Or.inl ⟨h.1, h.2, rfl⟩
  · exact Or.inr ⟨fun hd => not_not.mp fun hr => h ⟨hd, hr⟩, rfl⟩

inductive Transition (c : RpcClient) : RpcClient → Prop
  | refused (calls : c.dropped = false) : Transition c c.refuse
  | call (cl cl' : RpcClientImpl) (e : RpcClientImpl.Event) (calls : c.dropped = false)
    (live : c.impl = .live cl) (h : cl.step e = some cl') :
    Transition c { c with impl := .live cl' }
  | alone (cl cl' : RpcClientImpl) (e : RpcClientImpl.Event) (he : Alone e)
    (live : c.impl = .live cl) (h : cl.step e = some cl') :
    Transition c { c with impl := .live cl' }.collect
  | drop (keeps : c.dropped = false) (idle : c.idle = true) :
    Transition c { c with dropped := true }.collect

theorem step_transition {e : Event} (h : c.step e = some c') : Transition c c' := by
  cases e with
  | callRPC sync serviceId opcode payload timeoutSec =>
    have hd : c.dropped = false := by
      by_contra hd
      simp [step, hd] at h
    rw [step, if_neg (by simp [hd])] at h
    cases hl : c.impl with
    | live cl =>
      rw [hl] at h
      dsimp only at h
      split_ifs at h
      · obtain rfl := Option.some.inj h
        exact .refused hd
      · obtain ⟨cl', hcl, rfl⟩ := Option.map_eq_some_iff.mp h
        exact .call cl cl' _ hd hl hcl
    | null =>
      rw [hl] at h
      obtain rfl := Option.some.inj h
      exact .refused hd
    | destroyed cl =>
      rw [hl] at h
      obtain rfl := Option.some.inj h
      exact .refused hd
  | impl e =>
    have halone : Alone e ∧ ∃ cl, c.impl = .live cl ∧
        (cl.step e).map (fun cl => collect { c with impl := .live cl }) = some c' := by
      cases e with
      | callRPC => cases h
      | _ =>
        refine ⟨trivial, ?_⟩
        simp only [step] at h
        split at h
        · exact ⟨_, ‹_›, h⟩
        · cases h
    obtain ⟨he, cl, hl, h⟩ := halone
    obtain ⟨cl', hcl, rfl⟩ := Option.map_eq_some_iff.mp h
    exact .alone cl cl' e he hl hcl
  | drop =>
    simp only [step] at h
    split_ifs at h with hd
    obtain rfl := Option.some.inj h
    rw [not_or, not_not] at hd
    exact .drop (by simpa using hd.1) hd.2

lemma step_gone {e : Event} (hd : c.dropped = true) (hl : c.impl = .live cl)
    (h : c.step e = some c') : ∃ ie cl', Alone ie ∧ cl.step ie = some cl' ∧
      c' = { c with impl := .live cl' }.collect := by
  cases step_transition h with
  | refused calls => simp [hd] at calls
  | call cl' cl'' ie calls => simp [hd] at calls
  | alone cl₁ cl' ie he live hcl =>
    obtain rfl := ImplObject.live.inj (hl.symm.trans live)
    exact ⟨ie, cl', he, hcl, rfl⟩
  | drop keeps => simp [hd] at keeps

lemma reachable_gone (hc : Constructed c₀) (h : (machine c₀).Reachable c)
    (hd : c.dropped = true) (hl : c.impl = .live cl) : cl.calling = none ∧ cl.Referenced := by
  refine Machine.reachable_of_inductive (M := machine c₀)
    (I := fun c => ∀ cl, c.dropped = true → c.impl = .live cl → cl.calling = none ∧ cl.Referenced)
    (fun cl hd _ => ?_) (fun c e c' hi hn => ?_) h cl hd hl
  · exact absurd (hc.impl.1.symm.trans hd) (by simp)
  · intro cl hd hl
    have hcollect : ∀ (u : RpcClient) (cu : RpcClientImpl), u.impl = .live cu →
        u.collect.impl = .live cl → u.collect.dropped = true → cl = cu ∧ cl.Referenced := by
      intro u cu hu hl hd
      rcases collect_live hu with ⟨-, -, hgone⟩ | ⟨href, hsame⟩
      · rw [hgone] at hl
        cases hl
      · rw [hsame] at hl hd
        obtain rfl := ImplObject.live.inj (hl.symm.trans hu)
        exact ⟨rfl, href hd⟩
    cases step_transition hn with
    | refused calls => exact absurd (calls.symm.trans hd) (by simp)
    | call cl' cl'' ie calls => exact absurd (calls.symm.trans hd) (by simp)
    | alone cl₁ cl' ie he live hcl =>
      obtain ⟨rfl, href⟩ := hcollect _ cl' rfl hl hd
      have hdropped : c.dropped = true := by
        rcases @collect_live { c with impl := .live cl } _ rfl with ⟨hdc, -⟩ | ⟨-, hsame⟩
        · exact hdc
        · rwa [hsame] at hd
      exact ⟨(RpcClientImpl.alone_step (hi cl₁ hdropped live).1 he hcl).1, href⟩
    | drop keeps idle =>
      cases himpl : c.impl with
      | live cu =>
        obtain ⟨rfl, href⟩ := hcollect { c with dropped := true } cu himpl hl hd
        simp only [RpcClient.idle, himpl, Option.isNone_iff_eq_none] at idle
        exact ⟨idle, href⟩
      | null => simp [collect, himpl] at hl
      | destroyed cu => simp [collect, himpl] at hl

/-- The façade is gone, and the implementation has a connection in `conn_async_`. -/
def Bound (c : RpcClient) : Prop :=
  c.dropped = true ∧ ∃ cl, c.impl = .live cl ∧ cl.calling = none ∧ cl.Holds false

lemma Bound.step {e : Event} (h : c.Bound) (hs : c.step e = some c') : c'.Bound := by
  obtain ⟨hd, cl, hl, hcalling, hconn⟩ := h
  obtain ⟨ie, cl', he, hcl, rfl⟩ := step_gone hd hl hs
  obtain ⟨hcalling', hholds, -⟩ := RpcClientImpl.alone_step hcalling he hcl
  have hconn' := (hholds false).mpr hconn
  have href : cl'.Referenced := Or.inr (Or.inr (Or.inl (Option.isSome_iff_ne_none.mp hconn')))
  rcases @collect_live { c with impl := .live cl' } cl' rfl with ⟨-, hun, -⟩ | ⟨-, hsame⟩
  · exact absurd href hun
  · rw [hsame]
    exact ⟨hd, cl', rfl, hcalling', hconn'⟩

/-- The façade is gone, and the wait `w`, whose connection is gone too, is live until it has
dereferenced null. -/
def Unbacked (w : CallWait) (n : ℕ) (c : RpcClient) : Prop :=
  c.dropped = true ∧ ((∃ cl, c.impl = .live cl ∧ cl.calling = none ∧ ¬ cl.Holds w.sync ∧
      (cl.rpcCallTimer.Live w ∧ n ≤ cl.nullDerefs ∨ n < cl.nullDerefs)) ∨
    ∃ cl, c.impl = .destroyed cl ∧ n < cl.nullDerefs)

lemma Unbacked.step {w : CallWait} {n : ℕ} {e : Event} (h : c.Unbacked w n)
    (hs : c.step e = some c') : c'.Unbacked w n := by
  obtain ⟨hd, ⟨cl, hl, hcalling, hn, hw⟩ | ⟨cl, hl, -⟩⟩ := h
  · obtain ⟨ie, cl', he, hcl, rfl⟩ := step_gone hd hl hs
    obtain ⟨hcalling', hholds, -⟩ := RpcClientImpl.alone_step hcalling he hcl
    obtain ⟨hle, hlive⟩ := @RpcClientImpl.alone_unbacked _ _ _ w hcalling he hcl hn
    have hw' : cl'.rpcCallTimer.Live w ∧ n ≤ cl'.nullDerefs ∨ n < cl'.nullDerefs := by
      rcases hw with ⟨hw, hnle⟩ | hlt
      · exact (hlive hw).imp (fun hw => ⟨hw, hnle.trans hle⟩) fun hlt => hnle.trans_lt hlt
      · exact Or.inr (hlt.trans_le hle)
    rcases @collect_live { c with impl := .live cl' } cl' rfl with ⟨-, hun, hgone⟩ | ⟨-, hsame⟩
    · rw [hgone]
      refine ⟨hd, Or.inr ⟨_, rfl, ?_⟩⟩
      rcases hw' with ⟨hw', -⟩ | hlt
      · refine absurd ?_ hun
        rcases hw' with hw' | hw'
        · exact Or.inl (List.ne_nil_of_mem hw')
        · exact Or.inr (Or.inl (List.ne_nil_of_mem hw'))
      · exact hlt
    · rw [hsame]
      exact ⟨hd, Or.inl ⟨cl', rfl, hcalling', fun hh => hn ((hholds _).mp hh), hw'⟩⟩
  · cases step_transition hs with
    | refused calls => exact absurd (calls.symm.trans hd) (by simp)
    | call cl' cl'' ie calls => exact absurd (calls.symm.trans hd) (by simp)
    | alone cl₁ cl' ie he live hcl => exact absurd (hl.symm.trans live) (by simp)
    | drop keeps => exact absurd (keeps.symm.trans hd) (by simp)

/-- Without a connection in `conn_async_`, and with every live wait backed, the implementation
is destroyed once its timer and its reset connections are done. -/
lemma exists_destroyed (hd : c.dropped = true) (hl : c.impl = .live cl)
    (hcalling : cl.calling = none) (href : cl.Referenced) (hn : cl.connAsync = none)
    (hb : cl.Backed) : ∃ es t cl', (machine c₀).exec c es = some t ∧
      t.impl = .destroyed cl' ∧ cl'.nullDerefs = cl.nullDerefs := by
  induction hm : cl.toCome using Nat.strong_induction_on generalizing c cl with
  | _ m ih =>
    obtain ⟨ie, cl', he, hcl, hless⟩ := href.winds_down hn
    obtain ⟨hcalling', hholds, -⟩ := RpcClientImpl.alone_step hcalling he hcl
    have hnull := hb.nullDerefs hcl
    have hstep : (machine c₀).next c (.impl ie) = some { c with impl := .live cl' }.collect := by
      cases ie with
      | callRPC => exact he.elim
      | _ => simp only [machine, RpcClient.step, hl, hcl, Option.map_some]
    rcases @collect_live { c with impl := .live cl' } cl' rfl with ⟨-, -, hgone⟩ | ⟨href', hsame⟩
    · rw [hgone] at hstep
      exact ⟨[.impl ie], { c with impl := .destroyed cl'.destruct }, cl'.destruct,
        by simp [hstep], rfl, hnull⟩
    · rw [hsame] at hstep
      have hn' : cl'.connAsync = none := by
        have hnot := (hholds false).not.mpr (by simp [RpcClientImpl.Holds, hn])
        simpa [RpcClientImpl.Holds] using hnot
      obtain ⟨es, t, cl'', ht, hgone, hnull'⟩ := @ih _ (hm ▸ hless) { c with impl := .live cl' }
        cl' hd rfl hcalling' (href' hd) hn' (hb.alone_step hcalling he hcl) rfl
      refine ⟨.impl ie :: es, t, cl'', ?_, hgone, hnull'.trans hnull⟩
      rw [Machine.exec_cons, hstep]
      exact ht

/-- After the façade is gone, in every state a run reaches, the implementation can still come
to its end without a null dereference exactly if there is no connection in `conn_async_` and
the connection of every live wait is there. -/
theorem collectable_iff (hc : Constructed c₀) (h : (machine c₀).Reachable c)
    (hd : c.dropped = true) (hl : c.impl = .live cl) :
    (∃ es t cl', (machine c₀).exec c es = some t ∧ t.impl = .destroyed cl' ∧
      cl'.nullDerefs = cl.nullDerefs) ↔ cl.connAsync = none ∧ cl.Backed := by
  obtain ⟨hcalling, href⟩ := reachable_gone hc h hd hl
  constructor
  · rintro ⟨es, t, cl', ht, hgone, hnull⟩
    constructor
    · by_contra hconn
      have hbound : c.Bound :=
        ⟨hd, cl, hl, hcalling, Option.isSome_iff_ne_none.mpr hconn⟩
      obtain ⟨-, cl'', hlive, -⟩ := Machine.exec_of_inductive (M := machine c₀)
        (K := fun _ => True) (fun _ _ _ hi _ hs => hi.step hs) (fun _ _ => trivial) hbound ht
      exact absurd (hgone.symm.trans hlive) (by simp)
    · intro w hw
      by_contra hn
      have hun : c.Unbacked w cl.nullDerefs :=
        ⟨hd, Or.inl ⟨cl, hl, hcalling, hn, Or.inl ⟨hw, le_refl _⟩⟩⟩
      obtain ⟨-, ⟨cl'', hlive, -⟩ | ⟨cl'', hgone', hlt⟩⟩ := Machine.exec_of_inductive
        (M := machine c₀) (K := fun _ => True) (fun _ _ _ hi _ hs => hi.step hs)
        (fun _ _ => trivial) hun ht
      · exact absurd (hgone.symm.trans hlive) (by simp)
      · obtain rfl := ImplObject.destroyed.inj (hgone.symm.trans hgone')
        omega
  · rintro ⟨hn, hb⟩
    exact exists_destroyed hd hl hcalling href hn hb

def answeredRun : List Event :=
  let response : Bytes :=
    (Message.ofPayload (RpcResponseMessage.ofReply 1 1 [7]).netStr).netStr
  [.callRPC true 1 1 [0] 5, .impl .connected, .impl (.wrote 33), .impl .writeDone,
    .impl (.readDone (response.take 16)), .impl (.readDone (response.drop 16)), .drop]

theorem answeredRun_collectable :
    ∃ c₀ c cl, ofAddr true [] 8435 false = some c₀ ∧ (machine c₀).run answeredRun = some c ∧
      c.impl = .live cl ∧ cl.returned.map Returned.respload = [some [7]] ∧
      ∃ es t cl', (machine c₀).exec c es = some t ∧ t.impl = .destroyed cl' ∧
        cl'.nullDerefs = cl.nullDerefs := by
  have h : (ofAddr true [] 8435 false).any (fun c₀ =>
      ((machine c₀).run answeredRun).any fun c => c.impl.alive.any fun cl =>
        decide (c.dropped = true ∧
          cl.returned.map Returned.respload = [some [7]] ∧ cl.connAsync = none ∧
          cl.rpcCallTimer.queued = [] ∧
          ∀ w ∈ cl.rpcCallTimer.pending, w.sync = true ∧ cl.connSync.isSome = true)) := by
    decide +kernel
  obtain ⟨c₀, hc₀, h⟩ := (Option.any_eq_true _ _).mp h
  obtain ⟨c, hrun, h⟩ := (Option.any_eq_true _ _).mp h
  obtain ⟨cl, halive, h⟩ := (Option.any_eq_true _ _).mp h
  have hl := ImplObject.eq_live halive
  obtain ⟨hd, hret, hn, hq, hw⟩ := of_decide_eq_true h
  have hb : cl.Backed := by
    rintro w (hp | hs)
    · rw [(hw w hp).1]
      exact (hw w hp).2
    · rw [hq] at hs
      cases hs
  have hc : Constructed c₀ := Or.inr (Or.inl ⟨true, [], 8435, false, hc₀⟩)
  exact ⟨c₀, c, cl, hc₀, hrun, hl, hret, (collectable_iff hc ⟨_, hrun⟩ hd hl).mpr ⟨hn, hb⟩⟩

/-- The client has no asynchronous connection, its synchronous one is closed, and those it has
reset are closed and have no operation outstanding. A synchronous connection it has reset is
destroyed with that. -/
def LeftClosed (cl : RpcClientImpl) : Prop :=
  cl.connAsync = none ∧ (∀ c, cl.connSync = some c → c.net.connStat = .kClosed) ∧
    ∀ c ∈ cl.conns, c.net.connStat = .kClosed ∧ c.recv.reads = [] ∧ c.send.writes = []

lemma destruct_leftClosed {setting : ClientSetting} (hk : cl.Kept setting)
    (hun : ¬ cl.Referenced) : LeftClosed cl.destruct := by
  obtain ⟨-, -, hconn, hops⟩ : _ ∧ _ ∧ _ ∧ _ := by
    simpa only [RpcClientImpl.Referenced, not_or, not_exists, not_and, not_not] using hun
  refine ⟨by simp [RpcClientImpl.destruct, hconn], fun c hc => ?_, fun c hc => ?_⟩
  · obtain ⟨d, -, rfl⟩ := Option.map_eq_some_iff.mp hc
    exact NetConn.sockShutdownAndClose_connStat _
  · have hmem : c ∈ cl.droppedAsync := by
      simpa [RpcClientImpl.conns, RpcClientImpl.destruct, hconn] using hc
    obtain ⟨hr, hw⟩ := hops c hmem
    have hstands := hk.conns c (List.mem_append_left _ hmem)
    exact ⟨hstands.resolve_right fun hworks => hworks.2 hr, hr, hw⟩

structure Tidy (c : RpcClient) : Prop where
  live : ∀ cl, c.impl = .live cl → ∃ setting, cl.Kept setting
  destroyed : ∀ cl, c.impl = .destroyed cl → LeftClosed cl

lemma Tidy.of_kept {setting : ClientSetting} (hk : cl.Kept setting) (hl : c.impl = .live cl) :
    c.Tidy := by
  refine ⟨fun cl' hl' => ?_, fun cl' hl' => ?_⟩
  · obtain rfl := ImplObject.live.inj (hl.symm.trans hl')
    exact ⟨setting, hk⟩
  · exact absurd (hl.symm.trans hl') (by simp)

lemma Tidy.collect (h : c.Tidy) : c.collect.Tidy := by
  cases himpl : c.impl with
  | live cl =>
    rcases collect_live himpl with ⟨-, hun, hgone⟩ | ⟨-, hsame⟩
    · rw [hgone]
      refine ⟨fun cl' hl' => by simp at hl', fun cl' hl' => ?_⟩
      obtain ⟨setting, hk⟩ := h.live cl himpl
      exact ImplObject.destroyed.inj hl' ▸ destruct_leftClosed hk hun
    · rwa [hsame]
  | null => rwa [RpcClient.collect, himpl]
  | destroyed cl => rwa [RpcClient.collect, himpl]

lemma Tidy.step {e : Event} (h : c.Tidy) (hs : c.step e = some c') : c'.Tidy := by
  cases step_transition hs with
  | refused calls => exact ⟨h.live, h.destroyed⟩
  | call cl cl' ie calls live hcl =>
    obtain ⟨setting, hk⟩ := h.live cl live
    exact Tidy.of_kept (hk.step hcl) rfl
  | alone cl cl' ie he live hcl =>
    obtain ⟨setting, hk⟩ := h.live cl live
    exact (Tidy.of_kept (hk.step hcl) rfl).collect
  | drop keeps idle =>
    have hgone : ({ c with dropped := true } : RpcClient).Tidy := ⟨h.live, h.destroyed⟩
    exact hgone.collect

lemma Constructed.tidy (hc : Constructed c) : c.Tidy := by
  rcases hc.impl.2 with hnull | ⟨setting, hfresh⟩
  · exact ⟨fun cl hl => absurd (hnull.symm.trans hl) (by simp),
      fun cl hl => absurd (hnull.symm.trans hl) (by simp)⟩
  · exact Tidy.of_kept (RpcClientImpl.fresh_kept setting) hfresh

/-- In every state a run reaches, a client whose implementation is destroyed has left nothing
open: the asynchronous connections it had reset were closed before and have no operation
outstanding, the destructor finds none in `conn_async_`, and it closes the synchronous one. -/
theorem destroyed_closed (hc : Constructed c₀) (h : (machine c₀).Reachable c)
    (hl : c.impl = .destroyed cl) : LeftClosed cl :=
  (Machine.reachable_of_inductive (M := machine c₀) hc.tidy (fun _ _ _ hi hn => hi.step hn)
    h).destroyed cl hl

/-- The first request is over the limit of the client's own settings, so its connection is
reset; after the façade is gone the server ends the stream. -/
def oversizeRun : List Event :=
  [.callRPC false 1 1 [0] 0, .impl .connected, .drop, .impl (.droppedConn 0 (.readFail 0 .eof))]

theorem oversizeRun_closed :
    ∃ c₀ c cl, ofSetting true ⟨[], 8435, 16, 0, 7, true, false⟩ = some c₀ ∧
      (machine c₀).run oversizeRun = some c ∧ c.impl = .destroyed cl ∧
      cl.droppedAsync.length = 1 ∧ LeftClosed cl := by
  have h : (ofSetting true ⟨[], 8435, 16, 0, 7, true, false⟩).any (fun c₀ =>
      ((machine c₀).run oversizeRun).any fun c =>
        match c.impl with
        | .destroyed cl => decide (cl.droppedAsync.length = 1)
        | _ => false) := by
    decide +kernel
  obtain ⟨c₀, hc₀, h⟩ := (Option.any_eq_true _ _).mp h
  obtain ⟨c, hrun, h⟩ := (Option.any_eq_true _ _).mp h
  split at h
  swap
  · cases h
  rename_i cl hl
  have hc : Constructed c₀ := Or.inr (Or.inr (Or.inr ⟨true, _, hc₀⟩))
  exact ⟨c₀, c, cl, hc₀, hrun, hl, of_decide_eq_true h, destroyed_closed hc ⟨_, hrun⟩ hl⟩

end RpcClient

end Tzrpc.Client
