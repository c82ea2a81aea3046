import Tzrpc.RpcClientTimer
import Tzrpc.RpcInstance

/-!
# Calls reported as timed out

The flag the timer's callback sets is only cleared by the next call with a timeout, and read
by every call that fails.
-/
namespace Tzrpc.Client.RpcClientImpl

def FromServer (msg : Message) : Prop :=
  ∃ pb services inst a, a ∈ Dispatcher.answers pb services inst ∧
    msg.payload = ((Dispatcher.handleRPC services inst).2.answerMessage a).payload

/-- Every response received so far was this server's. -/
def Served (cl : RpcClientImpl) : Prop :=
  ∀ r ∈ cl.returned, ∀ msg, r.response = some msg → FromServer msg

def Expired (setting : ClientSetting) (es : List Event) (id : ℕ) : Prop :=
  ∃ cl cl' w, (machine setting).Takes es cl .timerExpire cl' ∧ w ∈ cl.rpcCallTimer.pending ∧
    w.call = id

/-- A timeout of its own: the call asked for one, and it expired. -/
def OwnTimeout (setting : ClientSetting) (es : List Event) (call : Call) : Prop :=
  call.timeoutSec ≠ 0 ∧ Expired setting es call.id

/-- A synchronous call without a timeout starts only when the flag is clear. -/
def StartsClear (cl : RpcClientImpl) (e : Event) : Prop :=
  ∀ call cl₁, Begins cl e call cl₁ → call.sync = true → call.timeoutSec = 0 →
    cl.wasTimeout = false

/-- While a call is blocked in a socket operation, only its own timeout runs. -/
def RunsOwn (cl : RpcClientImpl) (e : Event) : Prop :=
  ∀ w, RunsTimeout cl e w → ∀ call op, cl.calling = some (call, .io op) → w.call = call.id

section Reports

variable {setting : ClientSetting} {cl cl' : RpcClientImpl} {e : Event} {es : List Event}

lemma checkResponse_fromServer {call : Call} {msg : Message} (h : FromServer msg) :
    (checkResponse call msg).status ≠ .RPC_CALL_TIMEOUT := by
  obtain ⟨pb, services, inst, a, ha, hp⟩ := h
  have hparse : ∃ m : RpcResponseMessage, msg.payload = m.netStr ∧
      (m.header.status = .OK ∨ m.header.status = .INVALID_REQUEST ∨
        m.header.status = .INVALID_SERVICE) := by
    cases a with
    | reply data => exact ⟨_, hp, Or.inl rfl⟩
    | reject status => exact ⟨_, hp, Or.inr (Dispatcher.mem_answers_reject ha)⟩
  obtain ⟨m, hm, hstatus⟩ := hparse
  unfold checkResponse
  rw [hm, RpcResponseMessage.parse_netStr]
  simp only
  split_ifs
  · change RpcClientStatus.RECV_FORMAT_ERROR ≠ _
    decide
  · rcases hstatus with h | h | h <;> rw [h] <;> dsimp only <;> decide
  · change RpcClientStatus.OK ≠ _
    decide

lemma Expired.mono {fs : List Event} {id : ℕ} (h : Expired setting es id) (hp : es <+: fs) :
    Expired setting fs id := by
  obtain ⟨s, t, w, ht, hw⟩ := h
  exact ⟨s, t, w, ht.mono hp, hw⟩

lemma OwnTimeout.mono {fs : List Event} {call : Call} (h : OwnTimeout setting es call)
    (hp : es <+: fs) : OwnTimeout setting fs call := ⟨h.1, h.2.mono hp⟩

/-- The history of the run up to `cl`: queued successes are expiries, a flag met by a blocked
call is its own, and so is every timeout reported. -/
structure Attributed (setting : ClientSetting) (es : List Event) (cl : RpcClientImpl) : Prop where
  owners : Owners cl
  queued : ∀ w, ⟨w, .success⟩ ∈ cl.rpcCallTimer.queued → Expired setting es w.call
  blocked : ∀ call op, cl.calling = some (call, .io op) → cl.wasTimeout = true →
    OwnTimeout setting es call
  returned : ∀ r ∈ cl.returned, r.call.sync = true → r.status = .RPC_CALL_TIMEOUT →
    OwnTimeout setting es r.call

lemma Proceeds.returned {call : Call} (h : Proceeds cl call cl') (hserved : Served cl')
    {r : Returned} (hr : r ∈ cl'.returned) (hstatus : r.status = .RPC_CALL_TIMEOUT) :
    r ∈ cl.returned ∨ (r.call = call ∧ cl.wasTimeout = true) := by
  cases h with
  | blocked op c => exact Or.inl hr
  | responded msg c =>
    rcases List.mem_append.mp hr with hr' | hr'
    · exact Or.inl hr'
    · obtain rfl := List.mem_singleton.mp hr'
      refine absurd hstatus (checkResponse_fromServer (hserved _ hr msg ?_))
      unfold checkResponse
      split
      · rfl
      · split_ifs <;> rfl
  | failed status hs =>
    rcases List.mem_append.mp hr with hr' | hr'
    · exact Or.inl hr'
    · obtain rfl := List.mem_singleton.mp hr'
      refine Or.inr ⟨rfl, ?_⟩
      by_contra hw
      simp only [failure, failedStatus, hw, ↓reduceIte] at hstatus
      rcases hs with rfl | rfl <;> simp [RpcClientStatus.NETWORK_SEND_ERROR,
        RpcClientStatus.NETWORK_RECV_ERROR, RpcClientStatus.RPC_CALL_TIMEOUT] at hstatus

lemma Attributed.queued_step (ha : Attributed setting es cl)
    (hrun : (machine setting).run es = some cl) (h : cl.step e = some cl') (w : CallWait)
    (hw : ⟨w, .success⟩ ∈ cl'.rpcCallTimer.queued) : Expired setting (es ++ [e]) w.call := by
  rcases step_queued h hw with hw | ⟨rfl, hw⟩
  · exact (ha.queued w hw).mono (List.prefix_append es [e])
  · exact ⟨cl, cl', w, Machine.takes_last hrun h, hw, rfl⟩

lemma setRpcCallTimeout_clear {call : Call} (h : call.timeoutSec = 0 → cl.wasTimeout = false) :
    (cl.setRpcCallTimeout call).wasTimeout ≠ true := by
  intro hw
  obtain ⟨h0, hw⟩ := setRpcCallTimeout_wasTimeout hw
  rw [h h0] at hw
  cases hw

lemma Attributed.runs (ha : Attributed setting es cl) (hruns : RunsOwn cl e) {i : ℕ} {w : CallWait}
    {u : SteadyTimer CallWait} (he : e = .timerHandler i)
    (hu : cl.rpcCallTimer.take i = some (⟨w, .success⟩, u)) {call : Call} {op : SyncOp}
    (hc : cl.calling = some (call, .io op)) : OwnTimeout setting es call := by
  have hmem := (SteadyTimer.take_spec hu).1
  obtain ⟨d, hd, hdu⟩ := Option.map_eq_some_iff.mp hu
  obtain ⟨rfl, -⟩ := Prod.mk.inj hdu
  have hid : w.call = call.id := hruns w ⟨i, he, hd⟩ call op hc
  exact ⟨ha.owners.own w (Or.inr hmem) call op hc hid.symm, hid ▸ ha.queued w hmem⟩

theorem Attributed.step (ha : Attributed setting es cl) (hrun : (machine setting).run es = some cl)
    (hstarts : StartsClear cl e) (hruns : RunsOwn cl e) (h : cl.step e = some cl')
    (hserved : Served cl') : Attributed setting (es ++ [e]) cl' := by
  have hpre := List.prefix_append es [e]
  have hqueued := ha.queued_step hrun h
  have hreturned : ∀ r ∈ cl.returned, r.call.sync = true → r.status = .RPC_CALL_TIMEOUT →
      OwnTimeout setting (es ++ [e]) r.call :=
    fun r hr hs ht => (ha.returned r hr hs ht).mono hpre
  have hblocked : ∀ call op, cl.calling = some (call, .io op) → cl.wasTimeout = true →
      OwnTimeout setting (es ++ [e]) call := fun call op hc hw => (ha.blocked call op hc hw).mono hpre
  have howners := ha.owners.step h
  cases step_transition h with
  | connecting => exact ⟨howners, hqueued, by simp, hreturned⟩
  | startSync call sync begins hp =>
    have hclear := fun h0 => hstarts call _ begins sync h0
    obtain ⟨n, -, rfl⟩ := begins.same
    have harmed := @setRpcCallTimeout_clear { cl with calls := n } call hclear
    refine ⟨howners, hqueued, ?_, ?_⟩
    · intro c op hc hw
      rw [hp.same.2.1] at hw
      exact absurd hw harmed
    · intro r hr hs ht
      rcases hp.returned hserved hr ht with hr | ⟨-, hw⟩
      · rw [setRpcCallTimeout_returned] at hr
        exact hreturned r hr hs ht
      · exact absurd hw harmed
  | startAsync call c sync begins conn =>
    obtain ⟨n, -, rfl⟩ := begins.same
    refine ⟨howners, hqueued, by simp, ?_⟩
    intro r hr hs ht
    rcases (startAsync_handles c).returned hr with hr | rfl
    · exact hreturned r hr hs ht
    · rw [sync] at hs
      cases hs
  | connectFailed call hc =>
    refine ⟨howners, hqueued, by simp [finish], ?_⟩
    intro r hr hs ht
    rcases List.mem_append.mp hr with hr | hr
    · exact hreturned r hr hs ht
    · obtain rfl := List.mem_singleton.mp hr
      simp [RpcClientStatus.NETWORK_CONNECT_ERROR, RpcClientStatus.RPC_CALL_TIMEOUT] at ht
  | wrote call op op' hc =>
    refine ⟨howners, hqueued, ?_, hreturned⟩
    intro c op₁ hc₁ hw
    obtain ⟨rfl, -⟩ := Prod.mk.inj (Option.some.inj hc₁)
    exact hblocked call op hc hw
  | proceeds call op hc hp =>
    refine ⟨howners, hqueued, ?_, ?_⟩
    · intro c op₁ hc₁ hw
      rw [hp.same.2.1] at hw
      rcases hp.handles with ⟨op₂, hc₂, -⟩ | ⟨hc₂, -⟩ <;> rw [hc₂] at hc₁
      · obtain ⟨rfl, -⟩ := Prod.mk.inj (Option.some.inj hc₁)
        exact hblocked call op hc hw
      · cases hc₁
    · intro r hr hs ht
      rcases hp.returned hserved hr ht with hr | ⟨rfl, hw⟩
      · exact hreturned r hr hs ht
      · exact hblocked r.call op hc hw
  | timerExpire => exact ⟨howners, hqueued, hblocked, hreturned⟩
  | timerHandler i c u he hu =>
    obtain ⟨wait, code⟩ := c
    obtain ⟨-, hcalling, -, hret⟩ :=
      @rpcCallTimeout_same { cl with rpcCallTimer := u } wait code
    refine ⟨howners, hqueued, ?_, fun r hr => hreturned r (hret ▸ hr)⟩
    intro call op hc hw
    rw [hcalling] at hc
    cases code with
    | aborted => exact hblocked call op hc hw
    | success => exact (ha.runs hruns he hu hc).mono hpre
  | asyncConn => exact ⟨howners, hqueued, hblocked, hreturned⟩
  | droppedConn => exact ⟨howners, hqueued, hblocked, hreturned⟩

/-- When calls without a timeout start with a clear flag and no earlier call's timeout runs
while a call is blocked, `RPC_CALL_TIMEOUT` is reported only for a timeout of the call's own. -/
theorem timeout_reported_own
    (hserved : ∀ cl, (machine setting).Visits es cl → Served cl)
    (hstarts : ∀ cl e cl', (machine setting).Takes es cl e cl' → StartsClear cl e)
    (hruns : ∀ cl e cl', (machine setting).Takes es cl e cl' → RunsOwn cl e)
    {pre : List Event} (hpre : pre <+: es) (hrun : (machine setting).run pre = some cl)
    {r : Returned} (hr : r ∈ cl.returned) (hs : r.call.sync = true)
    (ht : r.status = .RPC_CALL_TIMEOUT) : OwnTimeout setting pre r.call := by
  have ha : Attributed setting pre cl := by
    refine Machine.run_induction (M := machine setting) (C := fun s e => StartsClear s e ∧
      RunsOwn s e ∧ ∀ t, s.step e = some t → Served t)
      (P := fun es cl => Attributed setting es cl) ?_ ?_ hrun ?_
    · exact ⟨owners_fresh setting, by simp [machine, fresh, SteadyTimer.empty],
        by simp [machine, fresh], by simp [machine, fresh]⟩
    · rintro es s e t hrun ha ⟨hstarts, hruns, hserved⟩ hn
      exact ha.step hrun hstarts hruns hn (hserved t hn)
    · intro s e t ht
      have ht := ht.mono hpre
      refine ⟨hstarts s e t ht, hruns s e t ht, fun u hu => ?_⟩
      obtain ⟨-, -, -, hn⟩ := id ht
      obtain rfl := Option.some.inj (hn.symm.trans hu)
      exact hserved t ht.visits_next
  exact ha.returned r hr hs ht

def timedOutRun : List Event :=
  [.callRPC true 7 1 [0] 0, .connected, .wrote 33, .writeDone,
    .readDone (Message.ofPayload (RpcResponseMessage.ofStatus .INVALID_SERVICE).netStr).netStr,
    .callRPC true 7 1 [0] 1, .timerExpire, .timerHandler 0, .ioFailed .operationAborted]

theorem timedOutRun_own :
    ∃ cl r, (machine ⟨0, 0⟩).run timedOutRun = some cl ∧ r ∈ cl.returned ∧
      r.status = .RPC_CALL_TIMEOUT ∧ OwnTimeout ⟨0, 0⟩ timedOutRun r.call := by
  have hrun : ((machine ⟨0, 0⟩).run timedOutRun).any (fun cl => cl.returned.any fun r =>
      decide (r.call.sync = true ∧ r.status = .RPC_CALL_TIMEOUT)) := by
    decide +kernel
  have htrace : ∀ p ∈ (machine ⟨0, 0⟩).trace (machine ⟨0, 0⟩).start timedOutRun,
      (p.1.wasTimeout = false ∨ p.2.1 = .ioFailed .operationAborted) ∧
        (∀ c ∈ p.1.rpcCallTimer.queued, p.1.calling.all fun b => b.1.id = c.wait.call) ∧
        ∀ r ∈ p.2.2.returned, ∀ msg ∈ r.response,
          msg.payload = (RpcInstance.rejectMessage .INVALID_SERVICE).payload := by
    decide +kernel
  obtain ⟨cl, hcl, hd⟩ := (Option.any_eq_true _ _).mp hrun
  obtain ⟨r, hr, hd⟩ := List.any_eq_true.mp hd
  obtain ⟨hs, ht⟩ := of_decide_eq_true hd
  refine ⟨cl, r, hcl, hr, ht, timeout_reported_own ?_ ?_ ?_ (List.prefix_refl _) hcl hr hs ht⟩
  · intro s hv r hr msg hm
    rcases hv.eq_start_or_takes with rfl | ⟨u, e, hu⟩
    · simp [machine, fresh] at hr
    · refine ⟨⟨fun _ => none, fun _ => []⟩, fun _ => false,
        .ofPayload 0 0 (RpcRequestMessage.ofRequest 7 1 [0]).netStr, .reject .INVALID_SERVICE, ?_,
        (htrace _ hu.mem_trace).2.2 r hr msg hm⟩
      decide +kernel
  · rintro s e t htakes call cl₁ hbegins - -
    rcases (htrace _ htakes.mem_trace).1 with h | rfl
    · exact h
    · cases hbegins
  · rintro s e t htakes w ⟨i, -, hi⟩ call op hc
    have h := (htrace _ htakes.mem_trace).2.1 _ (List.mem_of_getElem? hi)
    simp only [hc, Option.all_some, decide_eq_true_eq] at h
    exact h.symm

/-- A call times out; the next one has no timeout, and its connection is reset. -/
def staleFlagRun : List Event :=
  [.callRPC true 1 1 [0] 1, .connected, .timerExpire, .timerHandler 0, .ioFailed .operationAborted,
    .callRPC true 1 1 [0] 0, .connected, .ioFailed .connectionReset]

theorem staleFlagRun_reported :
    ∃ cl, (machine ⟨0, 0⟩).run staleFlagRun = some cl ∧ (∀ r ∈ cl.returned, r.response = none) ∧
      ∃ r ∈ cl.returned, r.call.sync = true ∧ r.call.timeoutSec = 0 ∧
        r.status = .RPC_CALL_TIMEOUT := by
  have h : ((machine ⟨0, 0⟩).run staleFlagRun).any (fun cl => decide (
      (∀ r ∈ cl.returned, r.response = none) ∧ ∃ r ∈ cl.returned, r.call.sync = true ∧
        r.call.timeoutSec = 0 ∧ r.status = .RPC_CALL_TIMEOUT)) := by
    decide +kernel
  obtain ⟨cl, hcl, hd⟩ := (Option.any_eq_true _ _).mp h
  exact ⟨cl, hcl, of_decide_eq_true hd⟩

end Reports

end Tzrpc.Client.RpcClientImpl
