import Tzrpc.RpcClientImpl

/-!
# The call timer and the calls

Which call a live wait belongs to. The timer outlives the call that armed it: every live
wait belongs to a call that is blocked in a socket operation or has returned.
-/
namespace Tzrpc.Client.RpcClientImpl

def waitOf (call : Call) : CallWait := ⟨call.id, call.sync, call.timeoutSec⟩

/-- `rpc_call_timeout` runs with `ec == 0` for the wait `w`. -/
def RunsTimeout (cl : RpcClientImpl) (e : Event) (w : CallWait) : Prop :=
  ∃ i, e = .timerHandler i ∧ cl.rpcCallTimer.queued[i]? = some ⟨w, .success⟩

def TimerEvent : Event → Prop
  | .timerExpire | .timerHandler _ => True
  | _ => False

lemma RunsTimeout.live {cl : RpcClientImpl} {e : Event} {w : CallWait} (h : RunsTimeout cl e w) :
    cl.rpcCallTimer.Live w := by
  obtain ⟨i, -, hi⟩ := h
  exact Or.inr (List.mem_of_getElem? hi)

lemma RunsTimeout.timerEvent {cl : RpcClientImpl} {e : Event} {w : CallWait}
    (h : RunsTimeout cl e w) : TimerEvent e := by
  obtain ⟨i, rfl, -⟩ := h
  trivial

section Timer

variable {cl cl' : RpcClientImpl} {call : Call} {w : CallWait}

@[simp] lemma setRpcCallTimeout_setting : (cl.setRpcCallTimeout call).setting = cl.setting := by
  unfold setRpcCallTimeout
  split_ifs <;> rfl

@[simp] lemma setRpcCallTimeout_connSync : (cl.setRpcCallTimeout call).connSync = cl.connSync := by
  unfold setRpcCallTimeout
  split_ifs <;> rfl

@[simp] lemma setRpcCallTimeout_connAsync :
    (cl.setRpcCallTimeout call).connAsync = cl.connAsync := by
  unfold setRpcCallTimeout
  split_ifs <;> rfl

@[simp] lemma setRpcCallTimeout_calling : (cl.setRpcCallTimeout call).calling = cl.calling := by
  unfold setRpcCallTimeout
  split_ifs <;> rfl

@[simp] lemma setRpcCallTimeout_calls : (cl.setRpcCallTimeout call).calls = cl.calls := by
  unfold setRpcCallTimeout
  split_ifs <;> rfl

@[simp] lemma setRpcCallTimeout_returned : (cl.setRpcCallTimeout call).returned = cl.returned := by
  unfold setRpcCallTimeout
  split_ifs <;> rfl

@[simp] lemma setRpcCallTimeout_nullDerefs :
    (cl.setRpcCallTimeout call).nullDerefs = cl.nullDerefs := by
  unfold setRpcCallTimeout
  split_ifs <;> rfl

lemma setRpcCallTimeout_live (h : (cl.setRpcCallTimeout call).rpcCallTimer.Live w) :
    cl.rpcCallTimer.Live w ∨ (w = waitOf call ∧ call.timeoutSec ≠ 0) := by
  unfold setRpcCallTimeout at h
  split_ifs at h with h0 ho
  · exact Or.inl h
  · rcases h.of_asyncWait with h | rfl
    · exact Or.inl h.of_cancel.of_cancel
    · exact Or.inr ⟨rfl, h0⟩
  · rcases h.of_asyncWait with h | rfl
    · exact Or.inl h.of_cancel.of_create
    · exact Or.inr ⟨rfl, h0⟩

lemma setRpcCallTimeout_queued
    (h : ⟨w, .success⟩ ∈ (cl.setRpcCallTimeout call).rpcCallTimer.queued) :
    ⟨w, .success⟩ ∈ cl.rpcCallTimer.queued := by
  unfold setRpcCallTimeout at h
  split_ifs at h
  · exact h
  · exact SteadyTimer.live_completeAll_aborted.mp (SteadyTimer.live_completeAll_aborted.mp h)
  · exact SteadyTimer.live_completeAll_aborted.mp (SteadyTimer.live_completeAll_aborted.mp h)

lemma setRpcCallTimeout_wasTimeout (h : (cl.setRpcCallTimeout call).wasTimeout = true) :
    call.timeoutSec = 0 ∧ cl.wasTimeout = true := by
  unfold setRpcCallTimeout at h
  split_ifs at h with h0
  exact ⟨h0, h⟩

lemma Proceeds.same (h : Proceeds cl call cl') :
    cl'.rpcCallTimer = cl.rpcCallTimer ∧ cl'.wasTimeout = cl.wasTimeout ∧
      cl'.connAsync = cl.connAsync ∧ cl'.calls = cl.calls ∧ cl'.nullDerefs = cl.nullDerefs := by
  cases h <;> exact ⟨rfl, rfl, rfl, rfl, rfl⟩

lemma startAsync_same (c : TcpConnAsync) :
    (cl.startAsync call c).rpcCallTimer = (cl.setRpcCallTimeout call).rpcCallTimer ∧
      (cl.startAsync call c).wasTimeout = (cl.setRpcCallTimeout call).wasTimeout ∧
      (cl.startAsync call c).connSync = cl.connSync ∧ (cl.startAsync call c).calls = cl.calls ∧
      (cl.startAsync call c).nullDerefs = cl.nullDerefs := by
  unfold startAsync
  dsimp only
  split_ifs <;> simp [finish]

@[simp] lemma startAsync_calling (c : TcpConnAsync) : (cl.startAsync call c).calling = none := by
  unfold startAsync
  dsimp only
  split_ifs <;> rfl

lemma rpcCallTimeout_same (code : WaitCode) :
    (cl.rpcCallTimeout w code).rpcCallTimer = cl.rpcCallTimer ∧
      (cl.rpcCallTimeout w code).calling = cl.calling ∧
      (cl.rpcCallTimeout w code).calls = cl.calls ∧
      (cl.rpcCallTimeout w code).returned = cl.returned := by
  cases code with
  | aborted => exact ⟨rfl, rfl, rfl, rfl⟩
  | success =>
    unfold rpcCallTimeout
    dsimp only
    split_ifs <;> split <;> exact ⟨rfl, rfl, rfl, rfl⟩

lemma Begins.same {e : Event} {cl₁ : RpcClientImpl} (h : Begins cl e call cl₁) :
    ∃ n, cl.calls ≤ n ∧ cl₁ = { cl with calls := n } := by
  cases h with
  | held => exact ⟨cl.calls + 1, Nat.le_succ _, rfl⟩
  | connected => exact ⟨cl.calls, le_rfl, rfl⟩

lemma step_live {e : Event} (h : cl.step e = some cl') (hw : cl'.rpcCallTimer.Live w) :
    cl.rpcCallTimer.Live w ∨
      ∃ call cl₁, Begins cl e call cl₁ ∧ w = waitOf call ∧ call.timeoutSec ≠ 0 := by
  cases step_transition h with
  | connecting => exact Or.inl hw
  | startSync call sync begins hp =>
    obtain ⟨n, -, rfl⟩ := begins.same
    rw [hp.same.1] at hw
    rcases setRpcCallTimeout_live hw with hw | hw
    · exact Or.inl hw
    · exact Or.inr ⟨call, _, begins, hw⟩
  | startAsync call c sync begins conn =>
    obtain ⟨n, -, rfl⟩ := begins.same
    rw [(startAsync_same c).1] at hw
    rcases setRpcCallTimeout_live hw with hw | hw
    · exact Or.inl hw
    · exact Or.inr ⟨call, _, begins, hw⟩
  | connectFailed => exact Or.inl hw
  | wrote => exact Or.inl hw
  | proceeds call op hc hp =>
    rw [hp.same.1] at hw
    exact Or.inl hw
  | timerExpire => exact Or.inl hw.of_expire
  | timerHandler i c u he hu =>
    rw [(rpcCallTimeout_same _).1] at hw
    exact Or.inl ((SteadyTimer.take_spec hu).2.2 w hw)
  | asyncConn => exact Or.inl hw
  | droppedConn => exact Or.inl hw

lemma step_queued {e : Event} (h : cl.step e = some cl')
    (hw : ⟨w, .success⟩ ∈ cl'.rpcCallTimer.queued) :
    ⟨w, .success⟩ ∈ cl.rpcCallTimer.queued ∨
      (e = .timerExpire ∧ w ∈ cl.rpcCallTimer.pending) := by
  cases step_transition h with
  | connecting => exact Or.inl hw
  | startSync call sync begins hp =>
    obtain ⟨n, -, rfl⟩ := begins.same
    rw [hp.same.1] at hw
    exact Or.inl (@setRpcCallTimeout_queued { cl with calls := n } call w hw)
  | startAsync call c sync begins conn =>
    obtain ⟨n, -, rfl⟩ := begins.same
    rw [(startAsync_same c).1] at hw
    exact Or.inl (@setRpcCallTimeout_queued { cl with calls := n } call w hw)
  | connectFailed => exact Or.inl hw
  | wrote => exact Or.inl hw
  | proceeds call op hc hp =>
    rw [hp.same.1] at hw
    exact Or.inl hw
  | timerExpire he => exact (SteadyTimer.mem_completeAll.mp hw).imp_right fun h => ⟨he, h.1⟩
  | timerHandler i c u he hu =>
    obtain ⟨d, -, hdu⟩ := Option.map_eq_some_iff.mp hu
    obtain ⟨rfl, rfl⟩ := Prod.mk.inj hdu
    rw [(rpcCallTimeout_same _).1] at hw
    exact Or.inl (List.mem_of_mem_eraseIdx hw)
  | asyncConn => exact Or.inl hw
  | droppedConn => exact Or.inl hw

lemma exists_runsTimeout {setting : ClientSetting} {es : List Event}
    (hv : (machine setting).Visits es cl) (hw : cl.rpcCallTimer.Live w) :
    ∃ e t u, (machine setting).VisitsBy TimerEvent es { cl with rpcCallTimer := t } ∧
      { cl with rpcCallTimer := t }.RunsTimeout e w ∧
      { cl with rpcCallTimer := t }.step e =
        some ({ cl with rpcCallTimer := u }.rpcCallTimeout w .success) := by
  have hrun : ∀ (t : SteadyTimer CallWait) (i : ℕ), t.queued[i]? = some ⟨w, .success⟩ →
      { cl with rpcCallTimer := t }.step (.timerHandler i) = some ({ cl with
        rpcCallTimer := ⟨t.object, t.queued.eraseIdx i⟩ }.rpcCallTimeout w .success) := by
    intro t i hi
    simp [step, SteadyTimer.take, hi]
  rcases hw with hw | hw
  · have hne : cl.rpcCallTimer.pending ≠ [] := List.ne_nil_of_mem hw
    have hq : (⟨w, .success⟩ : Completion CallWait) ∈ cl.rpcCallTimer.expire.queued :=
      SteadyTimer.mem_completeAll.mpr (Or.inr ⟨hw, rfl⟩)
    obtain ⟨i, hi⟩ := List.getElem?_of_mem hq
    exact ⟨.timerHandler i, cl.rpcCallTimer.expire, _, hv.visitsBy.next (e := .timerExpire) trivial
      (by simp [machine, step, hne]), ⟨i, rfl, hi⟩, hrun _ i hi⟩
  · obtain ⟨i, hi⟩ := List.getElem?_of_mem hw
    exact ⟨.timerHandler i, cl.rpcCallTimer, _, hv.visitsBy, ⟨i, rfl, hi⟩, hrun _ i hi⟩

end Timer

def InProgress (cl : RpcClientImpl) (w : CallWait) : Prop :=
  ∃ call op, cl.calling = some (call, .io op) ∧ call.id = w.call

def HasReturned (cl : RpcClientImpl) (w : CallWait) : Prop := ∃ r ∈ cl.returned, r.call.id = w.call

/-- Calls have different numbers, only synchronous ones block, and every live wait was armed
by a call with a timeout that is blocked or has returned. -/
structure Owners (cl : RpcClientImpl) : Prop where
  distinct : (cl.returned.map fun r => r.call.id).Nodup
  returned_lt : ∀ r ∈ cl.returned, r.call.id < cl.calls
  calling_lt : ∀ call b, cl.calling = some (call, b) → call.id < cl.calls
  calling_new : ∀ call b, cl.calling = some (call, b) → ∀ r ∈ cl.returned, r.call.id ≠ call.id
  live : ∀ w, cl.rpcCallTimer.Live w → cl.InProgress w ∨ cl.HasReturned w
  own : ∀ w, cl.rpcCallTimer.Live w → ∀ call op, cl.calling = some (call, .io op) →
    call.id = w.call → call.timeoutSec ≠ 0

def Handles (cl : RpcClientImpl) (call : Call) (cl' : RpcClientImpl) : Prop :=
  (∃ op, cl'.calling = some (call, .io op) ∧ cl'.returned = cl.returned) ∨
    (cl'.calling = none ∧ ∃ r : Returned, r.call = call ∧ cl'.returned = cl.returned ++ [r])

section Owners

variable {cl cl' : RpcClientImpl} {call : Call}

lemma Proceeds.handles (h : Proceeds cl call cl') : Handles cl call cl' := by
  cases h with
  | blocked op c => exact Or.inl ⟨op, rfl, rfl⟩
  | responded msg c => exact Or.inr ⟨rfl, _, checkResponse_call call msg, rfl⟩
  | failed status h => exact Or.inr ⟨rfl, cl.failure call status, rfl, rfl⟩

lemma startAsync_handles (c : TcpConnAsync) : Handles cl call (cl.startAsync call c) := by
  unfold startAsync
  dsimp only
  split_ifs
  · exact Or.inr ⟨rfl, ⟨call, .OK, none, none⟩, rfl, by simp [finish]⟩
  · exact Or.inr ⟨rfl, (cl.setRpcCallTimeout call).failure call .NETWORK_SEND_ERROR, rfl,
      by simp [finish]⟩

lemma Handles.of_eq {cl₁ : RpcClientImpl} (hr : cl₁.returned = cl.returned)
    (h : Handles cl₁ call cl') : Handles cl call cl' := by
  unfold Handles at *
  rwa [hr] at h

lemma Handles.returned (h : Handles cl call cl') {r : Returned} (hr : r ∈ cl'.returned) :
    r ∈ cl.returned ∨ r.call = call := by
  rcases h with ⟨op, -, he⟩ | ⟨-, r', hr', he⟩
  · exact Or.inl (he ▸ hr)
  · rw [he, List.mem_append, List.mem_singleton] at hr
    rcases hr with hr | rfl
    · exact Or.inl hr
    · exact Or.inr hr'

lemma Handles.mono (h : Handles cl call cl') {r : Returned} (hr : r ∈ cl.returned) :
    r ∈ cl'.returned := by
  rcases h with ⟨op, -, he⟩ | ⟨-, r', -, he⟩
  · exact he ▸ hr
  · exact he ▸ List.mem_append_left _ hr

lemma Handles.owner (h : Handles cl call cl') {w : CallWait} (hw : w.call = call.id) :
    cl'.InProgress w ∨ cl'.HasReturned w := by
  rcases h with ⟨op, hc, -⟩ | ⟨-, r, hr, he⟩
  · exact Or.inl ⟨call, op, hc, hw.symm⟩
  · exact Or.inr ⟨r, he ▸ List.mem_append_right _ List.mem_cons_self, by rw [hr, hw]⟩

lemma Owners.handles (ho : Owners cl) (h : Handles cl call cl') (hle : cl.calls ≤ cl'.calls)
    (hlt : call.id < cl'.calls) (hnew : ∀ r ∈ cl.returned, r.call.id ≠ call.id)
    (honly : ∀ c op, cl.calling = some (c, .io op) → c = call)
    (hlive : ∀ w, cl'.rpcCallTimer.Live w →
      cl.rpcCallTimer.Live w ∨ (w = waitOf call ∧ call.timeoutSec ≠ 0))
    (hown : ∀ w, cl.rpcCallTimer.Live w → call.id = w.call → call.timeoutSec ≠ 0) :
    Owners cl' := by
  have hcalling : ∀ c b, cl'.calling = some (c, b) → c = call := by
    intro c b hc
    rcases h with ⟨op, hc', -⟩ | ⟨hc', -⟩ <;> rw [hc'] at hc <;> simp_all
  refine ⟨?_, ?_, ?_, ?_, ?_, ?_⟩
  · rcases h with ⟨op, -, he⟩ | ⟨-, r, rfl, he⟩
    · exact he ▸ ho.distinct
    · rw [he, List.map_append, List.nodup_append]
      refine ⟨ho.distinct, by simp, ?_⟩
      simpa [List.forall_mem_map] using hnew
  · intro r hr
    rcases h.returned hr with hr | rfl
    · exact (ho.returned_lt r hr).trans_le hle
    · exact hlt
  · intro c b hc
    rw [hcalling c b hc]
    exact hlt
  · intro c b hc r hr
    obtain rfl := hcalling c b hc
    rcases h with ⟨op, -, he⟩ | ⟨hc', -⟩
    · exact hnew r (he ▸ hr)
    · rw [hc'] at hc
      cases hc
  · intro w hw
    rcases hlive w hw with hw | ⟨rfl, -⟩
    · rcases ho.live w hw with ⟨c, op, hc, hid⟩ | ⟨r, hr, hid⟩
      · obtain rfl := honly c op hc
        exact h.owner hid.symm
      · exact Or.inr ⟨r, h.mono hr, hid⟩
    · exact h.owner rfl
  · intro w hw c op hc hid
    obtain rfl := hcalling c _ hc
    rcases hlive w hw with hw | ⟨-, h0⟩
    · exact hown w hw hid
    · exact h0

lemma Begins.new (ho : Owners cl) {e : Event} {cl₁ : RpcClientImpl} (h : Begins cl e call cl₁) :
    call.id < cl₁.calls ∧ (∀ r ∈ cl.returned, r.call.id ≠ call.id) ∧
      ∀ c op, cl.calling ≠ some (c, .io op) := by
  cases h with
  | held _ _ _ _ _ idle =>
    exact ⟨Nat.lt_succ_self _, fun r hr => (ho.returned_lt r hr).ne, by simp [idle]⟩
  | connected call hc =>
    exact ⟨ho.calling_lt call _ hc, ho.calling_new call _ hc, by simp [hc]⟩

lemma Begins.no_live (ho : Owners cl) {e : Event} {cl₁ : RpcClientImpl}
    (h : Begins cl e call cl₁) {w : CallWait} (hw : cl.rpcCallTimer.Live w) :
    call.id ≠ w.call := by
  obtain ⟨-, hnew, hidle⟩ := h.new ho
  rcases ho.live w hw with ⟨c, op, hc, -⟩ | ⟨r, hr, hid⟩
  · exact absurd hc (hidle c op)
  · exact fun h => hnew r hr (hid.trans h.symm)

lemma owners_fresh (setting : ClientSetting) : Owners (fresh setting) := by
  refine ⟨?_, ?_, ?_, ?_, ?_, ?_⟩ <;> simp [fresh, SteadyTimer.Live, SteadyTimer.empty,
    SteadyTimer.pending]

lemma Owners.of_eq (ho : Owners cl) (hcalling : cl'.calling = cl.calling)
    (hcalls : cl'.calls = cl.calls) (hreturned : cl'.returned = cl.returned)
    (hlive : ∀ w, cl'.rpcCallTimer.Live w → cl.rpcCallTimer.Live w) : Owners cl' := by
  refine ⟨hreturned ▸ ho.distinct, ?_, ?_, ?_, ?_, ?_⟩
  · rw [hreturned, hcalls]
    exact ho.returned_lt
  · rw [hcalling, hcalls]
    exact ho.calling_lt
  · rw [hcalling, hreturned]
    exact ho.calling_new
  · intro w hw
    unfold InProgress HasReturned
    rw [hcalling, hreturned]
    exact ho.live w (hlive w hw)
  · rw [hcalling]
    exact fun w hw => ho.own w (hlive w hw)

theorem Owners.step (ho : Owners cl) {e : Event} (h : cl.step e = some cl') : Owners cl' := by
  have hlive := fun w (hw : cl'.rpcCallTimer.Live w) => step_live h hw
  cases step_transition h with
  | connecting call idle id =>
    refine ⟨ho.distinct, ?_, ?_, ?_, ?_, ?_⟩
    · exact fun r hr => (ho.returned_lt r hr).trans (Nat.lt_succ_self _)
    · rintro c b hc
      obtain ⟨rfl, -⟩ := Prod.mk.inj (Option.some.inj hc)
      simp only
      omega
    · rintro c b hc r hr
      obtain ⟨rfl, -⟩ := Prod.mk.inj (Option.some.inj hc)
      rw [id]
      exact (ho.returned_lt r hr).ne
    · intro w hw
      rcases ho.live w hw with ⟨c, op, hc, -⟩ | hr
      · rw [idle] at hc
        cases hc
      · exact Or.inr hr
    · rintro w - c op hc
      simp at hc
  | @startSync cl₁ _ call sync begins hp =>
    obtain ⟨hlt, hnew, hidle⟩ := begins.new ho
    obtain ⟨n, hn, rfl⟩ := begins.same
    have hcalls := hp.same.2.2.2.1
    rw [setRpcCallTimeout_calls] at hcalls
    refine ho.handles (hp.handles.of_eq (by simp)) (by rw [hcalls]; exact hn)
      (by rw [hcalls]; exact hlt) hnew (fun c op hc => absurd hc (hidle c op)) ?_
      (fun w hw hid => absurd hid (begins.no_live ho hw))
    intro w hw
    rw [hp.same.1] at hw
    exact @setRpcCallTimeout_live { cl with calls := n } call w hw
  | @startAsync cl₁ call c sync begins conn =>
    obtain ⟨hlt, hnew, hidle⟩ := begins.new ho
    obtain ⟨n, hn, rfl⟩ := begins.same
    obtain ⟨htimer, -, -, hcalls, -⟩ :=
      @startAsync_same { cl with calls := n } call c
    have hhandles := @startAsync_handles { cl with calls := n } call c
    refine ho.handles (hhandles.of_eq rfl) (by rw [hcalls]; exact hn)
      (by rw [hcalls]; exact hlt) hnew (fun c op hc => absurd hc (hidle c op)) ?_
      (fun w hw hid => absurd hid (begins.no_live ho hw))
    intro w hw
    rw [htimer] at hw
    exact @setRpcCallTimeout_live { cl with calls := n } call w hw
  | connectFailed call hc =>
    refine ho.handles (Or.inr ⟨rfl, _, rfl, rfl⟩) le_rfl (ho.calling_lt call _ hc)
      (ho.calling_new call _ hc) (by simp [hc]) (fun w hw => Or.inl hw) ?_
    exact fun w hw hid => absurd hid ((Begins.connected call hc).no_live ho hw)
  | wrote call op op' hc =>
    refine ho.handles (Or.inl ⟨op', rfl, rfl⟩) le_rfl (ho.calling_lt call _ hc)
      (ho.calling_new call _ hc) ?_ (fun w hw => Or.inl hw)
      (fun w hw => ho.own w hw call op hc)
    intro c op₁ hc₁
    rw [hc] at hc₁
    exact (Prod.mk.inj (Option.some.inj hc₁)).1.symm
  | proceeds call op hc hp =>
    obtain ⟨htimer, -, -, hcalls, -⟩ := hp.same
    refine ho.handles hp.handles hcalls.ge (hcalls ▸ ho.calling_lt call _ hc)
      (ho.calling_new call _ hc) ?_ (fun w hw => Or.inl (htimer ▸ hw))
      (fun w hw => ho.own w hw call op hc)
    intro c op₁ hc₁
    rw [hc] at hc₁
    exact (Prod.mk.inj (Option.some.inj hc₁)).1.symm
  | timerExpire => exact ho.of_eq rfl rfl rfl fun w hw => hw.of_expire
  | timerHandler i c u he hu =>
    obtain ⟨htimer, hcalling, hcalls, hreturned⟩ :=
      @rpcCallTimeout_same { cl with rpcCallTimer := u } c.wait c.code
    refine ho.of_eq hcalling hcalls hreturned fun w hw => ?_
    rw [htimer] at hw
    exact (SteadyTimer.take_spec hu).2.2 w hw
  | asyncConn => exact ho.of_eq rfl rfl rfl fun w hw => hw
  | droppedConn => exact ho.of_eq rfl rfl rfl fun w hw => hw

/-- In every reachable state a live wait belongs to a blocked or a returned call. -/
theorem owners_reachable {setting : ClientSetting} (h : (machine setting).Reachable cl) :
    Owners cl :=
  Machine.reachable_of_inductive (I := Owners) (owners_fresh setting)
    (fun _ _ _ ho hn => ho.step hn) h

end Owners

end Tzrpc.Client.RpcClientImpl
