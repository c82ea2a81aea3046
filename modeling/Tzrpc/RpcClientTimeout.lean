import Tzrpc.RpcClientTimer

/-!
# Expiries of the call timer and the connections

The timer is not cancelled when a call returns, and its callback knows the kind of the call
but not the call. The conditions under which it harms no connection and finds one.
-/
namespace Tzrpc.Client.RpcClientImpl

section Callback

variable {cl cl' : RpcClientImpl} {e : Event} {w : CallWait}

lemma rpcCallTimeout_held (h : cl.Holds w.sync) :
    (cl.rpcCallTimeout w .success).nullDerefs = cl.nullDerefs := by
  unfold rpcCallTimeout
  cases hs : w.sync <;> rw [hs] at h
  · obtain ⟨c, hc⟩ := Option.isSome_iff_exists.mp h
    simp [hc]
  · obtain ⟨c, hc⟩ := Option.isSome_iff_exists.mp h
    simp [hc]

lemma rpcCallTimeout_null (h : ¬ cl.Holds w.sync) :
    (cl.rpcCallTimeout w .success).nullDerefs = cl.nullDerefs + 1 := by
  unfold rpcCallTimeout
  cases hs : w.sync <;> rw [hs] at h
  · simp [Option.not_isSome_iff_eq_none.mp h]
  · simp [Option.not_isSome_iff_eq_none.mp h]

lemma rpcCallTimeout_connSync {code : WaitCode} {d : TcpConnSync}
    (h : (cl.rpcCallTimeout w code).connSync = some d) :
    ∃ c, cl.connSync = some c ∧ (d = c ∨ d = c.shutdownAndCloseSocket) := by
  cases code with
  | aborted => exact ⟨d, h, Or.inl rfl⟩
  | success =>
    unfold rpcCallTimeout at h
    dsimp only at h
    split_ifs at h
    · split at h
      · rename_i c hc
        exact ⟨c, hc, Or.inr (Option.some.inj h).symm⟩
      · rename_i hc
        simp only at h
        rw [hc] at h
        cases h
    · split at h <;> exact ⟨d, h, Or.inl rfl⟩

lemma step_nullDerefs (h : cl.step e = some cl') :
    cl'.nullDerefs = cl.nullDerefs ∨ ∃ w, RunsTimeout cl e w ∧ ¬ cl.Holds w.sync := by
  cases step_transition h with
  | connecting => exact Or.inl rfl
  | startSync call sync begins hp =>
    obtain ⟨n, -, rfl⟩ := begins.same
    rw [hp.same.2.2.2.2]
    exact Or.inl (by simp)
  | startAsync call c sync begins conn =>
    obtain ⟨n, -, rfl⟩ := begins.same
    exact Or.inl (startAsync_same c).2.2.2.2
  | connectFailed => exact Or.inl rfl
  | wrote => exact Or.inl rfl
  | proceeds call op hc hp => exact Or.inl hp.same.2.2.2.2
  | timerExpire => exact Or.inl rfl
  | timerHandler i c u he hu =>
    obtain ⟨wait, code⟩ := c
    cases code with
    | aborted => exact Or.inl rfl
    | success =>
      by_cases hh : cl.Holds wait.sync
      · exact Or.inl (@rpcCallTimeout_held { cl with rpcCallTimer := u } wait hh)
      · obtain ⟨d, hd, hdu⟩ := Option.map_eq_some_iff.mp hu
        obtain ⟨rfl, -⟩ := Prod.mk.inj hdu
        exact Or.inr ⟨wait, ⟨i, he, hd⟩, hh⟩
  | asyncConn => exact Or.inl rfl
  | droppedConn => exact Or.inl rfl

end Callback

/-- The step drops the connection of the calls with this flag, held or just made. -/
def Resets (cl : RpcClientImpl) (e : Event) (cl' : RpcClientImpl) (sync : Bool) : Prop :=
  ¬ cl'.Holds sync ∧ (cl.Holds sync ∨
    ∃ call, e = .connected ∧ cl.calling = some (call, .connect) ∧ call.sync = sync)

def Backed (cl : RpcClientImpl) : Prop := ∀ w, cl.rpcCallTimer.Live w → cl.Holds w.sync

section Dropped

variable {setting : ClientSetting} {cl cl' : RpcClientImpl} {e : Event} {es : List Event}

lemma Backed.step (hb : Backed cl) (h : cl.step e = some cl')
    (hr : ∀ w, Resets cl e cl' w.sync → ¬ cl'.rpcCallTimer.Live w) : Backed cl' := by
  intro w hw
  by_contra hn
  refine hr w ⟨hn, ?_⟩ hw
  rcases step_live h hw with hw | ⟨call, cl₁, hbegins, rfl, -⟩
  · exact Or.inl (hb w hw)
  · cases hbegins with
    | held _ _ _ _ _ _ conn => exact Or.inl conn
    | connected call hc => exact Or.inr ⟨call, rfl, hc, rfl⟩

lemma Backed.nullDerefs (hb : Backed cl) (h : cl.step e = some cl') :
    cl'.nullDerefs = cl.nullDerefs := by
  rcases step_nullDerefs h with h | ⟨w, hw, hn⟩
  · exact h
  · exact absurd (hb w hw.live) hn

lemma backed_fresh (setting : ClientSetting) : Backed (fresh setting) := by
  intro w hw
  simp [fresh, SteadyTimer.Live, SteadyTimer.empty, SteadyTimer.pending] at hw

lemma not_resets_of_timerEvent (he : TimerEvent e) (h : cl.step e = some cl') (sync : Bool) :
    ¬ Resets cl e cl' sync := by
  rintro ⟨hn, hh⟩
  have hheld : cl.Holds sync := by
    rcases hh with hh | ⟨call, rfl, -⟩
    · exact hh
    · exact he.elim
  apply hn
  cases e with
  | timerExpire =>
    simp only [RpcClientImpl.step] at h
    split_ifs at h
    obtain rfl := Option.some.inj h
    cases sync <;> exact hheld
  | timerHandler i =>
    simp only [RpcClientImpl.step] at h
    obtain ⟨⟨⟨w, code⟩, u⟩, -, rfl⟩ := Option.map_eq_some_iff.mp h
    cases code with
    | aborted => cases sync <;> exact hheld
    | success =>
      unfold rpcCallTimeout
      dsimp only
      cases sync <;> split_ifs <;> split <;> simp_all [Holds]
  | _ => exact he.elim

/-- Runs of the timer from the states of a run never find the connection null, exactly when
no call of the run drops its connection under a live wait of its kind. -/
theorem timeoutDerefs_iff :
    (∀ cl, (machine setting).VisitsBy TimerEvent es cl → cl.nullDerefs = 0) ↔
      ∀ cl e cl', (machine setting).Takes es cl e cl' → ∀ w, Resets cl e cl' w.sync →
        ¬ cl'.rpcCallTimer.Live w := by
  constructor
  · rintro h cl e cl' ht w ⟨hn, -⟩ hw
    obtain ⟨e', t, u, hvisits, hruns, hstep⟩ := exists_runsTimeout ht.visits_next hw
    have hnull := @rpcCallTimeout_null { cl' with rpcCallTimer := u } w hn
    have hzero := h _ (hvisits.next hruns.timerEvent hstep)
    omega
  · intro hc cl hcl
    have hkeep : ∀ s e t, Backed s ∧ s.nullDerefs = 0 → s.step e = some t →
        (∀ w, Resets s e t w.sync → ¬ t.rpcCallTimer.Live w) → Backed t ∧ t.nullDerefs = 0 :=
      fun s e t hi hn hres => ⟨hi.1.step hn hres, (hi.1.nullDerefs hn).trans hi.2⟩
    refine (Machine.visitsBy_of_inductive (I := fun cl => Backed cl ∧ cl.nullDerefs = 0)
      (fun s hs => ?_) (fun s e t hi he hn => hkeep s e t hi hn fun w hr =>
        absurd hr (not_resets_of_timerEvent he hn _)) hcl).2
    refine Machine.visits_of_inductive (I := fun cl => Backed cl ∧ cl.nullDerefs = 0)
      (C := fun s e => ∀ t, s.step e = some t → ∀ w, Resets s e t w.sync →
        ¬ t.rpcCallTimer.Live w)
      ⟨backed_fresh setting, rfl⟩ (fun s e t hi hres hn => hkeep s e t hi hn (hres t hn))
      (fun s e t ht u hu => ?_) hs
    obtain ⟨-, -, -, hn⟩ := id ht
    obtain rfl := Option.some.inj (hn.symm.trans hu)
    exact hc s e t ht

end Dropped

/-- A failed call drops its connection; its timeout still fires. -/
def droppedRun : List Event :=
  [.callRPC true 1 1 [0] 1, .connected, .ioFailed .connectionReset, .timerExpire, .timerHandler 0]

theorem droppedRun_nullDerefs :
    ∃ cl, (machine ⟨0, 0⟩).Visits droppedRun cl ∧ cl.nullDerefs = 1 := by
  have h : ((machine ⟨0, 0⟩).run droppedRun).any (fun cl => decide (cl.nullDerefs = 1)) := by
    decide +kernel
  obtain ⟨cl, hcl, hd⟩ := (Option.any_eq_true _ _).mp h
  exact ⟨cl, Machine.visits_self hcl, of_decide_eq_true hd⟩

def HoldsOpen (cl : RpcClientImpl) : Prop :=
  ∃ c, cl.connSync = some c ∧ c.net.connStat ≠ .kClosed

/-- An expiry of a synchronous call's timeout shuts `conn_sync_` down after the call returned. -/
def ClosesLater (cl : RpcClientImpl) (e : Event) (cl' : RpcClientImpl) : Prop :=
  ∃ w, RunsTimeout cl e w ∧ w.sync = true ∧ cl.HasReturned w ∧ cl.HoldsOpen ∧ ¬ cl'.HoldsOpen

/-- A returned synchronous call still has a live wait, and `conn_sync_` is open. -/
def Exposed (cl : RpcClientImpl) : Prop :=
  cl.HoldsOpen ∧ ∃ w, cl.rpcCallTimer.Live w ∧ w.sync = true ∧ cl.HasReturned w

section Exposed

variable {setting : ClientSetting} {cl cl' : RpcClientImpl} {e : Event} {es : List Event}

lemma rpcCallTimeout_holdsOpen {w : CallWait} {code : WaitCode}
    (h : (cl.rpcCallTimeout w code).HoldsOpen) : cl.HoldsOpen := by
  obtain ⟨d, hd, hopen⟩ := h
  obtain ⟨c, hc, rfl | rfl⟩ := rpcCallTimeout_connSync hd
  · exact ⟨d, hc, hopen⟩
  · exact absurd (NetConn.sockShutdownAndClose_connStat c.net) hopen

lemma rpcCallTimeout_closes {w : CallWait} (hs : w.sync = true) :
    ¬ (cl.rpcCallTimeout w .success).HoldsOpen := by
  rintro ⟨d, hd, hopen⟩
  unfold rpcCallTimeout at hd
  simp only [hs, ↓reduceIte] at hd
  split at hd
  · obtain rfl := Option.some.inj hd
    exact hopen (NetConn.sockShutdownAndClose_connStat _)
  · rename_i hc
    simp only at hd
    rw [hc] at hd
    cases hd

lemma Exposed.of_timerEvent (he : TimerEvent e) (h : cl.step e = some cl') (hx : cl'.Exposed) :
    cl.Exposed := by
  obtain ⟨hopen, w, hw, hs, hr⟩ := hx
  cases e with
  | timerExpire =>
    simp only [step] at h
    split_ifs at h
    obtain rfl := Option.some.inj h
    exact ⟨hopen, w, hw.of_expire, hs, hr⟩
  | timerHandler i =>
    simp only [step] at h
    obtain ⟨⟨c, u⟩, hu, rfl⟩ := Option.map_eq_some_iff.mp h
    obtain ⟨htimer, -, -, hreturned⟩ :=
      @rpcCallTimeout_same { cl with rpcCallTimer := u } c.wait c.code
    dsimp only at hw hopen
    rw [htimer] at hw
    refine ⟨@rpcCallTimeout_holdsOpen { cl with rpcCallTimer := u } _ _ hopen, w,
      (SteadyTimer.take_spec hu).2.2 w hw, hs, ?_⟩
    unfold HasReturned at hr ⊢
    rwa [hreturned] at hr
  | _ => exact he.elim

/-- No expiry, at whatever moment of the run, closes the connection for a call that has
returned, exactly when no returned call has a live wait while the connection is open. -/
theorem timeoutHarmless_iff :
    (∀ cl e cl', (machine setting).VisitsBy TimerEvent es cl → cl.step e = some cl' →
        ¬ ClosesLater cl e cl') ↔
      ∀ cl, (machine setting).Visits es cl → ¬ cl.Exposed := by
  constructor
  · rintro h cl hv ⟨hopen, w, hw, hs, hr⟩
    obtain ⟨e, t, u, hvisits, hruns, hstep⟩ := exists_runsTimeout hv hw
    exact h _ e _ hvisits hstep ⟨w, hruns, hs, hr, hopen, rpcCallTimeout_closes hs⟩
  · rintro h cl e cl' hv hstep ⟨w, hruns, hs, hr, hopen, -⟩
    have hunexposed : ¬ cl.Exposed :=
      Machine.visitsBy_of_inductive (I := fun cl => ¬ cl.Exposed) h
        (fun s e t hn he hstep hx => hn (hx.of_timerEvent he hstep)) hv
    exact hunexposed ⟨hopen, w, hruns.live, hs, hr⟩

end Exposed

def idleRun : List Event :=
  [.callRPC true 1 1 [0] 1, .connected, .wrote 33, .writeDone,
    .readDone (Message.ofPayload (RpcResponseMessage.ofReply 1 1 [0]).netStr).netStr, .timerExpire]

theorem idleRun_closesLater :
    ∃ cl cl', (machine ⟨0, 0⟩).Takes (idleRun ++ [.timerHandler 0]) cl (.timerHandler 0) cl' ∧
      ClosesLater cl (.timerHandler 0) cl' ∧ cl.returned.map (·.status) = [.OK] := by
  have h : ((machine ⟨0, 0⟩).run idleRun).any (fun cl => decide (
      cl.rpcCallTimer.queued = [⟨⟨0, true, 1⟩, .success⟩] ∧
      cl.connSync.map (·.net.connStat) = some .kWorking ∧
      cl.returned.map (fun r => (r.call.id, r.status)) = [(0, .OK)])) := by
    decide +kernel
  obtain ⟨cl, hcl, hd⟩ := (Option.any_eq_true _ _).mp h
  obtain ⟨hq, hconn, hret⟩ := of_decide_eq_true hd
  obtain ⟨c, hc, hopen⟩ := Option.map_eq_some_iff.mp hconn
  obtain ⟨r, hr, hrs⟩ := List.map_eq_singleton_iff.mp hret
  obtain ⟨hid, hstatus⟩ := Prod.mk.inj hrs
  have hstep : cl.step (.timerHandler 0) = some ({ cl with
      rpcCallTimer := ⟨cl.rpcCallTimer.object, []⟩ }.rpcCallTimeout ⟨0, true, 1⟩ .success) := by
    simp [step, SteadyTimer.take, hq]
  refine ⟨cl, _, Machine.takes_last hcl hstep, ⟨⟨0, true, 1⟩, ⟨0, rfl, by simp [hq]⟩, rfl, ?_, ?_,
    rpcCallTimeout_closes rfl⟩, by simp [hr, hstatus]⟩
  · exact ⟨r, by simp [hr], hid⟩
  · exact ⟨c, hc, by simp [hopen]⟩

end Tzrpc.Client.RpcClientImpl
