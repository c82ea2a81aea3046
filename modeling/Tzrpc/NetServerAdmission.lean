import Tzrpc.NetServer

/-!
# The concurrency limit

`accept_handler` compares the limit with the count before the new connection is in it, so
an accept at the limit itself is let through.
-/
namespace Tzrpc.NetServer

/-- The accept passes the white list and the token bucket. -/
def Admits (s : NetServer) (e : Event) : Prop :=
  ∃ remoteIp, e = .accept (some remoteIp) ∧ s.conf.checkSafeIp remoteIp = true ∧
    s.conf.getServiceToken.1 = true

section Step

variable {s t : NetServer}

lemma moduleRuntime_concurrency (s : NetServer) (doc : NetworkDoc) :
    (s.moduleRuntime doc).2.currentConcurrency = s.currentConcurrency := by
  unfold moduleRuntime
  dsimp only
  split_ifs <;> rfl

lemma feedHandler_concurrency (s : NetServer) (ec : WaitCode) :
    (s.feedHandler ec).currentConcurrency = s.currentConcurrency := rfl

lemma acceptHandler_concurrency (s : NetServer) (remote : Option Bytes) :
    (s.acceptHandler remote).currentConcurrency = s.currentConcurrency ∨
      (s.acceptHandler remote).currentConcurrency = s.currentConcurrency + 1 ∧
        s.Admits (.accept remote) := by
  cases remote with
  | none => exact Or.inl rfl
  | some remoteIp =>
    cases hsafe : s.conf.checkSafeIp remoteIp with
    | false => exact Or.inl (by simp [acceptHandler, hsafe])
    | true =>
      cases htoken : s.conf.getServiceToken.1 with
      | false => exact Or.inl (by simp [acceptHandler, hsafe, htoken])
      | true =>
        simp only [acceptHandler, hsafe, htoken, Bool.not_true, Bool.false_eq_true, ↓reduceIte]
        split_ifs
        · exact Or.inl rfl
        · exact Or.inr ⟨rfl, remoteIp, rfl, hsafe, htoken⟩

lemma acceptHandler_at_limit {remote : Option Bytes} (hs : s.Admits (.accept remote))
    (hlimit : s.conf.serviceConcurrency.toInt = s.currentConcurrency) :
    (s.acceptHandler remote).currentConcurrency = s.currentConcurrency + 1 := by
  obtain ⟨remoteIp, he, hsafe, htoken⟩ := hs
  obtain rfl : remote = some remoteIp := by simpa using he
  have hconf : s.conf.getServiceToken.2.serviceConcurrency = s.conf.serviceConcurrency := by
    unfold NetConf.getServiceToken
    split_ifs <;> rfl
  simp [acceptHandler, hsafe, htoken, hconf, hlimit]

lemma step_concurrency {e : Event} (hs : step s e = some t) :
    t.currentConcurrency ≤ s.currentConcurrency ∨
      t.currentConcurrency = s.currentConcurrency + 1 ∧ s.Admits e := by
  cases e with
  | accept remote =>
    obtain rfl := Option.some.inj hs
    rcases s.acceptHandler_concurrency remote with h | ⟨h, hadmits⟩
    · exact Or.inl h.le
    · exact Or.inr ⟨h, hadmits⟩
  | release =>
    simp only [step] at hs
    split_ifs at hs
    obtain rfl := Option.some.inj hs
    exact Or.inl (Nat.sub_le _ _)
  | moduleRuntime doc =>
    obtain rfl := Option.some.inj hs
    exact Or.inl (s.moduleRuntime_concurrency doc).le
  | feedExpire =>
    simp only [step] at hs
    split_ifs at hs
    obtain rfl := Option.some.inj hs
    exact Or.inl le_rfl
  | feedHandler i =>
    obtain ⟨h, -, rfl⟩ := Option.map_eq_some_iff.mp hs
    exact Or.inl (feedHandler_concurrency _ _).le

end Step

/-- Under a limit `L` in force since start-up, at most `L` connections are live at any time
exactly in the runs with no admitted accept while `L` of them are. -/
theorem concurrency_le_iff {doc : NetworkDoc} {es : List Event} {L : ℕ} (hL : 0 < L)
    (hforce : ∀ s, (machine doc).Visits es s → s.conf.serviceConcurrency.toInt = L) :
    (∀ s, (machine doc).Visits es s → s.currentConcurrency ≤ L) ↔
      ∀ s e t, (machine doc).Takes es s e t → s.currentConcurrency = L → ¬ s.Admits e := by
  constructor
  · intro h s e t ht hat hadmits
    obtain ⟨-, -, -, hn⟩ := id ht
    have hlimit : s.conf.serviceConcurrency.toInt = s.currentConcurrency := by
      rw [hforce s ht.visits, hat]
    obtain ⟨remoteIp, rfl, -⟩ := id hadmits
    obtain rfl := Option.some.inj hn
    have hopen := acceptHandler_at_limit hadmits hlimit
    have hle := h _ ht.visits_next
    omega
  · intro h s hs
    refine Machine.visits_of_inductive (M := machine doc)
      (C := fun s e => s.currentConcurrency = L → ¬ s.Admits e)
      (I := fun s => s.currentConcurrency ≤ L) ?_ (fun s e t hle hc hn => ?_) h hs
    · have hstart : (machine doc).start.currentConcurrency = 0 := by
        simp only [machine, init]
        split_ifs <;> rfl
      rw [hstart]
      exact hL.le
    · rcases step_concurrency hn with hstep | ⟨hstep, hadmits⟩
      · exact hstep.trans hle
      · have hne : s.currentConcurrency ≠ L := fun heq => hc heq hadmits
        omega

def concurrencyDoc (limit : Int32) : NetworkDoc :=
  { bindAddr := some anyAddress, bindPort := some 8434, safeIp := none, backlogSize := none
    ioThreadPoolSize := none, opsCancelTimeOut := none, sessionCancelTimeOut := none
    serviceEnable := none, serviceSpeed := none, serviceConcurrency := some limit
    sendMaxMsgSize := none, recvMaxMsgSize := none }

/-- With a limit of one in force all along, two clients are connected at once. -/
theorem concurrencyDoc_exceeds :
    (∀ s, (machine (concurrencyDoc 1)).Visits [.accept (some []), .accept (some [])] s →
        s.conf.serviceConcurrency.toInt = 1) ∧
      ∃ s, (machine (concurrencyDoc 1)).Visits [.accept (some []), .accept (some [])] s ∧
        ¬ s.currentConcurrency ≤ 1 := by
  have h : ((machine (concurrencyDoc 1)).run [.accept (some []), .accept (some [])]).any
      (fun s => ¬ s.currentConcurrency ≤ 1) := by
    decide +kernel
  obtain ⟨s, hs, h⟩ := (Option.any_eq_true _ _).mp h
  refine ⟨fun u hu => ?_, s, Machine.visits_self hs, of_decide_eq_true h⟩
  apply hu.of_trace (P := fun u => u.conf.serviceConcurrency.toInt = 1) <;> decide +kernel

theorem concurrencyDoc_within :
    ∃ s, (machine (concurrencyDoc 2)).run [.accept (some []), .accept (some []), .release] =
        some s ∧ s.currentConcurrency ≤ 2 := by
  have hrun : ((machine (concurrencyDoc 2)).run
      [.accept (some []), .accept (some []), .release]).isSome := by
    decide +kernel
  have hsteps : ∀ x ∈ (machine (concurrencyDoc 2)).trace (machine (concurrencyDoc 2)).start
      [.accept (some []), .accept (some []), .release],
      x.1.currentConcurrency = 2 → x.2.1 = .release := by
    decide +kernel
  obtain ⟨last, hlast⟩ := Option.isSome_iff_exists.mp hrun
  refine ⟨last, hlast, (concurrency_le_iff (L := 2) (by decide) fun s hs => ?_).mpr
    (fun s e t ht hat hadmits => ?_) last (Machine.visits_self hlast)⟩
  · apply hs.of_trace (P := fun s => s.conf.serviceConcurrency.toInt = 2) <;> decide +kernel
  · obtain ⟨remoteIp, rfl, -⟩ := hadmits
    exact absurd (hsteps _ ht.mem_trace hat) (by simp)

end Tzrpc.NetServer
