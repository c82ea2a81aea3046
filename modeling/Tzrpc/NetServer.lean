import Tzrpc.Machine
import Tzrpc.NetConf

/-!
# The server

`NetServer` under accepts, connection releases, runtime updates and its token feed. The
feed handler re-arms its timer whatever code it is given, and re-arming aborts the wait of
a timer that an update has put in its place.
-/
namespace Tzrpc

structure NetServer where
  conf : NetConf
  /-- `TcpConnAsync::current_concurrency_`. -/
  currentConcurrency : ℕ
  /-- Feed waits started so far. -/
  waits : ℕ
  /-- Successful `get_service_token` calls so far. -/
  granted : ℕ
  deriving DecidableEq

namespace NetServer

/-- `timed_feed_token_.reset(new steady_timer)` with its first wait. -/
def armFeed (s : NetServer) : NetServer :=
  { s with
    conf := { s.conf with timedFeedToken := s.conf.timedFeedToken.create }.startFeedWait s.waits
    waits := s.waits + 1 }

/-- `init` as far as the settings and the feed go. -/
def init (doc : NetworkDoc) : Bool × NetServer :=
  let conf := NetConf.fresh.loadConf doc
  let s : NetServer := ⟨conf.2, 0, 0, 0⟩
  if !conf.1 then (false, s)
  else if s.conf.serviceSpeed ≠ 0 then (true, s.armFeed)
  else (true, s)

/-- `accept_handler`; `none` is an accept that failed or a peer without an address. -/
def acceptHandler (s : NetServer) : Option Bytes → NetServer
  | none => s
  | some remoteIp =>
    if !s.conf.checkSafeIp remoteIp then s
    else
      let token := s.conf.getServiceToken
      let s := { s with conf := token.2, granted := s.granted + if token.1 then 1 else 0 }
      if !token.1 then s
      else if s.conf.serviceConcurrency ≠ 0 ∧
          s.conf.serviceConcurrency.toInt < s.currentConcurrency then s
      else { s with currentConcurrency := s.currentConcurrency + 1 }

def moduleRuntime (s : NetServer) (doc : NetworkDoc) : ℤ × NetServer :=
  let loaded := NetConf.fresh.loadConf doc
  if !loaded.1 then (-1, s)
  else
    let conf := loaded.2
    let old := s.conf.serviceSpeed
    let s := { s with conf := { s.conf with
      sessionCancelTimeOut := conf.sessionCancelTimeOut
      opsCancelTimeOut := conf.opsCancelTimeOut
      safeIp := conf.safeIp
      serviceSpeed := conf.serviceSpeed } }
    let s :=
      if old = conf.serviceSpeed then s
      else if s.conf.serviceSpeed ≠ 0 then s.armFeed
      else if s.conf.timedFeedToken.object.isSome then
        { s with conf := { s.conf with
          timedFeedToken := s.conf.timedFeedToken.cancel.destroy } }
      else s
    (0, { s with conf := { s.conf with serviceConcurrency := conf.serviceConcurrency } })

def feedHandler (s : NetServer) (ec : WaitCode) : NetServer :=
  let fed := s.conf.timedFeedTokenHandler ec s.waits
  { s with conf := fed.2, waits := s.waits + if fed.1 then 1 else 0 }

inductive Event
  | accept (remote : Option Bytes)
  | release
  | moduleRuntime (doc : NetworkDoc)
  | feedExpire
  | feedHandler (i : ℕ)
  deriving DecidableEq, Repr

def step (s : NetServer) : Event → Option NetServer
  | .accept remote => some (s.acceptHandler remote)
  | .release =>
    if s.currentConcurrency = 0 then none
    else some { s with currentConcurrency := s.currentConcurrency - 1 }
  | .moduleRuntime doc => some (s.moduleRuntime doc).2
  | .feedExpire =>
    if s.conf.timedFeedToken.pending = [] then none
    else some { s with conf := { s.conf with timedFeedToken := s.conf.timedFeedToken.expire } }
  | .feedHandler i =>
    (s.conf.timedFeedToken.take i).map fun h =>
      { s with conf := { s.conf with timedFeedToken := h.2 } }.feedHandler h.1.code

def machine (doc : NetworkDoc) : Machine NetServer Event := ⟨(init doc).2, step⟩

def RunsFeed (s : NetServer) (e : Event) (code : WaitCode) : Prop :=
  ∃ i h, e = .feedHandler i ∧ s.conf.timedFeedToken.queued[i]? = some h ∧ h.code = code

/-- A step under a speed limit with no genuine expiry and no change of the settings. -/
def Steady (s : NetServer) (e : Event) (t : NetServer) : Prop :=
  s.conf.serviceSpeed ≠ 0 ∧ ¬ s.RunsFeed e .success ∧ s.conf.SameSettings t.conf

/-- Only genuine expiries refill the bucket: an aborted handler neither refills nor waits
again, and a segment of steady steps grants no more than the tokens it starts with. -/
structure RefillsGenuine (M : Machine NetServer Event) (es : List Event) : Prop where
  aborted : ∀ s e t, M.Takes es s e t → s.RunsFeed e .aborted →
    t.conf.serviceToken = s.conf.serviceToken ∧ t.waits = s.waits
  bounded : ∀ pre mid u v, pre ++ mid <+: es → M.run pre = some u →
    (M.resume u).run mid = some v →
    (∀ s e t, (M.resume u).Takes mid s e t → s.Steady e t) →
    v.granted ≤ u.granted + u.conf.tokens

section Step

variable {s t : NetServer}

lemma feedHandler_off (ec : WaitCode) (h : s.conf.serviceSpeed = 0) :
    (s.feedHandler ec).conf.serviceToken = s.conf.serviceToken ∧
      (s.feedHandler ec).waits = s.waits := by
  simp [feedHandler, NetConf.timedFeedTokenHandler, h]

lemma feedHandler_on (ec : WaitCode) (h : s.conf.serviceSpeed ≠ 0) :
    (s.feedHandler ec).conf.serviceToken = s.conf.serviceSpeed ∧
      (s.feedHandler ec).waits = s.waits + 1 := by
  simp [feedHandler, NetConf.timedFeedTokenHandler, NetConf.feedServiceToken,
    NetConf.startFeedWait, h]

lemma step_feedHandler {e : Event} {code : WaitCode} (hf : s.RunsFeed e code)
    (hs : step s e = some t) :
    ∃ u : SteadyTimer ℕ,
      t = { s with conf := { s.conf with timedFeedToken := u } }.feedHandler code := by
  obtain ⟨i, h, rfl, hq, rfl⟩ := hf
  obtain ⟨⟨h', u⟩, ht, rfl⟩ := Option.map_eq_some_iff.mp hs
  obtain ⟨d, hd, he⟩ := Option.map_eq_some_iff.mp ht
  obtain ⟨rfl, rfl⟩ := Prod.mk.inj he
  rw [hq] at hd
  obtain rfl := Option.some.inj hd
  exact ⟨_, rfl⟩

lemma moduleRuntime_tokens (s : NetServer) (doc : NetworkDoc) :
    (s.moduleRuntime doc).2.conf.tokens = s.conf.tokens ∧
      (s.moduleRuntime doc).2.granted = s.granted := by
  unfold moduleRuntime
  dsimp only
  split_ifs <;> exact ⟨rfl, rfl⟩

lemma acceptHandler_tokens (remote : Option Bytes) (h : s.conf.serviceSpeed ≠ 0) :
    (s.acceptHandler remote).granted + (s.acceptHandler remote).conf.tokens =
      s.granted + s.conf.tokens := by
  have ht := NetConf.getServiceToken_tokens h
  cases remote with
  | none => rfl
  | some ip =>
    cases hg : s.conf.getServiceToken with
    | mk ok conf =>
      rw [hg] at ht
      cases hsafe : s.conf.checkSafeIp ip with
      | false => simp [acceptHandler, hsafe]
      | true =>
        cases ok with
        | false =>
          simp only [acceptHandler, hsafe, hg]
          simpa using ht
        | true =>
          simp only [↓reduceIte] at ht
          simp only [acceptHandler, hsafe, hg, Bool.not_true, Bool.false_eq_true, ↓reduceIte]
          split_ifs <;> simp only [Nat.add_assoc, ht]

lemma step_tokens {e : Event} (hon : s.conf.serviceSpeed ≠ 0) (hf : ∀ code, ¬ s.RunsFeed e code)
    (hs : step s e = some t) : t.granted + t.conf.tokens = s.granted + s.conf.tokens := by
  cases e with
  | accept remote =>
    obtain rfl := Option.some.inj hs
    exact acceptHandler_tokens remote hon
  | release =>
    simp only [step] at hs
    split_ifs at hs
    obtain rfl := Option.some.inj hs
    rfl
  | moduleRuntime doc =>
    obtain rfl := Option.some.inj hs
    obtain ⟨h1, h2⟩ := s.moduleRuntime_tokens doc
    rw [h1, h2]
  | feedExpire =>
    simp only [step] at hs
    split_ifs at hs
    obtain rfl := Option.some.inj hs
    rfl
  | feedHandler i =>
    obtain ⟨h, hh, -⟩ := Option.map_eq_some_iff.mp hs
    obtain ⟨d, hd, -⟩ := Option.map_eq_some_iff.mp hh
    exact absurd ⟨i, d, rfl, hd, rfl⟩ (hf d.code)

end Step

/-- The bucket is refilled only by genuine expiries exactly in the runs that deliver aborted
feed handlers only while the speed limit is off. -/
theorem refillsGenuine_iff (doc : NetworkDoc) (es : List Event) :
    RefillsGenuine (machine doc) es ↔
      ∀ s e t, (machine doc).Takes es s e t → s.RunsFeed e .aborted → s.conf.serviceSpeed = 0 := by
  constructor
  · intro h s e t ht hf
    by_contra hon
    obtain ⟨-, -, -, hn⟩ := id ht
    obtain ⟨u, rfl⟩ := step_feedHandler hf hn
    have hsame := (h.aborted s e _ ht hf).2
    have hmore := (feedHandler_on
      (s := { s with conf := { s.conf with timedFeedToken := u } }) .aborted hon).2
    exact absurd (hmore.symm.trans hsame) (Nat.succ_ne_self _)
  · intro h
    refine ⟨fun s e t ht hf => ?_, fun pre mid u v hp hu hv hsteady => ?_⟩
    · obtain ⟨-, -, -, hn⟩ := id ht
      obtain ⟨u, rfl⟩ := step_feedHandler hf hn
      exact feedHandler_off .aborted (h s e _ ht hf)
    · have hbound := Machine.run_induction (M := (machine doc).resume u)
        (C := fun s e => s.conf.serviceSpeed ≠ 0 ∧ ∀ code, ¬ s.RunsFeed e code)
        (P := fun _ v => v.granted + v.conf.tokens = u.granted + u.conf.tokens) rfl
        (fun _ s e t _ ih hc hn => (step_tokens hc.1 hc.2 hn).trans ih) hv
        fun s e t ht => by
          obtain ⟨hon, hgen, -⟩ := hsteady s e t ht
          refine ⟨hon, fun code hf => ?_⟩
          cases code with
          | success => exact hgen hf
          | aborted => exact hon (h s e t ((ht.of_resume hu).mono hp) hf)
      omega

def speedDoc (speed : Int32) : NetworkDoc :=
  ⟨some anyAddress, some 8434, none, none, none, none, none, none, some speed, none, none, none⟩

/-- An update from one speed to another aborts the wait of the timer it replaces. The
handler refills the bucket and re-arms the new timer, which aborts that timer's wait too. -/
theorem speedUpdate_refills :
    ∃ u v w, (machine (speedDoc 5)).run [.moduleRuntime (speedDoc 6)] = some u ∧
      u.RunsFeed (.feedHandler 0) .aborted ∧ step u (.feedHandler 0) = some v ∧
      u.conf.serviceToken = 0 ∧ v.conf.serviceToken = 6 ∧ v.waits = u.waits + 1 ∧
      v.RunsFeed (.feedHandler 0) .aborted ∧ step v (.accept (some [])) = some w ∧
      w.granted = u.granted + 1 := by
  have h : ((machine (speedDoc 5)).run [.moduleRuntime (speedDoc 6)]).any (fun u =>
      u.conf.timedFeedToken.queued[0]? = some ⟨0, .aborted⟩ && u.conf.serviceToken = 0 &&
        (step u (.feedHandler 0)).any fun v =>
          v.conf.serviceToken = 6 && v.waits = u.waits + 1 &&
            v.conf.timedFeedToken.queued[0]? = some ⟨1, .aborted⟩ &&
            (step v (.accept (some []))).any fun w => w.granted = u.granted + 1) := by
    decide +kernel
  obtain ⟨u, hu, h⟩ := (Option.any_eq_true _ _).mp h
  simp only [Bool.and_eq_true, decide_eq_true_eq] at h
  obtain ⟨⟨huq, hut⟩, h⟩ := h
  obtain ⟨v, hv, h⟩ := (Option.any_eq_true _ _).mp h
  simp only [Bool.and_eq_true, decide_eq_true_eq] at h
  obtain ⟨⟨⟨hvt, hvw⟩, hvq⟩, h⟩ := h
  obtain ⟨w, hw, h⟩ := (Option.any_eq_true _ _).mp h
  exact ⟨u, v, w, hu, ⟨0, _, rfl, huq, rfl⟩, hv, hut, hvt, hvw, ⟨0, _, rfl, hvq, rfl⟩, hw,
    of_decide_eq_true h⟩

end NetServer

end Tzrpc
