import Tzrpc.NetServerAdmission

/-!
# Tokens and connections

`accept_handler` takes a token before it looks at the concurrency limit, and the function
that gives a token back is never called.
-/
namespace Tzrpc.NetServer

def Limited (s : NetServer) : Prop := s.conf.serviceEnabled = true ∧ 0 < s.conf.serviceSpeed

def OverLimit (s : NetServer) : Prop :=
  s.conf.serviceConcurrency ≠ 0 ∧ s.conf.serviceConcurrency.toInt < s.currentConcurrency

def constructed (s : NetServer) : List Event → ℕ
  | [] => 0
  | e :: es =>
    match step s e with
    | none => 0
    | some t =>
      (if s.currentConcurrency < t.currentConcurrency then 1 else 0) + constructed t es

/-- A step under a speed limit that stays as it is, without a refill. -/
def Between (s : NetServer) (e : Event) (t : NetServer) : Prop :=
  s.Limited ∧ t.conf.serviceSpeed = s.conf.serviceSpeed ∧ ∀ i, e ≠ .feedHandler i

/-- Refused accepts cost no token, and between refills the bucket loses one token for each
connection. -/
structure TokensBalanced (M : Machine NetServer Event) (es : List Event) : Prop where
  refused : ∀ s remote t, M.Takes es s (.accept remote) t → s.Limited →
    t.currentConcurrency = s.currentConcurrency → t.conf.serviceToken = s.conf.serviceToken
  balanced : ∀ pre mid u v, pre ++ mid <+: es → M.run pre = some u →
    (M.resume u).run mid = some v →
    (∀ s e t, (M.resume u).Takes mid s e t → s.Between e t) →
    u.conf.serviceToken.toInt - v.conf.serviceToken.toInt = u.constructed mid

section Step

variable {s t : NetServer}

lemma getServiceToken_limited (h : s.Limited) :
    (s.conf.getServiceToken.1 = true → s.conf.getServiceToken.2.serviceToken.toInt =
        s.conf.serviceToken.toInt - 1) ∧
      (s.conf.getServiceToken.1 = false → s.conf.getServiceToken.2 = s.conf) ∧
      s.conf.getServiceToken.2.serviceConcurrency = s.conf.serviceConcurrency := by
  obtain ⟨hon, hspeed⟩ := h
  have h0 : s.conf.serviceSpeed ≠ 0 := by grind
  by_cases ht : s.conf.serviceToken ≤ 0
  · simp [NetConf.getServiceToken, hon, h0, ht]
  · simp [NetConf.getServiceToken, hon, h0, ht, NetConf.toInt_sub_one ht]

lemma acceptHandler_cases (h : s.Limited) (remote : Option Bytes) :
    (s.acceptHandler remote = s ∧ ¬ s.Admits (.accept remote)) ∨
    (s.Admits (.accept remote) ∧
      (s.acceptHandler remote).conf.serviceToken.toInt = s.conf.serviceToken.toInt - 1 ∧
      ((s.OverLimit ∧ (s.acceptHandler remote).currentConcurrency = s.currentConcurrency) ∨
        (¬ s.OverLimit ∧
          (s.acceptHandler remote).currentConcurrency = s.currentConcurrency + 1))) := by
  obtain ⟨htaken, hkept, hconc⟩ := getServiceToken_limited h
  cases remote with
  | none => exact Or.inl ⟨rfl, by simp [Admits]⟩
  | some remoteIp =>
    cases hsafe : s.conf.checkSafeIp remoteIp with
    | false => exact Or.inl (by simp [acceptHandler, Admits, hsafe])
    | true =>
      cases htoken : s.conf.getServiceToken.1 with
      | false => exact Or.inl (by simp [acceptHandler, Admits, hsafe, htoken, hkept htoken])
      | true =>
        refine Or.inr ⟨⟨remoteIp, rfl, hsafe, htoken⟩, ?_⟩
        simp only [acceptHandler, hsafe, htoken, hconc, Bool.not_true, Bool.false_eq_true,
          ↓reduceIte]
        split_ifs with hover
        · exact ⟨htaken htoken, Or.inl ⟨hover, rfl⟩⟩
        · exact ⟨htaken htoken, Or.inr ⟨hover, rfl⟩⟩

lemma moduleRuntime_serviceToken (s : NetServer) (doc : NetworkDoc) :
    (s.moduleRuntime doc).2.conf.serviceToken = s.conf.serviceToken := by
  unfold moduleRuntime
  dsimp only
  split_ifs <;> rfl

/-- Unless an admitted accept is refused by the concurrency limit, a step between refills
takes a token for each connection it constructs. -/
lemma step_balanced {e : Event} (hb : s.Between e t)
    (hcond : ∀ remote, e = .accept remote → s.Admits e → ¬ s.OverLimit)
    (hs : step s e = some t) :
    s.conf.serviceToken.toInt - t.conf.serviceToken.toInt =
      if s.currentConcurrency < t.currentConcurrency then 1 else 0 := by
  obtain ⟨hlimited, -, hfeed⟩ := hb
  cases e with
  | accept remote =>
    obtain rfl := Option.some.inj hs
    rcases acceptHandler_cases hlimited remote with ⟨hsame, -⟩ | ⟨hadmits, htoken, hlim⟩
    · simp [hsame]
    · rcases hlim with ⟨hover, -⟩ | ⟨-, hopen⟩
      · exact absurd hover (hcond remote rfl hadmits)
      · rw [hopen, htoken, if_pos (Nat.lt_succ_self _)]
        omega
  | release =>
    simp only [step] at hs
    split_ifs at hs
    obtain rfl := Option.some.inj hs
    rw [if_neg (by simp), sub_self]
  | moduleRuntime doc =>
    obtain rfl := Option.some.inj hs
    rw [moduleRuntime_serviceToken, moduleRuntime_concurrency, if_neg (lt_irrefl _), sub_self]
  | feedExpire =>
    simp only [step] at hs
    split_ifs at hs
    obtain rfl := Option.some.inj hs
    rw [if_neg (lt_irrefl _), sub_self]
  | feedHandler i => exact absurd rfl (hfeed i)

lemma constructed_eq {M : Machine NetServer Event} (hM : M.next = step) {mid : List Event}
    {u v : NetServer} (hv : (M.resume u).run mid = some v)
    (hb : ∀ s e t, (M.resume u).Takes mid s e t → s.Between e t ∧
      ∀ remote, e = .accept remote → s.Admits e → ¬ s.OverLimit) :
    u.conf.serviceToken.toInt - v.conf.serviceToken.toInt = u.constructed mid := by
  induction mid generalizing u with
  | nil =>
    obtain rfl : u = v := Option.some.inj hv
    simp [constructed]
  | cons e rest ih =>
    obtain ⟨w, hw, hrest⟩ := Option.bind_eq_some_iff.mp hv
    have hfirst : (M.resume u).run [e] = some w := by
      rw [Machine.run, Machine.exec_cons, hw]
      rfl
    obtain ⟨hbetween, hcond⟩ := hb u e w ⟨[], by simp, rfl, hw⟩
    have hnext : step u e = some w := by
      rw [← hM]
      exact hw
    have hstep := step_balanced hbetween hcond hnext
    have hrun : (M.resume w).run rest = some v := by
      rw [Machine.resume_exec] at hrest
      rw [Machine.run, Machine.resume_exec]
      exact hrest
    have htail := ih hrun fun s e' t ht => hb s e' t (ht.of_resume hfirst)
    rw [constructed, hnext]
    push_cast
    omega

end Step

/-- Tokens and connections balance exactly in the runs in which, under a speed limit, no
accept that passes the white list and gets a token meets a full house. -/
theorem tokensBalanced_iff (doc : NetworkDoc) (es : List Event) :
    TokensBalanced (machine doc) es ↔
      ∀ s remote t, (machine doc).Takes es s (.accept remote) t → s.Limited →
        s.Admits (.accept remote) → ¬ s.OverLimit := by
  constructor
  · intro h s remote t ht hlimited hadmits hover
    obtain ⟨-, -, -, hn⟩ := id ht
    obtain rfl := Option.some.inj hn
    rcases acceptHandler_cases hlimited remote with ⟨-, hnot⟩ | ⟨-, htoken, hlim⟩
    · exact hnot hadmits
    · rcases hlim with ⟨-, hconc⟩ | ⟨hfree, -⟩
      · rw [h.refused s remote _ ht hlimited hconc] at htoken
        omega
      · exact hfree hover
  · intro h
    refine ⟨fun s remote t ht hlimited hconc => ?_, fun pre mid u v hpre hu hv hb => ?_⟩
    · obtain ⟨-, -, -, hn⟩ := id ht
      obtain rfl := Option.some.inj hn
      rcases acceptHandler_cases hlimited remote with ⟨hsame, -⟩ | ⟨hadmits, -, hlim⟩
      · rw [hsame]
      · rcases hlim with ⟨hover, -⟩ | ⟨-, hopen⟩
        · exact absurd hover (h s remote _ ht hlimited hadmits)
        · omega
    · refine constructed_eq (M := machine doc) rfl hv fun s e t ht => ⟨hb s e t ht, ?_⟩
      rintro remote rfl
      exact h s remote t ((ht.of_resume hu).mono hpre) (hb s _ t ht).1

def crowdedDoc : NetworkDoc := { speedDoc 5 with serviceConcurrency := some 1 }

/-- The feed comes round once, then three clients arrive. -/
def thirdRefused : List Event :=
  [.feedExpire, .feedHandler 0, .accept (some []), .accept (some []), .accept (some [])]

/-- Two connections are constructed, and three tokens are gone. -/
theorem thirdRefused_unbalanced :
    (∃ s, (machine crowdedDoc).run thirdRefused = some s ∧ s.currentConcurrency = 2 ∧
      s.conf.serviceToken = 2) ∧ ¬ TokensBalanced (machine crowdedDoc) thirdRefused := by
  have h : ((machine crowdedDoc).run (thirdRefused.take 4)).any (fun s =>
      decide (s.conf.serviceEnabled = true ∧ 0 < s.conf.serviceSpeed) &&
      decide (s.conf.checkSafeIp [] = true ∧ s.conf.getServiceToken.1 = true) &&
      decide (s.conf.serviceConcurrency ≠ 0 ∧
        s.conf.serviceConcurrency.toInt < s.currentConcurrency)) := by
    decide +kernel
  have hlast : ((machine crowdedDoc).run thirdRefused).any (fun s =>
      decide (s.currentConcurrency = 2 ∧ s.conf.serviceToken = 2)) := by
    decide +kernel
  obtain ⟨s, hs, h⟩ := (Option.any_eq_true _ _).mp h
  simp only [Bool.and_eq_true, decide_eq_true_eq] at h
  obtain ⟨⟨hlimited, hadmits⟩, hover⟩ := h
  obtain ⟨last, hl, hcounts⟩ := (Option.any_eq_true _ _).mp hlast
  refine ⟨⟨last, hl, of_decide_eq_true hcounts⟩, fun hbal => ?_⟩
  exact (tokensBalanced_iff _ _).mp hbal s (some []) _
    ⟨thirdRefused.take 4, List.prefix_refl _, hs, rfl⟩ hlimited
    ⟨[], rfl, hadmits.1, hadmits.2⟩ hover

end Tzrpc.NetServer
