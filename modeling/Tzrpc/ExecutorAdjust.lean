import Mathlib.Data.List.Induction
import Tzrpc.XtraTaskConf

/-!
# Thread pool adjustment

The executor keeps a copy of its service's thread settings, which every update brings in step
again. `Executor::init` registers the adjustment only for a positive step size, but an update
may install any step size a service accepts, 0 among them, and the handler goes on running.
-/
namespace Tzrpc

structure PoolExecutor where
  serviceImpl : XtraTaskService
  conf : ExecutorConf
  /-- The timer for `executor_threads_adjust` has been added. -/
  adjustTimer : Bool
  deriving DecidableEq, Repr

/-- What `executor_threads_adjust` may run into. -/
inductive Fault
  | assertion
  | divideByZero
  | overflow
  deriving DecidableEq, Repr

namespace PoolExecutor

variable {Config Setting : Type*} (L : Libconfig Config Setting)

/-- `init`; `none` is the null `conf_ptr_` of a service without settings. The other arguments
tell whether `init_threads` and `add_timer` succeed. -/
def init (serviceImpl : XtraTaskService) (initThreads addTimer : Bool) :
    Option (Bool × PoolExecutor) :=
  serviceImpl.getExecutorConf.map fun conf =>
    if !initThreads then (false, ⟨serviceImpl, conf, false⟩)
    else if conf.execThreadNumberHard > conf.execThreadNumber ∧ conf.execThreadStepSize > 0 then
      if !addTimer then (false, ⟨serviceImpl, conf, false⟩)
      else (true, ⟨serviceImpl, conf, true⟩)
    else (true, ⟨serviceImpl, conf, false⟩)

def moduleRuntime (ex : PoolExecutor) (doc : Config) (prior : ExecutorConf) : ℤ × PoolExecutor :=
  let res := ex.serviceImpl.moduleRuntime L doc prior
  let ex := { ex with serviceImpl := res.2 }
  if res.1 = 0 then (res.1, { ex with conf := res.2.getExecutorConf.getD ex.conf })
  else (res.1, ex)

/-- `executor_threads_adjust` with `size` requests in the queue: the faults it runs into, and
the argument of `resize_threads` if it gets there. -/
def executorThreadsAdjust (conf : ExecutorConf) (size : ℕ) : List Fault × Option Int32 :=
  let faults := if conf.execThreadStepSize > 0 then [] else [Fault.assertion]
  let queueSize := Int32.ofNat size
  let resize (expectThread : Int32) : Int32 :=
    if expectThread > conf.execThreadNumberHard then conf.execThreadNumberHard else expectThread
  if queueSize > conf.execThreadStepSize then
    if conf.execThreadStepSize = 0 then (faults ++ [.divideByZero], none)
    else
      let added := queueSize / conf.execThreadStepSize
      let sum := conf.execThreadNumber.toInt + added.toInt
      if sum < Int32.minValue.toInt ∨ Int32.maxValue.toInt < sum then
        (faults ++ [.overflow], none)
      else (faults, some (resize (conf.execThreadNumber + added)))
  else (faults, some (resize conf.execThreadNumber))

def updates (ex : PoolExecutor) (ups : List (Config × ExecutorConf)) : PoolExecutor :=
  ups.foldl (fun ex up => (ex.moduleRuntime L up.1 up.2).2) ex

/-- No fault, and a pool size between the normal and the hard one. -/
def Safe (conf : ExecutorConf) (size : ℕ) : Prop :=
  ∃ n, executorThreadsAdjust conf size = ([], some n) ∧ conf.execThreadNumber ≤ n ∧
    n ≤ conf.execThreadNumberHard

def Roomy (bound : ℕ) (conf : ExecutorConf) : Prop :=
  let longest := min (bound : ℤ) Int32.maxValue.toInt
  conf.execThreadStepSize.toInt < longest →
    conf.execThreadNumber.toInt + longest / conf.execThreadStepSize.toInt ≤ Int32.maxValue.toInt

section Adjust

lemma toInt_div_pos {q step : Int32} (hs : 0 < step) (hq : step < q) :
    (q / step).toInt = q.toInt / step.toInt := by
  rw [Int32.lt_iff_toInt_lt, Int32.toInt_zero] at hs
  rw [Int32.lt_iff_toInt_lt] at hq
  have hne : q ≠ Int32.minValue := by
    rintro rfl
    rw [Int32.toInt_minValue] at hq
    omega
  rw [Int32.toInt_div_of_ne_left _ _ hne, Int.tdiv_eq_ediv_of_nonneg (by omega)]

lemma toInt_add_of_le {a b : Int32} (hb : 0 ≤ b.toInt)
    (h : a.toInt + b.toInt ≤ Int32.maxValue.toInt) : (a + b).toInt = a.toInt + b.toInt := by
  have ha := a.le_toInt
  rw [Int32.toInt_maxValue] at h
  rw [Int32.toInt_add]
  apply Int.bmod_eq_of_le <;> simp <;> omega

lemma resize_bounds {conf : ExecutorConf} {n : Int32}
    (hord : conf.execThreadNumber ≤ conf.execThreadNumberHard) (hn : conf.execThreadNumber ≤ n) :
    conf.execThreadNumber ≤
        (if n > conf.execThreadNumberHard then conf.execThreadNumberHard else n) ∧
      (if n > conf.execThreadNumberHard then conf.execThreadNumberHard else n) ≤
        conf.execThreadNumberHard := by
  grind

lemma safe_iff {conf : ExecutorConf} (hord : conf.execThreadNumber ≤ conf.execThreadNumberHard)
    (hstep : 0 ≤ conf.execThreadStepSize) (size : ℕ) :
    Safe conf size ↔ conf.execThreadStepSize ≠ 0 ∧
      (conf.execThreadStepSize < Int32.ofNat size →
        conf.execThreadNumber.toInt +
          (Int32.ofNat size).toInt / conf.execThreadStepSize.toInt ≤ Int32.maxValue.toInt) := by
  by_cases h0 : conf.execThreadStepSize = 0
  · have hfaults : (executorThreadsAdjust conf size).1 ≠ [] := by
      unfold executorThreadsAdjust
      simp only [h0, gt_iff_lt, ↓reduceIte, show ¬ (0 : Int32) < 0 by decide]
      split_ifs <;> simp
    constructor
    · rintro ⟨n, hrun, -⟩
      exact absurd (by rw [hrun]) hfaults
    · rintro ⟨hne, -⟩
      exact absurd h0 hne
  · have hpos : 0 < conf.execThreadStepSize := by grind
    by_cases hq : conf.execThreadStepSize < Int32.ofNat size
    · have hdiv := toInt_div_pos hpos hq
      have hnn : 0 ≤ (Int32.ofNat size / conf.execThreadStepSize).toInt := by
        rw [hdiv]
        rw [Int32.lt_iff_toInt_lt, Int32.toInt_zero] at hpos
        rw [Int32.lt_iff_toInt_lt] at hq
        exact Int.ediv_nonneg (by omega) (by omega)
      have hmin := conf.execThreadNumber.le_toInt
      have hlow : ¬ conf.execThreadNumber.toInt +
          (Int32.ofNat size / conf.execThreadStepSize).toInt < Int32.minValue.toInt := by
        rw [Int32.toInt_minValue]
        omega
      simp only [Safe, executorThreadsAdjust, gt_iff_lt, hpos, hq, h0, hlow, ↓reduceIte, ne_eq,
        not_false_eq_true, true_and, forall_const, false_or, ← hdiv]
      by_cases hfit : conf.execThreadNumber.toInt +
          (Int32.ofNat size / conf.execThreadStepSize).toInt ≤ Int32.maxValue.toInt
      · have hsum := toInt_add_of_le hnn hfit
        have hle : conf.execThreadNumber ≤
            conf.execThreadNumber + Int32.ofNat size / conf.execThreadStepSize := by
          rw [Int32.le_iff_toInt_le, hsum]
          omega
        simp only [Int.not_lt.mpr hfit, ↓reduceIte, hfit, iff_true]
        exact ⟨_, rfl, resize_bounds hord hle⟩
      · simp only [Int.not_le.mp hfit, ↓reduceIte, hfit, iff_false]
        rintro ⟨n, hn, -⟩
        simp at hn
    · simp only [Safe, executorThreadsAdjust, gt_iff_lt, hpos, hq, h0, ↓reduceIte, ne_eq,
        not_false_eq_true, true_and, false_implies, iff_true]
      exact ⟨_, rfl, resize_bounds hord (by grind)⟩

lemma safe_all_iff {conf : ExecutorConf} (hord : conf.execThreadNumber ≤ conf.execThreadNumberHard)
    (hstep : 0 ≤ conf.execThreadStepSize) (bound : ℕ) :
    (∀ size ≤ bound, Safe conf size) ↔ conf.execThreadStepSize ≠ 0 ∧ Roomy bound conf := by
  constructor
  · intro h
    refine ⟨((safe_iff hord hstep 0).mp (h 0 (Nat.zero_le _))).1, fun hlt => ?_⟩
    have hsize := h (min bound (2 ^ 31 - 1)) (Nat.min_le_left _ _)
    have hq : (Int32.ofNat (min bound (2 ^ 31 - 1))).toInt =
        min (bound : ℤ) Int32.maxValue.toInt := by
      rw [Int32.toInt_ofNat_of_lt (by omega), Int32.toInt_maxValue]
      omega
    have hfit := ((safe_iff hord hstep _).mp hsize).2
    rw [Int32.lt_iff_toInt_lt, hq] at hfit
    exact hfit hlt
  · rintro ⟨h0, hroomy⟩ size hsize
    have hq : (Int32.ofNat size).toInt ≤ min (bound : ℤ) Int32.maxValue.toInt := by
      have hmax := (Int32.ofNat size).toInt_lt
      rw [Int32.toInt_maxValue]
      by_cases hs : size < 2 ^ 31
      · rw [Int32.toInt_ofNat_of_lt hs]
        omega
      · omega
    refine (safe_iff hord hstep size).mpr ⟨h0, fun hlt => ?_⟩
    rw [Int32.lt_iff_toInt_lt] at hlt
    have hpos : 0 < conf.execThreadStepSize.toInt := by
      have hz : 0 < conf.execThreadStepSize := by grind
      rwa [Int32.lt_iff_toInt_lt, Int32.toInt_zero] at hz
    have hfit := hroomy (by omega)
    have hdiv := Int.ediv_le_ediv hpos hq
    omega

end Adjust

section Copies

variable {L} {ex : PoolExecutor}

/-- The executor runs with the settings its service holds. -/
def InStep (ex : PoolExecutor) : Prop := ex.serviceImpl.getExecutorConf = some ex.conf

lemma init_inStep {serviceImpl : XtraTaskService} {initThreads addTimer ok : Bool}
    (hinit : init serviceImpl initThreads addTimer = some (ok, ex)) : ex.InStep := by
  obtain ⟨conf, hconf, hex⟩ := Option.map_eq_some_iff.mp hinit
  have hsame : ex.serviceImpl = serviceImpl ∧ ex.conf = conf := by
    split_ifs at hex <;> obtain ⟨-, rfl⟩ := Prod.mk.inj hex <;> exact ⟨rfl, rfl⟩
  rw [InStep, hsame.1, hsame.2, hconf]

lemma moduleRuntime_cases (ex : PoolExecutor) (doc : Config) (prior : ExecutorConf) :
    ((ex.moduleRuntime L doc prior).1 ≠ 0 ∧ (ex.moduleRuntime L doc prior).2 = ex) ∨
      ((ex.moduleRuntime L doc prior).1 = 0 ∧ (ex.moduleRuntime L doc prior).2.InStep ∧
        (ex.moduleRuntime L doc prior).2.conf.Valid) := by
  unfold moduleRuntime
  rw [XtraTaskService.moduleRuntime_eq]
  cases XtraTaskService.runtimeEntry L ex.serviceImpl.instanceName doc with
  | none => exact Or.inl ⟨by simp, by simp⟩
  | some service =>
    simp only [Option.map_some, Option.getD_some]
    by_cases h0 : XtraTaskService.entryCode L service prior = 0
    · simp only [h0, ↓reduceIte, ne_eq, not_true_eq_false, false_and, true_and, false_or]
      exact ⟨rfl, RpcServiceBase.valid_of_accepted h0⟩
    · simp only [h0, ↓reduceIte]
      exact Or.inl ⟨by simp, by simp⟩

lemma updates_append (ex : PoolExecutor) (pre : List (Config × ExecutorConf))
    (up : Config × ExecutorConf) :
    ex.updates L (pre ++ [up]) = ((ex.updates L pre).moduleRuntime L up.1 up.2).2 := by
  simp [updates]

lemma updates_inStep (h : ex.InStep) (ups : List (Config × ExecutorConf)) :
    (ex.updates L ups).InStep := by
  induction ups using List.reverseRecOn with
  | nil => exact h
  | append_singleton ups up ih =>
    rw [updates_append]
    rcases (ex.updates L ups).moduleRuntime_cases (L := L) up.1 up.2 with
      ⟨-, hsame⟩ | ⟨-, hstep, -⟩
    · rw [hsame]
      exact ih
    · exact hstep

/-- From a successful `init` on, whatever updates arrive, the executor and its service hold the
same settings. An update that does not return 0 leaves both as they were, one that does has
installed valid settings in both. -/
theorem copies_in_step (L : Libconfig Config Setting) {serviceImpl : XtraTaskService}
    {initThreads addTimer : Bool} (hinit : init serviceImpl initThreads addTimer = some (true, ex))
    (ups : List (Config × ExecutorConf)) :
    (ex.updates L ups).serviceImpl.getExecutorConf = some (ex.updates L ups).conf ∧
      ∀ doc prior,
        (((ex.updates L ups).moduleRuntime L doc prior).1 ≠ 0 →
          ((ex.updates L ups).moduleRuntime L doc prior).2 = ex.updates L ups) ∧
        (((ex.updates L ups).moduleRuntime L doc prior).1 = 0 →
          ((ex.updates L ups).moduleRuntime L doc prior).2.serviceImpl.getExecutorConf =
              some ((ex.updates L ups).moduleRuntime L doc prior).2.conf ∧
            ((ex.updates L ups).moduleRuntime L doc prior).2.conf.Valid) := by
  refine ⟨updates_inStep (init_inStep hinit) ups, fun doc prior => ?_⟩
  rcases (ex.updates L ups).moduleRuntime_cases (L := L) doc prior with
    ⟨hne, hsame⟩ | ⟨h0, hstep, hvalid⟩
  · exact ⟨fun _ => hsame, fun h => absurd h hne⟩
  · exact ⟨fun h => absurd h0 h, fun _ => ⟨hstep, hvalid⟩⟩

def examplePool : PoolExecutor := ⟨⟨"XtraTaskService", some ⟨2, 5, 100⟩⟩, ⟨2, 5, 100⟩, true⟩

lemma examplePool_init : init ⟨"XtraTaskService", some ⟨2, 5, 100⟩⟩ true true =
    some (true, examplePool) := by decide +kernel

def stepUpdate (step : Int32) : List (String × Tree) × ExecutorConf :=
  ([("rpc_services", .list [XtraTaskService.threadsEntry "XtraTaskService" 2 5 step])],
    ExecutorConf.zero)

theorem stepUpdates_in_step :
    let ups := [stepUpdate (-1), ([], ExecutorConf.zero), stepUpdate 7]
    (examplePool.updates Tree.libconfig ups).conf = ⟨2, 5, 7⟩ ∧
      (examplePool.updates Tree.libconfig ups).serviceImpl.getExecutorConf =
        some (examplePool.updates Tree.libconfig ups).conf :=
  ⟨by decide +kernel, (copies_in_step Tree.libconfig examplePool_init _).1⟩

end Copies

section Updates

variable {L} {ex : PoolExecutor}

lemma init_adjusts {serviceImpl : XtraTaskService} {initThreads addTimer : Bool}
    (hinit : init serviceImpl initThreads addTimer = some (true, ex))
    (htimer : ex.adjustTimer = true) :
    ex.conf.execThreadNumber < ex.conf.execThreadNumberHard ∧ 0 < ex.conf.execThreadStepSize := by
  obtain ⟨conf, -, hex⟩ := Option.map_eq_some_iff.mp hinit
  split_ifs at hex with hthreads hboth htimers
  · simp at hex
  · simp at hex
  · obtain ⟨-, rfl⟩ := Prod.mk.inj hex
    exact hboth
  · obtain ⟨-, rfl⟩ := Prod.mk.inj hex
    simp at htimer

lemma moduleRuntime_conf (ex : PoolExecutor) (doc : Config) (prior : ExecutorConf) :
    ((ex.moduleRuntime L doc prior).1 = 0 → (ex.moduleRuntime L doc prior).2.conf.Valid) ∧
      ((ex.moduleRuntime L doc prior).1 ≠ 0 →
        (ex.moduleRuntime L doc prior).2.conf = ex.conf) := by
  rcases ex.moduleRuntime_cases (L := L) doc prior with ⟨hne, hsame⟩ | ⟨h0, -, hvalid⟩
  · exact ⟨fun h => absurd h hne, fun _ => by rw [hsame]⟩
  · exact ⟨fun _ => hvalid, fun h => absurd h0 h⟩

/-- Adjustments are safe after any updates, for queues up to a bound, exactly when there is
room at the start and every accepted update leaves room and a step size other than 0. -/
theorem adjust_safe_iff (L : Libconfig Config Setting) {serviceImpl : XtraTaskService}
    {initThreads addTimer : Bool} (hinit : init serviceImpl initThreads addTimer = some (true, ex))
    (htimer : ex.adjustTimer = true) (ups : List (Config × ExecutorConf)) (bound : ℕ) :
    (∀ pre, pre <+: ups → ∀ size ≤ bound, Safe (ex.updates L pre).conf size) ↔
      Roomy bound ex.conf ∧ ∀ pre up, pre ++ [up] <+: ups →
        ((ex.updates L pre).moduleRuntime L up.1 up.2).1 = 0 →
        ((ex.updates L pre).moduleRuntime L up.1 up.2).2.conf.execThreadStepSize ≠ 0 ∧
          Roomy bound ((ex.updates L pre).moduleRuntime L up.1 up.2).2.conf := by
  obtain ⟨hlt, hpos⟩ := init_adjusts hinit htimer
  have hle : ex.conf.execThreadNumber ≤ ex.conf.execThreadNumberHard := by grind
  have hge : 0 ≤ ex.conf.execThreadStepSize := by grind
  have hne : ex.conf.execThreadStepSize ≠ 0 := by grind
  constructor
  · intro h
    refine ⟨((safe_all_iff hle hge bound).mp (h [] List.nil_prefix)).2, fun pre up hpre h0 => ?_⟩
    obtain ⟨-, hle, -, hstep⟩ := (moduleRuntime_conf _ _ _).1 h0
    have hsafe := h (pre ++ [up]) hpre
    rw [updates_append] at hsafe
    exact (safe_all_iff hle hstep bound).mp hsafe
  · rintro ⟨hroomy, hups⟩ pre hpre
    have hconf : (ex.updates L pre).conf.execThreadNumber ≤
          (ex.updates L pre).conf.execThreadNumberHard ∧
        0 ≤ (ex.updates L pre).conf.execThreadStepSize ∧
        (ex.updates L pre).conf.execThreadStepSize ≠ 0 ∧ Roomy bound (ex.updates L pre).conf := by
      induction pre using List.reverseRecOn with
      | nil => exact ⟨hle, hge, hne, hroomy⟩
      | append_singleton pre up ih =>
        have hbefore := ih ((List.prefix_append pre [up]).trans hpre)
        rw [updates_append]
        by_cases h0 : ((ex.updates L pre).moduleRuntime L up.1 up.2).1 = 0
        · obtain ⟨-, hle, -, hstep⟩ := (moduleRuntime_conf _ _ _).1 h0
          exact ⟨hle, hstep, hups pre up hpre h0⟩
        · rw [(moduleRuntime_conf _ _ _).2 h0]
          exact hbefore
    exact (safe_all_iff hconf.1 hconf.2.1 bound).mpr hconf.2.2

/-- A step size of 0 is accepted, and the next adjustment divides by it. -/
theorem zeroStep_divides :
    (examplePool.moduleRuntime Tree.libconfig (stepUpdate 0).1 (stepUpdate 0).2).1 = 0 ∧
      executorThreadsAdjust (examplePool.updates Tree.libconfig [stepUpdate 0]).conf 1 =
        ([.assertion, .divideByZero], none) ∧
      ¬ ∀ pre, pre <+: [stepUpdate 0] → ∀ size ≤ 1,
        Safe (examplePool.updates Tree.libconfig pre).conf size := by
  have hrun : executorThreadsAdjust (examplePool.updates Tree.libconfig [stepUpdate 0]).conf 1 =
      ([.assertion, .divideByZero], none) := by
    decide +kernel
  refine ⟨by decide +kernel, hrun, fun h => ?_⟩
  obtain ⟨n, hn, -⟩ := h [stepUpdate 0] (List.prefix_refl _) 1 (Nat.le_refl _)
  rw [hrun] at hn
  simp at hn

theorem fiftyStep_safe :
    Safe (examplePool.updates Tree.libconfig [stepUpdate 50]).conf 1000 := by
  refine (adjust_safe_iff Tree.libconfig examplePool_init rfl [stepUpdate 50] 1000).mpr
    ⟨by unfold Roomy; decide +kernel, fun pre up hpre _ => ?_⟩ _ (List.prefix_refl _) 1000
    (Nat.le_refl _)
  have hone : pre = [] ∧ up = stepUpdate 50 := by
    cases pre with
    | nil => simpa using hpre
    | cons first pre =>
      have hlen := hpre.length_le
      simp at hlen
  obtain ⟨rfl, rfl⟩ := hone
  exact ⟨by decide +kernel, by unfold Roomy; decide +kernel⟩

end Updates

end PoolExecutor

end Tzrpc
