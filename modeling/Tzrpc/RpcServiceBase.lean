import Mathlib.Data.Int.Notation
import Mathlib.Tactic.Common

/-!
# The thread settings of a service

`RpcServiceBase::handle_rpc_service_conf` reads three keys of a service entry into a
structure the caller leaves uninitialised, so that a missing key keeps whatever was there
before, and checks the outcome.
-/
namespace Tzrpc

/-- The part of `libconfig` the services read their settings with. -/
structure Libconfig (Config Setting : Type*) where
  /-- `Config::lookup`; `none` is a `SettingNotFoundException`. -/
  lookup : Config → String → Option Setting
  /-- The elements `0` to `getLength() - 1`; a scalar has none. -/
  elems : Setting → List Setting
  /-- `lookupValue` into a string; `none` leaves the target as it was. -/
  lookupString : Setting → String → Option String
  /-- `lookupValue` into an `int`. -/
  lookupInt : Setting → String → Option Int32

structure ExecutorConf where
  execThreadNumber : Int32
  execThreadNumberHard : Int32
  execThreadStepSize : Int32
  deriving DecidableEq, Repr

inductive Tree
  | int (v : Int32)
  | string (v : String)
  | group (members : List (String × Tree))
  | list (elems : List Tree)

/-- The lookups in documents that are given by the settings at their paths. -/
def Tree.libconfig : Libconfig (List (String × Tree)) Tree where
  lookup doc path := doc.lookup path
  elems
    | .group members => members.map Prod.snd
    | .list elems => elems
    | _ => []
  lookupString
    | .group members, key =>
      match members.lookup key with
      | some (.string v) => some v
      | _ => none
    | _, _ => none
  lookupInt
    | .group members, key =>
      match members.lookup key with
      | some (.int v) => some v
      | _ => none
    | _, _ => none

namespace ExecutorConf

def zero : ExecutorConf := ⟨0, 0, 0⟩

structure Valid (conf : ExecutorConf) : Prop where
  positive : 1 ≤ conf.execThreadNumber
  ordered : conf.execThreadNumber ≤ conf.execThreadNumberHard
  bounded : conf.execThreadNumberHard ≤ 100
  step : 0 ≤ conf.execThreadStepSize

end ExecutorConf

namespace RpcServiceBase

variable {Config Setting : Type*} (L : Libconfig Config Setting)

/-- The three lookups into a structure that holds `prior`. -/
def lookupValues (setting : Setting) (prior : ExecutorConf) : ExecutorConf where
  execThreadNumber :=
    (L.lookupInt setting "exec_thread_pool_size").getD prior.execThreadNumber
  execThreadNumberHard :=
    (L.lookupInt setting "exec_thread_pool_size_hard").getD prior.execThreadNumberHard
  execThreadStepSize :=
    (L.lookupInt setting "exec_thread_pool_step_size").getD prior.execThreadStepSize

/-- `handle_rpc_service_conf`: the code it returns, and what it leaves in `conf`. -/
def handleRpcServiceConf (setting : Setting) (prior : ExecutorConf) : ℤ × ExecutorConf :=
  let conf := lookupValues L setting prior
  let conf :=
    if conf.execThreadNumberHard < conf.execThreadNumber then
      { conf with execThreadNumberHard := conf.execThreadNumber }
    else conf
  if conf.execThreadNumber ≤ 0 ∨ conf.execThreadNumber > 100 ∨ conf.execThreadNumberHard > 100 ∨
      conf.execThreadNumberHard < conf.execThreadNumber then (-1, conf)
  else if conf.execThreadStepSize < 0 then (-1, conf)
  else (0, conf)

def Accepts (conf : ExecutorConf) : Prop :=
  0 < conf.execThreadNumber ∧ conf.execThreadNumber ≤ 100 ∧ conf.execThreadNumberHard ≤ 100 ∧
    0 ≤ conf.execThreadStepSize

instance (conf : ExecutorConf) : Decidable (Accepts conf) := by
  unfold Accepts
  infer_instance

/-- The structure with its hard limit raised to the normal one. -/
def raised (conf : ExecutorConf) : ExecutorConf :=
  { conf with
    execThreadNumberHard :=
      if conf.execThreadNumberHard < conf.execThreadNumber then conf.execThreadNumber
      else conf.execThreadNumberHard }

variable {L}

/-- What is returned is decided by the looked up values alone. -/
theorem handleRpcServiceConf_eq (setting : Setting) (prior : ExecutorConf) :
    handleRpcServiceConf L setting prior =
      (if Accepts (lookupValues L setting prior) then 0 else -1,
        raised (lookupValues L setting prior)) := by
  unfold handleRpcServiceConf
  generalize lookupValues L setting prior = conf
  have hconf : (if conf.execThreadNumberHard < conf.execThreadNumber then
      { conf with execThreadNumberHard := conf.execThreadNumber } else conf) = raised conf := by
    unfold raised
    split_ifs <;> rfl
  have hcheck : ((raised conf).execThreadNumber ≤ 0 ∨ (raised conf).execThreadNumber > 100 ∨
      (raised conf).execThreadNumberHard > 100 ∨
      (raised conf).execThreadNumberHard < (raised conf).execThreadNumber) ↔
      ¬ (0 < conf.execThreadNumber ∧ conf.execThreadNumber ≤ 100 ∧
        conf.execThreadNumberHard ≤ 100) := by
    simp only [raised]
    grind
  have hstep : (raised conf).execThreadStepSize < 0 ↔ ¬ 0 ≤ conf.execThreadStepSize := by
    simp only [raised]
    grind
  simp only [hconf, hcheck, hstep]
  by_cases hacc : Accepts conf
  · obtain ⟨hpos, hle, hhard, hs⟩ := id hacc
    rw [if_neg (not_not.mpr ⟨hpos, hle, hhard⟩), if_neg (not_not.mpr hs), if_pos hacc]
  · rw [if_neg hacc]
    split_ifs with hthree hs
    · exact absurd ⟨hthree.1, hthree.2.1, hthree.2.2, hs⟩ hacc
    · rfl
    · rfl

lemma raised_valid {conf : ExecutorConf} (h : Accepts conf) : (raised conf).Valid := by
  obtain ⟨hpos, hle, hhard, hstep⟩ := h
  constructor <;> simp only [raised] <;> grind

lemma valid_of_accepted {setting : Setting} {prior : ExecutorConf}
    (h : (handleRpcServiceConf L setting prior).1 = 0) :
    (handleRpcServiceConf L setting prior).2.Valid := by
  rw [handleRpcServiceConf_eq] at h ⊢
  refine raised_valid (Decidable.byContradiction fun hn => ?_)
  simp [hn] at h

section Independence

variable (L)

/-- Whatever was in the structures before, two calls return the same code and, when it is
0, the same values. -/
def Independent (setting : Setting) : Prop :=
  ∀ prior prior' : ExecutorConf,
    (handleRpcServiceConf L setting prior).1 = (handleRpcServiceConf L setting prior').1 ∧
      ((handleRpcServiceConf L setting prior).1 = 0 →
        (handleRpcServiceConf L setting prior).2 = (handleRpcServiceConf L setting prior').2)

def Complete (setting : Setting) : Prop :=
  (L.lookupInt setting "exec_thread_pool_size").isSome ∧
    (L.lookupInt setting "exec_thread_pool_size_hard").isSome ∧
    (L.lookupInt setting "exec_thread_pool_step_size").isSome

/-- A key that is set is out of range whatever the others are. -/
def Refuses (setting : Setting) : Prop :=
  (∃ n, L.lookupInt setting "exec_thread_pool_size" = some n ∧ (n ≤ 0 ∨ 100 < n)) ∨
    (∃ h, L.lookupInt setting "exec_thread_pool_size_hard" = some h ∧ 100 < h) ∨
    ∃ s, L.lookupInt setting "exec_thread_pool_step_size" = some s ∧ s < 0

variable {L} {setting : Setting}

lemma Complete.lookupValues (h : Complete L setting) (prior prior' : ExecutorConf) :
    lookupValues L setting prior = lookupValues L setting prior' := by
  obtain ⟨hn, hh, hs⟩ := h
  obtain ⟨n, hn⟩ := Option.isSome_iff_exists.mp hn
  obtain ⟨hard, hh⟩ := Option.isSome_iff_exists.mp hh
  obtain ⟨step, hs⟩ := Option.isSome_iff_exists.mp hs
  simp only [RpcServiceBase.lookupValues, hn, hh, hs, Option.getD_some]

lemma Refuses.not_accepts (h : Refuses L setting) (prior : ExecutorConf) :
    ¬ Accepts (lookupValues L setting prior) := by
  rintro ⟨hpos, hle, hhard, hstep⟩
  rcases h with ⟨n, hn, hbad⟩ | ⟨hard, hh, hbad⟩ | ⟨step, hs, hbad⟩
  · simp only [lookupValues, hn, Option.getD_some] at hpos hle
    grind
  · simp only [lookupValues, hh, Option.getD_some] at hhard
    grind
  · simp only [lookupValues, hs, Option.getD_some] at hstep
    grind

lemma getD_of {o : Option Int32} {d : Int32} {P : Int32 → Prop} (hsome : ∀ v, o = some v → P v)
    (hnone : P d) : P (o.getD d) := by
  cases o with
  | none => exact hnone
  | some v => exact hsome v rfl

lemma accepts_good (h : ¬ Refuses L setting) :
    Accepts (lookupValues L setting ⟨1, 100, 0⟩) := by
  simp only [Refuses, not_or, not_exists, not_and] at h
  obtain ⟨hn, hh, hs⟩ := h
  refine ⟨?_, ?_, ?_, ?_⟩
  · exact getD_of (P := (0 < ·)) (fun n he => by grind) (by decide)
  · exact getD_of (P := (· ≤ 100)) (fun n he => by grind) (by decide)
  · exact getD_of (P := (· ≤ 100)) (fun n he => by grind) (by decide)
  · exact getD_of (P := (0 ≤ ·)) (fun n he => by grind) (by decide)

lemma not_accepts_bad (h : ¬ Complete L setting) :
    ¬ Accepts (lookupValues L setting ⟨0, 101, -1⟩) := by
  rintro ⟨hpos, hle, hhard, hstep⟩
  refine h ⟨?_, ?_, ?_⟩ <;> by_contra hn <;> rw [Option.not_isSome_iff_eq_none] at hn
  · simp [lookupValues, hn] at hpos
  · simp only [lookupValues, hn, Option.getD_none] at hhard
    exact absurd hhard (by decide)
  · simp only [lookupValues, hn, Option.getD_none] at hstep
    exact absurd hstep (by decide)

/-- An entry is read independently of the prior contents exactly when it sets all three
keys, or sets one to a value that is refused anyway. -/
theorem independent_iff (L : Libconfig Config Setting) (setting : Setting) :
    Independent L setting ↔ Complete L setting ∨ Refuses L setting := by
  constructor
  · intro h
    by_contra hn
    rw [not_or] at hn
    have hcode := (h ⟨1, 100, 0⟩ ⟨0, 101, -1⟩).1
    simp only [handleRpcServiceConf_eq, if_pos (accepts_good hn.2),
      if_neg (not_accepts_bad hn.1)] at hcode
    exact absurd hcode (by decide)
  · rintro (h | h) prior prior'
    · simp only [handleRpcServiceConf_eq, h.lookupValues prior prior', implies_true, and_self]
    · simp only [handleRpcServiceConf_eq, if_neg (h.not_accepts prior),
        if_neg (h.not_accepts prior'), true_and]
      exact fun h0 => absurd h0 (by decide)

/-- The second service of the example configuration: only the normal size is set. -/
def secondService : Tree :=
  .group [("instance_name", .string "XtraTaskService2"), ("exec_thread_pool_size", .int 2)]

/-- Left over contents decide whether the second service is accepted, and with which step. -/
theorem secondService_dependent :
    handleRpcServiceConf Tree.libconfig secondService ⟨0, 0, 0⟩ = (0, ⟨2, 2, 0⟩) ∧
      handleRpcServiceConf Tree.libconfig secondService ⟨0, 0, 7⟩ = (0, ⟨2, 2, 7⟩) ∧
      (handleRpcServiceConf Tree.libconfig secondService ⟨0, 0, -1⟩).1 = -1 ∧
      ¬ Independent Tree.libconfig secondService := by
  have h0 : handleRpcServiceConf Tree.libconfig secondService ⟨0, 0, 0⟩ = (0, ⟨2, 2, 0⟩) := by
    decide +kernel
  have h1 : (handleRpcServiceConf Tree.libconfig secondService ⟨0, 0, -1⟩).1 = -1 := by
    decide +kernel
  refine ⟨h0, by decide +kernel, h1, fun h => ?_⟩
  have hcode := (h ⟨0, 0, 0⟩ ⟨0, 0, -1⟩).1
  rw [h0, h1] at hcode
  exact absurd hcode (by decide)

end Independence

end RpcServiceBase

end Tzrpc
