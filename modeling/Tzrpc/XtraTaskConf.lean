import Tzrpc.RpcServiceBase

/-!
# Start-up and reload of a service

`XtraTaskService` walks the list of service entries for the one with its name, once at
start-up and once for every reload. The two walks look at different paths, and both
functions that apply an entry return a `bool` where the one below them returns 0 or -1.
-/
namespace Tzrpc

structure XtraTaskService where
  instanceName : String
  /-- `conf_ptr_`, with the `executor_conf_` it points to. -/
  confPtr : Option ExecutorConf
  deriving DecidableEq, Repr

namespace XtraTaskService

variable {Config Setting : Type*} (L : Libconfig Config Setting)

def fresh (instanceName : String) : XtraTaskService := ⟨instanceName, none⟩

/-- An `int` returned from a function that returns `bool`. -/
def toBool (ret : ℤ) : Bool := decide (ret ≠ 0)

/-- A `bool` returned from a function that returns `int`. -/
def toInt (ret : Bool) : ℤ := if ret then 1 else 0

def entryName (service : Setting) : String := (L.lookupString service "instance_name").getD ""

/-- `handle_rpc_service_conf`; `prior` is what the local `ExecutorConf` holds. -/
def handleRpcServiceConf (s : XtraTaskService) (setting : Setting) (prior : ExecutorConf) :
    Bool × XtraTaskService :=
  let s := if s.confPtr.isNone then { s with confPtr := some ExecutorConf.zero } else s
  let res := RpcServiceBase.handleRpcServiceConf L setting prior
  if res.1 ≠ 0 then (toBool (-1), s)
  else (true, { s with confPtr := some res.2 })

def initEntries (s : XtraTaskService) (prior : ExecutorConf) :
    List Setting → Bool × XtraTaskService
  | [] => (false, s)
  | service :: rest =>
    let instanceName := entryName L service
    if instanceName = "" then initEntries s prior rest
    else if instanceName = s.instanceName then
      let res := s.handleRpcServiceConf L service prior
      if !res.1 then (false, res.2) else (true, res.2)
    else initEntries s prior rest

/-- `init`; `settingPtr` is `none` when there is no document. -/
def init (s : XtraTaskService) (settingPtr : Option Config) (prior : ExecutorConf) :
    Bool × XtraTaskService :=
  match settingPtr with
  | none => (false, s)
  | some doc =>
    match L.lookup doc "rpc.services" with
    | none => (false, s)
    | some rpcServices => s.initEntries L prior (L.elems rpcServices)

def getExecutorConf (s : XtraTaskService) : Option ExecutorConf := s.confPtr

/-- `handle_rpc_service_runtime_conf`, which takes it that `init` has made `conf_ptr_`. -/
def handleRpcServiceRuntimeConf (s : XtraTaskService) (setting : Setting) (prior : ExecutorConf) :
    Bool × XtraTaskService :=
  let res := RpcServiceBase.handleRpcServiceConf L setting prior
  if res.1 ≠ 0 then (toBool (-1), s)
  else (toBool 0, { s with confPtr := some res.2 })

def runtimeEntries (s : XtraTaskService) (prior : ExecutorConf) :
    List Setting → ℤ × XtraTaskService
  | [] => (-1, s)
  | service :: rest =>
    if entryName L service = s.instanceName then
      let res := s.handleRpcServiceRuntimeConf L service prior
      (toInt res.1, res.2)
    else runtimeEntries s prior rest

def moduleRuntime (s : XtraTaskService) (doc : Config) (prior : ExecutorConf) :
    ℤ × XtraTaskService :=
  match L.lookup doc "rpc_services" with
  | none => (-1, s)
  | some rpcServices => s.runtimeEntries L prior (L.elems rpcServices)

def initEntry (instanceName : String) (settingPtr : Option Config) : Option Setting :=
  (settingPtr.bind fun doc => L.lookup doc "rpc.services").bind fun rpcServices =>
    (L.elems rpcServices).find? fun service =>
      decide (entryName L service ≠ "") && decide (entryName L service = instanceName)

def runtimeEntry (instanceName : String) (doc : Config) : Option Setting :=
  (L.lookup doc "rpc_services").bind fun rpcServices =>
    (L.elems rpcServices).find? fun service => decide (entryName L service = instanceName)

def entryCode (service : Setting) (prior : ExecutorConf) : ℤ :=
  (RpcServiceBase.handleRpcServiceConf L service prior).1

def entryConf (service : Setting) (prior : ExecutorConf) : ExecutorConf :=
  (RpcServiceBase.handleRpcServiceConf L service prior).2

variable {L} {s : XtraTaskService} {service : Setting} {prior : ExecutorConf}

lemma handleRpcServiceConf_eq (s : XtraTaskService) (service : Setting) (prior : ExecutorConf) :
    s.handleRpcServiceConf L service prior =
      (true, { s with
        confPtr := some (if entryCode L service prior = 0 then entryConf L service prior
          else s.confPtr.getD ExecutorConf.zero) }) := by
  unfold handleRpcServiceConf entryCode entryConf
  obtain ⟨name, confPtr⟩ := s
  by_cases h0 : (RpcServiceBase.handleRpcServiceConf L service prior).1 = 0
  · simp only [h0, ne_eq, not_true_eq_false, ↓reduceIte]
    split_ifs <;> rfl
  · cases confPtr <;> simp [h0, toBool]

lemma initEntries_eq (s : XtraTaskService) (prior : ExecutorConf) (entries : List Setting) :
    s.initEntries L prior entries =
      ((entries.find? fun service => decide (entryName L service ≠ "") &&
        decide (entryName L service = s.instanceName)).map fun service =>
          s.handleRpcServiceConf L service prior).getD (false, s) := by
  induction entries with
  | nil => rfl
  | cons service rest ih =>
    unfold initEntries
    dsimp only
    split_ifs with hempty hname hret
    · rw [List.find?_cons_of_neg (by simp [hempty])]
      exact ih
    · simp [handleRpcServiceConf_eq] at hret
    · rw [List.find?_cons_of_pos (by rw [hname] at hempty; simp [hempty, hname])]
      simp [handleRpcServiceConf_eq]
    · rw [List.find?_cons_of_neg (by simp [hname])]
      exact ih

/-- `init` applies its entry, and fails only where there is none. -/
theorem init_eq (s : XtraTaskService) (settingPtr : Option Config) (prior : ExecutorConf) :
    s.init L settingPtr prior =
      ((initEntry L s.instanceName settingPtr).map fun service =>
        s.handleRpcServiceConf L service prior).getD (false, s) := by
  unfold init initEntry
  cases settingPtr with
  | none => rfl
  | some doc =>
    cases hl : L.lookup doc "rpc.services" with
    | none => simp [hl]
    | some rpcServices => simp only [hl, Option.bind_some, initEntries_eq]

lemma handleRpcServiceRuntimeConf_eq (s : XtraTaskService) (service : Setting)
    (prior : ExecutorConf) :
    s.handleRpcServiceRuntimeConf L service prior =
      if entryCode L service prior = 0 then
        (false, { s with confPtr := some (entryConf L service prior) })
      else (true, s) := by
  unfold handleRpcServiceRuntimeConf entryCode entryConf
  by_cases h0 : (RpcServiceBase.handleRpcServiceConf L service prior).1 = 0 <;>
    simp [h0, toBool]

lemma runtimeEntries_eq (s : XtraTaskService) (prior : ExecutorConf) (entries : List Setting) :
    s.runtimeEntries L prior entries =
      ((entries.find? fun service => decide (entryName L service = s.instanceName)).map
        fun service => (toInt (s.handleRpcServiceRuntimeConf L service prior).1,
          (s.handleRpcServiceRuntimeConf L service prior).2)).getD (-1, s) := by
  induction entries with
  | nil => rfl
  | cons service rest ih =>
    unfold runtimeEntries
    split_ifs with hname
    · rw [List.find?_cons_of_pos (by simp [hname])]
      rfl
    · rw [List.find?_cons_of_neg (by simp [hname])]
      exact ih

/-- A reload is -1 without an entry, 1 for a refused one and 0 for an accepted one. -/
theorem moduleRuntime_eq (s : XtraTaskService) (doc : Config) (prior : ExecutorConf) :
    s.moduleRuntime L doc prior =
      ((runtimeEntry L s.instanceName doc).map fun service =>
        if entryCode L service prior = 0 then
          ((0 : ℤ), { s with confPtr := some (entryConf L service prior) })
        else (1, s)).getD (-1, s) := by
  have hstep : s.moduleRuntime L doc prior =
      ((runtimeEntry L s.instanceName doc).map
        fun service => (toInt (s.handleRpcServiceRuntimeConf L service prior).1,
          (s.handleRpcServiceRuntimeConf L service prior).2)).getD (-1, s) := by
    unfold moduleRuntime runtimeEntry
    cases hl : L.lookup doc "rpc_services" with
    | none => simp
    | some rpcServices => simp only [Option.bind_some, runtimeEntries_eq]
  rw [hstep]
  cases runtimeEntry L s.instanceName doc with
  | none => rfl
  | some service =>
    simp only [Option.map_some, Option.getD_some, handleRpcServiceRuntimeConf_eq]
    split_ifs <;> rfl

section Start

variable (L)

def TakenFrom (service : Setting) (conf : ExecutorConf) : Prop :=
  L.lookupInt service "exec_thread_pool_size" = some conf.execThreadNumber ∧
    (L.lookupInt service "exec_thread_pool_size_hard" = some conf.execThreadNumberHard ∨
      conf.execThreadNumberHard = conf.execThreadNumber) ∧
    L.lookupInt service "exec_thread_pool_step_size" = some conf.execThreadStepSize

/-- A service that starts has valid settings from its entry, and does not start where the
entry is refused. -/
def StartsValid (instanceName : String) (settingPtr : Option Config) (prior : ExecutorConf) :
    Prop :=
  (((fresh instanceName).init L settingPtr prior).1 = true →
    ∃ service conf, initEntry L instanceName settingPtr = some service ∧
      ((fresh instanceName).init L settingPtr prior).2.getExecutorConf = some conf ∧
      conf.Valid ∧ TakenFrom L service conf) ∧
  ∀ service, initEntry L instanceName settingPtr = some service →
    entryCode L service prior ≠ 0 → ((fresh instanceName).init L settingPtr prior).1 = false

/-- The entry sets a normal size from 1 to 100 and a step size, and no hard limit above 100.
If it sets no hard limit, the one left over from before is at most the normal size. -/
def SetsValid (service : Setting) (prior : ExecutorConf) : Prop :=
  ∃ n step, L.lookupInt service "exec_thread_pool_size" = some n ∧
    L.lookupInt service "exec_thread_pool_step_size" = some step ∧ 1 ≤ n ∧ n ≤ 100 ∧ 0 ≤ step ∧
    (∀ hard, L.lookupInt service "exec_thread_pool_size_hard" = some hard → hard ≤ 100) ∧
    (L.lookupInt service "exec_thread_pool_size_hard" = none → prior.execThreadNumberHard ≤ n)

variable {L}

lemma entryCode_eq_zero_iff : entryCode L service prior = 0 ↔
    RpcServiceBase.Accepts (RpcServiceBase.lookupValues L service prior) := by
  rw [entryCode, RpcServiceBase.handleRpcServiceConf_eq]
  split_ifs with h <;> simp [h]

lemma entryConf_eq : entryConf L service prior =
    RpcServiceBase.raised (RpcServiceBase.lookupValues L service prior) := by
  rw [entryConf, RpcServiceBase.handleRpcServiceConf_eq]

lemma SetsValid.accepted (h : SetsValid L service prior) :
    entryCode L service prior = 0 ∧ TakenFrom L service (entryConf L service prior) := by
  obtain ⟨n, step, hn, hs, hpos, hle, hstep, hset, hunset⟩ := h
  rw [entryCode_eq_zero_iff, entryConf_eq]
  cases hh : L.lookupInt service "exec_thread_pool_size_hard" with
  | none =>
    have hprior := hunset hh
    simp only [RpcServiceBase.Accepts, RpcServiceBase.lookupValues, RpcServiceBase.raised,
      TakenFrom, hn, hs, hh, Option.getD_some, Option.getD_none]
    grind
  | some hard =>
    have hhard := hset hard hh
    simp only [RpcServiceBase.Accepts, RpcServiceBase.lookupValues, RpcServiceBase.raised,
      TakenFrom, hn, hs, hh, Option.getD_some]
    grind

lemma SetsValid.of_accepted (h0 : entryCode L service prior = 0)
    (htaken : TakenFrom L service (entryConf L service prior)) : SetsValid L service prior := by
  rw [entryCode_eq_zero_iff] at h0
  rw [entryConf_eq] at htaken
  obtain ⟨hn, hhard, hs⟩ := htaken
  obtain ⟨hpos, hle, hmax, hstep⟩ := h0
  refine ⟨_, _, hn, hs, ?_, hle, hstep, fun hard hh => ?_, fun hh => ?_⟩
  · simp only [RpcServiceBase.raised]
    grind
  · simp only [RpcServiceBase.lookupValues, hh, Option.getD_some] at hmax
    exact hmax
  · simp only [RpcServiceBase.raised, RpcServiceBase.lookupValues, hh, Option.getD_none,
      reduceCtorEq, false_or] at hhard ⊢
    grind

/-- A service starts only with valid settings from its entry exactly when the entry found
for it, if any, sets valid ones. -/
theorem startsValid_iff (L : Libconfig Config Setting) (instanceName : String)
    (settingPtr : Option Config) (prior : ExecutorConf) :
    StartsValid L instanceName settingPtr prior ↔
      ∀ service, initEntry L instanceName settingPtr = some service →
        SetsValid L service prior := by
  have hinit := init_eq (L := L) (fresh instanceName) settingPtr prior
  cases he : initEntry L instanceName settingPtr with
  | none =>
    rw [show (fresh instanceName).instanceName = instanceName from rfl, he] at hinit
    simp [StartsValid, hinit, he]
  | some service =>
    rw [show (fresh instanceName).instanceName = instanceName from rfl, he] at hinit
    simp only [Option.map_some, Option.getD_some, handleRpcServiceConf_eq] at hinit
    constructor
    · rintro ⟨hstarts, hrefused⟩ service' hs
      obtain rfl := Option.some.inj hs
      have h0 : entryCode L service prior = 0 := by
        by_contra h0
        have := hrefused service he h0
        simp [hinit] at this
      obtain ⟨service'', conf, hs'', hconf, -, htaken⟩ := hstarts (by rw [hinit])
      obtain rfl := Option.some.inj (he.symm.trans hs'')
      rw [hinit, getExecutorConf] at hconf
      simp only [h0, ↓reduceIte, Option.some.injEq] at hconf
      exact .of_accepted h0 (hconf ▸ htaken)
    · intro h
      obtain ⟨h0, htaken⟩ := (h service rfl).accepted
      refine ⟨fun _ => ⟨service, entryConf L service prior, he, ?_, ?_, htaken⟩,
        fun service' hs hne => ?_⟩
      · rw [hinit, getExecutorConf]
        simp [h0]
      · exact RpcServiceBase.valid_of_accepted h0
      · obtain rfl := Option.some.inj (he.symm.trans hs)
        exact absurd h0 hne

def threadsEntry (instanceName : String) (n hard step : Int32) : Tree :=
  .group [("instance_name", .string instanceName), ("exec_thread_pool_size", .int n),
    ("exec_thread_pool_size_hard", .int hard), ("exec_thread_pool_step_size", .int step)]

/-- A pool of 101 threads is refused, and the service starts without any. -/
theorem refusedEntry_starts :
    let doc := some [("rpc.services", Tree.list [threadsEntry "XtraTaskService" 101 101 0])]
    let res := (fresh "XtraTaskService").init Tree.libconfig doc ExecutorConf.zero
    res.1 = true ∧ res.2.getExecutorConf = some ⟨0, 0, 0⟩ ∧
      ¬ StartsValid Tree.libconfig "XtraTaskService" doc ExecutorConf.zero := by
  have hinit : (fresh "XtraTaskService").init Tree.libconfig
      (some [("rpc.services", Tree.list [threadsEntry "XtraTaskService" 101 101 0])])
      ExecutorConf.zero = (true, ⟨"XtraTaskService", some ⟨0, 0, 0⟩⟩) := by
    decide +kernel
  refine ⟨by rw [hinit], by rw [hinit]; rfl, fun h => ?_⟩
  obtain ⟨service, conf, -, hconf, hvalid, -⟩ := h.1 (by rw [hinit])
  rw [hinit] at hconf
  obtain rfl := Option.some.inj hconf
  exact absurd hvalid.positive (by decide)

end Start

section Reload

variable (L)

/-- A document whose entry for the service sets all keys to accepted values: if the service
starts with it, reloading it returns 0 and installs the settings it starts with. -/
def ReloadsAlike (instanceName : String) (doc : Config) (prior : ExecutorConf) : Prop :=
  ∀ service, initEntry L instanceName (some doc) = some service →
    RpcServiceBase.Complete L service → entryCode L service prior = 0 →
    ((fresh instanceName).init L (some doc) prior).1 = true →
    ∀ (s : XtraTaskService) (prior' : ExecutorConf), s.instanceName = instanceName →
      s.confPtr.isSome → (s.moduleRuntime L doc prior').1 = 0 ∧
        (s.moduleRuntime L doc prior').2.getExecutorConf =
          ((fresh instanceName).init L (some doc) prior).2.getExecutorConf

/-- The entry a reload finds sets all keys as well, to values that give the same settings. -/
def RuntimeAlike (instanceName : String) (doc : Config) (service : Setting)
    (prior : ExecutorConf) : Prop :=
  ∃ service', runtimeEntry L instanceName doc = some service' ∧
    RpcServiceBase.Complete L service' ∧ entryCode L service' prior = 0 ∧
    entryConf L service' prior = entryConf L service prior

variable {L}

lemma entryCode_complete (h : RpcServiceBase.Complete L service) (prior prior' : ExecutorConf) :
    entryCode L service prior = entryCode L service prior' ∧
      entryConf L service prior = entryConf L service prior' := by
  simp only [entryCode, entryConf, RpcServiceBase.handleRpcServiceConf_eq,
    h.lookupValues prior prior', and_self]

/-- Start-up and reload agree exactly where the document has, at the path a reload looks at,
an entry that gives the same settings. -/
theorem reloadsAlike_iff (L : Libconfig Config Setting) (instanceName : String) (doc : Config)
    (prior : ExecutorConf) :
    ReloadsAlike L instanceName doc prior ↔
      ∀ service, initEntry L instanceName (some doc) = some service →
        RpcServiceBase.Complete L service → entryCode L service prior = 0 →
        RuntimeAlike L instanceName doc service prior := by
  have hstart : ∀ service, initEntry L instanceName (some doc) = some service →
      entryCode L service prior = 0 → (fresh instanceName).init L (some doc) prior =
        (true, ⟨instanceName, some (entryConf L service prior)⟩) := by
    intro service he h0
    rw [init_eq, show (fresh instanceName).instanceName = instanceName from rfl, he,
      Option.map_some, Option.getD_some, handleRpcServiceConf_eq, if_pos h0]
    rfl
  have hreload : ∀ (s : XtraTaskService) (service' : Setting) (prior' : ExecutorConf),
      s.instanceName = instanceName → runtimeEntry L instanceName doc = some service' →
      s.moduleRuntime L doc prior' =
        if entryCode L service' prior' = 0 then
          (0, { s with confPtr := some (entryConf L service' prior') })
        else (1, s) := by
    rintro s service' prior' rfl he'
    rw [moduleRuntime_eq, he', Option.map_some, Option.getD_some]
  constructor
  · intro h service he hcomplete h0
    have hinit := hstart service he h0
    have hrun := fun prior' => h service he hcomplete h0 (by rw [hinit])
      ⟨instanceName, some ExecutorConf.zero⟩ prior' rfl rfl
    cases he' : runtimeEntry L instanceName doc with
    | none =>
      have hret := (hrun prior).1
      rw [moduleRuntime_eq] at hret
      simp [he'] at hret
    | some service' =>
      have hcode : ∀ prior', entryCode L service' prior' = 0 := by
        intro prior'
        by_contra hne
        have hret := (hrun prior').1
        rw [hreload _ service' prior' rfl he', if_neg hne] at hret
        exact absurd hret (by simp)
      refine ⟨service', he', ?_, hcode prior, ?_⟩
      · by_contra hn
        exact RpcServiceBase.not_accepts_bad hn (entryCode_eq_zero_iff.mp (hcode _))
      · have hconf := (hrun prior).2
        rw [hreload _ service' prior rfl he', if_pos (hcode prior), hinit] at hconf
        exact Option.some.inj hconf
  · intro h service he hcomplete h0 _ s prior' hname _
    obtain ⟨service', he', hcomplete', h0', hsame⟩ := h service he hcomplete h0
    obtain ⟨hcode, hconf⟩ := entryCode_complete hcomplete' prior prior'
    rw [hreload s service' prior' hname he', if_pos (hcode ▸ h0'), hstart service he h0]
    exact ⟨rfl, by rw [getExecutorConf, getExecutorConf, ← hconf, hsame]⟩

/-- The first service of the example configuration starts and cannot be reloaded. -/
theorem exampleConf_not_reloaded :
    let doc := [("rpc.services", Tree.list [threadsEntry "XtraTaskService" 2 5 100])]
    ((fresh "XtraTaskService").init Tree.libconfig (some doc) ExecutorConf.zero).1 = true ∧
      ((XtraTaskService.mk "XtraTaskService" (some ⟨2, 5, 100⟩)).moduleRuntime Tree.libconfig doc
        ExecutorConf.zero).1 = -1 ∧
      ¬ ReloadsAlike Tree.libconfig "XtraTaskService" doc ExecutorConf.zero := by
  have hrun : ((XtraTaskService.mk "XtraTaskService" (some ⟨2, 5, 100⟩)).moduleRuntime
      Tree.libconfig [("rpc.services", Tree.list [threadsEntry "XtraTaskService" 2 5 100])]
      ExecutorConf.zero).1 = -1 := by
    decide +kernel
  have hinit : ((fresh "XtraTaskService").init Tree.libconfig
      (some [("rpc.services", Tree.list [threadsEntry "XtraTaskService" 2 5 100])])
      ExecutorConf.zero).1 = true := by
    decide +kernel
  refine ⟨hinit, hrun, fun h => ?_⟩
  have hret := (h (threadsEntry "XtraTaskService" 2 5 100) rfl
    ⟨rfl, rfl, rfl⟩
    (by decide +kernel) hinit
    ⟨"XtraTaskService", some ⟨2, 5, 100⟩⟩ ExecutorConf.zero rfl rfl).1
  rw [hrun] at hret
  exact absurd hret (by decide)

end Reload

end XtraTaskService

end Tzrpc
