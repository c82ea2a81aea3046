import Mathlib.Data.List.Nodup
import Mathlib.Data.List.Perm.Subperm
import Mathlib.Tactic.Ring
import Tzrpc.ExecutorAdjust

/-!
# The global reload

`Dispatcher::module_runtime` adds up what the reloads of the services return. A service
without an entry returns -1 and one whose entry is refused returns 1, so that failures of
the two kinds cancel out.
-/
namespace Tzrpc

structure ServiceTable where
  entries : List (UInt16 × PoolExecutor)
  nodup : (entries.map Prod.fst).Nodup

namespace ServiceTable

variable {Config Setting : Type*} (L : Libconfig Config Setting)

/-- `Executor::module_runtime` of one service; `prior` is what the local structures hold. -/
def reload (doc : Config) (prior : UInt16 → ExecutorConf) (entry : UInt16 × PoolExecutor) :
    ℤ × PoolExecutor := entry.2.moduleRuntime L doc (prior entry.1)

def moduleRuntime (services : ServiceTable) (doc : Config) (prior : UInt16 → ExecutorConf) :
    ℤ × ServiceTable :=
  ((services.entries.map fun entry => (reload L doc prior entry).1).foldl (· + ·) 0,
    { entries := services.entries.map fun entry => (entry.1, (reload L doc prior entry).2)
      nodup := by simpa [List.map_map, Function.comp_def] using services.nodup })

def Missing (doc : Config) (entry : UInt16 × PoolExecutor) : Bool :=
  (XtraTaskService.runtimeEntry L entry.2.serviceImpl.instanceName doc).isNone

def Refused (doc : Config) (prior : UInt16 → ExecutorConf) (entry : UInt16 × PoolExecutor) : Bool :=
  (XtraTaskService.runtimeEntry L entry.2.serviceImpl.instanceName doc).any fun service =>
    XtraTaskService.entryCode L service (prior entry.1) ≠ 0

/-- The reload returns 0 exactly when every service returned 0. -/
def ReportsAll (services : ServiceTable) (doc : Config) (prior : UInt16 → ExecutorConf) : Prop :=
  (services.moduleRuntime L doc prior).1 = 0 ↔
    ∀ entry ∈ services.entries, (reload L doc prior entry).1 = 0

variable {L}

lemma reload_ret (doc : Config) (prior : UInt16 → ExecutorConf) (entry : UInt16 × PoolExecutor) :
    (reload L doc prior entry).1 =
      (if Refused L doc prior entry then 1 else 0) - (if Missing L doc entry then 1 else 0) := by
  unfold reload PoolExecutor.moduleRuntime Refused Missing
  rw [XtraTaskService.moduleRuntime_eq]
  cases XtraTaskService.runtimeEntry L entry.2.serviceImpl.instanceName doc with
  | none => simp
  | some service =>
    by_cases h0 : XtraTaskService.entryCode L service (prior entry.1) = 0 <;> simp [h0]

lemma reload_ret_eq_zero (doc : Config) (prior : UInt16 → ExecutorConf)
    (entry : UInt16 × PoolExecutor) : (reload L doc prior entry).1 = 0 ↔
      Refused L doc prior entry = false ∧ Missing L doc entry = false := by
  rw [reload_ret]
  unfold Refused Missing
  cases XtraTaskService.runtimeEntry L entry.2.serviceImpl.instanceName doc with
  | none => simp
  | some service =>
    by_cases h0 : XtraTaskService.entryCode L service (prior entry.1) = 0 <;> simp [h0]

lemma moduleRuntime_ret (services : ServiceTable) (doc : Config) (prior : UInt16 → ExecutorConf) :
    (services.moduleRuntime L doc prior).1 =
      (services.entries.countP (Refused L doc prior) : ℤ) -
        services.entries.countP (Missing L doc) := by
  have hsum : ∀ (entries : List (UInt16 × PoolExecutor)) (n : ℤ),
      (entries.map fun entry => (reload L doc prior entry).1).foldl (· + ·) n =
        n + entries.countP (Refused L doc prior) - entries.countP (Missing L doc) := by
    intro entries
    induction entries with
    | nil => simp
    | cons entry rest ih =>
      intro n
      rw [List.map_cons, List.foldl_cons, ih, reload_ret, List.countP_cons, List.countP_cons]
      push_cast
      ring
  rw [moduleRuntime, hsum, zero_add]

lemma moduleRuntime_ret_le (services : ServiceTable) (doc : Config)
    (prior : UInt16 → ExecutorConf) : -2 ^ 16 ≤ (services.moduleRuntime L doc prior).1 ∧
      (services.moduleRuntime L doc prior).1 ≤ 2 ^ 16 := by
  have hlen : services.entries.length ≤ 2 ^ 16 := by
    have hnodup : (services.entries.map fun entry => entry.1.toNat).Nodup := by
      have h := services.nodup.map (f := UInt16.toNat) fun _ _ he => UInt16.toNat_inj.mp he
      rwa [List.map_map] at h
    have hsub : (services.entries.map fun entry => entry.1.toNat) ⊆ List.range (2 ^ 16) := by
      intro k hk
      obtain ⟨entry, -, rfl⟩ := List.mem_map.mp hk
      exact List.mem_range.mpr entry.1.toNat_lt
    simpa using (List.subperm_of_subset hnodup hsub).length_le
  have hrefused := List.countP_le_length (p := Refused L doc prior) (l := services.entries)
  have hmissing := List.countP_le_length (p := Missing L doc) (l := services.entries)
  rw [moduleRuntime_ret]
  constructor <;> omega

/-- A reload reports exactly the services that failed unless as many services are without an
entry as have one that is refused. -/
theorem reportsAll_iff (L : Libconfig Config Setting) (services : ServiceTable) (doc : Config)
    (prior : UInt16 → ExecutorConf) :
    ReportsAll L services doc prior ↔
      (services.entries.countP (Missing L doc) = services.entries.countP (Refused L doc prior) →
        services.entries.countP (Missing L doc) = 0) := by
  have hall : (∀ entry ∈ services.entries, (reload L doc prior entry).1 = 0) ↔
      services.entries.countP (Refused L doc prior) = 0 ∧
        services.entries.countP (Missing L doc) = 0 := by
    simp only [reload_ret_eq_zero, List.countP_eq_zero, Bool.not_eq_true, ← forall_and]
  rw [ReportsAll, moduleRuntime_ret, hall]
  constructor
  · intro h heq
    exact (h.mp (by omega)).2
  · intro h
    constructor
    · intro hsum
      have hzero := h (by omega)
      omega
    · rintro ⟨hr, hm⟩
      omega

/-- A service without an entry, and one with an entry for 101 threads. -/
def cancellingTable : ServiceTable where
  entries := [(1, ⟨⟨"XtraTaskService", some ⟨2, 5, 100⟩⟩, ⟨2, 5, 100⟩, true⟩),
    (2, ⟨⟨"XtraTaskService2", some ⟨2, 2, 0⟩⟩, ⟨2, 2, 0⟩, false⟩)]
  nodup := by decide

def refusedDoc : List (String × Tree) :=
  [("rpc_services", .list [XtraTaskService.threadsEntry "XtraTaskService2" 101 101 0])]

/-- Both reloads fail, and the global one returns 0. -/
theorem cancellingTable_silent :
    (cancellingTable.moduleRuntime Tree.libconfig refusedDoc fun _ => ExecutorConf.zero).1 = 0 ∧
      (∀ entry ∈ cancellingTable.entries,
        (reload Tree.libconfig refusedDoc (fun _ => ExecutorConf.zero) entry).1 ≠ 0) ∧
      ¬ ReportsAll Tree.libconfig cancellingTable refusedDoc fun _ => ExecutorConf.zero := by
  have hret : (cancellingTable.moduleRuntime Tree.libconfig refusedDoc
      fun _ => ExecutorConf.zero).1 = 0 := by
    decide +kernel
  have hfail : ∀ entry ∈ cancellingTable.entries,
      (reload Tree.libconfig refusedDoc (fun _ => ExecutorConf.zero) entry).1 ≠ 0 := by
    decide +kernel
  refine ⟨hret, hfail, fun h => ?_⟩
  exact hfail _ List.mem_cons_self (h.mp hret _ List.mem_cons_self)

end ServiceTable

end Tzrpc
