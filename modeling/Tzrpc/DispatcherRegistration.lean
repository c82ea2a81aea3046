import Tzrpc.DispatcherReload
import Tzrpc.Executor
import Mathlib.Data.List.TakeWhile

/-!
# The services of the dispatcher

Services are registered until `Dispatcher::init`, which starts their executors and lets
configuration updates in. What stands behind an id at any time is a function of the
registrations for it and of the updates since.
-/
namespace Tzrpc

namespace ServiceTable

variable {Config Setting : Type*} {L : Libconfig Config Setting}

def empty : ServiceTable := ⟨[], List.nodup_nil⟩

/-- `services_.find`. -/
def find (services : ServiceTable) (id : UInt16) : Option PoolExecutor :=
  services.entries.lookup id

/-- `services_[id] = ex`. The entries do not keep the order of the map; nothing depends on it. -/
def assign (services : ServiceTable) (id : UInt16) (ex : PoolExecutor) : ServiceTable where
  entries := services.entries.filter (fun entry => decide (entry.1 ≠ id)) ++ [(id, ex)]
  nodup := by
    rw [List.map_append, List.nodup_append]
    refine ⟨services.nodup.sublist (List.filter_sublist.map _), by simp, fun k hk k' hk' => ?_⟩
    obtain ⟨entry, hentry, rfl⟩ := List.mem_map.mp hk
    obtain rfl := List.mem_singleton.mp hk'
    exact of_decide_eq_true (List.mem_filter.mp hentry).2

lemma find_isSome (services : ServiceTable) (id : UInt16) :
    (services.find id).isSome = services.entries.any fun entry => decide (entry.1 = id) := by
  unfold find
  induction services.entries with
  | nil => rfl
  | cons entry rest ih =>
    rw [List.lookup_cons, List.any_cons, ← ih]
    by_cases h : entry.1 = id
    · simp [h]
    · simp [h, beq_eq_false_iff_ne.mpr (Ne.symm h)]

@[simp] lemma find_assign (services : ServiceTable) (id : UInt16) (ex : PoolExecutor)
    (k : UInt16) :
    (services.assign id ex).find k = if id = k then some ex else services.find k := by
  have hrest : (services.entries.filter fun entry => decide (entry.1 ≠ id)).lookup k =
      if id = k then none else services.entries.lookup k := by
    induction services.entries with
    | nil => simp
    | cons entry rest ih =>
      grind
  rw [find, assign, List.lookup_append, hrest, find]
  split_ifs with h
  · simp [h]
  · simp [List.lookup_cons, beq_eq_false_iff_ne.mpr (Ne.symm h)]

@[simp] lemma find_moduleRuntime (services : ServiceTable) (doc : Config)
    (prior : UInt16 → ExecutorConf) (id : UInt16) :
    (services.moduleRuntime L doc prior).2.find id =
      (services.find id).map fun ex => (ex.moduleRuntime L doc (prior id)).2 := by
  unfold find moduleRuntime
  dsimp only
  induction services.entries with
  | nil => rfl
  | cons entry rest ih =>
    rw [List.map_cons, List.lookup_cons, List.lookup_cons, ih]
    by_cases h : id = entry.1
    · subst h
      simp [reload]
    · simp [beq_eq_false_iff_ne.mpr h]

end ServiceTable

/-- `Dispatcher`; `handle_RPC` is modelled with the executors. -/
structure Dispatcher where
  initialized : Bool
  services : ServiceTable
  /-- The services whose executors had their threads started. -/
  started : List UInt16

namespace Dispatcher

variable {Config Setting : Type*} (L : Libconfig Config Setting)

def fresh : Dispatcher := ⟨false, .empty, []⟩

/-- `register_service` of a service in this state; `none` is the null pointer of one without
settings. The last two tell whether `init_threads` and `add_timer` succeed. -/
def registerService (d : Dispatcher) (id : UInt16) (service : XtraTaskService)
    (initThreads addTimer : Bool) : Option Dispatcher :=
  if d.initialized then some d
  else (PoolExecutor.init service initThreads addTimer).map fun res =>
    if !res.1 then d else { d with services := d.services.assign id res.2 }

def init (d : Dispatcher) : Dispatcher :=
  { d with initialized := true, started := d.services.entries.map Prod.fst }

inductive Event (Config : Type*)
  | registerService (id : UInt16) (service : XtraTaskService) (initThreads addTimer : Bool)
  | init
  | moduleRuntime (doc : Config) (prior : UInt16 → ExecutorConf)

/-- Updates arrive from when `init` has attached the callback. -/
def step (d : Dispatcher) : Event Config → Option Dispatcher
  | .registerService id service initThreads addTimer =>
    d.registerService id service initThreads addTimer
  | .init => some d.init
  | .moduleRuntime doc prior =>
    if d.initialized then some { d with services := (d.services.moduleRuntime L doc prior).2 }
    else none

def machine : Machine Dispatcher (Event Config) := ⟨fresh, step L⟩

/-- What the worker threads and `handle_RPC` start from. -/
def rpcServer (d : Dispatcher) : RpcServer :=
  .start (d.services.entries.map fun entry =>
    (entry.1, entry.2.conf.execThreadNumber.toNatClampNeg))

def Event.isInit : Event Config → Bool
  | .init => true
  | _ => false

/-- The executor an event puts behind the id, before `init`. -/
def Event.installs (id : UInt16) : Event Config → Option PoolExecutor
  | .registerService id' service initThreads addTimer =>
    if id' = id then
      (PoolExecutor.init service initThreads addTimer).bind fun res =>
        if res.1 then some res.2 else none
    else none
  | _ => none

def Event.update (id : UInt16) : Event Config → Option (Config × ExecutorConf)
  | .moduleRuntime doc prior => some (doc, prior id)
  | _ => none

/-- The last executor registered for the id before `init`. -/
def installed (es : List (Event Config)) (id : UInt16) : Option PoolExecutor :=
  (es.takeWhile fun e => !e.isInit).reverse.findSome? (Event.installs id)

def updatesOf (es : List (Event Config)) (id : UInt16) : List (Config × ExecutorConf) :=
  es.filterMap (Event.update id)

structure Records (es : List (Event Config)) (d : Dispatcher) : Prop where
  initialized : d.initialized = es.any Event.isInit
  updates : d.initialized = false → ∀ id, updatesOf es id = []
  find : ∀ id, d.services.find id =
    (installed es id).map fun ex => ex.updates L (updatesOf es id)
  started : d.initialized = true → d.started = d.services.entries.map Prod.fst

section Records

variable {L} {es : List (Event Config)} {d d' : Dispatcher} {id : UInt16}

lemma installed_append (es : List (Event Config)) (e : Event Config) (id : UInt16) :
    installed (es ++ [e]) id =
      if es.any Event.isInit then installed es id else (e.installs id).or (installed es id) := by
  rw [installed, installed, List.takeWhile_append]
  by_cases hinit : es.any Event.isInit = true
  · rw [if_pos hinit, if_neg fun hlen => ?_]
    have hall := List.takeWhile_eq_self_iff.mp ((List.takeWhile_sublist _).eq_of_length hlen)
    obtain ⟨x, hx, hxi⟩ := List.any_eq_true.mp hinit
    simpa [hxi] using hall x hx
  · have hself : es.takeWhile (fun e => !e.isInit) = es :=
      List.takeWhile_eq_self_iff.mpr (by simpa using hinit)
    rw [if_neg hinit, hself, if_pos rfl]
    cases he : e.isInit with
    | true =>
      have hnone : e.installs id = none := by
        cases e <;> first | rfl | cases he
      rw [List.takeWhile_cons_of_neg (by simp [he]), List.append_nil, hnone, Option.none_or]
    | false =>
      rw [List.takeWhile_cons_of_pos (by simp [he]), List.takeWhile_nil, List.reverse_append,
        List.reverse_singleton, List.singleton_append, List.findSome?_cons]
      cases e.installs id <;> rfl

lemma updatesOf_append (es : List (Event Config)) (e : Event Config) (id : UInt16) :
    updatesOf (es ++ [e]) id = updatesOf es id ++ (e.update id).toList := by
  rw [updatesOf, updatesOf, List.filterMap_append]
  cases e <;> rfl

lemma fresh_records (L : Libconfig Config Setting) : Records L [] fresh :=
  ⟨rfl, fun _ _ => rfl, fun _ => rfl, fun h => by cases h⟩

lemma Records.registerService (h : Records L es d) {service : XtraTaskService}
    {initThreads addTimer : Bool}
    (hs : d.registerService id service initThreads addTimer = some d') :
    Records L (es ++ [.registerService id service initThreads addTimer]) d' := by
  have hany : (es ++ [Event.registerService id service initThreads addTimer]).any
      Event.isInit = es.any Event.isInit := by
    simp [Event.isInit]
  have hupdates : ∀ k, updatesOf (es ++ [.registerService id service initThreads addTimer]) k =
      updatesOf es k := fun k => by simp [updatesOf_append, Event.update]
  unfold Dispatcher.registerService at hs
  by_cases hd : d.initialized = true
  · rw [if_pos hd] at hs
    obtain rfl := Option.some.inj hs
    refine ⟨hany ▸ h.initialized, fun hn => by simp [hd] at hn, fun k => ?_, h.started⟩
    rw [installed_append, if_pos (h.initialized ▸ hd), hupdates, h.find]
  · rw [if_neg hd] at hs
    have hnot : es.any Event.isInit = false := by simpa [← h.initialized] using hd
    obtain ⟨res, hres, rfl⟩ := Option.map_eq_some_iff.mp hs
    have hinstalls : ∀ k, Event.installs k
        (.registerService id service initThreads addTimer : Event Config) =
          if id = k ∧ res.1 = true then some res.2 else none := by
      intro k
      by_cases hk : id = k <;> simp [Event.installs, hres, hk]
    split_ifs with hok
    · refine ⟨hany ▸ h.initialized, fun hn k => hupdates k ▸ h.updates hn k, fun k => ?_, h.started⟩
      rw [installed_append, if_neg (by simp [hnot]), hinstalls, if_neg (by simp_all), hupdates,
        h.find, Option.none_or]
    · refine ⟨hany ▸ h.initialized, fun hn k => hupdates k ▸ h.updates hn k, fun k => ?_,
        fun hn => absurd hn hd⟩
      rw [installed_append, if_neg (by simp [hnot]), hinstalls, hupdates, ServiceTable.find_assign]
      have hempty := h.updates (by simpa using hd) k
      by_cases hk : id = k
      · rw [if_pos hk, if_pos ⟨hk, by simpa using hok⟩, hempty]
        rfl
      · rw [if_neg hk, if_neg (by simp [hk]), Option.none_or, h.find]

theorem Records.step {e : Event Config} (h : Records L es d) (hs : d.step L e = some d') :
    Records L (es ++ [e]) d' := by
  cases e with
  | registerService id service initThreads addTimer => exact h.registerService hs
  | init =>
    obtain rfl := Option.some.inj hs
    refine ⟨by simp [init, Event.isInit], fun hn => by simp [init] at hn, fun k => ?_, fun _ => rfl⟩
    have hfind : d.init.services.find k = _ := h.find k
    rw [hfind, installed_append, updatesOf_append]
    simp [Event.installs, Event.update]
  | moduleRuntime doc prior =>
    simp only [Dispatcher.step] at hs
    split_ifs at hs with hd
    obtain rfl := Option.some.inj hs
    have hinit : es.any Event.isInit = true := h.initialized ▸ hd
    refine ⟨?_, fun hn => by simp [hd] at hn, fun k => ?_, fun _ => ?_⟩
    · simp [h.initialized, Event.isInit]
    · rw [installed_append, if_pos hinit, ServiceTable.find_moduleRuntime, h.find, Option.map_map]
      congr 1
      funext ex
      simp [updatesOf_append, Event.update, PoolExecutor.updates_append]
    · simp [h.started hd, ServiceTable.moduleRuntime, Function.comp_def]

lemma records_of_run (h : (machine L).run es = some d) : Records L es d :=
  Machine.run_induction (M := machine L) (C := fun _ _ => True) (P := Records L)
    (fresh_records L) (fun _ _ _ _ _ hp _ hn => hp.step hn) h fun _ _ _ _ => trivial

lemma installed_inStep {ex : PoolExecutor} (h : installed es id = some ex) : ex.InStep := by
  obtain ⟨e, -, he⟩ := List.exists_of_findSome?_eq_some h
  cases e with
  | registerService id' service initThreads addTimer =>
    simp only [Event.installs] at he
    split_ifs at he
    obtain ⟨res, hres, hex⟩ := Option.bind_eq_some_iff.mp he
    split_ifs at hex
    obtain rfl := Option.some.inj hex
    exact PoolExecutor.init_inStep hres
  | _ => cases he

lemma rpcServer_services (d : Dispatcher) (id : UInt16) :
    d.rpcServer.services id = (d.services.find id).isSome := by
  rw [ServiceTable.find_isSome, rpcServer, RpcServer.start, RpcServer.services, List.map_map,
    List.any_map]
  rfl

/-- At any time of any run, the executor behind an id is the last one that was registered for
it before `init` and could be initialised, brought up to date by the updates since, and it
holds the settings of its service. Requests are handed on for these ids and no others, and
once `init` has run all these executors, and no others, have their threads started. -/
theorem executors_registered (h : (machine L).run es = some d) :
    (∀ id, d.services.find id = (installed es id).map fun ex => ex.updates L (updatesOf es id)) ∧
      (∀ id ex, d.services.find id = some ex → ex.InStep) ∧
      (∀ id, d.rpcServer.services id = (installed es id).isSome) ∧
      (d.initialized = true → ∀ id, id ∈ d.started ↔ (installed es id).isSome) := by
  have hrec := records_of_run h
  have hsome : ∀ id, (d.services.find id).isSome = (installed es id).isSome := fun id => by
    rw [hrec.find, Option.isSome_map]
  refine ⟨hrec.find, fun id ex hex => ?_, fun id => ?_, fun hinit id => ?_⟩
  · rw [hrec.find] at hex
    obtain ⟨ex₀, hex₀, rfl⟩ := Option.map_eq_some_iff.mp hex
    exact PoolExecutor.updates_inStep (installed_inStep hex₀) _
  · rw [rpcServer_services, hsome]
  · rw [hrec.started hinit, ← hsome, ServiceTable.find_isSome]
    simp

end Records

/-- A service is registered, again with other settings, and, too late, another one; then an
update arrives. -/
def twiceRegistered : List (Event (List (String × Tree))) :=
  [.registerService 1 ⟨"XtraTaskService", some ⟨1, 1, 0⟩⟩ true true,
    .registerService 2 ⟨"XtraTaskService2", some ⟨1, 5, 10⟩⟩ true false,
    .registerService 1 ⟨"XtraTaskService", some ⟨2, 5, 10⟩⟩ true true, .init,
    .registerService 3 ⟨"XtraTaskService3", some ⟨1, 1, 0⟩⟩ true true,
    .moduleRuntime
      [("rpc_services", .list [XtraTaskService.threadsEntry "XtraTaskService" 3 6 10])]
      fun _ => .zero]

theorem twiceRegistered_executors : ∃ d, (machine Tree.libconfig).run twiceRegistered = some d ∧
    d.services.entries = [(1, ⟨⟨"XtraTaskService", some ⟨3, 6, 10⟩⟩, ⟨3, 6, 10⟩, true⟩)] ∧
    (∀ id, d.services.find id = (installed twiceRegistered id).map fun ex =>
        ex.updates Tree.libconfig (updatesOf twiceRegistered id)) ∧
      (∀ id ex, d.services.find id = some ex → ex.InStep) ∧
      (∀ id, d.rpcServer.services id = (installed twiceRegistered id).isSome) ∧
      (d.initialized = true → ∀ id, id ∈ d.started ↔ (installed twiceRegistered id).isSome) := by
  have h : ((machine Tree.libconfig).run twiceRegistered).any (fun d => decide
      (d.services.entries = [(1, ⟨⟨"XtraTaskService", some ⟨3, 6, 10⟩⟩, ⟨3, 6, 10⟩, true⟩)])) := by
    decide +kernel
  obtain ⟨d, hd, he⟩ := (Option.any_eq_true _ _).mp h
  exact ⟨d, hd, of_decide_eq_true he, executors_registered hd⟩

end Dispatcher

end Tzrpc
