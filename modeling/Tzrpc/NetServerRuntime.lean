import Tzrpc.NetServer

/-!
# Runtime updates

`module_runtime` copies the settings of a freshly loaded `NetConf` one by one. Its list
leaves out three of the settings documented as dynamic, so that these keep the value they
had at start-up.
-/
namespace Tzrpc

/-- The settings the example configuration marks as dynamic. -/
structure DynamicSettings where
  safeIp : Finset Bytes
  sessionCancelTimeOut : Int32
  opsCancelTimeOut : Int32
  serviceEnabled : Bool
  serviceSpeed : Int32
  serviceConcurrency : Int32
  sendMaxMsgSize : Int32
  recvMaxMsgSize : Int32
  deriving DecidableEq

namespace NetConf

def dynamic (c : NetConf) : DynamicSettings where
  safeIp := c.safeIp
  sessionCancelTimeOut := c.sessionCancelTimeOut
  opsCancelTimeOut := c.opsCancelTimeOut
  serviceEnabled := c.serviceEnabled
  serviceSpeed := c.serviceSpeed
  serviceConcurrency := c.serviceConcurrency
  sendMaxMsgSize := c.sendMaxMsgSize
  recvMaxMsgSize := c.recvMaxMsgSize

lemma loadConf_dynamic {doc : NetworkDoc} {c : NetConf} (h : (c.loadConf doc).1 = true) :
    (c.loadConf doc).2.dynamic =
      { safeIp := if doc.safeIp.getD [] ≠ [] then parseSafeIp (doc.safeIp.getD []) else c.safeIp
        sessionCancelTimeOut := doc.sessionCancelTimeOut.getD c.sessionCancelTimeOut
        opsCancelTimeOut := doc.opsCancelTimeOut.getD c.opsCancelTimeOut
        serviceEnabled := doc.serviceEnable.getD c.serviceEnabled
        serviceSpeed := doc.serviceSpeed.getD c.serviceSpeed
        serviceConcurrency := doc.serviceConcurrency.getD c.serviceConcurrency
        sendMaxMsgSize := doc.sendMaxMsgSize.getD c.sendMaxMsgSize
        recvMaxMsgSize := doc.recvMaxMsgSize.getD c.recvMaxMsgSize } := by
  revert h
  unfold loadConf
  extract_lets c1 ips c2 c3 c4 c5 c6 c7 c8 c9
  have h2 : c2 = { c1 with safeIp := if ips ≠ [] then parseSafeIp ips else c1.safeIp } := by
    by_cases hips : ips = [] <;> simp only [c2, hips, ne_eq, not_true_eq_false, not_false_eq_true,
      ↓reduceIte]
  iterate 8
    apply loaded_of_check (P := fun d => d.dynamic = _)
    intro _
  intro _
  simp only [dynamic, c9, c8, c7, c6, c5, c4, c3, h2, c1, ips]

end NetConf

namespace NetServer

def updates (s : NetServer) (docs : List NetworkDoc) : NetServer :=
  docs.foldl (fun s doc => (s.moduleRuntime doc).2) s

/-- An update that returns 0 puts every dynamic setting in force, any other changes nothing. -/
def FullOrNone (s : NetServer) (doc : NetworkDoc) : Prop :=
  ((s.moduleRuntime doc).1 = 0 →
      (s.moduleRuntime doc).2.conf.dynamic = (NetConf.fresh.loadConf doc).2.dynamic) ∧
    ((s.moduleRuntime doc).1 ≠ 0 → (s.moduleRuntime doc).2 = s)

/-- The document, as loaded, repeats the three settings an update leaves out. -/
def Repeats (c : NetConf) (doc : NetworkDoc) : Prop :=
  doc.serviceEnable.getD NetConf.fresh.serviceEnabled = c.serviceEnabled ∧
    doc.sendMaxMsgSize.getD NetConf.fresh.sendMaxMsgSize = c.sendMaxMsgSize ∧
    doc.recvMaxMsgSize.getD NetConf.fresh.recvMaxMsgSize = c.recvMaxMsgSize

section Update

variable {s : NetServer} {doc : NetworkDoc}

lemma moduleRuntime_refused (h : (NetConf.fresh.loadConf doc).1 = false) :
    s.moduleRuntime doc = (-1, s) := by simp [moduleRuntime, h]

lemma moduleRuntime_loaded (h : (NetConf.fresh.loadConf doc).1 = true) :
    (s.moduleRuntime doc).1 = 0 ∧
      (s.moduleRuntime doc).2.conf.dynamic =
        { (NetConf.fresh.loadConf doc).2.dynamic with
          serviceEnabled := s.conf.serviceEnabled
          sendMaxMsgSize := s.conf.sendMaxMsgSize
          recvMaxMsgSize := s.conf.recvMaxMsgSize } := by
  unfold moduleRuntime
  simp only [h, Bool.not_true, Bool.false_eq_true, ↓reduceIte]
  split_ifs <;> exact ⟨trivial, rfl⟩

lemma moduleRuntime_repeats (s : NetServer) (doc d : NetworkDoc) :
    Repeats (s.moduleRuntime doc).2.conf d ↔ Repeats s.conf d := by
  cases h : (NetConf.fresh.loadConf doc).1 with
  | false => rw [moduleRuntime_refused h]
  | true =>
    have hd := (moduleRuntime_loaded (s := s) h).2
    have he := congrArg DynamicSettings.serviceEnabled hd
    have hs := congrArg DynamicSettings.sendMaxMsgSize hd
    have hr := congrArg DynamicSettings.recvMaxMsgSize hd
    simp only [NetConf.dynamic] at he hs hr
    simp only [Repeats, he, hs, hr]

lemma updates_repeats (s : NetServer) (docs : List NetworkDoc) (d : NetworkDoc) :
    Repeats (s.updates docs).conf d ↔ Repeats s.conf d := by
  induction docs generalizing s with
  | nil => exact Iff.rfl
  | cons doc docs ih =>
    rw [updates, List.foldl_cons]
    exact (ih _).trans (moduleRuntime_repeats s doc d)

lemma fullOrNone_iff (s : NetServer) (doc : NetworkDoc) :
    s.FullOrNone doc ↔ ((NetConf.fresh.loadConf doc).1 = true → Repeats s.conf doc) := by
  cases h : (NetConf.fresh.loadConf doc).1 with
  | false => simp [FullOrNone, moduleRuntime_refused h]
  | true =>
    obtain ⟨hret, hd⟩ := moduleRuntime_loaded (s := s) h
    have hl := NetConf.loadConf_dynamic h
    simp only [FullOrNone, hret, hd, hl, Repeats, DynamicSettings.mk.injEq, ne_eq,
      not_true_eq_false, false_implies, and_true, forall_const, true_and]
    exact ⟨fun ⟨he, hs, hr⟩ => ⟨he.symm, hs.symm, hr.symm⟩,
      fun ⟨he, hs, hr⟩ => ⟨he.symm, hs.symm, hr.symm⟩⟩

end Update

/-- In a sequence of updates each is full or none exactly when every document that loads
repeats the service switch and the two message limits the server started with. -/
theorem updates_fullOrNone_iff (s : NetServer) (docs : List NetworkDoc) :
    (∀ pre doc, pre ++ [doc] <+: docs → (s.updates pre).FullOrNone doc) ↔
      ∀ doc ∈ docs, (NetConf.fresh.loadConf doc).1 = true → Repeats s.conf doc := by
  constructor
  · intro h doc hdoc
    obtain ⟨pre, rest, rfl⟩ := List.append_of_mem hdoc
    have hfull := h pre doc ⟨rest, by simp⟩
    rw [fullOrNone_iff, updates_repeats] at hfull
    exact hfull
  · intro h pre doc hpre
    rw [fullOrNone_iff, updates_repeats]
    exact h doc (hpre.subset (by simp))

def disableDoc : NetworkDoc :=
  { bindAddr := some anyAddress, bindPort := some 8434, safeIp := none, backlogSize := none
    ioThreadPoolSize := none, opsCancelTimeOut := none, sessionCancelTimeOut := none
    serviceEnable := some false, serviceSpeed := none, serviceConcurrency := none
    sendMaxMsgSize := none, recvMaxMsgSize := some 64 }

/-- The update returns 0, and the server goes on accepting under its old limits. -/
theorem disableDoc_ignored :
    let s := (init { disableDoc with serviceEnable := none, recvMaxMsgSize := none }).2
    (s.moduleRuntime disableDoc).1 = 0 ∧
      (NetConf.fresh.loadConf disableDoc).2.serviceEnabled = false ∧
      (s.moduleRuntime disableDoc).2.conf.serviceEnabled = true ∧
      (NetConf.fresh.loadConf disableDoc).2.recvMaxMsgSize = 64 ∧
      (s.moduleRuntime disableDoc).2.conf.recvMaxMsgSize = 0 ∧
      ¬ s.FullOrNone disableDoc := by
  refine ⟨by decide +kernel, by decide +kernel, by decide +kernel, by decide +kernel,
    by decide +kernel, ?_⟩
  rw [fullOrNone_iff]
  intro h
  exact absurd (h (by decide +kernel)).1 (by decide +kernel)

end NetServer

end Tzrpc
