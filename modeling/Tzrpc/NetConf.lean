import Mathlib.Data.Finset.Dedup
import Mathlib.Data.Finset.Empty
import Mathlib.Tactic.Common
import Tzrpc.SteadyTimer
import Tzrpc.WordBytes

/-!
# Server settings

`NetConf` with its loader and its token bucket. A configuration document is taken as the
optional values `lookupValue` finds in it; a key that is missing or of another type leaves
the member as it was.
-/
namespace Tzrpc

/-- The keys of `rpc.network`. -/
structure NetworkDoc where
  bindAddr : Option Bytes
  bindPort : Option Int32
  safeIp : Option Bytes
  backlogSize : Option Int32
  ioThreadPoolSize : Option Int32
  opsCancelTimeOut : Option Int32
  sessionCancelTimeOut : Option Int32
  serviceEnable : Option Bool
  serviceSpeed : Option Int32
  serviceConcurrency : Option Int32
  sendMaxMsgSize : Option Int32
  recvMaxMsgSize : Option Int32
  deriving DecidableEq, Repr

/-- The text 0.0.0.0, the bind address of the documents below. -/
def anyAddress : Bytes := [0x30, 0x2e, 0x30, 0x2e, 0x30, 0x2e, 0x30]

structure NetConf where
  serviceEnabled : Bool
  serviceSpeed : Int32
  serviceToken : Int32
  serviceConcurrency : Int32
  sessionCancelTimeOut : Int32
  opsCancelTimeOut : Int32
  sendMaxMsgSize : Int32
  recvMaxMsgSize : Int32
  bindAddr : Bytes
  bindPort : Int32
  safeIp : Finset Bytes
  backlogSize : Int32
  ioThreadNumber : Int32
  /-- The waits are numbered in the order they were started. -/
  timedFeedToken : SteadyTimer ℕ
  deriving DecidableEq

namespace NetConf

def fresh : NetConf where
  serviceEnabled := true
  serviceSpeed := 0
  serviceToken := 0
  serviceConcurrency := 0
  sessionCancelTimeOut := 0
  opsCancelTimeOut := 0
  sendMaxMsgSize := 0
  recvMaxMsgSize := 0
  bindAddr := []
  bindPort := 0
  safeIp := ∅
  backlogSize := 10
  ioThreadNumber := 1
  timedFeedToken := SteadyTimer.empty

/-- `std::isspace` in the classic locale. -/
def isSpace (b : UInt8) : Bool := b = 0x20 || (9 ≤ b && b ≤ 13)

/-- `boost::trim_copy`. -/
def trimCopy (s : Bytes) : Bytes := ((s.dropWhile isSpace).reverse.dropWhile isSpace).reverse

/-- `boost::split` at semicolons. -/
def splitIps : Bytes → List Bytes
  | [] => [[]]
  | b :: bs =>
    if b = 0x3b then [] :: splitIps bs
    else
      match splitIps bs with
      | [] => [[b]]
      | part :: parts => (b :: part) :: parts

def parseSafeIp (ipList : Bytes) : Finset Bytes :=
  (((splitIps ipList).map trimCopy).filter (· ≠ [])).toFinset

/-- `load_conf`: the checks in the order of the source, each after the lookup it is about.
The members set before a failed check keep their new values. -/
def loadConf (doc : NetworkDoc) (c : NetConf) : Bool × NetConf :=
  let c := { c with
    bindAddr := doc.bindAddr.getD c.bindAddr, bindPort := doc.bindPort.getD c.bindPort }
  if c.bindAddr = [] ∨ c.bindPort ≤ 0 then (false, c)
  else
    let ipList := doc.safeIp.getD []
    let c := if ipList ≠ [] then { c with safeIp := parseSafeIp ipList } else c
    let c := { c with backlogSize := doc.backlogSize.getD c.backlogSize }
    if c.backlogSize < 0 then (false, c)
    else
      let c := { c with ioThreadNumber := doc.ioThreadPoolSize.getD c.ioThreadNumber }
      if c.ioThreadNumber < 0 then (false, c)
      else
        let c := { c with opsCancelTimeOut := doc.opsCancelTimeOut.getD c.opsCancelTimeOut }
        if c.opsCancelTimeOut < 0 then (false, c)
        else
          let c := { c with
            sessionCancelTimeOut := doc.sessionCancelTimeOut.getD c.sessionCancelTimeOut }
          if c.sessionCancelTimeOut < 0 then (false, c)
          else
            let c := { c with
              serviceEnabled := doc.serviceEnable.getD c.serviceEnabled
              serviceSpeed := doc.serviceSpeed.getD c.serviceSpeed }
            if c.serviceSpeed < 0 then (false, c)
            else
              let c := { c with
                serviceConcurrency := doc.serviceConcurrency.getD c.serviceConcurrency }
              if c.serviceConcurrency < 0 then (false, c)
              else
                let c := { c with
                  sendMaxMsgSize := doc.sendMaxMsgSize.getD c.sendMaxMsgSize
                  recvMaxMsgSize := doc.recvMaxMsgSize.getD c.recvMaxMsgSize }
                if (c.sendMaxMsgSize ≠ 0 ∧ c.sendMaxMsgSize ≤ 32) ∨
                    (c.recvMaxMsgSize ≠ 0 ∧ c.recvMaxMsgSize ≤ 32) then (false, c)
                else (true, c)

def checkSafeIp (c : NetConf) (ip : Bytes) : Bool := c.safeIp = ∅ || ip ∈ c.safeIp

def getServiceToken (c : NetConf) : Bool × NetConf :=
  if !c.serviceEnabled then (false, c)
  else if c.serviceSpeed = 0 then (true, c)
  else if c.serviceToken ≤ 0 then (false, c)
  else (true, { c with serviceToken := c.serviceToken - 1 })

def feedServiceToken (c : NetConf) : NetConf := { c with serviceToken := c.serviceSpeed }

/-- `expires_from_now(seconds(1))` and `async_wait` of the feed handler. -/
def startFeedWait (c : NetConf) (wait : ℕ) : NetConf :=
  { c with timedFeedToken := c.timedFeedToken.expiresFromNow.asyncWait wait }

/-- `timed_feed_token_handler`, which does not look at the code it is given. `wait` numbers
the wait it may start; the flag tells whether it did. -/
def timedFeedTokenHandler (c : NetConf) (_ec : WaitCode) (wait : ℕ) : Bool × NetConf :=
  if c.serviceSpeed = 0 then (false, { c with timedFeedToken := c.timedFeedToken.destroy })
  else (true, c.feedServiceToken.startFeedWait wait)

lemma loaded_of_check {p : Prop} [Decidable p] {c : NetConf} {r : Bool × NetConf}
    {P : NetConf → Prop} (h : ¬ p → r.1 = true → P r.2) :
    (if p then (false, c) else r).1 = true → P (if p then (false, c) else r).2 := by
  split_ifs with hp
  · simp
  · exact h hp

lemma loadConf_sendMax {doc : NetworkDoc} {c : NetConf} (h : (c.loadConf doc).1 = true) :
    (c.loadConf doc).2.sendMaxMsgSize = 0 ∨ 32 < (c.loadConf doc).2.sendMaxMsgSize := by
  revert h
  unfold loadConf
  extract_lets c1 ips c2 c3 c4 c5 c6 c7 c8 c9
  iterate 7
    apply loaded_of_check (P := fun d => d.sendMaxMsgSize = 0 ∨ 32 < d.sendMaxMsgSize)
    intro _
  apply loaded_of_check (P := fun d => d.sendMaxMsgSize = 0 ∨ 32 < d.sendMaxMsgSize)
  intro hmax _
  simp only [not_or, not_and] at hmax
  by_cases h0 : c9.sendMaxMsgSize = 0
  · exact Or.inl h0
  · have hle := hmax.1 h0
    right
    grind

def SameSettings (c d : NetConf) : Prop :=
  { d with serviceToken := c.serviceToken, timedFeedToken := c.timedFeedToken } = c

def tokens (c : NetConf) : ℕ := c.serviceToken.toNatClampNeg

lemma toInt_sub_one {t : Int32} (h : ¬ t ≤ 0) : (t - 1).toInt = t.toInt - 1 := by
  have hp : 0 < t.toInt := by
    rw [Int32.le_iff_toInt_le] at h
    simpa using h
  have hlt := t.toInt_lt
  rw [Int32.toInt_sub, Int.bmod_eq_of_le] <;> simp <;> omega

lemma getServiceToken_tokens {c : NetConf} (h : c.serviceSpeed ≠ 0) :
    (if c.getServiceToken.1 then 1 else 0) + c.getServiceToken.2.tokens = c.tokens := by
  cases he : c.serviceEnabled with
  | false => simp [getServiceToken, he]
  | true =>
    by_cases ht : c.serviceToken ≤ 0
    · simp [getServiceToken, he, h, ht]
    · have hp : 0 < c.serviceToken.toInt := by
        rw [Int32.le_iff_toInt_le] at ht
        simpa using ht
      have hsub := toInt_sub_one ht
      simp only [getServiceToken, he, h, ht, Bool.not_true, Bool.false_eq_true, ↓reduceIte, tokens,
        Int32.toNatClampNeg, hsub]
      omega

end NetConf

end Tzrpc
