import Tzrpc.ClientConnAsyncLife
import Tzrpc.RpcClientAsyncConns

/-!
# Deadlines of asynchronous calls

The client with a clock. All calls share `rpc_call_timer_`: a call with a timeout cancels
the wait of whatever call armed it last, and its callback closes the connection that is in
`conn_async_` by then.
-/
namespace Tzrpc.Client

namespace RpcClientImpl

def conns (cl : RpcClientImpl) : List TcpConnAsync := cl.droppedAsync ++ cl.connAsync.toList

def IsOpen (cl : RpcClientImpl) (k : ℕ) : Prop := ∃ c ∈ cl.conns[k]?, c.net.connStat = .kWorking

instance (cl : RpcClientImpl) (k : ℕ) : Decidable (cl.IsOpen k) :=
  inferInstanceAs (Decidable (∃ c ∈ cl.conns[k]?, c.net.connStat = .kWorking))

def handed (cl : RpcClientImpl) : ℕ := (cl.conns.map fun c => c.recv.delivered.length).sum

def Shuts (cs ds : List TcpConnAsync) : Prop :=
  ∀ (k : ℕ) (c : TcpConnAsync), cs[k]? = some c →
    ∃ d, ds[k]? = some d ∧ (d.net.connStat = .kWorking → c.net.connStat = .kWorking)

section Conns

variable {cl cl' : RpcClientImpl} {e : Event} {cs ds : List TcpConnAsync} {c d : TcpConnAsync}

lemma Shuts.refl (cs : List TcpConnAsync) : Shuts cs cs := fun _ c h => ⟨c, h, id⟩

lemma Shuts.append (cs ds : List TcpConnAsync) : Shuts cs (cs ++ ds) := by
  intro k c h
  refine ⟨c, ?_, id⟩
  rw [List.getElem?_append_left (List.getElem?_eq_some_iff.mp h).1]
  exact h

lemma Shuts.set {i : ℕ} (h : cs[i]? = some c)
    (hd : d.net.connStat = .kWorking → c.net.connStat = .kWorking) : Shuts cs (cs.set i d) := by
  intro k b hk
  by_cases hi : i = k
  · subst hi
    obtain rfl := Option.some.inj (h.symm.trans hk)
    exact ⟨d, List.getElem?_set_self (List.getElem?_eq_some_iff.mp h).1, hd⟩
  · exact ⟨b, by rw [List.getElem?_set_ne hi, hk], id⟩

lemma Shuts.last (cs : List TcpConnAsync)
    (hd : d.net.connStat = .kWorking → c.net.connStat = .kWorking) :
    Shuts (cs ++ [c]) (cs ++ [d]) := by
  have hset : (cs ++ [c]).set cs.length d = cs ++ [d] := by simp
  rw [← hset]
  exact Shuts.set (by simp) hd

lemma conns_some (h : cl.connAsync = some c) : cl.conns = cl.droppedAsync ++ [c] := by
  rw [conns, h]
  rfl

lemma conns_none (h : cl.connAsync = none) : cl.conns = cl.droppedAsync := by
  rw [conns, h]
  exact List.append_nil _

lemma conns_congr (hconn : cl'.connAsync = cl.connAsync)
    (hdropped : cl'.droppedAsync = cl.droppedAsync) : cl'.conns = cl.conns := by
  rw [conns, conns, hconn, hdropped]

lemma SendsOn.conns {call : Call} (h : SendsOn cl e call c) (hserial : Serial cl) :
    cl.conns = cl.droppedAsync ++ [c] ∨ cl.conns = cl.droppedAsync := by
  cases h with
  | held serviceId opcode payload timeoutSec c conn => exact Or.inl (conns_some conn)
  | opened call hc async => exact Or.inr (conns_none (hserial.connect call hc async))

lemma startAsync_conns {call : Call} (hs : call.sync = false) :
    (cl.startAsync call c).conns =
      cl.droppedAsync ++ [(c.sendNetMessage cl.setting (requestMessage call)).2] := by
  cases h : (c.sendNetMessage cl.setting (requestMessage call)).1 with
  | true =>
    obtain ⟨-, hconn, hdropped, -⟩ := startAsync_accepts hs h
    rw [conns_some hconn, hdropped]
  | false =>
    obtain ⟨-, hconn, hdropped, -⟩ := startAsync_drops h
    rw [conns_none hconn, hdropped]

lemma AsyncEffect.shuts (h : AsyncEffect cl e cl') (hserial : Serial cl) :
    Shuts cl.conns cl'.conns := by
  cases h with
  | same he h =>
    rw [conns_congr h.conn h.dropped]
    exact Shuts.refl _
  | closed c he conn h =>
    rw [conns_some conn, conns_some h.conn, h.dropped]
    refine Shuts.last _ fun hw => ?_
    rw [show (TcpConnAsync.shutdownAndCloseSocket c).net = c.net.sockShutdownAndClose from rfl,
      NetConn.sockShutdownAndClose_connStat] at hw
    cases hw
  | completed c d ce he conn step h =>
    rw [conns_some conn, h, conns_some (c := d) rfl]
    exact Shuts.last _ fun hw => by_contra fun hn => TcpConnAsync.step_stopped hn step hw
  | droppedCompleted i c d ce he conn step h =>
    have hi := (List.getElem?_eq_some_iff.mp conn).1
    have hset : cl'.conns = cl.conns.set i d := by
      rw [h, RpcClientImpl.conns, RpcClientImpl.conns, List.set_append_left _ _ hi]
    rw [hset]
    refine Shuts.set (c := c) ?_ fun hw => by_contra fun hn => TcpConnAsync.step_stopped hn step hw
    rw [RpcClientImpl.conns, List.getElem?_append_left hi, conn]
  | sent call c sends n h =>
    have hnet := TcpConnAsync.sendNetMessage_net cl.setting c (requestMessage call)
    rw [h, startAsync_conns sends.async]
    rcases sends.conns hserial with hc | hc
    · rw [hc]
      exact Shuts.last _ fun hw => (congrArg NetConn.connStat hnet) ▸ hw
    · rw [hc]
      exact Shuts.append _ _

lemma Shuts.isOpen (h : Shuts cl.conns cl'.conns) {k : ℕ} (hk : k < cl.conns.length)
    (ho : cl'.IsOpen k) : cl.IsOpen k := by
  obtain ⟨d, hd, hw⟩ := ho
  obtain ⟨d', hd', hopen⟩ := h k _ (List.getElem?_eq_getElem hk)
  obtain rfl := Option.some.inj (hd'.symm.trans hd)
  exact ⟨_, List.getElem?_eq_getElem hk, hopen hw⟩

lemma Shuts.lt_length (h : Shuts cs ds) {k : ℕ} (hk : k < cs.length) : k < ds.length := by
  obtain ⟨d, hd, -⟩ := h k _ (List.getElem?_eq_getElem hk)
  exact (List.getElem?_eq_some_iff.mp hd).1

lemma rpcCallTimeout_closes_async {w : CallWait} (hw : w.sync = false) :
    ¬ (cl.rpcCallTimeout w .success).IsOpen cl.droppedAsync.length := by
  rintro ⟨d, hd, hwork⟩
  simp only [rpcCallTimeout, hw, Bool.false_eq_true, ↓reduceIte] at hd
  cases hc : cl.connAsync with
  | none => simp [conns, hc] at hd
  | some c =>
    simp only [conns, hc, Option.toList_some, List.getElem?_concat_length, Option.mem_def,
      Option.some.injEq] at hd
    subst hd
    exact absurd hwork (by simp [TcpConnAsync.shutdownAndCloseSocket])

end Conns

instance (cl : RpcClientImpl) : DecidablePred cl.Holds
  | true => inferInstanceAs (Decidable (_ = true))
  | false => inferInstanceAs (Decidable (_ = true))

def begun (cl : RpcClientImpl) : Event → Option Call
  | .callRPC sync serviceId opcode payload timeoutSec =>
    if cl.Holds sync then some ⟨cl.calls, sync, serviceId, opcode, payload, timeoutSec⟩ else none
  | .connected =>
    match cl.calling with
    | some (call, .connect) => some call
    | _ => none
  | _ => none

inductive TimerEffect (cl : RpcClientImpl) (e : Event) (cl' : RpcClientImpl) : Prop
  | same (timer : cl'.rpcCallTimer = cl.rpcCallTimer)
  | begins (call : Call) (h : cl.begun e = some call)
    (timer : cl'.rpcCallTimer = (cl.setRpcCallTimeout call).rpcCallTimer)
  | expired (he : e = .timerExpire) (timer : cl'.rpcCallTimer = cl.rpcCallTimer.expire)
  | handled (i : ℕ) (w : Completion CallWait) (he : e = .timerHandler i)
    (timer : cl.rpcCallTimer.take i = some (w, cl'.rpcCallTimer))

section Timer

variable {cl cl' : RpcClientImpl} {e : Event} {call : Call} {w : CallWait}

lemma setRpcCallTimeout_timer (h : cl'.rpcCallTimer = cl.rpcCallTimer) :
    (cl'.setRpcCallTimeout call).rpcCallTimer = (cl.setRpcCallTimeout call).rpcCallTimer := by
  unfold setRpcCallTimeout
  rw [h]
  split_ifs <;> first | exact h | rfl

lemma setRpcCallTimeout_arms (h : call.timeoutSec ≠ 0) :
    (cl.setRpcCallTimeout call).rpcCallTimer.Live (waitOf call) := by
  refine Or.inl ?_
  unfold setRpcCallTimeout
  rw [if_neg h]
  split_ifs with ho
  · rw [SteadyTimer.pending_asyncWait (by simpa [SteadyTimer.expiresFromNow] using ho)]
    simp [waitOf]
  · rw [SteadyTimer.pending_asyncWait (by simp [SteadyTimer.expiresFromNow])]
    simp [waitOf]

lemma setRpcCallTimeout_keeps (h : cl.rpcCallTimer.Live w)
    (hp : call.timeoutSec ≠ 0 → w ∉ cl.rpcCallTimer.pending) :
    (cl.setRpcCallTimeout call).rpcCallTimer.Live w := by
  unfold setRpcCallTimeout
  split_ifs with h0 ho
  · exact h
  · exact Or.inr (by simpa [SteadyTimer.expiresFromNow] using h.resolve_left (hp h0))
  · exact Or.inr (by simpa [SteadyTimer.expiresFromNow] using h.resolve_left (hp h0))

lemma Begins.begun {cl₁ : RpcClientImpl} (h : Begins cl e call cl₁) : cl.begun e = some call := by
  cases h with
  | held sync _ _ _ _ idle conn => exact if_pos conn
  | connected call hc => simp only [RpcClientImpl.begun, hc]

theorem step_timerEffect (h : cl.step e = some cl') : TimerEffect cl e cl' := by
  cases step_transition h with
  | connecting => exact .same rfl
  | startSync call sync begins hp =>
    obtain ⟨n, -, rfl⟩ := begins.same
    exact .begins call begins.begun (hp.same.1.trans (setRpcCallTimeout_timer rfl))
  | startAsync call c sync begins conn =>
    obtain ⟨n, -, rfl⟩ := begins.same
    exact .begins call begins.begun ((startAsync_same c).1.trans (setRpcCallTimeout_timer rfl))
  | connectFailed => exact .same rfl
  | wrote => exact .same rfl
  | proceeds call op hc hp => exact .same hp.same.1
  | timerExpire he => exact .expired he rfl
  | timerHandler i w u he hu =>
    have htimer := (@rpcCallTimeout_same { cl with rpcCallTimer := u } w.wait w.code).1
    exact .handled i w he (hu.trans (by rw [htimer]))
  | asyncConn => exact .same rfl
  | droppedConn => exact .same rfl

lemma exists_sendsOn (hb : cl.begun e = some call) (hs : call.sync = false) :
    ∃ c, SendsOn cl e call c := by
  cases e with
  | callRPC sync serviceId opcode payload timeoutSec =>
    simp only [RpcClientImpl.begun] at hb
    split_ifs at hb with hh
    obtain rfl := Option.some.inj hb
    obtain rfl : sync = false := hs
    obtain ⟨c, hc⟩ := Option.isSome_iff_exists.mp hh
    exact ⟨c, .held _ _ _ _ c hc⟩
  | connected =>
    simp only [RpcClientImpl.begun] at hb
    split at hb
    · rename_i call' hcall
      obtain rfl := Option.some.inj hb
      exact ⟨_, .opened _ hcall hs⟩
    · cases hb
  | _ => cases hb

/-- A live wait goes on to be live, unless a call cancels it while it is pending or its own
callback runs. -/
lemma step_keeps_live (h : cl.step e = some cl') (hw : cl.rpcCallTimer.Live w)
    (hcancel : ∀ call, cl.begun e = some call → call.timeoutSec ≠ 0 →
      w ∉ cl.rpcCallTimer.pending) (hruns : ¬ RunsTimeout cl e w) : cl'.rpcCallTimer.Live w := by
  cases step_timerEffect h with
  | same timer =>
    rw [timer]
    exact hw
  | begins call hbegun timer =>
    rw [timer]
    exact setRpcCallTimeout_keeps hw (hcancel call hbegun)
  | expired he timer =>
    rw [timer]
    exact hw.expire
  | handled i c he timer =>
    refine hw.of_take timer fun hc => hruns ⟨i, he, ?_⟩
    obtain ⟨d, hd, hdu⟩ := Option.map_eq_some_iff.mp timer
    rw [hd, ← hc, (Prod.mk.inj hdu).1]

end Timer

end RpcClientImpl

/-- An asynchronous call with a timeout that was accepted on the `conn`th connection and is
not answered. -/
structure TimedCall where
  call : ℕ
  conn : ℕ
  deadline : ℕ
  deriving DecidableEq, Repr

/-- The client at the time `now`, with the deadline of every wait that was ever armed, by the
call that armed it. -/
structure Timed where
  client : RpcClientImpl
  now : ℕ
  armed : List (ℕ × ℕ)
  calls : List TimedCall
  deriving DecidableEq, Repr

namespace Timed

open RpcClientImpl

def start (setting : ClientSetting) : Timed := ⟨.fresh setting, 0, [], []⟩

/-- Time passes, or the client takes a step, in which the messages it is handed answer some
calls. -/
inductive Event
  | tick (n : ℕ)
  | client (e : RpcClientImpl.Event) (answers : List ℕ)
  deriving DecidableEq, Repr

/-- The calls with a timeout that start with this event. They are made when they have their
connection, where `time_start_` is set. -/
def begun (s : Timed) (e : RpcClientImpl.Event) : List Call :=
  (s.client.begun e).toList.filter fun call => decide (call.timeoutSec ≠ 0)

def deadline (s : Timed) (call : Call) : ℕ := s.now + call.timeoutSec.toNat

/-- Accepted calls leave `conn_async_` in place; a refused one resets it. -/
def accepted (s : Timed) (e : RpcClientImpl.Event) (cl' : RpcClientImpl) : List TimedCall :=
  ((s.begun e).filter fun call => !call.sync && cl'.connAsync.isSome).map fun call =>
    ⟨call.id, cl'.droppedAsync.length, s.deadline call⟩

def after (s : Timed) (e : RpcClientImpl.Event) (answers : List ℕ) (cl' : RpcClientImpl) :
    Timed where
  client := cl'
  now := s.now
  armed := s.armed ++ (s.begun e).map fun call => (call.id, s.deadline call)
  calls := s.calls.filter (fun d => decide (d.call ∉ answers)) ++ s.accepted e cl'

def Due (s : Timed) : Prop :=
  ∀ w ∈ s.client.rpcCallTimer.pending, ∀ a ∈ s.armed, a.1 = w.call → a.2 ≤ s.now

instance : DecidablePred Due := fun s =>
  inferInstanceAs (Decidable (∀ w ∈ s.client.rpcCallTimer.pending, ∀ a ∈ s.armed, _))

/-- The timer does not expire early, and each message answers one call at most. -/
def step (s : Timed) : Event → Option Timed
  | .tick n => some { s with now := s.now + n }
  | .client e answers =>
    if e = .timerExpire ∧ ¬ s.Due then none
    else (s.client.step e).bind fun cl' =>
      if answers.length ≤ cl'.handed - s.client.handed then some (s.after e answers cl') else none

def machine (setting : ClientSetting) : Machine Timed Event := ⟨start setting, step⟩

/-- The callback of `w` is still to run, and it was armed for the deadline of `d` or sooner. -/
def Covers (s : Timed) (d : TimedCall) (w : CallWait) : Prop :=
  s.client.rpcCallTimer.Live w ∧ ∃ t, (w.call, t) ∈ s.armed ∧ t ≤ d.deadline

/-- Every unanswered call with an open connection is waited for. -/
def Waited (s : Timed) : Prop :=
  ∀ d ∈ s.calls, s.client.IsOpen d.conn → ∃ w, s.Covers d w

lemma exists_covers_iff {s : Timed} {d : TimedCall} : (∃ w, s.Covers d w) ↔
    ∃ a ∈ s.armed, a.2 ≤ d.deadline ∧ ((∃ w ∈ s.client.rpcCallTimer.pending, w.call = a.1) ∨
      ∃ c ∈ s.client.rpcCallTimer.queued, c.code = .success ∧ c.wait.call = a.1) := by
  constructor
  · rintro ⟨w, hw, t, harmed, hle⟩
    refine ⟨(w.call, t), harmed, hle, hw.imp (fun hw => ⟨w, hw, rfl⟩) fun hw => ?_⟩
    exact ⟨⟨w, .success⟩, hw, rfl, rfl⟩
  · rintro ⟨⟨call, t⟩, harmed, hle, ⟨w, hw, rfl⟩ | ⟨⟨w, code⟩, hw, rfl, rfl⟩⟩
    · exact ⟨w, Or.inl hw, t, harmed, hle⟩
    · exact ⟨w, Or.inr hw, t, harmed, hle⟩

instance (s : Timed) (d : TimedCall) : Decidable (∃ w, s.Covers d w) :=
  decidable_of_iff' _ exists_covers_iff

def Keeps (s t : Timed) : Prop :=
  ∀ d ∈ s.calls, s.client.IsOpen d.conn → ∃ w, s.Covers d w ∧ t.Covers d w

/-- A call with a timeout starts while the pending wait is that of an unanswered call with an
open connection. -/
def CancelsOpen (s : Timed) (e : RpcClientImpl.Event) : Prop :=
  s.begun e ≠ [] ∧ ∃ w ∈ s.client.rpcCallTimer.pending, ∃ d ∈ s.calls,
    w.call = d.call ∧ s.client.IsOpen d.conn

instance (s : Timed) : DecidablePred s.CancelsOpen := fun e =>
  inferInstanceAs (Decidable (s.begun e ≠ [] ∧ ∃ w ∈ s.client.rpcCallTimer.pending, ∃ d ∈ s.calls,
    w.call = d.call ∧ s.client.IsOpen d.conn))

/-- The timeout of an unanswered call runs when its connection is open but no longer the one
in `conn_async_`. -/
def MissesOpen (s : Timed) (e : RpcClientImpl.Event) : Prop :=
  ∃ w, RunsTimeout s.client e w ∧ ∃ d ∈ s.calls, w.call = d.call ∧ s.client.IsOpen d.conn ∧
    d.conn ≠ s.client.droppedAsync.length

/-- Every unanswered call with an open connection has its own wait. -/
structure OwnWaits (s : Timed) : Prop where
  serial : Serial s.client
  conn : ∀ d ∈ s.calls, d.conn < s.client.conns.length
  own : ∀ d ∈ s.calls, s.client.IsOpen d.conn →
    ∃ w, s.client.rpcCallTimer.Live w ∧ w.call = d.call ∧ w.sync = false ∧
      (d.call, d.deadline) ∈ s.armed

section Deadlines

variable {setting : ClientSetting} {s t : Timed} {e : RpcClientImpl.Event} {answers : List ℕ}
  {es : List Event} {call : Call} {d : TimedCall}

lemma step_client (h : s.step (.client e answers) = some t) :
    ∃ cl', s.client.step e = some cl' ∧ t = s.after e answers cl' := by
  simp only [step] at h
  split_ifs at h
  obtain ⟨cl', hcl, h⟩ := Option.bind_eq_some_iff.mp h
  split_ifs at h
  exact ⟨cl', hcl, (Option.some.inj h).symm⟩

lemma mem_begun : call ∈ s.begun e ↔ s.client.begun e = some call ∧ call.timeoutSec ≠ 0 := by
  simp [begun]

lemma mem_accepted {cl' : RpcClientImpl} (h : d ∈ s.accepted e cl') :
    ∃ call, call ∈ s.begun e ∧ call.sync = false ∧ cl'.connAsync.isSome ∧
      d = ⟨call.id, cl'.droppedAsync.length, s.deadline call⟩ := by
  obtain ⟨call, hcall, rfl⟩ := List.mem_map.mp h
  obtain ⟨hcall, hs⟩ := List.mem_filter.mp hcall
  obtain ⟨hs, hconn⟩ := (Bool.and_eq_true _ _).mp hs
  exact ⟨call, hcall, by simpa using hs, hconn, rfl⟩

lemma OwnWaits.keeps {cl' : RpcClientImpl} (hs : OwnWaits s) (h : s.client.step e = some cl')
    (hcancel : ¬ s.CancelsOpen e) (hd : d ∈ s.calls) (hopen : s.client.IsOpen d.conn) :
    ∃ w, s.client.rpcCallTimer.Live w ∧ w.call = d.call ∧ w.sync = false ∧
      (d.call, d.deadline) ∈ s.armed ∧ (RunsTimeout s.client e w ∨ cl'.rpcCallTimer.Live w) := by
  obtain ⟨w, hw, hcall, hsync, harmed⟩ := hs.own d hd hopen
  refine ⟨w, hw, hcall, hsync, harmed, ?_⟩
  by_cases hruns : RunsTimeout s.client e w
  · exact Or.inl hruns
  · refine Or.inr (step_keeps_live h hw (fun call hc h0 hp => hcancel ?_) hruns)
    exact ⟨List.ne_nil_of_mem (mem_begun.mpr ⟨hc, h0⟩), w, hp, d, hd, hcall, hopen⟩

lemma OwnWaits.accepted {cl' : RpcClientImpl} (h : s.client.step e = some cl')
    (hd : d ∈ s.accepted e cl') :
    d.conn < cl'.conns.length ∧ ∃ w, cl'.rpcCallTimer.Live w ∧ w.call = d.call ∧ w.sync = false ∧
      (d.call, d.deadline) ∈ (s.after e answers cl').armed := by
  obtain ⟨call, hcall, hsync, hconn, rfl⟩ := mem_accepted hd
  obtain ⟨c, hc⟩ := Option.isSome_iff_exists.mp hconn
  obtain ⟨hbegun, h0⟩ := mem_begun.mp hcall
  refine ⟨by simp [conns, hc], waitOf call, ?_, rfl, hsync, ?_⟩
  · obtain ⟨c', hsends⟩ := exists_sendsOn hbegun hsync
    obtain ⟨n, rfl⟩ := hsends.step h
    rw [(startAsync_same c').1, setRpcCallTimeout_timer rfl]
    exact setRpcCallTimeout_arms h0
  · exact List.mem_append_right _ (List.mem_map_of_mem hcall)

lemma closes_of_runsTimeout {cl' : RpcClientImpl} {w : CallWait} (h : s.client.step e = some cl')
    (hruns : RunsTimeout s.client e w) (hsync : w.sync = false) :
    ¬ cl'.IsOpen s.client.droppedAsync.length := by
  obtain ⟨i, rfl, hi⟩ := hruns
  simp only [RpcClientImpl.step, SteadyTimer.take, hi, Option.map_some, Option.some.injEq] at h
  subst h
  exact rpcCallTimeout_closes_async hsync

lemma OwnWaits.client {cl' : RpcClientImpl} (hs : OwnWaits s) (h : s.client.step e = some cl')
    (hcancel : ¬ s.CancelsOpen e) (hmiss : ¬ s.MissesOpen e) :
    OwnWaits (s.after e answers cl') := by
  obtain ⟨heffect, hserial⟩ := step_asyncEffect hs.serial h
  have hshuts := heffect.shuts hs.serial
  refine ⟨hserial, fun d hd => ?_, fun d hd hopen => ?_⟩
  · rcases List.mem_append.mp hd with hd | hd
    · exact hshuts.lt_length (hs.conn d (List.mem_filter.mp hd).1)
    · exact (@OwnWaits.accepted s e answers d cl' h hd).1
  · rcases List.mem_append.mp hd with hd | hd
    · have hold := (List.mem_filter.mp hd).1
      have hwas := hshuts.isOpen (hs.conn d hold) hopen
      obtain ⟨w, -, hcall, hsync, harmed, hruns | hlive⟩ := hs.keeps h hcancel hold hwas
      · -- the callback closes the held connection, and the call is on no other
        by_cases hheld : d.conn = s.client.droppedAsync.length
        · exact absurd hopen (hheld ▸ closes_of_runsTimeout h hruns hsync)
        · exact absurd ⟨w, hruns, d, hold, hcall, hwas, hheld⟩ hmiss
      · exact ⟨w, hlive, hcall, hsync, List.mem_append_left _ harmed⟩
    · exact (@OwnWaits.accepted s e answers d cl' h hd).2

lemma ownWaits_start (setting : ClientSetting) : OwnWaits (start setting) :=
  ⟨serial_of_idle rfl, by simp [start], by simp [start]⟩

lemma OwnWaits.waited (hs : OwnWaits s) : s.Waited := by
  intro d hd hopen
  obtain ⟨w, hw, hcall, -, harmed⟩ := hs.own d hd hopen
  exact ⟨w, hw, d.deadline, hcall ▸ harmed, le_rfl⟩

/-- In a run in which no call with a timeout starts while the pending wait is an open call's,
and no timeout of an open call runs once its connection was reset, every unanswered call with
an open connection is waited for, and nothing but the callback itself takes its wait away. -/
theorem async_deadlines_kept
    (hcancel : ∀ s e a t, (machine setting).Takes es s (.client e a) t → ¬ s.CancelsOpen e)
    (hmiss : ∀ s e a t, (machine setting).Takes es s (.client e a) t → ¬ s.MissesOpen e) :
    (∀ s, (machine setting).Visits es s → s.Waited) ∧
      ∀ s e a t, (machine setting).Takes es s (.client e a) t →
        (∀ i, e ≠ .timerHandler i) → s.Keeps t := by
  have hinv : ∀ s, (machine setting).Visits es s → OwnWaits s := fun s hs => by
    refine Machine.visits_of_inductive (M := machine setting) (I := OwnWaits)
      (C := fun s e => ∀ ce a, e = .client ce a → ∀ t, s.step e = some t →
        ¬ s.CancelsOpen ce ∧ ¬ s.MissesOpen ce) (ownWaits_start setting) ?_ ?_ hs
    · intro s e t hs hc hn
      cases e with
      | tick n =>
        obtain rfl := Option.some.inj hn
        exact ⟨hs.serial, hs.conn, hs.own⟩
      | client e a =>
        obtain ⟨cl', hcl, rfl⟩ := step_client hn
        obtain ⟨h1, h2⟩ := hc e a rfl _ hn
        exact hs.client hcl h1 h2
    · rintro s e t ht ce a rfl u hu
      obtain ⟨-, -, -, hn⟩ := id ht
      exact ⟨hcancel s ce a t ht, hmiss s ce a t ht⟩
  refine ⟨fun s hs => (hinv s hs).waited, fun s e a t ht hne d hd hopen => ?_⟩
  obtain ⟨-, -, -, hn⟩ := id ht
  obtain ⟨cl', hcl, rfl⟩ := step_client hn
  obtain ⟨w, hw, hcall, -, harmed, ⟨i, he, -⟩ | hlive⟩ :=
    (hinv s ht.visits).keeps hcl (hcancel s e a _ ht) hd hopen
  · exact absurd he (hne i)
  · exact ⟨w, ⟨hw, d.deadline, hcall ▸ harmed, le_rfl⟩,
      hlive, d.deadline, List.mem_append_left _ (hcall ▸ harmed), le_rfl⟩

def turnsRun : List Event :=
  [.client (.callRPC false 1 1 [0] 5) [], .client .connected [], .tick 2,
    .client (.asyncConn (.readDone 0 (Message.ofPayload [7]).netStr)) [0],
    .client (.callRPC false 1 1 [0] 100) [], .tick 100, .client .timerExpire [],
    .client (.timerHandler 1) []]

theorem turnsRun_waited :
    ((machine ⟨0, 0⟩).run turnsRun).isSome ∧
      ∃ s d, (machine ⟨0, 0⟩).Visits turnsRun s ∧ d ∈ s.calls ∧ d.call = 1 ∧ d.deadline = 102 ∧
        s.client.IsOpen d.conn ∧ ∃ w, s.Covers d w := by
  have htrace : ∀ p ∈ (machine ⟨0, 0⟩).trace (machine ⟨0, 0⟩).start turnsRun,
      (∀ d ∈ p.1.calls, d.conn = p.1.client.droppedAsync.length) ∧
        ∀ e ∈ (match p.2.1 with | .client e _ => some e | .tick _ => none),
          ¬ p.1.CancelsOpen e := by
    decide +kernel
  have hmid : ((machine ⟨0, 0⟩).run (turnsRun.take 5)).any (fun s =>
      decide (∃ d ∈ s.calls, d.call = 1 ∧ d.deadline = 102 ∧ s.client.IsOpen d.conn)) := by
    decide +kernel
  obtain ⟨s, hs, hd⟩ := (Option.any_eq_true _ _).mp hmid
  obtain ⟨d, hmem, hcall, hdead, hopen⟩ := of_decide_eq_true hd
  have hv : (machine ⟨0, 0⟩).Visits turnsRun s := ⟨_, List.take_prefix _ _, hs⟩
  refine ⟨by decide +kernel, s, d, hv, hmem, hcall, hdead, hopen, ?_⟩
  refine (@async_deadlines_kept ⟨0, 0⟩ turnsRun ?_ ?_).1 s hv d hmem hopen
  · exact fun s e a t ht => (htrace _ ht.mem_trace).2 e rfl
  · rintro s e a t ht ⟨w, -, d, hd, -, -, hne⟩
    exact hne ((htrace _ ht.mem_trace).1 d hd)

/-- The second call, with the longer timeout, starts while the first is not answered. -/
def sharedRun : List Event :=
  [.client (.callRPC false 1 1 [0] 1) [], .client .connected [],
    .client (.callRPC false 1 1 [0] 100) []]

theorem sharedRun_unwaited :
    ∃ s t, (machine ⟨0, 0⟩).Takes sharedRun s (.client (.callRPC false 1 1 [0] 100) []) t ∧
      ¬ s.Keeps t ∧ ¬ t.Waited := by
  have hrun : ((machine ⟨0, 0⟩).run (sharedRun.take 2)).any (fun s =>
      (s.step (.client (.callRPC false 1 1 [0] 100) [])).any fun t =>
        decide (∃ d ∈ s.calls, s.client.IsOpen d.conn ∧ d ∈ t.calls ∧ t.client.IsOpen d.conn ∧
          ¬ ∃ w, t.Covers d w)) := by
    decide +kernel
  obtain ⟨s, hs, hd⟩ := (Option.any_eq_true _ _).mp hrun
  obtain ⟨t, ht, hd⟩ := (Option.any_eq_true _ _).mp hd
  obtain ⟨d, hmem, hopen, hmem', hopen', hnone⟩ := of_decide_eq_true hd
  refine ⟨s, t, Machine.takes_last hs ht, fun hk => ?_, fun hw => hnone (hw d hmem' hopen')⟩
  obtain ⟨w, -, hw⟩ := hk d hmem hopen
  exact hnone ⟨w, hw⟩

end Deadlines

end Timed

end Tzrpc.Client
