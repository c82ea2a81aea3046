import Tzrpc.RpcClientDeadline

/-!
# Connections the client lets go

A request that cannot be sent resets `conn_async_`. The connection behind it lives on in the
handler of its outstanding read, and nothing closes its socket unless it was closed before.
-/
namespace Tzrpc.Client

namespace TcpConnAsync

def KeptAlive (c : TcpConnAsync) : Prop := c.recv.reads ≠ [] ∨ c.send.writes ≠ []

/-- A reset connection whose socket is open. -/
def Leaked (c : TcpConnAsync) : Prop := c.KeptAlive ∧ c.net.connStat ≠ .kClosed

instance (c : TcpConnAsync) : Decidable c.Leaked :=
  inferInstanceAs (Decidable ((_ ∨ _) ∧ _))

section Connection

variable {c : TcpConnAsync}

lemma ReadsOrClosed.leaked_iff (h : c.ReadsOrClosed) : c.Leaked ↔ c.net.connStat = .kWorking := by
  constructor
  · rintro ⟨-, hopen⟩
    exact (h.resolve_left hopen).1
  · intro hw
    have hopen : c.net.connStat ≠ .kClosed := by simp [hw]
    exact ⟨Or.inl (h.resolve_left hopen).2, hopen⟩

end Connection

end TcpConnAsync

namespace RpcClientImpl

/-- Every connection the client has made is closed, or it reads while it works. -/
structure Kept (setting : ClientSetting) (cl : RpcClientImpl) : Prop where
  serial : Serial cl
  setting_eq : cl.setting = setting
  conns : ∀ c ∈ cl.conns, c.ReadsOrClosed

section Steps

variable {setting : ClientSetting} {cl cl' : RpcClientImpl} {e : Event} {call : Call}
  {c : TcpConnAsync}

lemma Kept.sendsOn (h : Kept setting cl) (hs : SendsOn cl e call c) : c.ReadsOrClosed := by
  cases hs with
  | held _ _ _ _ c conn => exact h.conns c (by simp [conns_some conn])
  | opened => exact TcpConnAsync.started_readsOrClosed _

lemma sendNetMessage_readsOrClosed (h : c.ReadsOrClosed) (msg : Message) :
    (c.sendNetMessage setting msg).2.ReadsOrClosed :=
  h.of_net (TcpConnAsync.sendNetMessage_net _ _ _)
    (congrArg RecvSide.reads (TcpConnAsync.sendNetMessage_recv _ _ _))

lemma Kept.step (h : Kept setting cl) (hs : cl.step e = some cl') : Kept setting cl' := by
  obtain ⟨heff, hserial⟩ := step_asyncEffect h.serial hs
  refine ⟨hserial, heff.setting_eq.trans h.setting_eq, ?_⟩
  cases heff with
  | same he hsame =>
    rw [conns_congr hsame.conn hsame.dropped]
    exact h.conns
  | closed c he conn hsame =>
    have hconns : cl'.conns = cl.droppedAsync ++ [c.shutdownAndCloseSocket] := by
      rw [conns_some hsame.conn, hsame.dropped]
    intro d hd
    rw [hconns, List.mem_append, List.mem_singleton] at hd
    rcases hd with hd | rfl
    · exact h.conns d (by simp [RpcClientImpl.conns, hd])
    · exact Or.inl (NetConn.sockShutdownAndClose_connStat _)
  | completed c d ce he conn hstep heq =>
    have hconns : cl'.conns = cl.droppedAsync ++ [d] := by rw [heq, conns_some rfl]
    intro f hf
    rw [hconns, List.mem_append, List.mem_singleton] at hf
    rcases hf with hf | rfl
    · exact h.conns f (by simp [RpcClientImpl.conns, hf])
    · exact (h.conns c (by simp [conns_some conn])).step hstep
  | droppedCompleted i c d ce he conn hstep heq =>
    intro f hf
    rw [heq, RpcClientImpl.conns, List.mem_append] at hf
    rcases hf with hf | hf
    · rcases List.mem_or_eq_of_mem_set hf with hf | rfl
      · exact h.conns f (by simp [RpcClientImpl.conns, hf])
      · have hc := List.mem_of_getElem? conn
        exact (h.conns c (by simp [RpcClientImpl.conns, hc])).step hstep
    · exact h.conns f (by rw [RpcClientImpl.conns]; exact List.mem_append_right _ hf)
  | sent call c sends n heq =>
    have hconns := @startAsync_conns { cl with calls := n } c call sends.async
    intro d hd
    rw [heq, hconns, List.mem_append, List.mem_singleton] at hd
    rcases hd with hd | rfl
    · exact h.conns d (by simp [RpcClientImpl.conns, hd])
    · exact sendNetMessage_readsOrClosed (h.sendsOn sends) _

lemma fresh_kept (setting : ClientSetting) : Kept setting (fresh setting) :=
  ⟨serial_of_idle rfl, rfl, by simp [RpcClientImpl.conns, fresh]⟩

/-- Of all the connections the client has made only the one in `conn_async_` may be open. -/
def NoneLeaked (cl : RpcClientImpl) : Prop := ∀ c ∈ cl.droppedAsync, ¬ c.Leaked

def FitsLimit (setting : ClientSetting) (cl : RpcClientImpl) (e : Event) : Prop :=
  ∀ call c, SendsOn cl e call c → c.net.connStat = .kWorking →
    TcpConnAsync.refusesSize setting (requestMessage call) = false

lemma NoneLeaked.step (hn : NoneLeaked cl) (hk : Kept setting cl) (hfits : FitsLimit setting cl e)
    (hs : cl.step e = some cl') : NoneLeaked cl' := by
  cases (step_asyncEffect hk.serial hs).1 with
  | same he hsame =>
    rw [NoneLeaked, hsame.dropped]
    exact hn
  | closed c he conn hsame =>
    rw [NoneLeaked, hsame.dropped]
    exact hn
  | completed c d ce he conn hstep heq =>
    rw [heq]
    exact hn
  | droppedCompleted i c d ce he conn hstep heq =>
    intro f hf
    rw [heq] at hf
    rcases List.mem_or_eq_of_mem_set hf with hf | rfl
    · exact hn f hf
    · have hc := List.mem_of_getElem? conn
      have hreads := hk.conns c (by simp [RpcClientImpl.conns, hc])
      rw [(hreads.step hstep).leaked_iff]
      have hstopped : c.net.connStat ≠ .kWorking := fun hw => hn c hc (hreads.leaked_iff.mpr hw)
      exact TcpConnAsync.step_stopped hstopped hstep
  | sent call c sends n heq =>
    have hreads := hk.sendsOn sends
    cases hres : (c.sendNetMessage cl.setting (requestMessage call)).1 with
    | true =>
      obtain ⟨-, -, hdropped, -⟩ := @startAsync_accepts { cl with calls := n } call c
        sends.async hres
      rw [heq, NoneLeaked, hdropped]
      exact hn
    | false =>
      obtain ⟨-, -, hdropped, -⟩ := @startAsync_drops { cl with calls := n } call c hres
      intro d hd
      rw [heq, hdropped, List.mem_append, List.mem_singleton] at hd
      rcases hd with hd | rfl
      · exact hn d hd
      · rw [(sendNetMessage_readsOrClosed hreads _).leaked_iff, TcpConnAsync.sendNetMessage_net]
        intro hw
        have haccepts := TcpConnAsync.sendNetMessage_accepts.mpr
          ⟨hk.setting_eq ▸ hfits call c sends hw, Or.inr hw⟩
        rw [haccepts] at hres
        cases hres

lemma leaked_of_oversize (hk : Kept setting cl) (hs : cl.step e = some cl')
    (hsends : SendsOn cl e call c) (hw : c.net.connStat = .kWorking)
    (hsize : TcpConnAsync.refusesSize setting (requestMessage call) = true) :
    ∃ d ∈ cl'.droppedAsync, d.Leaked := by
  obtain ⟨n, rfl⟩ := hsends.step hs
  have hsend : c.sendNetMessage cl.setting (requestMessage call) = (false, c) := by
    rw [TcpConnAsync.sendNetMessage, hk.setting_eq, if_pos hsize]
  have hres : (c.sendNetMessage cl.setting (requestMessage call)).1 = false := by rw [hsend]
  obtain ⟨-, -, hdropped, -⟩ := @startAsync_drops { cl with calls := n } call c hres
  refine ⟨c, ?_, (hk.sendsOn hsends).leaked_iff.mpr hw⟩
  rw [hdropped, hsend]
  simp

end Steps

/-- A run leaks no open connection exactly when every call that sends on a working connection
has a request within the send limit. -/
theorem noneLeaked_iff_fits (setting : ClientSetting) (es : List Event) :
    (∀ cl, (machine setting).Visits es cl → NoneLeaked cl) ↔
      ∀ cl e cl', (machine setting).Takes es cl e cl' → FitsLimit setting cl e := by
  have hkept : ∀ cl, (machine setting).Visits es cl → Kept setting cl := fun cl hcl =>
    Machine.visits_of_inductive (M := machine setting) (C := fun _ _ => True)
      (fresh_kept setting) (fun _ _ _ hk _ hn => hk.step hn) (fun _ _ _ _ => trivial) hcl
  constructor
  · intro h cl e cl' ht call c hsends hw
    cases hsize : TcpConnAsync.refusesSize setting (requestMessage call) with
    | false => rfl
    | true =>
      obtain ⟨-, -, -, hn⟩ := id ht
      obtain ⟨d, hd, hleak⟩ := leaked_of_oversize (hkept cl ht.visits) hn hsends hw hsize
      exact absurd hleak (h cl' ht.visits_next d hd)
  · intro h cl hcl
    have hinv : Kept setting cl ∧ NoneLeaked cl :=
      Machine.visits_of_inductive (M := machine setting)
        (I := fun s => Kept setting s ∧ NoneLeaked s)
        ⟨fresh_kept setting, fun c hc => by simp [machine, fresh] at hc⟩
        (fun s e t hi hc hn => ⟨hi.1.step hn, hi.2.step hi.1 hc hn⟩) h hcl
    exact hinv.2

def oversizeCalls : List Event :=
  [.callRPC false 1 1 [] 0, .connected, .callRPC false 1 1 (List.replicate 64 0) 0]

/-- The limit refuses the second request, and its connection reads on unowned. -/
theorem oversizeCalls_leak :
    ¬ ∀ cl, (machine ⟨64, 0⟩).Visits oversizeCalls cl → NoneLeaked cl := by
  have hrun : ((machine ⟨64, 0⟩).run oversizeCalls).any (fun cl =>
      decide (cl.connAsync = none ∧ ∃ c ∈ cl.droppedAsync, c.Leaked)) = true := by
    decide +kernel
  obtain ⟨cl, hcl, hd⟩ := (Option.any_eq_true _ _).mp hrun
  obtain ⟨-, c, hc, hleak⟩ := of_decide_eq_true hd
  exact fun h => h cl (Machine.visits_self hcl) c hc hleak

end RpcClientImpl

end Tzrpc.Client
