import Tzrpc.SendWakeups
import Tzrpc.Server

/-!
# One read chain

A connection of the server reads in one place at a time: it has a read outstanding, or the
strand is in its read chain, and never both or two of either. While it works there is always
one of them, and once it has stopped it starts no read any more. Updates, other connections
and the threads that send come in between any two steps.
-/
namespace Tzrpc

namespace Senders

variable {env : ServerEnv} {s t : Senders}

lemma step_halts {e : Event} (hs : step env s e = some t) :
    (t.conn.Halted ∨ (t.conn.net = s.conn.net ∧ t.conn.wasCancelled = s.conn.wasCancelled)) ∧
      t.conn.recv = s.conn.recv := by
  refine ⟨?_, (step_recv hs).1⟩
  cases e with
  | append th msg =>
    simp only [step] at hs
    split_ifs at hs <;> obtain rfl := Option.some.inj hs <;> exact Or.inr ⟨rfl, rfl⟩
  | test th =>
    simp only [step] at hs
    split_ifs at hs <;> obtain rfl := Option.some.inj hs <;> exact Or.inr ⟨rfl, rfl⟩
  | critical th =>
    simp only [step] at hs
    split_ifs at hs
    obtain rfl := Option.some.inj hs
    obtain ⟨hnet, hcancel, -⟩ := TcpConnAsync.recvView_eq_iff.mp
      (s.conn.doWriteCritical_recvView env)
    exact Or.inr ⟨hnet, hcancel⟩
  | wrote i n =>
    obtain ⟨op, -, hs⟩ := Option.bind_eq_some_iff.mp hs
    split_ifs at hs
    obtain rfl := Option.some.inj hs
    exact Or.inr ⟨rfl, rfl⟩
  | writeDone i =>
    obtain ⟨op, -, hs⟩ := Option.bind_eq_some_iff.mp hs
    split_ifs at hs
    obtain rfl := Option.some.inj hs
    obtain ⟨hnet, hcancel, -⟩ := TcpConnAsync.recvView_eq_iff.mp
      ((s.conn.dropWrite i).writeCompleted_recvView)
    exact Or.inr ⟨hnet, hcancel⟩
  | writeFail i ec =>
    obtain ⟨op, -, hs⟩ := Option.bind_eq_some_iff.mp hs
    split_ifs at hs with hfail
    obtain rfl := Option.some.inj hs
    exact Or.inl (halted_of_closed (readFailed_closed
      (show (s.conn.dropWrite i).mayFail ec from hfail.1)))
  | readFail ec =>
    simp only [step] at hs
    split_ifs at hs with hfail
    obtain rfl := Option.some.inj hs
    exact Or.inl (halted_of_closed (readFailed_closed hfail.1))
  | refuseHead =>
    simp only [step] at hs
    split_ifs at hs
    obtain rfl := Option.some.inj hs
    exact Or.inl (halted_of_closed (NetConn.sockShutdownAndClose_connStat _))
  | timerExpire =>
    simp only [step] at hs
    split_ifs at hs
    obtain rfl := Option.some.inj hs
    exact Or.inr ⟨rfl, rfl⟩
  | timerHandler i =>
    obtain ⟨⟨⟨w, code⟩, u⟩, -, rfl⟩ := Option.map_eq_some_iff.mp hs
    cases code with
    | success => exact Or.inl (halted_of_closed (NetConn.sockShutdownAndClose_connStat _))
    | aborted => exact Or.inr ⟨rfl, rfl⟩

end Senders

namespace UpdatedConn

/-- The outstanding reads, and the read chain while it runs. -/
def chains (u : UpdatedConn) : ℕ :=
  u.conn.recv.reads.length + if u.readPc = .idle then 0 else 1

/-- No second chain comes up, the one there is ends only where the connection has stopped,
and a connection that has stopped starts no read. -/
structure KeepsChain (u v : UpdatedConn) : Prop where
  le : v.chains ≤ u.chains
  working : ¬ v.conn.Halted → v.chains = u.chains
  halted : u.conn.Halted → v.conn.Halted ∧ v.conn.recv.reads.Sublist u.conn.recv.reads

variable {inlineReply : Bytes → Option Message} {u v w : UpdatedConn}

lemma KeepsChain.refl (u : UpdatedConn) : KeepsChain u u :=
  ⟨le_rfl, fun _ => rfl, fun h => ⟨h, List.Sublist.refl _⟩⟩

lemma KeepsChain.trans (h : KeepsChain u v) (h' : KeepsChain v w) : KeepsChain u w := by
  refine ⟨h'.le.trans h.le, fun hw => ?_, fun hu => ?_⟩
  · have hv : ¬ v.conn.Halted := fun hv => hw (h'.halted hv).1
    exact (h'.working hw).trans (h.working hv)
  · obtain ⟨hv, hsub⟩ := h.halted hu
    obtain ⟨hw, hsub'⟩ := h'.halted hv
    exact ⟨hw, hsub'.trans hsub⟩

lemma KeepsChain.of_same (hreads : v.conn.recv.reads = u.conn.recv.reads)
    (hpc : v.readPc = .idle ↔ u.readPc = .idle) (hhalt : u.conn.Halted → v.conn.Halted) :
    KeepsChain u v := by
  have hchains : v.chains = u.chains := by
    simp only [chains, hreads, hpc]
  exact ⟨hchains.le, fun _ => hchains, fun h => ⟨hhalt h, hreads ▸ List.Sublist.refl _⟩⟩

lemma KeepsChain.of_halted (hsub : v.conn.recv.reads.Sublist u.conn.recv.reads)
    (hpc : v.readPc = .idle) (hhalt : v.conn.Halted) : KeepsChain u v := by
  refine ⟨?_, fun h => absurd hhalt h, fun _ => ⟨hhalt, hsub⟩⟩
  simp only [chains, hpc, if_true]
  exact hsub.length_le.trans (Nat.le_add_right _ _)

lemma dispatch_keepsChain {payload : Bytes} (hv : u.dispatch inlineReply payload = some v) :
    v.readPc = .call .head ∧ v.conn.recv.reads = u.conn.recv.reads ∧
      (u.conn.Halted → v.conn.Halted) := by
  obtain ⟨hpc, hrecv⟩ := dispatch_recv hv
  refine ⟨hpc, by rw [hrecv], fun h => ?_⟩
  unfold dispatch at hv
  cases hr : inlineReply payload with
  | none =>
    rw [hr] at hv
    obtain rfl := Option.some.inj hv
    exact h
  | some msg =>
    rw [hr] at hv
    obtain ⟨senders, hs, rfl⟩ := Option.map_eq_some_iff.mp hv
    rcases (Senders.step_halts hs).1 with hhalt | ⟨hnet, hcancel⟩
    · exact hhalt
    · exact h.of_view hnet hcancel

lemma parse_keepsChain {kind : ReadKind} (hne : u.readPc ≠ .idle)
    (hv : u.parse inlineReply kind = some v) : KeepsChain u v := by
  have hcall : ∀ (c : TcpConnAsync) (kind : ReadKind), c.recv.reads = u.conn.recv.reads →
      c.net = u.conn.net → c.wasCancelled = u.conn.wasCancelled →
        KeepsChain u (u.setConn c (.call kind)) := fun c kind hreads hnet hcancel =>
    .of_same hreads (iff_of_false (by simp [setConn]) hne) fun h => h.of_view hnet hcancel
  have hclose : ∀ c : TcpConnAsync, c.recv.reads = u.conn.recv.reads →
      KeepsChain u (u.setConn c.sockShutdownAndClose .idle) := fun c hreads =>
    .of_halted (hreads ▸ List.Sublist.refl _) rfl
      (Senders.halted_of_closed (NetConn.sockShutdownAndClose_connStat _))
  cases kind with
  | head =>
    simp only [parse] at hv
    split_ifs at hv <;> obtain rfl := Option.some.inj hv
    · exact hcall _ _ rfl rfl rfl
    · exact hcall _ _ rfl rfl rfl
    · exact hclose _ rfl
  | body =>
    simp only [parse] at hv
    split_ifs at hv
    · obtain ⟨hpc, hreads, hhalt⟩ := dispatch_keepsChain hv
      exact .of_same hreads (iff_of_false (by simp [hpc]) hne)
        fun h => hhalt (h.of_view rfl rfl)
    · obtain rfl := Option.some.inj hv
      exact hcall _ _ rfl rfl rfl
    · obtain rfl := Option.some.inj hv
      exact hclose _ rfl

lemma chain_keepsChain (hv : u.chain inlineReply = some v) : KeepsChain u v := by
  unfold UpdatedConn.chain at hv
  split_ifs at hv
  cases hpc : u.readPc with
  | idle => simp [hpc] at hv
  | handler kind =>
    have hne : u.readPc ≠ .idle := by simp [hpc]
    simp only [hpc, handleRead] at hv
    split_ifs at hv
    · obtain rfl := Option.some.inj hv
      exact .of_same rfl (iff_of_false (by simp [setConn]) hne) id
    · exact parse_keepsChain hne hv
  | call kind =>
    have hne : u.readPc ≠ .idle := by simp [hpc]
    simp only [hpc, callRead] at hv
    split_ifs at hv with hwork hcancel hl
    · obtain rfl := Option.some.inj hv
      exact .of_halted (List.Sublist.refl _) rfl (Or.inl hwork)
    · obtain rfl := Option.some.inj hv
      exact .of_halted (List.Sublist.refl _) rfl (Or.inr hcancel)
    · obtain rfl := Option.some.inj hv
      obtain ⟨-, -, hrecv⟩ := TcpConnAsync.recvView_eq_iff.mp
        (TcpConnAsync.setOpsCancelTimeout_recvView (u.env inlineReply) u.conn)
      have hchains : chains (u.setConn ((u.conn.setOpsCancelTimeout (u.env inlineReply)).asyncRead
          kind (atLeast u.conn kind)) .idle) = u.chains := by
        rw [chains, setConn_conn, TcpConnAsync.asyncRead, hrecv]
        simp [chains, hpc, setConn]
      exact ⟨hchains.le, fun _ => hchains, fun h => absurd h (not_or.mpr ⟨hwork, hcancel⟩)⟩
    · exact parse_keepsChain hne hv

theorem step_keepsChain {e : Event} (he : e ≠ .start) (hv : u.step inlineReply e = some v) :
    KeepsChain u v := by
  cases e with
  | start => exact absurd rfl he
  | readDone i bytes =>
    obtain ⟨op, hop, hv⟩ := Option.bind_eq_some_iff.mp hv
    split_ifs at hv with hfree
    obtain rfl := Option.some.inj hv
    have hi := (List.getElem?_eq_some_iff.mp hop).1
    obtain ⟨hnet, hcancel, hrecv⟩ := TcpConnAsync.recvView_eq_iff.mp
      (TcpConnAsync.revokeOpsCancelTimeout_recvView (u.conn.dropRead i))
    have hreads : ((u.conn.dropRead i).revokeOpsCancelTimeout.received bytes).recv.reads =
        u.conn.recv.reads.eraseIdx i := congrArg RecvSide.reads hrecv
    have hchains : chains (u.setConn ((u.conn.dropRead i).revokeOpsCancelTimeout.received bytes)
        (.handler op.kind)) = u.chains := by
      rw [chains, setConn_conn, hreads, List.length_eraseIdx, if_pos hi, chains,
        if_pos (strandFree_readPc hfree.1), if_neg (by simp [setConn])]
      omega
    refine ⟨hchains.le, fun _ => hchains, fun h => ⟨h.of_view hnet hcancel, ?_⟩⟩
    rw [setConn_conn, hreads]
    exact List.eraseIdx_sublist _ _
  | readFail i ec =>
    obtain ⟨op, -, hv⟩ := Option.bind_eq_some_iff.mp hv
    split_ifs at hv with hfree
    obtain rfl := Option.some.inj hv
    refine .of_halted ?_ rfl (Senders.halted_of_closed (Senders.readFailed_closed
      (show (u.conn.dropRead i).mayFail ec from hfree.2)))
    rw [setConn_conn, TcpConnAsync.readFailed_recv]
    exact List.eraseIdx_sublist _ _
  | chain => exact chain_keepsChain hv
  | sender e =>
    simp only [step] at hv
    split_ifs at hv
    obtain ⟨senders, hs, rfl⟩ := Option.map_eq_some_iff.mp hv
    obtain ⟨hhalt, hrecv⟩ := Senders.step_halts hs
    refine .of_same (congrArg RecvSide.reads hrecv) Iff.rfl fun h => ?_
    rcases hhalt with hhalt | ⟨hnet, hcancel⟩
    · exact hhalt
    · exact h.of_view hnet hcancel
  | moduleRuntime doc =>
    obtain rfl := Option.some.inj hv
    exact .of_same rfl Iff.rfl id

end UpdatedConn

namespace Server

open UpdatedConn (KeepsChain)

variable {pb : ProtoBuf} {s t : Server} {p q : AcceptedConn}

lemma reply_keepsChain (env : ServerEnv) (th : Thread) (p : AcceptedConn) (msg : Message)
    (net : NetServer) : KeepsChain (p.view net) ((p.reply env th msg).view net) := by
  unfold AcceptedConn.reply
  split_ifs
  · exact .refl _
  · cases hs : Senders.step env p.senders (.append th msg) with
    | none => exact .refl _
    | some senders =>
      obtain ⟨hhalt, hrecv⟩ := Senders.step_halts hs
      refine .of_same (congrArg RecvSide.reads hrecv) Iff.rfl fun h => ?_
      rcases hhalt with hhalt | ⟨hnet, hcancel⟩
      · exact hhalt
      · exact TcpConnAsync.Halted.of_view h hnet hcancel

lemma step_keepsChain {e : Event} (hs : s.step pb e = some t) (net : NetServer) :
    ∃ moved more, t.conns = moved ++ more ∧
      List.Forall₂ (fun p q => KeepsChain (p.view net) (q.view net)) s.conns moved ∧
        ∀ p ∈ more, p = .opened := by
  refine step_conns (fun p => .refl _) (fun hpq hqr => hpq.trans hqr)
    (fun k f p u _ _ hown hu => ?_) (fun env th p msg => reply_keepsChain env th p msg net)
    (fun p => ⟨le_rfl, fun _ => rfl, fun h => ⟨h, List.Sublist.refl _⟩⟩) hs
  have hstart : f ≠ .start := by
    rintro rfl
    simp [ownEvent] at hown
  have hkeeps := UpdatedConn.step_keepsChain hstart hu
  exact ⟨hkeeps.le, hkeeps.working, hkeeps.halted⟩

lemma step_keepsChain_of_getElem? {e : Event} {k : ℕ} (hs : s.step pb e = some t)
    (hp : s.conns[k]? = some p) (net : NetServer) :
    ∃ q, t.conns[k]? = some q ∧ KeepsChain (p.view net) (q.view net) := by
  obtain ⟨moved, more, hconns, hmoved, -⟩ := step_keepsChain hs net
  obtain ⟨q, hq, hkeeps⟩ := forall₂_exists_getElem? hmoved hp
  refine ⟨q, ?_, hkeeps⟩
  rw [hconns, List.getElem?_append_left (List.getElem?_eq_some_iff.mp hq).1, hq]

lemma step_chains {e : Event} {net : NetServer} (hs : s.step pb e = some t)
    (h : ∀ p ∈ s.conns, KeepsChain (AcceptedConn.opened.view net) (p.view net)) :
    ∀ p ∈ t.conns, KeepsChain (AcceptedConn.opened.view net) (p.view net) := by
  obtain ⟨moved, more, hconns, hmoved, hmore⟩ := step_keepsChain hs net
  rw [hconns]
  intro q hq
  rcases List.mem_append.mp hq with hq | hq
  · obtain ⟨p, hp, hkeeps⟩ := forall₂_mem_right hmoved hq
    exact (h p hp).trans hkeeps
  · exact hmore q hq ▸ .refl _

variable {doc : NetworkDoc} {table : List (UInt16 × ℕ)}

/-- In every run a connection has at most one read outstanding or read chain running, and has
one as long as it works; from the state in which it has stopped on, it starts no read. -/
theorem connections_one_chain (h : (machine pb doc table).Reachable s) {es : List Event}
    (hrun : (machine pb doc table).exec s es = some t) {k : ℕ} (hp : s.conns[k]? = some p) :
    ∃ q, t.conns[k]? = some q ∧ (q.view t.net).chains ≤ 1 ∧
      (¬ q.conn.Halted → (q.view t.net).chains = 1) ∧
      (p.conn.Halted → q.conn.Halted ∧ q.conn.recv.reads.Sublist p.conn.recv.reads) := by
  have hchains := Machine.reachable_of_inductive (M := machine pb doc table)
    (I := fun s => ∀ p ∈ s.conns, KeepsChain (AcceptedConn.opened.view t.net) (p.view t.net))
    (fun p hp => by cases hp) (fun _ _ _ hi hn => step_chains hn hi) h
  obtain ⟨q, hq, hkeeps⟩ := Machine.exec_of_inductive (M := machine pb doc table)
    (K := fun _ => True)
    (I := fun u => ∃ q, u.conns[k]? = some q ∧ KeepsChain (p.view t.net) (q.view t.net))
    (fun u e v hi _ hn => by
      obtain ⟨q, hq, hkeeps⟩ := hi
      obtain ⟨r, hr, hnext⟩ := step_keepsChain_of_getElem? hn hq t.net
      exact ⟨r, hr, hkeeps.trans hnext⟩)
    (fun _ _ => trivial) ⟨p, hp, .refl _⟩ hrun
  have hone := (hchains p (List.mem_of_getElem? hp)).trans hkeeps
  exact ⟨q, hq, hone.le, hone.working, hkeeps.halted⟩

def quietMachine : Machine Server Event :=
  machine ⟨fun _ => none, fun _ => []⟩ (NetServer.speedDoc 0) []

theorem quietMachine_chains : ∃ s t q,
    quietMachine.run [.net (.accept (some [])), .conn 0 .chain] = some s ∧
      quietMachine.exec s [.conn 0 (.readFail 0 .eof)] = some t ∧
      t.conns[0]? = some q ∧ q.conn.recv.reads = [] ∧ (q.view t.net).chains ≤ 1 := by
  have hrun : (quietMachine.run [.net (.accept (some [])), .conn 0 .chain]).any (fun s =>
      s.conns[0]?.isSome && (quietMachine.exec s [.conn 0 (.readFail 0 .eof)]).any fun t =>
        t.conns[0]?.all fun q => decide (q.conn.recv.reads = [])) := by
    decide +kernel
  obtain ⟨s, hs, hrun⟩ := (Option.any_eq_true _ _).mp hrun
  obtain ⟨hsome, hrun⟩ := Bool.and_eq_true_iff.mp hrun
  obtain ⟨t, ht, hall⟩ := (Option.any_eq_true _ _).mp hrun
  obtain ⟨p, hp⟩ := Option.isSome_iff_exists.mp hsome
  obtain ⟨q, hq, hle, -, -⟩ := connections_one_chain ⟨_, hs⟩ ht hp
  rw [hq] at hall
  exact ⟨s, t, q, hs, ht, hq, of_decide_eq_true hall, hle⟩

end Server

end Tzrpc
