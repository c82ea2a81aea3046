import Tzrpc.TcpConnAsyncChain
import Tzrpc.TcpConnAsyncSenders

/-!
# No message is left behind

A sender that finds a write in progress leaves its message to the completion of that write.
The completion may be drained and reset the status at the same moment: whoever appends after
that makes the test after it, too. So while the connection works, buffered bytes have a write
outstanding or a thread in `do_write`, whatever the threads do between the tests and the
critical sections.
-/
namespace Tzrpc.Senders

open TcpConnAsync (Halted)

/-- A status of `kSend` stands for an outstanding write, and buffered bytes for somebody who
takes them up, unless the connection has stopped. -/
structure Attended (s : Senders) : Prop where
  sending : ¬ s.conn.Halted → s.conn.send.status = .kSend → s.conn.send.writes ≠ []
  buffered : ¬ s.conn.Halted → s.conn.send.bound.buffer.getLength ≠ 0 →
    s.conn.send.writes ≠ [] ∨ ∃ th, s.pc th ≠ .idle

section Step

variable {env : ServerEnv} {s t : Senders}

lemma Attended.of_halted (h : t.conn.Halted) : Attended t :=
  ⟨fun hn => absurd h hn, fun hn => absurd h hn⟩

lemma Attended.of_send (h : Attended s) (hsend : t.conn.send = s.conn.send) (hpc : t.pc = s.pc)
    (hh : s.conn.Halted → t.conn.Halted) : Attended t := by
  refine ⟨fun hn => ?_, fun hn => ?_⟩
  · rw [hsend]
    exact h.sending fun hs => hn (hh hs)
  · rw [hsend, hpc]
    exact h.buffered fun hs => hn (hh hs)

lemma halted_of_closed {c : TcpConnAsync} (h : c.net.connStat = .kClosed) : c.Halted :=
  Or.inl (by simp [h])

lemma goto_busy (s : Senders) (th : Thread) {pc : SendPc} (hpc : pc ≠ .idle) :
    ∃ u, (s.goto th pc).pc u ≠ .idle := ⟨th, by simpa [goto] using hpc⟩

lemma Attended.test (h : Attended s) (th : Thread) :
    Attended (s.goto th (if s.conn.doWriteTest then .atCritical else .idle)) := by
  refine ⟨h.sending, fun hn hb => ?_⟩
  cases ht : s.conn.doWriteTest with
  | true => exact Or.inr (goto_busy s th (by simp))
  | false =>
    refine Or.inl (h.sending hn ?_)
    have hfail : ¬ (s.conn.send.status = .kDone ∧ ¬ s.conn.Halted) := by
      rw [← TcpConnAsync.doWriteTest_eq_true, ht]
      simp
    cases hst : s.conn.send.status with
    | kSend => rfl
    | kDone => exact absurd ⟨hst, hn⟩ hfail

lemma critical_attended (s : Senders) (th : Thread) :
    Attended ({ s with conn := s.conn.doWriteCritical env }.goto th .idle) := by
  by_cases h0 : s.conn.send.bound.buffer.getLength = 0
  · have hempty := @doWriteCritical_empty env _ h0
    refine ⟨fun _ hst => ?_, fun _ hb => ?_⟩
    · simp [goto, hempty] at hst
    · simp [goto, hempty, h0] at hb
  · obtain ⟨op, -, -, hwrites, -⟩ := @doWriteCritical_write env _ h0
    have hne : (s.conn.doWriteCritical env).send.writes ≠ [] := by simp [hwrites]
    exact ⟨fun _ _ => hne, fun _ _ => Or.inl hne⟩

theorem Attended.step {e : Event} (h : Attended s) (hs : Senders.step env s e = some t) :
    Attended t := by
  cases e with
  | append th msg =>
    simp only [Senders.step] at hs
    split_ifs at hs
    · obtain rfl := Option.some.inj hs
      exact h
    · obtain rfl := Option.some.inj hs
      exact ⟨h.sending, fun _ _ => Or.inr (goto_busy _ th (by simp))⟩
  | test th =>
    by_cases hpc : s.pc th = .atTest
    · rw [Senders.step, if_pos hpc] at hs
      obtain rfl := Option.some.inj hs
      exact h.test th
    · simp [Senders.step, hpc] at hs
  | critical th =>
    simp only [Senders.step] at hs
    split_ifs at hs
    obtain rfl := Option.some.inj hs
    exact critical_attended s th
  | wrote i n =>
    obtain ⟨op, hop, hs⟩ := Option.bind_eq_some_iff.mp hs
    split_ifs at hs
    obtain rfl := Option.some.inj hs
    have hne : s.conn.send.writes ≠ [] := by
      rintro hnil
      simp [hnil] at hop
    have hset : (s.conn.markSent i op n).send.writes ≠ [] := by
      simpa [TcpConnAsync.markSent] using hne
    exact ⟨fun _ _ => hset, fun _ _ => Or.inl hset⟩
  | writeDone i =>
    obtain ⟨op, -, hs⟩ := Option.bind_eq_some_iff.mp hs
    split_ifs at hs
    obtain rfl := Option.some.inj hs
    refine ⟨fun _ hst => ?_, fun _ _ => Or.inr (goto_busy _ .strand (by simp))⟩
    simp [goto, TcpConnAsync.writeCompleted] at hst
  | writeFail i ec =>
    obtain ⟨op, -, hs⟩ := Option.bind_eq_some_iff.mp hs
    split_ifs at hs with hec
    obtain rfl := Option.some.inj hs
    exact Attended.of_halted (halted_of_closed
      (readFailed_closed (show (s.conn.dropWrite i).mayFail ec from hec.1)))
  | readFail ec =>
    simp only [Senders.step] at hs
    split_ifs at hs with hec
    obtain rfl := Option.some.inj hs
    exact Attended.of_halted (halted_of_closed (readFailed_closed hec.1))
  | refuseHead =>
    simp only [Senders.step] at hs
    split_ifs at hs
    obtain rfl := Option.some.inj hs
    exact Attended.of_halted (halted_of_closed (NetConn.sockShutdownAndClose_connStat _))
  | timerExpire =>
    simp only [Senders.step] at hs
    split_ifs at hs
    obtain rfl := Option.some.inj hs
    exact h.of_send rfl rfl id
  | timerHandler i =>
    obtain ⟨⟨⟨w, code⟩, u⟩, -, rfl⟩ := Option.map_eq_some_iff.mp hs
    cases code with
    | success =>
      exact Attended.of_halted (halted_of_closed (NetConn.sockShutdownAndClose_connStat _))
    | aborted => exact h.of_send rfl rfl id

lemma step_idle {e : Event} {th : Thread} (hs : Senders.step env s e = some t)
    (hth : th ≠ .strand) (hidle : s.pc th = .idle) (hne : ∀ msg, e ≠ .append th msg) :
    t.pc th = .idle := by
  have hgoto : ∀ {u : Thread} {pc : SendPc} (r : Senders), r.pc = s.pc → u ≠ th →
      (r.goto u pc).pc th = .idle := by
    intro u pc r hr hu
    simp only [goto, hr]
    rw [Function.update_of_ne (Ne.symm hu), hidle]
  have hother : ∀ {u : Thread} {pc : SendPc}, s.pc u = pc → pc ≠ .idle → u ≠ th := by
    rintro u pc hu hpc rfl
    exact hpc (hu.symm.trans hidle)
  cases e with
  | append u msg =>
    have hu : u ≠ th := by
      rintro rfl
      exact hne msg rfl
    simp only [Senders.step] at hs
    split_ifs at hs <;> obtain rfl := Option.some.inj hs
    · exact hidle
    · exact hgoto _ rfl hu
  | test u =>
    by_cases hpc : s.pc u = .atTest
    · rw [Senders.step, if_pos hpc] at hs
      obtain rfl := Option.some.inj hs
      exact hgoto _ rfl (hother hpc (by simp))
    · simp [Senders.step, hpc] at hs
  | critical u =>
    simp only [Senders.step] at hs
    split_ifs at hs with hpc
    obtain rfl := Option.some.inj hs
    exact hgoto _ rfl (hother hpc (by simp))
  | writeDone i =>
    obtain ⟨op, -, hs⟩ := Option.bind_eq_some_iff.mp hs
    split_ifs at hs
    obtain rfl := Option.some.inj hs
    exact hgoto _ rfl (Ne.symm hth)
  | wrote i n =>
    obtain ⟨op, -, hs⟩ := Option.bind_eq_some_iff.mp hs
    split_ifs at hs
    obtain rfl := Option.some.inj hs
    exact hidle
  | writeFail i ec =>
    obtain ⟨op, -, hs⟩ := Option.bind_eq_some_iff.mp hs
    split_ifs at hs
    obtain rfl := Option.some.inj hs
    exact hidle
  | timerHandler i =>
    obtain ⟨w, -, rfl⟩ := Option.map_eq_some_iff.mp hs
    exact hidle
  | _ =>
    simp only [Senders.step] at hs
    split_ifs at hs
    obtain rfl := Option.some.inj hs
    exact hidle

end Step

lemma idle_of_silent {env : ServerEnv} {es : List Event} {s : Senders} {th : Thread}
    (hrun : (machine env).run es = some s) (hth : th ≠ .strand)
    (hne : ∀ msg, .append th msg ∉ es) : s.pc th = .idle :=
  Machine.run_induction (M := machine env) (P := fun _ s => s.pc th = .idle)
    (C := fun _ e => ∀ msg, e ≠ .append th msg) rfl
    (fun _ _ _ _ _ hi hc hn => step_idle hn hth hi hc) hrun fun _ _ _ ht msg he =>
      hne msg (he ▸ ht.mem)

lemma start_attended (env : ServerEnv) : Attended (start env) := by
  have hsend : (TcpConnAsync.started env).send = ⟨.kDone, IOBound.fresh, []⟩ := by
    rw [TcpConnAsync.started_eq]
    exact TcpConnAsync.setOpsCancelTimeout_send env _
  refine ⟨fun _ hst => ?_, fun _ hb => ?_⟩
  · simp [start, hsend] at hst
  · refine absurd ?_ hb
    simp only [start, hsend]
    decide

/-- While the connection works and its backlog is below 4 GiB, appended bytes have a write
outstanding or a thread in `do_write`. Once there is neither, all messages are on the wire,
as long as no thread has overtaken an outstanding write. -/
theorem nothing_stranded {env : ServerEnv} {es : List Event} {s : Senders}
    (hrun : (machine env).run es = some s) (hworks : ¬ s.conn.Halted)
    (hlen : s.conn.send.bound.buffer.data.length < 2 ^ 32) :
    (s.conn.send.bound.buffer.data ≠ [] →
      s.conn.send.writes ≠ [] ∨ ∃ th, s.pc th ≠ .idle) ∧
    ((∀ s e t, (machine env).Takes es s e t → s.Exclusive e) → s.conn.send.writes = [] →
      (∀ th, s.pc th = .idle) → s.wire = s.frames) := by
  have hattended : Attended s := Machine.reachable_of_inductive (M := machine env)
    (start_attended env) (fun _ _ _ hi hn => hi.step hn) ⟨es, hrun⟩
  have hget := Buffer.getLength_toNat hlen
  have hbuffered : s.conn.send.bound.buffer.data ≠ [] →
      s.conn.send.writes ≠ [] ∨ ∃ th, s.pc th ≠ .idle := by
    intro hne
    refine hattended.buffered hworks fun h0 => hne ?_
    rw [h0] at hget
    exact List.eq_nil_of_length_eq_zero hget.symm
  refine ⟨hbuffered, fun hx hwrites hidle => ?_⟩
  have hone : OneWrite s := Machine.visits_of_inductive (M := machine env) (start_oneWrite env)
    (fun _ _ _ hi hc hn => (hi.step hc hn).1) hx (Machine.visits_self hrun)
  have hempty : s.conn.send.bound.buffer.data = [] := by
    by_contra hne
    rcases hbuffered hne with hw | ⟨th, hth⟩
    · exact hw hwrites
    · exact hth (hidle th)
  have hconserved := hone.conserved fun hc => hworks (halted_of_closed hc)
  rw [unsent, hwrites, hempty, List.map_nil, List.flatten_nil, List.append_nil,
    List.append_nil] at hconserved
  exact hconserved

/-- The second thread finds the write of the first in progress and leaves. -/
def leavingSenders : List Event :=
  [.append (.executor 0) (.ofPayload [1]), .test (.executor 0), .critical (.executor 0),
    .append (.executor 1) (.ofPayload [2]), .test (.executor 1), .wrote 0 17, .writeDone 0,
    .test .strand, .critical .strand, .wrote 0 17, .writeDone 0, .test .strand,
    .critical .strand]

theorem leavingSenders_sent :
    ∃ s, (machine ⟨0, 0, 0, fun _ => none⟩).run leavingSenders = some s ∧
      s.frames.length = 34 ∧ s.wire = s.frames := by
  let M := machine ⟨0, 0, 0, fun _ => none⟩
  have hrun : (M.run leavingSenders).any (fun s =>
      decide (s.frames.length = 34 ∧ s.conn.net.connStat = .kWorking ∧
        s.conn.wasCancelled = false ∧ s.conn.send.bound.buffer.data = [] ∧
        s.conn.send.writes = [] ∧
        ∀ th ∈ [Thread.strand, .executor 0, .executor 1], s.pc th = .idle)) := by
    decide +kernel
  obtain ⟨s, hs, hd⟩ := (Option.any_eq_true _ _).mp hrun
  obtain ⟨hframes, hnet, hcancel, hdata, hwrites, hpc⟩ := of_decide_eq_true hd
  have htrace : ∀ x ∈ M.trace M.start leavingSenders,
      ∀ th ∈ [Thread.strand, .executor 0], x.2.1 = .critical th →
        x.1.conn.send.writes = [] := by
    decide +kernel
  refine ⟨s, hs, hframes, (nothing_stranded hs (by simp [TcpConnAsync.Halted, hnet, hcancel])
    (by simp [hdata])).2 (fun s e t ht => ?_) hwrites fun th => ?_⟩
  · cases e with
    | critical th =>
      have hth : th = .executor 0 ∨ th = .strand := by
        simpa [leavingSenders] using ht.mem
      exact htrace _ ht.mem_trace th (by rcases hth with rfl | rfl <;> simp) rfl
    | _ => trivial
  · by_cases hth : th ∈ [Thread.strand, .executor 0, .executor 1]
    · exact hpc th hth
    · simp only [List.mem_cons, List.not_mem_nil, or_false, not_or] at hth
      exact idle_of_silent hs hth.1 fun msg hmsg => by
        simp [leavingSenders, hth] at hmsg

end Tzrpc.Senders
