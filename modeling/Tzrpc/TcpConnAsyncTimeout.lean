import Tzrpc.TcpConnAsyncReads

/-!
# The operation timeout

One timer serves the read chain and the send side. Each operation arms it anew and each
completion revokes it, whichever operation it was armed for, and a wait that has run out
before it is revoked still has its handler queued. `Starts` is what happens to the timer
and to the outstanding operations while a handler starts new ones.
-/
namespace Tzrpc.TcpConnAsync

def outstanding (c : TcpConnAsync) : List ℕ :=
  c.recv.reads.map ReadOp.id ++ c.send.writes.map WriteOp.id

def completes (c : TcpConnAsync) : Event → Option ℕ
  | .readDone i _ => (c.recv.reads[i]?).map ReadOp.id
  | .readFail i _ => (c.recv.reads[i]?).map ReadOp.id
  | .writeDone i => (c.send.writes[i]?).map WriteOp.id
  | .writeFail i _ => (c.send.writes[i]?).map WriteOp.id
  | _ => none

def RanOut (c : TcpConnAsync) (w : ℕ) : Prop := ⟨w, .success⟩ ∈ c.opsCancelTimer.queued

/-- The timer exists and the handler of a wait is still to run with success. -/
def Armed (c : TcpConnAsync) : Prop :=
  c.opsCancelTimer.object.isSome = true ∧ ∃ w, c.opsCancelTimer.Live w

/-- Whichever queued callback runs next with success and closes the socket, the operation
its wait was started for is outstanding. -/
def ClosesOutstanding (env : ServerEnv) (c : TcpConnAsync) : Prop :=
  ∀ i w d, c.opsCancelTimer.queued[i]? = some ⟨w, .success⟩ →
    step env c (.timerHandler i) = some d → d.net.connStat = .kClosed → w ∈ c.outstanding

/-- Operations have numbers of their own, and pending waits guard outstanding ones. -/
structure Tracked (c : TcpConnAsync) : Prop where
  nodup : c.outstanding.Nodup
  below : ∀ id ∈ c.outstanding, id < c.ops
  guards : ∀ w ∈ c.opsCancelTimer.pending, w ∈ c.outstanding

/-- `d` has started operations beyond those of `c`, each with a wait of its own. -/
structure Starts (c d : TcpConnAsync) : Prop where
  tracked : c.Tracked → d.Tracked
  ranOut : ∀ w, d.RanOut w ↔ c.RanOut w
  ops : c.ops ≤ d.ops
  kept : ∀ id ∈ c.outstanding, id ∈ d.outstanding
  new : ∀ id ∈ d.outstanding, id ∈ c.outstanding ∨ c.ops ≤ id

section Starts

variable {env : ServerEnv} {c d e : TcpConnAsync} {kind : ReadKind}

lemma Starts.trans (h : Starts c d) (g : Starts d e) : Starts c e where
  tracked := g.tracked ∘ h.tracked
  ranOut w := (g.ranOut w).trans (h.ranOut w)
  ops := h.ops.trans g.ops
  kept id hid := g.kept id (h.kept id hid)
  new id hid := by
    rcases g.new id hid with hd | hd
    · exact h.new id hd
    · exact Or.inr (h.ops.trans hd)

lemma Starts.of_same (hid : d.outstanding = c.outstanding) (hops : d.ops = c.ops)
    (hp : ∀ w ∈ d.opsCancelTimer.pending, w ∈ c.opsCancelTimer.pending)
    (hq : ∀ w, d.RanOut w ↔ c.RanOut w) : Starts c d where
  tracked h := ⟨hid ▸ h.nodup, by rw [hid, hops]; exact h.below,
    fun w hw => hid ▸ h.guards w (hp w hw)⟩
  ranOut := hq
  ops := hops.ge
  kept id h := hid ▸ h
  new id h := Or.inl (hid ▸ h)

lemma Starts.of_new (hid : d.outstanding.Perm (c.ops :: c.outstanding)) (hops : d.ops = c.ops + 1)
    (hp : ∀ w ∈ d.opsCancelTimer.pending, w ∈ c.opsCancelTimer.pending ∨ w = c.ops)
    (hq : ∀ w, d.RanOut w ↔ c.RanOut w) : Starts c d where
  tracked h := by
    refine ⟨hid.nodup_iff.mpr (List.nodup_cons.mpr ⟨?_, h.nodup⟩), fun id hmem => ?_,
      fun w hw => ?_⟩
    · exact fun hmem => lt_irrefl _ (h.below _ hmem)
    · rw [hops]
      rcases List.mem_cons.mp (hid.mem_iff.mp hmem) with rfl | hold
      · exact Nat.lt_succ_self _
      · exact (h.below id hold).trans (Nat.lt_succ_self _)
    · rcases hp w hw with hold | rfl
      · exact hid.mem_iff.mpr (List.mem_cons_of_mem _ (h.guards w hold))
      · exact hid.mem_iff.mpr List.mem_cons_self
  ranOut := hq
  ops := by omega
  kept id h := hid.mem_iff.mpr (List.mem_cons_of_mem _ h)
  new id h := by
    rcases List.mem_cons.mp (hid.mem_iff.mp h) with rfl | hold
    · exact Or.inr le_rfl
    · exact Or.inl hold

lemma setOpsCancelTimeout_timer (h : env.opsCancelTimeOut ≠ 0) (c : TcpConnAsync) :
    (c.setOpsCancelTimeout env).opsCancelTimer.object = some [c.ops] ∧
      ∀ w, (c.setOpsCancelTimeout env).RanOut w ↔ c.RanOut w := by
  unfold setOpsCancelTimeout RanOut
  rw [if_neg h]
  dsimp only
  cases ho : c.opsCancelTimer.object with
  | none =>
    simp [SteadyTimer.expiresFromNow, SteadyTimer.asyncWait, SteadyTimer.cancel,
      SteadyTimer.create, SteadyTimer.completeAll, SteadyTimer.pending, ho]
  | some ws =>
    simp [SteadyTimer.expiresFromNow, SteadyTimer.asyncWait, SteadyTimer.cancel,
      SteadyTimer.completeAll, SteadyTimer.pending, ho]

lemma setOpsCancelTimeout_waits (env : ServerEnv) (c : TcpConnAsync) :
    (∀ w ∈ (c.setOpsCancelTimeout env).opsCancelTimer.pending,
        w ∈ c.opsCancelTimer.pending ∨ w = c.ops) ∧
      ∀ w, (c.setOpsCancelTimeout env).RanOut w ↔ c.RanOut w := by
  by_cases h : env.opsCancelTimeOut = 0
  · rw [setOpsCancelTimeout, if_pos h]
    exact ⟨fun w hw => Or.inl hw, fun w => Iff.rfl⟩
  · obtain ⟨ho, hq⟩ := setOpsCancelTimeout_timer h c
    refine ⟨fun w hw => Or.inr ?_, hq⟩
    simpa [SteadyTimer.pending, ho] using hw

lemma revokeOpsCancelTimeout_timer (c : TcpConnAsync) :
    c.revokeOpsCancelTimeout.opsCancelTimer.object = none ∧
      ∀ w, c.revokeOpsCancelTimeout.RanOut w ↔ c.RanOut w := by
  unfold revokeOpsCancelTimeout RanOut
  split_ifs with ho
  · simp [SteadyTimer.destroy, SteadyTimer.completeAll]
  · exact ⟨by simpa using ho, fun w => Iff.rfl⟩

lemma revokeOpsCancelTimeout_outstanding (c : TcpConnAsync) :
    c.revokeOpsCancelTimeout.outstanding = c.outstanding := by
  have hv := recvView_eq_iff.mp (revokeOpsCancelTimeout_recvView c)
  rw [outstanding, hv.2.2, revokeOpsCancelTimeout_send, outstanding]

lemma Starts.read (env : ServerEnv) (c : TcpConnAsync) (kind : ReadKind) (n : ℕ) :
    Starts c ((c.setOpsCancelTimeout env).asyncRead kind n) := by
  have hv := recvView_eq_iff.mp (setOpsCancelTimeout_recvView env c)
  obtain ⟨hp, hq⟩ := setOpsCancelTimeout_waits env c
  refine .of_new ?_ (by simp [asyncRead]) hp hq
  simp only [outstanding, asyncRead, hv.2.2, setOpsCancelTimeout_send, setOpsCancelTimeout_ops,
    List.map_append, List.map_cons, List.map_nil, List.append_assoc, List.singleton_append]
  exact List.perm_middle

lemma Starts.write (env : ServerEnv) (c : TcpConnAsync) (n : UInt32) :
    Starts c ((c.setOpsCancelTimeout env).startWrite n) := by
  have hv := recvView_eq_iff.mp (setOpsCancelTimeout_recvView env c)
  obtain ⟨hp, hq⟩ := setOpsCancelTimeout_waits env c
  refine .of_new ?_ (by simp [startWrite]) hp hq
  simp only [outstanding, startWrite, hv.2.2, setOpsCancelTimeout_send, setOpsCancelTimeout_ops,
    List.map_append, List.map_cons, List.map_nil, ← List.append_assoc]
  exact List.perm_append_singleton _ _

lemma Starts.refl (c : TcpConnAsync) : Starts c c :=
  .of_same rfl rfl (fun _ h => h) fun _ => Iff.rfl

lemma Starts.doWrite (env : ServerEnv) (c : TcpConnAsync) : Starts c (c.doWrite env) := by
  rcases doWrite_cases env c with ⟨hd, -⟩ | ⟨-, -, -, hd⟩
  · rw [hd]
    exact .refl c
  · rw [hd]
    exact .write env c _

lemma Starts.asyncSendMessage (env : ServerEnv) (c : TcpConnAsync) (msg : Message) :
    Starts c (c.asyncSendMessage env msg).2 := by
  unfold TcpConnAsync.asyncSendMessage
  split_ifs
  · exact .refl c
  · have happend : Starts c (c.appendMessage msg) :=
      .of_same rfl rfl (fun _ h => h) fun _ => Iff.rfl
    exact happend.trans (.doWrite env _)

lemma Chain.starts (h : Chain env kind c d) : Starts c d := by
  induction h with
  | halted => exact .refl _
  | arm => exact .read _ _ _ _
  | refuse => exact .of_same rfl rfl (fun _ h => h) fun _ => Iff.rfl
  | @header c d _ _ _ ih =>
    have hparse : Starts c (c.parseHeader env).2 :=
      .of_same rfl rfl (fun _ h => h) fun _ => Iff.rfl
    exact hparse.trans ih
  | @message c d _ _ ih =>
    obtain ⟨r, hd⟩ := dispatchBody_cases env c
    have hreads : ({ c with recv := r } : TcpConnAsync).recv.reads = c.recv.reads := by
      have hn := (dispatchBody_net env c).2.2
      rcases hd with hd | ⟨msg, hd⟩
      · rw [← hn, hd]
      · have hv := recvView_eq_iff.mp (asyncSendMessage_recvView env { c with recv := r } msg)
        rw [← hn, hd, hv.2.2]
    have hrecv : Starts c { c with recv := r } :=
      .of_same (by rw [outstanding, hreads, outstanding]) rfl (fun _ h => h) fun _ => Iff.rfl
    refine (hrecv.trans ?_).trans ih
    rcases hd with hd | ⟨msg, hd⟩
    · rw [hd]
      exact .refl _
    · rw [hd]
      exact .asyncSendMessage env _ msg

lemma Starts.handleSocketEc (c : TcpConnAsync) (ec : ErrorCode) :
    Starts c (c.handleSocketEc ec) := by
  unfold TcpConnAsync.handleSocketEc
  split_ifs
  · obtain ⟨ho, hq⟩ := revokeOpsCancelTimeout_timer c
    refine .of_same (revokeOpsCancelTimeout_outstanding c) (revokeOpsCancelTimeout_ops c) ?_ hq
    intro w hw
    have hnil : c.revokeOpsCancelTimeout.opsCancelTimer.pending = [] := by
      rw [SteadyTimer.pending, ho]
      rfl
    exact absurd hw (by
      change w ∉ c.revokeOpsCancelTimeout.opsCancelTimer.pending
      simp [hnil])
  · exact .refl c

end Starts

section Completes

variable {env : ServerEnv} {c d : TcpConnAsync}

/-- `d` is `c` with operation `id` completed and its wait revoked. -/
structure Completed (id : ℕ) (c d : TcpConnAsync) : Prop where
  outstanding : c.outstanding.Perm (id :: d.outstanding)
  ops : d.ops = c.ops
  object : d.opsCancelTimer.object = none
  ranOut : ∀ w, d.RanOut w ↔ c.RanOut w

lemma Completed.of_drop {b : TcpConnAsync} {id : ℕ} (hid : c.outstanding.Perm (id :: b.outstanding))
    (hops : b.ops = c.ops) (ht : b.opsCancelTimer = c.opsCancelTimer) :
    Completed id c b.revokeOpsCancelTimeout := by
  obtain ⟨ho, hq⟩ := revokeOpsCancelTimeout_timer b
  refine ⟨?_, (revokeOpsCancelTimeout_ops b).trans hops, ho, fun w => (hq w).trans ?_⟩
  · rwa [revokeOpsCancelTimeout_outstanding]
  · rw [RanOut, RanOut, ht]

lemma dropRead_outstanding {i : ℕ} {op : ReadOp} (hop : c.recv.reads[i]? = some op) :
    c.outstanding.Perm (op.id :: (c.dropRead i).outstanding) := by
  obtain ⟨hi, rfl⟩ := List.getElem?_eq_some_iff.mp hop
  have hperm := (List.getElem_cons_eraseIdx_perm hi).map ReadOp.id
  exact (hperm.append_right (c.send.writes.map WriteOp.id)).symm

lemma dropWrite_outstanding {i : ℕ} {op : WriteOp} (hop : c.send.writes[i]? = some op) :
    c.outstanding.Perm (op.id :: (c.dropWrite i).outstanding) := by
  obtain ⟨hi, rfl⟩ := List.getElem?_eq_some_iff.mp hop
  have hperm := (List.getElem_cons_eraseIdx_perm hi).map WriteOp.id
  exact ((hperm.append_left (c.recv.reads.map ReadOp.id)).symm).trans List.perm_middle

lemma Completed.tracked {id : ℕ} (h : Completed id c d) (ht : c.Tracked) : d.Tracked := by
  have hnodup := List.nodup_cons.mp (h.outstanding.nodup_iff.mp ht.nodup)
  refine ⟨hnodup.2, fun id' hid' => ?_, fun w hw => ?_⟩
  · rw [h.ops]
    exact ht.below id' (h.outstanding.mem_iff.mpr (List.mem_cons_of_mem _ hid'))
  · simp [SteadyTimer.pending, h.object] at hw

lemma step_completes {e : Event} {id : ℕ} (hid : c.completes e = some id)
    (hs : step env c e = some d) : ∃ u, Completed id c u ∧ Starts u d := by
  cases e with
  | readDone i bytes =>
    obtain ⟨op, hop, rfl⟩ := Option.map_eq_some_iff.mp hid
    obtain ⟨op', hop', -, -, hchain⟩ := step_readDone_chain hs
    obtain rfl := Option.some.inj (hop.symm.trans hop')
    have hrecv : Starts (c.dropRead i).revokeOpsCancelTimeout
        ((c.dropRead i).revokeOpsCancelTimeout.received bytes) :=
      .of_same rfl rfl (fun _ h => h) fun _ => Iff.rfl
    exact ⟨_, .of_drop (dropRead_outstanding hop) rfl rfl, hrecv.trans hchain.starts⟩
  | readFail i ec =>
    obtain ⟨op, hop, rfl⟩ := Option.map_eq_some_iff.mp hid
    obtain ⟨op', -, -, rfl⟩ := step_readFail hs
    exact ⟨_, .of_drop (dropRead_outstanding hop) rfl rfl, .handleSocketEc _ ec⟩
  | writeDone i =>
    obtain ⟨op, hop, rfl⟩ := Option.map_eq_some_iff.mp hid
    obtain ⟨op', -, -, rfl⟩ := step_writeDone hs
    have hdone : Starts (c.dropWrite i).revokeOpsCancelTimeout (c.dropWrite i).writeCompleted :=
      .of_same rfl rfl (fun _ h => h) fun _ => Iff.rfl
    exact ⟨_, .of_drop (dropWrite_outstanding hop) rfl rfl, hdone.trans (.doWrite env _)⟩
  | writeFail i ec =>
    obtain ⟨op, hop, rfl⟩ := Option.map_eq_some_iff.mp hid
    obtain ⟨op', -, -, rfl⟩ := step_writeFail hs
    exact ⟨_, .of_drop (dropWrite_outstanding hop) rfl rfl, .handleSocketEc _ ec⟩
  | wrote | send | timerExpire | timerHandler => simp [completes] at hid

lemma step_other {e : Event} (hid : c.completes e = none) (hs : step env c e = some d) :
    Starts c d ∨
      (d.outstanding = c.outstanding ∧ d.ops = c.ops ∧
        (∀ w ∈ d.opsCancelTimer.pending, w ∈ c.opsCancelTimer.pending) ∧
        ∀ w, d.RanOut w → c.opsCancelTimer.Live w) := by
  cases e with
  | readDone i bytes =>
    obtain ⟨op, hop, -⟩ := Option.bind_eq_some_iff.mp hs
    simp [completes, hop] at hid
  | readFail i ec =>
    obtain ⟨op, hop, -⟩ := Option.bind_eq_some_iff.mp hs
    simp [completes, hop] at hid
  | writeDone i =>
    obtain ⟨op, hop, -⟩ := Option.bind_eq_some_iff.mp hs
    simp [completes, hop] at hid
  | writeFail i ec =>
    obtain ⟨op, hop, -⟩ := Option.bind_eq_some_iff.mp hs
    simp [completes, hop] at hid
  | wrote i n =>
    obtain ⟨op, hop, -, rfl⟩ := step_wrote hs
    obtain ⟨hi, rfl⟩ := List.getElem?_eq_some_iff.mp hop
    have hids : (c.markSent i c.send.writes[i] n).send.writes.map WriteOp.id =
        c.send.writes.map WriteOp.id := by
      have hi' : i < (c.send.writes.map WriteOp.id).length := by rwa [List.length_map]
      have hsame := List.set_getElem_self hi'
      rw [List.getElem_map] at hsame
      rw [markSent, List.map_set]
      exact hsame
    refine Or.inl (.of_same ?_ rfl (fun _ h => h) fun _ => Iff.rfl)
    rw [outstanding, hids]
    rfl
  | send msg =>
    obtain rfl := Option.some.inj hs
    exact Or.inl (.asyncSendMessage env c msg)
  | timerExpire =>
    simp only [step] at hs
    split_ifs at hs
    obtain rfl := Option.some.inj hs
    refine Or.inr ⟨rfl, rfl, by simp, fun w hw => SteadyTimer.success_mem_expire.mp hw⟩
  | timerHandler i =>
    obtain ⟨⟨⟨w, code⟩, u⟩, ht, rfl⟩ := Option.map_eq_some_iff.mp hs
    obtain ⟨-, ho, hlive⟩ := SteadyTimer.take_spec ht
    have hview : ∀ c' : TcpConnAsync, c' = (TcpConnAsync.opsCancelTimeoutCall
        { c with opsCancelTimer := u } code) → c'.opsCancelTimer = u ∧
          c'.outstanding = c.outstanding ∧ c'.ops = c.ops := by
      rintro c' rfl
      cases code <;> exact ⟨rfl, rfl, rfl⟩
    obtain ⟨htimer, hids, hops⟩ := hview _ rfl
    refine Or.inr ⟨hids, hops, fun v hv => ?_, fun v hv => ?_⟩
    · rw [htimer, SteadyTimer.pending, ho] at hv
      exact hv
    · rw [RanOut, htimer] at hv
      exact hlive v (Or.inr hv)

lemma Tracked.step {e : Event} (h : c.Tracked) (hs : TcpConnAsync.step env c e = some d) :
    d.Tracked := by
  cases hid : c.completes e with
  | some id =>
    obtain ⟨u, hu, hstarts⟩ := step_completes hid hs
    exact hstarts.tracked (hu.tracked h)
  | none =>
    rcases step_other hid hs with hstarts | ⟨hids, hops, hp, -⟩
    · exact hstarts.tracked h
    · exact ⟨hids ▸ h.nodup, by rw [hids, hops]; exact h.below,
        fun w hw => hids ▸ h.guards w (hp w hw)⟩

lemma started_tracked (env : ServerEnv) : (started env).Tracked := by
  rw [started_eq]
  refine (Starts.read env _ _ _).tracked ⟨?_, ?_, ?_⟩ <;>
    simp [outstanding, fresh, SteadyTimer.empty, SteadyTimer.pending]

/-- Waits that have run out guard outstanding operations, unless a completed one stays
behind in the queue. -/
lemma ranOut_step {e : Event} (h : c.Tracked) (hdue : ∀ w, c.RanOut w → w ∈ c.outstanding)
    (hcond : ∀ id, c.completes e = some id → ¬ c.RanOut id) (hs : step env c e = some d) :
    ∀ w, d.RanOut w → w ∈ d.outstanding := by
  intro w hw
  cases hid : c.completes e with
  | some id =>
    obtain ⟨u, hu, hstarts⟩ := step_completes hid hs
    have hran : c.RanOut w := (hu.ranOut w).mp ((hstarts.ranOut w).mp hw)
    refine hstarts.kept w ?_
    rcases List.mem_cons.mp (hu.outstanding.mem_iff.mp (hdue w hran)) with rfl | hmem
    · exact absurd hran (hcond w hid)
    · exact hmem
  | none =>
    rcases step_other hid hs with hstarts | ⟨hids, -, -, hlive⟩
    · exact hstarts.kept w (hdue w ((hstarts.ranOut w).mp hw))
    · rw [hids]
      rcases hlive w hw with hp | hq
      · exact h.guards w hp
      · exact hdue w hq

lemma completes_ranOut {e : Event} {id : ℕ} (h : c.Tracked) (hid : c.completes e = some id)
    (hran : c.RanOut id) (hs : step env c e = some d) : d.RanOut id ∧ id ∉ d.outstanding := by
  obtain ⟨u, hu, hstarts⟩ := step_completes hid hs
  refine ⟨(hstarts.ranOut id).mpr ((hu.ranOut id).mpr hran), fun hmem => ?_⟩
  have hnodup := List.nodup_cons.mp (hu.outstanding.nodup_iff.mp h.nodup)
  rcases hstarts.new id hmem with hold | hnew
  · exact hnodup.1 hold
  · have hlt := h.below id (hu.outstanding.mem_iff.mpr List.mem_cons_self)
    rw [hu.ops] at hnew
    omega

lemma step_timerHandler_success {i w : ℕ}
    (hq : c.opsCancelTimer.queued[i]? = some ⟨w, .success⟩) :
    ∃ d, step env c (.timerHandler i) = some d ∧ d.net.connStat = .kClosed := by
  refine ⟨_, by rw [step, SteadyTimer.take, hq]; rfl, ?_⟩
  exact NetConn.sockShutdownAndClose_connStat _

lemma closesOutstanding_iff (env : ServerEnv) (c : TcpConnAsync) :
    c.ClosesOutstanding env ↔ ∀ w, c.RanOut w → w ∈ c.outstanding := by
  constructor
  · intro h w hw
    obtain ⟨i, hi, hq⟩ := List.mem_iff_getElem.mp hw
    have hq' : c.opsCancelTimer.queued[i]? = some ⟨w, .success⟩ := by
      rw [List.getElem?_eq_getElem hi, hq]
    obtain ⟨d, hd, hclosed⟩ := @step_timerHandler_success env c i w hq'
    exact h i w d hq' hd hclosed
  · intro h i w d hq _ _
    exact h w (List.mem_of_getElem? hq)

end Completes

/-- Only outstanding operations close the connection by their deadline exactly in the runs
in which no operation completes while the callback of its wait is queued with success. -/
theorem closesOutstanding_run_iff (env : ServerEnv) (es : List Event) :
    (∀ c, (machine env).Visits es c → c.ClosesOutstanding env) ↔
      ∀ c e d, (machine env).Takes es c e d → ∀ id, c.completes e = some id → ¬ c.RanOut id := by
  constructor
  · intro h c e d ht op hop hran
    have htracked : c.Tracked :=
      Machine.reachable_of_inductive (started_tracked env) (fun _ _ _ hc hs => hc.step hs)
        ht.visits.reachable
    obtain ⟨-, -, -, hn⟩ := id ht
    obtain ⟨hq, hnot⟩ := completes_ranOut htracked hop hran hn
    exact hnot ((closesOutstanding_iff env d).mp (h d ht.visits_next) _ hq)
  · intro h c hc
    rw [closesOutstanding_iff]
    have hstart : (started env).Tracked ∧
        ∀ w, (started env).RanOut w → w ∈ (started env).outstanding := by
      refine ⟨started_tracked env, fun w hw => ?_⟩
      rw [started_eq] at hw
      have hran := ((Starts.read env _ _ _).ranOut w).mp hw
      simp [RanOut, fresh, SteadyTimer.empty] at hran
    exact (Machine.visits_of_inductive (M := machine env)
      (C := fun c e => ∀ id, c.completes e = some id → ¬ c.RanOut id)
      (I := fun c => c.Tracked ∧ ∀ w, c.RanOut w → w ∈ c.outstanding) hstart
      (fun s e t hi hcond hs => ⟨hi.1.step hs, ranOut_step hi.1 hi.2 hcond hs⟩) h hc).2

def guardedEnv : ServerEnv := ⟨64, 0, 10, fun _ => none⟩

/-- The deadline passes, and the head arrives before the callback of the wait has run. -/
def lateTimeout : List Event :=
  [.timerExpire, .readDone 0 (0x74 :: 0x6b :: 0 :: 1 :: List.replicate 12 0)]

/-- The connection waits for the next head, and the callback that closes it is the one
of the read before. -/
theorem lateTimeout_closes :
    ∃ c, (machine guardedEnv).Visits lateTimeout c ∧ c.net.connStat = .kWorking ∧
      ¬ c.ClosesOutstanding guardedEnv := by
  have h : ((machine guardedEnv).run lateTimeout).any (fun c =>
      decide (c.net.connStat = .kWorking) && decide (⟨0, .success⟩ ∈ c.opsCancelTimer.queued) &&
        decide (0 ∉ c.outstanding)) := by
    decide +kernel
  obtain ⟨c, hc, hd⟩ := (Option.any_eq_true _ _).mp h
  simp only [Bool.and_eq_true, decide_eq_true_eq] at hd
  obtain ⟨⟨hw, hran⟩, hnot⟩ := hd
  exact ⟨c, Machine.visits_self hc, hw, fun hcloses =>
    hnot ((closesOutstanding_iff guardedEnv c).mp hcloses 0 hran)⟩

section Armed

variable {env : ServerEnv} {c d : TcpConnAsync} {kind : ReadKind}

lemma Armed.of_arm (hT : env.opsCancelTimeOut ≠ 0)
    (ht : d.opsCancelTimer = (c.setOpsCancelTimeout env).opsCancelTimer) : d.Armed := by
  obtain ⟨ho, -⟩ := setOpsCancelTimeout_timer hT c
  rw [Armed, ht]
  exact ⟨by rw [ho]; rfl, c.ops, Or.inl (by rw [SteadyTimer.pending, ho]; simp)⟩

lemma Armed.asyncSendMessage (hT : env.opsCancelTimeOut ≠ 0) (h : c.Armed) (msg : Message) :
    (c.asyncSendMessage env msg).2.Armed := by
  unfold TcpConnAsync.asyncSendMessage
  split_ifs
  · exact h
  · rcases doWrite_cases env (c.appendMessage msg) with ⟨hd, -⟩ | ⟨-, -, -, hd⟩
    · rw [hd]
      exact h
    · rw [hd]
      exact .of_arm hT rfl

lemma Chain.armed (hT : env.opsCancelTimeOut ≠ 0) (h : Chain env kind c d) (hd : ¬ d.Halted) :
    d.Armed := by
  induction h with
  | halted h => exact absurd h hd
  | arm => exact .of_arm hT rfl
  | @refuse c =>
    have hclosed : (c.parseHeader env).2.sockShutdownAndClose.net.connStat = .kClosed :=
      NetConn.sockShutdownAndClose_connStat _
    exact absurd (Or.inl (by simp [hclosed])) hd
  | header _ _ _ ih => exact ih hd
  | message _ _ ih => exact ih hd

lemma writeCompleted_bound (c : TcpConnAsync) (i : ℕ) :
    (c.dropWrite i).writeCompleted.send.bound = c.send.bound := by
  change (c.dropWrite i).revokeOpsCancelTimeout.send.bound = c.send.bound
  rw [revokeOpsCancelTimeout_send]
  rfl

/-- Only a write that completes with nothing more to write leaves a working connection
without its deadline. -/
lemma step_armed (hT : env.opsCancelTimeOut ≠ 0) {e : Event} (h1 : OneRead c)
    (h : c.net.connStat = .kWorking → c.Armed)
    (hcond : ∀ i, e = .writeDone i → c.net.connStat = .kWorking →
      c.send.bound.buffer.getLength ≠ 0)
    (hs : step env c e = some d) (hd : d.net.connStat = .kWorking) : d.Armed := by
  have hw : c.net.connStat = .kWorking := by
    by_contra hn
    exact (step_stopped hn hs).1 hd
  have hc : c.wasCancelled = false := by
    by_contra hn
    exact h1.cancelled (by simpa using hn) hw
  have harmed := h hw
  rcases step_net hs with ⟨hnet, hcan⟩ | hclosed
  swap
  · simp [hclosed] at hd
  cases e with
  | readDone i bytes =>
    obtain ⟨op, -, -, -, hchain⟩ := step_readDone_chain hs
    exact hchain.armed hT (by simp [Halted, hd, hcan, hc])
  | readFail i ec =>
    obtain ⟨op, -, hec, rfl⟩ := step_readFail hs
    have hclosed := Senders.readFailed_closed (show (c.dropRead i).mayFail ec from hec)
    simp [hclosed] at hd
  | wrote i n =>
    obtain ⟨op, -, -, rfl⟩ := step_wrote hs
    exact harmed
  | writeDone i =>
    obtain ⟨op, -, -, rfl⟩ := step_writeDone hs
    have hv := recvView_eq_iff.mp (writeCompleted_recvView (c.dropWrite i))
    have hsend := writeCompleted_bound c i
    rw [writeHandler]
    rcases doWrite_cases env (c.dropWrite i).writeCompleted with ⟨-, hempty⟩ | ⟨-, -, -, hwrite⟩
    · refine absurd (hempty rfl fun hh => ?_) (by rw [hsend]; exact hcond i rfl hw)
      rcases hh with hh | hh
      · exact hh (by rw [hv.1]; exact hw)
      · rw [hv.2.1] at hh
        exact absurd hh (by simp [dropWrite, hc])
    · rw [hwrite]
      exact .of_arm hT rfl
  | writeFail i ec =>
    obtain ⟨op, -, hec, rfl⟩ := step_writeFail hs
    have hclosed := Senders.readFailed_closed (show (c.dropWrite i).mayFail ec from hec)
    simp [writeHandler_failed, hclosed] at hd
  | send msg =>
    obtain rfl := Option.some.inj hs
    exact harmed.asyncSendMessage hT msg
  | timerExpire =>
    simp only [step] at hs
    split_ifs at hs
    obtain rfl := Option.some.inj hs
    obtain ⟨ho, w, hw⟩ := harmed
    exact ⟨by simpa [SteadyTimer.expire] using ho, w, hw.expire⟩
  | timerHandler i =>
    obtain ⟨⟨⟨w, code⟩, u⟩, ht, rfl⟩ := Option.map_eq_some_iff.mp hs
    cases code with
    | success =>
      have hclosed : (opsCancelTimeoutCall { c with opsCancelTimer := u } .success).net.connStat =
          .kClosed := NetConn.sockShutdownAndClose_connStat _
      simp [hclosed] at hd
    | aborted =>
      obtain ⟨ho, v, hv⟩ := harmed
      obtain ⟨-, hobj, -⟩ := SteadyTimer.take_spec ht
      exact ⟨by simpa [opsCancelTimeoutCall, hobj] using ho, v, hv.of_take_aborted ht rfl⟩

lemma step_writeDone_unarmed {i : ℕ} (hs : step env c (.writeDone i) = some d)
    (h0 : c.send.bound.buffer.getLength = 0) : d.net = c.net ∧ ¬ d.Armed := by
  obtain ⟨op, -, -, rfl⟩ := step_writeDone hs
  have hv := recvView_eq_iff.mp (writeCompleted_recvView (c.dropWrite i))
  have hsend := writeCompleted_bound c i
  rw [writeHandler]
  rcases doWrite_cases env (c.dropWrite i).writeCompleted with ⟨hsame, -⟩ | ⟨-, -, hne, -⟩
  · rw [hsame]
    refine ⟨hv.1, fun harmed => ?_⟩
    have ho := (revokeOpsCancelTimeout_timer (c.dropWrite i)).1
    have hobj : (c.dropWrite i).writeCompleted.opsCancelTimer.object = none := ho
    rw [Armed, hobj] at harmed
    exact absurd harmed.1 (by simp)
  · rw [hsend] at hne
    exact absurd h0 hne

end Armed

/-- With a timeout set, a working connection with an operation outstanding is under a
deadline exactly in the runs in which no write completes on a working connection with
nothing more to write. -/
theorem armed_run_iff {env : ServerEnv} (hT : 0 < env.opsCancelTimeOut) (es : List Event) :
    (∀ c, (machine env).Visits es c → c.net.connStat = .kWorking →
        c.recv.reads ≠ [] ∨ c.send.writes ≠ [] → c.Armed) ↔
      ∀ c i d, (machine env).Takes es c (.writeDone i) d → c.net.connStat = .kWorking →
        c.send.bound.buffer.getLength ≠ 0 := by
  have hT0 : env.opsCancelTimeOut ≠ 0 := by
    rintro h
    simp [h] at hT
  constructor
  · intro h c i d ht hw h0
    obtain ⟨-, -, -, hn⟩ := id ht
    obtain ⟨hnet, hunarmed⟩ := step_writeDone_unarmed hn h0
    have hd := h d ht.visits_next
    have h1 : OneRead d := reachable_oneRead ht.visits_next.reachable
    have hwd : d.net.connStat = .kWorking := by rw [hnet, hw]
    refine hunarmed (hd hwd (Or.inl fun hnil => ?_))
    have hone := h1.reading (fun hh => hh.elim (fun hn => hn hwd) fun hc => h1.cancelled hc hwd)
    simp [hnil] at hone
  · intro h c hc hw _
    have hstart : (started env).Armed := by
      rw [started_eq]
      exact .of_arm hT0 rfl
    exact (Machine.visits_of_inductive (M := machine env)
      (C := fun c e => ∀ i, e = .writeDone i → c.net.connStat = .kWorking →
        c.send.bound.buffer.getLength ≠ 0)
      (I := fun c => OneRead c ∧ (c.net.connStat = .kWorking → c.Armed))
      ⟨started_oneRead env, fun _ => hstart⟩
      (fun s e t hi hcond hs => ⟨hi.1.step hs, step_armed hT0 hi.1 hi.2 hcond hs⟩)
      (fun s e t ht i he => h s i t (he ▸ ht)) hc).2 hw

def silentPeer : List Event :=
  [.send (Message.ofPayload [1]), .wrote 0 17, .writeDone 0]

theorem silentPeer_unarmed :
    ∃ c, (machine guardedEnv).Visits silentPeer c ∧ c.net.connStat = .kWorking ∧
      c.recv.reads ≠ [] ∧ ¬ c.Armed := by
  have h : ((machine guardedEnv).run silentPeer).any (fun c =>
      decide (c.net.connStat = .kWorking) && decide (c.recv.reads ≠ []) &&
        decide (c.opsCancelTimer.object = none)) := by
    decide +kernel
  obtain ⟨c, hc, hd⟩ := (Option.any_eq_true _ _).mp h
  simp only [Bool.and_eq_true, decide_eq_true_eq] at hd
  obtain ⟨⟨hw, hreads⟩, hobj⟩ := hd
  refine ⟨c, Machine.visits_self hc, hw, hreads, fun harmed => ?_⟩
  rw [Armed, hobj] at harmed
  exact absurd harmed.1 (by simp)

def busyPeer : List Event :=
  [.send (Message.ofPayload [1]), .send (Message.ofPayload [2]), .wrote 0 17, .writeDone 0]

theorem busyPeer_armed :
    ∃ c, (machine guardedEnv).run busyPeer = some c ∧ c.net.connStat = .kWorking ∧
      c.recv.reads ≠ [] ∧ c.Armed := by
  have hsteps : ∀ x ∈ (machine guardedEnv).trace (machine guardedEnv).start busyPeer,
      x.2.1 ∈ busyPeer.take 3 ∨ x.1.send.bound.buffer.getLength ≠ 0 := by
    decide +kernel
  have hrun : ((machine guardedEnv).run busyPeer).any (fun c =>
      decide (c.net.connStat = .kWorking ∧ c.recv.reads ≠ [])) := by
    decide +kernel
  obtain ⟨last, hlast, hd⟩ := (Option.any_eq_true _ _).mp hrun
  obtain ⟨hwork, hreads⟩ := of_decide_eq_true hd
  refine ⟨last, hlast, hwork, hreads, (armed_run_iff (by decide) _).mpr (fun c i d ht _ => ?_) last
    (Machine.visits_self hlast) hwork (Or.inl hreads)⟩
  rcases hsteps _ ht.mem_trace with h | h
  · simp [busyPeer] at h
  · exact h

end Tzrpc.TcpConnAsync
