import Tzrpc.SyncCallWorld

/-!
# The client's side of its connection

The client keeps a connection only behind a response it has read to the end, so a call
always starts on a stream without leftovers; on every other way out the connection is
given up.
-/
namespace Tzrpc

open Client (Call TcpConnSync RpcClientImpl SyncOp Blocked Returned ClientSetting RpcClientStatus)
open Client.RpcClientImpl (requestMessage checkResponse)

/-- Where the client's end of the newest link stands: between two calls nothing is left in
any buffer; a call writes its request, then reads the answer to it. -/
def Stage (setting : ClientSetting) (l : Link) (c : TcpConnSync) : Option (Call × Blocked) → Prop
  | none =>
    l.Serves l.calls.length ∧ l.up.all = requests l.calls ∧ c.sendBound.buffer.data = [] ∧
      c.recvBound.buffer.data = []
  | some (_, .connect) => False
  | some (call, .io op) =>
    ∃ older, l.calls = older ++ [call] ∧ l.Serves older.length ∧
      l.up.all ++ c.unsent op = requests l.calls ∧
      match op with
      | .write _ _ =>
        l.readBy call.id = [] ∧ c.sendBound.buffer.data.length < 2 ^ 32 ∧
          c.recvBound.buffer.data = []
      | .read kind n =>
        c.sendBound.buffer.data = [] ∧ TcpConnSync.Waits setting (l.readBy call.id) c kind n

def Link.Replied (l : Link) (r : Returned) : Prop :=
  ∃ a ∈ l.answers, ∃ p, l.calls[a.request]? = some r.call ∧ a.answer = .reply p ∧
    r.respload = some p

/-- The calls that returned `OK` got replies to their own requests. -/
def Matched (links : List Link) (returned : List Returned) : Prop :=
  ∀ r ∈ returned, r.status = .OK → ∃ l ∈ links, l.Replied r

structure ClientOk (links : List Link) (cl : RpcClientImpl) : Prop where
  calling : ∀ call b, cl.calling = some (call, b) →
    call.sync = true ∧ call.payload.length < 2 ^ 31 ∧ call.id < cl.calls
  connecting : ∀ call, cl.calling = some (call, .connect) → call.id ∉ callIds links
  current : ∀ c, cl.connSync = some c →
    ∃ l rest, links = l :: rest ∧ Stage cl.setting l c cl.calling
  returned : Matched links cl.returned

section Keep

variable {l l' : Link} {r : Returned} {links links' : List Link} {returned : List Returned}

lemma Link.Replied.mono (h : l.Replied r) (hcalls : l.calls <+: l'.calls)
    (hans : l.answers <+: l'.answers) : l'.Replied r := by
  obtain ⟨a, ha, p, hc, hrest⟩ := h
  obtain ⟨more, hmore⟩ := hcalls
  refine ⟨a, hans.subset ha, p, ?_, hrest⟩
  rw [← hmore, List.getElem?_append_left (List.getElem?_eq_some_iff.mp hc).1, hc]

lemma Matched.mono (h : Matched links returned)
    (hl : ∀ l ∈ links, ∃ l' ∈ links', l.calls <+: l'.calls ∧ l.answers <+: l'.answers) :
    Matched links' returned := by
  intro r hr hok
  obtain ⟨l, hmem, hrep⟩ := h r hr hok
  obtain ⟨l', hmem', hcalls, hans⟩ := hl l hmem
  exact ⟨l', hmem', hrep.mono hcalls hans⟩

lemma Matched.head (h : Matched (l :: links) returned) (hcalls : l.calls <+: l'.calls)
    (hans : l.answers <+: l'.answers) : Matched (l' :: links) returned := by
  refine h.mono (List.forall_mem_cons.mpr ⟨⟨l', List.mem_cons_self, hcalls, hans⟩, ?_⟩)
  exact fun k hk => ⟨k, List.mem_cons_of_mem l' hk, List.prefix_refl _, List.prefix_refl _⟩

lemma Matched.append (h : Matched links returned)
    (hr : r.status = .OK → ∃ l ∈ links, l.Replied r) : Matched links (returned ++ [r]) := by
  intro r' hr' hok
  rcases List.mem_append.mp hr' with hr' | hr'
  · exact h r' hr' hok
  · obtain rfl := List.mem_singleton.mp hr'
    exact hr hok

end Keep

lemma checkResponse_ok {call : Call} {msg : Message} {m : RpcResponseMessage}
    (h : msg.payload = m.netStr) (hok : (checkResponse call msg).status = .OK) :
    m.header.status = .OK ∧ (checkResponse call msg).respload = some m.payload := by
  unfold checkResponse at hok ⊢
  rw [h, RpcResponseMessage.parse_netStr] at hok ⊢
  dsimp only at hok ⊢
  split_ifs at hok ⊢ with hbad hstatus
  · cases hok
  · exact absurd (congrArg RpcResponseStatus.mk (RpcClientStatus.mk.inj hok)) hstatus
  · exact ⟨not_not.mp hstatus, rfl⟩

section Calls

variable {S : Setup} {cl : RpcClientImpl} {call : Call} {l : Link} {links : List Link}
  {older : List Call} {c : TcpConnSync} {n : ℕ}

/-- What a call in progress needs of the client and of the newest link. -/
structure InCall (S : Setup) (cl : RpcClientImpl) (call : Call) (older : List Call) (l : Link)
    (links : List Link) : Prop where
  call_ok : call.sync = true ∧ call.payload.length < 2 ^ 31 ∧ call.id < cl.calls
  returned : Matched (l :: links) cl.returned
  sound : l.Sound S
  serves : l.Serves older.length
  calls : l.calls = older ++ [call]

lemma proceeds_calls {cl' : RpcClientImpl} (h : RpcClientImpl.Proceeds cl call cl') :
    cl'.calls = cl.calls := by
  cases h <;> rfl

lemma finish_failed (h : Matched links cl.returned) {status : RpcClientStatus}
    (hs : status = .NETWORK_SEND_ERROR ∨ status = .NETWORK_RECV_ERROR) :
    ClientOk links ({ cl with connSync := none }.finish (cl.failure call status)) where
  calling := by simp [RpcClientImpl.finish]
  connecting := by simp [RpcClientImpl.finish]
  current := by simp [RpcClientImpl.finish]
  returned := by
    refine h.append fun hok => ?_
    simp only [RpcClientImpl.failure, RpcClientImpl.failedStatus] at hok
    rcases hs with rfl | rfl <;> split_ifs at hok <;> cases hok

lemma InCall.readBy_lt (h : InCall S cl call older l links) :
    (l.readBy call.id).length < 2 ^ 32 := by
  rcases h.serves.response h.sound h.calls with hnil | ⟨a, hrest, -, -, hpre⟩
  · simp [hnil]
  · obtain ⟨m, hm, hlen, -⟩ := h.sound.message
      (List.mem_of_mem_drop (hrest ▸ List.mem_singleton_self a))
    have h2048 : kFixedIoBufferSize.toNat = 2048 := rfl
    have hle := hpre.length_le
    rw [Response.bytes, hm, Message.netStr, List.length_append, Header.wire_length,
      Message.ofPayload_payload, Header.size] at hle
    omega

lemma InCall.received (h : InCall S cl call older l links) {msg : Message} {d : TcpConnSync}
    (hup : l.up.all = requests l.calls) (hsend : d.sendBound.buffer.data = [])
    (hreads : TcpConnSync.Reads cl.setting (l.readBy call.id) c (.received msg, d)) :
    ClientOk (l :: links) ({ cl with connSync := some d }.finish (checkResponse call msg)) := by
  have hne : l.readBy call.id ≠ [] := by
    obtain ⟨-, f, t, hacc, hs, -⟩ := hreads
    intro hnil
    have hlen := congrArg List.length (hnil.symm.trans hs)
    have hhead : f.head.length = 16 := hacc.1
    simp only [List.length_nil, Frame.elems, List.length_append] at hlen
    omega
  obtain ⟨a, hrest, hreq, hacc, hpre⟩ := (h.serves.response h.sound h.calls).resolve_left hne
  have ha : a ∈ l.answers := List.mem_of_mem_drop (hrest ▸ List.mem_singleton_self a)
  obtain ⟨m, hm, hlen, hans⟩ := h.sound.message ha
  have h2048 : kFixedIoBufferSize.toNat = 2048 := rfl
  rw [Response.bytes, hm] at hpre
  obtain ⟨hfull, rfl, hdata, -⟩ := TcpConnSync.received_of_message (by omega) hpre hreads
  have hnext := h.serves.next h.calls hrest hreq hacc (by rw [hfull, Response.bytes, hm])
  refine ⟨by simp [RpcClientImpl.finish], by simp [RpcClientImpl.finish], ?_, ?_⟩
  · intro c' hc'
    obtain rfl := Option.some.inj hc'
    exact ⟨l, links, rfl, hnext, hup, hsend, hdata⟩
  · refine h.returned.append fun hok => ⟨l, List.mem_cons_self, a, ha, ?_⟩
    obtain ⟨hstatus, hload⟩ := checkResponse_ok (Message.ofPayload_payload _) hok
    have hcall : l.calls[a.request]? = some (checkResponse call (.ofPayload m.netStr)).call := by
      rw [RpcClientImpl.checkResponse_call, h.calls, hreq]
      simp
    cases hk : a.answer with
    | reply p =>
      simp only [hk] at hans
      exact ⟨p, hcall, rfl, hans.2 ▸ hload⟩
    | reject status =>
      simp only [hk] at hans
      exact absurd (hans.1.symm.trans hstatus) hans.2

lemma InCall.blocked (h : InCall S cl call older l links) {op : SyncOp} {d : TcpConnSync}
    (hstage : Stage cl.setting l d (some (call, .io op))) :
    ClientOk (l :: links) { cl with connSync := some d, calling := some (call, .io op) } := by
  refine ⟨?_, ?_, ?_, h.returned⟩
  · intro call' b hb
    obtain ⟨rfl, -⟩ := Prod.mk.inj (Option.some.inj hb)
    exact h.call_ok
  · intro call' hb
    cases hb
  · intro c' hc'
    obtain rfl := Option.some.inj hc'
    exact ⟨l, links, rfl, hstage⟩

lemma InCall.afterRecv (h : InCall S cl call older l links) {r : Client.Outcome × TcpConnSync}
    (hup : l.up.all = requests l.calls) (hsend : c.sendBound.buffer.data = [])
    (hreads : TcpConnSync.Reads cl.setting (l.readBy call.id) c r) :
    ClientOk (l :: links) (cl.afterRecv call r) := by
  obtain ⟨outcome, d⟩ := r
  have hd : d.sendBound.buffer.data = [] := by rw [hreads.1, hsend]
  cases outcome with
  | blocked op =>
    cases op with
    | write size sent => exact hreads.2.elim
    | read kind n =>
      obtain ⟨-, hwaits, -⟩ := hreads
      exact h.blocked ⟨older, h.calls, h.serves, by simpa [TcpConnSync.unsent] using hup, hd,
        hwaits⟩
  | sent => exact hreads.2.elim
  | received msg => exact h.received hup hd hreads
  | failed => exact finish_failed h.returned (Or.inr rfl)

lemma InCall.afterSend (h : InCall S cl call older l links)
    (hup : l.up.all ++ c.sendBound.buffer.data = requests l.calls)
    (hlen : c.sendBound.buffer.data.length < 2 ^ 32) (hrecv : c.recvBound.buffer.data = [])
    (hnone : l.readBy call.id = []) : ClientOk (l :: links) (cl.afterSend call c.writeLoop) := by
  rcases TcpConnSync.writeLoop_eq hlen with ⟨hnil, hsent⟩ | ⟨size, d, hw, hrecv', hunsent, hle⟩
  · rw [hsent]
    rw [hnil, List.append_nil] at hup
    refine h.afterRecv hup hnil ?_
    have hreads := @TcpConnSync.doRead_reads cl.setting c (by simp [hrecv])
    rwa [hrecv, ← hnone] at hreads
  · rw [hw]
    exact h.blocked ⟨older, h.calls, h.serves, hunsent ▸ hup, hnone, by omega, hrecv' ▸ hrecv⟩

lemma setRpcCallTimeout_view (cl : RpcClientImpl) (call : Call) :
    (cl.setRpcCallTimeout call).returned = cl.returned ∧
      (cl.setRpcCallTimeout call).calls = cl.calls := by
  unfold RpcClientImpl.setRpcCallTimeout
  split_ifs <;> exact ⟨rfl, rfl⟩

lemma startSync_calls (cl : RpcClientImpl) (call : Call) (c : TcpConnSync) :
    (cl.startSync call c).calls = cl.calls :=
  (proceeds_calls (RpcClientImpl.startSync_proceeds cl call c)).trans
    (setRpcCallTimeout_view cl call).2

lemma InCall.startSync (h : InCall S cl call older l links)
    (hup : l.up.all ++ (requestMessage call).netStr = requests l.calls)
    (hsend : c.sendBound.buffer.data = []) (hrecv : c.recvBound.buffer.data = [])
    (hnone : l.readBy call.id = []) : ClientOk (l :: links) (cl.startSync call c) := by
  have hset := setRpcCallTimeout_view cl call
  have h' : InCall S (cl.setRpcCallTimeout call) call older l links :=
    ⟨hset.2 ▸ h.call_ok, hset.1 ▸ h.returned, h.sound, h.serves, h.calls⟩
  unfold RpcClientImpl.startSync
  rcases TcpConnSync.sendNetMessage_eq (cl.setRpcCallTimeout call).setting c (requestMessage call)
    with ⟨d, hd⟩ | ⟨d, hd, hdrecv, hdsend⟩
  · simp only [hd]
    exact finish_failed h'.returned (Or.inl rfl)
  · simp only [hd]
    rw [hsend, List.nil_append] at hdsend
    refine h'.afterSend (hdsend ▸ hup) ?_ (hdrecv ▸ hrecv) hnone
    have hlen := requestMessage_length h.call_ok.2.1
    rw [hdsend, Message.netStr, List.length_append, Header.wire_length]
    simp only [RpcRequestHeader.size, Header.size] at hlen ⊢
    omega

end Calls

section Frame

variable {S : Setup} {w w' : World} {cl cl' : RpcClientImpl} {call : Call} {l l' : Link}
  {links : List Link} {c c' : TcpConnSync}

lemma Stage.of_bounds {setting : ClientSetting} {b : Option (Call × Blocked)}
    (h : Stage setting l c b) (hrecv : c'.recvBound = c.recvBound)
    (hsend : c'.sendBound = c.sendBound) : Stage setting l c' b := by
  match b with
  | none => simpa only [Stage, hrecv, hsend] using h
  | some (_, .connect) => exact h
  | some (call, .io op) =>
    obtain ⟨older, hcalls, hserves, hup, hop⟩ := h
    refine ⟨older, hcalls, hserves, ?_, ?_⟩
    · cases op <;> simpa only [TcpConnSync.unsent, hsend] using hup
    · cases op with
      | write size sent => simpa only [hrecv, hsend] using hop
      | read kind n =>
        refine ⟨hsend ▸ hop.1, ?_⟩
        cases kind <;> simpa only [TcpConnSync.Waits, hrecv] using hop.2

lemma Stage.server {setting : ClientSetting} {b : Option (Call × Blocked)} {e : Link.Event}
    (h : Stage setting l c b) (hs : l.step S e = some l') : Stage setting l' c b := by
  obtain ⟨hcalls, hreads, -, hup, -⟩ := Link.step_client_view hs
  have hby : ∀ id, l'.readBy id = l.readBy id := fun id => by rw [Link.readBy, hreads, Link.readBy]
  rcases b with _ | ⟨call, _ | op⟩
  · obtain ⟨hserves, hrest⟩ := h
    simp only [Stage, hcalls, hup]
    exact ⟨Link.step_serves hserves hs, hrest⟩
  · exact h
  · obtain ⟨older, hold, hserves, hrest⟩ := h
    simp only [Stage, hcalls, hup, hby]
    exact ⟨older, hold, Link.step_serves hserves hs, hrest⟩

lemma ClientOk.of_view (h : ClientOk links cl) (hcalling : cl'.calling = cl.calling)
    (hcalls : cl'.calls = cl.calls) (hret : cl'.returned = cl.returned)
    (hset : cl'.setting = cl.setting)
    (hconn : ∀ c', cl'.connSync = some c' → ∃ c, cl.connSync = some c ∧
      c'.recvBound = c.recvBound ∧ c'.sendBound = c.sendBound) : ClientOk links cl' := by
  constructor
  · rw [hcalling, hcalls]
    exact h.calling
  · rw [hcalling]
    exact h.connecting
  · intro c' hc'
    obtain ⟨c, hc, hrecv, hsend⟩ := hconn c' hc'
    obtain ⟨l, rest, hl, hstage⟩ := h.current c hc
    rw [hcalling, hset]
    exact ⟨l, rest, hl, hstage.of_bounds hrecv hsend⟩
  · rw [hret]
    exact h.returned

lemma rpcCallTimeout_calls (cl : RpcClientImpl) (wait : Client.CallWait) (code : WaitCode) :
    (cl.rpcCallTimeout wait code).calls = cl.calls := by
  cases code with
  | aborted => rfl
  | success =>
    unfold RpcClientImpl.rpcCallTimeout
    dsimp only
    split_ifs <;> split <;> rfl

lemma ClientOk.rpcCallTimeout (h : ClientOk links cl) (wait : Client.CallWait) (code : WaitCode) :
    ClientOk links (cl.rpcCallTimeout wait code) := by
  cases code with
  | aborted => exact h
  | success =>
    unfold RpcClientImpl.rpcCallTimeout
    dsimp only
    split_ifs
    · split
      · rename_i c hc
        refine h.of_view rfl rfl rfl rfl fun c' hc' => ?_
        obtain rfl := Option.some.inj hc'
        exact ⟨c, hc, rfl, rfl⟩
      · exact h.of_view rfl rfl rfl rfl fun c' hc' => ⟨c', hc', rfl, rfl⟩
    · split <;> exact h.of_view rfl rfl rfl rfl fun c' hc' => ⟨c', hc', rfl, rfl⟩

lemma ClientOk.server {i : ℕ} {e : Link.Event} (h : ClientOk links cl) (hl : links[i]? = some l)
    (hs : l.step S e = some l') : ClientOk (links.set i l') cl := by
  obtain ⟨hcalls, -, -, -, hans⟩ := Link.step_client_view hs
  refine ⟨h.calling, ?_, fun c hc => ?_, ?_⟩
  · rw [callIds_set hl hcalls]
    exact h.connecting
  · obtain ⟨k, rest, rfl, hstage⟩ := h.current c hc
    cases i with
    | zero =>
      obtain rfl := Option.some.inj hl
      exact ⟨l', rest, rfl, hstage.server hs⟩
    | succ i => exact ⟨k, rest.set i l', rfl, hstage⟩
  · refine h.returned.mono fun k hk => ?_
    obtain ⟨j, hj⟩ := List.mem_iff_getElem?.mp hk
    by_cases hij : i = j
    · obtain rfl := hij
      obtain rfl := Option.some.inj (hl.symm.trans hj)
      exact ⟨l', List.mem_set (List.getElem?_eq_some_iff.mp hl).1 l',
        hcalls ▸ List.prefix_refl _, hans⟩
    · refine ⟨k, List.mem_of_getElem? (i := j) ?_, List.prefix_refl _, List.prefix_refl _⟩
      rw [List.getElem?_set_ne hij, hj]

end Frame

end Tzrpc
