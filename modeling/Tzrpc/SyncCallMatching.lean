import Tzrpc.SyncCallClient

/-!
# Responses match their calls

Client and server together: on every way through its connections a synchronous call that
returns `OK` has the payload of the one reply to its own request, and no call reads bytes
of a response to another.
-/
namespace Tzrpc

open Client (Call TcpConnSync RpcClientImpl SyncOp Blocked Returned RpcClientStatus)
open Client.RpcClientImpl (requestMessage)

namespace World

structure Ok (S : Setup) (w : World) : Prop where
  links : LinksOk S w.client.calls w.links
  client : ClientOk w.links w.client

lemma Ok.of_links {S : Setup} {cl : RpcClientImpl} {links : List Link} {calls : ℕ}
    (hn : cl.calls = calls) (hl : LinksOk S calls links) (hc : ClientOk links cl) :
    Ok S ⟨cl, links⟩ := ⟨hn ▸ hl, hc⟩

section Step

variable {S : Setup} {w w' : World} {cl : RpcClientImpl} {links : List Link}

lemma Ok.callRPC {sync : Bool} {serviceId opcode : UInt16} {payload : Bytes} {timeoutSec : UInt32}
    (h : w.Ok S)
    (hcl : w.client.step (.callRPC sync serviceId opcode payload timeoutSec) = some cl)
    (hl : w.linksAfter S (.callRPC sync serviceId opcode payload timeoutSec) = some links) :
    Ok S ⟨cl, links⟩ := by
  simp only [RpcClientImpl.step] at hcl
  split at hcl
  · cases hcl
  rename_i hidle
  obtain rfl := Option.some.inj hcl
  simp only [linksAfter] at hl
  split_ifs at hl with hc
  obtain ⟨rfl, hfits⟩ := hc
  have hnew : w.client.calls ∉ callIds w.links := fun hid => lt_irrefl _ (h.links.fresh _ hid)
  cases hconn : w.client.connSync with
  | none =>
    rw [hconn] at hl
    obtain rfl := Option.some.inj hl
    rw [RpcClientImpl.callRPC_connecting rfl (by simp [RpcClientImpl.Holds, hconn])]
    refine ⟨h.links.of_le (Nat.le_succ _), ?_, ?_, ?_, h.client.returned⟩
    · intro call b hb
      obtain ⟨rfl, -⟩ := Prod.mk.inj (Option.some.inj hb)
      exact ⟨rfl, hfits, Nat.lt_succ_self _⟩
    · intro call hb
      obtain ⟨rfl, -⟩ := Prod.mk.inj (Option.some.inj hb)
      exact hnew
    · intro c hc
      rw [hconn] at hc
      cases hc
  | some c =>
    obtain ⟨l, rest, hrest, hserves, hup, hsend, hrecv⟩ :=
      hidle ▸ h.client.current c hconn
    rw [hconn, hrest] at hl
    obtain rfl := Option.some.inj hl
    rw [RpcClientImpl.callRPC_sync rfl hconn]
    have hlinks := h.links
    have hret := h.client.returned
    rw [hrest] at hlinks hret hnew
    let call : Call := ⟨w.client.calls, true, serviceId, opcode, payload, timeoutSec⟩
    obtain ⟨hjoin, hlinks'⟩ := @LinksOk.join S rest l call hlinks hserves hfits
    have hin : InCall S { w.client with calls := w.client.calls + 1 } call l.calls (l.join call)
        rest :=
      ⟨⟨rfl, hfits, Nat.lt_succ_self _⟩, hret.head (List.prefix_append _ _) (List.prefix_refl _),
        hlinks'.sound _ List.mem_cons_self, hjoin, rfl⟩
    refine .of_links (startSync_calls _ _ _) hlinks' (hin.startSync ?_ hsend hrecv
      (hlinks.readBy_new List.mem_cons_self hnew))
    simp [Link.join, requests, hup]

lemma Ok.connected (h : w.Ok S) (hcl : w.client.step .connected = some cl)
    (hl : w.linksAfter S .connected = some links) : Ok S ⟨cl, links⟩ := by
  simp only [RpcClientImpl.step] at hcl
  split at hcl
  · rename_i call hcalling
    obtain rfl := Option.some.inj hcl
    simp only [linksAfter, hcalling, Option.map_some] at hl
    obtain rfl := Option.some.inj hl
    have hcall := h.client.calling call _ hcalling
    have hlinks := h.links.opened hcall.2.1 (h.client.connecting call hcalling) hcall.2.2
    rw [RpcClientImpl.connected, if_pos hcall.1]
    have hmatched : Matched (.opened S call :: w.links) w.client.returned :=
      h.client.returned.mono fun k hk => ⟨k, List.mem_cons_of_mem _ hk, List.prefix_refl _,
        List.prefix_refl _⟩
    have hin : InCall S w.client call [] (.opened S call) w.links :=
      ⟨hcall, hmatched, hlinks.sound _ List.mem_cons_self, Link.opened_serves S call, rfl⟩
    refine .of_links (startSync_calls _ _ _) hlinks (hin.startSync ?_ ?_ ?_ ?_)
    · rw [Link.opened_up, Link.opened_calls, requests_singleton, Pipe.all_empty, List.nil_append]
    · simp [TcpConnSync.fresh, IOBound.fresh, Buffer.empty]
    · simp [TcpConnSync.fresh, IOBound.fresh, Buffer.empty]
    · simp [Link.opened, Link.readBy]
  · cases hcl

lemma Ok.connectFailed (h : w.Ok S) (hcl : w.client.step .connectFailed = some cl) :
    Ok S ⟨cl, w.links⟩ := by
  simp only [RpcClientImpl.step] at hcl
  split at hcl
  · rename_i call hcalling
    obtain rfl := Option.some.inj hcl
    refine ⟨h.links, by simp [RpcClientImpl.finish], by simp [RpcClientImpl.finish], ?_, ?_⟩
    · intro c hc
      obtain ⟨l, rest, -, hstage⟩ := h.client.current c hc
      rw [hcalling] at hstage
      exact hstage.elim
    · exact h.client.returned.append fun hok => by cases hok
  · cases hcl

lemma Ok.wrote {n : ℕ} (h : w.Ok S) (hcl : w.client.step (.wrote n) = some cl)
    (hl : w.linksAfter S (.wrote n) = some links) : Ok S ⟨cl, links⟩ := by
  simp only [RpcClientImpl.step] at hcl
  split at hcl
  · rename_i call size sent c hcalling hconn
    split_ifs at hcl with hn
    obtain rfl := Option.some.inj hcl
    obtain ⟨l, rest, hrest, hstage⟩ := h.client.current c hconn
    rw [hcalling] at hstage
    obtain ⟨older, hcalls, hserves, hup, hnone, hlen, hrecv⟩ := hstage
    rw [TcpConnSync.unsent_wrote size sent n hn.1, ← List.append_assoc] at hup
    simp only [linksAfter, hcalling, hconn, hrest] at hl
    obtain rfl := Option.some.inj hl
    have hlinks := h.links
    have hclient := h.client
    rw [hrest] at hlinks hclient
    obtain ⟨hserves', hlinks'⟩ := hlinks.write hserves (by simp [hcalls]) ⟨_, hup⟩
    refine ⟨hlinks', ?_, ?_, ?_, ?_⟩
    · intro call' b hb
      obtain ⟨rfl, -⟩ := Prod.mk.inj (Option.some.inj hb)
      exact hclient.calling call _ hcalling
    · intro call' hb
      cases hb
    · intro c' hc'
      obtain rfl := Option.some.inj (hconn.symm.trans hc')
      refine ⟨_, rest, rfl, older, hcalls, hserves', ?_, hnone, hlen, hrecv⟩
      rw [Link.write, Pipe.put_all]
      exact hup
    · exact hclient.returned.head (List.prefix_refl _) (List.prefix_refl _)
  · cases hcl

lemma Ok.writeDone (h : w.Ok S) (hcl : w.client.step .writeDone = some cl) :
    Ok S ⟨cl, w.links⟩ := by
  simp only [RpcClientImpl.step] at hcl
  split at hcl
  · rename_i call size sent c hcalling hconn
    split_ifs at hcl with hn
    obtain rfl := Option.some.inj hcl
    obtain ⟨l, rest, hrest, hstage⟩ := h.client.current c hconn
    rw [hcalling] at hstage
    obtain ⟨older, hcalls, hserves, hup, hnone, hlen, hrecv⟩ := hstage
    have hlinks := h.links
    have hret := h.client.returned
    rw [hrest] at hlinks hret
    have hunsent : c.unsent (.write size sent) = c.sendBound.buffer.data := by
      rw [TcpConnSync.unsent, hn, List.drop_eq_nil_of_le (List.length_take_le _ _), List.nil_append]
    rw [hrest]
    exact .of_links (proceeds_calls (RpcClientImpl.afterSend_proceeds _ _ _)) hlinks
      (InCall.afterSend ⟨h.client.calling call _ hcalling, hret, hlinks.sound l List.mem_cons_self,
        hserves, hcalls⟩ (hunsent ▸ hup) hlen hrecv hnone)
  · cases hcl

lemma Ok.readDone {bytes : Bytes} (h : w.Ok S) (hcl : w.client.step (.readDone bytes) = some cl)
    (hl : w.linksAfter S (.readDone bytes) = some links) : Ok S ⟨cl, links⟩ := by
  simp only [RpcClientImpl.step] at hcl
  split at hcl
  · rename_i call kind atLeast c hcalling hconn
    split_ifs at hcl
    obtain rfl := Option.some.inj hcl
    obtain ⟨l, rest, hrest, hstage⟩ := h.client.current c hconn
    rw [hcalling] at hstage
    obtain ⟨older, hcalls, hserves, hup, hsend, hwaits⟩ := hstage
    simp only [linksAfter, hcalling, hrest] at hl
    obtain ⟨l', hread, rfl⟩ := Option.map_eq_some_iff.mp hl
    have hlinks := h.links
    have hret := h.client.returned
    rw [hrest] at hlinks hret
    obtain ⟨hserves', hby, hlinks'⟩ := hlinks.read hserves hcalls hread
    obtain ⟨hcalls', hans, -, -, hup'⟩ := Link.read_view hread
    have hcall : InCall S w.client call older l' rest :=
      ⟨h.client.calling call _ hcalling, hret.head (hcalls' ▸ List.prefix_refl _)
        (hans ▸ List.prefix_refl _), hlinks'.sound l' List.mem_cons_self, hserves',
        hcalls'.trans hcalls⟩
    have hlen : (c.recvBound.buffer.data ++ bytes).length < 2 ^ 32 := by
      have hle := hwaits.buffer_le
      have hbound := hcall.readBy_lt
      rw [hby, List.length_append] at hbound
      rw [List.length_append]
      omega
    refine .of_links (proceeds_calls (RpcClientImpl.afterRecv_proceeds _ _ _)) hlinks'
      (hcall.afterRecv ?_ hsend (hby ▸ TcpConnSync.readDone_reads hwaits hlen))
    rw [hup', hcalls']
    simpa [TcpConnSync.unsent] using hup
  · cases hcl

lemma Ok.ioFailed {ec : ErrorCode} (h : w.Ok S) (hcl : w.client.step (.ioFailed ec) = some cl) :
    Ok S ⟨cl, w.links⟩ := by
  simp only [RpcClientImpl.step] at hcl
  split at hcl
  · obtain rfl := Option.some.inj hcl
    exact ⟨h.links, finish_failed h.client.returned (Or.inl rfl)⟩
  · obtain rfl := Option.some.inj hcl
    exact ⟨h.links, finish_failed h.client.returned (Or.inr rfl)⟩
  · cases hcl

lemma Ok.client_step {e : RpcClientImpl.Event} (h : w.Ok S) (hcl : w.client.step e = some cl)
    (hl : w.linksAfter S e = some links) : Ok S ⟨cl, links⟩ := by
  cases e with
  | callRPC sync serviceId opcode payload timeoutSec => exact h.callRPC hcl hl
  | connected => exact h.connected hcl hl
  | connectFailed => exact Option.some.inj hl ▸ h.connectFailed hcl
  | wrote n => exact h.wrote hcl hl
  | writeDone => exact Option.some.inj hl ▸ h.writeDone hcl
  | readDone bytes => exact h.readDone hcl hl
  | ioFailed ec => exact Option.some.inj hl ▸ h.ioFailed hcl
  | timerExpire =>
    simp only [RpcClientImpl.step] at hcl
    split_ifs at hcl
    obtain rfl := Option.some.inj hcl
    obtain rfl := Option.some.inj hl
    exact ⟨h.links, h.client.of_view rfl rfl rfl rfl fun c hc => ⟨c, hc, rfl, rfl⟩⟩
  | timerHandler i =>
    obtain ⟨x, -, rfl⟩ := Option.map_eq_some_iff.mp hcl
    obtain rfl := Option.some.inj hl
    have htaken : ClientOk w.links { w.client with rpcCallTimer := x.2 } :=
      h.client.of_view rfl rfl rfl rfl fun c hc => ⟨c, hc, rfl, rfl⟩
    refine .of_links ?_ h.links (htaken.rpcCallTimeout x.1.wait x.1.code)
    exact rpcCallTimeout_calls _ _ _
  | asyncConn e => cases hl
  | droppedConn i e => cases hl

theorem step_ok {e : Event} (h : w.Ok S) (hs : w.step S e = some w') : w'.Ok S := by
  cases e with
  | client e =>
    obtain ⟨cl, hcl, hs⟩ := Option.bind_eq_some_iff.mp hs
    obtain ⟨links, hl, rfl⟩ := Option.map_eq_some_iff.mp hs
    exact h.client_step hcl hl
  | server i e =>
    obtain ⟨l, hl, hs⟩ := Option.bind_eq_some_iff.mp hs
    obtain ⟨l', hl', rfl⟩ := Option.map_eq_some_iff.mp hs
    exact ⟨h.links.server hl hl', h.client.server hl hl'⟩

end Step

theorem reachable_ok {S : Setup} {w : World} (h : (machine S).Reachable w) : w.Ok S := by
  refine Machine.reachable_of_inductive (I := Ok S) ?_ (fun s e t hi hn => step_ok hi hn) h
  refine ⟨⟨by simp [machine, start], by simp [machine, start], by simp [machine, start], ?_, ?_⟩,
    by simp [machine, start, RpcClientImpl.fresh], by simp [machine, start, RpcClientImpl.fresh],
    by simp [machine, start, RpcClientImpl.fresh], ?_⟩
  · exact List.nodup_nil
  · simp [machine, start, callIds]
  · simp [machine, start, RpcClientImpl.fresh, Matched]

end World

lemma filter_eq_singleton {α β : Type*} [DecidableEq β] {f : α → β} {xs : List α} {a : α}
    (h : (xs.map f).Nodup) (ha : a ∈ xs) : xs.filter (fun x => decide (f x = f a)) = [a] := by
  induction xs with
  | nil => cases ha
  | cons x xs ih =>
    rw [List.map_cons, List.nodup_cons] at h
    rcases List.mem_cons.mp ha with rfl | ha
    · have hnone : xs.filter (fun x => decide (f x = f a)) = [] := by
        rw [List.filter_eq_nil_iff]
        intro y hy hfy
        exact h.1 (of_decide_eq_true hfy ▸ List.mem_map_of_mem hy)
      rw [List.filter_cons_of_pos (by simp), hnone]
    · have hne : ¬ f x = f a := fun hfx => h.1 (hfx ▸ List.mem_map_of_mem ha)
      rw [List.filter_cons_of_neg (by simpa using hne), ih h.2 ha]

section Handled

variable {S : Setup} {w : World} {l : Link} {links : List Link} {r : Returned}

lemma Link.handled_calls (l : Link) : (l.handled.map (·.call)).Sublist l.calls := by
  have hmap : l.handled.map (·.call) = (l.calls.zip l.conn.recv.dispatched).map Prod.fst := by
    apply List.ext_getElem?
    intro k
    simp [handled, Function.comp_def]
  rw [hmap, List.zip_eq_zip_take_min, List.map_fst_zip (by simp)]
  exact List.take_sublist _ _

lemma handled_calls (links : List Link) :
    ((links.flatMap Link.handled).map (·.call)).Sublist (links.map Link.calls).flatten := by
  induction links with
  | nil => exact List.Sublist.refl _
  | cons l links ih =>
    rw [List.flatMap_cons, List.map_append, List.map_cons, List.flatten_cons]
    exact l.handled_calls.append ih

lemma Link.Replied.handling (h : l.Replied r) (hS : l.Sound S) :
    ∃ p, (⟨r.call, (requestMessage r.call).payload, [.reply p]⟩ : Handling) ∈ l.handled ∧
      r.respload = some p := by
  obtain ⟨a, ha, p, hcall, hans, hload⟩ := h
  refine ⟨p, ?_, hload⟩
  obtain ⟨payload, -, hd, -⟩ := hS.answered a ha
  obtain ⟨rest, hrest⟩ := hS.dispatched_prefix
  have hpayload : payload = (requestMessage r.call).payload := by
    have hk := congrArg (·[a.request]?) hrest
    simp only [List.getElem?_append_left (List.getElem?_eq_some_iff.mp hd).1, hd,
      List.getElem?_map, hcall, Option.map_some] at hk
    exact Option.some.inj hk
  have hto : l.answersTo a.request = [.reply p] := by
    rw [answersTo, filter_eq_singleton (f := Response.request) hS.once ha, List.map_singleton,
      hans]
  refine List.mem_of_getElem? (i := a.request) ?_
  have hzip : (l.calls.zip l.conn.recv.dispatched)[a.request]? = some (r.call, payload) :=
    List.getElem?_zip_eq_some.mpr ⟨hcall, hd⟩
  rw [handled, List.getElem?_mapIdx, hzip, Option.map_some, hto, hpayload]

/-- Every synchronous call that returns `OK` has the payload of the one reply the server gave
to the one handling of its request, and on every connection each call has read no bytes but
those of the response to its own request. -/
theorem World.sync_matched (h : (machine S).Reachable w) :
    (∀ r ∈ w.client.returned, r.status = .OK → ∃ p,
        w.handled.filter (fun x => decide (x.call = r.call)) =
          [⟨r.call, (requestMessage r.call).payload, [.reply p]⟩] ∧ r.respload = some p) ∧
      ∀ l ∈ w.links, l.ReadsOwn := by
  have hok := reachable_ok h
  refine ⟨fun r hr hstatus => ?_, fun l hl => ?_⟩
  · obtain ⟨l, hl, hrep⟩ := hok.client.returned r hr hstatus
    obtain ⟨p, hmem, hload⟩ := hrep.handling (hok.links.sound l hl)
    refine ⟨p, ?_, hload⟩
    have hnodup : (w.handled.map (·.call)).Nodup :=
      (List.Nodup.of_map _ hok.links.ids).sublist (handled_calls w.links)
    exact filter_eq_singleton (f := Handling.call) hnodup (List.mem_flatMap.mpr ⟨l, hl, hmem⟩)
  · obtain ⟨m, hm, hlen⟩ := hok.links.serves l hl
    exact hm.readsOwn (hok.links.sound l hl) hlen

end Handled

namespace World

def matchedSetup : Setup := ⟨⟨0, 0⟩, 0, 0, 0, fun id => decide (id = 1)⟩

/-- The first call times out; its answer is given afterwards. The second call gets its own. -/
def matchedRun : List Event :=
  let opened : List Event :=
    [.client .connected, .client (.wrote 33), .client .writeDone]
  let served (i : ℕ) (request : Bytes) : List Event :=
    [.server i (.conn (.readDone 0 (request.take 16))),
      .server i (.conn (.readDone 0 (request.drop 16)))]
  let answered (i : ℕ) (p : UInt8) : List Event :=
    [.server i (.answer 0 (.reply [p]) true), .server i (.conn (.wrote 0 34))]
  let request (p : UInt8) : Bytes := (requestMessage ⟨0, true, 1, 1, [p], 0⟩).netStr
  let response (p : UInt8) : Bytes :=
    (Message.ofPayload (RpcResponseMessage.ofReply 1 1 [p]).netStr).netStr
  [.client (.callRPC true 1 1 [7] 5)] ++ opened ++ served 0 (request 7) ++
    [.client .timerExpire, .client (.timerHandler 0), .client (.ioFailed .badDescriptor)] ++
    [.client (.callRPC true 1 1 [8] 0)] ++ opened ++ answered 1 70 ++ served 0 (request 8) ++
    answered 0 80 ++
    [.client (.readDone ((response 80).take 16)), .client (.readDone ((response 80).drop 16))]

theorem matchedRun_matched :
    ∃ w, (machine matchedSetup).Reachable w ∧
      w.client.returned.map (fun r => (r.status, r.respload)) =
        [(.RPC_CALL_TIMEOUT, none), (.OK, some [80])] ∧
      (∀ r ∈ w.client.returned, r.status = .OK → ∃ p,
        w.handled.filter (fun x => decide (x.call = r.call)) =
          [⟨r.call, (requestMessage r.call).payload, [.reply p]⟩] ∧ r.respload = some p) ∧
      ∀ l ∈ w.links, l.ReadsOwn := by
  have h : ((machine matchedSetup).run matchedRun).any (fun w => decide
      (w.client.returned.map (fun r => (r.status, r.respload)) =
        [(.RPC_CALL_TIMEOUT, none), (.OK, some [80])])) := by
    decide +kernel
  obtain ⟨w, hw, hd⟩ := (Option.any_eq_true _ _).mp h
  exact ⟨w, ⟨_, hw⟩, of_decide_eq_true hd, sync_matched ⟨_, hw⟩⟩

end World

end Tzrpc
