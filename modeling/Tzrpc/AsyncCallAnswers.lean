import Mathlib.Data.List.Perm.Subperm
import Tzrpc.AsyncCallReport
import Tzrpc.SyncCallMatching
import Tzrpc.WireFormat

/-!
# What the handler hears are answers to the calls

Whatever the order of answers and of completions on however many connections, `handler_` is
invoked with answers the server gave to requests of asynchronous calls that were accepted,
each of them for at most one call: a result comes with the ids of its request, a rejection
with the ids no service has.
-/
namespace Tzrpc

open Client (Call RpcClientImpl Returned)
open Client.RpcClientImpl (requestMessage)
open Client.TcpConnAsync (messages)

def Report.ofAnswer (call : Call) : Answer → Report
  | .reply msg => ⟨.OK, call.serviceId, call.opcode, msg⟩
  | .reject status => .failed ⟨status.code⟩

namespace Setup

variable {S : Setup} {call : Call}

lemma handleRPC_request (hlen : call.payload.length < 2 ^ 31) :
    (S.handleRPC (requestMessage call).payload).2.serviceId = call.serviceId ∧
      (S.handleRPC (requestMessage call).payload).2.opcode = call.opcode := by
  have hvalid : (S.handleRPC (requestMessage call).payload).2 =
      (RpcInstance.ofPayload 0 0 (requestMessage call).payload).validateRequest.2 := by
    rw [handleRPC, Dispatcher.handleRPC]
    split_ifs <;> rfl
  have hnet : (requestMessage call).payload =
      (RpcRequestMessage.ofRequest call.serviceId call.opcode call.payload).netStr := rfl
  have h32 := requestMessage_length hlen
  rw [hnet, RpcRequestHeader.size] at h32
  rw [hvalid, hnet, RpcInstance.validateRequest_netStr 0 0 (by omega)]
  dsimp only
  rw [if_neg (by simp [RpcRequestMessage.ofRequest])]
  by_cases hp : (RpcRequestMessage.ofRequest call.serviceId call.opcode call.payload).payload = []
  · rw [if_pos hp]
    exact ⟨rfl, rfl⟩
  · rw [if_neg hp]
    exact ⟨rfl, rfl⟩

lemma asyncRecvWrapper_response (hlen : call.payload.length < 2 ^ 31) {answer : Answer}
    (hfits : answer.fits) (k : ℕ) (alive : Bool) :
    asyncRecvWrapper (S.response k (requestMessage call).payload answer alive).message =
      .ofAnswer call answer := by
  obtain ⟨hsid, hop⟩ := handleRPC_request (S := S) hlen
  cases answer with
  | reply msg =>
    simp only [response, RpcInstance.answerMessage, RpcInstance.replyRpcMessage,
      asyncRecvWrapper, Message.ofPayload_payload, RpcResponseMessage.parse_netStr, hsid, hop]
    rfl
  | reject status =>
    have hne : status ≠ .OK := of_decide_eq_true hfits
    simp only [response, RpcInstance.answerMessage, RpcInstance.rejectMessage,
      asyncRecvWrapper, Message.ofPayload_payload, RpcResponseMessage.parse_netStr]
    rw [if_neg (by simp [RpcResponseMessage.ofStatus]),
      if_pos (show (RpcResponseMessage.ofStatus status).header.status ≠ .OK from hne)]
    rfl

end Setup

namespace Link

variable {S : Setup} {l : Link}

/-- The answers the connection has taken to send, with the calls they are for. -/
def given (l : Link) : List (Call × Answer) :=
  l.sent.filterMap fun a => l.calls[a.request]?.map fun call => (call, a.answer)

lemma Sound.response (h : l.Sound S) {a : Response} (ha : a ∈ l.answers) :
    ∃ call alive, l.calls[a.request]? = some call ∧ call ∈ l.calls ∧ a.answer.fits ∧
      l.conn.recv.dispatched[a.request]? = some (requestMessage call).payload ∧
      a = S.response a.request (requestMessage call).payload a.answer alive := by
  obtain ⟨payload, alive, hd, hfits, hres⟩ := h.answered a ha
  obtain ⟨rest, hrest⟩ := h.dispatched_prefix
  obtain ⟨call, hcall⟩ : ∃ call, l.calls[a.request]? = some call :=
    ⟨_, List.getElem?_eq_getElem (h.request_lt ha)⟩
  have hpayload : payload = (requestMessage call).payload := by
    have hk := congrArg (·[a.request]?) hrest
    simp only [List.getElem?_append_left (List.getElem?_eq_some_iff.mp hd).1, hd,
      List.getElem?_map, hcall, Option.map_some] at hk
    exact Option.some.inj hk
  exact ⟨call, alive, hcall, List.mem_of_getElem? hcall, hfits, hpayload ▸ hd, hpayload ▸ hres⟩

lemma Sound.given_handled (h : l.Sound S) {x : Call × Answer} (hx : x ∈ l.given) :
    (⟨x.1, (requestMessage x.1).payload, [x.2]⟩ : Handling) ∈ l.handled := by
  obtain ⟨a, ha, hx⟩ := List.mem_filterMap.mp hx
  have ha' := (List.mem_filter.mp ha).1
  obtain ⟨call, alive, hcall, -, -, hd, -⟩ := h.response ha'
  rw [hcall] at hx
  obtain rfl := Option.some.inj hx
  have hto : l.answersTo a.request = [a.answer] := by
    rw [answersTo, filter_eq_singleton (f := Response.request) h.once ha', List.map_singleton]
  have hzip : (l.calls.zip l.conn.recv.dispatched)[a.request]? =
      some (call, (requestMessage call).payload) := List.getElem?_zip_eq_some.mpr ⟨hcall, hd⟩
  refine List.mem_of_getElem? (i := a.request) ?_
  rw [handled, List.getElem?_mapIdx, hzip, Option.map_some, hto]

lemma Sound.given_calls (h : l.Sound S) : (l.given.map Prod.fst).Subperm l.calls := by
  have hmap : l.given.map Prod.fst = (l.sent.map (·.request)).filterMap (l.calls[·]?) := by
    rw [given, List.map_filterMap, List.filterMap_map]
    refine List.filterMap_congr fun a _ => ?_
    cases hc : l.calls[a.request]? <;> simp [hc]
  have hnodup : (l.sent.map (·.request)).Nodup :=
    h.once.sublist (List.Sublist.map _ List.filter_sublist)
  have hrange : (l.sent.map (·.request)).Subperm (List.range l.calls.length) := by
    refine List.subperm_of_subset hnodup fun k hk => ?_
    obtain ⟨a, ha, rfl⟩ := List.mem_map.mp hk
    exact List.mem_range.mpr (h.request_lt (List.mem_filter.mp ha).1)
  have hall : (List.range l.calls.length).filterMap (l.calls[·]?) = l.calls := by
    have hsome : (List.range l.calls.length).map (l.calls[·]?) = l.calls.map some := by
      refine List.ext_getElem (by simp) fun k hk hk' => ?_
      simp
    have hid := congrArg (List.filterMap id) hsome
    simpa [List.filterMap_map] using hid
  obtain ⟨ks, hperm, hsub⟩ := hrange
  have hks := hsub.filterMap (l.calls[·]?)
  rw [hall] at hks
  rw [hmap]
  exact ⟨_, hperm.filterMap _, hks⟩

end Link

lemma Ends.reported {S : Setup} {c : Client.TcpConnAsync} {l : Link} (h : Ends S c l) :
    ∃ xs, xs <+: l.given ∧
      c.recv.delivered.map asyncRecvWrapper = xs.map fun x => .ofAnswer x.1 x.2 := by
  have hann : ∀ f ∈ l.sent.map responseFrame,
      (Client.TcpConnSync.framing S.setting).Announces f := by
    intro f hf
    obtain ⟨a, ha, rfl⟩ := List.mem_map.mp hf
    exact (responseFrame_announces h.sound (List.mem_filter.mp ha).1).1
  have hwire : l.down.taken <+: ((l.sent.map responseFrame).map Frame.elems).flatten := by
    have hflat : ((l.sent.map responseFrame).map Frame.elems).flatten =
        ((l.sent.map (·.message)).map Message.netStr).flatten := by
      rw [List.map_map, List.map_map]
      rfl
    rw [hflat]
    exact l.down.taken_prefix.trans h.sound.sends.sent
  have hpre : c.recv.delivered.map Message.payload <+: l.sent.map (·.message.payload) := by
    have hbodies := (Framing.parse_of_prefix hann hwire).1
    have hdelivered := h.trails.delivered_prefix.map Message.payload
    rw [messages, List.map_map] at hdelivered
    rw [List.map_map] at hbodies
    exact hdelivered.trans hbodies
  let n := c.recv.delivered.length
  have htake : c.recv.delivered.map Message.payload =
      (l.sent.take n).map (·.message.payload) := by
    rw [List.prefix_iff_eq_take.mp hpre, List.length_map, List.map_take]
  have hreports : c.recv.delivered.map asyncRecvWrapper =
      (l.sent.take n).map fun a => asyncRecvWrapper a.message := by
    have hmap := congrArg (List.map fun p => asyncRecvWrapper ⟨Header.zero, p⟩) htake
    rw [List.map_map, List.map_map] at hmap
    exact hmap
  refine ⟨_, (List.take_prefix n l.sent).filterMap _, ?_⟩
  rw [hreports, List.map_filterMap, ← List.filterMap_eq_map]
  refine List.filterMap_congr fun a ha => ?_
  have ha' := (List.mem_filter.mp (List.take_subset n _ ha)).1
  obtain ⟨call, alive, hcall, hmem, hfits, -, hres⟩ := h.sound.response ha'
  have hwrap : asyncRecvWrapper a.message = .ofAnswer call a.answer := by
    rw [hres]
    exact Setup.asyncRecvWrapper_response (h.sound.fits call hmem) hfits _ _
  rw [hcall]
  exact congrArg some hwrap

namespace AsyncWorld

variable {S : Setup} {w w' : AsyncWorld} {e : Event}

lemma CallEnds.calls {c : Client.TcpConnAsync} {l : Link} (h : CallEnds S w e c l) :
    w.link.toList.flatMap Link.calls = l.calls := by
  rcases h with ⟨-, -, hl⟩ | ⟨-, hl, -, rfl⟩
  · simp [hl]
  · simp [hl, Link.unused]

lemma Moves.calls (hm : Moves S w e w')
    (h : (w.client.okCalls.map Returned.call).Perm (w.links.flatMap Link.calls)) :
    (w'.client.okCalls.map Returned.call).Perm (w'.links.flatMap Link.calls) := by
  have hdrive : ∀ {c l l' ce}, Link.drive l c ce = some l' → l'.calls = l.calls := by
    intro c l l' ce hl
    obtain ⟨down, -, rfl⟩ := Option.map_eq_some_iff.mp hl
    rfl
  rw [links, List.flatMap_append] at h ⊢
  cases hm with
  | same cl hs =>
    rw [hs.ok]
    exact h
  | closed cl c l conn link hs =>
    rw [hs.ok]
    exact h
  | drive c d l l' ce conn link hc hl =>
    rw [link] at h
    change (w.client.okCalls.map Returned.call).Perm _
    simpa [hdrive hl] using h
  | driveDropped i c d l l' ce conn link hc hl =>
    rwa [flatMap_set_of_eq link (hdrive hl)]
  | server l l' le link hl =>
    rw [link] at h
    simpa [(Link.step_client_view hl).1] using h
  | serverDropped i l l' le link hl =>
    rwa [flatMap_set_of_eq link (Link.step_client_view hl).1]
  | accepted cl c l call ends fits acc setting conn dropped ok =>
    rw [ends.calls] at h
    rw [ok, List.map_append]
    refine (h.append_right _).trans ?_
    simp only [Option.toList_some, List.flatMap_singleton, Link.join, List.append_assoc]
    exact (@List.perm_append_comm _ (w.dropped.flatMap Link.calls) _).append_left _
  | refused cl c l call ends fits ref setting conn dropped ok =>
    rw [ends.calls] at h
    rw [ok]
    refine h.trans ?_
    simp only [Option.toList_none, List.flatMap_nil, List.nil_append, List.flatMap_append,
      List.flatMap_singleton]
    exact List.perm_append_comm

lemma reported_of_ends {cs : List Client.TcpConnAsync} {ls : List Link}
    (h : List.Forall₂ (Ends S) cs ls) :
    ∃ xs : List (Call × Answer), xs.Sublist (ls.flatMap Link.given) ∧
      (cs.flatMap fun c => c.recv.delivered.map asyncRecvWrapper) =
        xs.map fun x => .ofAnswer x.1 x.2 := by
  induction h with
  | nil => exact ⟨[], List.Sublist.refl _, rfl⟩
  | cons hends _ ih =>
    obtain ⟨ys, hys, hreports⟩ := ih
    obtain ⟨xs, hxs, hreport⟩ := hends.reported
    refine ⟨xs ++ ys, ?_, ?_⟩
    · rw [List.flatMap_cons]
      exact hxs.sublist.append hys
    · rw [List.flatMap_cons, hreport, hreports, List.map_append]

lemma given_calls {ls : List Link} (h : ∀ l ∈ ls, l.Sound S) :
    ((ls.flatMap Link.given).map Prod.fst).Subperm (ls.flatMap Link.calls) := by
  induction ls with
  | nil => exact List.Subperm.refl _
  | cons l ls ih =>
    rw [List.flatMap_cons, List.map_append, List.flatMap_cons]
    exact (h l List.mem_cons_self).given_calls.append
      (ih fun l' hl => h l' (List.mem_cons_of_mem _ hl))

/-- What holds of the world after every step, with the calls that returned `OK` those the
connections have accepted, and all calls different. -/
structure Matching (S : Setup) (w : AsyncWorld) : Prop where
  counted : Counted S w
  calls : (w.client.okCalls.map Returned.call).Perm (w.links.flatMap Link.calls)
  owners : w.client.Owners

lemma matching_start (S : Setup) : Matching S (start S) :=
  ⟨counted_start S, List.Perm.nil, RpcClientImpl.owners_fresh S.setting⟩

lemma Matching.step (h : Matching S w) (hs : AsyncWorld.step S w e = some w') : Matching S w' :=
  ⟨(h.counted.step hs).1, (h.counted.step hs).2.calls h.calls,
    step_client h.owners (fun _ _ hcl => h.owners.step hcl) hs⟩

lemma Matching.sound (h : Matching S w) : ∀ l ∈ w.links, l.Sound S := by
  intro l hl
  obtain ⟨c, -, hends⟩ := forall₂_mem_right h.counted.ends.all hl
  exact hends.sound

def handled (w : AsyncWorld) : List Handling := w.links.flatMap Link.handled

lemma Matching.calls_nodup (h : Matching S w) :
    (w.client.okCalls.map Returned.call).Nodup := by
  have hids : (w.client.okCalls.map fun r => r.call.id).Nodup :=
    h.owners.distinct.sublist (List.filter_sublist.map _)
  exact List.Nodup.of_map Call.id (by rwa [List.map_map])

lemma Matching.handled_nodup (h : Matching S w) : (w.handled.map Handling.call).Nodup := by
  refine (h.calls.nodup_iff.mp h.calls_nodup).sublist ?_
  rw [List.flatMap_def]
  exact handled_calls w.links

lemma Matching.reports (h : Matching S w) : ∃ answered : List (Call × Answer),
    answered.Sublist (w.links.flatMap Link.given) ∧
      w.reports = answered.map (fun x => .ofAnswer x.1 x.2) ∧
      (answered.map Prod.fst).Nodup ∧
      (answered.map Prod.fst).Subperm (w.client.okCalls.map Returned.call) := by
  obtain ⟨answered, hsub, hreports⟩ := reported_of_ends h.counted.ends.all
  have hcalls : (answered.map Prod.fst).Subperm (w.client.okCalls.map Returned.call) :=
    ((hsub.map Prod.fst).subperm.trans (given_calls h.sound)).trans h.calls.symm.subperm
  obtain ⟨calls, hperm, hcallsub⟩ := hcalls
  have hnodup : (answered.map Prod.fst).Nodup := hperm.nodup (h.calls_nodup.sublist hcallsub)
  exact ⟨answered, hsub, hreports, hnodup, calls, hperm, hcallsub⟩

/-- In every reachable state, the invocations of `handler_` so far are the reports of answers
the server has given: each to the one handling of the request of an asynchronous call that
returned `OK`, and none of two to the same call. -/
theorem async_reports_matched (h : (machine S).Reachable w) :
    ∃ answered : List (Call × Answer),
      w.reports = answered.map (fun x => .ofAnswer x.1 x.2) ∧
      (answered.map Prod.fst).Nodup ∧
      (answered.map Prod.fst).Subperm (w.client.okCalls.map Returned.call) ∧
      ∀ x ∈ answered, w.handled.filter (fun y => decide (y.call = x.1)) =
        [⟨x.1, (requestMessage x.1).payload, [x.2]⟩] := by
  have hmatching : Matching S w := Machine.reachable_of_inductive (M := machine S)
    (matching_start S) (fun _ _ _ hi hn => hi.step hn) h
  obtain ⟨answered, hsub, hreports, hnodup, hcalls⟩ := hmatching.reports
  refine ⟨answered, hreports, hnodup, hcalls, fun x hx => ?_⟩
  obtain ⟨l, hl, hx⟩ := List.mem_flatMap.mp (hsub.subset hx)
  exact filter_eq_singleton (f := Handling.call) hmatching.handled_nodup
    (List.mem_flatMap.mpr ⟨l, hl, (hmatching.sound l hl).given_handled hx⟩)

/-- A call with a result and one the service does not know the opcode of, answered in the
other order. -/
def crossedCalls : List Event :=
  let request (i : ℕ) (opcode : UInt16) (p : UInt8) : Bytes :=
    (requestMessage ⟨i, false, 1, opcode, [p], 0⟩).netStr
  let result : Bytes := (Message.ofPayload (RpcResponseMessage.ofReply 1 2 [7]).netStr).netStr
  let refusal : Bytes := (RpcInstance.rejectMessage .INVALID_REQUEST).netStr
  [.client (.callRPC false 1 2 [5] 0), .client .connected, .client (.asyncConn (.wrote 0 33)),
    .client (.asyncConn (.writeDone 0)), .client (.callRPC false 1 9 [6] 0),
    .client (.asyncConn (.wrote 0 33)), .client (.asyncConn (.writeDone 0)),
    .server (.conn (.readDone 0 (request 0 2 5 ++ request 1 9 6))),
    .server (.answer 1 (.reject .INVALID_REQUEST) true), .server (.conn (.wrote 0 33)),
    .server (.conn (.writeDone 0)), .server (.answer 0 (.reply [7]) true),
    .server (.conn (.wrote 0 34)), .client (.asyncConn (.readDone 0 (refusal ++ result)))]

theorem crossedCalls_matched : ∃ w, (machine oneService).run crossedCalls = some w ∧
    w.reports = [.failed ⟨4⟩, ⟨.OK, 1, 2, [7]⟩] ∧
    ∃ answered : List (Call × Answer),
      w.reports = answered.map (fun x => .ofAnswer x.1 x.2) ∧
      (answered.map Prod.fst).Nodup ∧
      (answered.map Prod.fst).Subperm (w.client.okCalls.map Returned.call) ∧
      ∀ x ∈ answered, w.handled.filter (fun y => decide (y.call = x.1)) =
        [⟨x.1, (requestMessage x.1).payload, [x.2]⟩] := by
  have h : ((machine oneService).run crossedCalls).any (fun w =>
      decide (w.reports = [.failed ⟨4⟩, ⟨.OK, 1, 2, [7]⟩])) := by
    decide +kernel
  obtain ⟨w, hw, hd⟩ := (Option.any_eq_true _ _).mp h
  exact ⟨w, hw, of_decide_eq_true hd, async_reports_matched ⟨_, hw⟩⟩

end AsyncWorld

end Tzrpc
