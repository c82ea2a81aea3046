import Tzrpc.SyncCallLink

/-!
# The server's side of a link

Whatever happens on it, the server dispatches only whole requests of the link's calls, in
order, answers each at most once, and sends whole answers in the order it took them.
-/
namespace Tzrpc

open Client (Call)
open Client.RpcClientImpl (requestMessage)

namespace Setup

variable {S : Setup}

lemma rejections_sent (k : ℕ) (payloads : List Bytes) :
    ((S.rejections k payloads).filter (·.accepted)).map (·.message) =
      payloads.flatMap (TcpConnAsync.acceptsInline S.env) := by
  induction payloads generalizing k with
  | nil => rfl
  | cons payload payloads ih =>
    rw [rejections, List.flatMap_cons, ← ih (k + 1)]
    cases h : (S.handleRPC payload).1 with
    | rejected status =>
      have hinline : S.env.inlineReply payload = some (RpcInstance.rejectMessage status) := by
        simp only [env, h]
      rw [TcpConnAsync.acceptsInline, hinline, Option.elim_some, TcpConnAsync.accepts,
        List.filter_cons]
      simp only [response, RpcInstance.answerMessage, Bool.true_and]
      split_ifs <;> simp_all
    | handed =>
      have hinline : S.env.inlineReply payload = none := by simp only [env, h]
      rw [TcpConnAsync.acceptsInline, hinline, Option.elim_none, List.nil_append]

lemma fits_of_rejected {payload : Bytes} {status : RpcResponseStatus}
    (h : (S.handleRPC payload).1 = .rejected status) : (Answer.reject status).fits := by
  have hmem : .reject status ∈ Dispatcher.answers ⟨fun _ => none, fun _ => []⟩ S.services
      (.ofPayload 0 0 payload) := by
    unfold Dispatcher.answers
    unfold handleRPC at h
    split
    · simp_all
    · simp_all
  rcases Dispatcher.mem_answers_reject hmem with rfl | rfl <;> rfl

lemma mem_rejections {k : ℕ} {payloads : List Bytes} {a : Response}
    (h : a ∈ S.rejections k payloads) :
    ∃ i payload status, payloads[i]? = some payload ∧ a.request = k + i ∧
      (S.handleRPC payload).1 = .rejected status ∧
        a = S.response a.request payload (.reject status) true := by
  induction payloads generalizing k with
  | nil => cases h
  | cons payload payloads ih =>
    rw [rejections] at h
    cases hh : (S.handleRPC payload).1 with
    | rejected status =>
      simp only [hh, List.mem_cons] at h
      rcases h with rfl | h
      · exact ⟨0, payload, status, rfl, rfl, hh, rfl⟩
      · obtain ⟨i, p, st, hp, hk, hrest⟩ := ih h
        exact ⟨i + 1, p, st, hp, by omega, hrest⟩
    | handed =>
      simp only [hh] at h
      obtain ⟨i, p, st, hp, hk, hrest⟩ := ih h
      exact ⟨i + 1, p, st, hp, by omega, hrest⟩

lemma rejections_nodup (k : ℕ) (payloads : List Bytes) :
    ((S.rejections k payloads).map (·.request)).Nodup := by
  induction payloads generalizing k with
  | nil => exact List.nodup_nil
  | cons payload payloads ih =>
    rw [rejections]
    cases (S.handleRPC payload).1 with
    | rejected status =>
      rw [List.map_cons, List.nodup_cons]
      refine ⟨fun hmem => ?_, ih (k + 1)⟩
      obtain ⟨a, ha, hk⟩ := List.mem_map.mp hmem
      obtain ⟨i, -, -, -, hi, -⟩ := mem_rejections ha
      simp only [response] at hk
      omega
    | handed => exact ih (k + 1)

end Setup

namespace Link

/-- What holds of a link's server and streams at every moment. -/
structure Sound (S : Setup) (l : Link) : Prop where
  fits : ∀ call ∈ l.calls, call.payload.length < 2 ^ 31
  requested : l.up.all <+: requests l.calls
  trails : l.conn.Trails S.env l.up.taken
  sends : l.conn.Sends (l.sent.map (·.message)) l.down.all
  once : (l.answers.map (·.request)).Nodup
  answered : ∀ a ∈ l.answers, ∃ payload alive, l.conn.recv.dispatched[a.request]? = some payload ∧
    a.answer.fits ∧ a = S.response a.request payload a.answer alive

section Sound

variable {S : Setup} {l l' : Link}

lemma Sound.dispatched_prefix (h : l.Sound S) :
    l.conn.recv.dispatched <+: l.calls.map fun call => (requestMessage call).payload :=
  h.trails.dispatched_prefix.trans
    (requests_cut S.env h.fits (l.up.taken_prefix.trans h.requested)).1

lemma Sound.request_lt (h : l.Sound S) {a : Response} (ha : a ∈ l.answers) :
    a.request < l.calls.length := by
  obtain ⟨payload, -, hd, -⟩ := h.answered a ha
  have hlt := (List.getElem?_eq_some_iff.mp hd).1
  have hle := h.dispatched_prefix.length_le
  rw [List.length_map] at hle
  omega

lemma Sound.message (h : l.Sound S) {a : Response} (ha : a ∈ l.answers) :
    ∃ m : RpcResponseMessage, a.message = .ofPayload m.netStr ∧
      m.netStr.length + kFixedIoBufferSize.toNat ≤ 2 ^ 32 ∧
      match a.answer with
      | .reply p => m.header.status = .OK ∧ m.payload = p
      | .reject status => m.header.status = status ∧ status ≠ .OK := by
  obtain ⟨payload, alive, -, hfits, ha⟩ := h.answered a ha
  have h2048 : kFixedIoBufferSize.toNat = 2048 := rfl
  rw [ha]
  simp only [Setup.response]
  cases hans : a.answer with
  | reply p =>
    rw [hans] at hfits
    have hp : p.length < 2 ^ 31 := of_decide_eq_true hfits
    refine ⟨_, rfl, ?_, rfl, rfl⟩
    rw [RpcResponseMessage.netStr_length]
    simp only [RpcResponseMessage.ofReply, RpcResponseHeader.size]
    omega
  | reject status =>
    rw [hans] at hfits
    refine ⟨_, rfl, ?_, rfl, of_decide_eq_true hfits⟩
    rw [RpcResponseMessage.netStr_length]
    simp [RpcResponseMessage.ofStatus, RpcResponseHeader.size, h2048]

lemma opened_sound {call : Call} (h : call.payload.length < 2 ^ 31) : (opened S call).Sound S where
  fits := by simpa [opened] using h
  requested := List.nil_prefix
  trails := TcpConnAsync.Follows.trails (TcpConnAsync.started_follows S.env)
  sends := TcpConnAsync.Sends.of_oneWrite (Senders.start_oneWrite S.env)
  once := List.nodup_nil
  answered := by simp [opened]

lemma serve_sound {e : TcpConnAsync.Event} (h : l.Sound S) (he : ∀ msg, e ≠ .send msg)
    (hs : l.serve S e = some l') : l'.Sound S := by
  obtain ⟨up, hup, hs⟩ := Option.bind_eq_some_iff.mp hs
  obtain ⟨conn, hconn, rfl⟩ := Option.map_eq_some_iff.mp hs
  obtain ⟨htaken, hall⟩ := Pipe.take_eq hup
  obtain ⟨new, hnew, hsends⟩ := h.sends.step he hconn
  have hdrop : conn.recv.dispatched.drop l.conn.recv.dispatched.length = new := by
    rw [hnew, List.drop_left]
  have hlt : ∀ a ∈ l.answers, a.request < l.conn.recv.dispatched.length := by
    intro a ha
    obtain ⟨payload, -, hd, -⟩ := h.answered a ha
    exact (List.getElem?_eq_some_iff.mp hd).1
  constructor
  · exact h.fits
  · exact hall ▸ h.requested
  · have hB := (requests_cut S.env h.fits (l.up.taken_prefix.trans h.requested)).2
    cases e with
    | readDone i bytes =>
      simp only [htaken]
      exact h.trails.readDone hB hconn
    | _ =>
      simp only [htaken, takesOff, List.append_nil]
      exact h.trails.step (by simp) hconn
  · simpa [hdrop, sent, Setup.rejections_sent] using hsends
  · simp only [hdrop, List.map_append]
    refine List.nodup_append.mpr ⟨h.once, Setup.rejections_nodup _ _, fun k hk k' hk' => ?_⟩
    obtain ⟨a, ha, rfl⟩ := List.mem_map.mp hk
    obtain ⟨b, hb, rfl⟩ := List.mem_map.mp hk'
    obtain ⟨i, -, -, -, hi, -⟩ := Setup.mem_rejections hb
    have hold := hlt a ha
    omega
  · intro a ha
    simp only [hdrop, List.mem_append] at ha
    simp only [hnew]
    rcases ha with ha | ha
    · obtain ⟨payload, alive, hd, hrest⟩ := h.answered a ha
      exact ⟨payload, alive, by rw [List.getElem?_append_left (hlt a ha), hd], hrest⟩
    · obtain ⟨i, payload, status, hp, hi, hout, hreject⟩ := Setup.mem_rejections ha
      have hfits : a.answer.fits := hreject ▸ Setup.fits_of_rejected hout
      have hanswer : a.answer = .reject status := congrArg Response.answer hreject
      refine ⟨payload, true, ?_, hfits, hanswer ▸ hreject⟩
      rw [hi, List.getElem?_append_right (by omega)]
      simpa using hp

lemma respond_sound {request : ℕ} {payload : Bytes} {answer : Answer} {alive : Bool}
    (h : l.Sound S) (hd : l.conn.recv.dispatched[request]? = some payload) (hfits : answer.fits)
    (hnew : request ∉ l.answers.map (·.request)) :
    (l.respond S (S.response request payload answer alive) alive).Sound S := by
  have hview : (l.respond S (S.response request payload answer alive) alive).conn.recvView =
      l.conn.recvView := by
    cases alive with
    | false => rfl
    | true => exact TcpConnAsync.asyncSendMessage_recvView _ _ _
  obtain ⟨hnet, -, hrecv⟩ := TcpConnAsync.recvView_eq_iff.mp hview
  constructor
  · exact h.fits
  · exact h.requested
  · exact h.trails.of_recvView hview
  · cases alive with
    | false => simpa [respond, sent, Setup.response] using h.sends
    | true =>
      have hsend := @TcpConnAsync.Sends.asyncSendMessage S.env _ _ _ h.sends
        (S.response request payload answer true).message
      have hacc : (S.response request payload answer true).accepted =
          !TcpConnAsync.refusesSize S.env (S.response request payload answer true).message := rfl
      simp only [TcpConnAsync.accepts] at hsend
      simp only [respond, sent, List.filter_append, List.map_append]
      split_ifs at hsend with hr
      · simpa [hacc, hr, sent] using hsend
      · simpa [hacc, hr, sent] using hsend
  · simp only [respond, List.map_append, List.map_singleton]
    refine List.nodup_append.mpr ⟨h.once, List.nodup_cons.mpr (by simp), fun k hk k' hk' => ?_⟩
    obtain rfl := List.mem_singleton.mp hk'
    rintro rfl
    exact hnew hk
  · intro a ha
    rw [hrecv]
    rcases List.mem_append.mp ha with ha | ha
    · exact h.answered a ha
    · obtain rfl := List.mem_singleton.mp ha
      exact ⟨payload, alive, hd, hfits, rfl⟩

theorem step_sound {e : Event} (h : l.Sound S) (hs : l.step S e = some l') : l'.Sound S := by
  cases e with
  | conn e =>
    cases e with
    | send msg => cases hs
    | _ => exact serve_sound h (by simp) hs
  | answer request answer alive =>
    obtain ⟨payload, hd, hs⟩ := Option.bind_eq_some_iff.mp hs
    split_ifs at hs with hc
    obtain rfl := Option.some.inj hs
    exact respond_sound h hd hc.2.1 hc.2.2.1

lemma step_client_view {e : Event} (hs : l.step S e = some l') :
    l'.calls = l.calls ∧ l'.reads = l.reads ∧ l'.down.taken = l.down.taken ∧
      l'.up.all = l.up.all ∧ l.answers <+: l'.answers := by
  have hserve : ∀ e, l.serve S e = some l' → l'.calls = l.calls ∧ l'.reads = l.reads ∧
      l'.down.taken = l.down.taken ∧ l'.up.all = l.up.all ∧ l.answers <+: l'.answers := by
    intro e hs
    obtain ⟨up, hup, hs⟩ := Option.bind_eq_some_iff.mp hs
    obtain ⟨conn, -, rfl⟩ := Option.map_eq_some_iff.mp hs
    exact ⟨rfl, rfl, rfl, (Pipe.take_eq hup).2, List.prefix_append _ _⟩
  cases e with
  | conn e =>
    cases e with
    | send msg => cases hs
    | _ => exact hserve _ hs
  | answer request answer alive =>
    obtain ⟨payload, -, hs⟩ := Option.bind_eq_some_iff.mp hs
    split_ifs at hs
    obtain rfl := Option.some.inj hs
    exact ⟨rfl, rfl, rfl, rfl, List.prefix_append _ _⟩

lemma join_sound {call : Call} (h : l.Sound S) (hfits : call.payload.length < 2 ^ 31) :
    (l.join call).Sound S := by
  refine ⟨fun c hc => ?_, ?_, h.trails, h.sends, h.once, h.answered⟩
  · rcases List.mem_append.mp hc with hc | hc
    · exact h.fits c hc
    · exact List.mem_singleton.mp hc ▸ hfits
  · simp only [join, requests, List.map_append, List.flatten_append]
    exact h.requested.trans (List.prefix_append _ _)

lemma write_sound {bytes : Bytes} (h : l.Sound S) (hb : l.up.all ++ bytes <+: requests l.calls) :
    (l.write bytes).Sound S :=
  ⟨h.fits, (Pipe.put_all l.up bytes).symm ▸ hb, h.trails, h.sends, h.once, h.answered⟩

lemma read_sound {id : ℕ} {bytes : Bytes} (h : l.Sound S) (hr : l.read id bytes = some l') :
    l'.Sound S := by
  obtain ⟨down, hdown, rfl⟩ := Option.map_eq_some_iff.mp hr
  exact ⟨h.fits, h.requested, h.trails, (Pipe.take_eq hdown).2 ▸ h.sends, h.once, h.answered⟩

end Sound

end Link

end Tzrpc
