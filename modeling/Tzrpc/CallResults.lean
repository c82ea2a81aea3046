import Tzrpc.AsyncCallAnswers

/-!
# What a call computes

From one end to the other: with `XtraTaskService` behind the dispatcher, a call is a function
of its service, its opcode and its payload. `Call.answer` is that function. Whatever is sent,
dispatched, queued and answered in between, on however many connections, a synchronous call
that returns `OK` returns its value, and the handler of asynchronous calls is invoked with the
values of calls that were accepted.
-/
namespace Tzrpc

open Client (Call RpcClientImpl Returned)
open Client.RpcClientImpl (requestMessage)
open XtraTask (CMD_READ CMD_WRITE)

namespace Client

/-- What the server has to say to a call. A request without payload is refused before
anybody looks at the service it is for. -/
def Call.answer (pb : ProtoBuf) (services : UInt16 → Bool) (call : Call) : Answer :=
  if call.payload = [] then .reject .INVALID_REQUEST
  else if services call.serviceId = false then .reject .INVALID_SERVICE
  else if call.opcode = CMD_READ then
    ((XtraTaskService.readResponse pb call.payload).map fun response =>
      Answer.reply (pb.marshallingToString response)).getD (.reject .INVALID_REQUEST)
  else if call.opcode = CMD_WRITE then .reply (text "nicol_write_reply")
  else .reject .INVALID_REQUEST

end Client

lemma XtraTaskService.handleRPC_eq (pb : ProtoBuf) {inst : RpcInstance}
    (hop : inst.rpcRequestMessage.header.opcode = inst.opcode) :
    handleRPC pb inst = [if inst.opcode = CMD_READ then
        ((readResponse pb inst.rpcRequestMessage.payload).map fun response =>
          Answer.reply (pb.marshallingToString response)).getD (.reject .INVALID_REQUEST)
      else if inst.opcode = CMD_WRITE then .reply (text "nicol_write_reply")
      else .reject .INVALID_REQUEST] := by
  unfold handleRPC
  split_ifs with hr hw
  · rw [readOpsImpl, if_neg (by simp [hop, hr])]
    cases readResponse pb inst.rpcRequestMessage.payload <;> rfl
  · rfl
  · rfl

namespace Setup

variable {S : Setup} {pb : ProtoBuf} {call : Call}

lemma handleRPC_call (hlen : call.payload.length < 2 ^ 31) :
    (S.handleRPC (requestMessage call).payload).1 =
        (if call.payload = [] then .rejected .INVALID_REQUEST
          else if S.services call.serviceId then .handed else .rejected .INVALID_SERVICE) ∧
      (call.payload ≠ [] → (S.handleRPC (requestMessage call).payload).2.opcode = call.opcode ∧
        (S.handleRPC (requestMessage call).payload).2.rpcRequestMessage =
          .ofRequest call.serviceId call.opcode call.payload) := by
  have hnet : (requestMessage call).payload =
      (RpcRequestMessage.ofRequest call.serviceId call.opcode call.payload).netStr := rfl
  have h32 := requestMessage_length hlen
  rw [hnet, RpcRequestHeader.size] at h32
  have hvalid := RpcInstance.validateRequest_netStr 0 0
    (m := .ofRequest call.serviceId call.opcode call.payload) (by omega)
  dsimp only at hvalid
  rw [if_neg (by simp [RpcRequestMessage.ofRequest])] at hvalid
  rw [handleRPC, Dispatcher.handleRPC, hnet, hvalid]
  by_cases hp : call.payload = []
  · have hempty : (RpcRequestMessage.ofRequest call.serviceId call.opcode call.payload).payload =
        [] := hp
    rw [if_pos hempty, if_pos hp]
    exact ⟨rfl, fun hne => absurd hp hne⟩
  · have hfull : (RpcRequestMessage.ofRequest call.serviceId call.opcode call.payload).payload ≠
        [] := hp
    have hservice : (RpcRequestMessage.ofRequest call.serviceId call.opcode
        call.payload).header.serviceId = call.serviceId := rfl
    rw [if_neg hfull, if_neg hp, if_neg (by simp)]
    dsimp only
    rw [hservice]
    cases S.services call.serviceId <;> exact ⟨rfl, fun _ => ⟨rfl, rfl⟩⟩

lemma answers_request (hlen : call.payload.length < 2 ^ 31) :
    Dispatcher.answers pb S.services (.ofPayload 0 0 (requestMessage call).payload) =
      [call.answer pb S.services] := by
  obtain ⟨houtcome, hfields⟩ := handleRPC_call (S := S) hlen
  unfold Dispatcher.answers Client.Call.answer
  rw [handleRPC] at houtcome hfields
  generalize Dispatcher.handleRPC S.services (.ofPayload 0 0 (requestMessage call).payload) = res
    at houtcome hfields ⊢
  obtain ⟨outcome, inst⟩ := res
  obtain rfl : outcome = _ := houtcome
  by_cases hp : call.payload = []
  · simp [hp]
  · obtain ⟨hop, hmsg⟩ := hfields hp
    dsimp only at hop hmsg
    rw [if_neg hp, if_neg hp]
    cases hs : S.services call.serviceId with
    | false => rfl
    | true =>
      rw [if_pos rfl, if_neg (by simp)]
      change XtraTaskService.handleRPC pb inst = _
      rw [XtraTaskService.handleRPC_eq pb (by rw [hmsg, hop]; rfl), hop, hmsg]
      rfl

lemma answers_handleRPC (payload : Bytes) :
    Dispatcher.answers pb S.services (.ofPayload 0 0 payload) =
      match S.handleRPC payload with
      | (.rejected status, _) => [.reject status]
      | (.handed, inst) => XtraTaskService.handleRPC pb inst := rfl

lemma answers_rejected {payload : Bytes} {status : RpcResponseStatus}
    (h : (S.handleRPC payload).1 = .rejected status) :
    Dispatcher.answers pb S.services (.ofPayload 0 0 payload) = [.reject status] := by
  have hres : S.handleRPC payload = (.rejected status, (S.handleRPC payload).2) := Prod.ext h rfl
  rw [answers_handleRPC, hres]

lemma answers_handed {payload : Bytes} (h : (S.handleRPC payload).1 = .handed) :
    Dispatcher.answers pb S.services (.ofPayload 0 0 payload) =
      XtraTaskService.handleRPC pb (S.handleRPC payload).2 := by
  have hres : S.handleRPC payload = (.handed, (S.handleRPC payload).2) := Prod.ext h rfl
  rw [answers_handleRPC, hres]

end Setup

namespace Link

/-- An answer a worker gives is what the service computes of the request. -/
def computes (pb : ProtoBuf) (S : Setup) (l : Link) : Event → Bool
  | .answer request answer _ => l.conn.recv.dispatched[request]?.all fun payload =>
      decide (XtraTaskService.handleRPC pb (S.handleRPC payload).2 = [answer])
  | .conn _ => true

def Computed (pb : ProtoBuf) (S : Setup) (l : Link) : Prop :=
  ∀ a ∈ l.answers, ∀ call, l.calls[a.request]? = some call → a.answer = call.answer pb S.services

section Computed

variable {S : Setup} {pb : ProtoBuf} {l l' : Link}

lemma Computed.of_same (h : l.Computed pb S) (hS : l.Sound S) (hans : l'.answers = l.answers)
    (hcalls : l.calls <+: l'.calls) : l'.Computed pb S := by
  intro a ha call hcall
  rw [hans] at ha
  obtain ⟨more, hmore⟩ := hcalls
  rw [← hmore, List.getElem?_append_left (hS.request_lt ha)] at hcall
  exact h a ha call hcall

lemma Computed.serve {e : TcpConnAsync.Event} (hS : l.Sound S) (h : l.Computed pb S)
    (he : ∀ msg, e ≠ .send msg) (hs : l.serve S e = some l') : l'.Computed pb S := by
  have hS' := serve_sound hS he hs
  obtain ⟨up, -, hs⟩ := Option.bind_eq_some_iff.mp hs
  obtain ⟨conn, -, rfl⟩ := Option.map_eq_some_iff.mp hs
  intro a ha call hcall
  rcases List.mem_append.mp ha with ha | hnew
  · exact h a ha call hcall
  · obtain ⟨call', alive, hcall', hmem, -, hd, -⟩ := hS'.response ha
    obtain rfl := Option.some.inj (hcall.symm.trans hcall')
    obtain ⟨i, payload, status, hp, hi, hout, hreject⟩ := Setup.mem_rejections hnew
    have hanswer : a.answer = .reject status := congrArg Response.answer hreject
    rw [List.getElem?_drop, ← hi, hd] at hp
    obtain rfl := Option.some.inj hp
    have hrejected := @Setup.answers_rejected S pb _ _ hout
    rw [Setup.answers_request (hS'.fits call hmem)] at hrejected
    rw [hanswer, List.singleton_injective hrejected]

theorem Computed.step {e : Event} (hS : l.Sound S) (h : l.Computed pb S) (he : l.computes pb S e)
    (hs : l.step S e = some l') : l'.Computed pb S := by
  have hS' := step_sound hS hs
  cases e with
  | conn e =>
    cases e with
    | send msg => cases hs
    | _ => exact h.serve hS (by simp) hs
  | answer request answer alive =>
    obtain ⟨payload, hd, hs⟩ := Option.bind_eq_some_iff.mp hs
    split_ifs at hs with hc
    obtain rfl := Option.some.inj hs
    intro a ha call hcall
    rcases List.mem_append.mp ha with ha | hnew
    · exact h a ha call hcall
    · obtain rfl := List.mem_singleton.mp hnew
      obtain ⟨call', -, hcall', hmem, -, hd', -⟩ := hS'.response ha
      obtain rfl := Option.some.inj (hcall.symm.trans hcall')
      have hview : (l.respond S (S.response request payload answer alive) alive).conn.recvView =
          l.conn.recvView := by
        cases alive with
        | false => rfl
        | true => exact TcpConnAsync.asyncSendMessage_recvView _ _ _
      rw [(TcpConnAsync.recvView_eq_iff.mp hview).2.2, Setup.response, hd] at hd'
      obtain rfl := Option.some.inj hd'
      have hanswer : XtraTaskService.handleRPC pb (S.handleRPC (requestMessage call).payload).2 =
          [answer] := by
        simpa [computes, hd] using he
      rw [← Setup.answers_handed hc.1, Setup.answers_request (hS.fits call hmem)] at hanswer
      exact (List.singleton_injective hanswer).symm

end Computed

end Link

/-- What the client does to the connections: new ones have no answers, the others have the
answers they had. -/
def ClientGrows (links links' : List Link) : Prop :=
  ∀ l' ∈ links', l'.answers = [] ∨
    ∃ l ∈ links, l'.answers = l.answers ∧ l.calls <+: l'.calls

section ClientGrows

variable {S : Setup} {pb : ProtoBuf} {links links' : List Link}

lemma ClientGrows.refl (links : List Link) : ClientGrows links links :=
  fun l hl => Or.inr ⟨l, hl, rfl, List.prefix_refl _⟩

lemma ClientGrows.cons {l : Link} (h : ClientGrows links links') (hl : l.answers = []) :
    ClientGrows links (l :: links') :=
  List.forall_mem_cons.mpr ⟨Or.inl hl, h⟩

lemma ClientGrows.head {l l' : Link} (hans : l'.answers = l.answers)
    (hcalls : l.calls <+: l'.calls) : ClientGrows (l :: links) (l' :: links) :=
  List.forall_mem_cons.mpr ⟨Or.inr ⟨l, List.mem_cons_self, hans, hcalls⟩,
    fun k hk => Or.inr ⟨k, List.mem_cons_of_mem _ hk, rfl, List.prefix_refl _⟩⟩

lemma ClientGrows.computed (h : ClientGrows links links') (hS : ∀ l ∈ links, l.Sound S)
    (hc : ∀ l ∈ links, l.Computed pb S) : ∀ l' ∈ links', l'.Computed pb S := by
  intro l' hl'
  rcases h l' hl' with hnone | ⟨l, hl, hans, hcalls⟩
  · intro a ha
    rw [hnone] at ha
    cases ha
  · exact (hc l hl).of_same (hS l hl) hans hcalls

lemma computed_set {i : ℕ} {l l' : Link} {e : Link.Event} (hS : ∀ l ∈ links, l.Sound S)
    (hc : ∀ l ∈ links, l.Computed pb S) (hl : links[i]? = some l) (he : l.computes pb S e)
    (hs : l.step S e = some l') : ∀ k ∈ links.set i l', k.Computed pb S := by
  intro k hk
  rcases List.mem_or_eq_of_mem_set hk with hk | rfl
  · exact hc k hk
  · have hmem := List.mem_of_getElem? hl
    exact (hc l hmem).step (hS l hmem) he hs

end ClientGrows

namespace World

variable {S : Setup} {pb : ProtoBuf} {w w' : World}

def computes (pb : ProtoBuf) (S : Setup) (w : World) : Event → Bool
  | .client _ => true
  | .server i e => w.links[i]?.all fun l => l.computes pb S e

lemma linksAfter_grows {e : RpcClientImpl.Event} {links : List Link}
    (h : w.linksAfter S e = some links) : ClientGrows w.links links := by
  unfold linksAfter at h
  split at h
  · split_ifs at h
    split at h
    · rename_i hlinks
      obtain rfl := Option.some.inj h
      rw [hlinks]
      exact .head rfl (List.prefix_append _ _)
    · obtain rfl := Option.some.inj h
      exact .refl _
  · obtain ⟨x, -, rfl⟩ := Option.map_eq_some_iff.mp h
    exact (ClientGrows.refl _).cons rfl
  · split at h
    · rename_i hlinks
      obtain rfl := Option.some.inj h
      rw [hlinks]
      exact .head rfl (List.prefix_refl _)
    · cases h
  · split at h
    · rename_i hlinks
      obtain ⟨l', hread, rfl⟩ := Option.map_eq_some_iff.mp h
      obtain ⟨hcalls, hans, -⟩ := Link.read_view hread
      rw [hlinks]
      exact .head hans (hcalls ▸ List.prefix_refl _)
    · cases h
  · cases h
  · cases h
  · obtain rfl := Option.some.inj h
    exact .refl _

lemma step_computed {e : Event} (hok : w.Ok S) (h : ∀ l ∈ w.links, l.Computed pb S)
    (he : w.computes pb S e) (hs : w.step S e = some w') : ∀ l ∈ w'.links, l.Computed pb S := by
  cases e with
  | client e =>
    obtain ⟨cl, -, hs⟩ := Option.bind_eq_some_iff.mp hs
    obtain ⟨links, hl, rfl⟩ := Option.map_eq_some_iff.mp hs
    exact (linksAfter_grows hl).computed hok.links.sound h
  | server i e =>
    obtain ⟨l, hl, hs⟩ := Option.bind_eq_some_iff.mp hs
    obtain ⟨l', hl', rfl⟩ := Option.map_eq_some_iff.mp hs
    exact computed_set hok.links.sound h hl (by simpa [computes, hl] using he) hl'

/-- In every run in which the workers answer with what the service computes, a synchronous
call that returns `OK` returns what the server has to say to it. -/
theorem results_computed {es : List Event}
    (he : ∀ s e t, (machine S).Takes es s e t → s.computes pb S e) (hs : (machine S).Visits es w) :
    ∀ r ∈ w.client.returned, r.status = .OK →
      ∃ p, r.call.answer pb S.services = .reply p ∧ r.respload = some p := by
  have hinv : w.Ok S ∧ ∀ l ∈ w.links, l.Computed pb S :=
    Machine.visits_of_inductive (M := machine S)
      (C := fun s e => s.computes pb S e) (I := fun s => s.Ok S ∧ ∀ l ∈ s.links, l.Computed pb S)
      ⟨reachable_ok ⟨[], rfl⟩, by simp [machine, start]⟩
      (fun s e t hi he hn => ⟨step_ok hi.1 hn, step_computed hi.1 hi.2 he hn⟩) he hs
  intro r hr hstatus
  obtain ⟨l, hl, a, ha, p, hcall, hans, hload⟩ := hinv.1.client.returned r hr hstatus
  exact ⟨p, hans ▸ (hinv.2 l hl a ha r.call hcall).symm, hload⟩

end World

/-- An echo of a short message, as it stands in a request and in the response. -/
def echoProtoBuf : ProtoBuf :=
  let field (tag : UInt8) (bytes : Bytes) : Bytes := tag :: bytes.length.toUInt8 :: bytes
  { unmarshallingFromString := fun bytes =>
      if bytes = field 42 (field 10 (bytes.drop 4)) then
        some ⟨none, none, some (bytes.drop 4), none⟩
      else none
    marshallingToString := fun response =>
      8 :: response.code.toNatClampNeg.toUInt8 :: (field 18 response.msg ++
        response.echo.elim [] fun msg => field 42 (field 10 msg)) }

def echoRequest : Bytes := [42, 3, 10, 1, 110]

def echoResponse : Bytes := [8, 0, 18, 2, 79, 75, 42, 8, 10, 6, 101, 99, 104, 111, 58, 110]

namespace World

def echoRun : List Event :=
  let request : Bytes := (requestMessage ⟨0, true, 1, CMD_READ, echoRequest, 0⟩).netStr
  let response : Bytes :=
    (Message.ofPayload (RpcResponseMessage.ofReply 1 CMD_READ echoResponse).netStr).netStr
  [.client (.callRPC true 1 CMD_READ echoRequest 0), .client .connected, .client (.wrote 37),
    .client .writeDone, .server 0 (.conn (.readDone 0 (request.take 16))),
    .server 0 (.conn (.readDone 0 (request.drop 16))),
    .server 0 (.answer 0 (.reply echoResponse) true), .server 0 (.conn (.wrote 0 49)),
    .client (.readDone (response.take 16)), .client (.readDone (response.drop 16))]

theorem echoRun_computed : ∃ w, (machine matchedSetup).run echoRun = some w ∧
    w.client.returned.map (fun r => (r.status, r.respload)) = [(.OK, some echoResponse)] ∧
    ∀ r ∈ w.client.returned, r.status = .OK →
      ∃ p, r.call.answer echoProtoBuf matchedSetup.services = .reply p ∧ r.respload = some p := by
  have h : ((machine matchedSetup).run echoRun).any (fun w => decide
      (w.client.returned.map (fun r => (r.status, r.respload)) =
        [(.OK, some echoResponse)])) := by
    decide +kernel
  have htrace : ∀ x ∈ (machine matchedSetup).trace (machine matchedSetup).start echoRun,
      x.1.computes echoProtoBuf matchedSetup x.2.1 := by
    decide +kernel
  obtain ⟨w, hw, hd⟩ := (Option.any_eq_true _ _).mp h
  exact ⟨w, hw, of_decide_eq_true hd,
    results_computed (fun s e t ht => htrace _ ht.mem_trace) (Machine.visits_self hw)⟩

end World

namespace AsyncWorld

variable {S : Setup} {pb : ProtoBuf} {w w' : AsyncWorld}

def computes (pb : ProtoBuf) (S : Setup) (w : AsyncWorld) : Event → Bool
  | .client _ => true
  | .server e => w.link.all fun l => l.computes pb S e
  | .dropped i e => w.dropped[i]?.all fun l => l.computes pb S e

lemma mem_links {l : Link} : l ∈ w.links ↔ w.link = some l ∨ l ∈ w.dropped := by
  simp [links]

lemma afterCall_grows {cl : RpcClientImpl} {l : Link} {call : Call}
    (hl : l.answers = [] ∨ l ∈ w.links) (h : w.afterCall cl l call = some w') :
    ClientGrows w.links w'.links := by
  unfold afterCall at h
  split_ifs at h
  · obtain rfl := Option.some.inj h
    intro k hk
    rcases mem_links.mp hk with hk | hk
    · obtain rfl := Option.some.inj hk
      exact hl.imp id fun hl => ⟨l, hl, rfl, List.prefix_append _ _⟩
    · exact ClientGrows.refl _ k (mem_links.mpr (Or.inr hk))
  · obtain rfl := Option.some.inj h
    intro k hk
    rcases mem_links.mp hk with hk | hk
    · cases hk
    · rcases List.mem_append.mp hk with hk | hk
      · exact ClientGrows.refl _ k (mem_links.mpr (Or.inr hk))
      · obtain rfl := List.mem_singleton.mp hk
        exact hl.imp id fun hl => ⟨k, hl, rfl, List.prefix_refl _⟩

lemma drive_same {c : Client.TcpConnAsync} {e : Client.TcpConnAsync.Event} {l l' : Link}
    (h : l.drive c e = some l') : l'.answers = l.answers ∧ l'.calls = l.calls := by
  obtain ⟨down, -, rfl⟩ := Option.map_eq_some_iff.mp h
  exact ⟨rfl, rfl⟩

lemma afterClient_grows {cl : RpcClientImpl} {e : RpcClientImpl.Event}
    (h : w.afterClient S cl e = some w') : ClientGrows w.links w'.links := by
  unfold afterClient at h
  split at h
  · split at h
    · rename_i l hl
      exact afterCall_grows (Or.inr (mem_links.mpr (Or.inl hl))) h
    · obtain rfl := Option.some.inj h
      exact .refl _
  · obtain ⟨x, -, h⟩ := Option.bind_eq_some_iff.mp h
    split_ifs at h
    · obtain rfl := Option.some.inj h
      exact .refl _
    · exact afterCall_grows (Or.inl rfl) h
  · obtain ⟨c, -, h⟩ := Option.bind_eq_some_iff.mp h
    obtain ⟨l, hl, h⟩ := Option.bind_eq_some_iff.mp h
    obtain ⟨l', hdrive, rfl⟩ := Option.map_eq_some_iff.mp h
    obtain ⟨hans, hcalls⟩ := drive_same hdrive
    rw [links, links, hl]
    exact .head hans (hcalls ▸ List.prefix_refl _)
  · obtain ⟨c, -, h⟩ := Option.bind_eq_some_iff.mp h
    obtain ⟨l, hl, h⟩ := Option.bind_eq_some_iff.mp h
    obtain ⟨l', hdrive, rfl⟩ := Option.map_eq_some_iff.mp h
    obtain ⟨hans, hcalls⟩ := drive_same hdrive
    intro k hk
    rcases mem_links.mp hk with hk | hk
    · exact ClientGrows.refl _ k (mem_links.mpr (Or.inl hk))
    · rcases List.mem_or_eq_of_mem_set hk with hk | rfl
      · exact ClientGrows.refl _ k (mem_links.mpr (Or.inr hk))
      · exact Or.inr ⟨l, mem_links.mpr (Or.inr (List.mem_of_getElem? hl)), hans,
          hcalls ▸ List.prefix_refl _⟩
  · obtain rfl := Option.some.inj h
    exact .refl _

lemma step_computed {e : Event} (hS : ∀ l ∈ w.links, l.Sound S)
    (h : ∀ l ∈ w.links, l.Computed pb S) (he : w.computes pb S e) (hs : step S w e = some w') :
    ∀ l ∈ w'.links, l.Computed pb S := by
  cases e with
  | client e =>
    obtain ⟨cl, -, hs⟩ := Option.bind_eq_some_iff.mp hs
    exact (afterClient_grows hs).computed hS h
  | server e =>
    obtain ⟨l, hl, hs⟩ := Option.bind_eq_some_iff.mp hs
    obtain ⟨l', hl', rfl⟩ := Option.map_eq_some_iff.mp hs
    rw [links, hl] at hS h
    exact computed_set (i := 0) hS h rfl (by simpa [computes, hl] using he) hl'
  | dropped i e =>
    obtain ⟨l, hl, hs⟩ := Option.bind_eq_some_iff.mp hs
    obtain ⟨l', hl', rfl⟩ := Option.map_eq_some_iff.mp hs
    have hset := computed_set (fun k hk => hS k (mem_links.mpr (Or.inr hk)))
      (fun k hk => h k (mem_links.mpr (Or.inr hk))) hl (by simpa [computes, hl] using he) hl'
    intro k hk
    exact (mem_links.mp hk).elim (fun hk => h k (mem_links.mpr (Or.inl hk))) (hset k)

lemma given_computed {links : List Link} (hc : ∀ l ∈ links, l.Computed pb S)
    {x : Call × Answer} (hx : x ∈ links.flatMap Link.given) :
    x.2 = x.1.answer pb S.services := by
  obtain ⟨l, hl, hx⟩ := List.mem_flatMap.mp hx
  obtain ⟨a, ha, hx⟩ := List.mem_filterMap.mp hx
  obtain ⟨call, hcall, rfl⟩ := Option.map_eq_some_iff.mp hx
  exact hc l hl a (List.mem_filter.mp ha).1 call hcall

/-- In every run in which the workers answer with what the service computes, `handler_` was
invoked with what the server has to say to calls that were accepted, once to each. -/
theorem reports_computed {es : List Event}
    (he : ∀ s e t, (machine S).Takes es s e t → s.computes pb S e) (hs : (machine S).Visits es w) :
    ∃ calls : List Call, calls.Nodup ∧ calls.Subperm (w.client.okCalls.map Returned.call) ∧
      w.reports = calls.map fun call => .ofAnswer call (call.answer pb S.services) := by
  obtain ⟨hmatching, hcomputed⟩ : Matching S w ∧ ∀ l ∈ w.links, l.Computed pb S :=
    Machine.visits_of_inductive (M := machine S) (C := fun s e => s.computes pb S e)
      (I := fun s => Matching S s ∧ ∀ l ∈ s.links, l.Computed pb S)
      ⟨matching_start S, by simp [machine, start, links]⟩
      (fun s e t hi he hn => ⟨hi.1.step hn, step_computed hi.1.sound hi.2 he hn⟩) he hs
  obtain ⟨answered, hsub, hreports, hnodup, hcalls⟩ := hmatching.reports
  refine ⟨answered.map Prod.fst, hnodup, hcalls, ?_⟩
  rw [hreports, List.map_map]
  refine List.map_congr_left fun x hx => ?_
  rw [given_computed hcomputed (hsub.subset hx)]
  rfl

/-- Two calls, answered in the other order: one for an echo, and one with an opcode the
service does not know. -/
def echoCalls : List Event :=
  let request (opcode : UInt16) : Bytes :=
    (requestMessage ⟨0, false, 1, opcode, echoRequest, 0⟩).netStr
  let result : Bytes :=
    (Message.ofPayload (RpcResponseMessage.ofReply 1 CMD_READ echoResponse).netStr).netStr
  let refusal : Bytes := (RpcInstance.rejectMessage .INVALID_REQUEST).netStr
  [.client (.callRPC false 1 CMD_READ echoRequest 0), .client .connected,
    .client (.asyncConn (.wrote 0 37)), .client (.asyncConn (.writeDone 0)),
    .client (.callRPC false 1 9 echoRequest 0), .client (.asyncConn (.wrote 0 37)),
    .client (.asyncConn (.writeDone 0)),
    .server (.conn (.readDone 0 (request CMD_READ ++ request 9))),
    .server (.answer 1 (.reject .INVALID_REQUEST) true), .server (.conn (.wrote 0 33)),
    .server (.conn (.writeDone 0)), .server (.answer 0 (.reply echoResponse) true),
    .server (.conn (.wrote 0 49)), .client (.asyncConn (.readDone 0 (refusal ++ result)))]

theorem echoCalls_computed : ∃ w, (machine oneService).run echoCalls = some w ∧
    w.reports = [.failed ⟨4⟩, ⟨.OK, 1, CMD_READ, echoResponse⟩] ∧
    ∃ calls : List Call, calls.Nodup ∧ calls.Subperm (w.client.okCalls.map Returned.call) ∧
      w.reports = calls.map fun call =>
        .ofAnswer call (call.answer echoProtoBuf oneService.services) := by
  have h : ((machine oneService).run echoCalls).any (fun w =>
      decide (w.reports = [.failed ⟨4⟩, ⟨.OK, 1, CMD_READ, echoResponse⟩])) := by
    decide +kernel
  have htrace : ∀ x ∈ (machine oneService).trace (machine oneService).start echoCalls,
      x.1.computes echoProtoBuf oneService x.2.1 := by
    decide +kernel
  obtain ⟨w, hw, hd⟩ := (Option.any_eq_true _ _).mp h
  exact ⟨w, hw, of_decide_eq_true hd,
    reports_computed (fun s e t ht => htrace _ ht.mem_trace) (Machine.visits_self hw)⟩

end AsyncWorld

end Tzrpc
