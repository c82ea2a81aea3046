import Tzrpc.ListUpdate
import Tzrpc.Machine
import Tzrpc.SyncCallOrder
import Mathlib.Data.List.Nodup

/-!
# Synchronous calls against the server

One client, used only through the synchronous `call_RPC`, with every connection it has
made so far. The client's steps drive the streams of its newest connection; the server
goes on with any connection, also with one the client has given up.
-/
namespace Tzrpc

open Client (Call TcpConnSync RpcClientImpl SyncOp Blocked Returned ClientSetting)
open Client.RpcClientImpl (requestMessage)

structure World where
  client : RpcClientImpl
  /-- The newest first; `conn_sync_`, if it is set, is the client's end of that one. -/
  links : List Link
  deriving DecidableEq, Repr

namespace World

inductive Event
  | client (e : RpcClientImpl.Event)
  | server (i : ℕ) (e : Link.Event)
  deriving DecidableEq, Repr

def start (S : Setup) : World := ⟨.fresh S.setting, []⟩

/-- The connections after an event of the client; `none` where the streams do not allow it
or the client is not used this way. -/
def linksAfter (S : Setup) (w : World) : RpcClientImpl.Event → Option (List Link)
  | .callRPC sync serviceId opcode payload timeoutSec =>
    if sync = true ∧ payload.length < 2 ^ 31 then
      match w.client.connSync, w.links with
      | some _, l :: links =>
        some (l.join ⟨w.client.calls, sync, serviceId, opcode, payload, timeoutSec⟩ :: links)
      | _, links => some links
    else none
  | .connected => w.client.calling.map fun x => .opened S x.1 :: w.links
  | .wrote n =>
    match w.client.calling, w.client.connSync, w.links with
    | some (_, .io (.write _ sent)), some c, l :: links =>
      some (l.write ((c.sendBound.ioBlock.drop sent).take n) :: links)
    | _, _, _ => none
  | .readDone bytes =>
    match w.client.calling, w.links with
    | some (call, _), l :: links => (l.read call.id bytes).map (· :: links)
    | _, _ => none
  | .asyncConn _ => none
  | .droppedConn _ _ => none
  | _ => some w.links

def step (S : Setup) (w : World) : Event → Option World
  | .client e =>
    (w.client.step e).bind fun cl => (w.linksAfter S e).map fun links => ⟨cl, links⟩
  | .server i e =>
    w.links[i]?.bind fun l => (l.step S e).map fun l' => { w with links := w.links.set i l' }

def machine (S : Setup) : Machine World Event := ⟨start S, step S⟩

end World

/-- One `handle_RPC` of the server: the call whose request it was, the payload, and the
answers given to it so far. -/
structure Handling where
  call : Call
  payload : Bytes
  answers : List Answer
  deriving DecidableEq, Repr

def Link.answersTo (l : Link) (request : ℕ) : List Answer :=
  (l.answers.filter fun a => decide (a.request = request)).map (·.answer)

def Link.handled (l : Link) : List Handling :=
  (l.calls.zip l.conn.recv.dispatched).mapIdx fun k x => ⟨x.1, x.2, l.answersTo k⟩

def World.handled (w : World) : List Handling := w.links.flatMap Link.handled

def callIds (links : List Link) : List ℕ := (links.map Link.calls).flatten.map Call.id

/-- Every connection is sound and in order, and no two calls on them are the same. -/
structure LinksOk (S : Setup) (calls : ℕ) (links : List Link) : Prop where
  sound : ∀ l ∈ links, l.Sound S
  serves : ∀ l ∈ links, ∃ m, l.Serves m ∧ l.calls.length ≤ m + 1
  known : ∀ l ∈ links, ∀ x ∈ l.reads, x.1 ∈ l.calls.map Call.id
  ids : (callIds links).Nodup
  fresh : ∀ id ∈ callIds links, id < calls

section LinksOk

variable {S : Setup} {links : List Link} {l l' : Link} {calls i : ℕ} {call : Call}

@[simp] lemma callIds_cons (l : Link) (links : List Link) :
    callIds (l :: links) = l.calls.map Call.id ++ callIds links := by
  simp [callIds]

lemma LinksOk.of_le {n : ℕ} (h : LinksOk S calls links) (hle : calls ≤ n) : LinksOk S n links :=
  ⟨h.sound, h.serves, h.known, h.ids, fun id hid => lt_of_lt_of_le (h.fresh id hid) hle⟩

lemma LinksOk.readBy_new (h : LinksOk S calls links) (hl : l ∈ links) {id : ℕ}
    (hid : id ∉ callIds links) : l.readBy id = [] := by
  have hnone : (l.reads.filter fun x => decide (x.1 = id)) = [] := by
    rw [List.filter_eq_nil_iff]
    intro x hx hxid
    apply hid
    have hmem := h.known l hl x hx
    rw [of_decide_eq_true hxid] at hmem
    obtain ⟨call, hcall, rfl⟩ := List.mem_map.mp hmem
    exact List.mem_map_of_mem (List.mem_flatten.mpr ⟨_, List.mem_map_of_mem hl, hcall⟩)
  rw [Link.readBy, hnone, List.flatMap_nil]

lemma LinksOk.cons (h : LinksOk S calls links) (hS : l.Sound S)
    (hserves : ∃ m, l.Serves m ∧ l.calls.length ≤ m + 1)
    (hknown : ∀ x ∈ l.reads, x.1 ∈ l.calls.map Call.id)
    (hids : (callIds (l :: links)).Nodup) (hfresh : ∀ id ∈ l.calls.map Call.id, id < calls) :
    LinksOk S calls (l :: links) := by
  refine ⟨?_, ?_, ?_, hids, fun id hid => ?_⟩
  · exact List.forall_mem_cons.mpr ⟨hS, h.sound⟩
  · exact List.forall_mem_cons.mpr ⟨hserves, h.serves⟩
  · exact List.forall_mem_cons.mpr ⟨hknown, h.known⟩
  · rw [callIds_cons, List.mem_append] at hid
    exact hid.elim (hfresh id) (h.fresh id)

lemma LinksOk.tail (h : LinksOk S calls (l :: links)) : LinksOk S calls links := by
  have hids := h.ids
  rw [callIds_cons, List.nodup_append] at hids
  exact ⟨fun k hk => h.sound k (List.mem_cons_of_mem l hk),
    fun k hk => h.serves k (List.mem_cons_of_mem l hk),
    fun k hk => h.known k (List.mem_cons_of_mem l hk), hids.2.1,
    fun id hid => h.fresh id (by rw [callIds_cons]; exact List.mem_append_right _ hid)⟩

lemma LinksOk.replace (h : LinksOk S calls (l :: links)) (hS : l'.Sound S)
    (hserves : ∃ m, l'.Serves m ∧ l'.calls.length ≤ m + 1) (hcalls : l'.calls = l.calls)
    (hknown : ∀ x ∈ l'.reads, x.1 ∈ l'.calls.map Call.id) : LinksOk S calls (l' :: links) := by
  refine h.tail.cons hS hserves hknown ?_ ?_
  · rw [callIds_cons, hcalls, ← callIds_cons]
    exact h.ids
  · rw [hcalls]
    exact fun id hid => h.fresh id (by rw [callIds_cons]; exact List.mem_append_left _ hid)

lemma LinksOk.opened (h : LinksOk S calls links) (hfits : call.payload.length < 2 ^ 31)
    (hnew : call.id ∉ callIds links) (hlt : call.id < calls) :
    LinksOk S calls (.opened S call :: links) := by
  refine h.cons (Link.opened_sound hfits) ⟨0, Link.opened_serves S call, le_rfl⟩ ?_ ?_ ?_
  · simp [Link.opened]
  · rw [callIds_cons]
    exact List.nodup_cons.mpr ⟨hnew, h.ids⟩
  · simpa [Link.opened] using hlt

lemma LinksOk.join (h : LinksOk S call.id (l :: links)) (hserves : l.Serves l.calls.length)
    (hfits : call.payload.length < 2 ^ 31) :
    (l.join call).Serves l.calls.length ∧ LinksOk S (call.id + 1) (l.join call :: links) := by
  have hmem : l ∈ l :: links := List.mem_cons_self
  have hnew : call.id ∉ callIds (l :: links) := fun hid => lt_irrefl _ (h.fresh _ hid)
  have hjoin := Link.join_serves hserves (h.readBy_new hmem hnew)
  refine ⟨hjoin, (h.tail.of_le (Nat.le_succ _)).cons (Link.join_sound (h.sound l hmem) hfits)
    ⟨_, hjoin, by simp [Link.join]⟩ ?_ ?_ ?_⟩
  · intro x hx
    simp only [Link.join, List.map_append]
    exact List.mem_append_left _ (h.known l hmem x hx)
  · have hids := h.ids
    rw [callIds_cons] at hids hnew ⊢
    simp only [Link.join, List.map_append, List.map_singleton, List.append_assoc,
      List.singleton_append]
    exact List.nodup_middle.mpr (List.nodup_cons.mpr ⟨hnew, hids⟩)
  · intro id hid
    simp only [Link.join, List.map_append, List.mem_append, List.map_singleton,
      List.mem_singleton] at hid
    rcases hid with hid | rfl
    · exact (h.fresh id (by rw [callIds_cons]; exact List.mem_append_left _ hid)).trans
        (Nat.lt_succ_self _)
    · exact Nat.lt_succ_self _

lemma LinksOk.write {m : ℕ} {bytes : Bytes} (h : LinksOk S calls (l :: links))
    (hserves : l.Serves m) (hm : l.calls.length ≤ m + 1)
    (hb : l.up.all ++ bytes <+: requests l.calls) :
    (l.write bytes).Serves m ∧ LinksOk S calls (l.write bytes :: links) := by
  have hserves' : (l.write bytes).Serves m := hserves.of_view rfl rfl rfl (List.prefix_refl _)
  exact ⟨hserves', h.replace (Link.write_sound (h.sound l List.mem_cons_self) hb)
    ⟨m, hserves', hm⟩ rfl (h.known l List.mem_cons_self)⟩

lemma LinksOk.read {older : List Call} {bytes : Bytes} (h : LinksOk S calls (l :: links))
    (hserves : l.Serves older.length) (hcalls : l.calls = older ++ [call])
    (hr : l.read call.id bytes = some l') :
    l'.Serves older.length ∧ l'.readBy call.id = l.readBy call.id ++ bytes ∧
      LinksOk S calls (l' :: links) := by
  have hmem : l ∈ l :: links := List.mem_cons_self
  have hids := h.ids
  rw [callIds_cons, List.nodup_append] at hids
  obtain ⟨hserves', hby⟩ := Link.read_serves hserves hcalls hids.1 hr
  obtain ⟨hcalls', -, hreads, -, -⟩ := Link.read_view hr
  refine ⟨hserves', hby, h.replace (Link.read_sound (h.sound l hmem) hr)
    ⟨_, hserves', by simp [hcalls', hcalls]⟩ hcalls' fun x hx => ?_⟩
  rw [hcalls']
  rw [hreads] at hx
  rcases List.mem_append.mp hx with hx | hx
  · exact h.known l hmem x hx
  · obtain rfl := List.mem_singleton.mp hx
    simp [hcalls]

lemma callIds_set {l l' : Link} (hl : links[i]? = some l) (hcalls : l'.calls = l.calls) :
    callIds (links.set i l') = callIds links := by
  rw [callIds, map_set_of_eq (f := Link.calls) hl hcalls, callIds]

lemma LinksOk.server {e : Link.Event} (h : LinksOk S calls links) (hl : links[i]? = some l)
    (hs : l.step S e = some l') : LinksOk S calls (links.set i l') := by
  have hmem := List.mem_of_getElem? hl
  obtain ⟨hcalls, hreads, -⟩ := Link.step_client_view hs
  have hset : ∀ {P : Link → Prop}, P l' → (∀ k ∈ links, P k) → ∀ k ∈ links.set i l', P k := by
    intro P hP hall k hk
    rcases List.mem_or_eq_of_mem_set hk with hk | rfl
    · exact hall k hk
    · exact hP
  constructor
  · exact hset (Link.step_sound (h.sound l hmem) hs) h.sound
  · refine hset ?_ h.serves
    obtain ⟨m, hm, hlen⟩ := h.serves l hmem
    exact ⟨m, Link.step_serves hm hs, hcalls ▸ hlen⟩
  · refine hset ?_ h.known
    rw [hcalls, hreads]
    exact h.known l hmem
  · rw [callIds_set hl hcalls]
    exact h.ids
  · rw [callIds_set hl hcalls]
    exact h.fresh

end LinksOk

end Tzrpc
