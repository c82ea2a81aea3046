import Tzrpc.Buffer
import Tzrpc.Machine

/-!
# The buffer as a queue

A run of the public operations of a `Buffer`, from any of its constructors. What the takes
hand out, followed by what is left, is what the buffer was made of, followed by everything
that was appended.
-/
namespace Tzrpc.Buffer

/-- `Buffer(const std::string&)`. -/
def ofString (data : Bytes) : Buffer := ⟨data⟩

/-- The path of `consume` that swaps the remaining bytes in. -/
def consumePart (b : Buffer) (sz : UInt32) : Option Bytes × Buffer :=
  (some (b.data.take sz.toNat), ⟨b.data.drop sz.toNat⟩)

inductive Made : Bytes → Buffer → Prop
  | empty : Made [] empty
  | ofString (data : Bytes) : Made data (ofString data)
  | ofMessage (msg : Message) : Made msg.netStr (ofMessage msg)

/-- The operations. A `store` is what the target holds before the call, and `none` for a
null pointer. -/
inductive Op
  | appendInternal (data : Bytes)
  | append (msg : Message)
  | consume (store : Bytes) (sz : UInt32)
  | consumeBlock (store : Option Bytes) (sz : UInt32)
  | frontErase (sz : UInt32)
  deriving DecidableEq, Repr

inductive Returned
  | size (n : UInt32)
  | done (ok : Bool)
  | void
  deriving DecidableEq, Repr

structure Called where
  returned : Returned
  store : Option Bytes
  buffer : Buffer
  deriving DecidableEq, Repr

def call (b : Buffer) : Op → Called
  | .appendInternal data =>
    let next := b.appendInternal data
    ⟨.size next.getLength, none, next⟩
  | .append msg =>
    let next := b.append msg
    ⟨.size next.getLength, none, next⟩
  | .consume store sz =>
    let res := b.consume sz
    ⟨.done res.1.isSome, some (res.1.getD store), res.2⟩
  | .consumeBlock none _ => ⟨.done false, none, b⟩
  | .consumeBlock (some store) sz =>
    let res := b.consumeBlock store sz
    ⟨.done (decide (sz ≠ 0) && decide (b.data ≠ [])), some res.1, res.2⟩
  | .frontErase sz => ⟨.void, none, b.frontErase sz⟩

namespace Op

def target : Op → Option Bytes
  | .consume store _ => some store
  | .consumeBlock store _ => store
  | _ => none

def wants : Op → Option UInt32
  | .consume _ sz => some sz
  | .consumeBlock _ sz => some sz
  | .frontErase sz => some sz
  | _ => none

def appended : Op → Bytes
  | .appendInternal data => data
  | .append msg => msg.netStr
  | _ => []

/-- Nothing is asked for, nothing is there, or there is nowhere to put it. -/
def Refused (b : Buffer) : Op → Prop
  | .consume _ sz => sz = 0 ∨ b.data = []
  | .consumeBlock store sz => store = none ∨ sz = 0 ∨ b.data = []
  | _ => False

/-- Callers of `consume(char*, sz)` ask for at most the bytes present. -/
def Allowed (b : Buffer) : Op → Prop
  | .consumeBlock _ sz => sz.toNat ≤ b.data.length
  | _ => True

instance (b : Buffer) (op : Op) : Decidable (op.Allowed b) := by
  cases op <;> unfold Allowed <;> infer_instance

/-- The bytes a call takes from the front: those it put into its target, or those an erase
has removed. -/
def taken (b : Buffer) (op : Op) : Bytes :=
  let res := b.call op
  match op with
  | .consume _ _ => if res.returned = .done true then res.store.getD [] else []
  | .consumeBlock _ sz => if res.returned = .done true then (res.store.getD []).take sz.toNat else []
  | .frontErase _ => b.data.take (b.data.length - res.buffer.data.length)
  | _ => []

end Op

structure Queue where
  buffer : Buffer
  taken : Bytes
  deriving DecidableEq, Repr

def queue (b : Buffer) : Machine Queue Op where
  start := ⟨b, []⟩
  next q op :=
    if op.Allowed q.buffer then
      some ⟨(q.buffer.call op).buffer, q.taken ++ op.taken q.buffer⟩
    else none

section Takes

variable {b : Buffer} {op : Op} {sz : UInt32}

lemma consume_eq_consumePart (hsz : sz ≠ 0) (hb : b.data ≠ []) :
    b.consume sz = b.consumePart sz := by
  rw [consume, if_neg (not_or.mpr ⟨hsz, hb⟩), consumePart]
  split_ifs with hall
  · rw [List.take_of_length_le hall, List.drop_of_length_le hall, empty]
  · rfl

lemma frontErase_eq (b : Buffer) (sz : UInt32) : b.frontErase sz = (b.consumePart sz).2 := by
  have hdata := b.frontErase_data sz
  cases h : b.frontErase sz
  rw [h] at hdata
  rw [consumePart, ← hdata]

lemma call_takes (ha : op.Allowed b) (hw : op.wants = some sz)
    (hr : (b.call op).returned ≠ .done false) :
    op.taken b = b.data.take sz.toNat ∧ (b.call op).buffer.data = b.data.drop sz.toNat := by
  cases op with
  | appendInternal data => simp [Op.wants] at hw
  | append msg => simp [Op.wants] at hw
  | consume store sz' =>
    obtain rfl := Option.some.inj hw
    by_cases h0 : sz' = 0 ∨ b.data = []
    · simp [call, consume, h0] at hr
    · rw [not_or] at h0
      simp [Op.taken, call, consume_eq_consumePart h0.1 h0.2, consumePart]
  | consumeBlock store sz' =>
    obtain rfl := Option.some.inj hw
    cases store with
    | none => simp [call] at hr
    | some store =>
      obtain ⟨hblock, hrest⟩ := @consumeBlock_eq b store sz' ha
      have hok : (b.call (.consumeBlock (some store) sz')).returned = .done true := by
        revert hr
        simp only [call]
        cases decide (sz' ≠ 0) && decide (b.data ≠ []) <;> simp
      exact ⟨by rw [Op.taken, if_pos hok]; exact hblock, hrest⟩
  | frontErase sz' =>
    obtain rfl := Option.some.inj hw
    have hdata := b.frontErase_data sz'
    refine ⟨?_, hdata⟩
    simp only [Op.taken, call, hdata, List.length_drop]
    rw [Nat.sub_sub_eq_min, min_comm, ← List.take_take, List.take_length]

lemma call_refused_iff : (b.call op).returned = .done false ↔ op.Refused b := by
  cases op with
  | appendInternal data => simp [call, Op.Refused]
  | append msg => simp [call, Op.Refused]
  | consume store sz =>
    by_cases h0 : sz = 0 ∨ b.data = []
    · simp [call, consume, h0, Op.Refused]
    · have hne := not_or.mp h0
      simp [call, consume_eq_consumePart hne.1 hne.2, consumePart, h0, Op.Refused]
  | consumeBlock store sz =>
    cases store with
    | none => simp [call, Op.Refused]
    | some store =>
      simp only [call, Op.Refused, Returned.done.injEq, Bool.and_eq_false_iff,
        decide_eq_false_iff_not, not_not, reduceCtorEq, false_or]
  | frontErase sz => simp [call, Op.Refused]

lemma call_refused (hr : op.Refused b) :
    (b.call op).buffer = b ∧ (b.call op).store = op.target ∧ op.taken b = [] := by
  cases op with
  | appendInternal data => exact hr.elim
  | append msg => exact hr.elim
  | consume store sz =>
    have h0 : sz = 0 ∨ b.data = [] := hr
    simp [Op.taken, call, consume, h0, Op.target]
  | consumeBlock store sz =>
    cases store with
    | none => simp [Op.taken, call, Op.target]
    | some store =>
      have h0 : sz = 0 ∨ b.data = [] := hr.resolve_left (by simp)
      simp only [Op.taken, call, consumeBlock, if_pos h0, Op.target]
      rcases h0 with h0 | h0 <;> simp [h0]
  | frontErase sz => exact hr.elim

lemma call_removes (ha : op.Allowed b) (hw : op.wants = some sz)
    (hs : op ≠ .consumeBlock none sz) :
    (op.taken b).length = min sz.toNat b.data.length ∧
      (b.call op).buffer.data.length = b.data.length - min sz.toNat b.data.length := by
  by_cases hr : op.Refused b
  · obtain ⟨hbuf, -, htaken⟩ := call_refused hr
    have hnone : min sz.toNat b.data.length = 0 := by
      have h0 : sz = 0 ∨ b.data = [] := by
        cases op with
        | consume store sz' => exact Option.some.inj hw ▸ hr
        | consumeBlock store sz' =>
          obtain rfl := Option.some.inj hw
          exact hr.resolve_left fun h => hs (h ▸ rfl)
        | _ => exact hr.elim
      rcases h0 with rfl | h0
      · simp
      · simp [h0]
    rw [hbuf, htaken, hnone]
    exact ⟨rfl, rfl⟩
  · obtain ⟨htaken, hrest⟩ := call_takes ha hw (mt call_refused_iff.mp hr)
    rw [htaken, hrest, List.length_take, List.length_drop]
    omega

lemma call_conserves (ha : op.Allowed b) :
    op.taken b ++ (b.call op).buffer.data = b.data ++ op.appended := by
  cases hw : op.wants with
  | none =>
    cases op <;> simp_all [Op.wants, Op.taken, Op.appended, call]
  | some sz =>
    have hnone : op.appended = [] := by
      cases op <;> simp_all [Op.wants, Op.appended]
    rw [hnone, List.append_nil]
    by_cases hr : op.Refused b
    · obtain ⟨hb, -, ht⟩ := call_refused hr
      rw [hb, ht, List.nil_append]
    · obtain ⟨ht, hb⟩ := call_takes ha hw (mt call_refused_iff.mp hr)
      rw [ht, hb, List.take_append_drop]

end Takes

section Runs

variable {b : Buffer} {q r t : Queue} {ops : List Op} {op : Op} {init : Bytes}

lemma queue_next (h : (queue b).next r op = some t) :
    op.Allowed r.buffer ∧ t = ⟨(r.buffer.call op).buffer, r.taken ++ op.taken r.buffer⟩ := by
  simp only [queue] at h
  split_ifs at h with ha
  exact ⟨ha, (Option.some.inj h).symm⟩

lemma Made.data (h : Made init b) : b.data = init := by
  cases h with
  | empty => rfl
  | ofString => rfl
  | ofMessage msg => simp [Buffer.ofMessage, Buffer.empty, Message.netStr]

lemma run_conserves (hrun : (queue b).run ops = some q) :
    q.taken ++ q.buffer.data = b.data ++ ops.flatMap Op.appended := by
  refine Machine.run_induction (M := queue b) (C := fun _ _ => True)
    (P := fun ops q => q.taken ++ q.buffer.data = b.data ++ ops.flatMap Op.appended)
    ?_ ?_ hrun fun _ _ _ _ => trivial
  · simp [queue]
  · intro ops r op t _ ih _ hn
    obtain ⟨ha, rfl⟩ := queue_next hn
    rw [List.append_assoc, call_conserves ha, ← List.append_assoc, ih]
    simp

/-- The buffer is a queue of bytes. Whatever it was made of and whatever is called, nothing
is lost, repeated or reordered; each take removes the bytes asked for, or all there are; a
take is refused only for want of bytes, of a size or of a target, and then changes nothing;
the lengths reported are exact below `2 ^ 32`; and the paths that take everything do what the
general ones do. -/
theorem fifo_exact (hb : Made init b) (hrun : (queue b).run ops = some q) :
    q.taken ++ q.buffer.data = init ++ ops.flatMap Op.appended ∧
      (∀ r op t, (queue b).Takes ops r op t →
        (∀ sz, op.wants = some sz → op ≠ .consumeBlock none sz →
          (op.taken r.buffer).length = min sz.toNat r.buffer.data.length ∧
            t.buffer.data.length = r.buffer.data.length - min sz.toNat r.buffer.data.length) ∧
        ((r.buffer.call op).returned = .done false ↔ op.Refused r.buffer) ∧
        ((r.buffer.call op).returned = .done false →
          t = r ∧ (r.buffer.call op).store = op.target) ∧
        ∀ n, (r.buffer.call op).returned = .size n → t.buffer.data.length < 2 ^ 32 →
          n.toNat = t.buffer.data.length) ∧
      (∀ r, (queue b).Visits ops r → r.buffer.data.length < 2 ^ 32 →
        r.buffer.getLength.toNat = r.buffer.data.length) ∧
      ∀ (c : Buffer) (sz : UInt32), (sz ≠ 0 → c.data ≠ [] → c.consume sz = c.consumePart sz) ∧
        c.frontErase sz = (c.consumePart sz).2 := by
  refine ⟨hb.data ▸ run_conserves hrun, ?_, fun r _ hlen => getLength_toNat hlen,
    fun c sz => ⟨consume_eq_consumePart, frontErase_eq c sz⟩⟩
  rintro r op t ⟨pre, -, -, hn⟩
  obtain ⟨ha, rfl⟩ := queue_next hn
  refine ⟨fun sz hw hs => call_removes ha hw hs, call_refused_iff, fun hr => ?_,
    fun n hr hlen => ?_⟩
  · obtain ⟨hbuf, hstore, ht⟩ := call_refused (call_refused_iff.mp hr)
    exact ⟨by rw [hbuf, ht, List.append_nil], hstore⟩
  · cases op with
    | appendInternal data =>
      obtain rfl := Returned.size.inj hr
      exact getLength_toNat hlen
    | append msg =>
      obtain rfl := Returned.size.inj hr
      exact getLength_toNat hlen
    | consume store sz => simp [call] at hr
    | consumeBlock store sz => cases store <;> simp [call] at hr
    | frontErase sz => simp [call] at hr

def testCalls : List Op :=
  [.appendInternal [116, 97, 111, 107, 97, 110], .consume [] 0, .consume [] 5,
    .consumeBlock (some [0, 0, 0]) 2, .consume [] 100]

theorem testCalls_exact :
    ∃ q, (queue (ofString [110, 105, 99, 111, 108])).run testCalls = some q ∧
      q.taken ++ q.buffer.data = [110, 105, 99, 111, 108] ++ testCalls.flatMap Op.appended := by
  have hrun : ((queue (ofString [110, 105, 99, 111, 108])).run testCalls).isSome := by
    decide +kernel
  obtain ⟨q, hq⟩ := Option.isSome_iff_exists.mp hrun
  exact ⟨q, hq, (fifo_exact (.ofString _) hq).1⟩

end Runs

end Tzrpc.Buffer
