import Tzrpc.Message

/-!
# The byte buffer

`Buffer` follows the source's vector of bytes; lengths are returned as `uint32_t`, so they
are exact only below `2 ^ 32`.
-/
namespace Tzrpc

structure Buffer where
  data : Bytes
  deriving DecidableEq, Repr

namespace Buffer

def empty : Buffer := ⟨[]⟩

def getLength (b : Buffer) : UInt32 := UInt32.ofNat b.data.length

def appendInternal (b : Buffer) (data : Bytes) : Buffer := ⟨b.data ++ data⟩

def append (b : Buffer) (msg : Message) : Buffer :=
  (b.appendInternal msg.header.wire).appendInternal msg.payload

/-- `Buffer(const Message&)`. -/
def ofMessage (msg : Message) : Buffer :=
  (empty.appendInternal msg.header.wire).appendInternal msg.payload

/-- `consume(std::string&, sz)`: `none` is the refusal that leaves the target untouched. -/
def consume (b : Buffer) (sz : UInt32) : Option Bytes × Buffer :=
  if sz = 0 ∨ b.data = [] then (none, b)
  else if b.data.length ≤ sz.toNat then (some b.data, empty)
  else (some (b.data.take sz.toNat), ⟨b.data.drop sz.toNat⟩)

def frontErase (b : Buffer) (sz : UInt32) : Buffer :=
  if b.data.length ≤ sz.toNat then empty else ⟨b.data.drop sz.toNat⟩

/-- `consume(char*, sz)` into a block: `memcpy` over the front of the block, then
`front_erase`. Callers ask for at most the bytes present. -/
def consumeBlock (b : Buffer) (store : Bytes) (sz : UInt32) : Bytes × Buffer :=
  if sz = 0 ∨ b.data = [] then (store, b)
  else (b.data.take sz.toNat ++ store.drop sz.toNat, b.frontErase sz)

@[simp] lemma appendInternal_data (b : Buffer) (data : Bytes) :
    (b.appendInternal data).data = b.data ++ data := rfl

@[simp] lemma append_data (b : Buffer) (msg : Message) :
    (b.append msg).data = b.data ++ msg.netStr := by
  simp [append, appendInternal, Message.netStr]

lemma getLength_toNat {b : Buffer} (h : b.data.length < 2 ^ 32) :
    b.getLength.toNat = b.data.length := UInt32.toNat_ofNat_of_lt' h

lemma getLength_le (b : Buffer) : b.getLength.toNat ≤ b.data.length := by
  rw [getLength, UInt32.toNat_ofNat']
  exact Nat.mod_le _ _

lemma consume_eq {b : Buffer} {sz : UInt32} (h : sz.toNat ≤ b.data.length) :
    (b.consume sz).1.getD [] = b.data.take sz.toNat ∧
      (b.consume sz).2 = ⟨b.data.drop sz.toNat⟩ := by
  unfold consume
  split_ifs with h0 h1
  · rcases h0 with rfl | h0
    · simp
    · cases b
      simp_all
  · have he : b.data.length = sz.toNat := le_antisymm h1 h
    simp [← he, empty]
  · simp

lemma getLength_consume {b : Buffer} {sz : UInt32} (h : sz.toNat ≤ b.getLength.toNat) :
    (b.consume sz).2.getLength.toNat + sz.toNat = b.getLength.toNat := by
  have hle := b.getLength_le
  rw [(consume_eq (h.trans hle)).2]
  simp only [getLength, UInt32.toNat_ofNat', List.length_drop] at h ⊢
  omega

lemma frontErase_data (b : Buffer) (sz : UInt32) :
    (b.frontErase sz).data = b.data.drop sz.toNat := by
  unfold frontErase
  split_ifs with h
  · simp [empty, List.drop_eq_nil_of_le h]
  · rfl

lemma consumeBlock_eq {b : Buffer} {store : Bytes} {sz : UInt32} (h : sz.toNat ≤ b.data.length) :
    (b.consumeBlock store sz).1.take sz.toNat = b.data.take sz.toNat ∧
      (b.consumeBlock store sz).2.data = b.data.drop sz.toNat := by
  unfold consumeBlock
  split_ifs with h0
  · rcases h0 with rfl | h0
    · simp
    · simp only [h0, List.length_nil, Nat.le_zero] at h
      simp [h0, h]
  · refine ⟨?_, frontErase_data _ _⟩
    rw [List.take_append_of_le_length (by simp [h]), List.take_take, min_self]

end Buffer

end Tzrpc
