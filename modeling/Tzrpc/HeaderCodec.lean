import Mathlib.Data.List.Basic
import Mathlib.Tactic.Common

/-!
# Fixed size headers in front of a payload

A header of one fixed length is put in front of a payload that runs to the end of the
string. When the header alone is coded faithfully in both directions, so is the whole
string: every string of at least the header's length is the coding of one value.
-/
namespace Tzrpc

structure HeaderCodec (α β : Type*) where
  size : ℕ
  encode : α → List β
  decode : List β → α
  encode_length : ∀ h, (encode h).length = size
  /-- A header is read back whatever follows it. -/
  decode_encode : ∀ h t, decode (encode h ++ t) = h
  /-- Whatever the first elements are, they are written back. -/
  encode_decode : ∀ s, size ≤ s.length → encode (decode s) = s.take size

namespace HeaderCodec

variable {α β : Type*} (C : HeaderCodec α β)

def put (x : α × List β) : List β := C.encode x.1 ++ x.2

def get (s : List β) : Option (α × List β) :=
  if s.length < C.size then none else some (C.decode s, s.drop C.size)

variable {C}

lemma put_length (x : α × List β) : (C.put x).length = C.size + x.2.length := by
  rw [put, List.length_append, C.encode_length]

theorem get_put (x : α × List β) : C.get (C.put x) = some x := by
  have hl : ¬ (C.put x).length < C.size := by
    rw [put_length]
    omega
  have hd : (C.encode x.1 ++ x.2).drop C.size = x.2 := by
    rw [← C.encode_length x.1, List.drop_left]
  rw [get, if_neg hl, put, C.decode_encode, hd]

theorem get_eq_some_iff {s : List β} {x : α × List β} : C.get s = some x ↔ C.put x = s := by
  constructor
  · intro h
    unfold get at h
    split_ifs at h with hl
    obtain rfl := Option.some.inj h
    rw [put, C.encode_decode s (by omega), List.take_append_drop]
  · rintro rfl
    exact get_put x

lemma exists_put {s : List β} (h : C.size ≤ s.length) : ∃ x, C.get s = some x ∧ C.put x = s := by
  have hl : ¬ s.length < C.size := by omega
  have hg : C.get s = some (C.decode s, s.drop C.size) := if_neg hl
  exact ⟨_, hg, get_eq_some_iff.mp hg⟩

end HeaderCodec

end Tzrpc
