import Mathlib.Data.List.Basic
import Mathlib.Tactic.Common
import Mathlib.Tactic.Ring

/-!
# Fixed width words as bytes

`leBytes w n` and `beBytes w n` are the `w` bytes of a word holding `n` modulo `256 ^ w`,
least and most significant byte first; `swapBytes` reverses the byte order of a word.
-/
namespace Tzrpc

abbrev Bytes := List UInt8

def leBytes : ℕ → ℕ → Bytes
  | 0, _ => []
  | w + 1, n => UInt8.ofNat n :: leBytes w (n / 256)

def ofLeBytes : Bytes → ℕ
  | [] => 0
  | b :: bs => b.toNat + 256 * ofLeBytes bs

def beBytes (w n : ℕ) : Bytes := (leBytes w n).reverse

def ofBeBytes (bs : Bytes) : ℕ := ofLeBytes bs.reverse

/-- The word whose bytes are those of `n` in the opposite order. -/
def swapBytes (w n : ℕ) : ℕ := ofLeBytes (beBytes w n)

@[simp] lemma leBytes_length (w n : ℕ) : (leBytes w n).length = w := by
  induction w generalizing n with
  | zero => rfl
  | succ w ih => simp [leBytes, ih]

@[simp] lemma beBytes_length (w n : ℕ) : (beBytes w n).length = w := by simp [beBytes]

lemma ofLeBytes_lt (bs : Bytes) : ofLeBytes bs < 256 ^ bs.length := by
  induction bs with
  | nil => simp [ofLeBytes]
  | cons b bs ih =>
    have hb := b.toNat_lt
    simp only [ofLeBytes, List.length_cons, Nat.pow_succ]
    omega

theorem ofLeBytes_leBytes (w n : ℕ) : ofLeBytes (leBytes w n) = n % 256 ^ w := by
  induction w generalizing n with
  | zero => simp [leBytes, ofLeBytes, Nat.mod_one]
  | succ w ih =>
    have hb : (UInt8.ofNat n).toNat = n % 256 := UInt8.toNat_ofNat'
    have hm : n % (256 * 256 ^ w) = n % 256 + 256 * (n / 256 % 256 ^ w) := Nat.mod_mul
    rw [leBytes, ofLeBytes, ih, hb, Nat.pow_succ, Nat.mul_comm (256 ^ w), hm]

theorem leBytes_ofLeBytes (bs : Bytes) : leBytes bs.length (ofLeBytes bs) = bs := by
  induction bs with
  | nil => rfl
  | cons b bs ih =>
    have hb := b.toNat_lt
    have hdiv : (b.toNat + 256 * ofLeBytes bs) / 256 = ofLeBytes bs := by omega
    have hmod : UInt8.ofNat (b.toNat + 256 * ofLeBytes bs) = b := by
      apply UInt8.toNat_inj.mp
      rw [UInt8.toNat_ofNat']
      omega
    simp only [List.length_cons, leBytes, ofLeBytes, hdiv, hmod, ih]

theorem ofBeBytes_beBytes (w n : ℕ) : ofBeBytes (beBytes w n) = n % 256 ^ w := by
  simp [ofBeBytes, beBytes, ofLeBytes_leBytes]

lemma swapBytes_lt (w n : ℕ) : swapBytes w n < 256 ^ w := by
  have h := ofLeBytes_lt (beBytes w n)
  rwa [beBytes_length] at h

theorem swapBytes_ofLeBytes (bs : Bytes) :
    swapBytes bs.length (ofLeBytes bs) = ofBeBytes bs := by
  rw [swapBytes, beBytes, leBytes_ofLeBytes, ofBeBytes]

theorem swapBytes_swapBytes (w n : ℕ) : swapBytes w (swapBytes w n) = n % 256 ^ w := by
  have h := swapBytes_ofLeBytes (beBytes w n)
  rw [beBytes_length, ofBeBytes_beBytes] at h
  exact h

end Tzrpc
