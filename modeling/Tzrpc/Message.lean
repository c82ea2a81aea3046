import Tzrpc.WordBytes

/-!
# The wire header and message

`Header` is the packed struct in host (little-endian) representation: `image` is its memory
image, so that the swaps of `toNetEndian` show up as big-endian bytes and the reserved
words, which are not swapped, as little-endian ones.
-/
namespace Tzrpc

def kHeaderMagic : UInt16 := 0x746b
def kHeaderVersion : UInt16 := 0x01

def htobe16 (x : UInt16) : UInt16 := UInt16.ofNat (swapBytes 2 x.toNat)
def htobe32 (x : UInt32) : UInt32 := UInt32.ofNat (swapBytes 4 x.toNat)
def be16toh (x : UInt16) : UInt16 := UInt16.ofNat (swapBytes 2 x.toNat)
def be32toh (x : UInt32) : UInt32 := UInt32.ofNat (swapBytes 4 x.toNat)

/-- The little-endian memory image of a word. -/
def image16 (x : UInt16) : Bytes := leBytes 2 x.toNat
def image32 (x : UInt32) : Bytes := leBytes 4 x.toNat

def load16 (bs : Bytes) (i : ℕ) : UInt16 := UInt16.ofNat (ofLeBytes ((bs.drop i).take 2))
def load32 (bs : Bytes) (i : ℕ) : UInt32 := UInt32.ofNat (ofLeBytes ((bs.drop i).take 4))

@[simp] lemma image16_length (x : UInt16) : (image16 x).length = 2 := leBytes_length _ _

@[simp] lemma image32_length (x : UInt32) : (image32 x).length = 4 := leBytes_length _ _

lemma ofNat_toNat_mod16 (x : UInt16) : UInt16.ofNat (x.toNat % 256 ^ 2) = x := by
  rw [Nat.mod_eq_of_lt (show x.toNat < 256 ^ 2 from x.toNat_lt), UInt16.ofNat_toNat]

lemma ofNat_toNat_mod32 (x : UInt32) : UInt32.ofNat (x.toNat % 256 ^ 4) = x := by
  rw [Nat.mod_eq_of_lt (show x.toNat < 256 ^ 4 from x.toNat_lt), UInt32.ofNat_toNat]

lemma be16toh_htobe16 (x : UInt16) : be16toh (htobe16 x) = x := by
  rw [be16toh, htobe16, UInt16.toNat_ofNat_of_lt' (swapBytes_lt 2 _), swapBytes_swapBytes,
    ofNat_toNat_mod16]

lemma be32toh_htobe32 (x : UInt32) : be32toh (htobe32 x) = x := by
  rw [be32toh, htobe32, UInt32.toNat_ofNat_of_lt' (swapBytes_lt 4 _), swapBytes_swapBytes,
    ofNat_toNat_mod32]

lemma load16_image (pre post : Bytes) (x : UInt16) :
    load16 (pre ++ (image16 x ++ post)) pre.length = x := by
  have h : (image16 x ++ post).take 2 = image16 x := by
    rw [List.take_append_of_le_length (by simp), List.take_of_length_le (by simp)]
  rw [load16, List.drop_left, h, image16, ofLeBytes_leBytes, ofNat_toNat_mod16]

lemma load32_image (pre post : Bytes) (x : UInt32) :
    load32 (pre ++ (image32 x ++ post)) pre.length = x := by
  have h : (image32 x ++ post).take 4 = image32 x := by
    rw [List.take_append_of_le_length (by simp), List.take_of_length_le (by simp)]
  rw [load32, List.drop_left, h, image32, ofLeBytes_leBytes, ofNat_toNat_mod32]

lemma image16_load16 {bs : Bytes} {i : ℕ} (h : i + 2 ≤ bs.length) :
    image16 (load16 bs i) = (bs.drop i).take 2 := by
  have hl : ((bs.drop i).take 2).length = 2 := by simp; omega
  have hlt := ofLeBytes_lt ((bs.drop i).take 2)
  have hb := leBytes_ofLeBytes ((bs.drop i).take 2)
  rw [hl] at hlt hb
  rw [image16, load16, UInt16.toNat_ofNat_of_lt' hlt, hb]

lemma image32_load32 {bs : Bytes} {i : ℕ} (h : i + 4 ≤ bs.length) :
    image32 (load32 bs i) = (bs.drop i).take 4 := by
  have hl : ((bs.drop i).take 4).length = 4 := by simp; omega
  have hlt := ofLeBytes_lt ((bs.drop i).take 4)
  have hb := leBytes_ofLeBytes ((bs.drop i).take 4)
  rw [hl] at hlt hb
  rw [image32, load32, UInt32.toNat_ofNat_of_lt' hlt, hb]

lemma htobe16_be16toh (x : UInt16) : htobe16 (be16toh x) = x := be16toh_htobe16 x

lemma htobe32_be32toh (x : UInt32) : htobe32 (be32toh x) = x := be32toh_htobe32 x

lemma be16toh_load16 {bs : Bytes} {i : ℕ} (h : i + 2 ≤ bs.length) :
    (be16toh (load16 bs i)).toNat = ofBeBytes ((bs.drop i).take 2) := by
  have hl : ((bs.drop i).take 2).length = 2 := by simp; omega
  have hlt := ofLeBytes_lt ((bs.drop i).take 2)
  have hs := swapBytes_ofLeBytes ((bs.drop i).take 2)
  rw [hl] at hlt hs
  rw [be16toh, load16, UInt16.toNat_ofNat_of_lt' hlt, UInt16.toNat_ofNat_of_lt' (swapBytes_lt 2 _),
    hs]

lemma be32toh_load32 {bs : Bytes} {i : ℕ} (h : i + 4 ≤ bs.length) :
    (be32toh (load32 bs i)).toNat = ofBeBytes ((bs.drop i).take 4) := by
  have hl : ((bs.drop i).take 4).length = 4 := by simp; omega
  have hlt := ofLeBytes_lt ((bs.drop i).take 4)
  have hs := swapBytes_ofLeBytes ((bs.drop i).take 4)
  rw [hl] at hlt hs
  rw [be32toh, load32, UInt32.toNat_ofNat_of_lt' hlt, UInt32.toNat_ofNat_of_lt' (swapBytes_lt 4 _),
    hs]

structure Header where
  magic : UInt16
  version : UInt16
  length : UInt32
  rev1 : UInt32
  rev2 : UInt32
  deriving DecidableEq, Repr

namespace Header

def zero : Header := ⟨0, 0, 0, 0, 0⟩

def size : ℕ := 16

def fromNetEndian (h : Header) : Header :=
  { h with magic := be16toh h.magic, version := be16toh h.version, length := be32toh h.length }

def toNetEndian (h : Header) : Header :=
  { h with magic := htobe16 h.magic, version := htobe16 h.version, length := htobe32 h.length }

/-- The bytes of the packed struct in memory. -/
def image (h : Header) : Bytes :=
  image16 h.magic ++ image16 h.version ++ image32 h.length ++ image32 h.rev1 ++ image32 h.rev2

/-- `memcpy` of the first bytes of a string into the struct. -/
def load (bs : Bytes) : Header :=
  ⟨load16 bs 0, load16 bs 2, load32 bs 4, load32 bs 8, load32 bs 12⟩

def wire (h : Header) : Bytes := h.toNetEndian.image

def unwire (bs : Bytes) : Header := (load bs).fromNetEndian

@[simp] lemma image_length (h : Header) : h.image.length = size := by simp [image, size]

@[simp] lemma wire_length (h : Header) : h.wire.length = size := image_length _

lemma load_image_append (h : Header) (t : Bytes) : load (h.image ++ t) = h := by
  have h0 := load16_image [] (image16 h.version ++ (image32 h.length ++
    (image32 h.rev1 ++ (image32 h.rev2 ++ t)))) h.magic
  have h1 := load16_image (image16 h.magic) (image32 h.length ++
    (image32 h.rev1 ++ (image32 h.rev2 ++ t))) h.version
  have h2 := load32_image (image16 h.magic ++ image16 h.version)
    (image32 h.rev1 ++ (image32 h.rev2 ++ t)) h.length
  have h3 := load32_image (image16 h.magic ++ image16 h.version ++ image32 h.length)
    (image32 h.rev2 ++ t) h.rev1
  have h4 := load32_image (image16 h.magic ++ image16 h.version ++ image32 h.length ++
    image32 h.rev1) t h.rev2
  simp only [List.append_assoc, List.length_append, image16_length, image32_length,
    List.nil_append, List.length_nil] at h0 h1 h2 h3 h4
  simp only [load, image, List.append_assoc, h0, h1, h2, h3, h4]

lemma fromNetEndian_toNetEndian (h : Header) : h.toNetEndian.fromNetEndian = h := by
  simp only [toNetEndian, fromNetEndian, be16toh_htobe16, be32toh_htobe32]

theorem unwire_wire_append (h : Header) (t : Bytes) : unwire (h.wire ++ t) = h := by
  rw [unwire, wire, load_image_append, fromNetEndian_toNetEndian]

theorem wire_unwire_take {bs : Bytes} (h : size ≤ bs.length) : (unwire bs).wire = bs.take size := by
  simp only [size] at h
  simp only [wire, unwire, fromNetEndian, toNetEndian, htobe16_be16toh, htobe32_be32toh, load,
    image]
  rw [image16_load16 (by omega), image16_load16 (by omega), image32_load32 (by omega),
    image32_load32 (by omega), image32_load32 (by omega)]
  rw [show size = 2 + 2 + 4 + 4 + 4 from rfl]
  simp only [List.take_add, List.drop_zero]

theorem wire_unwire {bs : Bytes} (h : bs.length = size) : (unwire bs).wire = bs := by
  rw [wire_unwire_take h.ge, ← h, List.take_length]

lemma unwire_magic {bs : Bytes} (h : size ≤ bs.length) :
    (unwire bs).magic.toNat = ofBeBytes (bs.take 2) := by
  have hl : 0 + 2 ≤ bs.length := by simp only [size] at h; omega
  exact be16toh_load16 hl

lemma unwire_version {bs : Bytes} (h : size ≤ bs.length) :
    (unwire bs).version.toNat = ofBeBytes ((bs.drop 2).take 2) := by
  have hl : 2 + 2 ≤ bs.length := by simp only [size] at h; omega
  exact be16toh_load16 hl

lemma unwire_length {bs : Bytes} (h : size ≤ bs.length) :
    (unwire bs).length.toNat = ofBeBytes ((bs.drop 4).take 4) := by
  have hl : 4 + 4 ≤ bs.length := by simp only [size] at h; omega
  exact be32toh_load32 hl

end Header

structure Message where
  header : Header
  payload : Bytes
  deriving DecidableEq, Repr

namespace Message

/-- `Message(const std::string&)`: the size is truncated to the 32-bit length field. -/
def ofPayload (data : Bytes) : Message :=
  ⟨{ Header.zero with
      magic := kHeaderMagic, version := kHeaderVersion, length := UInt32.ofNat data.length },
    data⟩

def netStr (m : Message) : Bytes := m.header.wire ++ m.payload

@[simp] lemma ofPayload_payload (data : Bytes) : (ofPayload data).payload = data := rfl

lemma ofPayload_length {data : Bytes} (h : data.length < 2 ^ 32) :
    (ofPayload data).header.length.toNat = data.length := UInt32.toNat_ofNat_of_lt' h

end Message

end Tzrpc
