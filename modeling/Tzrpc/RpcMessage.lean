import Tzrpc.Message

/-!
# RPC requests and responses

The two packed headers inside a message payload. The response header has the one-byte
status in front, so all its words are at odd offsets.
-/
namespace Tzrpc

def kRpcHeaderMagic : UInt16 := 0x7472
def kRpcHeaderVersion : UInt16 := 0x01

structure RpcRequestHeader where
  magic : UInt16
  version : UInt16
  serviceId : UInt16
  opcode : UInt16
  rev1 : UInt32
  rev2 : UInt32
  deriving DecidableEq, Repr

namespace RpcRequestHeader

def zero : RpcRequestHeader := ⟨0, 0, 0, 0, 0, 0⟩

def size : ℕ := 16

def fromNetEndian (h : RpcRequestHeader) : RpcRequestHeader :=
  { h with
    magic := be16toh h.magic
    version := be16toh h.version
    serviceId := be16toh h.serviceId
    opcode := be16toh h.opcode }

def toNetEndian (h : RpcRequestHeader) : RpcRequestHeader :=
  { h with
    magic := htobe16 h.magic
    version := htobe16 h.version
    serviceId := htobe16 h.serviceId
    opcode := htobe16 h.opcode }

def image (h : RpcRequestHeader) : Bytes :=
  image16 h.magic ++ image16 h.version ++ image16 h.serviceId ++ image16 h.opcode ++
    image32 h.rev1 ++ image32 h.rev2

def load (bs : Bytes) : RpcRequestHeader :=
  ⟨load16 bs 0, load16 bs 2, load16 bs 4, load16 bs 6, load32 bs 8, load32 bs 12⟩

def wire (h : RpcRequestHeader) : Bytes := h.toNetEndian.image

def unwire (bs : Bytes) : RpcRequestHeader := (load bs).fromNetEndian

@[simp] lemma image_length (h : RpcRequestHeader) : h.image.length = size := by simp [image, size]

@[simp] lemma wire_length (h : RpcRequestHeader) : h.wire.length = size := image_length _

lemma load_image_append (h : RpcRequestHeader) (t : Bytes) : load (h.image ++ t) = h := by
  have h0 := load16_image [] (image16 h.version ++ (image16 h.serviceId ++
    (image16 h.opcode ++ (image32 h.rev1 ++ (image32 h.rev2 ++ t))))) h.magic
  have h1 := load16_image (image16 h.magic) (image16 h.serviceId ++
    (image16 h.opcode ++ (image32 h.rev1 ++ (image32 h.rev2 ++ t)))) h.version
  have h2 := load16_image (image16 h.magic ++ image16 h.version)
    (image16 h.opcode ++ (image32 h.rev1 ++ (image32 h.rev2 ++ t))) h.serviceId
  have h3 := load16_image (image16 h.magic ++ image16 h.version ++ image16 h.serviceId)
    (image32 h.rev1 ++ (image32 h.rev2 ++ t)) h.opcode
  have h4 := load32_image (image16 h.magic ++ image16 h.version ++ image16 h.serviceId ++
    image16 h.opcode) (image32 h.rev2 ++ t) h.rev1
  have h5 := load32_image (image16 h.magic ++ image16 h.version ++ image16 h.serviceId ++
    image16 h.opcode ++ image32 h.rev1) t h.rev2
  simp only [List.append_assoc, List.length_append, image16_length, image32_length,
    List.nil_append, List.length_nil] at h0 h1 h2 h3 h4 h5
  simp only [load, image, List.append_assoc, h0, h1, h2, h3, h4, h5]

theorem unwire_wire_append (h : RpcRequestHeader) (t : Bytes) : unwire (h.wire ++ t) = h := by
  rw [unwire, wire, load_image_append]
  simp only [toNetEndian, fromNetEndian, be16toh_htobe16]

theorem wire_unwire_take {bs : Bytes} (h : size ≤ bs.length) : (unwire bs).wire = bs.take size := by
  simp only [size] at h
  simp only [wire, unwire, fromNetEndian, toNetEndian, htobe16_be16toh, load, image]
  rw [image16_load16 (by omega), image16_load16 (by omega), image16_load16 (by omega),
    image16_load16 (by omega), image32_load32 (by omega), image32_load32 (by omega)]
  rw [show size = 2 + 2 + 2 + 2 + 4 + 4 from rfl]
  simp only [List.take_add, List.drop_zero]

end RpcRequestHeader

structure RpcRequestMessage where
  header : RpcRequestHeader
  payload : Bytes
  deriving DecidableEq, Repr

namespace RpcRequestMessage

def empty : RpcRequestMessage := ⟨RpcRequestHeader.zero, []⟩

/-- `RpcRequestMessage(serviceid, opcd, data)`. -/
def ofRequest (serviceid opcd : UInt16) (data : Bytes) : RpcRequestMessage :=
  ⟨{ RpcRequestHeader.zero with
      magic := kRpcHeaderMagic, version := kRpcHeaderVersion, serviceId := serviceid, opcode := opcd },
    data⟩

def netStr (m : RpcRequestMessage) : Bytes := m.header.wire ++ m.payload

def parse (str : Bytes) : Option RpcRequestMessage :=
  if str.length < RpcRequestHeader.size then none
  else some ⟨RpcRequestHeader.unwire str, str.drop RpcRequestHeader.size⟩

@[simp] lemma netStr_length (m : RpcRequestMessage) :
    m.netStr.length = RpcRequestHeader.size + m.payload.length := by simp [netStr]

end RpcRequestMessage

/-- An `enum class : uint8_t`: besides the named values it can hold every byte. -/
structure RpcResponseStatus where
  code : UInt8
  deriving DecidableEq, Repr

namespace RpcResponseStatus

def OK : RpcResponseStatus := ⟨0⟩
def SERVICE_SPECIFIC_ERROR : RpcResponseStatus := ⟨1⟩
def INVALID_VERSION : RpcResponseStatus := ⟨2⟩
def INVALID_SERVICE : RpcResponseStatus := ⟨3⟩
def INVALID_REQUEST : RpcResponseStatus := ⟨4⟩
def SYSTEM_ERROR : RpcResponseStatus := ⟨5⟩

end RpcResponseStatus

structure RpcResponseHeader where
  status : RpcResponseStatus
  magic : UInt16
  version : UInt16
  serviceId : UInt16
  opcode : UInt16
  rev1 : UInt32
  rev2 : UInt32
  deriving DecidableEq, Repr

namespace RpcResponseHeader

def zero : RpcResponseHeader := ⟨⟨0⟩, 0, 0, 0, 0, 0, 0⟩

def size : ℕ := 17

def fromNetEndian (h : RpcResponseHeader) : RpcResponseHeader :=
  { h with
    magic := be16toh h.magic
    version := be16toh h.version
    serviceId := be16toh h.serviceId
    opcode := be16toh h.opcode }

def toNetEndian (h : RpcResponseHeader) : RpcResponseHeader :=
  { h with
    magic := htobe16 h.magic
    version := htobe16 h.version
    serviceId := htobe16 h.serviceId
    opcode := htobe16 h.opcode }

def image (h : RpcResponseHeader) : Bytes :=
  [h.status.code] ++ image16 h.magic ++ image16 h.version ++ image16 h.serviceId ++
    image16 h.opcode ++ image32 h.rev1 ++ image32 h.rev2

def load (bs : Bytes) : RpcResponseHeader :=
  ⟨⟨bs.headD 0⟩, load16 bs 1, load16 bs 3, load16 bs 5, load16 bs 7, load32 bs 9, load32 bs 13⟩

def wire (h : RpcResponseHeader) : Bytes := h.toNetEndian.image

def unwire (bs : Bytes) : RpcResponseHeader := (load bs).fromNetEndian

@[simp] lemma image_length (h : RpcResponseHeader) : h.image.length = size := by simp [image, size]

@[simp] lemma wire_length (h : RpcResponseHeader) : h.wire.length = size := image_length _

lemma load_image_append (h : RpcResponseHeader) (t : Bytes) : load (h.image ++ t) = h := by
  have h0 := load16_image [h.status.code] (image16 h.version ++ (image16 h.serviceId ++
    (image16 h.opcode ++ (image32 h.rev1 ++ (image32 h.rev2 ++ t))))) h.magic
  have h1 := load16_image ([h.status.code] ++ image16 h.magic) (image16 h.serviceId ++
    (image16 h.opcode ++ (image32 h.rev1 ++ (image32 h.rev2 ++ t)))) h.version
  have h2 := load16_image ([h.status.code] ++ image16 h.magic ++ image16 h.version)
    (image16 h.opcode ++ (image32 h.rev1 ++ (image32 h.rev2 ++ t))) h.serviceId
  have h3 := load16_image ([h.status.code] ++ image16 h.magic ++ image16 h.version ++
    image16 h.serviceId) (image32 h.rev1 ++ (image32 h.rev2 ++ t)) h.opcode
  have h4 := load32_image ([h.status.code] ++ image16 h.magic ++ image16 h.version ++
    image16 h.serviceId ++ image16 h.opcode) (image32 h.rev2 ++ t) h.rev1
  have h5 := load32_image ([h.status.code] ++ image16 h.magic ++ image16 h.version ++
    image16 h.serviceId ++ image16 h.opcode ++ image32 h.rev1) t h.rev2
  simp only [List.append_assoc, List.length_append, image16_length, image32_length,
    List.length_singleton] at h0 h1 h2 h3 h4 h5
  simp only [load, image, List.append_assoc, h0, h1, h2, h3, h4, h5]
  rfl

theorem unwire_wire_append (h : RpcResponseHeader) (t : Bytes) : unwire (h.wire ++ t) = h := by
  rw [unwire, wire, load_image_append]
  simp only [toNetEndian, fromNetEndian, be16toh_htobe16]

theorem wire_unwire_take {bs : Bytes} (h : size ≤ bs.length) : (unwire bs).wire = bs.take size := by
  simp only [size] at h
  simp only [wire, unwire, fromNetEndian, toNetEndian, htobe16_be16toh, load, image]
  rw [image16_load16 (by omega), image16_load16 (by omega), image16_load16 (by omega),
    image16_load16 (by omega), image32_load32 (by omega), image32_load32 (by omega)]
  have hhead : [bs.headD 0] = bs.take 1 := by
    cases bs with
    | nil => simp at h
    | cons b bs => simp
  rw [hhead, show size = 1 + 2 + 2 + 2 + 2 + 4 + 4 from rfl]
  simp only [List.take_add]

end RpcResponseHeader

structure RpcResponseMessage where
  header : RpcResponseHeader
  payload : Bytes
  deriving DecidableEq, Repr

namespace RpcResponseMessage

/-- `RpcResponseMessage(serviceid, opcd, data)`. -/
def ofReply (serviceid opcd : UInt16) (data : Bytes) : RpcResponseMessage :=
  ⟨{ RpcResponseHeader.zero with
      status := .OK, magic := kRpcHeaderMagic, version := kRpcHeaderVersion,
      serviceId := serviceid, opcode := opcd },
    data⟩

/-- `RpcResponseMessage(status)`: service and opcode keep their zeros. -/
def ofStatus (status : RpcResponseStatus) : RpcResponseMessage :=
  ⟨{ RpcResponseHeader.zero with
      status := status, magic := kRpcHeaderMagic, version := kRpcHeaderVersion },
    []⟩

def netStr (m : RpcResponseMessage) : Bytes := m.header.wire ++ m.payload

def parse (str : Bytes) : Option RpcResponseMessage :=
  if str.length < RpcResponseHeader.size then none
  else some ⟨RpcResponseHeader.unwire str, str.drop RpcResponseHeader.size⟩

@[simp] lemma netStr_length (m : RpcResponseMessage) :
    m.netStr.length = RpcResponseHeader.size + m.payload.length := by simp [netStr]

theorem parse_netStr (m : RpcResponseMessage) : parse m.netStr = some m := by
  have hl : ¬ m.netStr.length < RpcResponseHeader.size := by
    rw [netStr_length]
    omega
  have hd : (m.header.wire ++ m.payload).drop RpcResponseHeader.size = m.payload := by
    rw [← RpcResponseHeader.wire_length m.header, List.drop_left]
  rw [parse, if_neg hl, netStr, RpcResponseHeader.unwire_wire_append, hd]

end RpcResponseMessage

end Tzrpc
