import Mathlib.Data.Nat.Bitwise
import Mathlib.Data.List.Basic
import Mathlib.Data.String.Basic
import Mathlib.Algebra.Order.Ring.Nat
import Mathlib.Algebra.Group.Int

/-!
# The Xbox One wire format

The packet model of `XboxOneInputPackets.h`: the four-byte header every packet starts with,
the button and guide reports the controller sends, the guide response the driver answers
with, and the two handshake packets of `XboxOneInputInterface.cpp`. Every packet is a C struct
of little-endian fields; `bytes` gives its layout in memory, and the `…Size` constants are the
header-stripped payload sizes the driver compares with a header's `size` byte.

Driver memory is a byte function `Memory` (what `address[i]` reads), and status words are
`kern_return_t` values; every later layer passes both around.
-/

namespace XboxControllerDriver

/-! ## Status words and memory -/

/-- `kern_return_t`. -/
abbrev KernReturn := UInt32

/-- `kIOReturnSuccess`. -/
def kIOReturnSuccess : KernReturn := 0

/-- `kIOReturnError`. -/
def kIOReturnError : KernReturn := 0xe00002bc

/-- `kIOReturnBadArgument`. -/
def kIOReturnBadArgument : KernReturn := 0xe00002c2

theorem kIOReturnError_ne_success : kIOReturnError ≠ kIOReturnSuccess := by decide

/-- `uint8_t` arithmetic wraps at 256. -/
theorem uint8_toNat_ofNat (n : Nat) : (UInt8.ofNat n).toNat = n % 256 := by
  simp [UInt8.toNat, UInt8.ofNat]

theorem uint8_toNat_add_one (a : UInt8) : (a + 1).toNat = (a.toNat + 1) % 256 := by
  rw [UInt8.add_def]; simp [UInt8.toNat, BitVec.toNat_add]

/-- The bytes of a mapped buffer, from its `address` on: `address[i]`. -/
abbrev Memory := Nat → UInt8

/-- The first `n` bytes at an address, as a transfer of length `n` hands them on. -/
def Memory.take (m : Memory) (n : Nat) : List UInt8 := (List.range n).map m

/-- `memcpy(address, data, size)`. -/
def Memory.copy (m : Memory) (data : List UInt8) (size : Nat) : Memory :=
  fun i => if i < size then data.getD i 0 else m i

/-- `address[i] = v`. -/
def Memory.write (m : Memory) (i : Nat) (v : UInt8) : Memory :=
  fun j => if j = i then v else m j

/-- Memory whose first bytes are `bs` and whose other bytes are zero. -/
def Memory.ofList (bs : List UInt8) : Memory := fun i => bs.getD i 0

@[simp] theorem Memory.length_take (m : Memory) (n : Nat) : (m.take n).length = n := by
  simp [Memory.take]

theorem Memory.take_succ (m : Memory) (n : Nat) : m.take (n + 1) = m.take n ++ [m n] := by
  simp [Memory.take, List.range_succ]

/-- Writing one byte and reading `n` bytes back is `List.set` on what was there. -/
theorem Memory.take_write (m : Memory) (i n : Nat) (v : UInt8) :
    (m.write i v).take n = (m.take n).set i v := by
  apply List.ext_getElem (by simp)
  intro k hk _
  simp only [Memory.take, Memory.write, List.getElem_map, List.getElem_range,
    List.getElem_set]
  split <;> simp_all [eq_comm]

/-- After `memcpy` of `size ≤ data.length` bytes, the first `size` bytes are `data`'s. -/
theorem Memory.take_copy (m : Memory) (data : List UInt8) {size : Nat}
    (h : size ≤ data.length) : (m.copy data size).take size = data.take size := by
  apply List.ext_getElem (by simp; omega)
  intro k hk _
  simp only [Memory.length_take] at hk
  simp [Memory.take, Memory.copy, hk, List.getElem?_eq_getElem (show k < data.length by omega)]

/-! ## The header -/

/-- `xboxone_report_header`: the four bytes in front of every packet. -/
structure XboxoneReportHeader where
  packetType : UInt8
  version : UInt8
  counter : UInt8
  size : UInt8
  deriving DecidableEq, Repr

/-- `XBOXONE_REPORT_HEADER_SIZE`, `sizeof(xboxone_report_header)`. -/
def xboxoneReportHeaderSize : UInt8 := 4

/-- The header's layout in memory. -/
def XboxoneReportHeader.bytes (h : XboxoneReportHeader) : List UInt8 :=
  [h.packetType, h.version, h.counter, h.size]

/-- A header read through `(xboxone_report_header*)address`. -/
def XboxoneReportHeader.read (m : Memory) : XboxoneReportHeader := ⟨m 0, m 1, m 2, m 3⟩

/-- `xboxone_in_packet_type`: `XBOXONE_IN_GUIDE`. -/
def xboxoneInGuide : UInt8 := 0x07

/-- `xboxone_in_packet_type`: `XBOXONE_IN_BUTTON`. -/
def xboxoneInButton : UInt8 := 0x20

/-! ## Packets from the controller -/

/-- The two little-endian bytes of a 16-bit field. -/
def u16Bytes (x : UInt16) : List UInt8 := [UInt8.ofNat (x.toNat % 256), UInt8.ofNat (x.toNat / 256)]

/-- An `int16_t` field read from its 16 bits (two's complement). -/
def int16Value (x : UInt16) : Int := if x.toNat < 2 ^ 15 then x.toNat else x.toNat - 2 ^ 16

/-- `xboxone_button_report`. The `int16_t` sticks are kept as their 16 bits; `int16Value`
reads them signed. -/
structure XboxoneButtonReport where
  header : XboxoneReportHeader
  buttons : UInt16
  trigL : UInt16
  trigR : UInt16
  leftX : UInt16
  leftY : UInt16
  rightX : UInt16
  rightY : UInt16
  deriving DecidableEq, Repr

/-- The button report's layout in memory: 18 bytes. -/
def XboxoneButtonReport.bytes (r : XboxoneButtonReport) : List UInt8 :=
  r.header.bytes ++ u16Bytes r.buttons ++ u16Bytes r.trigL ++ u16Bytes r.trigR ++
    u16Bytes r.leftX ++ u16Bytes r.leftY ++ u16Bytes r.rightX ++ u16Bytes r.rightY

/-- `XBOXONE_BUTTON_REPORT_SIZE`: `sizeof(xboxone_button_report) - XBOXONE_REPORT_HEADER_SIZE`. -/
def xboxoneButtonReportSize : UInt8 := 18 - xboxoneReportHeaderSize

/-- `xboxone_guide_report`. -/
structure XboxoneGuideReport where
  header : XboxoneReportHeader
  guide : UInt8
  reserved1 : UInt8
  deriving DecidableEq, Repr

/-- The guide report's layout in memory: 6 bytes. -/
def XboxoneGuideReport.bytes (r : XboxoneGuideReport) : List UInt8 :=
  r.header.bytes ++ [r.guide, r.reserved1]

/-- `XBOXONE_GUIDE_REPORT_SIZE`: `sizeof(xboxone_guide_report) - XBOXONE_REPORT_HEADER_SIZE`. -/
def xboxoneGuideReportSize : UInt8 := 6 - xboxoneReportHeaderSize

@[simp] theorem XboxoneButtonReport.length_bytes (r : XboxoneButtonReport) :
    r.bytes.length = 18 := rfl

@[simp] theorem XboxoneGuideReport.length_bytes (r : XboxoneGuideReport) :
    r.bytes.length = 6 := rfl

/-- `xboxone_buttons`, one bit of `buttons` per button. -/
inductive XboxoneButtons
  | sync | guide | menu | view | a | b | x | y
  | dpadUp | dpadDown | dpadLeft | dpadRight
  | leftShoulder | rightShoulder | leftThumb | rightThumb
  deriving DecidableEq, Repr

/-- The enumerator's value: a one-bit mask. -/
def XboxoneButtons.mask : XboxoneButtons → UInt16
  | .sync => 0x0001
  | .guide => 0x0002
  | .menu => 0x0004
  | .view => 0x0008
  | .a => 0x0010
  | .b => 0x0020
  | .x => 0x0040
  | .y => 0x0080
  | .dpadUp => 0x0100
  | .dpadDown => 0x0200
  | .dpadLeft => 0x0400
  | .dpadRight => 0x0800
  | .leftShoulder => 0x1000
  | .rightShoulder => 0x2000
  | .leftThumb => 0x4000
  | .rightThumb => 0x8000

/-- The bit the enumerator's comment names (`// Bit 00` …). -/
def XboxoneButtons.bit : XboxoneButtons → Nat
  | .sync => 0 | .guide => 1 | .menu => 2 | .view => 3
  | .a => 4 | .b => 5 | .x => 6 | .y => 7
  | .dpadUp => 8 | .dpadDown => 9 | .dpadLeft => 10 | .dpadRight => 11
  | .leftShoulder => 12 | .rightShoulder => 13 | .leftThumb => 14 | .rightThumb => 15

theorem XboxoneButtons.mask_toNat (btn : XboxoneButtons) : btn.mask.toNat = 2 ^ btn.bit := by
  cases btn <;> rfl

/-- Whether `buttons` has the button's bit set (`1` pressed, `0` released). -/
def XboxoneButtonReport.pressed (r : XboxoneButtonReport) (btn : XboxoneButtons) : Nat :=
  if r.buttons.toNat &&& btn.mask.toNat = 0 then 0 else 1

/-- A button's state is its bit of `buttons`. -/
theorem XboxoneButtonReport.pressed_eq (r : XboxoneButtonReport) (btn : XboxoneButtons) :
    r.pressed btn = r.buttons.toNat / 2 ^ btn.bit % 2 := by
  have h := Nat.testBit_to_div_mod (i := btn.bit) (x := r.buttons.toNat)
  rcases Nat.mod_two_eq_zero_or_one (r.buttons.toNat / 2 ^ btn.bit) with h2 | h2 <;>
    simp_all [XboxoneButtonReport.pressed, XboxoneButtons.mask_toNat, Nat.and_two_pow]

/-! ## Packets to the controller -/

/-- `xboxone_guide_response`; the arrays carry their lengths. -/
structure XboxoneGuideResponse where
  header : XboxoneReportHeader
  constData : List UInt8
  padding : List UInt8
  constData_length : constData.length = 4
  padding_length : padding.length = 5

/-- The guide response's layout in memory: 13 bytes. -/
def XboxoneGuideResponse.bytes (r : XboxoneGuideResponse) : List UInt8 :=
  r.header.bytes ++ r.constData ++ r.padding

@[simp] theorem XboxoneGuideResponse.length_bytes (r : XboxoneGuideResponse) :
    r.bytes.length = 13 := by
  simp [XboxoneGuideResponse.bytes, XboxoneReportHeader.bytes, r.constData_length,
    r.padding_length]

/-- `XBOXONE_GUIDE_RESPONSE_SIZE`: `sizeof(xboxone_guide_response) - XBOXONE_REPORT_HEADER_SIZE`. -/
def xboxoneGuideResponseSize : UInt8 := 13 - xboxoneReportHeaderSize

/-- `INIT_PACKET`. -/
def initPacket : List UInt8 := [0x05, 0x20, 0x00, 0x01, 0x00]

/-- `INIT_PACKET_SIZE`, `sizeof(INIT_PACKET)`. -/
def initPacketSize : UInt8 := UInt8.ofNat initPacket.length

/-- `SWAP_TO_WIRED_PACKET`. -/
def swapToWiredPacket : List UInt8 := [0x05, 0x20, 0x00, 0x0f, 0x06]

/-- `SWAP_TO_WIRED_PACKET_SIZE`, `sizeof(SWAP_TO_WIRED_PACKET)`. -/
def swapToWiredPacketSize : UInt8 := UInt8.ofNat swapToWiredPacket.length

end XboxControllerDriver
