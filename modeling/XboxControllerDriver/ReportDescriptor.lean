import XboxControllerDriver.Hid

/-!
# The embedded report descriptor against the packet model

`XboxOneDescriptors.h` declares the HID report descriptor the driver hands the host in
`newReportDescriptor`: report `0x20` for the button report and report `0x07` for the guide
report, whose report-ID byte is the packet's `packetType`. Read with the semantics of
`Hid`, it declares the thirty input fields `inputFields_eq` lists, and it and
`XboxOneInputPackets.h` agree on every button packet: report
`0x20` declares exactly its 136 bits after the ID, and every Data field reads the packet
field its usage names (`reportDescriptor_describes_packets`).

Two items do not say what their comments say (`reportDescriptor_guide_bits_and_extents`).
The guide report's padding is `REPORT_SIZE (0x0a)`, ten bits where the comment says fifteen,
so report `0x07` declares 35 bits for a packet of 40; and the button fields are preceded by
`LOGICAL_MINIMUM (1)` with no `LOGICAL_MAXIMUM`, unlike the guide button's 0 to 1, so their
declared extent is empty and no button value lies in it. Trigger values above the packet
model's documented 1023 are outside their extent by design.
-/

namespace XboxControllerDriver

open Hid

namespace XboxOne

/-- `ReportDescriptor`. -/
def reportDescriptor : List UInt8 := [
  0x05, 0x01, 0x09, 0x05, 0xa1, 0x01, 0xa1, 0x00, 0x85, 0x20,
  0x75, 0x08, 0x95, 0x03, 0x81, 0x03,
  0x05, 0x09, 0x09, 0x0b, 0x15, 0x01, 0x75, 0x01, 0x95, 0x01, 0x81, 0x02,
  0x81, 0x03,
  0x19, 0x09, 0x29, 0x0a, 0x95, 0x02, 0x81, 0x02,
  0x19, 0x01, 0x29, 0x04, 0x95, 0x04, 0x81, 0x02,
  0x19, 0x0c, 0x29, 0x0f, 0x81, 0x02,
  0x19, 0x05, 0x29, 0x06, 0x95, 0x02, 0x81, 0x02,
  0x19, 0x07, 0x29, 0x08, 0x81, 0x02,
  0x05, 0x01, 0x09, 0x32, 0x09, 0x35, 0x15, 0x00, 0x26, 0xff, 0x03, 0x75, 0x10, 0x81, 0x02,
  0x09, 0x30, 0x09, 0x31, 0x09, 0x33, 0x09, 0x34, 0x16, 0x00, 0x80, 0x26, 0xff, 0x7f,
  0x95, 0x04, 0x81, 0x02,
  0xc0,
  0x05, 0x01, 0x09, 0x05, 0xa1, 0x00, 0x85, 0x07,
  0x75, 0x08, 0x95, 0x03, 0x81, 0x03,
  0x05, 0x09, 0x09, 0x10, 0x15, 0x00, 0x25, 0x01, 0x75, 0x01, 0x95, 0x01, 0x81, 0x02,
  0x75, 0x0a, 0x81, 0x03,
  0xc0,
  0xc0]

/-- `REPORT_DESCRIPTOR_SIZE`, `sizeof(ReportDescriptor)`. -/
def reportDescriptorSize : UInt32 := UInt32.ofNat reportDescriptor.length

end XboxOne

/-- `XboxOneInputInterface::newReportDescriptor`: `REPORT_DESCRIPTOR_SIZE` bytes of
`ReportDescriptor`, not copied. -/
def XboxOneInputInterface.newReportDescriptor : List UInt8 :=
  XboxOne.reportDescriptor.take XboxOne.reportDescriptorSize.toNat

set_option maxRecDepth 4000 in
/-- `REPORT_DESCRIPTOR_SIZE` is the array's own size, so the host is handed the whole
descriptor. -/
theorem XboxOneInputInterface.newReportDescriptor_eq :
    XboxOneInputInterface.newReportDescriptor = XboxOne.reportDescriptor :=
  List.take_of_length_le (by decide)

namespace XboxOne

/-- The input fields the host reads from the descriptor the driver hands it. -/
def inputFields : List Field :=
  (parseReportDescriptor XboxOneInputInterface.newReportDescriptor).getD []

/-- The Data fields of one report, in order. -/
def dataFields (rid : Nat) : List Field :=
  inputFields.filter fun f => f.reportId = rid ∧ f.isData

/-! ## The declared layout -/

/-- A one-bit Button field of report `0x20`, under the `LOGICAL_MINIMUM (1)` in force. -/
def buttonField (offset id : Nat) : Field := ⟨0x20, offset, 1, some ⟨9, id⟩, 1, 0, 2⟩

/-- A 16-bit trigger field of report `0x20`: Generic Desktop, extent 0 to 1023. -/
def triggerField (offset id : Nat) : Field := ⟨0x20, offset, 16, some ⟨1, id⟩, 0, 1023, 2⟩

/-- A 16-bit stick field of report `0x20`: Generic Desktop, extent -32768 to 32767. -/
def stickField (offset id : Nat) : Field := ⟨0x20, offset, 16, some ⟨1, id⟩, -32768, 32767, 2⟩

set_option maxRecDepth 4000 in
/-- Every input field the host reads from the descriptor: report `0x20`'s three constant header
bytes, the Button bits around the constant guide bit, the triggers and the sticks; report
`0x07`'s three constant header bytes, the guide bit and ten bits of constant padding. -/
theorem inputFields_eq :
    inputFields =
      [⟨0x20, 0, 8, none, 0, 0, 3⟩, ⟨0x20, 8, 8, none, 0, 0, 3⟩, ⟨0x20, 16, 8, none, 0, 0, 3⟩,
        buttonField 24 11, ⟨0x20, 25, 1, none, 1, 0, 3⟩, buttonField 26 9, buttonField 27 10,
        buttonField 28 1, buttonField 29 2, buttonField 30 3, buttonField 31 4,
        buttonField 32 12, buttonField 33 13, buttonField 34 14, buttonField 35 15,
        buttonField 36 5, buttonField 37 6, buttonField 38 7, buttonField 39 8,
        triggerField 40 0x32, triggerField 56 0x35,
        stickField 72 0x30, stickField 88 0x31, stickField 104 0x33, stickField 120 0x34,
        ⟨0x07, 0, 8, none, -32768, 32767, 3⟩, ⟨0x07, 8, 8, none, -32768, 32767, 3⟩,
        ⟨0x07, 16, 8, none, -32768, 32767, 3⟩, ⟨0x07, 24, 1, some ⟨9, 16⟩, 0, 1, 2⟩,
        ⟨0x07, 25, 10, none, 0, 1, 3⟩] := by
  decide

/-- The Data fields of report `0x20`. -/
theorem dataFields_button :
    dataFields 0x20 =
      [buttonField 24 11, buttonField 26 9, buttonField 27 10,
        buttonField 28 1, buttonField 29 2, buttonField 30 3, buttonField 31 4,
        buttonField 32 12, buttonField 33 13, buttonField 34 14, buttonField 35 15,
        buttonField 36 5, buttonField 37 6, buttonField 38 7, buttonField 39 8,
        triggerField 40 0x32, triggerField 56 0x35,
        stickField 72 0x30, stickField 88 0x31, stickField 104 0x33, stickField 120 0x34] := by
  rw [dataFields, inputFields_eq]
  rfl

/-- The one Data field of report `0x07`: Button 16, extent 0 to 1. -/
theorem dataFields_guide : dataFields 0x07 = [⟨0x07, 24, 1, some ⟨9, 16⟩, 0, 1, 2⟩] := by
  rw [dataFields, inputFields_eq]
  rfl

/-! ## Reading the packets -/

/-- The two bytes of a `uint16_t` field read back. -/
theorem leNat_u16Bytes (x : UInt16) : leNat (u16Bytes x) = x.toNat := by
  have := x.toNat_lt
  rw [u16Bytes, leNat_cons, leNat_cons, leNat_nil, UInt8.toNat_ofNat_of_lt (show _ < 256 by omega),
    UInt8.toNat_ofNat_of_lt (show _ < 256 by omega)]
  omega

/-- A 16-bit field of a button packet, `k` bytes after the report ID, as bits of the packet. -/
theorem leNat_button_word (r : XboxoneButtonReport) (k : Nat) (x : UInt16)
    (hx : (r.bytes.tail.drop k).take 2 = u16Bytes x) :
    leNat r.bytes.tail / 2 ^ (8 * k) % 2 ^ (8 * 2) = x.toNat := by
  rw [← leNat_drop, ← leNat_take, hx, leNat_u16Bytes]

/-- The packet-model field each usage of report `0x20` stands for: the `xboxone_buttons`
bits as Buttons 11, 9, 10, 1–4, 12–15, 5–6 and 7–8, the triggers as Z and Rz, the sticks as
signed X, Y, Rx and Ry. -/
def buttonReportUsages (r : XboxoneButtonReport) : List (Usage × Int) :=
  [(⟨9, 11⟩, r.pressed .sync), (⟨9, 9⟩, r.pressed .menu), (⟨9, 10⟩, r.pressed .view),
    (⟨9, 1⟩, r.pressed .a), (⟨9, 2⟩, r.pressed .b), (⟨9, 3⟩, r.pressed .x), (⟨9, 4⟩, r.pressed .y),
    (⟨9, 12⟩, r.pressed .dpadUp), (⟨9, 13⟩, r.pressed .dpadDown),
    (⟨9, 14⟩, r.pressed .dpadLeft), (⟨9, 15⟩, r.pressed .dpadRight),
    (⟨9, 5⟩, r.pressed .leftShoulder), (⟨9, 6⟩, r.pressed .rightShoulder),
    (⟨9, 7⟩, r.pressed .leftThumb), (⟨9, 8⟩, r.pressed .rightThumb),
    (⟨1, 0x32⟩, r.trigL.toNat), (⟨1, 0x35⟩, r.trigR.toNat),
    (⟨1, 0x30⟩, int16Value r.leftX), (⟨1, 0x31⟩, int16Value r.leftY),
    (⟨1, 0x33⟩, int16Value r.rightX), (⟨1, 0x34⟩, int16Value r.rightY)]

theorem buttonField_value (r : XboxoneButtonReport) (offset id : Nat) :
    (buttonField offset id).value r.bytes = ((leNat r.bytes.tail / 2 ^ offset % 2 : Nat) : Int) := by
  simp [buttonField, Field.value, Field.isSigned]

theorem triggerField_value (r : XboxoneButtonReport) (offset id : Nat) :
    (triggerField offset id).value r.bytes =
      ((leNat r.bytes.tail / 2 ^ offset % 2 ^ 16 : Nat) : Int) := by
  simp [triggerField, Field.value, Field.isSigned]

theorem stickField_value (r : XboxoneButtonReport) (offset id : Nat) :
    (stickField offset id).value r.bytes = signed (leNat r.bytes.tail / 2 ^ offset % 2 ^ 16) 16 := by
  simp [stickField, Field.value, Field.isSigned]

theorem int16Value_eq_signed (x : UInt16) : int16Value x = signed x.toNat 16 := rfl

theorem int16Value_mem (x : UInt16) : -32768 ≤ int16Value x ∧ int16Value x ≤ 32767 := by
  have := x.toNat_lt
  unfold int16Value; split <;> omega

/-- Every Data field of report `0x20` reads the packet-model field its usage names. -/
theorem dataFields_button_values (r : XboxoneButtonReport) :
    (dataFields 0x20).map (fun f => (f.usage, f.value r.bytes)) =
      (buttonReportUsages r).map fun p => (some p.1, p.2) := by
  have bit (j : Nat) (hj : j < 16) :
      leNat r.bytes.tail / 2 ^ (j + 8 * 3) % 2 = r.buttons.toNat / 2 ^ j % 2 := by
    rw [Nat.add_comm, ← div_pow_mod_bit _ _ _ _ hj, leNat_button_word r 3 r.buttons rfl]
  have word (k : Nat) (x : UInt16) (hx : (r.bytes.tail.drop k).take 2 = u16Bytes x) :=
    congrArg (fun n : Nat => (n : Int)) (leNat_button_word r k x hx)
  have stick (k : Nat) (x : UInt16) (hx : (r.bytes.tail.drop k).take 2 = u16Bytes x) :=
    congrArg (signed · 16) (leNat_button_word r k x hx)
  rw [dataFields_button]
  simp only [List.map, buttonReportUsages, buttonField_value, triggerField_value, stickField_value,
    int16Value_eq_signed, XboxoneButtonReport.pressed_eq, XboxoneButtons.bit]
  simp only [buttonField, triggerField, stickField, List.cons.injEq, Prod.mk.injEq, true_and, and_true]
  exact ⟨congrArg _ (bit 0 (by decide)), congrArg _ (bit 2 (by decide)), congrArg _ (bit 3 (by decide)),
    congrArg _ (bit 4 (by decide)), congrArg _ (bit 5 (by decide)), congrArg _ (bit 6 (by decide)),
    congrArg _ (bit 7 (by decide)), congrArg _ (bit 8 (by decide)), congrArg _ (bit 9 (by decide)),
    congrArg _ (bit 10 (by decide)), congrArg _ (bit 11 (by decide)), congrArg _ (bit 12 (by decide)),
    congrArg _ (bit 13 (by decide)), congrArg _ (bit 14 (by decide)), congrArg _ (bit 15 (by decide)),
    word 5 r.trigL rfl, word 7 r.trigR rfl, stick 9 r.leftX rfl, stick 11 r.leftY rfl,
    stick 13 r.rightX rfl, stick 15 r.rightY rfl⟩

/-- A guide packet's bits after the report-ID byte. -/
theorem leNat_guide_tail (g : XboxoneGuideReport) :
    leNat g.bytes.tail = g.header.version.toNat + 2 ^ 8 * g.header.counter.toNat +
      2 ^ 16 * g.header.size.toNat + 2 ^ 24 * g.guide.toNat + 2 ^ 32 * g.reserved1.toNat := by
  simp only [XboxoneGuideReport.bytes, XboxoneReportHeader.bytes, List.cons_append,
    List.nil_append, List.tail_cons, leNat_cons, leNat_nil]
  omega

/-- The Data field of report `0x07` reads bit 0 of `guide`. -/
theorem dataFields_guide_values (g : XboxoneGuideReport) :
    (dataFields 0x07).map (fun f => (f.usage, f.value g.bytes)) =
      [(some ⟨9, 16⟩, ((g.guide.toNat % 2 : Nat) : Int))] := by
  have := g.header.version.toNat_lt; have := g.header.counter.toNat_lt
  have := g.header.size.toNat_lt; have := g.reserved1.toNat_lt
  rw [dataFields_guide]
  simp only [List.map, Field.value, Field.isSigned, leNat_guide_tail, List.cons.injEq,
    Prod.mk.injEq, true_and, and_true]
  simp
  omega

/-- The trigger and stick fields of report `0x20` read inside their declared extents exactly
when the triggers are inside the packet model's 0–1023. -/
theorem dataFields_button_inRange (r : XboxoneButtonReport) :
    ((dataFields 0x20).drop 15).map (fun f => decide (f.inRange (f.value r.bytes))) =
      [decide (r.trigL.toNat ≤ 1023), decide (r.trigR.toNat ≤ 1023), true, true, true, true] := by
  have := int16Value_mem r.leftX; have := int16Value_mem r.leftY
  have := int16Value_mem r.rightX; have := int16Value_mem r.rightY
  have hv := dataFields_button_values r
  rw [dataFields_button] at hv ⊢
  simp only [List.map, buttonReportUsages, List.cons.injEq, Prod.mk.injEq] at hv
  simp only [List.drop, List.map, Field.inRange, hv, List.cons.injEq, decide_eq_decide, and_true]
  simp only [triggerField, stickField, decide_eq_true_eq]
  omega

/-- **The descriptor describes the packets.** Report `0x20` declares exactly the 17 bytes
after a button packet's report-ID byte; every Data field of reports `0x20` and `0x07` reads
the packet-model field its usage names; the sticks and the guide bit are always inside
their declared extents, and each trigger exactly when it is at most 1023. -/
theorem reportDescriptor_describes_packets :
    declaredBits inputFields xboxoneInButton.toNat = 8 * (18 - 1) ∧
    (∀ r : XboxoneButtonReport,
      (dataFields 0x20).map (fun f => (f.usage, f.value r.bytes)) =
        (buttonReportUsages r).map fun p => (some p.1, p.2)) ∧
    (∀ g : XboxoneGuideReport,
      (dataFields 0x07).map (fun f => (f.usage, f.value g.bytes)) =
        [(some ⟨9, 16⟩, ((g.guide.toNat % 2 : Nat) : Int))]) ∧
    (∀ r : XboxoneButtonReport,
      ((dataFields 0x20).drop 15).map (fun f => decide (f.inRange (f.value r.bytes))) =
        [decide (r.trigL.toNat ≤ 1023), decide (r.trigR.toNat ≤ 1023), true, true, true, true]) ∧
    (∀ g : XboxoneGuideReport, ∀ f ∈ dataFields 0x07, f.inRange (f.value g.bytes)) := by
  refine ⟨by rw [inputFields_eq]; rfl, dataFields_button_values, dataFields_guide_values,
    dataFields_button_inRange, fun g f hf => ?_⟩
  have hv := dataFields_guide_values g
  rw [dataFields_guide] at hf hv
  simp only [List.mem_singleton] at hf
  simp only [List.map, List.cons.injEq, Prod.mk.injEq, true_and, and_true] at hv
  subst hf
  simp only [Field.inRange, hv]
  omega

/-- The guide report's padding is `REPORT_SIZE (0x0a)`: report `0x07` declares three header
bytes, the guide bit and ten bits of padding, 35 bits where its packet has 40. -/
theorem guideReport_declares_35_bits :
    (inputFields.filter (·.reportId = xboxoneInGuide.toNat)).map (·.size) = [8, 8, 8, 1, 10] ∧
      declaredBits inputFields xboxoneInGuide.toNat = 35 := by
  rw [inputFields_eq]
  decide

/-- The Button fields of report `0x20` follow `LOGICAL_MINIMUM (1)` with no logical maximum
declared before them: each declares the extent from 1 to 0. -/
theorem buttonFields_extents :
    ((dataFields 0x20).take 15).map (fun f => (f.logicalMinimum, f.logicalMaximum)) =
      List.replicate 15 (1, 0) := by
  rw [dataFields_button]; rfl

/-- That extent is empty: in every packet, pressed or released, no button value lies inside
it. -/
theorem buttonFields_extent_empty (r : XboxoneButtonReport) :
    ∀ f ∈ (dataFields 0x20).take 15, ¬ f.inRange (f.value r.bytes) := by
  intro f hf hr
  have hm := List.mem_map_of_mem (fun f : Field => (f.logicalMinimum, f.logicalMaximum)) hf
  rw [buttonFields_extents] at hm
  obtain ⟨h1, h0⟩ := Prod.mk.inj (List.eq_of_mem_replicate hm)
  have := hr.1.trans hr.2
  omega

/-- **Two items do not say what their comments say.** Report `0x07`'s padding is
`REPORT_SIZE (0x0a)` under the comment `REPORT_SIZE (15)`, so the report declares three header
bytes, the guide bit and ten bits of padding: 35 bits for the guide packet's 40. The 15 Button
fields of report `0x20` follow `LOGICAL_MINIMUM (1)` with no `LOGICAL_MAXIMUM`, where the
Button 16 field of report `0x07` declares 0 to 1, so each declares the empty extent from 1
to 0 and no button value of any packet lies inside it. -/
theorem reportDescriptor_guide_bits_and_extents :
    (inputFields.filter (·.reportId = xboxoneInGuide.toNat)).map (·.size) = [8, 8, 8, 1, 10] ∧
      declaredBits inputFields xboxoneInGuide.toNat = 35 ∧
      (dataFields 0x07).map (fun f => (f.logicalMinimum, f.logicalMaximum)) = [(0, 1)] ∧
      ((dataFields 0x20).take 15).map (fun f => (f.logicalMinimum, f.logicalMaximum)) =
        List.replicate 15 (1, 0) ∧
      ∀ r : XboxoneButtonReport, ∀ f ∈ (dataFields 0x20).take 15,
        ¬ f.inRange (f.value r.bytes) :=
  ⟨guideReport_declares_35_bits.1, guideReport_declares_35_bits.2,
    by rw [dataFields_guide]; rfl, buttonFields_extents, buttonFields_extent_empty⟩

end XboxOne

end XboxControllerDriver
