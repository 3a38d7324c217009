import XboxControllerDriver.ReportDescriptor
import XboxControllerDriver.State

/-!
# String descriptors and the device description

`newDeviceDescription` builds the HID device description the host registers the controller
under: fixed flags, the inbound pipe's interval, IDs and version from the device descriptor,
the usage page and usage from bytes 1 and 3 of the report descriptor, the location ID when the
interface has one, a built-in flag for an internal port, and the manufacturer, product and
serial strings, each resolved by `CopyStringAtIndex`.

`CopyStringAtIndex` reads the UTF-16LE code units after a string descriptor's two header bytes
through a `uint16_t*`, stops at the descriptor's declared length or at a NUL unit, and keeps
the low byte of each unit in a 256-byte buffer. Memory is checked: a code unit read past the
descriptor's `bLength` bytes, or a write past `result[255]`, is a `Fault`.
`copyStringAtIndex_eq` says that neither happens, for every descriptor and every code unit,
and gives the string: the low bytes of the units before the first NUL. The loop runs on fuel;
`copyStringLoop_spec` shows that the fuel it is given is what the `for` loop's bound allows,
so the loop always returns. `newDeviceDescription_spec` then says what the description holds.
-/

namespace XboxControllerDriver

/-! ## Descriptors and memory faults -/

/-- `IOUSBStringDescriptor`: `bLength` and the `bLength - 2` bytes after the header. -/
structure IOUSBStringDescriptor where
  bLength : UInt8
  bString : List UInt8
  bString_length : bString.length = bLength.toNat - 2

/-- `sizeof(IOUSBDescriptorHeader)`. -/
def descriptorHeaderSize : UInt8 := 2

/-- An access outside the memory the code may touch: a code unit not inside the descriptor's
`bLength` bytes (at its byte offset), or a write past `char result[256]`. -/
inductive Fault
  | read (offset : Nat)
  | write (index : Nat)
  deriving DecidableEq, Repr

/-- The `index`-th UTF-16LE code unit after the header. -/
def IOUSBStringDescriptor.codeUnit (d : IOUSBStringDescriptor) (index : Nat) : UInt16 :=
  UInt16.ofNat ((d.bString.getD (2 * index) 0).toNat + 256 * (d.bString.getD (2 * index + 1) 0).toNat)

/-- `bString[index]` through a `uint16_t*`: bytes `2 + 2 index` and `3 + 2 index` of the
descriptor, which must lie inside its `bLength` bytes. -/
def readCodeUnit (d : IOUSBStringDescriptor) (index : Nat) : Except Fault UInt16 :=
  if 3 + 2 * index < d.bLength.toNat then .ok (d.codeUnit index) else .error (.read (2 + 2 * index))

/-- `result[index] = v`. -/
def writeResult (result : Memory) (index : Nat) (v : UInt8) : Except Fault Memory :=
  if index < 256 then .ok (result.write index v) else .error (.write index)

namespace XboxOneInputInterface

/-! ## `CopyStringAtIndex` -/

/-- The `for (; index < length; ++index)` loop of `CopyStringAtIndex` with `fuel` iterations
left: stop at `length` or at a NUL code unit, storing `(uint8_t)value` in `result[index]`.
Returns the final `index` and `result`. -/
def copyStringLoop (d : IOUSBStringDescriptor) (length : Nat) :
    Nat → Nat → Memory → Except Fault (Nat × Memory)
  | 0, index, result => .ok (index, result)
  | fuel + 1, index, result =>
    if index < length then do
      let value ← readCodeUnit d index
      if value = 0 then return (index, result)
      let result ← writeResult result index value.toUInt8
      copyStringLoop d length fuel (index + 1) result
    else .ok (index, result)

/-- `CopyStringAtIndex`: the bytes of the string `OSStringCreate(result, index)` builds, `none`
for a null string. `CopyStringDescriptor` is answered by `copyStringDescriptor`. -/
def copyStringAtIndex (copyStringDescriptor : UInt8 → UInt16 → Option IOUSBStringDescriptor)
    (descriptorIndex : UInt8) (descriptorLanguage : UInt16) : Except Fault (Option (List UInt8)) :=
  if descriptorIndex = 0 then .ok none else
  match copyStringDescriptor descriptorIndex descriptorLanguage with
  | none => .ok none
  | some descriptor =>
    if descriptor.bLength < descriptorHeaderSize then .ok none else
    let length : UInt8 := (descriptor.bLength - descriptorHeaderSize) / 2
    do
      let (index, result) ← copyStringLoop descriptor length.toNat length.toNat 0 fun _ => 0
      return some (result.take index)

end XboxOneInputInterface

/-! ## What it returns -/

/-- The descriptor's code units as its `bLength` declares them: `(bLength - 2) / 2` of them. -/
def IOUSBStringDescriptor.codeUnits (d : IOUSBStringDescriptor) : List UInt16 :=
  (List.range ((d.bLength.toNat - 2) / 2)).map d.codeUnit

theorem Memory.take_write_self (m : Memory) (i : Nat) (v : UInt8) :
    (m.write i v).take (i + 1) = m.take i ++ [v] := by
  rw [Memory.take_succ]
  congr 1
  · apply List.ext_getElem (by simp)
    intro k hk _
    simp only [Memory.length_take] at hk
    simp [Memory.take, Memory.write, Nat.ne_of_lt hk]
  · simp [Memory.write]

namespace XboxOneInputInterface

/-- **The loop.** From `index`, with the fuel the bound leaves and the units inside `bLength`
and the buffer, the loop neither faults nor runs out of fuel: it stops after the units before
the first NUL, having stored their low bytes. -/
theorem copyStringLoop_spec (d : IOUSBStringDescriptor) (length : Nat)
    (hd : 2 * length + 2 ≤ d.bLength.toNat) (hl : length ≤ 256) :
    ∀ fuel index (result : Memory), index + fuel = length →
      ∃ result' : Memory,
        copyStringLoop d length fuel index result =
          .ok (index + ((((List.range length).map d.codeUnit).drop index).takeWhile (· ≠ 0)).length,
            result') ∧
        result'.take (index + ((((List.range length).map d.codeUnit).drop index).takeWhile
            (· ≠ 0)).length) =
          result.take index ++ ((((List.range length).map d.codeUnit).drop index).takeWhile
            (· ≠ 0)).map UInt16.toUInt8
  | 0, index, result, h => by
    have hnil : ((List.range length).map d.codeUnit).drop index = [] :=
      List.drop_eq_nil_of_le (by simp; omega)
    exact ⟨result, by simp [copyStringLoop, hnil]⟩
  | fuel + 1, index, result, h => by
    have hi : index < length := by omega
    have hdrop : ((List.range length).map d.codeUnit).drop index =
        d.codeUnit index :: ((List.range length).map d.codeUnit).drop (index + 1) := by
      rw [List.drop_eq_getElem_cons (by simpa using hi)]
      simp
    have hread : readCodeUnit d index = .ok (d.codeUnit index) := by
      simp [readCodeUnit]; omega
    have hwrite (v : UInt8) : writeResult result index v = .ok (result.write index v) := by
      simp [writeResult]; omega
    by_cases hz : d.codeUnit index = 0
    · refine ⟨result, ?_⟩
      simp [copyStringLoop, hi, hread, hz, hdrop, bind, Except.bind, pure, Except.pure]
    · obtain ⟨result', hrun, htake⟩ :=
        copyStringLoop_spec d length hd hl fuel (index + 1) (result.write index (d.codeUnit index).toUInt8)
          (by omega)
      refine ⟨result', ?_, ?_⟩
      · simp only [copyStringLoop, hi, if_true, hread, hz, hwrite, bind, Except.bind, if_false,
          pure, Except.pure, hrun, hdrop]
        simp [List.takeWhile_cons, hz]
        omega
      · have e : ∀ n, index + (n + 1) = index + 1 + n := fun n => by omega
        rw [hdrop, List.takeWhile_cons_of_pos (by simpa using hz), List.length_cons, e, htake,
          Memory.take_write_self]
        simp

/-- **What `CopyStringAtIndex` returns.** For every descriptor `CopyStringDescriptor` can
return, any `bLength` and any code units: no read leaves the descriptor's `bLength` bytes and
no write leaves `result`; index 0, a failed copy and `bLength < 2` give no string; otherwise
the string is the low bytes of the code units before the first NUL, at most
`(bLength - 2) / 2` of them. -/
theorem copyStringAtIndex_eq (copyStringDescriptor : UInt8 → UInt16 → Option IOUSBStringDescriptor)
    (descriptorIndex : UInt8) (descriptorLanguage : UInt16) :
    copyStringAtIndex copyStringDescriptor descriptorIndex descriptorLanguage =
      .ok (if descriptorIndex = 0 then none else
        match copyStringDescriptor descriptorIndex descriptorLanguage with
        | none => none
        | some d =>
          if d.bLength.toNat < 2 then none
          else some ((d.codeUnits.takeWhile (· ≠ 0)).map UInt16.toUInt8)) := by
  unfold copyStringAtIndex
  split_ifs with h0
  · rfl
  · rcases copyStringDescriptor descriptorIndex descriptorLanguage with _ | d
    · rfl
    · by_cases hb : d.bLength.toNat < 2
      · have : d.bLength < descriptorHeaderSize := by
          simpa [UInt8.lt_def, descriptorHeaderSize, UInt8.toNat] using hb
        simp [hb, this]
      · have hle : ¬ d.bLength < descriptorHeaderSize := by
          simpa [UInt8.lt_def, descriptorHeaderSize, UInt8.toNat] using hb
        have hlen : ((d.bLength - descriptorHeaderSize) / 2).toNat = (d.bLength.toNat - 2) / 2 := by
          rw [UInt8.toNat_div, UInt8.toNat_sub_of_le _ _ (UInt8.not_lt.mp hle)]
          rfl
        obtain ⟨result', hrun, htake⟩ := copyStringLoop_spec d ((d.bLength.toNat - 2) / 2)
          (by omega) (by have := d.bLength.toNat_lt_size; simp [UInt8.size] at this; omega)
          ((d.bLength.toNat - 2) / 2) 0 (fun _ => 0) (by omega)
        simp only [List.drop_zero, Nat.zero_add] at hrun htake
        simp only [hle, if_false, hlen, hb, hrun, bind, Except.bind, pure, Except.pure]
        simpa [IOUSBStringDescriptor.codeUnits, Memory.take] using htake

end XboxOneInputInterface

/-! ## The device description -/

/-- `kLanguageIDEnglishUS`. -/
def kLanguageIDEnglishUS : UInt16 := 0x0409

/-- `kUSBHostClassRequestCompletionTimeout`, in milliseconds. -/
def kUSBHostClassRequestCompletionTimeout : UInt64 := 5000

/-- The fields of `IOUSBDeviceDescriptor` the description reads, in host order (as
`USBToHost16` gives them). -/
structure IOUSBDeviceDescriptor where
  idVendor : UInt16
  idProduct : UInt16
  bcdDevice : UInt16
  iManufacturer : UInt8
  iProduct : UInt8
  iSerialNumber : UInt8
  deriving DecidableEq, Repr

/-- The keys `newDeviceDescription` sets, after the source's constants. -/
inductive DescriptionKey
  | registerService | hidDefaultBehavior | appleVendorSupported | reportInterval | vendorID
  | productID | transport | versionNumber | countryCode | requestTimeout | primaryUsagePage
  | primaryUsage | locationID | manufacturer | product | serialNumber | builtIn
  deriving DecidableEq, Repr

/-- A value of the description: a boolean, a number, a string's bytes, or the location-ID
object of the interface's properties. -/
inductive DescriptionValue
  | boolean (b : Bool)
  | number (n : UInt64)
  | string (bytes : List UInt8)
  | object (handle : Nat)
  deriving DecidableEq, Repr

/-- What `newDeviceDescription` is answered: `CopyProperties` (the `kUSBHostPropertyLocationID`
object, if any, and whether the port type is `kIOUSBHostPortTypeInternal`), `CopyDevice`,
`CopyDeviceDescriptor`, `OSDictionary::withCapacity`, and `CopyStringDescriptor`. -/
structure DescriptionEnv where
  properties : Option (Option Nat × Bool)
  device : Bool
  deviceDescriptor : Option IOUSBDeviceDescriptor
  dictionary : Bool
  copyStringDescriptor : UInt8 → UInt16 → Option IOUSBStringDescriptor

namespace XboxOneInputInterface

/-- `newDeviceDescription`: the entries of the dictionary it returns, in the order they are
set; `none` is a null dictionary. The transport is the string `"USB"`. -/
def newDeviceDescription (e : DescriptionEnv) (s : XboxOneInputInterface) :
    Except Fault (Option (List (DescriptionKey × DescriptionValue))) :=
  if !s.interface then .ok none else
  match e.properties with
  | none => .ok none
  | some (locationID, internalPort) =>
    if !e.device then .ok none else
    match e.deviceDescriptor with
    | none => .ok none
    | some d =>
      if !e.dictionary then .ok none else do
      let manufacturer ← copyStringAtIndex e.copyStringDescriptor d.iManufacturer kLanguageIDEnglishUS
      let product ← copyStringAtIndex e.copyStringDescriptor d.iProduct kLanguageIDEnglishUS
      let serialNumber ←
        copyStringAtIndex e.copyStringDescriptor d.iSerialNumber kLanguageIDEnglishUS
      return some ([(.registerService, .boolean true), (.hidDefaultBehavior, .boolean true),
          (.appleVendorSupported, .boolean true), (.reportInterval, .number s.inPipe.interval.toUInt64),
          (.vendorID, .number d.idVendor.toUInt64), (.productID, .number d.idProduct.toUInt64),
          (.transport, .string [0x55, 0x53, 0x42]), (.versionNumber, .number d.bcdDevice.toUInt64),
          (.countryCode, .number 0), (.requestTimeout, .number (kUSBHostClassRequestCompletionTimeout * 1000)),
          (.primaryUsagePage, .number (XboxOne.reportDescriptor.getD 1 0).toUInt64),
          (.primaryUsage, .number (XboxOne.reportDescriptor.getD 3 0).toUInt64)] ++
        (locationID.map fun o => (.locationID, .object o)).toList ++
        (manufacturer.map fun b => (.manufacturer, .string b)).toList ++
        (product.map fun b => (.product, .string b)).toList ++
        (serialNumber.map fun b => (.serialNumber, .string b)).toList ++
        if internalPort then [(.builtIn, .boolean true)] else [])

/-- Without the interface, its properties, the device, the device descriptor or the
dictionary, there is no description. -/
theorem newDeviceDescription_eq_none (e : DescriptionEnv) (s : XboxOneInputInterface)
    (h : ¬ (s.interface = true ∧ e.properties.isSome ∧ e.device = true ∧ e.deviceDescriptor.isSome ∧
      e.dictionary = true)) :
    newDeviceDescription e s = .ok none := by
  unfold newDeviceDescription
  by_cases hi : s.interface = true
  swap; · simp [hi]
  rcases hp : e.properties with _ | ⟨loc, internal⟩
  · simp [hi]
  by_cases hd : e.device = true
  swap; · simp [hi, hd]
  rcases hdd : e.deviceDescriptor with _ | d
  · simp [hi, hd]
  have hdict : e.dictionary = false := by simpa [hi, hp, hd, hdd] using h
  simp [hdict]

/-- **The device description.** `newDeviceDescription` never faults; it returns a dictionary
exactly when the interface, its properties, the device, the device descriptor and the
dictionary are all obtained. The dictionary's primary usage page and usage are the data of
the report descriptor's first two items, Generic Desktop (1) and Game Pad (5), and its
country code is 0. A string entry is present exactly when its index is nonzero and its
descriptor is copied with `bLength ≥ 2`, and then holds the descriptor's narrowed string. -/
theorem newDeviceDescription_spec (e : DescriptionEnv) (s : XboxOneInputInterface) :
    ∃ desc, newDeviceDescription e s = .ok desc ∧
      (desc.isSome ↔ s.interface = true ∧ e.properties.isSome ∧ e.device = true ∧
        e.deviceDescriptor.isSome ∧ e.dictionary = true) ∧
      (Hid.parseItems XboxOne.reportDescriptor).map (·.take 2) =
        some [⟨0, 1, [0x01]⟩, ⟨0, 2, [0x05]⟩] ∧
      ∀ entries d, desc = some entries → e.deviceDescriptor = some d →
        (.primaryUsagePage, .number 0x01) ∈ entries ∧ (.primaryUsage, .number 0x05) ∈ entries ∧
        (.countryCode, .number 0) ∈ entries ∧
        ∀ key index, (key, index) ∈ [(DescriptionKey.manufacturer, d.iManufacturer),
            (.product, d.iProduct), (.serialNumber, d.iSerialNumber)] →
          ∀ v, (key, v) ∈ entries ↔ index ≠ 0 ∧ ∃ sd,
            e.copyStringDescriptor index kLanguageIDEnglishUS = some sd ∧ 2 ≤ sd.bLength.toNat ∧
              v = .string ((sd.codeUnits.takeWhile (· ≠ 0)).map UInt16.toUInt8) := by
  have hpage : (XboxOne.reportDescriptor.getD 1 0).toUInt64 = 0x01 := rfl
  have husage : (XboxOne.reportDescriptor.getD 3 0).toUInt64 = 0x05 := rfl
  have hparse : (Hid.parseItems XboxOne.reportDescriptor).map (·.take 2) =
      some [⟨0, 1, [0x01]⟩, ⟨0, 2, [0x05]⟩] := by
    set_option maxRecDepth 4000 in decide
  by_cases hall : s.interface = true ∧ e.properties.isSome ∧ e.device = true ∧
      e.deviceDescriptor.isSome ∧ e.dictionary = true
  swap
  · exact ⟨none, newDeviceDescription_eq_none e s hall, iff_of_false (by simp) hall, hparse, by simp⟩
  obtain ⟨hi, hp, hd, hdd, hdict⟩ := hall
  obtain ⟨⟨loc, internal⟩, hp⟩ := Option.isSome_iff_exists.mp hp
  obtain ⟨d, hdd⟩ := Option.isSome_iff_exists.mp hdd
  unfold newDeviceDescription
  simp only [hi, hp, hd, hdd, hdict, Bool.not_true, Bool.false_eq_true, if_false, copyStringAtIndex_eq,
    bind, Except.bind, pure, Except.pure]
  refine ⟨_, rfl, by simp [hi, hp, hd, hdd, hdict], hparse, ?_⟩
  rintro entries d' he hd'
  cases he; cases hd'
  refine ⟨?_, ?_, ?_, ?_⟩
  iterate 3
    simp only [List.mem_append, hpage, husage]
    iterate 5 left
    simp
  intro key index hk v
  simp only [List.mem_cons, Prod.mk.injEq, List.mem_singleton, List.not_mem_nil, or_false] at hk
  rcases hk with ⟨rfl, hidx⟩ | ⟨rfl, hidx⟩ | ⟨rfl, hidx⟩ <;> rw [← hidx] <;>
  · simp only [List.mem_append, List.mem_cons, List.mem_singleton, Option.mem_toList,
      Option.mem_def, Option.map_eq_some', Prod.mk.injEq, reduceCtorEq, false_and, and_false,
      exists_false, or_false, false_or, List.not_mem_nil, List.mem_ite_nil_right, true_and]
    by_cases h0 : index = 0
    · simp [h0]
    · rcases hcs : e.copyStringDescriptor index kLanguageIDEnglishUS with _ | sd
      · simp [h0, hcs]
      · by_cases hb : sd.bLength.toNat < 2
        · simp [h0, hcs, hb]
        · simp [h0, hcs, hb, Nat.le_of_not_lt hb, eq_comm]

end XboxOneInputInterface

end XboxControllerDriver
