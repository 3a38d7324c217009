import XboxControllerDriver.Packets

/-!
# HID report descriptors and input reports

What a host HID stack makes of a report descriptor: the descriptor is a sequence of short
items; global items (usage page, logical extent, report size, count and ID) stay in force
until changed, local items (usages and usage ranges) describe only the next main item, and
every Input main item declares `REPORT_COUNT` fields of `REPORT_SIZE` bits, laid out
LSB-first after the report-ID byte of the report they belong to.

`parseItems` splits the bytes, `ParserState.item` threads the item state, and
`parseReportDescriptor` returns every input field with its report ID, bit offset, size,
usage and logical extent. `Field.value` reads a field out of a report's bytes, signed
exactly when the field's logical extent has a negative end.
-/

namespace XboxControllerDriver.Hid

/-! ## Items -/

/-- A short item: its `bTag`, its `bType` (0 main, 1 global, 2 local) and its data. -/
structure Item where
  tag : Nat
  type : Nat
  data : List UInt8
  deriving DecidableEq, Repr

/-- The item a prefix byte announces, with its data bytes. -/
def Item.ofPrefix (p : UInt8) (data : List UInt8) : Item := ⟨p.toNat / 16, p.toNat / 4 % 4, data⟩

/-- Split a descriptor into short items: `bSize` (the prefix's low two bits) says 0, 1, 2
or 4 data bytes follow. `none` on a long item (`0xFE`) or on a descriptor that ends inside
an item. -/
def parseItems : List UInt8 → Option (List Item)
  | [] => some []
  | p :: rest =>
    if p = 0xFE then none else
    match p.toNat % 4, rest with
    | 0, rest => (parseItems rest).map (Item.ofPrefix p [] :: ·)
    | 1, d₀ :: rest => (parseItems rest).map (Item.ofPrefix p [d₀] :: ·)
    | 2, d₀ :: d₁ :: rest => (parseItems rest).map (Item.ofPrefix p [d₀, d₁] :: ·)
    | 3, d₀ :: d₁ :: d₂ :: d₃ :: rest =>
      (parseItems rest).map (Item.ofPrefix p [d₀, d₁, d₂, d₃] :: ·)
    | _, _ => none

/-- The natural number with the given little-endian bytes. -/
def leNat : List UInt8 → Nat
  | [] => 0
  | b :: bs => b.toNat + 256 * leNat bs

@[simp] theorem leNat_nil : leNat [] = 0 := rfl

@[simp] theorem leNat_cons (b : UInt8) (bs : List UInt8) :
    leNat (b :: bs) = b.toNat + 256 * leNat bs := rfl

theorem pow_eight_mul_succ (n : Nat) : 2 ^ (8 * (n + 1)) = 256 * 2 ^ (8 * n) := by
  rw [Nat.mul_succ, Nat.pow_add, Nat.mul_comm]

theorem leNat_cons_div (b : UInt8) (bs : List UInt8) : (b.toNat + 256 * leNat bs) / 256 = leNat bs := by
  have := b.toNat_lt
  omega

/-- The first `m` bytes are the number modulo `2^(8 m)`. -/
theorem leNat_take (l : List UInt8) (m : Nat) : leNat (l.take m) = leNat l % 2 ^ (8 * m) := by
  induction l generalizing m with
  | nil => simp
  | cons b bs ih =>
    cases m with
    | zero => simp [Nat.mod_one]
    | succ m =>
      rw [List.take_succ_cons, leNat_cons, leNat_cons, ih, pow_eight_mul_succ, Nat.mod_mul,
        leNat_cons_div]
      have := b.toNat_lt
      omega

/-- The bytes after the first `k` are the number divided by `2^(8 k)`. -/
theorem leNat_drop (l : List UInt8) (k : Nat) : leNat (l.drop k) = leNat l / 2 ^ (8 * k) := by
  induction l generalizing k with
  | nil => simp
  | cons b bs ih =>
    cases k with
    | zero => simp
    | succ k =>
      rw [List.drop_succ_cons, ih, leNat_cons, pow_eight_mul_succ, ← Nat.div_div_eq_div_mul,
        leNat_cons_div]

/-- Bit `j` of the `w`-bit field at bit `a` is bit `a + j` of the whole. -/
theorem div_pow_mod_bit (n a w j : Nat) (hj : j < w) :
    n / 2 ^ a % 2 ^ w / 2 ^ j % 2 = n / 2 ^ (a + j) % 2 := by
  obtain ⟨d, rfl⟩ : ∃ d, w = j + (d + 1) := ⟨w - j - 1, by omega⟩
  rw [Nat.pow_add, Nat.mod_mul_right_div_self, Nat.mod_mod_of_dvd _ (dvd_pow_self 2 d.succ_ne_zero),
    Nat.div_div_eq_div_mul, ← Nat.pow_add]

/-- A `width`-bit two's complement number. -/
def signed (raw width : Nat) : Int := if raw < 2 ^ (width - 1) then raw else raw - 2 ^ width

/-- An item's data as an unsigned number. -/
def Item.udata (i : Item) : Nat := leNat i.data

/-- An item's data as a signed number, two's complement in the data's width. -/
def Item.sdata (i : Item) : Int := signed (leNat i.data) (8 * i.data.length)

/-! ## The item state -/

/-- A usage: its page and its ID on the page. -/
structure Usage where
  page : Nat
  id : Nat
  deriving DecidableEq, Repr

/-- The global item state. Items not yet declared read 0. -/
structure GlobalItems where
  usagePage : Nat := 0
  logicalMinimum : Int := 0
  logicalMaximum : Int := 0
  reportSize : Nat := 0
  reportId : Nat := 0
  reportCount : Nat := 0
  deriving DecidableEq, Repr

/-- The local item state: usages, and a usage range. -/
structure LocalItems where
  usages : List Usage := []
  usageMinimum : Option Usage := none
  usageMaximum : Option Usage := none
  deriving DecidableEq, Repr

/-- The usages the local items give the next main item, in order. -/
def LocalItems.usageList (l : LocalItems) : List Usage :=
  l.usages ++ match l.usageMinimum, l.usageMaximum with
    | some lo, some hi => (List.range (hi.id + 1 - lo.id)).map fun k => ⟨lo.page, lo.id + k⟩
    | _, _ => []

/-- The usage of the `k`-th field of a main item: past the end of the list, the last
usage stands for the remaining fields. -/
def usageAt (us : List Usage) (k : Nat) : Option Usage := us[k]? <|> us.getLast?

/-- One input field of a report. `offset` counts bits after the report-ID byte. `flags` is
the Input item's data: bit 0 is Constant, bit 1 is Variable. -/
structure Field where
  reportId : Nat
  offset : Nat
  size : Nat
  usage : Option Usage
  logicalMinimum : Int
  logicalMaximum : Int
  flags : Nat
  deriving DecidableEq, Repr

/-- A Data field (not Constant). -/
def Field.isData (f : Field) : Bool := f.flags % 2 = 0

/-- What the parser carries from item to item. -/
structure ParserState where
  global : GlobalItems := {}
  stack : List GlobalItems := []
  locals : LocalItems := {}
  fields : List Field := []
  deriving Repr

/-- The bits the fields of one report declare. -/
def declaredBits (fs : List Field) (rid : Nat) : Nat :=
  ((fs.filter (·.reportId = rid)).map (·.size)).sum

/-- An Input main item: `REPORT_COUNT` fields of `REPORT_SIZE` bits after the report's
fields so far. A Data Variable field takes the next usage; Constant and Array fields have
none. -/
def ParserState.input (s : ParserState) (flags : Nat) : ParserState :=
  let g := s.global
  let base := declaredBits s.fields g.reportId
  let us := s.locals.usageList
  let new := (List.range g.reportCount).map fun k =>
    { reportId := g.reportId, offset := base + k * g.reportSize, size := g.reportSize,
      usage := if flags % 4 = 2 then usageAt us k else none,
      logicalMinimum := g.logicalMinimum, logicalMaximum := g.logicalMaximum, flags }
  { s with fields := s.fields ++ new }

/-- A main item; every main item ends the scope of the local items. -/
def ParserState.main (s : ParserState) (i : Item) : ParserState :=
  let s := if i.tag = 8 then s.input i.udata else s
  { s with locals := {} }

/-- A global item. -/
def ParserState.globalItem (s : ParserState) (i : Item) : ParserState :=
  let g := s.global
  match i.tag with
  | 0 => { s with global := { g with usagePage := i.udata } }
  | 1 => { s with global := { g with logicalMinimum := i.sdata } }
  | 2 => { s with global := { g with logicalMaximum := i.sdata } }
  | 7 => { s with global := { g with reportSize := i.udata } }
  | 8 => { s with global := { g with reportId := i.udata } }
  | 9 => { s with global := { g with reportCount := i.udata } }
  | 10 => { s with stack := g :: s.stack }
  | 11 => match s.stack with
    | g' :: rest => { s with global := g', stack := rest }
    | [] => s
  | _ => s

/-- The usage a local usage item names: a four-byte item carries its own page. -/
def Item.usage (i : Item) (page : Nat) : Usage :=
  if i.data.length = 4 then ⟨i.udata / 65536, i.udata % 65536⟩ else ⟨page, i.udata⟩

/-- A local item. -/
def ParserState.localItem (s : ParserState) (i : Item) : ParserState :=
  let l := s.locals
  let u := i.usage s.global.usagePage
  match i.tag with
  | 0 => { s with locals := { l with usages := l.usages ++ [u] } }
  | 1 => { s with locals := { l with usageMinimum := some u } }
  | 2 => { s with locals := { l with usageMaximum := some u } }
  | _ => s

/-- One item. -/
def ParserState.item (s : ParserState) (i : Item) : ParserState :=
  match i.type with
  | 0 => s.main i
  | 1 => s.globalItem i
  | 2 => s.localItem i
  | _ => s

/-- Every input field a report descriptor declares, in order. -/
def parseReportDescriptor (d : List UInt8) : Option (List Field) :=
  (parseItems d).map fun items => (items.foldl ParserState.item {}).fields

/-! ## Reading a report -/

/-- Whether a field reads signed: its logical extent has a negative end. -/
def Field.isSigned (f : Field) : Bool := f.logicalMinimum < 0 || f.logicalMaximum < 0

/-- The value of a field in a report (`report[0]` is the report ID). -/
def Field.value (f : Field) (report : List UInt8) : Int :=
  let raw := leNat report.tail / 2 ^ f.offset % 2 ^ f.size
  if f.isSigned then signed raw f.size else raw

/-- Whether a value lies in the field's declared logical extent. -/
def Field.inRange (f : Field) (v : Int) : Prop := f.logicalMinimum ≤ v ∧ v ≤ f.logicalMaximum

instance (f : Field) (v : Int) : Decidable (f.inRange v) := inferInstanceAs (Decidable (_ ∧ _))

end XboxControllerDriver.Hid
