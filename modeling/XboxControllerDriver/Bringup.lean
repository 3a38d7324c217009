import XboxControllerDriver.Lifecycle

/-!
# What bring-up reports

Three functions tell the framework whether bring-up worked: the input interface's
`Start_Impl` and `handleStart`, and the device's `Start_Impl`, which selects the
configuration the interface lives in. Each is written with `goto Exit` and a `ret` that some
failure paths leave at its initial `kIOReturnSuccess`.

`startImpl_eq_success`, `handleStart_eq_true` and `XboxOneDevice.startImpl_success_iff` give
each function's success condition, read off its `goto` chain, for every answer of the
framework. `bringUp_reports_success_when_incomplete` shows the paths on which success is
reported although bring-up did not complete:

* the interface's `Start_Impl` when the provider is not an `IOUSBHostInterface`;
* `handleStart` when the first `AsyncIO` is rejected;
* the device's `Start_Impl` when the device descriptor cannot be copied, declares no
  configuration, or configuration 1 cannot be copied.

The core interface's `handleStart`, which has no `ret` of that kind, starts exactly on
interface 0 (`XboxOneInterface.handleStart_iff`).
-/

namespace XboxControllerDriver

namespace XboxOneInputInterface

/-- What the input interface's `Start_Impl` is answered: whether `OSDynamicCast` finds an
`IOUSBHostInterface`, `Open`, and `super::Start`. -/
structure StartImplEnv where
  isInterface : Bool
  opened : KernReturn
  superStart : KernReturn

/-- `Start_Impl`. A failed cast jumps to `Exit` with `ret` still `kIOReturnSuccess`. -/
def startImpl (e : StartImplEnv) (s : XboxOneInputInterface) : KernReturn × XboxOneInputInterface :=
  let ret := kIOReturnSuccess
  let s := { s with interface := e.isInterface }
  if !e.isInterface then (ret, s) else
  let ret := e.opened
  if ret ≠ kIOReturnSuccess then (ret, s) else
  (e.superStart, s)

/-- **When `Start_Impl` reports success**: when the provider is not an interface at all, or
when `Open` and `super::Start` both succeed. -/
theorem startImpl_eq_success (e : StartImplEnv) (s : XboxOneInputInterface) :
    (startImpl e s).1 = kIOReturnSuccess ↔
      e.isInterface = false ∨ e.opened = kIOReturnSuccess ∧ e.superStart = kIOReturnSuccess := by
  unfold startImpl
  cases e.isInterface <;> by_cases h : e.opened = kIOReturnSuccess <;> simp [h]

/-- **When `handleStart` reports success**: exactly when `super::handleStart`, the descriptors,
the pipe scan, the pipe setup and `CreateActionGotData` succeed. What the handshake's `IO`
and the first `AsyncIO` answer plays no part. -/
theorem handleStart_eq_true (e : StartEnv) (s : XboxOneInputInterface) :
    (handleStart e s).1 = true ↔
      e.superHandleStart = true ∧ (initDescriptors e.descriptors s).1 = true ∧
        (initPipes e.copyPipe (initDescriptors e.descriptors s).2).1 = true ∧
        (setupPipes e.pipes (initPipes e.copyPipe (initDescriptors e.descriptors s).2).2.1).1 = true ∧
        e.createActionGotData = kIOReturnSuccess := by
  unfold handleStart
  by_cases h0 : e.superHandleStart = true <;> simp only [h0] <;> simp
  rcases initDescriptors e.descriptors s with ⟨_ | _, s₁⟩ <;> simp
  rcases initPipes e.copyPipe s₁ with ⟨_ | _, s₂, _⟩ <;> simp
  rcases setupPipes e.pipes s₂ with ⟨_ | _, s₃⟩ <;> simp
  split <;> simp_all

end XboxOneInputInterface

namespace XboxOneDevice

/-- `TARGET_CONFIGURATION`. -/
def targetConfiguration : UInt8 := 1

/-- What the device's `Start_Impl` is answered: whether `OSDynamicCast` finds an
`IOUSBHostDevice`; the copied device descriptor's `bNumConfigurations` (`none`: no descriptor);
`Open`; whether `CopyConfigurationDescriptorWithValue` finds a configuration of a value;
`SetConfiguration` of a value; `super::Start`; `RegisterService`. -/
structure StartEnv where
  isDevice : Bool
  deviceDescriptor : Option UInt8
  opened : KernReturn
  configurationDescriptor : UInt8 → Bool
  setConfiguration : UInt8 → KernReturn
  superStart : KernReturn
  registerService : KernReturn

/-- `XboxOneDevice::Start_Impl`. The jumps for a missing device descriptor, for no
configuration, and for a missing configuration descriptor leave `ret` as it was. -/
def startImpl (e : StartEnv) : KernReturn :=
  let ret := kIOReturnSuccess
  if !e.isDevice then kIOReturnError else
  match e.deviceDescriptor with
  | none => ret
  | some bNumConfigurations =>
    if bNumConfigurations < 1 then ret else
    let ret := e.opened
    if ret ≠ kIOReturnSuccess then ret else
    if !e.configurationDescriptor targetConfiguration then ret else
    let ret := e.setConfiguration targetConfiguration
    if ret ≠ kIOReturnSuccess then ret else
    let ret := e.superStart
    if ret ≠ kIOReturnSuccess then ret else
    let ret := e.registerService
    if ret ≠ kIOReturnSuccess then ret else
    kIOReturnSuccess

/-- **When the device's `Start_Impl` reports success**: for a device, when there is no device
descriptor, when it declares no configuration, when `Open` succeeds and configuration 1
cannot be copied, or when every step succeeds. -/
theorem startImpl_success_iff (e : StartEnv) :
    startImpl e = kIOReturnSuccess ↔
      e.isDevice = true ∧
        (e.deviceDescriptor = none ∨
          ∃ n, e.deviceDescriptor = some n ∧
            (n < 1 ∨ e.opened = kIOReturnSuccess ∧
              (e.configurationDescriptor 1 = false ∨
                e.setConfiguration 1 = kIOReturnSuccess ∧ e.superStart = kIOReturnSuccess ∧
                  e.registerService = kIOReturnSuccess))) := by
  unfold startImpl targetConfiguration
  cases e.isDevice
  · simp [kIOReturnError_ne_success]
  · rcases e.deviceDescriptor with _ | n
    · simp
    · by_cases hn : n < 1
      · simp [hn]
      · by_cases ho : e.opened = kIOReturnSuccess
        · cases e.configurationDescriptor 1 <;> simp [hn, ho]
          split_ifs <;> simp_all
        · simp [hn, ho]

end XboxOneDevice

namespace XboxOneInterface

/-- `XboxOneInterfaceTypeInput`. -/
def xboxOneInterfaceTypeInput : UInt8 := 0

/-- What `XboxOneInterface::handleStart` is answered: whether `OSDynamicCast` finds an
`IOUSBHostInterface`, whether `CopyConfigurationDescriptor` returns a descriptor, the
`bInterfaceNumber` of the descriptor `GetInterfaceDescriptor` finds (`none`: none found), and
`super::handleStart`. -/
structure HandleStartEnv where
  isInterface : Bool
  configurationDescriptor : Bool
  interfaceNumber : Option UInt8
  superHandleStart : Bool

/-- `XboxOneInterface::handleStart`. Only the input interface, number 0, is handled; every
other number, `XboxOneInterfaceTypeUnknown` included, is refused. -/
def handleStart (e : HandleStartEnv) : Bool :=
  if !e.isInterface then false else
  if !e.configurationDescriptor then false else
  match e.interfaceNumber with
  | none => false
  | some bInterfaceNumber =>
    if bInterfaceNumber = xboxOneInterfaceTypeInput then e.superHandleStart else false

/-- The core interface starts exactly on interface 0, with every call answered. -/
theorem handleStart_iff (e : HandleStartEnv) :
    handleStart e = true ↔ e.isInterface = true ∧ e.configurationDescriptor = true ∧
      e.interfaceNumber = some 0 ∧ e.superHandleStart = true := by
  unfold handleStart xboxOneInterfaceTypeInput
  cases e.isInterface <;> cases e.configurationDescriptor <;> simp
  rcases e.interfaceNumber with _ | n <;> simp

end XboxOneInterface

/-! ## Success without bring-up -/

/-- The device's `Start_Impl` answered with a device descriptor, with configuration 1 found or
not, and with every call succeeding. -/
def XboxOneDevice.answered (deviceDescriptor : Option UInt8) (configuration : Bool) :
    XboxOneDevice.StartEnv :=
  ⟨true, deviceDescriptor, kIOReturnSuccess, fun _ => configuration, fun _ => kIOReturnSuccess,
    kIOReturnSuccess, kIOReturnSuccess⟩

/-- Bring-up reports success where it did not complete: the interface's `Start_Impl` for a
provider that is not an interface; `handleStart` when the first `AsyncIO` is rejected, leaving no
receive armed; the device's `Start_Impl` with no device descriptor, with a descriptor of no
configuration, and when configuration 1 cannot be copied. -/
theorem bringUp_reports_success_when_incomplete :
    (XboxOneInputInterface.startImpl ⟨false, kIOReturnError, kIOReturnError⟩
        XboxOneInputInterface.init).1 = kIOReturnSuccess ∧
      (XboxOneInputInterface.handleStart (XboxOneInputInterface.controllerStart kIOReturnError)
        XboxOneInputInterface.init).1 = true ∧
      (XboxOneInputInterface.handleStart (XboxOneInputInterface.controllerStart kIOReturnError)
        XboxOneInputInterface.init).2.pendingReceives = 0 ∧
      XboxOneDevice.startImpl (XboxOneDevice.answered none true) = kIOReturnSuccess ∧
      XboxOneDevice.startImpl (XboxOneDevice.answered (some 0) true) = kIOReturnSuccess ∧
      XboxOneDevice.startImpl (XboxOneDevice.answered (some 1) false) = kIOReturnSuccess := by
  decide

end XboxControllerDriver
