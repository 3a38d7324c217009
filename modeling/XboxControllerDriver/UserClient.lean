import XboxControllerDriver.Lifecycle

/-!
# The user client

A client process reaches the driver through an `XboxOneUserClient`, which the input interface
creates in `NewUserClient_Impl` and points back at itself. The process calls `ExternalMethod`
with a selector. Selector 1 is licensing: the framework dispatches it to
`StaticHandleLicensing` through entry 1 of `externalMethodChecks`, once the arguments carry the
one scalar input and the one scalar output the entry asks for, and `HandleLicensing` hands
`(bool)scalarInput[0]` to the input interface's `SetEnable` and echoes it in `scalarOutput[0]`.

The framework's dispatcher `IOUserClient::ExternalMethod` is not the driver's code. It is
modelled from its contract: an entry's counts are checked before its function is called, and
what the framework answers by itself (no entry, no function) is the parameter `unsupported`.
Reads and writes of the scalar arrays are checked: `none` is an access outside them.

`externalMethod_eq` says what every call the framework makes answers and does, and that none
reads or writes outside the arrays; `newUserClient_licensing` is the licensing call of a user
client `NewUserClient_Impl` handed out. `lifecycleWithClient_inv` says that a life in which the
process calls the user client between the interface's events is a life of the interface alone,
where each licensing call that reaches `SetEnable` is the event `setEnable` and every other
call is no event, so the loop invariant holds all along such a life.
-/

namespace XboxControllerDriver

/-! ## The framework's side -/

/-- `kIOReturnNotFound`. -/
def kIOReturnNotFound : KernReturn := 0xe00002f0

/-- `kIOUserClientVariableStructureSize`: a count an entry leaves unchecked. -/
def kIOUserClientVariableStructureSize : UInt32 := 0xffffffff

/-- The functions an entry of `externalMethodChecks` can name. -/
inductive IOUserClientMethodFunction
  | staticHandleLicensing
  deriving DecidableEq, Repr

/-- `IOUserClientMethodDispatch`. -/
structure IOUserClientMethodDispatch where
  function : Option IOUserClientMethodFunction
  checkCompletionExists : Bool
  checkScalarInputCount : UInt32
  checkStructureInputSize : UInt32
  checkScalarOutputCount : UInt32
  checkStructureOutputSize : UInt32
  deriving DecidableEq, Repr

/-- `IOUserClientMethodArguments`: whether a completion came with the call, the scalar inputs,
the structure input's size, the scalar output array (`scalarOutputCount` long) and the
structure output's size. -/
structure IOUserClientMethodArguments where
  completion : Bool
  scalarInput : List UInt64
  structureInputSize : Nat
  scalarOutput : List UInt64
  structureOutputSize : Nat
  deriving DecidableEq, Repr

/-- A count an entry fixes must match, unless it is `kIOUserClientVariableStructureSize`. -/
def checkCount (check : UInt32) (n : Nat) : Bool :=
  check = kIOUserClientVariableStructureSize || check.toNat = n

/-- The arguments an entry lets through to its function. -/
def IOUserClientMethodDispatch.accepts (d : IOUserClientMethodDispatch)
    (a : IOUserClientMethodArguments) : Bool :=
  (!d.checkCompletionExists || a.completion) &&
    checkCount d.checkScalarInputCount a.scalarInput.length &&
    checkCount d.checkStructureInputSize a.structureInputSize &&
    checkCount d.checkScalarOutputCount a.scalarOutput.length &&
    checkCount d.checkStructureOutputSize a.structureOutputSize

/-- `scalarOutput[0] = value`. -/
def IOUserClientMethodArguments.setScalarOutput (a : IOUserClientMethodArguments) (value : UInt64) :
    Option IOUserClientMethodArguments :=
  if 0 < a.scalarOutput.length then some { a with scalarOutput := a.scalarOutput.set 0 value }
  else none

/-! ## The user client -/

/-- The user client's ivars: whether `inputInterface` points at the input interface. -/
structure XboxOneUserClient where
  inputInterface : Bool := false
  deriving DecidableEq, Repr

namespace XboxOneUserClient

/-- `init`: the ivars zeroed by `IONewZero`. -/
def init : XboxOneUserClient := {}

/-- `SetInputInterface`: whether `OSDynamicCast` finds an `XboxOneInputInterface`. -/
def setInputInterface (isInputInterface : Bool) (c : XboxOneUserClient) : XboxOneUserClient :=
  { c with inputInterface := isInputInterface }

/-- `ExternalMethodType_Unknown`. -/
def externalMethodTypeUnknown : UInt64 := 0

/-- `ExternalMethodType_Licensing`. -/
def externalMethodTypeLicensing : UInt64 := 1

/-- `kNumberOfExternalMethods`. -/
def kNumberOfExternalMethods : UInt64 := 2

/-- `externalMethodChecks`: entry 0 is not populated, so zero; entry 1 calls
`StaticHandleLicensing` with one scalar in and one scalar out. -/
def externalMethodChecks : List IOUserClientMethodDispatch :=
  [⟨none, false, 0, 0, 0, 0⟩, ⟨some .staticHandleLicensing, false, 1, 0, 1, 0⟩]

/-- `HandleLicensing`. The input interface's `SetEnable` does nothing once its ivars are
deleted. -/
def handleLicensing (c : XboxOneUserClient) (arguments : IOUserClientMethodArguments)
    (s : XboxOneInputInterface) :
    Option (KernReturn × IOUserClientMethodArguments × XboxOneInputInterface) := do
  let ret := kIOReturnSuccess
  let enable := (← arguments.scalarInput[0]?) != 0
  if c.inputInterface then
    let s := if s.phase ≠ .freed then s.setEnable enable else s
    let arguments ← arguments.setScalarOutput (if enable then 1 else 0)
    return (ret, arguments, s)
  else
    let arguments ← arguments.setScalarOutput 0
    return (ret, arguments, s)

/-- `StaticHandleLicensing`. -/
def staticHandleLicensing (target : Option XboxOneUserClient) (arguments : IOUserClientMethodArguments)
    (s : XboxOneInputInterface) :
    Option (KernReturn × IOUserClientMethodArguments × XboxOneInputInterface) :=
  match target with
  | none => some (kIOReturnError, arguments, s)
  | some c => handleLicensing c arguments s

/-- `IOUserClient::ExternalMethod`, from its contract: arguments an entry does not accept get
`kIOReturnBadArgument`, the others go to the entry's function with the target. -/
def superExternalMethod (unsupported : KernReturn) (arguments : IOUserClientMethodArguments)
    (dispatch : Option IOUserClientMethodDispatch) (target : Option XboxOneUserClient)
    (s : XboxOneInputInterface) :
    Option (KernReturn × IOUserClientMethodArguments × XboxOneInputInterface) :=
  match dispatch with
  | none => some (unsupported, arguments, s)
  | some d =>
    if !d.accepts arguments then some (kIOReturnBadArgument, arguments, s) else
    match d.function with
    | none => some (unsupported, arguments, s)
    | some .staticHandleLicensing => staticHandleLicensing target arguments s

/-- `ExternalMethod`. A supported selector takes its entry of `externalMethodChecks` and, with
no target, this user client; a larger one goes to the framework as it came. -/
def externalMethod (unsupported : KernReturn) (selector : UInt64)
    (arguments : IOUserClientMethodArguments) (dispatch : Option IOUserClientMethodDispatch)
    (target : Option XboxOneUserClient) (c : XboxOneUserClient) (s : XboxOneInputInterface) :
    Option (KernReturn × IOUserClientMethodArguments × XboxOneInputInterface) :=
  let ret := kIOReturnNotFound
  if selector > externalMethodTypeUnknown then
    if selector < kNumberOfExternalMethods then
      superExternalMethod unsupported arguments externalMethodChecks[selector.toNat]?
        (some (target.getD c)) s
    else superExternalMethod unsupported arguments dispatch target s
  else some (ret, arguments, s)

end XboxOneUserClient

/-- `NewUserClient_Impl`: `Create` answers `created`, and `OSDynamicCast` finds an
`XboxOneUserClient` in what it made or not. The new user client points at this interface. -/
def XboxOneInputInterface.newUserClient (created : KernReturn) (isUserClient : Bool) :
    KernReturn × Option XboxOneUserClient :=
  let ret := created
  if ret ≠ kIOReturnSuccess then (ret, none) else
  if !isUserClient then (kIOReturnError, none) else
  (ret, some (XboxOneUserClient.init.setInputInterface true))

namespace XboxOneUserClient

open XboxOneInputInterface

/-! ## What a call does -/

/-- The arguments of a licensing call: one scalar in, one scalar out, no structures. -/
def LicensingArguments (a : IOUserClientMethodArguments) : Prop :=
  a.scalarInput.length = 1 ∧ a.structureInputSize = 0 ∧ a.scalarOutput.length = 1 ∧
    a.structureOutputSize = 0

instance (a : IOUserClientMethodArguments) : Decidable (LicensingArguments a) :=
  inferInstanceAs (Decidable (_ ∧ _ ∧ _ ∧ _))

/-- The interface's events a call amounts to: `setEnable` of `(bool)scalarInput[0]` for a
licensing call with its arguments from a user client that points at the interface. -/
def callEvents (c : XboxOneUserClient) (selector : UInt64) (a : IOUserClientMethodArguments) :
    List Event :=
  if selector = externalMethodTypeLicensing ∧ LicensingArguments a ∧ c.inputInterface then
    [.setEnable (a.scalarInput.headD 0 != 0)]
  else []

/-- What a call answers the process: `kIOReturnNotFound` for selector 0; for licensing, success
with `scalarOutput` holding whether the interface was enabled, or `kIOReturnBadArgument`; the
framework's own answer for a larger selector. -/
def callAnswer (unsupported : KernReturn) (c : XboxOneUserClient) (selector : UInt64)
    (a : IOUserClientMethodArguments) : KernReturn × IOUserClientMethodArguments :=
  if selector = externalMethodTypeUnknown then (kIOReturnNotFound, a)
  else if selector = externalMethodTypeLicensing then
    if LicensingArguments a then
      (kIOReturnSuccess,
        { a with scalarOutput := [if c.inputInterface && a.scalarInput.headD 0 != 0 then 1 else 0] })
    else (kIOReturnBadArgument, a)
  else (unsupported, a)

/-- A selector is unknown, licensing, or past `kNumberOfExternalMethods`. -/
theorem selector_cases (x : UInt64) : x = 0 ∨ x = 1 ∨ (0 < x ∧ ¬ x < 2) := by
  have h0 : x = 0 ↔ x.toNat = 0 := ⟨fun h => h ▸ rfl, fun h => UInt64.toNat.inj h⟩
  have h1 : x = 1 ↔ x.toNat = 1 := ⟨fun h => h ▸ rfl, fun h => UInt64.toNat.inj h⟩
  have hl (y : UInt64) : x < y ↔ x.toNat < y.toNat := UInt64.lt_def.trans BitVec.lt_def
  have hr (y : UInt64) : y < x ↔ y.toNat < x.toNat := UInt64.lt_def.trans BitVec.lt_def
  rw [h0, h1, hl, hr]
  show _ ∨ _ ∨ (0 < _ ∧ ¬ _ < 2)
  omega

/-- Entry 1 lets through exactly the arguments of a licensing call, with or without a
completion. -/
theorem accepts_licensing (a : IOUserClientMethodArguments) :
    IOUserClientMethodDispatch.accepts ⟨some .staticHandleLicensing, false, 1, 0, 1, 0⟩ a =
      decide (LicensingArguments a) := by
  simp [IOUserClientMethodDispatch.accepts, checkCount, LicensingArguments,
    kIOUserClientVariableStructureSize, eq_comm, Bool.and_assoc]

/-- `SetEnable` as `HandleLicensing` calls it is the event `setEnable`. -/
theorem setEnable_call (enable : Bool) (s : XboxOneInputInterface) :
    (if s.phase = .freed then s else s.setEnable enable) = run s [.setEnable enable] := by
  by_cases h : s.phase = .freed <;> simp [step, h]

/-- `HandleLicensing` on the arguments of a licensing call. -/
theorem handleLicensing_eq (c : XboxOneUserClient) {a : IOUserClientMethodArguments}
    (ha : LicensingArguments a) (s : XboxOneInputInterface) :
    handleLicensing c a s = some (kIOReturnSuccess,
      { a with scalarOutput := [if c.inputInterface && a.scalarInput.headD 0 != 0 then 1 else 0] },
      run s (if c.inputInterface then [.setEnable (a.scalarInput.headD 0 != 0)] else [])) := by
  obtain ⟨v, hv⟩ := List.length_eq_one.mp ha.1
  obtain ⟨o, ho⟩ := List.length_eq_one.mp ha.2.2.1
  cases c with
  | mk linked =>
    cases linked <;>
      simp [handleLicensing, IOUserClientMethodArguments.setScalarOutput, setEnable_call, hv, ho]

/-- **What a call does.** A call the framework makes, with no entry and no target of its own,
answers `callAnswer`, reads and writes only inside the arguments' arrays, and does to the
interface what the events `callEvents` do. -/
theorem externalMethod_eq (u : KernReturn) (selector : UInt64) (a : IOUserClientMethodArguments)
    (c : XboxOneUserClient) (s : XboxOneInputInterface) :
    externalMethod u selector a none none c s =
      some ((callAnswer u c selector a).1, (callAnswer u c selector a).2,
        run s (callEvents c selector a)) := by
  rcases selector_cases selector with rfl | rfl | ⟨h0, h2⟩
  case inl => rfl
  case inr.inl =>
    by_cases ha : LicensingArguments a <;>
      simp [externalMethod, superExternalMethod, externalMethodChecks, accepts_licensing, ha,
        staticHandleLicensing, handleLicensing_eq c, callAnswer, callEvents, externalMethodTypeUnknown,
        externalMethodTypeLicensing, kNumberOfExternalMethods]
  case inr.inr =>
    have h1 : selector ≠ 1 := fun h => h2 (h ▸ by decide)
    simp [externalMethod, superExternalMethod, externalMethodTypeUnknown, externalMethodTypeLicensing,
      kNumberOfExternalMethods, h0, h2, h1, (UInt64.ne_of_lt h0).symm, callAnswer, callEvents]

/-! ## Lives with a user client -/

/-- What reaches the input interface in a life with a user client: an event of its own, or a
call of the user client's `ExternalMethod`, which the framework makes with no entry and no
target of its own. -/
inductive ClientEvent
  | interface (ev : Event)
  | call (selector : UInt64) (arguments : IOUserClientMethodArguments)

/-- A life of the interface with user client `c`: the events in order, those the framework
cannot deliver skipped, the calls' answers to the process set aside. -/
def runWithClient (unsupported : KernReturn) (c : XboxOneUserClient) :
    XboxOneInputInterface → List ClientEvent → XboxOneInputInterface
  | s, [] => s
  | s, .interface ev :: evs => runWithClient unsupported c ((step s ev).getD s) evs
  | s, .call selector arguments :: evs =>
    runWithClient unsupported c
      (((externalMethod unsupported selector arguments none none c s).map (·.2.2)).getD s) evs

/-- `handleStart` on the zeroed ivars, then a life with user client `c`. -/
def lifecycleWithClient (unsupported : KernReturn) (e : StartEnv) (c : XboxOneUserClient)
    (evs : List ClientEvent) : XboxOneInputInterface :=
  runWithClient unsupported c (handleStart e XboxOneInputInterface.init).2 evs

/-- The interface's own events a `ClientEvent` amounts to. -/
def ClientEvent.events (c : XboxOneUserClient) : ClientEvent → List Event
  | .interface ev => [ev]
  | .call selector arguments => callEvents c selector arguments

/-- A life with a user client is a life of the interface alone, in which each licensing call
that reaches `SetEnable` is the event `setEnable`. -/
theorem runWithClient_eq_run (u : KernReturn) (c : XboxOneUserClient) :
    ∀ (s : XboxOneInputInterface) (evs : List ClientEvent),
      runWithClient u c s evs = run s (evs.flatMap (ClientEvent.events c))
  | _, [] => rfl
  | _, .interface _ :: evs => runWithClient_eq_run u c _ evs
  | s, .call selector a :: evs => by
    rw [runWithClient, externalMethod_eq, List.flatMap_cons, run_append]
    exact runWithClient_eq_run u c _ evs

/-- **The user client cannot break the loop.** Whatever the process calls, with whatever
arguments, between whatever events, the interface lives a life of its own events: a licensing
call from a user client that points at the interface is the event `setEnable` of its
argument, and every other call leaves the interface alone. So the loop invariant holds all
along: at most one receive outstanding, exactly one when the last `AsyncIO` was accepted, and
the outbound packets the start's handshake packets then guide responses, stamped in order. -/
theorem lifecycleWithClient_inv (u : KernReturn) (e : StartEnv) (c : XboxOneUserClient)
    (evs : List ClientEvent) :
    lifecycleWithClient u e c evs = lifecycle e (evs.flatMap (ClientEvent.events c)) ∧
      LoopInv (handshakePackets e) (lifecycleWithClient u e c evs) := by
  have h : lifecycleWithClient u e c evs = lifecycle e (evs.flatMap (ClientEvent.events c)) :=
    runWithClient_eq_run u c _ evs
  exact ⟨h, h ▸ lifecycle_inv e _⟩

/-- `NewUserClient_Impl` hands out a user client only when `Create` made one, and it points at
the interface. -/
theorem newUserClient_inputInterface {created : KernReturn} {isUserClient : Bool}
    {c : XboxOneUserClient} (hc : (XboxOneInputInterface.newUserClient created isUserClient).2 = some c) :
    c.inputInterface = true := by
  simp only [XboxOneInputInterface.newUserClient] at hc
  split_ifs at hc
  cases hc
  rfl

/-- **Licensing through a user client.** A user client that `NewUserClient_Impl` handed out
answers every licensing call with success and `(bool)scalarInput[0]` in `scalarOutput`, and
the call is the interface's event `setEnable` of that value. -/
theorem newUserClient_licensing {created : KernReturn} {isUserClient : Bool}
    {c : XboxOneUserClient} (hc : (XboxOneInputInterface.newUserClient created isUserClient).2 = some c)
    (u : KernReturn) {a : IOUserClientMethodArguments} (ha : LicensingArguments a)
    (s : XboxOneInputInterface) :
    externalMethod u externalMethodTypeLicensing a none none c s =
      some (kIOReturnSuccess, { a with scalarOutput := [if a.scalarInput.headD 0 != 0 then 1 else 0] },
        run s [.setEnable (a.scalarInput.headD 0 != 0)]) := by
  have hl := newUserClient_inputInterface hc
  simp [externalMethod_eq, callAnswer, callEvents, ha, hl, externalMethodTypeLicensing,
    externalMethodTypeUnknown]

/-- `UserClientTester`'s call: selector 1, the one scalar input `true`, an output array of one. -/
def userClientTesterArguments : IOUserClientMethodArguments := ⟨false, [1], 0, [0], 0⟩

theorem newUserClient_licensing_tester :
    (XboxOneInputInterface.newUserClient kIOReturnSuccess true).2 = some ⟨true⟩ ∧
      LicensingArguments userClientTesterArguments ∧
      externalMethod kIOReturnError externalMethodTypeLicensing userClientTesterArguments none none ⟨true⟩
          XboxOneInputInterface.init =
        some (kIOReturnSuccess, { userClientTesterArguments with scalarOutput := [1] },
          run XboxOneInputInterface.init [.setEnable true]) :=
  ⟨rfl, by decide, @newUserClient_licensing kIOReturnSuccess true ⟨true⟩ rfl kIOReturnError _ (by decide) _⟩

end XboxOneUserClient

end XboxControllerDriver
