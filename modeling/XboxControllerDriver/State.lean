import XboxControllerDriver.Packets

/-!
# The input interface's state

`XboxOneInputInterface` is a DriverKit object whose state is `XboxOneInputInterface_IVars`:
the USB interface and its descriptors, the two interrupt pipes (`usb_pipe_data` of
`USBPipeData.h`), the GotData action, the outbound counter and the enable flag.

The model keeps, beside the ivars, what the outside world has been handed by the driver:
the asynchronous receives armed on the inbound pipe and not yet completed, the packets
passed to the outbound pipe's `IO`, the reports passed to `handleReport`, and how far the
object is in its shutdown. Every later theorem is a statement about these. Two projections
split the state: `traffic`, what the transfers change and bring-up leaves alone, and
`pipeConfigs`, what bring-up sets up in the pipes and the transfers leave alone.

USB descriptor helpers (`IOUSBGetEndpointType` and friends) are USBDriverKit's, modelled
from the two endpoint descriptor fields the driver passes them.
-/

namespace XboxControllerDriver

/-! ## Endpoint descriptors -/

/-- `IOUSBEndpointDescriptor`: the fields the driver's helpers read. -/
structure IOUSBEndpointDescriptor where
  bEndpointAddress : UInt8
  bmAttributes : UInt8
  deriving DecidableEq, Repr

/-- `kIOUSBEndpointTypeInterrupt`. -/
def kIOUSBEndpointTypeInterrupt : UInt8 := 3

/-- `kIOUSBEndpointDirectionOut`. -/
def kIOUSBEndpointDirectionOut : UInt8 := 0

/-- `kIOUSBEndpointDirectionIn`. -/
def kIOUSBEndpointDirectionIn : UInt8 := 1

/-- `IOUSBGetEndpointType`: the transfer type, bits 1..0 of `bmAttributes`. -/
def ioUSBGetEndpointType (d : IOUSBEndpointDescriptor) : UInt8 := d.bmAttributes &&& 0x03

/-- `IOUSBGetEndpointDirection`: bit 7 of `bEndpointAddress`. -/
def ioUSBGetEndpointDirection (d : IOUSBEndpointDescriptor) : UInt8 :=
  (d.bEndpointAddress &&& 0x80) >>> 7

/-- `IOUSBGetEndpointAddress`: the endpoint number with its direction bit. -/
def ioUSBGetEndpointAddress (d : IOUSBEndpointDescriptor) : UInt8 := d.bEndpointAddress &&& 0x8F

/-! ## Pipe data -/

/-- `buffer_memory_descriptor`. The mapped `address` is kept as the bytes it points at. -/
structure BufferMemoryDescriptor where
  buffer : Option Nat := none
  address : Memory := fun _ => 0
  length : UInt64 := 0

/-- `usb_pipe_data`. Objects (`pipe`, `buffer`) are handles; `none` is `nullptr`. -/
structure UsbPipeData where
  pipe : Option Nat := none
  speed : UInt8 := 0
  interval : UInt32 := 0
  reportSize : UInt64 := 0
  maxPacketSize : UInt64 := 0
  descriptor : Option IOUSBEndpointDescriptor := none
  memory : BufferMemoryDescriptor := {}

/-- The two pipes: what `&ivars->inPipe` and `&ivars->outPipe` point at. -/
inductive PipeSel
  | inPipe
  | outPipe
  deriving DecidableEq, Repr

/-- The endpoint direction a pipe is for. -/
def PipeSel.direction : PipeSel → UInt8
  | .inPipe => kIOUSBEndpointDirectionIn
  | .outPipe => kIOUSBEndpointDirectionOut

/-- A pipe's configuration: all of `usb_pipe_data` but the bytes its buffer holds, which the
transfers write. -/
structure PipeConfig where
  pipe : Option Nat
  speed : UInt8
  interval : UInt32
  reportSize : UInt64
  maxPacketSize : UInt64
  descriptor : Option IOUSBEndpointDescriptor
  buffer : Option Nat
  length : UInt64
  deriving DecidableEq, Repr

/-- A pipe's configuration. -/
def UsbPipeData.config (p : UsbPipeData) : PipeConfig :=
  ⟨p.pipe, p.speed, p.interval, p.reportSize, p.maxPacketSize, p.descriptor, p.memory.buffer,
    p.memory.length⟩

/-- What `free` leaves of a configuration: no pipe object and no buffer. -/
def PipeConfig.release (c : PipeConfig) : PipeConfig := { c with pipe := none, buffer := none }

/-! ## The object -/

/-- How far `Stop_Impl`, the cancel handler of `gotDataAction` and `free` have taken the
object: running, cancel requested, framework stop done, freed. -/
inductive Phase
  | running
  | cancelling
  | stopped
  | freed
  deriving DecidableEq, Repr

/-- A report handed to `handleReport`: the completion's timestamp and the bytes. -/
structure HidReport where
  timestamp : UInt64
  bytes : List UInt8
  deriving DecidableEq, Repr

/-- `XboxOneInputInterface`: its ivars, and what the driver has handed the transport and
the HID stack. `interfaceDescriptor` holds the endpoint descriptors that follow the
interface descriptor in the configuration descriptor. `pendingReceives` counts the receives
armed on the inbound pipe and not yet completed, `asyncIOResults` the transport's answer to each
`AsyncIO` request, `sent` the packets passed to the outbound pipe's `IO`, `reports` those
passed to `handleReport`. -/
structure XboxOneInputInterface where
  interface : Bool := false
  configurationDescriptor : Bool := false
  interfaceDescriptor : Option (List IOUSBEndpointDescriptor) := none
  inPipe : UsbPipeData := {}
  outPipe : UsbPipeData := {}
  gotDataAction : Bool := false
  outCounter : UInt8 := 0
  enabled : Bool := false
  phase : Phase := .running
  pendingReceives : Nat := 0
  asyncIOResults : List KernReturn := []
  sent : List (List UInt8) := []
  reports : List HidReport := []

namespace XboxOneInputInterface

/-- `init`: the ivars zeroed by `IONewZero`, then `enabled = true`. -/
def init : XboxOneInputInterface := { enabled := true }

/-- The pipe data a selector points at. -/
def pipeData (s : XboxOneInputInterface) : PipeSel → UsbPipeData
  | .inPipe => s.inPipe
  | .outPipe => s.outPipe

/-- Write through a pipe pointer. -/
def setPipeData (s : XboxOneInputInterface) : PipeSel → UsbPipeData → XboxOneInputInterface
  | .inPipe, p => { s with inPipe := p }
  | .outPipe, p => { s with outPipe := p }

@[simp] theorem pipeData_setPipeData_self (s : XboxOneInputInterface) (sel : PipeSel)
    (p : UsbPipeData) : (s.setPipeData sel p).pipeData sel = p := by
  cases sel <;> rfl

@[simp] theorem pipeData_setPipeData_of_ne (s : XboxOneInputInterface) {sel sel' : PipeSel}
    (p : UsbPipeData) (h : sel' ≠ sel) : (s.setPipeData sel p).pipeData sel' = s.pipeData sel' := by
  cases sel <;> cases sel' <;> simp_all [setPipeData, pipeData]

/-- What the interface has exchanged with the transport and the HID stack, and the flags
that govern the exchange: the part of the state the pipe bring-up never touches. -/
structure Traffic where
  outCounter : UInt8
  enabled : Bool
  phase : Phase
  pendingReceives : Nat
  asyncIOResults : List KernReturn
  sent : List (List UInt8)
  reports : List HidReport
  deriving DecidableEq, Repr

/-- The interface's traffic. -/
def traffic (s : XboxOneInputInterface) : Traffic :=
  ⟨s.outCounter, s.enabled, s.phase, s.pendingReceives, s.asyncIOResults, s.sent, s.reports⟩

/-- Both pipes' configurations. -/
def pipeConfigs (s : XboxOneInputInterface) : PipeConfig × PipeConfig :=
  (s.inPipe.config, s.outPipe.config)

@[simp] theorem traffic_setPipeData (s : XboxOneInputInterface) (sel : PipeSel) (p : UsbPipeData) :
    (s.setPipeData sel p).traffic = s.traffic := by
  cases sel <;> rfl

@[simp] theorem pipeData_inPipe (s : XboxOneInputInterface) : s.pipeData .inPipe = s.inPipe := rfl

@[simp] theorem pipeData_outPipe (s : XboxOneInputInterface) : s.pipeData .outPipe = s.outPipe :=
  rfl

end XboxOneInputInterface

end XboxControllerDriver
