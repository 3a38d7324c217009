import XboxControllerDriver.State

/-!
# Moving data over the interrupt pipes

`RequestAsyncInterruptData` arms a receive on the inbound pipe; `SendInterruptData` stamps a
packet with the outbound counter and passes it to the outbound pipe; `GotData_Impl`, run when
the armed receive completes, offers the inbound buffer to `HandleControllerReport` and then to
`HandleGuideReport`, which forward it to `handleReport` and answer a guide report, and it
always arms the next receive.

The transport and the HID stack are arguments: a `Completion` is what the transport delivers,
a `GotDataEnv` what `handleReport`, `IO` and `AsyncIO` answer while it is handled.

`gotDataImpl_eq` says once what a completion does (forward, respond, re-arm), and every
statement about completions is read off it: `completeReceive_reports` is what a completion
forwards to the HID stack and `completeReceive_sent` what it sends to the controller. Neither
looks at how many bytes the completion delivered, only at the header in the buffer.
-/

namespace XboxControllerDriver

/-! ## Headers and the guide response -/

/-- A header announcing a button report: `XBOXONE_IN_BUTTON` with `XBOXONE_BUTTON_REPORT_SIZE`. -/
def XboxoneReportHeader.isButton (h : XboxoneReportHeader) : Prop :=
  h.packetType = xboxoneInButton ∧ h.size = xboxoneButtonReportSize

/-- A header announcing a guide report: `XBOXONE_IN_GUIDE` with `XBOXONE_GUIDE_REPORT_SIZE`. -/
def XboxoneReportHeader.isGuide (h : XboxoneReportHeader) : Prop :=
  h.packetType = xboxoneInGuide ∧ h.size = xboxoneGuideReportSize

instance (h : XboxoneReportHeader) : Decidable h.isButton := inferInstanceAs (Decidable (_ ∧ _))

instance (h : XboxoneReportHeader) : Decidable h.isGuide := inferInstanceAs (Decidable (_ ∧ _))

/-- The response `HandleGuideReport` builds: header `{0x01, 0x20, 0x00, 0x09}`, `constData`
`{0x00, 0x07, 0x20, 0x02}`, zero padding. -/
def guideResponse : XboxoneGuideResponse :=
  ⟨⟨0x01, 0x20, 0x00, 0x09⟩, [0x00, 0x07, 0x20, 0x02], [0, 0, 0, 0, 0], rfl, rfl⟩

/-- The guide response as `IO` is handed it, with the counter `c` in byte 2. -/
@[simp] theorem guideResponse_stamped (c : UInt8) :
    (guideResponse.bytes.take xboxoneGuideResponseSize.toNat).set 2 c =
      [0x01, 0x20, c, 0x09, 0x00, 0x07, 0x20, 0x02, 0x00] := rfl

/-! ## Memory of a send -/

/-- What `IO` is handed after `memcpy` of `size ≤ data.length` bytes and the counter write:
the packet's first `size` bytes with byte 2 replaced. -/
theorem Memory.take_copy_write (m : Memory) (data : List UInt8) {size : Nat}
    (h : size ≤ data.length) (c : UInt8) :
    ((m.copy data size).write 2 c).take size = (data.take size).set 2 c := by
  rw [Memory.take_write, Memory.take_copy m data h]

namespace XboxOneInputInterface

/-! ## Arming a receive and sending a packet -/

/-- `RequestAsyncInterruptData`: `AsyncIO` on the inbound pipe, answered `asyncIOResult`. An accepted
request is an outstanding receive. -/
def requestAsyncInterruptData (asyncIOResult : KernReturn) (s : XboxOneInputInterface) :
    KernReturn × XboxOneInputInterface :=
  let s := { s with asyncIOResults := s.asyncIOResults ++ [asyncIOResult] }
  if asyncIOResult = kIOReturnSuccess then (asyncIOResult, { s with pendingReceives := s.pendingReceives + 1 })
  else (asyncIOResult, s)

/-- What a request does to the state: its answer is logged, and an accepted one is outstanding. -/
theorem requestAsyncInterruptData_snd (asyncIOResult : KernReturn) (s : XboxOneInputInterface) :
    (requestAsyncInterruptData asyncIOResult s).2 = { s with
      asyncIOResults := s.asyncIOResults ++ [asyncIOResult],
      pendingReceives := s.pendingReceives + if asyncIOResult = kIOReturnSuccess then 1 else 0 } := by
  unfold requestAsyncInterruptData
  split <;> simp_all

/-- `SendInterruptData`: refuse a packet longer than the outbound buffer; otherwise copy it into
the buffer, write `outCounter` (then count on) into byte 2, and pass the first `size` bytes
to `IO`, answered `io`. -/
def sendInterruptData (data : List UInt8) (size : UInt8) (io : KernReturn)
    (s : XboxOneInputInterface) : KernReturn × XboxOneInputInterface :=
  if size.toNat > s.outPipe.memory.length.toNat then (kIOReturnBadArgument, s) else
  let address := (s.outPipe.memory.address.copy data size.toNat).write 2 s.outCounter
  let s := { s with
    outPipe := { s.outPipe with memory := { s.outPipe.memory with address } },
    outCounter := s.outCounter + 1 }
  (io, { s with sent := s.sent ++ [address.take size.toNat] })

/-- A refused send passes nothing on and changes nothing. -/
theorem sendInterruptData_of_lt {data : List UInt8} {size : UInt8} (io : KernReturn)
    {s : XboxOneInputInterface} (h : s.outPipe.memory.length.toNat < size.toNat) :
    sendInterruptData data size io s = (kIOReturnBadArgument, s) := by
  simp [sendInterruptData, h]

/-- An accepted send passes the packet with byte 2 stamped, and counts on. -/
theorem sendInterruptData_of_le {data : List UInt8} {size : UInt8} (io : KernReturn)
    {s : XboxOneInputInterface} (h : size.toNat ≤ s.outPipe.memory.length.toNat)
    (hd : size.toNat ≤ data.length) :
    (sendInterruptData data size io s).2 =
      { s with
        outPipe := { s.outPipe with memory := { s.outPipe.memory with
          address := (s.outPipe.memory.address.copy data size.toNat).write 2 s.outCounter } },
        outCounter := s.outCounter + 1,
        sent := s.sent ++ [(data.take size.toNat).set 2 s.outCounter] } := by
  simp [sendInterruptData, Nat.not_lt.mpr h, Memory.take_copy_write _ _ hd]

@[simp] theorem sendInterruptData_reports (data : List UInt8) (size : UInt8) (io : KernReturn)
    (s : XboxOneInputInterface) : (sendInterruptData data size io s).2.reports = s.reports := by
  unfold sendInterruptData; split <;> rfl

@[simp] theorem sendInterruptData_pendingReceives (data : List UInt8) (size : UInt8)
    (io : KernReturn) (s : XboxOneInputInterface) :
    (sendInterruptData data size io s).2.pendingReceives = s.pendingReceives := by
  unfold sendInterruptData; split <;> rfl

@[simp] theorem sendInterruptData_asyncIOResults (data : List UInt8) (size : UInt8) (io : KernReturn)
    (s : XboxOneInputInterface) : (sendInterruptData data size io s).2.asyncIOResults = s.asyncIOResults := by
  unfold sendInterruptData; split <;> rfl

@[simp] theorem sendInterruptData_phase (data : List UInt8) (size : UInt8) (io : KernReturn)
    (s : XboxOneInputInterface) : (sendInterruptData data size io s).2.phase = s.phase := by
  unfold sendInterruptData; split <;> rfl

@[simp] theorem sendInterruptData_gotDataAction (data : List UInt8) (size : UInt8) (io : KernReturn)
    (s : XboxOneInputInterface) :
    (sendInterruptData data size io s).2.gotDataAction = s.gotDataAction := by
  unfold sendInterruptData; split <;> rfl

@[simp] theorem sendInterruptData_enabled (data : List UInt8) (size : UInt8) (io : KernReturn)
    (s : XboxOneInputInterface) : (sendInterruptData data size io s).2.enabled = s.enabled := by
  unfold sendInterruptData; split <;> rfl

@[simp] theorem requestAsyncInterruptData_pipeConfigs (asyncIOResult : KernReturn)
    (s : XboxOneInputInterface) :
    (requestAsyncInterruptData asyncIOResult s).2.pipeConfigs = s.pipeConfigs := by
  rw [requestAsyncInterruptData_snd]; rfl

@[simp] theorem sendInterruptData_pipeConfigs (data : List UInt8) (size : UInt8) (io : KernReturn)
    (s : XboxOneInputInterface) :
    (sendInterruptData data size io s).2.pipeConfigs = s.pipeConfigs := by
  unfold sendInterruptData; split <;> rfl

/-! ## Handling a completion -/

/-- The effect of `handleReport(completionTimestamp, inPipe.memory.buffer, actualByteCount)`:
the buffer's first `actualByteCount` bytes reach the HID stack. -/
def passReport (actualByteCount : UInt32) (completionTimestamp : UInt64)
    (s : XboxOneInputInterface) : XboxOneInputInterface :=
  { s with reports := s.reports ++
    [⟨completionTimestamp, s.inPipe.memory.address.take actualByteCount.toNat⟩] }

@[simp] theorem passReport_sent (actualByteCount : UInt32) (completionTimestamp : UInt64)
    (s : XboxOneInputInterface) : (passReport actualByteCount completionTimestamp s).sent = s.sent :=
  rfl

@[simp] theorem passReport_outCounter (actualByteCount : UInt32) (completionTimestamp : UInt64)
    (s : XboxOneInputInterface) :
    (passReport actualByteCount completionTimestamp s).outCounter = s.outCounter := rfl

@[simp] theorem passReport_outPipe (actualByteCount : UInt32) (completionTimestamp : UInt64)
    (s : XboxOneInputInterface) : (passReport actualByteCount completionTimestamp s).outPipe = s.outPipe :=
  rfl

@[simp] theorem passReport_pendingReceives (actualByteCount : UInt32) (completionTimestamp : UInt64)
    (s : XboxOneInputInterface) :
    (passReport actualByteCount completionTimestamp s).pendingReceives = s.pendingReceives := rfl

@[simp] theorem passReport_asyncIOResults (actualByteCount : UInt32) (completionTimestamp : UInt64)
    (s : XboxOneInputInterface) : (passReport actualByteCount completionTimestamp s).asyncIOResults = s.asyncIOResults :=
  rfl

@[simp] theorem passReport_phase (actualByteCount : UInt32) (completionTimestamp : UInt64)
    (s : XboxOneInputInterface) : (passReport actualByteCount completionTimestamp s).phase = s.phase :=
  rfl

@[simp] theorem passReport_enabled (actualByteCount : UInt32) (completionTimestamp : UInt64)
    (s : XboxOneInputInterface) :
    (passReport actualByteCount completionTimestamp s).enabled = s.enabled := rfl

@[simp] theorem passReport_reports (actualByteCount : UInt32) (completionTimestamp : UInt64)
    (s : XboxOneInputInterface) : (passReport actualByteCount completionTimestamp s).reports =
      s.reports ++ [⟨completionTimestamp, s.inPipe.memory.address.take actualByteCount.toNat⟩] :=
  rfl

/-- `HandleReportGeneric`: when the header at `data` has the expected packet type and size,
pass the report to `handleReport` (answered `handleReport`); handled when it succeeds. -/
def handleReportGeneric (data : Memory) (actualByteCount : UInt32) (completionTimestamp : UInt64)
    (packetType size : UInt8) (handleReport : KernReturn) (s : XboxOneInputInterface) :
    Bool × XboxOneInputInterface :=
  let header := XboxoneReportHeader.read data
  if header.packetType ≠ packetType then (false, s) else
  if header.size ≠ size then (false, s) else
  (handleReport = kIOReturnSuccess, passReport actualByteCount completionTimestamp s)

/-- `HandleControllerReport`. -/
def handleControllerReport (data : Memory) (actualByteCount : UInt32) (completionTimestamp : UInt64)
    (handleReport : KernReturn) (s : XboxOneInputInterface) : Bool × XboxOneInputInterface :=
  handleReportGeneric data actualByteCount completionTimestamp xboxoneInButton
    xboxoneButtonReportSize handleReport s

/-- `HandleGuideReport`: a handled guide report whose header's version is `0x30` is answered
with the guide response, `XBOXONE_GUIDE_RESPONSE_SIZE` bytes of it. -/
def handleGuideReport (data : Memory) (actualByteCount : UInt32) (completionTimestamp : UInt64)
    (handleReport io : KernReturn) (s : XboxOneInputInterface) : Bool × XboxOneInputInterface :=
  let (result, s) := handleReportGeneric data actualByteCount completionTimestamp xboxoneInGuide
    xboxoneGuideReportSize handleReport s
  if result then
    if (XboxoneReportHeader.read data).version = 0x30 then
      (result, (sendInterruptData guideResponse.bytes xboxoneGuideResponseSize io s).2)
    else (result, s)
  else (result, s)

/-- What `handleReport`, `IO` and `AsyncIO` answer while a completion is handled. -/
structure GotDataEnv where
  handleReport : KernReturn
  io : KernReturn
  asyncIOResult : KernReturn
  deriving DecidableEq, Repr

/-- `GotData_Impl`: after a successful completion with the interface enabled, offer the inbound
buffer to `HandleControllerReport`, then to `HandleGuideReport`; in every case arm the next
receive. -/
def gotDataImpl (status : KernReturn) (actualByteCount : UInt32) (completionTimestamp : UInt64)
    (e : GotDataEnv) (s : XboxOneInputInterface) : XboxOneInputInterface :=
  let s :=
    if status ≠ kIOReturnSuccess then s
    else if s.enabled = false then s
    else
      let header := s.inPipe.memory.address
      let (handled, s) := handleControllerReport header actualByteCount completionTimestamp
        e.handleReport s
      if handled then s
      else (handleGuideReport header actualByteCount completionTimestamp e.handleReport e.io s).2
  (requestAsyncInterruptData e.asyncIOResult s).2

theorem handleReportGeneric_eq (data : Memory) (actualByteCount : UInt32)
    (completionTimestamp : UInt64) (packetType size : UInt8) (handleReport : KernReturn)
    (s : XboxOneInputInterface) :
    handleReportGeneric data actualByteCount completionTimestamp packetType size handleReport s =
      if (XboxoneReportHeader.read data).packetType = packetType ∧
          (XboxoneReportHeader.read data).size = size then
        (decide (handleReport = kIOReturnSuccess), passReport actualByteCount completionTimestamp s)
      else (false, s) := by
  unfold handleReportGeneric
  split_ifs <;> simp_all

/-- **What a completion does.** A successful completion, with the interface enabled and a
button or guide header in the buffer, passes the buffer's first `actualByteCount` bytes to
`handleReport`; a guide report the HID stack took, of version `0x30`, is answered with the
guide response; and the next receive is requested. -/
theorem gotDataImpl_eq (status : KernReturn) (actualByteCount : UInt32)
    (completionTimestamp : UInt64) (e : GotDataEnv) (s : XboxOneInputInterface) :
    gotDataImpl status actualByteCount completionTimestamp e s =
      let h := XboxoneReportHeader.read s.inPipe.memory.address
      let ok := status = kIOReturnSuccess ∧ s.enabled = true
      let s₁ := if ok ∧ (h.isButton ∨ h.isGuide) then passReport actualByteCount completionTimestamp s
        else s
      let s₂ := if ok ∧ h.isGuide ∧ e.handleReport = kIOReturnSuccess ∧ h.version = 0x30 then
          (sendInterruptData guideResponse.bytes xboxoneGuideResponseSize e.io s₁).2
        else s₁
      (requestAsyncInterruptData e.asyncIOResult s₂).2 := by
  have hne : xboxoneInButton ≠ xboxoneInGuide := by decide
  unfold gotDataImpl handleGuideReport handleControllerReport
  simp only [handleReportGeneric_eq, XboxoneReportHeader.isButton, XboxoneReportHeader.isGuide]
  generalize XboxoneReportHeader.read s.inPipe.memory.address = h
  by_cases hok : status = kIOReturnSuccess ∧ s.enabled = true
  · obtain ⟨hs, he⟩ := hok
    by_cases hb : h.packetType = xboxoneInButton ∧ h.size = xboxoneButtonReportSize
    · have hg : h.packetType ≠ xboxoneInGuide := hb.1 ▸ hne
      by_cases hr : e.handleReport = kIOReturnSuccess <;> simp [hs, he, hb, hg, hr, hne, hne.symm]
    · by_cases hg : h.packetType = xboxoneInGuide ∧ h.size = xboxoneGuideReportSize
      · by_cases hr : e.handleReport = kIOReturnSuccess <;>
          simp [hs, he, hb, hg, hr, hne, hne.symm, apply_ite Prod.snd]
      · simp [hs, he, hb, hg, hne, hne.symm]
  · simp only [hok, false_and, if_false]
    rcases not_and_or.mp hok with hs | he
    · simp [hs]
    · simp [he]

/-- What `GotData_Impl` hands the HID stack: the buffer's first `actualByteCount` bytes, for a
successful completion with the interface enabled and a button or guide header in the buffer. -/
theorem gotDataImpl_reports (status : KernReturn) (actualByteCount : UInt32)
    (completionTimestamp : UInt64) (e : GotDataEnv) (s : XboxOneInputInterface) :
    (gotDataImpl status actualByteCount completionTimestamp e s).reports = s.reports ++
      let h := XboxoneReportHeader.read s.inPipe.memory.address
      if status = kIOReturnSuccess ∧ s.enabled = true ∧ (h.isButton ∨ h.isGuide) then
        [⟨completionTimestamp, s.inPipe.memory.address.take actualByteCount.toNat⟩]
      else [] := by
  rw [gotDataImpl_eq]
  simp only [requestAsyncInterruptData_snd, apply_ite XboxOneInputInterface.reports,
    sendInterruptData_reports, ite_self, passReport_reports, and_assoc]
  split_ifs <;> simp

/-! ## The completion of an armed receive -/

/-- A completion of the armed receive: its status, the `actualByteCount` bytes the transfer
wrote at the start of the inbound buffer, and its timestamp. -/
structure Completion where
  status : KernReturn
  actualByteCount : UInt32
  received : List UInt8
  received_length : received.length = actualByteCount.toNat
  completionTimestamp : UInt64

/-- The state `GotData_Impl` runs in: the received bytes are in the inbound buffer, over what
earlier transfers left there, and the receive is no longer outstanding. -/
def deliver (c : Completion) (s : XboxOneInputInterface) : XboxOneInputInterface :=
  { s with
    inPipe := { s.inPipe with memory := { s.inPipe.memory with
      address := s.inPipe.memory.address.copy c.received c.actualByteCount.toNat } },
    pendingReceives := s.pendingReceives - 1 }

/-- The armed receive completing: the transport delivers, then `GotData_Impl` runs. -/
def completeReceive (c : Completion) (e : GotDataEnv) (s : XboxOneInputInterface) :
    XboxOneInputInterface :=
  gotDataImpl c.status c.actualByteCount c.completionTimestamp e (deliver c s)

@[simp] theorem deliver_enabled (c : Completion) (s : XboxOneInputInterface) :
    (deliver c s).enabled = s.enabled := rfl

@[simp] theorem deliver_reports (c : Completion) (s : XboxOneInputInterface) :
    (deliver c s).reports = s.reports := rfl

@[simp] theorem deliver_sent (c : Completion) (s : XboxOneInputInterface) :
    (deliver c s).sent = s.sent := rfl

@[simp] theorem deliver_outCounter (c : Completion) (s : XboxOneInputInterface) :
    (deliver c s).outCounter = s.outCounter := rfl

@[simp] theorem deliver_outPipe (c : Completion) (s : XboxOneInputInterface) :
    (deliver c s).outPipe = s.outPipe := rfl

@[simp] theorem deliver_pendingReceives (c : Completion) (s : XboxOneInputInterface) :
    (deliver c s).pendingReceives = s.pendingReceives - 1 := rfl

@[simp] theorem deliver_asyncIOResults (c : Completion) (s : XboxOneInputInterface) :
    (deliver c s).asyncIOResults = s.asyncIOResults := rfl

@[simp] theorem deliver_phase (c : Completion) (s : XboxOneInputInterface) :
    (deliver c s).phase = s.phase := rfl

/-- The buffer's first `actualByteCount` bytes after a delivery are the received bytes. -/
theorem deliver_take (c : Completion) (s : XboxOneInputInterface) :
    (deliver c s).inPipe.memory.address.take c.actualByteCount.toNat = c.received := by
  simp only [deliver]
  rw [Memory.take_copy _ _ c.received_length.ge, ← c.received_length, List.take_length]

/-- A completion ends one receive, and its `AsyncIO` answer decides whether another is
outstanding; it leaves the phase and the enable flag alone. -/
theorem completeReceive_receives (c : Completion) (e : GotDataEnv) (s : XboxOneInputInterface) :
    (completeReceive c e s).pendingReceives =
        s.pendingReceives - 1 + (if e.asyncIOResult = kIOReturnSuccess then 1 else 0) ∧
      (completeReceive c e s).asyncIOResults = s.asyncIOResults ++ [e.asyncIOResult] ∧
      (completeReceive c e s).phase = s.phase ∧ (completeReceive c e s).enabled = s.enabled := by
  rw [completeReceive, gotDataImpl_eq]
  simp only [requestAsyncInterruptData_snd]
  split_ifs <;> simp

/-! ## What a completion forwards and sends -/

/-- **What a completion forwards.** Whatever the interface's state, a completion passes at most
one report to `handleReport`: one exactly when its status is success, the interface is enabled,
and the header bytes `b[0]`, `b[3]` in the inbound buffer after the transfer are a button or a
guide report's type and size; the report is the bytes the completion delivered. The byte count
is not compared with the header, so a short transfer is classified by whatever header an
earlier one left in the buffer. -/
theorem completeReceive_reports (c : Completion) (e : GotDataEnv) (s : XboxOneInputInterface) :
    (completeReceive c e s).reports = s.reports ++
      let b := (deliver c s).inPipe.memory.address
      if c.status = kIOReturnSuccess ∧ s.enabled = true ∧
          (b 0 = xboxoneInButton ∧ b 3 = xboxoneButtonReportSize ∨
            b 0 = xboxoneInGuide ∧ b 3 = xboxoneGuideReportSize) then
        [⟨c.completionTimestamp, c.received⟩]
      else [] := by
  rw [completeReceive, gotDataImpl_reports]
  simp only [deliver_take, deliver_reports, deliver_enabled, XboxoneReportHeader.isButton,
    XboxoneReportHeader.isGuide, XboxoneReportHeader.read]

/-- An enabled interface whose inbound buffer still holds a button report's header. -/
def staleButtonHeader : XboxOneInputInterface :=
  { init with inPipe := { memory := { address := Memory.ofList [0x20, 0x00, 0x05, 0x0e], length := 64 } } }

/-- A successful completion that delivered no bytes. -/
def emptyCompletion : Completion := ⟨kIOReturnSuccess, 0, [], rfl, 7⟩

/-- A completion of no bytes, with a stale button header in the buffer, is forwarded as a report
although it is not `XBOXONE_REPORT_HEADER_SIZE + b[3]` bytes long. -/
theorem completeReceive_forwards_empty_completion :
    emptyCompletion.actualByteCount.toNat ≠
        xboxoneReportHeaderSize.toNat + xboxoneButtonReportSize.toNat ∧
      (completeReceive emptyCompletion ⟨kIOReturnSuccess, kIOReturnSuccess, kIOReturnSuccess⟩
        staleButtonHeader).reports = [⟨7, []⟩] := by decide

/-- **What a completion sends.** A completion passes one packet to the outbound pipe exactly when
its status is success, the interface is enabled, the buffer holds a guide header of version
`0x30`, `handleReport` accepted the report, and the outbound buffer holds
`XBOXONE_GUIDE_RESPONSE_SIZE` bytes; the packet is the guide response's first nine bytes with
the counter in byte 2, and the counter moves on. -/
theorem completeReceive_sent (c : Completion) (e : GotDataEnv) (s : XboxOneInputInterface) :
    ((completeReceive c e s).sent, (completeReceive c e s).outCounter) =
      let b := (deliver c s).inPipe.memory.address
      if c.status = kIOReturnSuccess ∧ s.enabled = true ∧ b 0 = xboxoneInGuide ∧
          b 3 = xboxoneGuideReportSize ∧ e.handleReport = kIOReturnSuccess ∧ b 1 = 0x30 ∧
          xboxoneGuideResponseSize.toNat ≤ s.outPipe.memory.length.toNat then
        (s.sent ++ [[0x01, 0x20, s.outCounter, 0x09, 0x00, 0x07, 0x20, 0x02, 0x00]], s.outCounter + 1)
      else (s.sent, s.outCounter) := by
  have hd : xboxoneGuideResponseSize.toNat ≤ guideResponse.bytes.length := by decide
  rw [completeReceive, gotDataImpl_eq]
  simp only [requestAsyncInterruptData_snd]
  split_ifs <;> simp_all [sendInterruptData_of_le, sendInterruptData_of_lt,
    XboxoneReportHeader.isButton, XboxoneReportHeader.isGuide, XboxoneReportHeader.read]

/-- A completion hands the HID stack its own bytes, or nothing. -/
theorem completeReceive_reports_sublist (c : Completion) (e : GotDataEnv) (s : XboxOneInputInterface) :
    ∃ l, (completeReceive c e s).reports = s.reports ++ l ∧
      l.Sublist [⟨c.completionTimestamp, c.received⟩] := by
  rw [completeReceive, gotDataImpl_reports, deliver_take, deliver_reports]
  refine ⟨_, rfl, ?_⟩
  dsimp only
  split
  · exact .refl _
  · exact List.nil_sublist _

/-- A completion hands the outbound pipe a packet only when it hands the HID stack a report. -/
theorem completeReceive_sent_le_reports (c : Completion) (e : GotDataEnv) (s : XboxOneInputInterface) :
    (completeReceive c e s).sent.length + s.reports.length ≤
      s.sent.length + (completeReceive c e s).reports.length := by
  have hs := congrArg Prod.fst (completeReceive_sent c e s)
  simp only [apply_ite Prod.fst] at hs
  rw [hs, completeReceive, gotDataImpl_reports]
  simp only [XboxoneReportHeader.isGuide, XboxoneReportHeader.read, deliver_enabled,
    deliver_reports]
  split_ifs with h₁ h₂ h₂
  · simp only [List.length_append, List.length_singleton]; omega
  · exact absurd ⟨h₁.1, h₁.2.1, .inr ⟨h₁.2.2.1, h₁.2.2.2.1⟩⟩ h₂
  all_goals simp only [List.length_append, List.length_singleton, List.length_nil]; omega

/-- An enabled interface with a 64-byte outbound buffer and the counter at 0. -/
def guideReady : XboxOneInputInterface := { init with outPipe := { memory := { length := 64 } } }

/-- A complete guide report of version `0x30`: the guide button pressed. -/
def guidePressed : Completion := ⟨kIOReturnSuccess, 6, [0x07, 0x30, 0x00, 0x02, 0x01, 0x00], rfl, 0⟩

/-- The guide response is 13 bytes, but a complete guide report of version `0x30` is answered
with its first nine only, and not at all when `handleReport` refuses the report. -/
theorem completeReceive_truncates_guide_response :
    guideResponse.bytes.length = 13 ∧
      (completeReceive guidePressed ⟨kIOReturnSuccess, kIOReturnSuccess, kIOReturnSuccess⟩
        guideReady).sent = [[0x01, 0x20, 0x00, 0x09, 0x00, 0x07, 0x20, 0x02, 0x00]] ∧
      (completeReceive guidePressed ⟨kIOReturnError, kIOReturnSuccess, kIOReturnSuccess⟩
        guideReady).sent = [] := by decide

end XboxOneInputInterface

end XboxControllerDriver
