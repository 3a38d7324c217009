import XboxControllerDriver.Lifecycle

/-!
# The pipes' configuration over a life

`handleStart` configures both interrupt pipes: `InitPipes` finds a pipe object for an
interrupt endpoint of each direction, and `SetupPipe` reads each pipe's interval and maximum
packet size and maps it a buffer. After that the driver only moves bytes through the
buffers. This module says so for every life:

* `run_pipeConfigs`: no event changes a pipe's configuration, except `free`, which releases
  exactly the pipe objects and the buffers;
* `lifecycle_pipes_ready`: after a bring-up that succeeded, both pipes stay ready until the
  interface is freed;
* `lifecycle_reportSize`: `SetupPipes` stores the maximum output report size in the inbound
  pipe's `reportSize`, over the maximum input report size it stored there first, and never
  writes the outbound pipe's; neither changes for the rest of the life;
* `lifecycle_sent_fits`: in every life, every packet handed to the outbound pipe's `IO` fits
  in the outbound buffer;
* `lifecycle_handshake_sent`: when that buffer holds a handshake packet, the controller is
  handed the init and swap-to-wired packets, counters 0 and 1, before anything else.
-/

namespace XboxControllerDriver

/-! ## What bring-up sets up -/

/-- What `InitPipes` leaves in a pipe: a pipe object, for an interrupt endpoint of the pipe's
direction. -/
def PipeConfig.Found (sel : PipeSel) (c : PipeConfig) : Prop :=
  c.pipe.isSome ∧ c.descriptor.bind XboxOneInputInterface.scanPipe? = some sel

instance (sel : PipeSel) (c : PipeConfig) : Decidable (c.Found sel) :=
  inferInstanceAs (Decidable (_ ∧ _))

/-- What `SetupPipe` leaves in a pipe: a nonzero interval and maximum packet size, and a
buffer. -/
def PipeConfig.SetUp (c : PipeConfig) : Prop :=
  c.interval ≠ 0 ∧ c.maxPacketSize ≠ 0 ∧ c.buffer.isSome

instance (c : PipeConfig) : Decidable c.SetUp := inferInstanceAs (Decidable (_ ∧ _ ∧ _))

/-- A pipe as a successful bring-up leaves it. -/
def PipeConfig.Ready (sel : PipeSel) (c : PipeConfig) : Prop := c.Found sel ∧ c.SetUp

instance (sel : PipeSel) (c : PipeConfig) : Decidable (c.Ready sel) :=
  inferInstanceAs (Decidable (_ ∧ _))

namespace XboxOneInputInterface

/-- Both pipes ready. -/
def PipesReady (s : XboxOneInputInterface) : Prop :=
  s.pipeConfigs.1.Ready .inPipe ∧ s.pipeConfigs.2.Ready .outPipe

instance (s : XboxOneInputInterface) : Decidable s.PipesReady :=
  inferInstanceAs (Decidable (_ ∧ _))

theorem PipesReady.congr {s t : XboxOneInputInterface} (h : s.PipesReady)
    (hc : t.pipeConfigs = s.pipeConfigs) : t.PipesReady := by
  rwa [PipesReady, hc]

/-- A successful scan from pipes not yet copied finds both. -/
theorem initPipes_found {copyPipe : List (Option Nat)} {s : XboxOneInputInterface}
    (hin : s.inPipe.pipe = none) (hout : s.outPipe.pipe = none)
    (hok : (initPipes copyPipe s).1 = true) (sel : PipeSel) :
    ((initPipes copyPipe s).2.1.pipeData sel).config.Found sel := by
  obtain ⟨hinv, hi, ho⟩ := ScanInv.loop copyPipe _ (ScanInv.start s hin hout) hok
  have hset : ((initPipes copyPipe s).2.1.pipeData sel).pipe.isSome := by
    cases sel <;> assumption
  obtain ⟨c, hc⟩ := Option.ne_none_iff_exists'.mp
    (hinv.copied sel (Option.isSome_iff_ne_none.mp hset))
  obtain ⟨-, d, hd, -, hscan⟩ := hinv.last sel c hc
  exact ⟨hset, by simp [UsbPipeData.config, initPipes, hd, hscan]⟩

/-- A successful `SetupPipe` sets its pipe up and writes nothing else: not the other pipe, and
not its own pipe object, descriptor or report size. -/
theorem setupPipe_ok {sel : PipeSel} {e : PipeSetupEnv} {s : XboxOneInputInterface}
    (h : (setupPipe sel e s).1 = true) :
    ((setupPipe sel e s).2.pipeData sel).config.SetUp ∧
      ((setupPipe sel e s).2.pipeData sel).pipe = (s.pipeData sel).pipe ∧
      ((setupPipe sel e s).2.pipeData sel).descriptor = (s.pipeData sel).descriptor ∧
      ((setupPipe sel e s).2.pipeData sel).reportSize = (s.pipeData sel).reportSize ∧
      ∀ sel', sel' ≠ sel → (setupPipe sel e s).2.pipeData sel' = s.pipeData sel' := by
  obtain ⟨_, _, _, _, -, hi, hm, -, -, hs⟩ := setupPipe_eq_true h
  rw [hs]
  exact ⟨by simp [PipeConfig.SetUp, UsbPipeData.config, hi, hm], by simp, by simp, by simp,
    fun _ h' => by simp [h']⟩

/-- **What a successful `SetupPipes` sets up.** Both pipes the scan found are ready. The
inbound pipe's `reportSize` ends with the maximum output report size, and the outbound
pipe's is not written. -/
theorem setupPipes_ready {e : PipesEnv} {s : XboxOneInputInterface}
    (hf : ∀ sel, (s.pipeData sel).config.Found sel) (h : (setupPipes e s).1 = true) :
    (setupPipes e s).2.PipesReady ∧
      (setupPipes e s).2.inPipe.reportSize = e.maxOutputReportSize ∧
      (setupPipes e s).2.outPipe.reportSize = s.outPipe.reportSize := by
  unfold setupPipes at h ⊢
  split_ifs at h ⊢
  rcases h₁ : setupPipe .inPipe e.inSetup s with ⟨_ | _, s₁⟩ <;>
    simp only [h₁, Bool.not_true, Bool.not_false, Bool.false_eq_true, ↓reduceIte] at h ⊢
  obtain ⟨hu₁, hp₁, hd₁, -, ho₁⟩ := h₁ ▸ setupPipe_ok (congrArg Prod.fst h₁)
  rcases h₂ : setupPipe .outPipe e.outSetup
      { s₁ with inPipe := { s₁.inPipe with reportSize := e.maxInputReportSize } } with
    ⟨_ | _, s₃⟩ <;>
    simp only [h₂, Bool.not_true, Bool.not_false, Bool.false_eq_true, ↓reduceIte] at h ⊢
  obtain ⟨hu₂, hp₂, hd₂, hr₂, ho₂⟩ := h₂ ▸ setupPipe_ok (congrArg Prod.fst h₂)
  have hi : s₃.inPipe = { s₁.inPipe with reportSize := e.maxInputReportSize } :=
    ho₂ .inPipe (by decide)
  have hu : s₁.outPipe = s.outPipe := ho₁ .outPipe (by decide)
  simp only [pipeData_inPipe, pipeData_outPipe] at hu₁ hp₁ hd₁ hu₂ hp₂ hd₂ hr₂
  refine ⟨⟨⟨?_, ?_⟩, ?_, ?_⟩, trivial, hr₂.trans (congrArg _ hu)⟩
  · simpa only [PipeConfig.Found, UsbPipeData.config, pipeConfigs, hi, hp₁, hd₁,
      pipeData_inPipe] using hf .inPipe
  · simpa only [PipeConfig.SetUp, UsbPipeData.config, pipeConfigs, hi] using hu₁
  · simpa only [PipeConfig.Found, UsbPipeData.config, pipeConfigs, hp₂, hd₂, hu,
      pipeData_outPipe] using hf .outPipe
  · exact hu₂

/-! ## What the transfers leave alone -/

@[simp] theorem passReport_pipeConfigs (actualByteCount : UInt32) (completionTimestamp : UInt64)
    (s : XboxOneInputInterface) :
    (passReport actualByteCount completionTimestamp s).pipeConfigs = s.pipeConfigs := rfl

@[simp] theorem deliver_pipeConfigs (c : Completion) (s : XboxOneInputInterface) :
    (deliver c s).pipeConfigs = s.pipeConfigs := rfl

/-- A completion moves bytes through the buffers and configures nothing. -/
theorem completeReceive_pipeConfigs (c : Completion) (e : GotDataEnv) (s : XboxOneInputInterface) :
    (completeReceive c e s).pipeConfigs = s.pipeConfigs := by
  rw [completeReceive, gotDataImpl_eq]
  simp only [requestAsyncInterruptData_pipeConfigs, apply_ite pipeConfigs,
    sendInterruptData_pipeConfigs, passReport_pipeConfigs, deliver_pipeConfigs, ite_self]

/-- The scan writes no report size. -/
theorem initPipes_reportSize (copyPipe : List (Option Nat)) (s : XboxOneInputInterface) :
    (initPipes copyPipe s).2.1.outPipe.reportSize = s.outPipe.reportSize :=
  initPipesLoop_preserves (fun t => t.outPipe.reportSize = s.outPipe.reportSize)
    (fun _ sel _ h => by cases sel <;> exact h) (fun _ sel _ h => by cases sel <;> exact h)
    s copyPipe _ rfl

/-- **What a successful `handleStart` sets up.** From pipes not yet copied, both pipes are
ready; the inbound pipe's `reportSize` holds the maximum output report size, and the
outbound pipe's is as it was. -/
theorem handleStart_ready {e : StartEnv} {s : XboxOneInputInterface} (hin : s.inPipe.pipe = none)
    (hout : s.outPipe.pipe = none) (h : (handleStart e s).1 = true) :
    (handleStart e s).2.PipesReady ∧
      (handleStart e s).2.inPipe.reportSize = e.pipes.maxOutputReportSize ∧
      (handleStart e s).2.outPipe.reportSize = s.outPipe.reportSize := by
  by_cases h0 : e.superHandleStart = true
  swap; · simp [handleStart, h0] at h
  unfold handleStart at h ⊢
  rcases h₁ : initDescriptors e.descriptors s with ⟨_ | _, s₁⟩ <;>
    simp only [h0, h₁, Bool.not_true, Bool.not_false, Bool.false_eq_true, ↓reduceIte] at h ⊢
  rcases h₂ : initPipes e.copyPipe s₁ with ⟨_ | _, s₂, calls⟩ <;>
    simp only [h₂, Bool.not_true, Bool.not_false, Bool.false_eq_true, ↓reduceIte] at h ⊢
  rcases h₃ : setupPipes e.pipes s₂ with ⟨_ | _, s₃⟩ <;>
    simp only [h₃, Bool.not_true, Bool.not_false, Bool.false_eq_true, ↓reduceIte] at h ⊢
  by_cases ha : e.createActionGotData = kIOReturnSuccess
  swap; · simp [ha] at h
  simp only [ha, ne_eq, not_true_eq_false, ↓reduceIte]
  have hi₁ := initDescriptors_inPipe e.descriptors s
  have ho₁ := initDescriptors_outPipe e.descriptors s
  rw [h₁] at hi₁ ho₁
  have hf := initPipes_found ((congrArg UsbPipeData.pipe hi₁).trans hin)
    ((congrArg UsbPipeData.pipe ho₁).trans hout) (by rw [h₂])
  have hr₂ := initPipes_reportSize e.copyPipe s₁
  rw [h₂] at hf hr₂
  obtain ⟨hr, hri, hro⟩ := setupPipes_ready hf (by rw [h₃])
  rw [h₃] at hr hri hro
  have hc := handshake_pipeConfigs e { s₃ with gotDataAction := true }
  refine ⟨hr.congr hc, (congrArg (·.1.reportSize) hc).trans hri, ?_⟩
  calc _ = s₃.outPipe.reportSize := congrArg (·.2.reportSize) hc
    _ = s₂.outPipe.reportSize := hro
    _ = s₁.outPipe.reportSize := hr₂
    _ = s.outPipe.reportSize := congrArg UsbPipeData.reportSize ho₁

/-! ## Over a run -/

/-- Nothing reaches a freed interface. -/
theorem step_of_freed {s : XboxOneInputInterface} (h : s.phase = .freed) (ev : Event) :
    step s ev = none := by
  cases ev <;> simp [step, h]

theorem run_of_freed {s : XboxOneInputInterface} (h : s.phase = .freed) (evs : List Event) :
    run s evs = s := by
  induction evs with
  | nil => rfl
  | cons ev evs ih => rw [run_cons, step_of_freed h, Option.getD_none, ih]

/-- **What one event does to the pipes' configuration**: nothing, except `free`, which leaves
the interface freed with its pipe objects and buffers released. -/
theorem step_pipeConfigs {s s' : XboxOneInputInterface} {ev : Event} (hs : step s ev = some s') :
    s'.pipeConfigs =
      if s'.phase = .freed then s.pipeConfigs.map PipeConfig.release PipeConfig.release
      else s.pipeConfigs := by
  cases ev <;> simp only [step, Option.ite_none_right_eq_some, Option.some.injEq] at hs <;>
    obtain ⟨h, rfl⟩ := hs
  case gotData c e =>
    rw [(completeReceive_receives c e s).2.2.1, completeReceive_pipeConfigs]
    rcases h.2 with h | h <;> simp [h]
  case setEnable => simp only [setEnable, h, ↓reduceIte]; rfl
  case stop => unfold stopImpl; split <;> rfl
  all_goals rfl

/-- **The pipes over a run.** From any state, whatever the transport, the HID stack and the
framework answer, no event changes either pipe's configuration, except `free`: a run that
frees the interface ends with exactly the pipe objects and the buffers released. -/
theorem run_pipeConfigs (s : XboxOneInputInterface) (evs : List Event) :
    (run s evs).pipeConfigs =
      if s.phase ≠ .freed ∧ (run s evs).phase = .freed then
        s.pipeConfigs.map PipeConfig.release PipeConfig.release
      else s.pipeConfigs := by
  induction evs generalizing s with
  | nil => simp
  | cons ev evs ih =>
    rw [run_cons]
    cases hs : step s ev with
    | none => exact ih s
    | some s' =>
      have hfree : s.phase ≠ .freed := fun h => by simp [step_of_freed h] at hs
      rw [Option.getD_some, ih s', step_pipeConfigs hs]
      by_cases h' : s'.phase = .freed
      · simp [h', run_of_freed h', hfree]
      · simp [h', hfree]

/-- **Pipes over a life.** After a bring-up that succeeded, for every run, both pipes stay as
bring-up left them until the interface is freed: a pipe object for an interrupt endpoint of
the pipe's direction, a nonzero interval and maximum packet size, and a buffer. -/
theorem lifecycle_pipes_ready (e : StartEnv) (evs : List Event)
    (h : (handleStart e init).1 = true) (hf : (lifecycle e evs).phase ≠ .freed) :
    (lifecycle e evs).PipesReady := by
  refine (run_preserves (fun t => t.phase = .freed ∨ t.PipesReady) (fun t ev t' ht hs => ?_)
    evs _ (.inr (handleStart_ready rfl rfl h).1)).resolve_left hf
  have hpc := step_pipeConfigs hs
  split at hpc
  · exact .inl ‹_›
  · have ht' : t.phase ≠ .freed := fun h => by simp [step_of_freed h] at hs
    exact .inr ((ht.resolve_left ht').congr hpc)

theorem lifecycle_pipes_ready_controller :
    (handleStart (controllerStart kIOReturnSuccess) init).1 = true ∧
      (lifecycle (controllerStart kIOReturnSuccess)
        [.stop kIOReturnSuccess, .cancelHandler]).phase ≠ .freed ∧
      (lifecycle (controllerStart kIOReturnSuccess)
        [.stop kIOReturnSuccess, .cancelHandler]).PipesReady :=
  ⟨by decide, by decide, lifecycle_pipes_ready _ _ (by decide) (by decide)⟩

/-- One event writes no report size. -/
theorem step_reportSize {s s' : XboxOneInputInterface} {ev : Event} (hs : step s ev = some s') :
    s'.inPipe.reportSize = s.inPipe.reportSize ∧
      s'.outPipe.reportSize = s.outPipe.reportSize := by
  have h := congrArg (fun c : PipeConfig × PipeConfig => (c.1.reportSize, c.2.reportSize))
    (step_pipeConfigs hs)
  split at h <;> exact Prod.mk.inj h

/-- **Report sizes over a life.** After a bring-up that succeeded, for every run, the inbound
pipe's `reportSize` holds the maximum output report size and the outbound pipe's is zero:
`SetupPipes` writes the maximum input report size into the inbound pipe, then overwrites it
with the maximum output report size, and nothing writes the outbound pipe's. -/
theorem lifecycle_reportSize (e : StartEnv) (evs : List Event)
    (h : (handleStart e init).1 = true) :
    (lifecycle e evs).inPipe.reportSize = e.pipes.maxOutputReportSize ∧
      (lifecycle e evs).outPipe.reportSize = 0 := by
  obtain ⟨-, hi, ho⟩ := handleStart_ready rfl rfl h
  refine run_preserves (fun t => t.inPipe.reportSize = e.pipes.maxOutputReportSize ∧
    t.outPipe.reportSize = 0) (fun t ev t' ht hs => ?_) evs _ ⟨hi, ho⟩
  obtain ⟨h₁, h₂⟩ := step_reportSize hs
  exact ⟨h₁.trans ht.1, h₂.trans ht.2⟩

theorem lifecycle_reportSize_controller :
    (handleStart (controllerStart kIOReturnSuccess) init).1 = true ∧
      (lifecycle (controllerStart kIOReturnSuccess) [.setEnable false]).inPipe.reportSize =
        (controllerStart kIOReturnSuccess).pipes.maxOutputReportSize ∧
      (lifecycle (controllerStart kIOReturnSuccess) [.setEnable false]).outPipe.reportSize = 0 :=
  ⟨by decide, lifecycle_reportSize _ _ (by decide)⟩

/-! ## The outbound pipe -/

/-- Every packet handed to the outbound pipe fits in its buffer. -/
def SentFits (s : XboxOneInputInterface) : Prop :=
  ∀ p ∈ s.sent, p.length ≤ s.outPipe.memory.length.toNat

theorem SentFits.of_sent_eq_nil {s : XboxOneInputInterface} (h : s.sent = []) : s.SentFits := by
  intro p hp
  simp [h] at hp

/-- A send checks the packet against the buffer, so what it hands over fits. -/
theorem SentFits.send {s : XboxOneInputInterface} (h : s.SentFits) (data : List UInt8)
    (size : UInt8) (io : KernReturn) : (sendInterruptData data size io s).2.SentFits := by
  unfold sendInterruptData
  split
  · exact h
  · next hl =>
    intro p hp
    dsimp only at hp ⊢
    rcases List.mem_append.mp hp with hp | hp
    · exact h p hp
    · rw [List.mem_singleton.mp hp, Memory.length_take]; omega

/-- Arming a receive sends nothing. -/
theorem SentFits.requestAsyncInterruptData {s : XboxOneInputInterface} (h : s.SentFits)
    (asyncIOResult : KernReturn) : (requestAsyncInterruptData asyncIOResult s).2.SentFits := by
  rw [requestAsyncInterruptData_snd]; exact h

/-- A completion sends at most a guide response, through `SendInterruptData`. -/
theorem SentFits.completeReceive {s : XboxOneInputInterface} (h : s.SentFits) (c : Completion)
    (e : GotDataEnv) : (completeReceive c e s).SentFits := by
  rw [XboxOneInputInterface.completeReceive, gotDataImpl_eq]
  dsimp only
  refine SentFits.requestAsyncInterruptData ?_ _
  have hd : (deliver c s).SentFits := h
  have hp : (passReport c.actualByteCount c.completionTimestamp (deliver c s)).SentFits := h
  split_ifs
  · exact hp.send _ _ _
  · exact hd.send _ _ _
  · exact hp
  · exact hd

/-- One event writes no buffer length. -/
theorem step_outLength {s s' : XboxOneInputInterface} {ev : Event} (hs : step s ev = some s') :
    s'.outPipe.memory.length = s.outPipe.memory.length := by
  have h := congrArg (fun c : PipeConfig × PipeConfig => c.2.length) (step_pipeConfigs hs)
  split at h <;> exact h

/-- Every event the framework can deliver keeps sends within the buffer. -/
theorem SentFits.step {s s' : XboxOneInputInterface} (h : s.SentFits) {ev : Event}
    (hs : step s ev = some s') : s'.SentFits := by
  cases ev with
  | gotData c e =>
    simp only [XboxOneInputInterface.step, Option.ite_none_right_eq_some, Option.some.injEq] at hs
    obtain ⟨-, rfl⟩ := hs
    exact h.completeReceive c e
  | _ =>
    obtain ⟨-, -, hsent, -, -⟩ := step_of_not_gotData hs (by intro _ _ h; cases h)
    unfold SentFits
    rw [hsent, step_outLength hs]
    exact h

/-- The handshake's packets fit, whatever `handleStart` is answered. -/
theorem SentFits.of_handleStart (e : StartEnv) : (handleStart e init).2.SentFits := by
  rcases handleStart_cases e init with ⟨-, ht⟩ | ⟨-, s₁, ht, heq⟩
  · exact .of_sent_eq_nil (traffic_eq_init ht).2.2.2.1
  · have h₀ : SentFits { s₁ with gotDataAction := true } :=
      .of_sent_eq_nil (traffic_eq_init ht).2.2.2.1
    rw [heq, handshake]
    exact ((h₀.send _ _ _).send _ _ _).requestAsyncInterruptData _

/-- **Sends fit the outbound buffer.** In every life, whatever the framework, the transport
and the HID stack answer, every packet handed to the outbound pipe's `IO` is no longer than
the outbound buffer: `SendInterruptData` refuses longer ones, and no event changes the
buffer's length. -/
theorem lifecycle_sent_fits (e : StartEnv) (evs : List Event) :
    ∀ p ∈ (lifecycle e evs).sent, p.length ≤ (lifecycle e evs).outPipe.memory.length.toNat :=
  run_preserves SentFits (fun _ _ _ h hs => h.step hs) evs _ (SentFits.of_handleStart e)

theorem lifecycle_sent_fits_init_packet :
    [0x05, 0x20, 0x00, 0x01, 0x00] ∈ (lifecycle (controllerStart kIOReturnSuccess) []).sent ∧
      [0x05, 0x20, 0x00, 0x01, 0x00].length ≤
        (lifecycle (controllerStart kIOReturnSuccess) []).outPipe.memory.length.toNat :=
  ⟨by decide, lifecycle_sent_fits (controllerStart kIOReturnSuccess) []
    [0x05, 0x20, 0x00, 0x01, 0x00] (by decide)⟩

/-- One event only appends to the outbound log. -/
theorem step_sent_extends {s s' : XboxOneInputInterface} {ev : Event} (hs : step s ev = some s') :
    s.sent <+: s'.sent := by
  cases ev with
  | gotData c e =>
    simp only [step, Option.ite_none_right_eq_some, Option.some.injEq] at hs
    obtain ⟨-, rfl⟩ := hs
    have hsent := congrArg Prod.fst (completeReceive_sent c e s)
    simp only [apply_ite Prod.fst] at hsent
    rw [hsent]
    split
    · exact List.prefix_append _ _
    · exact List.prefix_refl _
  | _ =>
    obtain ⟨-, -, hsent, -, -⟩ := step_of_not_gotData hs (by intro _ _ h; cases h)
    exact hsent ▸ List.prefix_refl _

/-- Over a run the outbound buffer keeps its length, and the outbound log is only appended to. -/
theorem run_outbound_extends (s : XboxOneInputInterface) (evs : List Event) :
    (run s evs).outPipe.memory.length = s.outPipe.memory.length ∧ s.sent <+: (run s evs).sent :=
  run_preserves (fun t => t.outPipe.memory.length = s.outPipe.memory.length ∧ s.sent <+: t.sent)
    (fun _ _ _ ht hs => ⟨(step_outLength hs).trans ht.1, ht.2.trans (step_sent_extends hs)⟩)
    evs s ⟨rfl, List.prefix_refl _⟩

/-- A successful bring-up whose outbound buffer holds a handshake packet has handed over the
init packet with counter 0 and the swap-to-wired packet with counter 1, and nothing else. -/
theorem handleStart_sent {e : StartEnv} (h : (handleStart e init).1 = true)
    (hl : initPacketSize.toNat ≤ (handleStart e init).2.outPipe.memory.length.toNat) :
    (handleStart e init).2.sent =
      [[0x05, 0x20, 0x00, 0x01, 0x00], [0x05, 0x20, 0x01, 0x0f, 0x06]] := by
  rw [(Stamped.of_handleStart e).sent, handshakePackets, if_pos (And.intro h hl)]
  rfl

/-- **The handshake comes first.** After a bring-up that succeeded, in every run, when the
outbound buffer holds a handshake packet, the controller is handed the init packet with
counter 0 and then the swap-to-wired packet with counter 1, before any other packet. -/
theorem lifecycle_handshake_sent (e : StartEnv) (evs : List Event)
    (h : (handleStart e init).1 = true)
    (hl : initPacketSize.toNat ≤ (lifecycle e evs).outPipe.memory.length.toNat) :
    [[0x05, 0x20, 0x00, 0x01, 0x00], [0x05, 0x20, 0x01, 0x0f, 0x06]] <+:
      (lifecycle e evs).sent := by
  obtain ⟨hlen, hpre⟩ := run_outbound_extends (handleStart e init).2 evs
  rw [lifecycle, hlen] at hl
  rwa [handleStart_sent h hl] at hpre

theorem lifecycle_handshake_sent_controller :
    (handleStart (controllerStart kIOReturnSuccess) init).1 = true ∧
      initPacketSize.toNat ≤ (lifecycle (controllerStart kIOReturnSuccess)
        [.setEnable false]).outPipe.memory.length.toNat ∧
      [[0x05, 0x20, 0x00, 0x01, 0x00], [0x05, 0x20, 0x01, 0x0f, 0x06]] <+:
        (lifecycle (controllerStart kIOReturnSuccess) [.setEnable false]).sent :=
  ⟨by decide, by decide, lifecycle_handshake_sent _ _ (by decide) (by decide)⟩

end XboxOneInputInterface

end XboxControllerDriver
