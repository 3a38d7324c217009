import XboxControllerDriver.Pipes
import XboxControllerDriver.Transfers

/-!
# The interface's life

`handleStart` brings the interface up: descriptors, pipes, buffers, the GotData action, the
two handshake packets and the first receive. After it the framework delivers events: a
completion of the armed receive, a `SetEnable` from the user client, `Stop_Impl`, the cancel
handler `Stop_Impl` hands the action, and `free`. `step` says which events the framework can
deliver in a state and what each does; `run` plays a list of them, skipping the others, and
`lifecycle` is `handleStart` followed by a run.

`LoopInv pre` is what holds between any two events of a life whose start handed the outbound
pipe the packets `pre`, whatever the framework answers: at most one receive is outstanding,
exactly one when the last `AsyncIO` was accepted, and the packets handed to the outbound pipe
are `pre` and then guide responses only, the `k`-th stamped with `k mod 256`. It is proved
once for `handleStart`, whose `pre` is `handshakePackets`, and once per event
(`LoopInv.step`), and carried along a run by `run_preserves`. Which events ask for a receive
is said once, in `step_asyncIOResults`: a completion asks once, no other event does.
`lifecycle_receives` and `lifecycle_outbound` read the receive loop and the outbound traffic
off these.

Over any run the HID stack receives some of the reports the completions carry, in order and
each at most once (`run_reports`); the outbound pipe is handed no more packets than the HID
stack reports (`run_sent_le_reports`); a disabled interface that is not enabled again forwards
nothing and sends nothing (`run_disabled`).

What `LoopInv` cannot give is also proved here: a failed `handleStart` leaves the controller
untouched for good (`lifecycle_failed_start`), a rejected `AsyncIO` stops the loop for good,
and `Stop_Impl` never aborts the armed receive, so a completion after it arms another and the
interface can be stopped and freed with a receive still outstanding.
-/

namespace XboxControllerDriver

namespace XboxOneInputInterface

/-! ## Start -/

/-- What the framework answers during `handleStart`: `super::handleStart`, the calls of
`InitDescriptors`, `InitPipes` and `SetupPipes`, `CreateActionGotData`, the `IO` of the two
handshake packets, and the first `AsyncIO`. -/
structure StartEnv where
  superHandleStart : Bool
  descriptors : DescriptorsEnv
  copyPipe : List (Option Nat)
  pipes : PipesEnv
  createActionGotData : KernReturn
  initIOResult : KernReturn
  swapIOResult : KernReturn
  asyncIOResult : KernReturn

/-- `handleStart`. The results of the two sends and of `RequestAsyncInterruptData` are not
looked at. -/
def handleStart (e : StartEnv) (s : XboxOneInputInterface) : Bool × XboxOneInputInterface :=
  if !e.superHandleStart then (false, s) else
  let (result, s) := initDescriptors e.descriptors s
  if !result then (false, s) else
  let (result, s, _) := initPipes e.copyPipe s
  if !result then (false, s) else
  let (result, s) := setupPipes e.pipes s
  if !result then (false, s) else
  if e.createActionGotData ≠ kIOReturnSuccess then (false, s) else
  let s := { s with gotDataAction := true }
  let s := (sendInterruptData initPacket initPacketSize e.initIOResult s).2
  let s := (sendInterruptData swapToWiredPacket swapToWiredPacketSize e.swapIOResult s).2
  (true, (requestAsyncInterruptData e.asyncIOResult s).2)

/-- The handshake `handleStart` ends with, once the action exists. -/
def handshake (e : StartEnv) (s : XboxOneInputInterface) : XboxOneInputInterface :=
  (requestAsyncInterruptData e.asyncIOResult
    (sendInterruptData swapToWiredPacket swapToWiredPacketSize e.swapIOResult
      (sendInterruptData initPacket initPacketSize e.initIOResult s).2).2).2

/-- **What `handleStart` does.** It succeeds exactly when `super::handleStart`, the
descriptors, the pipe scan, the pipe setup and `CreateActionGotData` all succeed, whatever the
handshake's `IO` and the first `AsyncIO` answer. A failure leaves the traffic untouched; a
success runs the handshake on a state whose traffic the bring-up left untouched. -/
theorem handleStart_cases (e : StartEnv) (s : XboxOneInputInterface) :
    ((handleStart e s).1 = false ∧ (handleStart e s).2.traffic = s.traffic) ∨
      ((handleStart e s).1 = true ∧ ∃ s₁ : XboxOneInputInterface, s₁.traffic = s.traffic ∧
        (handleStart e s).2 = handshake e { s₁ with gotDataAction := true }) := by
  unfold handleStart
  by_cases h0 : e.superHandleStart = true
  · have h₁ := initDescriptors_traffic e.descriptors s
    rcases hd : initDescriptors e.descriptors s with ⟨_ | _, s₁⟩ <;> rw [hd] at h₁
    · simp [h0, hd, h₁]
    · have h₂ := initPipes_traffic e.copyPipe s₁
      rcases hp : initPipes e.copyPipe s₁ with ⟨_ | _, s₂, calls⟩ <;> rw [hp] at h₂
      · simp [h0, hd, hp, h₁, h₂]
      · have h₃ := setupPipes_traffic e.pipes s₂
        rcases hs : setupPipes e.pipes s₂ with ⟨_ | _, s₃⟩ <;> rw [hs] at h₃
        · simp [h0, hd, hp, hs, h₁, h₂, h₃]
        · by_cases ha : e.createActionGotData = kIOReturnSuccess
          · exact .inr ⟨by simp [h0, hd, hp, hs, ha], s₃, by rw [h₃, h₂, h₁],
              by simp [h0, hd, hp, hs, ha, handshake]⟩
          · simp [h0, hd, hp, hs, ha, h₁, h₂, h₃]
  · simp [h0]

/-- The handshake configures nothing. -/
theorem handshake_pipeConfigs (e : StartEnv) (s : XboxOneInputInterface) :
    (handshake e s).pipeConfigs = s.pipeConfigs := by
  simp only [handshake, requestAsyncInterruptData_pipeConfigs, sendInterruptData_pipeConfigs]

/-- A state with the traffic of a fresh interface has counted, sent and armed nothing. -/
theorem traffic_eq_init {s : XboxOneInputInterface} (h : s.traffic = init.traffic) :
    s.outCounter = 0 ∧ s.pendingReceives = 0 ∧ s.asyncIOResults = [] ∧ s.sent = [] ∧ s.phase = .running :=
  ⟨congrArg Traffic.outCounter h, congrArg Traffic.pendingReceives h, congrArg Traffic.asyncIOResults h,
    congrArg Traffic.sent h, congrArg Traffic.phase h⟩

/-! ## Stop, free and the user client -/

/-- `Stop_Impl`: without a GotData action the framework stop runs at once (answered
`superStop`); otherwise the action is cancelled and the stop is left to the cancel handler.
The inbound pipe is not aborted. -/
def stopImpl (superStop : KernReturn) (s : XboxOneInputInterface) :
    KernReturn × XboxOneInputInterface :=
  if s.gotDataAction = false then (superStop, { s with phase := .stopped })
  else (kIOReturnSuccess, { s with phase := .cancelling })

/-- `finalize`, the block `Stop_Impl` hands `Cancel`: the deferred framework stop. -/
def finalize (s : XboxOneInputInterface) : XboxOneInputInterface := { s with phase := .stopped }

/-- `free`: the configuration descriptor, both pipes and their buffers, the action and the
interface are released, and the ivars deleted. -/
def free (s : XboxOneInputInterface) : XboxOneInputInterface :=
  { s with
    configurationDescriptor := false,
    inPipe := { s.inPipe with pipe := none, memory := { s.inPipe.memory with buffer := none } },
    outPipe := { s.outPipe with pipe := none, memory := { s.outPipe.memory with buffer := none } },
    gotDataAction := false, interface := false, phase := .freed }

/-- `SetEnable`. -/
def setEnable (enabled : Bool) (s : XboxOneInputInterface) : XboxOneInputInterface :=
  { s with enabled }

/-! ## Runs -/

/-- What can happen to the interface after `handleStart`: a completion of the armed receive
(with what is answered while it is handled), `SetEnable`, `Stop_Impl`, the cancel handler,
`free`. -/
inductive Event
  | gotData (c : Completion) (e : GotDataEnv)
  | setEnable (enabled : Bool)
  | stop (superStop : KernReturn)
  | cancelHandler
  | free

/-- One event, if the framework can deliver it: a completion while a receive is outstanding and
the action's cancellation has not completed, `Stop_Impl` once, the cancel handler after a
cancel, `free` after the stop; nothing reaches a freed interface. -/
def step (s : XboxOneInputInterface) : Event → Option XboxOneInputInterface
  | .gotData c e =>
    if 0 < s.pendingReceives ∧ (s.phase = .running ∨ s.phase = .cancelling) then
      some (completeReceive c e s)
    else none
  | .setEnable enabled => if s.phase ≠ .freed then some (setEnable enabled s) else none
  | .stop superStop => if s.phase = .running then some (stopImpl superStop s).2 else none
  | .cancelHandler => if s.phase = .cancelling then some (finalize s) else none
  | .free => if s.phase = .stopped then some (free s) else none

/-- A run: the events in order, those the framework cannot deliver skipped. -/
def run (s : XboxOneInputInterface) : List Event → XboxOneInputInterface
  | [] => s
  | ev :: evs => run ((step s ev).getD s) evs

/-- The interface's life: `handleStart` on the zeroed ivars, then a run. -/
def lifecycle (e : StartEnv) (evs : List Event) : XboxOneInputInterface :=
  run (handleStart e init).2 evs

@[simp] theorem run_nil (s : XboxOneInputInterface) : run s [] = s := rfl

@[simp] theorem run_cons (s : XboxOneInputInterface) (ev : Event) (evs : List Event) :
    run s (ev :: evs) = run ((step s ev).getD s) evs := rfl

/-- Two runs one after the other are one run. -/
theorem run_append (s : XboxOneInputInterface) (evs evs' : List Event) :
    run s (evs ++ evs') = run (run s evs) evs' := by
  induction evs generalizing s with
  | nil => rfl
  | cons ev evs ih => exact ih _

/-- A property every event keeps holds all along a run. -/
theorem run_preserves (P : XboxOneInputInterface → Prop)
    (hstep : ∀ s ev s', P s → step s ev = some s' → P s') :
    ∀ (evs : List Event) (s : XboxOneInputInterface), P s → P (run s evs)
  | [], _, h => h
  | ev :: evs, s, h => by
    rw [run_cons]
    apply run_preserves P hstep evs
    cases hs : step s ev with
    | none => exact h
    | some s' => exact hstep s ev s' h hs

/-- Every event but a completion leaves the receives and the outbound traffic alone. -/
theorem step_of_not_gotData {s s' : XboxOneInputInterface} {ev : Event}
    (hs : step s ev = some s') (hev : ∀ c e, ev ≠ .gotData c e) :
    s'.pendingReceives = s.pendingReceives ∧ s'.asyncIOResults = s.asyncIOResults ∧ s'.sent = s.sent ∧
      s'.outCounter = s.outCounter ∧ s'.reports = s.reports := by
  cases ev with
  | gotData c e => exact absurd rfl (hev c e)
  | stop =>
    simp only [step, Option.ite_none_right_eq_some, Option.some.injEq] at hs
    obtain ⟨-, rfl⟩ := hs
    unfold stopImpl; split <;> exact ⟨rfl, rfl, rfl, rfl, rfl⟩
  | _ =>
    simp only [step, Option.ite_none_right_eq_some, Option.some.injEq] at hs
    obtain ⟨-, rfl⟩ := hs
    exact ⟨rfl, rfl, rfl, rfl, rfl⟩

/-! ## The outbound log -/

/-- The `k`-th packet handed to the outbound pipe carries `k mod 256` in byte 2. -/
def stampCounters (srcs : List (List UInt8)) : List (List UInt8) :=
  srcs.mapIdx fun k p => p.set 2 (UInt8.ofNat k)

/-- The outbound log is `srcs` stamped, and the counter is the number of packets sent. -/
structure Stamped (s : XboxOneInputInterface) (srcs : List (List UInt8)) : Prop where
  sent : s.sent = stampCounters srcs
  counter : s.outCounter.toNat = srcs.length % 256

theorem Stamped.congr {s s' : XboxOneInputInterface} {srcs : List (List UInt8)}
    (h : Stamped s srcs) (hs : s'.sent = s.sent) (hc : s'.outCounter = s.outCounter) :
    Stamped s' srcs :=
  ⟨hs.trans h.sent, hc ▸ h.counter⟩

/-- Handing over `p` stamped with the counter, and counting on, extends the log by `p`. -/
theorem Stamped.append {s s' : XboxOneInputInterface} {srcs : List (List UInt8)} {p : List UInt8}
    (h : Stamped s srcs) (hs : s'.sent = s.sent ++ [p.set 2 s.outCounter])
    (hc : s'.outCounter = s.outCounter + 1) : Stamped s' (srcs ++ [p]) := by
  have hk : UInt8.ofNat srcs.length = s.outCounter :=
    UInt8.toNat.inj (by rw [uint8_toNat_ofNat, h.counter])
  constructor
  · rw [hs, h.sent, stampCounters, stampCounters, List.mapIdx_concat, hk]
  · rw [hc, uint8_toNat_add_one, h.counter, List.length_append, List.length_singleton]
    omega

/-- A send of `size ≤ data.length` bytes extends the log by the packet exactly when it is not
refused. -/
theorem Stamped.send {s : XboxOneInputInterface} {srcs : List (List UInt8)} (h : Stamped s srcs)
    (data : List UInt8) (size : UInt8) (io : KernReturn) (hd : size.toNat ≤ data.length) :
    Stamped (sendInterruptData data size io s).2
      (if size.toNat ≤ s.outPipe.memory.length.toNat then srcs ++ [data.take size.toNat]
        else srcs) := by
  split
  · next hl =>
    rw [sendInterruptData_of_le io hl hd]
    exact h.append rfl rfl
  · next hl => rwa [sendInterruptData_of_lt io (Nat.lt_of_not_le hl)]

/-- The packets a start hands the outbound pipe: the init and swap-to-wired packets when
`handleStart` succeeded with an outbound buffer that holds them, none otherwise. -/
def handshakePackets (e : StartEnv) : List (List UInt8) :=
  if (handleStart e init).1 = true ∧
      initPacketSize.toNat ≤ (handleStart e init).2.outPipe.memory.length.toNat then
    [initPacket, swapToWiredPacket]
  else []

/-- `handleStart` hands the outbound pipe exactly `handshakePackets`, stamped 0 and 1. The two
packets are equally long, so the buffer takes both or neither. -/
theorem Stamped.of_handleStart (e : StartEnv) :
    Stamped (handleStart e init).2 (handshakePackets e) := by
  rcases handleStart_cases e init with ⟨hf, ht⟩ | ⟨hs, s₁, ht, heq⟩
  · obtain ⟨hc, -, -, hsent, -⟩ := traffic_eq_init ht
    rw [handshakePackets, if_neg (by simp [hf])]
    exact ⟨by simp [hsent, stampCounters], by simp [hc]⟩
  obtain ⟨hc, -, -, hsent, -⟩ := traffic_eq_init ht
  have h₀ : Stamped { s₁ with gotDataAction := true } [] :=
    ⟨by simp [hsent, stampCounters], by simp [hc]⟩
  have h₂ := (h₀.send initPacket initPacketSize e.initIOResult (by decide)).send
    swapToWiredPacket swapToWiredPacketSize e.swapIOResult (by decide)
  have hL := congrArg (·.2.length) (handshake_pipeConfigs e { s₁ with gotDataAction := true })
  have hL₁ := congrArg (·.2.length) (sendInterruptData_pipeConfigs initPacket initPacketSize
    e.initIOResult { s₁ with gotDataAction := true })
  have hsize : swapToWiredPacketSize.toNat ≤ s₁.outPipe.memory.length.toNat ↔
      initPacketSize.toNat ≤ s₁.outPipe.memory.length.toNat := Iff.rfl
  dsimp only [pipeConfigs, UsbPipeData.config] at hL hL₁ h₂
  rw [hL₁, if_congr hsize rfl rfl] at h₂
  rw [handshakePackets, hs, heq, hL, handshake, requestAsyncInterruptData_snd]
  simp only [eq_self_iff_true, true_and]
  split_ifs at h₂ ⊢ <;> exact h₂.congr rfl rfl

/-! ## The loop invariant -/

/-- What holds between any two events of a life whose start handed the outbound pipe the
packets `pre`. -/
structure LoopInv (pre : List (List UInt8)) (s : XboxOneInputInterface) : Prop where
  pending_le : s.pendingReceives ≤ 1
  pending_eq_one : s.pendingReceives = 1 ↔ s.asyncIOResults.getLast? = some kIOReturnSuccess
  outbound : ∃ n, Stamped s
    (pre ++ List.replicate n (guideResponse.bytes.take xboxoneGuideResponseSize.toNat))

/-- A successful start makes one `AsyncIO` request, the first receive, outstanding when it is
accepted; a failed start makes none. -/
theorem handleStart_receives (e : StartEnv) :
    (handleStart e init).2.asyncIOResults =
        (if (handleStart e init).1 then [e.asyncIOResult] else []) ∧
      (handleStart e init).2.pendingReceives =
        if (handleStart e init).1 = true ∧ e.asyncIOResult = kIOReturnSuccess then 1 else 0 := by
  rcases handleStart_cases e init with ⟨hf, ht⟩ | ⟨hs, s₁, ht, heq⟩
  · obtain ⟨-, hp, ha, -, -⟩ := traffic_eq_init ht
    simp [hf, hp, ha]
  · obtain ⟨-, hp, ha, -, -⟩ := traffic_eq_init ht
    rw [hs, heq, handshake, requestAsyncInterruptData_snd]
    simp [hp, ha]

/-- What `handleStart` leaves behind, whatever it is answered. -/
theorem LoopInv.of_handleStart (e : StartEnv) :
    LoopInv (handshakePackets e) (handleStart e init).2 := by
  obtain ⟨ha, hp⟩ := handleStart_receives e
  refine ⟨by rw [hp]; split <;> simp, by rw [hp, ha]; split_ifs <;> simp_all, 0, ?_⟩
  rw [List.replicate_zero, List.append_nil]
  exact Stamped.of_handleStart e

/-- A completion of the one outstanding receive keeps the invariant. -/
theorem LoopInv.completeReceive {pre : List (List UInt8)} {s : XboxOneInputInterface}
    (h : LoopInv pre s) (hp : 0 < s.pendingReceives) (c : Completion) (e : GotDataEnv) :
    LoopInv pre (completeReceive c e s) := by
  obtain ⟨hpend, hasync, -, -⟩ := completeReceive_receives c e s
  have h1 : s.pendingReceives = 1 := by have := h.pending_le; omega
  obtain ⟨n, hst⟩ := h.outbound
  refine ⟨by rw [hpend, h1]; split <;> simp, by rw [hpend, hasync, h1]; split <;> simp_all, ?_⟩
  have hsent := completeReceive_sent c e s
  dsimp only at hsent
  split_ifs at hsent
  · obtain ⟨hs, hc⟩ := Prod.mk.inj hsent
    refine ⟨n + 1, ?_⟩
    rw [List.replicate_succ', ← List.append_assoc]
    exact hst.append (by rw [hs, guideResponse_stamped]) hc
  · obtain ⟨hs, hc⟩ := Prod.mk.inj hsent
    exact ⟨n, hst.congr hs hc⟩

/-- Every event the framework can deliver keeps the invariant. -/
theorem LoopInv.step {pre : List (List UInt8)} {s s' : XboxOneInputInterface} (h : LoopInv pre s)
    {ev : Event} (hs : step s ev = some s') : LoopInv pre s' := by
  cases ev with
  | gotData c e =>
    simp only [XboxOneInputInterface.step, Option.ite_none_right_eq_some, Option.some.injEq] at hs
    obtain ⟨⟨hp, -⟩, rfl⟩ := hs
    exact h.completeReceive hp c e
  | _ =>
    obtain ⟨hp, ha, hsent, hc, -⟩ := step_of_not_gotData hs (by intro _ _ h; cases h)
    obtain ⟨n, hst⟩ := h.outbound
    exact ⟨hp ▸ h.pending_le, by rw [hp, ha]; exact h.pending_eq_one, n, hst.congr hsent hc⟩

theorem lifecycle_inv (e : StartEnv) (evs : List Event) :
    LoopInv (handshakePackets e) (lifecycle e evs) :=
  run_preserves (LoopInv (handshakePackets e)) (fun _ _ _ h hs => h.step hs) evs _
    (LoopInv.of_handleStart e)

/-! ## Receives -/

/-- With no receive outstanding, no event the framework can deliver arms one, requests one,
sends or forwards anything. -/
theorem step_of_no_receive {s s' : XboxOneInputInterface} {ev : Event} (hs : step s ev = some s')
    (h : s.pendingReceives = 0) :
    s'.pendingReceives = 0 ∧ s'.asyncIOResults = s.asyncIOResults ∧ s'.sent = s.sent ∧
      s'.reports = s.reports := by
  cases ev with
  | gotData c e => simp [step, h] at hs
  | _ =>
    obtain ⟨hp, ha, hsent, -, hr⟩ := step_of_not_gotData hs (by intro _ _ h; cases h)
    exact ⟨hp.trans h, ha, hsent, hr⟩

/-- A controller's bring-up where every call succeeds except, possibly, the first `AsyncIO`. -/
def controllerStart (asyncIOResult : KernReturn) : StartEnv where
  superHandleStart := true
  descriptors := ⟨true, some controllerEndpoints⟩
  copyPipe := [some 1, some 2]
  pipes := ⟨kIOReturnSuccess, 64, 64, ⟨some 2, 8, 64, some 3, some (64, fun _ => 0)⟩,
    ⟨some 2, 8, 64, some 4, some (64, fun _ => 0)⟩⟩
  createActionGotData := kIOReturnSuccess
  initIOResult := kIOReturnSuccess
  swapIOResult := kIOReturnSuccess
  asyncIOResult := asyncIOResult

/-- **A stalled loop stays stalled.** With no receive outstanding no completion can come, so no
run arms a receive or forwards a report again. -/
theorem run_of_no_receive (s : XboxOneInputInterface) (h : s.pendingReceives = 0)
    (evs : List Event) :
    (run s evs).pendingReceives = 0 ∧ (run s evs).asyncIOResults = s.asyncIOResults ∧
      (run s evs).reports = s.reports := by
  refine run_preserves (fun t => t.pendingReceives = 0 ∧ t.asyncIOResults = s.asyncIOResults ∧
    t.reports = s.reports) (fun t ev t' ht hs => ?_) evs s ⟨h, rfl, rfl⟩
  obtain ⟨h₁, h₂, -, h₃⟩ := step_of_no_receive hs ht.1
  exact ⟨h₁, h₂.trans ht.2.1, h₃.trans ht.2.2⟩

theorem run_of_no_receive_after_rejection :
    (lifecycle (controllerStart kIOReturnError) []).pendingReceives = 0 ∧
      (run (lifecycle (controllerStart kIOReturnError) []) [.setEnable false, .setEnable true]).pendingReceives = 0 ∧
      (run (lifecycle (controllerStart kIOReturnError) []) [.setEnable false, .setEnable true]).asyncIOResults =
        (lifecycle (controllerStart kIOReturnError) []).asyncIOResults ∧
      (run (lifecycle (controllerStart kIOReturnError) []) [.setEnable false, .setEnable true]).reports =
        (lifecycle (controllerStart kIOReturnError) []).reports :=
  ⟨by decide, run_of_no_receive _ (by decide) _⟩

/-- **A failed start stays silent.** When `handleStart` fails, at whichever call and whatever
is answered afterwards, the controller is never sent a packet, no receive is ever armed and
no report reaches the HID stack: the handshake and the first receive come only after every
bring-up call has succeeded. -/
theorem lifecycle_failed_start (e : StartEnv) (evs : List Event)
    (h : (handleStart e init).1 = false) :
    (lifecycle e evs).pendingReceives = 0 ∧ (lifecycle e evs).sent = [] ∧
      (lifecycle e evs).reports = [] := by
  have ht : (handleStart e init).2.traffic = init.traffic := by
    rcases handleStart_cases e init with ⟨-, ht⟩ | ⟨h', -⟩
    · exact ht
    · simp [h'] at h
  obtain ⟨-, hp, -, hs, -⟩ := traffic_eq_init ht
  refine run_preserves (fun t => t.pendingReceives = 0 ∧ t.sent = [] ∧ t.reports = [])
    (fun t ev t' ht hs => ?_) evs _ ⟨hp, hs, congrArg Traffic.reports ht⟩
  obtain ⟨h₁, -, h₂, h₃⟩ := step_of_no_receive hs ht.1
  exact ⟨h₁, h₂.trans ht.2.1, h₃.trans ht.2.2⟩

/-- The controller's bring-up with `CreateActionGotData` refused, after the pipes are set up. -/
def actionRefusedStart : StartEnv :=
  { controllerStart kIOReturnSuccess with createActionGotData := kIOReturnError }

theorem lifecycle_failed_start_action_refused :
    (handleStart actionRefusedStart init).1 = false ∧
      (lifecycle actionRefusedStart
        [.gotData guidePressed ⟨0, 0, 0⟩, .setEnable true]).pendingReceives = 0 ∧
      (lifecycle actionRefusedStart [.gotData guidePressed ⟨0, 0, 0⟩, .setEnable true]).sent = [] ∧
      (lifecycle actionRefusedStart
        [.gotData guidePressed ⟨0, 0, 0⟩, .setEnable true]).reports = [] :=
  ⟨by decide, lifecycle_failed_start _ _ (by decide)⟩

/-! ## Reports -/

/-- The report an event's completion carries: its timestamp and the bytes it delivered. -/
def Event.received : Event → List HidReport
  | .gotData c _ => [⟨c.completionTimestamp, c.received⟩]
  | _ => []

/-- One event hands the HID stack the report its completion carries, or nothing. -/
theorem step_reports (s : XboxOneInputInterface) (ev : Event) :
    ∃ l, ((step s ev).getD s).reports = s.reports ++ l ∧ l.Sublist ev.received := by
  cases hs : step s ev with
  | none => exact ⟨[], by simp, List.nil_sublist _⟩
  | some s' =>
    cases ev with
    | gotData c e =>
      simp only [step, Option.ite_none_right_eq_some, Option.some.injEq] at hs
      rw [Option.getD_some, ← hs.2]
      exact completeReceive_reports_sublist c e s
    | _ =>
      obtain ⟨-, -, -, -, hr⟩ := step_of_not_gotData hs (by intro _ _ h; cases h)
      exact ⟨[], by simp [hr], List.nil_sublist _⟩

/-- **Reports over a run.** From any state, whatever the transport and the HID stack answer, a
run hands the HID stack, in order, some of the reports its completions carry, each at most
once: no report is invented, duplicated or reordered. -/
theorem run_reports (s : XboxOneInputInterface) (evs : List Event) :
    ∃ l, (run s evs).reports = s.reports ++ l ∧ l.Sublist (evs.flatMap Event.received) := by
  induction evs generalizing s with
  | nil => exact ⟨[], by simp, List.nil_sublist _⟩
  | cons ev evs ih =>
    obtain ⟨l₀, h₀, hs₀⟩ := step_reports s ev
    obtain ⟨l, h, hs⟩ := ih ((step s ev).getD s)
    refine ⟨l₀ ++ l, by rw [run_cons, h, h₀, List.append_assoc], ?_⟩
    rw [List.flatMap_cons]
    exact hs₀.append hs

/-- One event hands the outbound pipe a packet only with a report to the HID stack. -/
theorem step_sent_le_reports (s : XboxOneInputInterface) (ev : Event) :
    ((step s ev).getD s).sent.length + s.reports.length ≤
      s.sent.length + ((step s ev).getD s).reports.length := by
  cases hs : step s ev with
  | none => simp only [Option.getD_none]; omega
  | some s' =>
    cases ev with
    | gotData c e =>
      simp only [step, Option.ite_none_right_eq_some, Option.some.injEq] at hs
      rw [Option.getD_some, ← hs.2]
      exact completeReceive_sent_le_reports c e s
    | _ =>
      obtain ⟨-, -, hsent, -, hr⟩ := step_of_not_gotData hs (by intro _ _ h; cases h)
      simp only [Option.getD_some, hsent, hr]; omega

/-- **Sends answer reports.** From any state, whatever the transport and the HID stack answer,
a run hands the outbound pipe no more packets than it hands the HID stack reports: once
started, the driver writes to the controller only in answer to a report it forwarded. -/
theorem run_sent_le_reports (s : XboxOneInputInterface) (evs : List Event) :
    (run s evs).sent.length + s.reports.length ≤ s.sent.length + (run s evs).reports.length := by
  induction evs generalizing s with
  | nil => exact le_rfl
  | cons ev evs ih =>
    have h₁ := step_sent_le_reports s ev
    have h₂ := ih ((step s ev).getD s)
    rw [run_cons]
    omega

/-- One event that does not enable the interface: a disabled interface stays disabled, forwards
nothing and sends nothing. -/
theorem step_disabled {s s' : XboxOneInputInterface} {ev : Event} (hs : step s ev = some s')
    (he : s.enabled = false) (hev : ev ≠ .setEnable true) :
    s'.enabled = false ∧ s'.reports = s.reports ∧ s'.sent = s.sent ∧ s'.outCounter = s.outCounter := by
  cases ev with
  | gotData c e =>
    simp only [step, Option.ite_none_right_eq_some, Option.some.injEq] at hs
    obtain ⟨-, rfl⟩ := hs
    have hsent := completeReceive_sent c e s
    simp only [he, Bool.false_eq_true, false_and, and_false, if_false, Prod.mk.injEq] at hsent
    refine ⟨(completeReceive_receives c e s).2.2.2.trans he, ?_, hsent⟩
    rw [completeReceive, gotDataImpl_reports]
    simp [he]
  | setEnable b =>
    obtain rfl : b = false := by simpa using hev
    simp only [step, Option.ite_none_right_eq_some, Option.some.injEq] at hs
    obtain ⟨-, rfl⟩ := hs
    exact ⟨rfl, rfl, rfl, rfl⟩
  | stop =>
    obtain ⟨-, -, hsent, hctr, hr⟩ := step_of_not_gotData hs (by intro _ _ h; cases h)
    simp only [step, Option.ite_none_right_eq_some, Option.some.injEq] at hs
    obtain ⟨-, rfl⟩ := hs
    refine ⟨?_, hr, hsent, hctr⟩
    unfold stopImpl; split <;> exact he
  | _ =>
    obtain ⟨-, -, hsent, hctr, hr⟩ := step_of_not_gotData hs (by intro _ _ h; cases h)
    simp only [step, Option.ite_none_right_eq_some, Option.some.injEq] at hs
    obtain ⟨-, rfl⟩ := hs
    exact ⟨he, hr, hsent, hctr⟩

/-- **A disabled interface stays silent.** From any disabled state, over any run that does not
enable it, whatever the transport and the HID stack answer, no report reaches the HID stack,
no packet reaches the controller, and the outbound counter stays where it was. -/
theorem run_disabled (s : XboxOneInputInterface) (he : s.enabled = false) (evs : List Event)
    (hevs : ∀ ev ∈ evs, ev ≠ .setEnable true) :
    (run s evs).enabled = false ∧ (run s evs).reports = s.reports ∧ (run s evs).sent = s.sent ∧
      (run s evs).outCounter = s.outCounter := by
  induction evs generalizing s with
  | nil => exact ⟨he, rfl, rfl, rfl⟩
  | cons ev evs ih =>
    have h₀ : ((step s ev).getD s).enabled = false ∧ ((step s ev).getD s).reports = s.reports ∧
        ((step s ev).getD s).sent = s.sent ∧ ((step s ev).getD s).outCounter = s.outCounter := by
      cases hs : step s ev with
      | none => exact ⟨he, rfl, rfl, rfl⟩
      | some s' => exact step_disabled hs he (hevs ev (List.mem_cons_self _ _))
    obtain ⟨h₁, h₂, h₃, h₄⟩ := ih _ h₀.1 fun ev' h => hevs ev' (List.mem_cons_of_mem _ h)
    rw [run_cons]
    exact ⟨h₁, h₂.trans h₀.2.1, h₃.trans h₀.2.2.1, h₄.trans h₀.2.2.2⟩

/-- `guideReady` disabled, with the receive the guide report completes outstanding. -/
def guideDisabled : XboxOneInputInterface := { guideReady with enabled := false, pendingReceives := 1 }

theorem run_disabled_guide :
    (step guideDisabled
        (.gotData guidePressed ⟨kIOReturnSuccess, kIOReturnSuccess, kIOReturnSuccess⟩)).isSome ∧
      guideDisabled.enabled = false ∧
      (∀ ev ∈ [Event.gotData guidePressed ⟨kIOReturnSuccess, kIOReturnSuccess, kIOReturnSuccess⟩],
        ev ≠ .setEnable true) ∧
      (run guideDisabled
          [.gotData guidePressed ⟨kIOReturnSuccess, kIOReturnSuccess, kIOReturnSuccess⟩]).enabled = false ∧
      (run guideDisabled
          [.gotData guidePressed ⟨kIOReturnSuccess, kIOReturnSuccess, kIOReturnSuccess⟩]).reports =
        guideDisabled.reports ∧
      (run guideDisabled
          [.gotData guidePressed ⟨kIOReturnSuccess, kIOReturnSuccess, kIOReturnSuccess⟩]).sent =
        guideDisabled.sent ∧
      (run guideDisabled
          [.gotData guidePressed ⟨kIOReturnSuccess, kIOReturnSuccess, kIOReturnSuccess⟩]).outCounter =
        guideDisabled.outCounter :=
  ⟨by decide, rfl, by simp, run_disabled _ rfl _ (by simp)⟩

/-! ## The outbound traffic -/

/-- **Outbound traffic over a life.** For every start and every run, whatever `IO` answers, the
packets passed to the outbound pipe are the handshake packets, both when the start succeeded
with an outbound buffer that holds them and none otherwise, and after them guide responses
only; the `k`-th is stamped with `k mod 256` in byte 2; the counter is the number of packets
passed, mod 256; and a send longer than the outbound buffer is refused with nothing changed. -/
theorem lifecycle_outbound (e : StartEnv) (evs : List Event) :
    (∃ n, (lifecycle e evs).sent = stampCounters (handshakePackets e ++
        List.replicate n (guideResponse.bytes.take xboxoneGuideResponseSize.toNat))) ∧
      (lifecycle e evs).outCounter.toNat = (lifecycle e evs).sent.length % 256 ∧
      ∀ (data : List UInt8) (size : UInt8) (io : KernReturn) (s : XboxOneInputInterface),
        s.outPipe.memory.length.toNat < size.toNat →
          sendInterruptData data size io s = (kIOReturnBadArgument, s) := by
  obtain ⟨n, hst⟩ := (lifecycle_inv e evs).outbound
  refine ⟨⟨n, hst.sent⟩, ?_, fun _ _ io _ h => sendInterruptData_of_lt io h⟩
  rw [hst.counter, hst.sent, stampCounters, List.length_mapIdx]

/-! ## Stopping -/

/-- After a successful `handleStart` the action exists, nothing has stopped, and the first
receive is outstanding exactly when `AsyncIO` accepted it. -/
theorem handleStart_started {e : StartEnv} (h : (handleStart e init).1 = true) :
    (handleStart e init).2.gotDataAction = true ∧ (handleStart e init).2.phase = .running ∧
      (handleStart e init).2.pendingReceives = if e.asyncIOResult = kIOReturnSuccess then 1 else 0 := by
  rcases handleStart_cases e init with ⟨h', -⟩ | ⟨-, s₁, ht, heq⟩
  · simp [h'] at h
  · obtain ⟨-, hp, -, -, hph⟩ := traffic_eq_init ht
    rw [heq, handshake, requestAsyncInterruptData_snd]
    simp [hp, hph]

/-- **Stopping leaves the receive armed.** For every started interface whose first receive was
accepted: after `Stop_Impl` a completion still comes and arms another receive, and the cancel
handler's framework stop and `free` both happen with a receive outstanding. -/
theorem lifecycle_stop_keeps_receive (e : StartEnv) (superStop : KernReturn) (c : Completion)
    (g : GotDataEnv) (h : (handleStart e init).1 = true) (ha : e.asyncIOResult = kIOReturnSuccess)
    (hg : g.asyncIOResult = kIOReturnSuccess) :
    (lifecycle e [.stop superStop]).phase = .cancelling ∧
      (lifecycle e [.stop superStop, .gotData c g]).asyncIOResults =
        (lifecycle e [.stop superStop]).asyncIOResults ++ [kIOReturnSuccess] ∧
      (lifecycle e [.stop superStop, .gotData c g]).pendingReceives = 1 ∧
      (lifecycle e [.stop superStop, .cancelHandler]).phase = .stopped ∧
      (lifecycle e [.stop superStop, .cancelHandler]).pendingReceives = 1 ∧
      (lifecycle e [.stop superStop, .cancelHandler, .free]).phase = .freed ∧
      (lifecycle e [.stop superStop, .cancelHandler, .free]).pendingReceives = 1 := by
  obtain ⟨hact, hrun, hp⟩ := handleStart_started h
  rw [ha, if_pos rfl] at hp
  have hstop : step (handleStart e init).2 (.stop superStop) =
      some { (handleStart e init).2 with phase := .cancelling } := by
    simp [step, hrun, stopImpl, hact]
  simp only [lifecycle, run_cons, run_nil, hstop, Option.getD_some]
  simp [step, hp, hg, finalize, free, completeReceive_receives]

theorem lifecycle_stop_keeps_receive_controller :
    (handleStart (controllerStart kIOReturnSuccess) init).1 = true ∧
      (lifecycle (controllerStart kIOReturnSuccess) [.stop kIOReturnSuccess]).phase = .cancelling ∧
      (lifecycle (controllerStart kIOReturnSuccess)
          [.stop kIOReturnSuccess, .gotData emptyCompletion ⟨kIOReturnSuccess, kIOReturnSuccess, kIOReturnSuccess⟩]).asyncIOResults =
        (lifecycle (controllerStart kIOReturnSuccess) [.stop kIOReturnSuccess]).asyncIOResults ++ [kIOReturnSuccess] ∧
      (lifecycle (controllerStart kIOReturnSuccess)
          [.stop kIOReturnSuccess, .gotData emptyCompletion ⟨kIOReturnSuccess, kIOReturnSuccess, kIOReturnSuccess⟩]).pendingReceives = 1 ∧
      (lifecycle (controllerStart kIOReturnSuccess) [.stop kIOReturnSuccess, .cancelHandler]).phase = .stopped ∧
      (lifecycle (controllerStart kIOReturnSuccess) [.stop kIOReturnSuccess, .cancelHandler]).pendingReceives = 1 ∧
      (lifecycle (controllerStart kIOReturnSuccess) [.stop kIOReturnSuccess, .cancelHandler, .free]).phase = .freed ∧
      (lifecycle (controllerStart kIOReturnSuccess)
        [.stop kIOReturnSuccess, .cancelHandler, .free]).pendingReceives = 1 :=
  ⟨by decide, lifecycle_stop_keeps_receive _ _ _ _ (by decide) rfl rfl⟩

end XboxOneInputInterface

end XboxControllerDriver
