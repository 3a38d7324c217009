import XboxControllerDriver.State

/-!
# Finding and configuring the interrupt pipes

`InitDescriptors` copies the configuration descriptor and finds the interface's; `InitPipes`
walks the interface's endpoint descriptors and copies a pipe for the interrupt endpoints;
`SetupPipe` reads a pipe's speed, interval and packet size and maps a buffer for it.

Every framework call is answered by an argument: `CopyPipe` by a list of answers taken in
order, `GetSpeed`, `CreateIOBuffer` and `Map` by a `PipeSetupEnv` per pipe.

`initPipes_spec` is what the scan does with any endpoint list and any answers: it succeeds
exactly when it meets an interrupt IN and an interrupt OUT endpoint before a copy fails, and
then each pipe holds the last interrupt endpoint of its direction and the pipe copied for
it. A pipe copied for an earlier endpoint of the same direction is overwritten, not kept.
-/

namespace XboxControllerDriver

namespace XboxOneInputInterface

/-! ## Descriptors -/

/-- What `InitDescriptors` is answered: whether `CopyConfigurationDescriptor` returned a
descriptor, and what `GetInterfaceDescriptor` found (its endpoint descriptors). -/
structure DescriptorsEnv where
  configurationDescriptor : Bool
  interfaceDescriptor : Option (List IOUSBEndpointDescriptor)

/-- `InitDescriptors`. -/
def initDescriptors (e : DescriptorsEnv) (s : XboxOneInputInterface) :
    Bool × XboxOneInputInterface :=
  let s := { s with configurationDescriptor := e.configurationDescriptor }
  if !e.configurationDescriptor then (false, s) else
  let s := { s with interfaceDescriptor := e.interfaceDescriptor }
  if e.interfaceDescriptor.isNone then (false, s) else (true, s)

@[simp] theorem initDescriptors_traffic (e : DescriptorsEnv) (s : XboxOneInputInterface) :
    (initDescriptors e s).2.traffic = s.traffic := by
  unfold initDescriptors; split_ifs <;> rfl

@[simp] theorem initDescriptors_inPipe (e : DescriptorsEnv) (s : XboxOneInputInterface) :
    (initDescriptors e s).2.inPipe = s.inPipe := by
  unfold initDescriptors; split_ifs <;> rfl

@[simp] theorem initDescriptors_outPipe (e : DescriptorsEnv) (s : XboxOneInputInterface) :
    (initDescriptors e s).2.outPipe = s.outPipe := by
  unfold initDescriptors; split_ifs <;> rfl

/-! ## The endpoint scan -/

/-- The pipe `InitPipes` stores an endpoint in: interrupt endpoints by direction, others
none. -/
def scanPipe? (d : IOUSBEndpointDescriptor) : Option PipeSel :=
  if ioUSBGetEndpointType d ≠ kIOUSBEndpointTypeInterrupt then none
  else if ioUSBGetEndpointDirection d = kIOUSBEndpointDirectionIn then some .inPipe
  else if ioUSBGetEndpointDirection d = kIOUSBEndpointDirectionOut then some .outPipe
  else none

/-- A `CopyPipe(address, pipe)` call: the address, the pipe it copies into, the answer
(`none`: an error). -/
structure CopyPipeCall where
  address : UInt8
  into : PipeSel
  result : Option Nat
  deriving DecidableEq, Repr

/-- `pipe = &ivars->…Pipe.pipe; ivars->…Pipe.descriptor = endpointDescriptor;`. -/
def setDescriptor (s : XboxOneInputInterface) (sel : PipeSel) (d : IOUSBEndpointDescriptor) :
    XboxOneInputInterface :=
  s.setPipeData sel { s.pipeData sel with descriptor := some d }

/-- `CopyPipe` writing the pipe it copied through `pipe`. -/
def setPipe (s : XboxOneInputInterface) (sel : PipeSel) (p : Nat) : XboxOneInputInterface :=
  s.setPipeData sel { s.pipeData sel with pipe := some p }

@[simp] theorem setDescriptor_pipe (s : XboxOneInputInterface) (sel sel' : PipeSel)
    (d : IOUSBEndpointDescriptor) : ((s.setDescriptor sel d).pipeData sel').pipe = (s.pipeData sel').pipe := by
  cases sel <;> cases sel' <;> rfl

@[simp] theorem setDescriptor_descriptor (s : XboxOneInputInterface) (sel sel' : PipeSel)
    (d : IOUSBEndpointDescriptor) : ((s.setDescriptor sel d).pipeData sel').descriptor =
      if sel' = sel then some d else (s.pipeData sel').descriptor := by
  cases sel <;> cases sel' <;> rfl

@[simp] theorem setPipe_pipe (s : XboxOneInputInterface) (sel sel' : PipeSel) (p : Nat) :
    ((s.setPipe sel p).pipeData sel').pipe = if sel' = sel then some p else (s.pipeData sel').pipe := by
  cases sel <;> cases sel' <;> rfl

@[simp] theorem setPipe_descriptor (s : XboxOneInputInterface) (sel sel' : PipeSel) (p : Nat) :
    ((s.setPipe sel p).pipeData sel').descriptor = (s.pipeData sel').descriptor := by
  cases sel <;> cases sel' <;> rfl

/-- The loop of `InitPipes` over the endpoint descriptors still to come. `copyPipe` holds
`CopyPipe`'s answers, call by call. Returns the result, the state and the calls made. -/
def initPipesLoop : XboxOneInputInterface → List (Option Nat) → List IOUSBEndpointDescriptor →
    Bool × XboxOneInputInterface × List CopyPipeCall
  | s, _, [] => (false, s, [])
  | s, copyPipe, d :: rest =>
    match scanPipe? d with
    | none => initPipesLoop s copyPipe rest
    | some sel =>
      let s := s.setDescriptor sel d
      let call : CopyPipeCall := ⟨ioUSBGetEndpointAddress d, sel, copyPipe.headD none⟩
      match copyPipe.headD none with
      | none => (false, s, [call])
      | some p =>
        let s := s.setPipe sel p
        if (s.pipeData .inPipe).pipe.isSome ∧ (s.pipeData .outPipe).pipe.isSome then (true, s, [call])
        else
          let r := initPipesLoop s copyPipe.tail rest
          (r.1, r.2.1, call :: r.2.2)

/-- `InitPipes`. -/
def initPipes (copyPipe : List (Option Nat)) (s : XboxOneInputInterface) :
    Bool × XboxOneInputInterface × List CopyPipeCall :=
  initPipesLoop s copyPipe (s.interfaceDescriptor.getD [])

theorem initPipesLoop_skip (s : XboxOneInputInterface) (copyPipe : List (Option Nat))
    {d : IOUSBEndpointDescriptor} (rest : List IOUSBEndpointDescriptor) (hd : scanPipe? d = none) :
    initPipesLoop s copyPipe (d :: rest) = initPipesLoop s copyPipe rest := by
  simp [initPipesLoop, hd]

theorem initPipesLoop_fail (s : XboxOneInputInterface) {d : IOUSBEndpointDescriptor} {sel : PipeSel}
    (rest : List IOUSBEndpointDescriptor) (hd : scanPipe? d = some sel) (copyPipe : List (Option Nat))
    (hc : copyPipe.headD none = none) :
    (initPipesLoop s copyPipe (d :: rest)).1 = false := by
  simp only [initPipesLoop, hd, hc]

theorem initPipesLoop_copy (s : XboxOneInputInterface) {d : IOUSBEndpointDescriptor} {sel : PipeSel}
    (rest : List IOUSBEndpointDescriptor) (hd : scanPipe? d = some sel) (p : Nat)
    (tl : List (Option Nat)) :
    initPipesLoop s (some p :: tl) (d :: rest) =
      let s' := (s.setDescriptor sel d).setPipe sel p
      if (s'.pipeData .inPipe).pipe.isSome ∧ (s'.pipeData .outPipe).pipe.isSome then
        (true, s', [⟨ioUSBGetEndpointAddress d, sel, some p⟩])
      else
        let r := initPipesLoop s' tl rest
        (r.1, r.2.1, ⟨ioUSBGetEndpointAddress d, sel, some p⟩ :: r.2.2) := by
  simp only [initPipesLoop, hd, List.headD_cons, List.tail_cons]

@[simp] theorem initPipesLoop_traffic (s : XboxOneInputInterface) (copyPipe : List (Option Nat))
    (eps : List IOUSBEndpointDescriptor) : (initPipesLoop s copyPipe eps).2.1.traffic = s.traffic := by
  induction eps generalizing s copyPipe with
  | nil => rfl
  | cons d rest ih =>
    unfold initPipesLoop
    split
    · exact ih s copyPipe
    · split
      · simp [setDescriptor]
      · dsimp only
        split
        · simp [setDescriptor, setPipe]
        · simp [ih, setDescriptor, setPipe]

@[simp] theorem initPipes_traffic (copyPipe : List (Option Nat)) (s : XboxOneInputInterface) :
    (initPipes copyPipe s).2.1.traffic = s.traffic :=
  initPipesLoop_traffic _ _ _

/-- A property `setDescriptor` and `setPipe` keep, the scan keeps. -/
theorem initPipesLoop_preserves (P : XboxOneInputInterface → Prop)
    (hd : ∀ s sel d, P s → P (s.setDescriptor sel d)) (hp : ∀ s sel p, P s → P (s.setPipe sel p))
    (s : XboxOneInputInterface) (copyPipe : List (Option Nat)) (eps : List IOUSBEndpointDescriptor)
    (h : P s) : P (initPipesLoop s copyPipe eps).2.1 := by
  induction eps generalizing s copyPipe with
  | nil => exact h
  | cons d rest ih =>
    unfold initPipesLoop
    split
    · exact ih s copyPipe h
    · next sel _ =>
      have h' := hd s sel d h
      split
      · exact h'
      · dsimp only
        split
        · exact hp _ _ _ h'
        · exact ih _ _ (hp _ _ _ h')

/-! ### What the scan keeps -/

/-- The last call that copied into a pipe. -/
def lastInto (calls : List CopyPipeCall) (sel : PipeSel) : Option CopyPipeCall :=
  (calls.filter (·.into = sel)).getLast?

theorem lastInto_append (xs ys : List CopyPipeCall) (sel : PipeSel) :
    lastInto (xs ++ ys) sel = (lastInto ys sel).or (lastInto xs sel) := by
  simp only [lastInto, List.filter_append, List.getLast?_append]

@[simp] theorem lastInto_nil (sel : PipeSel) : lastInto [] sel = none := rfl

@[simp] theorem lastInto_singleton (c : CopyPipeCall) (sel : PipeSel) :
    lastInto [c] sel = if c.into = sel then some c else none := by
  by_cases h : c.into = sel <;> simp [lastInto, h]

/-- A call no later call copies over is the last one into its pipe. -/
theorem lastInto_of_not_overwritten (calls : List CopyPipeCall) (i : Nat) (hi : i < calls.length)
    (h : ∀ c ∈ calls.drop (i + 1), c.into ≠ calls[i].into) :
    lastInto calls calls[i].into = some calls[i] := by
  obtain ⟨c, hc⟩ : ∃ c, calls[i] = c := ⟨_, rfl⟩
  rw [hc] at h ⊢
  have hsplit : calls = calls.take i ++ [c] ++ calls.drop (i + 1) := by
    rw [← hc, List.take_concat_get' calls i hi, List.take_append_drop]
  have hnone : lastInto (calls.drop (i + 1)) c.into = none := by
    simpa [lastInto, List.filter_eq_nil_iff] using h
  rw [hsplit, lastInto_append, hnone, lastInto_append]
  simp

/-- What the scan keeps true while its copies succeed: the last call into each pipe copied
the pipe it holds, at the address of the descriptor it holds, an endpoint of its
direction; and a pipe is set only by a call. -/
structure ScanInv (s : XboxOneInputInterface) (calls : List CopyPipeCall) : Prop where
  last : ∀ sel c, lastInto calls sel = some c → c.result = (s.pipeData sel).pipe ∧
    ∃ d, (s.pipeData sel).descriptor = some d ∧ c.address = ioUSBGetEndpointAddress d ∧
      scanPipe? d = some sel
  copied : ∀ sel, (s.pipeData sel).pipe ≠ none → lastInto calls sel ≠ none

theorem ScanInv.start (s : XboxOneInputInterface) (hin : s.inPipe.pipe = none)
    (hout : s.outPipe.pipe = none) : ScanInv s [] :=
  ⟨by simp, fun sel => by cases sel <;> simp_all⟩

/-- One successful copy keeps the invariant. -/
theorem ScanInv.copy {s : XboxOneInputInterface} {calls : List CopyPipeCall}
    (h : ScanInv s calls) {d : IOUSBEndpointDescriptor} {sel : PipeSel}
    (hd : scanPipe? d = some sel) (p : Nat) :
    ScanInv ((s.setDescriptor sel d).setPipe sel p)
      (calls ++ [⟨ioUSBGetEndpointAddress d, sel, some p⟩]) := by
  constructor
  · intro sel' c hc
    rw [lastInto_append, lastInto_singleton] at hc
    by_cases hs : sel = sel'
    · subst hs
      simp only [↓reduceIte, Option.or_some, Option.some.injEq] at hc
      subst hc
      simp [hd]
    · simp only [hs, ↓reduceIte, Option.none_or] at hc
      simpa [Ne.symm hs] using h.last sel' c hc
  · intro sel' hp
    rw [lastInto_append, lastInto_singleton]
    by_cases hs : sel = sel'
    · simp [hs]
    · simpa [hs, Ne.symm hs] using h.copied sel' (by simpa [Ne.symm hs] using hp)

/-- A successful scan keeps the invariant over all its calls, and ends with both pipes set. -/
theorem ScanInv.loop {s : XboxOneInputInterface} {calls : List CopyPipeCall}
    (copyPipe : List (Option Nat)) (eps : List IOUSBEndpointDescriptor) (h : ScanInv s calls)
    (hok : (initPipesLoop s copyPipe eps).1 = true) :
    ScanInv (initPipesLoop s copyPipe eps).2.1 (calls ++ (initPipesLoop s copyPipe eps).2.2) ∧
      ((initPipesLoop s copyPipe eps).2.1.pipeData .inPipe).pipe.isSome ∧
      ((initPipesLoop s copyPipe eps).2.1.pipeData .outPipe).pipe.isSome := by
  induction eps generalizing s calls copyPipe with
  | nil => simp [initPipesLoop] at hok
  | cons d rest ih =>
    rcases hd : scanPipe? d with _ | sel
    · rw [initPipesLoop_skip s copyPipe rest hd] at hok ⊢
      exact ih copyPipe h hok
    · rcases copyPipe with _ | ⟨_ | p, tl⟩
      · simp [initPipesLoop_fail s rest hd] at hok
      · simp [initPipesLoop_fail s rest hd] at hok
      · have hcopy := h.copy hd p
        rw [initPipesLoop_copy s rest hd] at hok ⊢
        dsimp only at hok ⊢
        split
        · next hboth => exact ⟨hcopy, hboth⟩
        · next hboth =>
          simp only [hboth, ↓reduceIte] at hok
          simpa [List.append_assoc] using ih tl hcopy hok

/-! ### When the scan succeeds -/

/-- Within the first `k` endpoints the scan meets an interrupt endpoint of each direction
(or finds its pipe already set: `hasIn`, `hasOut`), and every copy it makes there is
answered by a pipe. -/
def ScanFindsFrom (hasIn hasOut : Bool) (copyPipe : List (Option Nat))
    (eps : List IOUSBEndpointDescriptor) : Prop :=
  ∃ k, (hasIn ∨ ∃ d ∈ eps.take k, scanPipe? d = some .inPipe) ∧
    (hasOut ∨ ∃ d ∈ eps.take k, scanPipe? d = some .outPipe) ∧
    ∀ i < ((eps.take k).filter (scanPipe? · |>.isSome)).length, (copyPipe.getD i none).isSome

/-- A skipped endpoint: met within `k + 1` endpoints from it iff within `k` after it. -/
theorem met_skip_iff {d : IOUSBEndpointDescriptor} (rest : List IOUSBEndpointDescriptor)
    (hd : scanPipe? d = none) (t : PipeSel) (k : Nat) :
    (∃ x ∈ (d :: rest).take (k + 1), scanPipe? x = some t) ↔ ∃ x ∈ rest.take k, scanPipe? x = some t := by
  simp [List.take_succ_cons, hd]

theorem scanFindsFrom_skip {hasIn hasOut : Bool} (hboth : ¬ (hasIn ∧ hasOut))
    (copyPipe : List (Option Nat)) {d : IOUSBEndpointDescriptor}
    (rest : List IOUSBEndpointDescriptor) (hd : scanPipe? d = none) :
    ScanFindsFrom hasIn hasOut copyPipe (d :: rest) ↔ ScanFindsFrom hasIn hasOut copyPipe rest := by
  have hf (k : Nat) : ((d :: rest).take (k + 1)).filter (scanPipe? · |>.isSome) =
      (rest.take k).filter (scanPipe? · |>.isSome) := by
    simp [List.take_succ_cons, List.filter_cons, hd]
  constructor
  · rintro ⟨_ | k, hi, ho, hc⟩
    · simp_all
    · exact ⟨k, by rwa [← met_skip_iff rest hd], by rwa [← met_skip_iff rest hd], by rwa [← hf]⟩
  · rintro ⟨k, hi, ho, hc⟩
    exact ⟨k + 1, by rwa [met_skip_iff rest hd], by rwa [met_skip_iff rest hd], by rwa [hf]⟩

theorem forall_getD_cons (o : Option Nat) (tl : List (Option Nat)) (n : Nat) :
    (∀ i < n + 1, ((o :: tl).getD i none).isSome) ↔ o.isSome ∧ ∀ i < n, (tl.getD i none).isSome := by
  constructor
  · intro h
    exact ⟨by simpa using h 0 (by omega), fun i hi => by simpa using h (i + 1) (by omega)⟩
  · rintro ⟨h0, h⟩ (_ | i) hi
    · simpa using h0
    · simpa using h i (by omega)

/-- A failed copy: the scan cannot succeed past it. -/
theorem not_scanFindsFrom_fail {hasIn hasOut : Bool} (hboth : ¬ (hasIn ∧ hasOut))
    {d : IOUSBEndpointDescriptor} {sel : PipeSel} (rest : List IOUSBEndpointDescriptor)
    (hd : scanPipe? d = some sel) (tl : List (Option Nat)) :
    ¬ ScanFindsFrom hasIn hasOut (none :: tl) (d :: rest) := by
  rintro ⟨_ | k, hi, ho, hc⟩
  · simp_all
  · simp only [List.take_succ_cons, List.filter_cons, hd, Option.isSome_some, ↓reduceIte,
      List.length_cons] at hc
    simpa using hc 0 (by omega)

/-- One direction of a successful copy into `sel`: met within `k + 1` endpoints from here iff
met within `k` from the next, with `sel`'s flag set. -/
theorem met_copy_iff {d : IOUSBEndpointDescriptor} {sel : PipeSel} (rest : List IOUSBEndpointDescriptor)
    (hd : scanPipe? d = some sel) (has : Bool) (t : PipeSel) (k : Nat) :
    (has = true ∨ ∃ x ∈ (d :: rest).take (k + 1), scanPipe? x = some t) ↔
      ((decide (sel = t) || has) = true ∨ ∃ x ∈ rest.take k, scanPipe? x = some t) := by
  simp only [List.take_succ_cons, List.mem_cons, exists_eq_or_imp, hd, Option.some.injEq,
    Bool.or_eq_true, decide_eq_true_eq, or_assoc]
  exact or_left_comm

/-- A successful copy into `sel`: the scan succeeds from here iff it does from the next
endpoint with `sel` set. -/
theorem scanFindsFrom_copy {hasIn hasOut : Bool} (hboth : ¬ (hasIn ∧ hasOut))
    {d : IOUSBEndpointDescriptor} {sel : PipeSel} (rest : List IOUSBEndpointDescriptor)
    (hd : scanPipe? d = some sel) (p : Nat) (tl : List (Option Nat)) :
    ScanFindsFrom hasIn hasOut (some p :: tl) (d :: rest) ↔
      ScanFindsFrom (decide (sel = .inPipe) || hasIn) (decide (sel = .outPipe) || hasOut) tl rest := by
  constructor
  · rintro ⟨_ | k, hi, ho, hc⟩
    · simp_all
    · simp only [List.take_succ_cons, List.filter_cons, hd, Option.isSome_some, ↓reduceIte,
        List.length_cons, forall_getD_cons, true_and] at hc
      exact ⟨k, (met_copy_iff rest hd _ _ k).1 hi, (met_copy_iff rest hd _ _ k).1 ho, hc⟩
  · rintro ⟨k, hi, ho, hc⟩
    refine ⟨k + 1, (met_copy_iff rest hd _ _ k).2 hi, (met_copy_iff rest hd _ _ k).2 ho, ?_⟩
    simp only [List.take_succ_cons, List.filter_cons, hd, Option.isSome_some, ↓reduceIte,
      List.length_cons]
    exact (forall_getD_cons _ _ _).2 ⟨rfl, hc⟩

theorem copy_isSome (s : XboxOneInputInterface) (d : IOUSBEndpointDescriptor) (sel sel' : PipeSel)
    (p : Nat) : (((s.setDescriptor sel d).setPipe sel p).pipeData sel').pipe.isSome =
      (decide (sel = sel') || (s.pipeData sel').pipe.isSome) := by
  cases sel <;> cases sel' <;> rfl

/-- The scan succeeds exactly when it meets an interrupt endpoint of each direction before a
copy fails. -/
theorem initPipesLoop_iff (s : XboxOneInputInterface) (copyPipe : List (Option Nat))
    (eps : List IOUSBEndpointDescriptor)
    (hboth : ¬ ((s.pipeData .inPipe).pipe.isSome ∧ (s.pipeData .outPipe).pipe.isSome)) :
    (initPipesLoop s copyPipe eps).1 = true ↔
      ScanFindsFrom (s.pipeData .inPipe).pipe.isSome (s.pipeData .outPipe).pipe.isSome copyPipe eps := by
  induction eps generalizing s copyPipe with
  | nil =>
    simp only [initPipesLoop, Bool.false_eq_true, false_iff]
    rintro ⟨k, hi, ho, -⟩
    simp_all
  | cons d rest ih =>
    rcases hd : scanPipe? d with _ | sel
    · rw [initPipesLoop_skip s copyPipe rest hd, ih s copyPipe hboth]
      exact (scanFindsFrom_skip hboth copyPipe rest hd).symm
    · rcases copyPipe with _ | ⟨_ | p, tl⟩
      · rw [initPipesLoop_fail s rest hd [] rfl]
        simp only [Bool.false_eq_true, false_iff]
        rintro ⟨_ | k, hi, ho, hc⟩
        · simp_all
        · simp only [List.take_succ_cons, List.filter_cons, hd, Option.isSome_some, ↓reduceIte,
            List.length_cons] at hc
          simpa using hc 0 (by omega)
      · rw [initPipesLoop_fail s rest hd (none :: tl) rfl]
        simpa using not_scanFindsFrom_fail hboth rest hd tl
      · rw [initPipesLoop_copy s rest hd, scanFindsFrom_copy hboth rest hd]
        dsimp only
        split
        · next hboth' =>
          rw [copy_isSome, copy_isSome] at hboth'
          simp only [true_iff]
          exact ⟨0, .inl hboth'.1, .inl hboth'.2, by simp⟩
        · next hboth' => rw [ih _ tl hboth', copy_isSome, copy_isSome]

/-! ### The scan's contract -/

theorem scanPipe?_eq_some {d : IOUSBEndpointDescriptor} {sel : PipeSel} :
    scanPipe? d = some sel ↔
      ioUSBGetEndpointType d = kIOUSBEndpointTypeInterrupt ∧ ioUSBGetEndpointDirection d = sel.direction := by
  unfold scanPipe?
  cases sel <;> split_ifs <;> simp_all [PipeSel.direction, kIOUSBEndpointDirectionIn,
    kIOUSBEndpointDirectionOut]

/-- **What `InitPipes` finds.** From pipes not yet set, for every endpoint list and every
sequence of `CopyPipe` answers: the scan succeeds exactly when it meets an interrupt IN and
an interrupt OUT endpoint with every copy so far answered by a pipe. Then each pipe holds
an interrupt endpoint of its direction, the last call into the pipe copied the pipe it
holds at that endpoint's address, and a pipe a call copied is held unless a later call
copied into the same pipe. -/
theorem initPipes_spec (copyPipe : List (Option Nat)) (s : XboxOneInputInterface)
    (hin : s.inPipe.pipe = none) (hout : s.outPipe.pipe = none) :
    ((initPipes copyPipe s).1 = true ↔
      ScanFindsFrom false false copyPipe (s.interfaceDescriptor.getD [])) ∧
    ((initPipes copyPipe s).1 = true →
      (∀ sel, ∃ d, ((initPipes copyPipe s).2.1.pipeData sel).descriptor = some d ∧
        ioUSBGetEndpointType d = kIOUSBEndpointTypeInterrupt ∧
        ioUSBGetEndpointDirection d = sel.direction ∧
        ((initPipes copyPipe s).2.1.pipeData sel).pipe.isSome ∧
        lastInto (initPipes copyPipe s).2.2 sel =
          some ⟨ioUSBGetEndpointAddress d, sel, ((initPipes copyPipe s).2.1.pipeData sel).pipe⟩) ∧
      ∀ i (hi : i < (initPipes copyPipe s).2.2.length) q,
        (initPipes copyPipe s).2.2[i].result = some q →
        ((initPipes copyPipe s).2.1.pipeData (initPipes copyPipe s).2.2[i].into).pipe = some q ∨
          ∃ c ∈ (initPipes copyPipe s).2.2.drop (i + 1), c.into = (initPipes copyPipe s).2.2[i].into) := by
  have hboth : ¬ ((s.pipeData .inPipe).pipe.isSome ∧ (s.pipeData .outPipe).pipe.isSome) := by
    simp [hin]
  refine ⟨by simpa [hin, hout] using initPipesLoop_iff s copyPipe _ hboth, fun hok => ?_⟩
  obtain ⟨hinv, hi, ho⟩ := ScanInv.loop copyPipe _ (ScanInv.start s hin hout) hok
  simp only [List.nil_append] at hinv
  unfold initPipes
  generalize initPipesLoop s copyPipe (s.interfaceDescriptor.getD []) = r at hinv hi ho ⊢
  have hset : ∀ sel, (r.2.1.pipeData sel).pipe.isSome := by
    intro sel; cases sel <;> assumption
  refine ⟨fun sel => ?_, fun i hi q hq => ?_⟩
  · obtain ⟨c, hc⟩ := Option.ne_none_iff_exists'.mp
      (hinv.copied sel (Option.isSome_iff_ne_none.mp (hset sel)))
    obtain ⟨hres, d, hd, haddr, hscan⟩ := hinv.last sel c hc
    refine ⟨d, hd, (scanPipe?_eq_some.mp hscan).1, (scanPipe?_eq_some.mp hscan).2, hset sel, ?_⟩
    have hinto : c.into = sel := by
      simpa using (List.mem_filter.mp (List.mem_of_getLast?_eq_some hc)).2
    rw [hc, ← hres, ← haddr, ← hinto]
  · by_cases hlater : ∃ c ∈ r.2.2.drop (i + 1), c.into = r.2.2[i].into
    · exact .inr hlater
    · push_neg at hlater
      exact .inl ((hinv.last _ _ (lastInto_of_not_overwritten _ i hi hlater)).1 ▸ hq)

/-- The interrupt endpoints of the controller's input interface: `0x81` IN and `0x01` OUT. -/
def controllerEndpoints : List IOUSBEndpointDescriptor := [⟨0x81, 0x03⟩, ⟨0x01, 0x03⟩]

theorem initPipes_spec_controller :
    let s : XboxOneInputInterface := { init with interfaceDescriptor := some controllerEndpoints }
    s.inPipe.pipe = none ∧ s.outPipe.pipe = none ∧
    ((initPipes [some 1, some 2] s).1 = true ↔
      ScanFindsFrom false false [some 1, some 2] (s.interfaceDescriptor.getD [])) ∧
    ((initPipes [some 1, some 2] s).1 = true →
      (∀ sel, ∃ d, ((initPipes [some 1, some 2] s).2.1.pipeData sel).descriptor = some d ∧
        ioUSBGetEndpointType d = kIOUSBEndpointTypeInterrupt ∧
        ioUSBGetEndpointDirection d = sel.direction ∧
        ((initPipes [some 1, some 2] s).2.1.pipeData sel).pipe.isSome ∧
        lastInto (initPipes [some 1, some 2] s).2.2 sel =
          some ⟨ioUSBGetEndpointAddress d, sel, ((initPipes [some 1, some 2] s).2.1.pipeData sel).pipe⟩) ∧
      ∀ i (hi : i < (initPipes [some 1, some 2] s).2.2.length) q,
        (initPipes [some 1, some 2] s).2.2[i].result = some q →
        ((initPipes [some 1, some 2] s).2.1.pipeData (initPipes [some 1, some 2] s).2.2[i].into).pipe =
            some q ∨
          ∃ c ∈ (initPipes [some 1, some 2] s).2.2.drop (i + 1),
            c.into = (initPipes [some 1, some 2] s).2.2[i].into) :=
  ⟨rfl, rfl, initPipes_spec [some 1, some 2] _ rfl rfl⟩

/-- Two interrupt IN endpoints ahead of the OUT one. -/
def twoInEndpoints : List IOUSBEndpointDescriptor := [⟨0x81, 0x03⟩, ⟨0x82, 0x03⟩, ⟨0x02, 0x03⟩]

/-- The pipe copied for the first IN endpoint is overwritten by the second: the scan succeeds
holding pipes 2 and 3, and pipe 1, which `CopyPipe` returned, is held by neither. -/
theorem initPipes_overwrites_first_pipe :
    (initPipes [some 1, some 2, some 3] { init with interfaceDescriptor := some twoInEndpoints }).1 =
        true ∧
      ⟨0x81, .inPipe, some 1⟩ ∈
        (initPipes [some 1, some 2, some 3] { init with interfaceDescriptor := some twoInEndpoints }).2.2 ∧
      (initPipes [some 1, some 2, some 3]
        { init with interfaceDescriptor := some twoInEndpoints }).2.1.inPipe.pipe = some 2 ∧
      (initPipes [some 1, some 2, some 3]
        { init with interfaceDescriptor := some twoInEndpoints }).2.1.outPipe.pipe = some 3 := by
  decide

/-! ## Pipe setup -/

/-- What the framework answers while `SetupPipe` configures one pipe: `GetSpeed`,
`IOUSBGetEndpointIntervalFrames`, `IOUSBGetEndpointMaxPacketSize`, `CreateIOBuffer` and `Map`
(the mapped length and the buffer's bytes). `none` is an error. -/
structure PipeSetupEnv where
  speed : Option UInt8
  interval : UInt32
  maxPacketSize : UInt64
  buffer : Option Nat
  map : Option (UInt64 × Memory)

/-- `SetupPipe`. -/
def setupPipe (sel : PipeSel) (e : PipeSetupEnv) (s : XboxOneInputInterface) :
    Bool × XboxOneInputInterface :=
  let update (f : UsbPipeData → UsbPipeData) (s : XboxOneInputInterface) :=
    s.setPipeData sel (f (s.pipeData sel))
  match e.speed with
  | none => (false, s)
  | some speed =>
    let s := update ({ · with speed, interval := e.interval }) s
    if e.interval = 0 then (false, s) else
    let s := update ({ · with maxPacketSize := e.maxPacketSize }) s
    if e.maxPacketSize = 0 then (false, s) else
    match e.buffer with
    | none => (false, s)
    | some b =>
      let s := update (fun p => { p with memory := { p.memory with buffer := some b } }) s
      match e.map with
      | none => (false, s)
      | some (length, bytes) =>
        (true, update (fun p => { p with memory := { p.memory with address := bytes, length } }) s)

/-- **What a successful `SetupPipe` does**: every answer was good, and the pipe gets the speed,
interval and packet size it was answered, and the mapped buffer. -/
theorem setupPipe_eq_true {sel : PipeSel} {e : PipeSetupEnv} {s : XboxOneInputInterface}
    (h : (setupPipe sel e s).1 = true) :
    ∃ speed b length bytes, e.speed = some speed ∧ e.interval ≠ 0 ∧ e.maxPacketSize ≠ 0 ∧
      e.buffer = some b ∧ e.map = some (length, bytes) ∧
      (setupPipe sel e s).2 = s.setPipeData sel { s.pipeData sel with
        speed, interval := e.interval, maxPacketSize := e.maxPacketSize,
        memory := ⟨some b, bytes, length⟩ } := by
  unfold setupPipe at h ⊢
  split at h
  · cases h
  · next speed hs =>
    split_ifs at h ⊢ with hi hm
    split at h
    · cases h
    · next b hb =>
      split at h
      · cases h
      · next length bytes hmap =>
        simp only [hs, hb, hmap]
        exact ⟨speed, b, length, bytes, rfl, hi, hm, rfl, rfl, by cases sel <;> rfl⟩

/-- What `SetupPipes` is answered: `CopyProperties`, the two report-size properties, and the
two pipes' setups. -/
structure PipesEnv where
  copyProperties : KernReturn
  maxInputReportSize : UInt64
  maxOutputReportSize : UInt64
  inSetup : PipeSetupEnv
  outSetup : PipeSetupEnv

/-- `SetupPipes`. Both report sizes are stored in `inPipe.reportSize`, as the source does. -/
def setupPipes (e : PipesEnv) (s : XboxOneInputInterface) : Bool × XboxOneInputInterface :=
  if e.copyProperties ≠ kIOReturnSuccess then (false, s) else
  let (ok, s) := setupPipe .inPipe e.inSetup s
  if !ok then (false, s) else
  let s := { s with inPipe := { s.inPipe with reportSize := e.maxInputReportSize } }
  let (ok, s) := setupPipe .outPipe e.outSetup s
  if !ok then (false, s) else
  (true, { s with inPipe := { s.inPipe with reportSize := e.maxOutputReportSize } })

@[simp] theorem setupPipe_traffic (sel : PipeSel) (e : PipeSetupEnv) (s : XboxOneInputInterface) :
    (setupPipe sel e s).2.traffic = s.traffic := by
  unfold setupPipe
  split
  · rfl
  · split_ifs
    · simp
    · simp
    · split
      · simp
      · split <;> simp

@[simp] theorem setupPipes_traffic (e : PipesEnv) (s : XboxOneInputInterface) :
    (setupPipes e s).2.traffic = s.traffic := by
  unfold setupPipes
  split_ifs
  · rfl
  · have h₁ := setupPipe_traffic .inPipe e.inSetup s
    rcases hp : setupPipe .inPipe e.inSetup s with ⟨_ | _, s₁⟩ <;> rw [hp] at h₁
    · exact h₁
    · dsimp only
      have h₂ := setupPipe_traffic .outPipe e.outSetup
        { s₁ with inPipe := { s₁.inPipe with reportSize := e.maxInputReportSize } }
      rcases hq : setupPipe .outPipe e.outSetup
        { s₁ with inPipe := { s₁.inPipe with reportSize := e.maxInputReportSize } } with
        ⟨_ | _, s₂⟩ <;> rw [hq] at h₂
      · exact h₂.trans h₁
      · exact h₂.trans h₁

end XboxOneInputInterface

end XboxControllerDriver
