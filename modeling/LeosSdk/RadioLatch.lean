import LeosSdk.RadioChip

/-!
# SX126x: no DIO1 interrupt is lost

DIO1 is edge-triggered: while it stays high no further interrupt comes, so
`irq_pending` must be set whenever an operation returns with DIO1 high.
`LatchInv` is what every call but three keeps on its own; the three places
that clear `irq_pending` are `poll`, right before the handler that clears
the whole status, and the two start functions.

There the order matters. `start_tx` clears `irq_pending` before it arms the
radio, `start_rx` after `sx1262_continuous_receive`, and both after
`sx1262_clear_irq_status`: an enabled source raised between the two is
forgotten with DIO1 high (`late_rx_done_lost`). Nothing is lost when no
enabled source is raised in that window (`Quiet`).

The proof says what holds at each place of a start function, not what it
does: within the window DIO1 is low (`LatchArming`), because the status was
cleared and nothing enabled is raised; where the flag is cleared the line is
therefore low, and from there on every rise of it sets the flag again. An
operation starts and ends with the window closed (`LatchIdle`).

Radio events fall between driver calls (`radioChip`). What is raised inside
a call, such as between the read and the clear of `sx1262_irq_handler`, is
not among the events that `Quiet` speaks of.
-/

namespace LeosSdk

namespace Sx126x

open Prog (modify)

/-- No radio event of an enabled source while a start function is between
its `sx1262_clear_irq_status` and its clearing of `irq_pending`. A radio
event here is one between two driver calls. -/
def Quiet (c : Chip) (q : Irq) : Prop := c.arming = true → c.enabled q = false

variable {c c' : Chip} {s : Ctx}

/-! ## The invariant -/

structure LatchInv (c : Chip) : Prop where
  flagged : c.dio1 = true → c.latch.irqPending = true
  low : c.arming = true → c.dio1 = false

theorem latchInv_low (h : c.dio1 = false) : LatchInv c := by
  refine ⟨fun hd => ?_, fun _ => h⟩
  rw [h] at hd
  cases hd

theorem raise_disabled {q : Irq} (h : c.enabled q = false) : (c.raise q).dio1 = c.dio1 := by
  simp [Chip.dio1, Chip.raise, h]

theorem latchInv_raise (h : Raise Quiet c c') (hi : LatchInv c) : LatchInv c' := by
  obtain ⟨q, nowMs, _, hquiet, rfl⟩ := h
  refine ⟨edge_flagged hi.flagged rfl, fun harm => ?_⟩
  have harm' : c.arming = true := by simpa [Chip.raise] using harm
  rw [edge_dio1, raise_disabled (hquiet harm')]
  exact hi.low harm'

theorem arming_raise {allow : Chip → Irq → Prop} (h : Raise allow c c') :
    c'.arming = c.arming := by
  obtain ⟨q, nowMs, _, _, rfl⟩ := h
  simp [Chip.raise]

/-- The invariant between operations. -/
structure LatchIdle (c : Chip) : Prop extends LatchInv c where
  closed : c.arming = false

/-- The invariant inside the window. -/
structure LatchArming (c : Chip) : Prop extends LatchInv c where
  opened : c.arming = true

theorem latchIdle_raise (c c' : Chip) (h : Raise Quiet c c') (hi : LatchIdle c) :
    LatchIdle c' :=
  ⟨latchInv_raise h hi.toLatchInv, (arming_raise h).trans hi.closed⟩

theorem latchArming_raise (c c' : Chip) (h : Raise Quiet c c') (hi : LatchArming c) :
    LatchArming c' :=
  ⟨latchInv_raise h hi.toLatchInv, (arming_raise h).trans hi.opened⟩

/-! ## What the calls keep -/

/-- A change of the operating mode touches neither line nor latch. -/
theorem latchInv_op (op : ChipMode) (hi : LatchInv c) : LatchInv { c with op := op } :=
  ⟨hi.flagged, hi.low⟩

theorem latchArming_clear {rc : UInt8}
    (h : radioChip Quiet c (.cmd (.clearIrqStatus irqMaskAll)) rc c') : LatchArming c' := by
  obtain ⟨c₁, _, _, rfl⟩ := h
  exact ⟨latchInv_low (dio1_low fun q => by simp [irqMaskAll]), rfl⟩

theorem latchArming_standby {source : ClockSource} {rc : UInt8} (hi : LatchArming c)
    (h : radioChip Quiet c (.cmd (.setStandby source)) rc c') : LatchArming c' := by
  obtain ⟨c₁, ht, _, rfl⟩ := h
  have h₁ := ticks_preserve latchArming_raise ht hi
  exact ⟨latchInv_op _ h₁.toLatchInv, h₁.opened⟩

theorem latchArming_receive {rc : UInt8} (hi : LatchArming c)
    (h : radioChip Quiet c (.cmd .continuousReceive) rc c') : LatchArming c' := by
  obtain ⟨c₁, ht, _, rfl⟩ := h
  have h₁ := ticks_preserve latchArming_raise ht hi
  exact ⟨latchInv_op _ h₁.toLatchInv, h₁.opened⟩

/-- The end of the window: DIO1 is low when `irq_pending` is cleared. -/
theorem latchIdle_clearPending {r : Unit} (hi : LatchArming c)
    (h : radioChip Quiet c (.setIrqPending false) r c') : LatchIdle c' := by
  obtain ⟨c₁, ht, rfl⟩ := h
  have h₁ := ticks_preserve latchArming_raise ht hi
  exact ⟨latchInv_low (h₁.low h₁.opened), rfl⟩

theorem latchIdle_latchedAt {ms : UInt64} {r : Unit} (hi : LatchIdle c)
    (h : radioChip Quiet c (.setIrqLatchedAtMs ms) r c') : LatchIdle c' := by
  obtain ⟨c₁, ht, rfl⟩ := h
  have h₁ := ticks_preserve latchIdle_raise ht hi
  exact ⟨⟨h₁.flagged, h₁.low⟩, h₁.closed⟩

theorem latchIdle_setTx {timeout : UInt32} {rc : UInt8} (hi : LatchIdle c)
    (h : radioChip Quiet c (.cmd (.setTx timeout)) rc c') : LatchIdle c' := by
  obtain ⟨c₁, ht, _, rfl⟩ := h
  have h₁ := ticks_preserve latchIdle_raise ht hi
  exact ⟨latchInv_op _ h₁.toLatchInv, h₁.closed⟩

theorem latchIdle_handled {a : List Report × UInt8}
    (hc : c.arming = false) (h : radioChip Quiet c .irqHandler a c') : LatchIdle c' := by
  obtain ⟨c₁, ht, _, _, rfl⟩ := h
  have h₁ : c₁.arming = false :=
    ticks_preserve (J := fun c => c.arming = false)
      (fun _ _ h hc => (arming_raise h).trans hc) ht hc
  exact ⟨latchInv_low (dio1_low fun _ => rfl), h₁⟩

/-! ## The operations -/

/-- Ends idle: no postcondition on anything but the chip. -/
abbrev KeepsIdle {α : Type} (p : Api α) (s : Ctx) (c : Chip) : Prop :=
  Ensures (radioChip Quiet) p (fun _ _ _ c' => LatchIdle c') s c

theorem armTx_keepsIdle (hi : LatchArming c) : KeepsIdle armTx s c := by
  refine ensures_armTx fun c₁ h₁ c₂ h₂ nowMs c₃ h₃ rc c₄ h₄ _ _ => ?_
  have hi₁ := latchIdle_clearPending hi h₁
  have hi₂ := latchIdle_latchedAt hi₁ h₂
  have hi₃ := silent_step latchIdle_raise c₂ _ nowMs c₃ .platformNowMs hi₂ h₃
  have hi₄ := latchIdle_setTx hi₃ h₄
  exact ⟨fun _ => hi₄, fun _ => hi₄⟩

theorem startTx_keepsIdle (data : Option Buf) (len : Nat) (hi : LatchIdle c) :
    KeepsIdle (startTx data len) s c := by
  refine ensures_startTx (fun _ _ => hi) fun _ _ => ?_
  refine ensures_thenOk_succeed allSucceed_chip fun c₁ _ => ?_
  refine ensures_thenOk_succeed allSucceed_chip fun c₂ h₂ => ?_
  have hi₂ := latchArming_clear h₂
  refine ensures_thenOk_succeed allSucceed_chip fun c₃ h₃ => ?_
  have hi₃ := latchArming_standby hi₂ h₃
  refine ensures_thenOk_params allSucceed_chip fun _ _ _ c₄ h₄ => ?_
  have hi₄ := silent_step latchArming_raise c₃ _ 0 c₄
    (.setLoraPacketParamsExplicit ..) hi₃ h₄
  refine ensures_thenOk_succeed allSucceed_chip fun c₅ h₅ => ?_
  have hi₅ := silent_step latchArming_raise c₄ _ 0 c₅ (.writeBuffer ..) hi₄ h₅
  exact armTx_keepsIdle hi₅

theorem startRx_keepsIdle (hi : LatchIdle c) : KeepsIdle startRx s c := by
  refine ensures_startRx (fun _ _ => hi) fun _ _ => ?_
  refine ensures_thenOk_succeed allSucceed_chip fun c₁ _ => ?_
  refine ensures_thenOk_succeed allSucceed_chip fun c₂ h₂ => ?_
  have hi₂ := latchArming_clear h₂
  refine ensures_thenOk_params allSucceed_chip fun _ _ _ c₃ h₃ => ?_
  have hi₃ := silent_step latchArming_raise c₂ _ 0 c₃
    (.setLoraPacketParamsExplicit ..) hi₂ h₃
  refine ensures_thenOk_succeed allSucceed_chip fun c₄ h₄ => ?_
  have hi₄ := latchArming_receive hi₃ h₄
  simp only [enterRx, ensures_bind, ensures_ask, ensures_modify, ensures_pure]
  intro _ c₅ h₅
  exact latchIdle_clearPending hi₄ h₅

theorem standby_keepsIdle (hi : LatchIdle c) : KeepsIdle standby s c := by
  simp only [KeepsIdle, standby, ensures_ite, ensures_bind, ensures_read, ensures_pure,
    ensures_driver, ensures_modify]
  refine ⟨fun _ => hi, fun _ rc c₁ h₁ => ?_⟩
  obtain ⟨c₀, ht, _, rfl⟩ := h₁
  have h₀ := ticks_preserve latchIdle_raise ht hi
  have : LatchIdle { c₀ with op := .standby } :=
    ⟨latchInv_op _ h₀.toLatchInv, h₀.closed⟩
  exact ⟨fun _ => this, fun _ => this⟩

theorem serviceDeferredIrq_keepsIdle (hi : LatchIdle c) :
    KeepsIdle serviceDeferredIrq s c := by
  refine ensures_serviceDeferredIrq.mpr fun pending c₁ h₁ => ?_
  have hi₁ := silent_step latchIdle_raise c _ pending c₁ .irqPending hi h₁
  refine ⟨fun _ => hi₁, fun _ c₂ h₂ a c₃ h₃ => ?_⟩
  -- `irq_pending` is down with DIO1 high here; the handler lowers the line
  have hclosed : c₂.arming = false := by
    obtain ⟨c₀, _, rfl⟩ := h₂
    rfl
  have hi₃ := latchIdle_handled hclosed h₃
  exact fun tr _ s' c' hx => silent_kept latchIdle_raise (silent_deliver a.1) hx hi₃

theorem poll_keepsIdle (hi : LatchIdle c) : KeepsIdle poll s c := by
  refine ensures_poll.mpr ⟨fun _ => hi, fun _ => (serviceDeferredIrq_keepsIdle hi).mono ?_⟩
  intro tr status s₁ c₁ hi₁
  refine ⟨fun _ => hi₁, fun _ => ?_⟩
  exact fun tr _ s' c' hx => silent_kept latchIdle_raise silent_pollTx hx hi₁

/-! ## Runs -/

/-- An initialised radio stays initialised, and the latch keeps up with
DIO1. -/
structure LatchRun (w : Ctx × Chip) : Prop where
  initialized : w.1.initialized = true
  idle : LatchIdle w.2

theorem initialized_op {s s' : Ctx} {o : Op} {tr : List (Event Call Answer)} {r : o.Ret}
    (h : OpStep s o tr r s') (hi : s.initialized = true) : s'.initialized = true := by
  cases o with
  | init =>
      cases h with
      | refused => exact hi
      | failed hi' | done hi' => cases hi.symm.trans hi'
  | poll => exact (poll_initialized h).trans hi
  | _ => cases h <;> exact hi

theorem latch_step {w w' : Ctx × Chip} {l : RadioLabel} (h : ChipStep Quiet w l w')
    (hi : LatchRun w) : LatchRun w' := by
  cases h with
  | tick h => exact ⟨hi.initialized, latchIdle_raise _ _ h hi.idle⟩
  | @op o s c tr r s' c' hx =>
      refine ⟨initialized_op (program_spec o _ _ _ _ hx) hi.initialized, ?_⟩
      cases o with
      | init hwCfg cfg =>
          obtain ⟨_, _, rfl⟩ := init_initialized hi.initialized hwCfg cfg _ _ _ _ hx
          exact hi.idle
      | startTx data len => exact startTx_keepsIdle data len hi.idle _ _ _ _ hx
      | startRx => exact startRx_keepsIdle hi.idle _ _ _ _ hx
      | read bufNull bufSize outLenNull infoNull =>
          exact silent_kept latchIdle_raise ((callsOnly_read ..).mono fun _ h => h.elim)
            hx hi.idle
      | standby => exact standby_keepsIdle hi.idle _ _ _ _ hx
      | poll => exact poll_keepsIdle hi.idle _ _ _ _ hx

/-- In every run whose radio events spare the arming windows, a radio left
with DIO1 high is left with `irq_pending` set, and still initialised, so
that the interrupt handler latches and the next `poll` services. -/
theorem dio1_high_pending {w₀ w : Ctx × Chip} {xs : List (Rec (Ctx × Chip) RadioLabel)}
    (h0 : Initialised w₀.1 w₀.2) (h : Run (ChipStep Quiet) w₀ xs w) :
    (w.2.dio1 = true → w.2.latch.irqPending = true) ∧ w.1.initialized = true := by
  have hstart : LatchRun w₀ := ⟨h0.initialized, latchInv_low (dio1_low h0.status), h0.arming⟩
  have hend := (h.invariant LatchRun (fun _ => True) hstart
    (fun _ hs _ hi => latch_step hs hi) fun _ _ => trivial).1
  exact ⟨hend.idle.flagged, hend.initialized⟩

/-- A packet arrives as the receiver is put to standby. -/
def packetAtStandby (c : Chip) : Call → Option Irq
  | .cmd (.setStandby _) => if c.op = .rx ∧ c.arming = false then some .rxDone else none
  | _ => none

/-- A packet arriving as the receiver is put to standby is flagged. -/
theorem dio1_high_pending_rx : ∃ (w : Ctx × Chip) (xs : _),
    Run (ChipStep Quiet) (readyCtx, readyChip) xs w
      ∧ w.2.dio1 = true ∧ w.2.latch.irqPending = true := by
  have hanswers : Answers (benchChip packetAtStandby) (radioChip Quiet) := by
    refine benchChip_answers fun c i q hq => ?_
    unfold packetAtStandby at hq
    split at hq
    · split at hq
      · rename_i h
        obtain rfl := Option.some.inj hq
        rw [h.1]
        exact ⟨rfl, fun harm => by rw [h.2] at harm; cases harm⟩
      · cases hq
    · cases hq
  obtain ⟨xs, w, hrun, hw⟩ := evalsTo_run (Raise Quiet) hanswers
    (show evalsTo program _ 1 [.startRx, .standby] (readyCtx, readyChip)
      (fun _ w => w.2.dio1) = true by decide +kernel)
  exact ⟨w, xs, hrun, hw, (dio1_high_pending ready_initialised hrun).1 hw⟩

/-- A packet arrives as `start_rx` clears `irq_pending`. -/
def packetAtClear (c : Chip) : Call → Option Irq
  | .setIrqPending _ => if c.op = .rx then some .rxDone else none
  | _ => none

/-- A packet arriving between `sx1262_continuous_receive` and `start_rx`'s
clearing of `irq_pending` is lost: DIO1 stays high, unflagged. -/
theorem late_rx_done_lost : ∃ (w : Ctx × Chip) (xs : _),
    Run (ChipStep fun _ _ => True) (readyCtx, readyChip) xs w
      ∧ w.1.mode = .rx ∧ w.2.dio1 = true ∧ w.2.latch.irqPending = false := by
  have hanswers : Answers (benchChip packetAtClear) (radioChip fun _ _ => True) := by
    refine benchChip_answers fun c i q hq => ⟨?_, trivial⟩
    unfold packetAtClear at hq
    split at hq
    · split at hq
      · rename_i h
        obtain rfl := Option.some.inj hq
        rw [h]
        rfl
      · cases hq
    · cases hq
  obtain ⟨xs, w, hrun, hw⟩ := evalsTo_run (Raise fun _ _ => True) hanswers
    (show evalsTo program _ 1 [.startRx] (readyCtx, readyChip)
      (fun _ w => w.1.mode == .rx && w.2.dio1 && !w.2.latch.irqPending) = true by
      decide +kernel)
  simp only [Bool.and_eq_true, beq_iff_eq, Bool.not_eq_true'] at hw
  exact ⟨w, xs, hrun, hw.1.1, hw.1.2, hw.2⟩

end Sx126x

end LeosSdk
