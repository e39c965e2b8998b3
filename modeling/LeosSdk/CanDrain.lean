import Mathlib.Order.WellFounded
import LeosSdk.CanTask

/-!
# MCP251XFD: when the service loop ends

The controller as the task meets it when the bus is quiet and no SPI call
fails. System events are latched until a clear call that names them, and so is
the overflow event of the receive FIFO; the TXQ event depends on the queue and
the FIFO-not-empty event on the frames in the FIFO, and neither can be cleared
by writing.

The loop ends exactly when each pending event is one it can remove
(`Drainable`): a full FIFO needs a callback, a pending TXQ event needs
exhausted attempts and a reset that silences it, a system event must be
clearable. Otherwise some event is reported again and again
(`undrained_fifo_spins`).

Every branch of the `switch` completes, and its effect on the controller is a
function of the state (`service_total`, `serviced`), so the loop is a loop
over that function. In one direction `backlog` counts what is left, and
servicing a pending event of a drainable controller keeps it drainable and
leaves less. In the other, being undrainable is an invariant of the loop: no
branch removes the event that no branch removes (`drainable_of_serviced`), and
such an event is pending, so the query never finds nothing. The order in which
events are reported is a parameter; neither direction depends on it.
-/

namespace LeosSdk

namespace Mcp251xfd

/-! ## The controller -/

/-- Events latched in the controller's interrupt register. -/
inductive SystemEvent where
  | busError | busWakeup | operationModeChange
  | other (code : Nat)
deriving DecidableEq, Repr

def SystemEvent.code : SystemEvent → InterruptFlagCode
  | .busError => .errorInterrupt
  | .busWakeup => .wakeupInterrupt
  | .operationModeChange => .opmodeChangeOccured
  | .other code => .other code

/-- Whether a mask names an event. -/
def InterruptEvents.names : InterruptEvents → SystemEvent → Bool
  | .busErrorEvent, e => e == .busError
  | .busWakeupEvent, e => e == .busWakeup
  | .operationModeChangeEvent, e => e == .operationModeChange
  | .rxEvent, _ => false
  | .clearableFlagsMask, _ => true

/-- What the library and the configured controller decide: the order in
which pending events are reported (the lowest number first), which system
events a write can clear, when the transmit queue `T` asserts its event or
reports exhausted attempts, and what `MCP251XFD_ResetTXQ` leaves. -/
structure Lib (T : Type) where
  priority : InterruptFlagCode → Nat
  clearable : SystemEvent → Bool
  txqPending : T → Bool
  attemptsExhausted : T → Bool
  resetTxq : T → T
  resetTxq_resetTxq : ∀ t, resetTxq (resetTxq t) = resetTxq t

/-- The driver's flag and the controller. -/
structure Controller (T F : Type) where
  irqPending : Bool
  system : List SystemEvent
  txq : T
  fifo1 : List F
  fifo1Overflow : Bool

variable {T F : Type}

/-- A code is pending. -/
inductive Controller.Pending (L : Lib T) (c : Controller T F) : InterruptFlagCode → Prop
  | system {e : SystemEvent} (he : e ∈ c.system) : Pending L c e.code
  | txq (h : L.txqPending c.txq = true) : Pending L c .txqInterrupt
  | fifo1 (h : c.fifo1 ≠ []) : Pending L c .fifo1Interrupt
  | overflow (h : c.fifo1Overflow = true) : Pending L c .fifo1Interrupt

/-- `MCP251XFD_ClearInterruptEvents`. -/
def Controller.clear (L : Lib T) (c : Controller T F) (events : InterruptEvents) :
    Controller T F :=
  { c with system := c.system.filter fun e => !(events.names e && L.clearable e) }

/-- `MCP251XFD_ClearFIFOEvents`; the level events stay. -/
def Controller.clearFifo (c : Controller T F) (events : List FifoEvent) :
    Controller T F :=
  { c with fifo1Overflow := c.fifo1Overflow && !events.contains .receiveFifoOverflow }

/-- `code` is what `MCP251XFD_GetCurrentInterruptEvent` finds. -/
def Controller.Reports (L : Lib T) (c : Controller T F) (code : InterruptFlagCode) :
    Prop :=
  (c.Pending L code ∧ ∀ code', c.Pending L code' → L.priority code ≤ L.priority code')
    ∨ code = .noInterrupt ∧ ∀ code', ¬c.Pending L code'

/-- A quiet bus and no SPI failure. The callback drains the FIFO, and what is
reported is the pending event that comes first in the library's order. -/
def controllerEnv (L : Lib T) : Env (Controller T F) Call Answer
  | c, .irqPending, r, c' => r = c.irqPending ∧ c' = c
  | c, .setIrqPending b, _, c' => c' = { c with irqPending := b }
  | c, .getCurrentInterruptEvent, a, c' =>
    Prod.fst a = errOk ∧ c.Reports L (Prod.snd a) ∧ c' = c
  | c, .getTransmitReceiveErrorStatus, a, c' => Prod.fst a = errOk ∧ c' = c
  | c, .clearInterruptEvents events, err, c' => err = errOk ∧ c' = c.clear L events
  | c, .getActualOperationMode, a, c' => Prod.fst a = errOk ∧ c' = c
  | c, .getTxqStatus, a, c' =>
    Prod.fst a = errOk ∧ Prod.snd a = ⟨L.attemptsExhausted c.txq⟩ ∧ c' = c
  | c, .resetTxq, err, c' => err = errOk ∧ c' = { c with txq := L.resetTxq c.txq }
  | c, .getFifoStatus _, a, c' =>
    Prod.fst a = errOk ∧ Prod.snd a = ⟨!c.fifo1.isEmpty⟩ ∧ c' = c
  | c, .clearFifoEvents _ events, err, c' => err = errOk ∧ c' = c.clearFifo events
  | c, .rxCb _ _, _, c' => c' = { c with fifo1 := [] }

variable {L : Lib T} {c : Controller T F} {s : Option TaskCtx}
  {code : InterruptFlagCode}

theorem Controller.Pending.ne_noInterrupt (h : c.Pending L code) :
    code ≠ .noInterrupt := by
  cases h with
  | @system e he => cases e <;> simp [SystemEvent.code]
  | txq | fifo1 | overflow => simp

/-- There is always something to report. -/
theorem Controller.exists_reports (L : Lib T) (c : Controller T F) :
    ∃ code, c.Reports L code := by
  by_cases h : ∃ code, c.Pending L code
  · obtain ⟨code, hp, hmin⟩ :=
      (measure L.priority).wf.has_min {code | c.Pending L code} h
    exact ⟨code, .inl ⟨hp, fun code' hp' => Nat.le_of_not_lt (hmin code' hp')⟩⟩
  · exact ⟨.noInterrupt, .inr ⟨rfl, not_exists.mp h⟩⟩

/-! ## What each branch does -/

/-- The user has installed a callback. -/
def hasRxCb (s : Option TaskCtx) : Bool := s.any (·.rxCb.isSome)

/-- The effect of a branch on the controller. -/
def serviced (L : Lib T) (s : Option TaskCtx) (c : Controller T F) :
    InterruptFlagCode → Controller T F
  | .errorInterrupt => c.clear L .busErrorEvent
  | .wakeupInterrupt => c.clear L .busWakeupEvent
  | .opmodeChangeOccured => c.clear L .operationModeChangeEvent
  | .txqInterrupt =>
    if L.attemptsExhausted c.txq then { c with txq := L.resetTxq c.txq } else c
  | .fifo1Interrupt => if hasRxCb s then { c with fifo1 := [] } else c
  | _ => c.clear L .clearableFlagsMask

theorem clear_rxEvent : c.clear L .rxEvent = c := by
  rw [Controller.clear, List.filter_eq_self.mpr fun _ _ => by
    simp [InterruptEvents.names]]

/-- How most branches end. -/
theorem clear_total (events : InterruptEvents) :
    Total (controllerEnv L) (do
        let _ ← call (.clearInterruptEvents events)
        return ())
      (fun _ _ s' c' => s' = s ∧ c' = c.clear L events) s c :=
  total_call ⟨_, _, rfl, rfl⟩ fun _ _ h => total_pure ⟨rfl, h.2⟩

theorem serviceTxq_total :
    Total (controllerEnv L) serviceTxq
      (fun _ _ s' c' => s' = s ∧ c' = serviced L s c .txqInterrupt) s c := by
  refine total_call ⟨(errOk, _), _, rfl, rfl, rfl⟩ ?_
  rintro ⟨err, qst⟩ c' ⟨herr, rfl, rfl⟩
  obtain rfl : err = errOk := herr
  simp only [ne_eq, not_true_eq_false, if_false]
  by_cases h : L.attemptsExhausted c'.txq = true
  · simp only [h, if_true]
    refine total_call ⟨_, _, rfl, rfl⟩ ?_
    intro _ _ h
    rcases h with ⟨-, rfl⟩
    exact total_pure ⟨rfl, by simp [serviced, h]⟩
  · rw [if_neg h]
    exact total_pure ⟨rfl, by simp [serviced, h]⟩

theorem invokeRxCb_total :
    Total (controllerEnv L) invokeRxCb
      (fun _ _ s' c' => s' = s ∧ c' = serviced L s c .fifo1Interrupt) s c := by
  refine total_bind (total_read ?_)
  rcases s with _ | ⟨_ | callback, r⟩
  · exact total_pure ⟨rfl, rfl⟩
  · exact total_pure ⟨rfl, rfl⟩
  · refine total_call ⟨(), _, rfl⟩ ?_
    rintro _ _ rfl
    exact total_pure ⟨rfl, rfl⟩

theorem serviceFifo1_total :
    Total (controllerEnv L) serviceFifo1
      (fun _ _ s' c' => s' = s ∧ c' = serviced L s c .fifo1Interrupt) s c := by
  refine total_call ⟨(errOk, _), _, rfl, rfl, rfl⟩ ?_
  rintro ⟨err, st⟩ c' ⟨herr, rfl, rfl⟩
  obtain rfl : err = errOk := herr
  simp only [ne_eq, not_true_eq_false, if_false]
  -- the writes after the callback change nothing the FIFO events depend on
  have hclear : Total (controllerEnv L) (do
      let _ ← call (.clearFifoEvents .fifo1
        [.receiveFifoNotEmpty, .receiveFifoHalfFull, .receiveFifoFull])
      let _ ← call (.clearInterruptEvents .rxEvent)
      return ()) (fun _ _ s' c'' => s' = s ∧ c'' = serviced L s c' .fifo1Interrupt)
      s (serviced L s c' .fifo1Interrupt) := by
    refine total_call ⟨_, _, rfl, rfl⟩ ?_
    intro _ _ h
    rcases h with ⟨-, rfl⟩
    refine (clear_total .rxEvent).mono ?_
    intro _ _ _ _ h
    rcases h with ⟨rfl, rfl⟩
    refine ⟨rfl, ?_⟩
    rw [clear_rxEvent]
    simp [Controller.clearFifo]
  by_cases h : c'.fifo1 = []
  · have heq : serviced L s c' .fifo1Interrupt = c' := by
      simp only [serviced]
      split
      · rw [← h]
      · rfl
    simpa [h, heq] using hclear
  · have h' : (!c'.fifo1.isEmpty) = true := by simpa using h
    simp only [h', if_true]
    refine total_bind (invokeRxCb_total.mono ?_)
    intro _ _ _ _ h
    rcases h with ⟨rfl, rfl⟩
    exact hclear

/-- Every branch completes with its effect, whatever the context. -/
theorem service_total :
    Total (controllerEnv L) (service code)
      (fun _ _ s' c' => s' = s ∧ c' = serviced L s c code) s c := by
  cases code with
  | errorInterrupt =>
      refine total_call ⟨(errOk, 0), _, rfl, rfl⟩ ?_
      intro _ _ h
      rcases h with ⟨-, rfl⟩
      exact clear_total .busErrorEvent
  | wakeupInterrupt => exact clear_total .busWakeupEvent
  | opmodeChangeOccured =>
      refine total_call ⟨(errOk, 0), _, rfl, rfl⟩ ?_
      intro _ _ h
      rcases h with ⟨-, rfl⟩
      exact clear_total .operationModeChangeEvent
  | txqInterrupt => exact serviceTxq_total
  | fifo1Interrupt => exact serviceFifo1_total
  | noInterrupt | other => exact clear_total .clearableFlagsMask

/-! ## What the loop can drain -/

/-- Every event that is pending, or that servicing leaves pending, is one its
branch removes. -/
structure Drainable (L : Lib T) (s : Option TaskCtx) (c : Controller T F) : Prop where
  system : ∀ e ∈ c.system, L.clearable e = true
  txq : L.txqPending c.txq = true →
    L.attemptsExhausted c.txq = true ∧ L.txqPending (L.resetTxq c.txq) = false
  fifo1 : c.fifo1 ≠ [] → hasRxCb s = true
  overflow : c.fifo1Overflow = false

/-- How much is left to service: the measure by which the loop ends. -/
def backlog (L : Lib T) (c : Controller T F) : Nat :=
  c.system.length + c.fifo1.length + (L.txqPending c.txq).toNat

theorem drainable_clear {events : InterruptEvents} (h : Drainable L s c) :
    Drainable L s (c.clear L events) where
  system e he := h.system e (List.mem_filter.mp he).1
  txq := h.txq
  fifo1 := h.fifo1
  overflow := h.overflow

/-- Clearing keeps what cannot be cleared. -/
theorem drainable_of_clear {events : InterruptEvents}
    (h : Drainable L s (c.clear L events)) : Drainable L s c where
  system e he := by
    by_contra hc
    exact hc (h.system e (List.mem_filter.mpr ⟨he, by simp [hc]⟩))
  txq := h.txq
  fifo1 := h.fifo1
  overflow := h.overflow

theorem backlog_clear {events : InterruptEvents} {e : SystemEvent}
    (he : e ∈ c.system) (hn : events.names e = true) (hc : L.clearable e = true) :
    backlog L (c.clear L events) < backlog L c := by
  have : (c.clear L events).system.length < c.system.length :=
    List.length_filter_lt_length_iff_exists.mpr ⟨e, he, by simp [hn, hc]⟩
  simp only [backlog]
  have htxq : (c.clear L events).txq = c.txq := rfl
  have hfifo : (c.clear L events).fifo1 = c.fifo1 := rfl
  rw [htxq, hfifo]
  omega

/-- Servicing a pending event of a drainable controller removes it, and leaves
a drainable one. -/
theorem drainable_serviced (h : Drainable L s c) (hp : c.Pending L code) :
    Drainable L s (serviced L s c code)
      ∧ backlog L (serviced L s c code) < backlog L c := by
  cases hp with
  | @system e he =>
      have hc := h.system e he
      cases e with
      | busError => exact ⟨drainable_clear h, backlog_clear he rfl hc⟩
      | busWakeup => exact ⟨drainable_clear h, backlog_clear he rfl hc⟩
      | operationModeChange => exact ⟨drainable_clear h, backlog_clear he rfl hc⟩
      | other n => exact ⟨drainable_clear h, backlog_clear he rfl hc⟩
  | txq ht =>
      obtain ⟨hx, hr⟩ := h.txq ht
      simp only [serviced, hx, if_true]
      refine ⟨{ h with txq := fun hp => ?_ }, ?_⟩
      · rw [hr] at hp
        cases hp
      · simp [backlog, ht, hr]
  | fifo1 hf =>
      simp only [serviced, h.fifo1 hf, if_true]
      refine ⟨{ h with fifo1 := fun hf' => absurd rfl hf' }, ?_⟩
      have := List.length_pos_iff.mpr hf
      simp only [backlog, List.length_nil]
      omega
  | overflow ho =>
      rw [h.overflow] at ho
      cases ho

/-- An event no branch removes stays, whichever branch runs. For the queue
this takes that a second reset changes nothing. -/
theorem drainable_of_serviced (h : Drainable L s (serviced L s c code)) :
    Drainable L s c := by
  cases code with
  | errorInterrupt | wakeupInterrupt | opmodeChangeOccured | noInterrupt | other =>
      exact drainable_of_clear h
  | txqInterrupt =>
      by_cases hx : L.attemptsExhausted c.txq = true
      · simp only [serviced, hx, if_true] at h
        refine { h with txq := fun _ => ⟨hx, ?_⟩ }
        by_contra hr
        rw [Bool.not_eq_false] at hr
        -- a second reset changes nothing, so it cannot silence the event
        have := (h.txq hr).2
        rw [L.resetTxq_resetTxq, hr] at this
        cases this
      · simpa [serviced, hx] using h
  | fifo1Interrupt =>
      by_cases hcb : hasRxCb s = true
      · simp only [serviced, hcb, if_true] at h
        exact { h with fifo1 := fun _ => hcb }
      · simpa [serviced, hcb] using h

theorem pending_of_not_drainable (h : ¬Drainable L s c) : ∃ code, c.Pending L code := by
  by_contra hn
  push Not at hn
  refine h ⟨fun e he => absurd (.system he) (hn _), fun ht => absurd (.txq ht) (hn _),
    fun hf => absurd (.fifo1 hf) (hn _), ?_⟩
  exact Bool.eq_false_iff.mpr fun ho => hn _ (.overflow ho)

/-! ## The loop -/

/-- The loop of a drainable controller ends, by the measure, whichever events
are reported first. -/
theorem loop_total (h : Drainable L s c) :
    Total (controllerEnv L) (Prog.iter serviceLoop ()) (fun _ _ _ _ => True) s c := by
  refine total_iter (fun _ _ s c => Drainable L s c) (fun _ _ c => backlog L c) ?_ h
  intro _ _ s c h
  obtain ⟨code₀, hrep⟩ := c.exists_reports L
  refine total_call ⟨(errOk, code₀), c, rfl, hrep, rfl⟩ ?_
  rintro ⟨err, code⟩ c' ⟨herr, hrep, rfl⟩
  obtain rfl : err = errOk := herr
  simp only [ne_eq, not_true_eq_false, if_false]
  rcases hrep with ⟨hp, -⟩ | ⟨hno, -⟩
  · replace hp : c'.Pending L code := hp
    rw [if_neg hp.ne_noInterrupt]
    refine total_bind (service_total.mono ?_)
    intro _ _ _ _ h
    rcases h with ⟨rfl, rfl⟩
    exact total_pure ⟨fun _ _ => drainable_serviced h hp, by simp⟩
  · rw [if_pos hno]
    exact total_pure ⟨by simp, fun _ _ => trivial⟩

/-- From a controller that cannot be drained no execution of the loop ends:
that it cannot is an invariant, and it excludes the exit. -/
theorem loop_spins (h : ¬Drainable L s c) :
    Ensures (controllerEnv L) (Prog.iter serviceLoop ()) (fun _ _ _ _ => False) s c := by
  refine ensures_iter (fun _ _ s c => ¬Drainable L s c) ?_ h
  intro _ _ s c h
  rw [serviceLoop, ensures_bind, ensures_ask]
  rintro ⟨err, code⟩ c' ⟨herr, hrep, rfl⟩
  obtain rfl : err = errOk := herr
  simp only [ne_eq, not_true_eq_false, if_false]
  obtain ⟨code₁, hp₁⟩ := pending_of_not_drainable h
  rcases hrep with ⟨hp, -⟩ | ⟨-, hnone⟩
  · replace hp : c'.Pending L code := hp
    rw [if_neg hp.ne_noInterrupt, ensures_bind]
    refine service_total.ensures.mono ?_
    intro _ _ _ _ h
    rcases h with ⟨rfl, rfl⟩
    rw [ensures_pure]
    exact ⟨fun _ _ hd => h (drainable_of_serviced hd), by simp⟩
  · exact absurd hp₁ (hnone _)

/-! ## The task -/

/-- The task has nothing to do, or can do all there is. -/
def Serviceable (L : Lib T) (devNull : Bool) (s : Option TaskCtx) (c : Controller T F) :
    Prop :=
  devNull = true ∨ s = none ∨ c.irqPending = false ∨ Drainable L s c

theorem drainable_setIrqPending {b : Bool} :
    Drainable L s { c with irqPending := b } ↔ Drainable L s c :=
  ⟨fun h => ⟨h.1, h.2, h.3, h.4⟩, fun h => ⟨h.1, h.2, h.3, h.4⟩⟩

theorem task_total {devNull : Bool} (h : Serviceable L devNull s c) :
    Total (controllerEnv L) (task devNull) (fun _ _ _ _ => True) s c := by
  cases devNull with
  | true => exact total_pure trivial
  | false =>
      refine total_bind (total_read ?_)
      cases s with
      | none => exact total_pure trivial
      | some ctx =>
          refine total_call ⟨c.irqPending, c, rfl, rfl⟩ ?_
          intro pending c' h
          rcases h with ⟨rfl, rfl⟩
          cases hp : c'.irqPending with
          | false => exact total_pure trivial
          | true =>
              have hd : Drainable L (some ctx) c' := by
                simpa [Serviceable, hp] using h
              refine total_call ⟨(), _, rfl⟩ ?_
              rintro _ _ rfl
              exact loop_total (drainable_setIrqPending.mpr hd)

theorem task_spins {devNull : Bool} (h : ¬Serviceable L devNull s c) :
    Ensures (controllerEnv L) (task devNull) (fun _ _ _ _ => False) s c := by
  simp only [Serviceable, not_or, Bool.not_eq_true, Bool.not_eq_false] at h
  obtain ⟨rfl, hs, hp, hd⟩ := h
  obtain ⟨ctx, rfl⟩ := Option.ne_none_iff_exists'.mp hs
  simp only [task, ensures_bind, ensures_read, ensures_ask, Bool.false_eq_true,
    if_false, Option.isNone_some]
  intro pending c' h
  rcases h with ⟨rfl, rfl⟩
  simp only [hp, Bool.not_true, Bool.false_eq_true, if_false, ensures_bind, ensures_ask]
  rintro _ _ rfl
  exact loop_spins (mt drainable_setIrqPending.mp hd)

/-- The task returns exactly when what is pending can be drained; otherwise it
never does, whatever is reported first. Said both of all executions, which
must end, and of the existence of one that does. -/
theorem task_returns_iff_serviceable (L : Lib T) (devNull : Bool)
    (s : Option TaskCtx) (c : Controller T F) :
    (Total (controllerEnv L) (task devNull) (fun _ _ _ _ => True) s c
        ↔ Serviceable L devNull s c)
      ∧ ((∃ tr s' c', Exec (controllerEnv L) (task devNull) s c tr () s' c')
        ↔ Serviceable L devNull s c) := by
  have hexec : (∃ tr s' c', Exec (controllerEnv L) (task devNull) s c tr () s' c') →
      Serviceable L devNull s c := by
    intro h
    rcases h with ⟨tr, s', c', hx⟩
    by_contra h
    exact task_spins h _ _ _ _ hx
  refine ⟨⟨fun h => hexec ?_, task_total⟩, hexec, fun h => ?_⟩
  · obtain ⟨tr, _, s', c', hx, -⟩ := h.exec
    exact ⟨tr, s', c', hx⟩
  · obtain ⟨tr, _, s', c', hx, -⟩ := (task_total h).exec
    exact ⟨tr, s', c', hx⟩

/-- A library whose transmit queue is always quiet. -/
def quietLib : Lib Unit where
  priority _ := 0
  clearable _ := true
  txqPending _ := false
  attemptsExhausted _ := false
  resetTxq t := t
  resetTxq_resetTxq _ := rfl

/-- One frame in the receive FIFO, the interrupt latched and no callback
installed: the branch meant to "avoid a tight loop" is the tight loop. -/
theorem undrained_fifo_spins :
    ¬∃ tr s' c', Exec (controllerEnv quietLib) (task false) (some ⟨none, 0⟩)
      (⟨true, [], (), [()], false⟩ : Controller Unit Unit) tr () s' c' := by
  intro h
  rcases h with ⟨tr, s', c', hx⟩
  refine task_spins (fun h => ?_) _ _ _ _ hx
  rcases h with h | h | h | h
  · cases h
  · cases h
  · cases h
  · have := h.fifo1 (by simp)
    cases this

end Mcp251xfd

end LeosSdk
