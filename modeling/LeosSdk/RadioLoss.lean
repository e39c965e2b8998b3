import LeosSdk.RadioLatch

/-!
# SX126x: no packet is lost unseen

A received packet passes three stages: its RX_DONE status bit in the chip, the
latch that `leos_sx126x_handle_dio1_irq` sets on the rising edge of DIO1, and
the receive slot, which a `poll` fills from the driver's reports. `Loss`
follows it: a packet is `owed` from its interrupt until a call of the driver's
handler reports it, and `lost` if the status bit is cleared while it is owed.

The two start functions clear the whole status and the latch without looking.
So packets are kept exactly when no start function meets one that is owed and
none is latched while one is at work (`Loss.caught`, `kept_iff_not_caught`). A
packet reported to a `poll` is stored, or `rx_overrun` is set (`HandsOver`).

The proof goes through a start function call by call with one assertion for
each stretch between two clearings: `LossStart` up to the status,
`LossCleared` or, with reception disabled, `LossDeaf` after it. Each says how
`caught` relates to what is owed or lost at that point, so that at the end
`caught` is false just if the packets are kept (`Settled`). Calls that clear
nothing keep any assertion of this sort (`Kind.kept`), whatever events fall
between them. The other operations keep `LossIdle`. Since a good step leaves
the radio in `LossIdle` again, the equivalence of one step carries over to the
run in both directions.
-/

namespace LeosSdk

namespace Sx126x

open Prog (modify)

/-! ## Following the packets -/

structure Loss where
  chip : Chip
  /-- RX_DONE was latched by the interrupt handler and not reported since. -/
  owed : Bool
  /-- The status bit of an owed packet was cleared. -/
  lost : Bool
  /-- A start function is between its `sx1262_set_dio_irq_params` and its
  clearing of `irq_pending`. -/
  starting : Bool
  /-- A start function began with a packet owed, or one was latched while it
  was starting. -/
  caught : Bool

/-- The radio event raises DIO1 by the end of a reception: the line was low,
and RX_DONE is among the enabled sources. -/
def Chip.latchesRx (c : Chip) (q : Irq) : Bool :=
  q == .rxDone && (!c.dio1 && (c.raise q).dio1)

def Loss.raise (l : Loss) (q : Irq) (nowMs : UInt64) : Loss :=
  { l with
    chip := l.chip.edge (l.chip.raise q) nowMs
    owed := l.owed || l.chip.latchesRx q
    caught := l.caught || (l.starting && l.chip.latchesRx q) }

def RaiseLoss (l l' : Loss) : Prop :=
  ∃ q nowMs, l.chip.op.raises q = true ∧ l' = l.raise q nowMs

/-- What a call answered while the chip goes to `c'` does to the packets. A
start function is at work from its `sx1262_set_dio_irq_params` to its clearing
of `irq_pending`. -/
def Loss.after (l : Loss) (i : Call) (c' : Chip) : Loss :=
  match i with
  | .cmd (.setDioIrqParams ..) =>
    { l with chip := c', starting := true, caught := l.caught || l.owed }
  | .cmd (.clearIrqStatus mask) =>
    { l with
      chip := c'
      lost := l.lost || (l.owed && mask .rxDone)
      owed := l.owed && !mask .rxDone }
  | .setIrqPending _ => { l with chip := c', starting := false }
  | .irqHandler => { l with chip := c', owed := l.owed && !l.chip.status .rxDone }
  | _ => { l with chip := c' }

/-- The driver reports RX_DONE with a buffer. -/
def CarriesBuffers (ev : Event Call Answer) : Prop :=
  ∀ rep ∈ eventReports ev, rep.type = .rxDone → rep.buf ≠ none

def lossEnv : Env Loss Call Answer := fun l i a l' =>
  ∃ c', chipEnv l.chip i a c' ∧ CarriesBuffers ⟨i, a⟩ ∧ l' = l.after i c'

abbrev lossChip : Env Loss Call Answer := interleave RaiseLoss lossEnv

abbrev LossStep : Ctx × Loss → RadioLabel → Ctx × Loss → Prop :=
  Session program lossChip RaiseLoss

/-- No packet was lost, and one still owed will be serviced. -/
structure Loss.Kept (l : Loss) : Prop where
  safe : l.lost = false
  flagged : l.owed = true → l.chip.latch.irqPending = true
  raised : l.owed = true → l.chip.status .rxDone = true

variable {l l' : Loss} {s s' : Ctx}

theorem kept_of_not_owed (hlost : l.lost = false) (howed : l.owed = false) : l.Kept where
  safe := hlost
  flagged ho := by cases howed.symm.trans ho
  raised ho := by cases howed.symm.trans ho

theorem allSucceed_loss : AllSucceed lossChip := by
  intro l cmd rc l' h
  obtain ⟨l₁, -, c', hc, -, -⟩ := h
  cases cmd <;> exact hc.1

/-! ## What radio events keep -/

/-- Raising DIO1 sets the latch and leaves the bit. -/
theorem latchesRx_edge {c : Chip} {q : Irq} {nowMs : UInt64} (h : c.latchesRx q = true) :
    (c.edge (c.raise q) nowMs).latch.irqPending = true
      ∧ (c.edge (c.raise q) nowMs).status .rxDone = true := by
  simp only [Chip.latchesRx, Bool.and_eq_true, beq_iff_eq, Bool.not_eq_true'] at h
  obtain ⟨rfl, hlow, hhigh⟩ := h
  have henabled : c.enabled .rxDone = true := by
    by_contra hne
    rw [raise_disabled (by simpa using hne), hlow] at hhigh
    cases hhigh
  refine ⟨?_, by simp [Chip.raise, henabled]⟩
  simp [Chip.edge, hlow, hhigh, handleDio1Irq]

theorem edge_keeps_pending {c c' : Chip} {nowMs : UInt64}
    (h : c'.latch.irqPending = true) : (c.edge c' nowMs).latch.irqPending = true := by
  unfold Chip.edge
  split
  · rfl
  · exact h

/-- Between operations: packets are kept, no start function is at work, and
none ever met a packet. -/
structure LossIdle (l : Loss) : Prop extends l.Kept where
  closed : l.starting = false
  clear : l.caught = false

theorem owed_raise {q : Irq} {nowMs : UInt64} (h : (l.raise q nowMs).owed = true) :
    l.owed = true ∨ l.chip.latchesRx q = true := by
  simpa [Loss.raise] using h

theorem raised_raise {q : Irq} {nowMs : UInt64}
    (h : l.owed = true → l.chip.status .rxDone = true) :
    (l.raise q nowMs).owed = true → (l.raise q nowMs).chip.status .rxDone = true := by
  intro ho
  rcases owed_raise ho with ho | hl
  · simp [Loss.raise, Chip.raise, h ho]
  · exact (latchesRx_edge hl).2

theorem kept_raise {q : Irq} {nowMs : UInt64} (h : l.Kept) : (l.raise q nowMs).Kept where
  safe := h.safe
  flagged ho := by
    rcases owed_raise ho with ho | hl
    · exact edge_keeps_pending (h.flagged ho)
    · exact (latchesRx_edge hl).1
  raised := raised_raise h.raised

theorem lossIdle_raise (l l' : Loss) (h : RaiseLoss l l') (hi : LossIdle l) : LossIdle l' := by
  obtain ⟨q, nowMs, -, rfl⟩ := h
  refine ⟨kept_raise hi.toKept, hi.closed, ?_⟩
  simp [Loss.raise, hi.clear, hi.closed]

/-! ## Calls that clear nothing -/

/-- Calls that leave status, latch flag and enabled sources alone. -/
inductive Call.Tame : Call → Prop
  | irqPending : Tame .irqPending
  | getLoraPacketStatus : Tame .getLoraPacketStatus
  | platformNowMs : Tame .platformNowMs
  | setIrqLatchedAtMs (ms : UInt64) : Tame (.setIrqLatchedAtMs ms)
  | setStandby (source : ClockSource) : Tame (.cmd (.setStandby source))
  | continuousReceive : Tame (.cmd .continuousReceive)
  | setTx (timeout : UInt32) : Tame (.cmd (.setTx timeout))
  | setLoraPacketParamsExplicit (preamble : UInt16) (len : UInt8) (crc iq : Bool) :
      Tame (.cmd (.setLoraPacketParamsExplicit preamble len crc iq))
  | writeBuffer (offset : UInt8) (data : List UInt8) : Tame (.cmd (.writeBuffer offset data))

/-- The same but for the chip's mode and the time stamp. -/
structure Loss.Alike (l l' : Loss) : Prop where
  owed : l'.owed = l.owed
  lost : l'.lost = l.lost
  starting : l'.starting = l.starting
  caught : l'.caught = l.caught
  enabled : l'.chip.enabled = l.chip.enabled
  status : l'.chip.status = l.chip.status
  irqPending : l'.chip.latch.irqPending = l.chip.latch.irqPending

theorem tame_alike {i : Call} {a : Answer i} (hi : i.Tame) (h : lossEnv l i a l') :
    l.Alike l' := by
  obtain ⟨c', hc, -, rfl⟩ := h
  cases hi with
  | platformNowMs | setIrqLatchedAtMs =>
      obtain rfl := hc
      exact ⟨rfl, rfl, rfl, rfl, rfl, rfl, rfl⟩
  | _ =>
      obtain ⟨-, rfl⟩ := hc
      exact ⟨rfl, rfl, rfl, rfl, rfl, rfl, rfl⟩

/-- Assertions that radio events keep and that do not depend on more than
`Alike` compares. All the assertions below are of this kind, and tame calls
keep them for that reason alone. -/
structure Kind (J : Loss → Prop) : Prop where
  raise : ∀ l l', RaiseLoss l l' → J l → J l'
  alike : ∀ l l', l.Alike l' → J l → J l'

theorem Kind.tame {J : Loss → Prop} (hJ : Kind J) {i : Call} (hi : i.Tame) (l : Loss)
    (a : Answer i) (l' : Loss) (h0 : J l) (h : lossChip l i a l') : J l' := by
  obtain ⟨l₁, ht, h⟩ := h
  exact hJ.alike l₁ l' (tame_alike hi h) (ticks_preserve hJ.raise ht h0)

theorem Kind.kept {J : Loss → Prop} (hJ : Kind J) {α : Type} {p : Api α}
    (hp : p.CallsOnly Call.Tame) {tr : List (Event Call Answer)} {a : α}
    (hx : Exec lossChip p s l tr a s' l') (h0 : J l) : J l' :=
  hp.keeps (fun l _ a l' hi => hJ.tame hi l a l') h0 _ _ _ _ hx

theorem lossIdle_kind : Kind LossIdle where
  raise := lossIdle_raise
  alike _ _ h hi :=
    { safe := h.lost.trans hi.safe
      flagged := fun ho => h.irqPending.trans (hi.flagged (h.owed ▸ ho))
      raised := fun ho => (congrFun h.status _).trans (hi.raised (h.owed ▸ ho))
      closed := h.starting.trans hi.closed
      clear := h.caught.trans hi.clear }

/-! ## Start functions -/

/-- From a start function's first driver call on: nothing is lost yet, and it
has met a packet just if one is owed. -/
structure LossStart (l : Loss) : Prop where
  opened : l.starting = true
  safe : l.lost = false
  caught : l.caught = l.owed

/-- After its `sx1262_clear_irq_status`: a packet it met is lost by now, and
one latched since is owed and will lose its latch. -/
structure LossCleared (l : Loss) : Prop where
  opened : l.starting = true
  caught : l.caught = (l.lost || l.owed)

/-- With reception disabled no packet can be latched, so nothing is owed and
what was met is lost. -/
structure LossDeaf (opened : Bool) (l : Loss) : Prop where
  opened : l.starting = opened
  owed : l.owed = false
  caught : l.caught = l.lost
  deaf : l.chip.enabled .rxDone = false

theorem latchesRx_disabled {c : Chip} {q : Irq} (h : c.enabled .rxDone = false) :
    c.latchesRx q = false := by
  by_cases hq : q = .rxDone
  · subst hq
    simp [Chip.latchesRx, raise_disabled h]
  · simp [Chip.latchesRx, hq]

theorem lossStart_kind : Kind LossStart where
  raise l l' h hi := by
    obtain ⟨q, nowMs, -, rfl⟩ := h
    exact ⟨hi.opened, hi.safe, by simp [Loss.raise, hi.caught, hi.opened]⟩
  alike l l' h hi :=
    ⟨h.starting.trans hi.opened, h.lost.trans hi.safe,
      h.caught.trans (hi.caught.trans h.owed.symm)⟩

theorem lossCleared_kind : Kind LossCleared where
  raise l l' h hi := by
    obtain ⟨q, nowMs, -, rfl⟩ := h
    exact ⟨hi.opened, by simp [Loss.raise, hi.caught, hi.opened, Bool.or_assoc]⟩
  alike l l' h hi :=
    ⟨h.starting.trans hi.opened, by rw [h.caught, hi.caught, h.lost, h.owed]⟩

theorem lossDeaf_kind (opened : Bool) : Kind (LossDeaf opened) where
  raise l l' h hi := by
    obtain ⟨q, nowMs, -, rfl⟩ := h
    have hlatch := latchesRx_disabled (q := q) hi.deaf
    exact ⟨hi.opened, by simp [Loss.raise, hi.owed, hlatch],
      by simp [Loss.raise, hi.caught, hlatch], by simpa [Loss.raise, Chip.raise] using hi.deaf⟩
  alike l l' h hi :=
    ⟨h.starting.trans hi.opened, h.owed.trans hi.owed,
      h.caught.trans (hi.caught.trans h.lost.symm), (congrFun h.enabled _).trans hi.deaf⟩

/-- Both start functions begin so. -/
theorem lossStart_begin {irqMask dio1Mask dio2Mask dio3Mask : IrqMask} {rc : UInt8}
    (hi : LossIdle l)
    (h : lossChip l (.cmd (.setDioIrqParams irqMask dio1Mask dio2Mask dio3Mask)) rc l') :
    LossStart l' ∧ ∀ q, l'.chip.enabled q = (irqMask q && dio1Mask q) := by
  obtain ⟨l₁, ht, c', ⟨-, nowMs, rfl⟩, -, rfl⟩ := h
  have h₁ := ticks_preserve lossIdle_raise ht hi
  exact ⟨⟨rfl, h₁.safe, by simp [Loss.after, h₁.clear]⟩, fun q => by simp [Loss.after]⟩

theorem lossCleared_clear {rc : UInt8} (hi : LossStart l)
    (h : lossChip l (.cmd (.clearIrqStatus irqMaskAll)) rc l') : LossCleared l' := by
  obtain ⟨l₁, ht, c', ⟨-, rfl⟩, -, rfl⟩ := h
  have h₁ := ticks_preserve lossStart_kind.raise ht hi
  exact ⟨h₁.opened, by simp [Loss.after, irqMaskAll, h₁.caught, h₁.safe]⟩

theorem lossDeaf_clear {rc : UInt8} (hi : LossStart l)
    (hdeaf : l.chip.enabled .rxDone = false)
    (h : lossChip l (.cmd (.clearIrqStatus irqMaskAll)) rc l') : LossDeaf true l' := by
  obtain ⟨l₁, ht, c', ⟨-, rfl⟩, -, rfl⟩ := h
  have h₁ : LossStart l₁ ∧ l₁.chip.enabled .rxDone = false := by
    refine ticks_preserve (J := fun l => LossStart l ∧ l.chip.enabled .rxDone = false)
      (fun l l' h hi => ⟨lossStart_kind.raise l l' h hi.1, ?_⟩) ht ⟨hi, hdeaf⟩
    obtain ⟨q, nowMs, -, rfl⟩ := h
    simpa [Loss.raise, Chip.raise] using hi.2
  exact ⟨h₁.1.opened, by simp [Loss.after, irqMaskAll],
    by simp [Loss.after, irqMaskAll, h₁.1.caught, h₁.1.safe], h₁.2⟩

/-! ## The operations -/

/-- Between operations: packets are kept just if none was caught. -/
structure Settled (l : Loss) : Prop where
  closed : l.starting = false
  kept_iff : l.Kept ↔ l.caught = false

theorem LossIdle.settled (h : LossIdle l) : Settled l :=
  ⟨h.closed, fun _ => h.clear, fun _ => h.toKept⟩

theorem LossDeaf.settled (h : LossDeaf false l) : Settled l := by
  refine ⟨h.opened, fun hk => h.caught.trans hk.safe, fun hc => ?_⟩
  exact kept_of_not_owed (h.caught.symm.trans hc) h.owed

/-- Ends settled: no postcondition on anything but the chip. -/
abbrev Settles {α : Type} (p : Api α) (s : Ctx) (l : Loss) : Prop :=
  Ensures lossChip p (fun _ _ _ l' => Settled l') s l

/-- `start_rx` clears the latch last. A packet owed at that moment keeps its
status bit and has no latch that would lead to it. -/
theorem settled_clearPending {r : Unit} (hi : LossCleared l)
    (h : lossChip l (.setIrqPending false) r l') : Settled l' := by
  obtain ⟨l₁, ht, c', rfl, -, rfl⟩ := h
  have h₁ := ticks_preserve lossCleared_kind.raise ht hi
  refine ⟨rfl, fun hk => ?_, fun hc => ?_⟩
  · have howed : l₁.owed = false := by
      refine Bool.eq_false_iff.mpr fun ho => ?_
      cases hk.flagged ho
    have hlost : l₁.lost = false := hk.safe
    exact h₁.caught.trans (by rw [hlost, howed]; rfl)
  · obtain ⟨hlost, howed⟩ := Bool.or_eq_false_iff.mp (h₁.caught.symm.trans hc)
    exact kept_of_not_owed hlost howed

theorem lossDeaf_clearPending {r : Unit} (hi : LossDeaf true l)
    (h : lossChip l (.setIrqPending false) r l') : LossDeaf false l' := by
  obtain ⟨l₁, ht, c', rfl, -, rfl⟩ := h
  have h₁ := ticks_preserve (lossDeaf_kind true).raise ht hi
  exact ⟨rfl, h₁.owed, h₁.caught, h₁.deaf⟩

theorem armTx_settles (hi : LossDeaf true l) : Settles armTx s l := by
  refine ensures_armTx fun l₁ h₁ l₂ h₂ nowMs l₃ h₃ rc l₄ h₄ _ _ => ?_
  have hkind := lossDeaf_kind false
  have hi₁ := lossDeaf_clearPending hi h₁
  have hi₂ := hkind.tame (.setIrqLatchedAtMs _) _ _ _ hi₁ h₂
  have hi₃ := hkind.tame .platformNowMs _ _ _ hi₂ h₃
  have hi₄ := hkind.tame (.setTx _) _ _ _ hi₃ h₄
  exact ⟨fun _ => hi₄.settled, fun _ => hi₄.settled⟩

theorem startTx_settles (data : Option Buf) (len : Nat) (hi : LossIdle l) :
    Settles (startTx data len) s l := by
  refine ensures_startTx (fun _ _ => hi.settled) fun _ _ => ?_
  refine ensures_thenOk_succeed allSucceed_loss fun l₁ h₁ => ?_
  obtain ⟨hi₁, henabled⟩ := lossStart_begin hi h₁
  refine ensures_thenOk_succeed allSucceed_loss fun l₂ h₂ => ?_
  have hi₂ := lossDeaf_clear hi₁ (henabled .rxDone) h₂
  have hkind := lossDeaf_kind true
  refine ensures_thenOk_succeed allSucceed_loss fun l₃ h₃ => ?_
  have hi₃ := hkind.tame (.setStandby _) _ _ _ hi₂ h₃
  refine ensures_thenOk_params allSucceed_loss fun _ _ _ l₄ h₄ => ?_
  have hi₄ := hkind.tame (.setLoraPacketParamsExplicit ..) _ _ _ hi₃ h₄
  refine ensures_thenOk_succeed allSucceed_loss fun l₅ h₅ => ?_
  have hi₅ := hkind.tame (.writeBuffer ..) _ _ _ hi₄ h₅
  exact armTx_settles hi₅

theorem startRx_settles (hi : LossIdle l) : Settles startRx s l := by
  refine ensures_startRx (fun _ _ => hi.settled) fun _ _ => ?_
  refine ensures_thenOk_succeed allSucceed_loss fun l₁ h₁ => ?_
  have hi₁ := (lossStart_begin hi h₁).1
  refine ensures_thenOk_succeed allSucceed_loss fun l₂ h₂ => ?_
  have hi₂ := lossCleared_clear hi₁ h₂
  have hkind := lossCleared_kind
  refine ensures_thenOk_params allSucceed_loss fun _ _ _ l₃ h₃ => ?_
  have hi₃ := hkind.tame (.setLoraPacketParamsExplicit ..) _ _ _ hi₂ h₃
  refine ensures_thenOk_succeed allSucceed_loss fun l₄ h₄ => ?_
  have hi₄ := hkind.tame .continuousReceive _ _ _ hi₃ h₄
  simp only [enterRx, ensures_bind, ensures_ask, ensures_modify, ensures_pure]
  intro _ l₅ h₅
  exact settled_clearPending hi₄ h₅

theorem standby_lossIdle (hi : LossIdle l) :
    Ensures lossChip standby (fun _ _ _ l' => LossIdle l') s l := by
  intro tr r s' l' hx
  refine lossIdle_kind.kept (callsOnly_standby.mono ?_) hx hi
  rintro _ rfl
  exact .setStandby _

/-- In a `poll` that has cleared the latch: what is owed is in the status. -/
structure LossServed (l : Loss) : Prop where
  safe : l.lost = false
  raised : l.owed = true → l.chip.status .rxDone = true
  closed : l.starting = false
  clear : l.caught = false

theorem lossServed_raise (l l' : Loss) (h : RaiseLoss l l') (hi : LossServed l) :
    LossServed l' := by
  obtain ⟨q, nowMs, -, rfl⟩ := h
  exact ⟨hi.safe, raised_raise hi.raised, hi.closed, by simp [Loss.raise, hi.clear, hi.closed]⟩

/-- The handler reports what is owed: the status bit of an owed packet is set,
and a call that reads the whole status reports it. -/
theorem lossIdle_handled {a : List Report × UInt8} (hi : LossServed l)
    (h : lossChip l .irqHandler a l') : LossIdle l' := by
  obtain ⟨l₁, ht, c', ⟨-, -, rfl⟩, -, rfl⟩ := h
  have h₁ := ticks_preserve lossServed_raise ht hi
  have howed : (l₁.owed && !l₁.chip.status .rxDone) = false := by
    cases ho : l₁.owed with
    | false => rfl
    | true => simp [h₁.raised ho]
  exact ⟨kept_of_not_owed h₁.safe howed, h₁.closed, h₁.clear⟩

theorem poll_lossIdle (hi : LossIdle l) :
    Ensures lossChip poll (fun _ _ _ l' => LossIdle l') s l := by
  refine ensures_poll.mpr ⟨fun _ => hi, fun _ => ensures_serviceDeferredIrq.mpr
    fun pending l₁ h₁ => ?_⟩
  have hi₁ := lossIdle_kind.tame .irqPending _ _ _ hi h₁
  have htame : pollTx.CallsOnly Call.Tame := callsOnly_pollTx.mono fun _ h => h ▸ .platformNowMs
  refine ⟨fun _ => ⟨fun _ => hi₁, fun _ tr r s' l' hx => lossIdle_kind.kept htame hx hi₁⟩,
    fun _ l₂ h₂ a l₃ h₃ tr _ s₄ l₄ hx => ?_⟩
  have hserved : LossServed l₂ := by
    obtain ⟨l₀, ht, c', rfl, -, rfl⟩ := h₂
    have h₀ := ticks_preserve lossIdle_raise ht hi₁
    exact ⟨h₀.safe, h₀.raised, rfl, h₀.clear⟩
  have hi₃ := lossIdle_handled hserved h₃
  have hi₄ := lossIdle_kind.kept
    ((callsOnly_deliver a.1).mono fun _ h => h ▸ .getLoraPacketStatus) hx hi₃
  exact ⟨fun _ => hi₄, fun _ tr r s' l' hx => lossIdle_kind.kept htame hx hi₄⟩

/-! ## What a poll hands over -/

/-- A full slot keeps its packet through a delivery, and notes any other in
`rx_overrun`. -/
theorem delivered_full {sl sl' : RxSlot} {reports : List Report}
    {tr : List (Event Call Answer)} (h : Delivered sl reports tr sl')
    (hp : sl.pending = true) :
    sl'.pending = true ∧ sl'.bytes = sl.bytes
      ∧ (sl.overrun = true ∨ bringsPacket reports = true → sl'.overrun = true) := by
  induction h with
  | nil => exact ⟨hp, rfl, fun h => h.elim id fun h => by cases h⟩
  | cons hr _ ih =>
      cases hr with
      | ignored hn =>
          obtain ⟨hpend, hbytes, hover⟩ := ih hp
          refine ⟨hpend, hbytes, fun h => hover (h.imp_right fun h => ?_)⟩
          simpa [bringsPacket, hn] using h
      | overrun hpacket _ =>
          obtain ⟨hpend, hbytes, hover⟩ := ih hp
          exact ⟨hpend, hbytes, fun _ => hover (.inl rfl)⟩
      | latched _ hfree =>
          rw [hp] at hfree
          cases hfree

/-- An empty slot takes the first packet of a delivery, and keeps it through
the rest. -/
theorem delivered_empty {sl sl' : RxSlot} {reports : List Report}
    {tr : List (Event Call Answer)} (h : Delivered sl reports tr sl')
    (hp : sl.pending = false) (hb : bringsPacket reports = true) :
    sl'.pending = true
      ∧ ∃ p ∈ reports.filterMap Report.packet, sl'.bytes = payload p.1 p.2 := by
  induction h with
  | nil => cases hb
  | cons hr hs ih =>
      cases hr with
      | ignored hn =>
          have hrest := ih hp (by simpa [bringsPacket, hn] using hb)
          simpa [List.filterMap_cons, hn] using hrest
      | overrun _ hfull =>
          rw [hp] at hfull
          cases hfull
      | @latched buf len hpacket _ rc st =>
          obtain ⟨hpend, hbytes, -⟩ := delivered_full hs rfl
          refine ⟨hpend, (buf, len), ?_, hbytes.trans (latch_bytes ..)⟩
          simp [hpacket]

/-- A packet reported to a `poll` is stored if the slot is free, and
recorded in `rx_overrun` otherwise. -/
def HandsOver (x : Rec (Ctx × Loss) RadioLabel) : Prop :=
  ∀ tr r, x.label = .op .poll tr r → reported (reportsOf tr) .rxDone = true →
    (x.pre.1.rxPending = true → x.post.1.rxOverrun = true)
      ∧ (x.pre.1.rxPending = false → x.post.1.rxPending = true
        ∧ ∃ p ∈ (reportsOf tr).filterMap Report.packet, x.post.1.rxBytes = payload p.1 p.2)

theorem carriesBuffers_exec {α : Type} {p : Api α} (hp : p.CallsOnly fun _ => True)
    {tr : List (Event Call Answer)} {a : α} (hx : Exec lossChip p s l tr a s' l') :
    ∀ rep ∈ reportsOf tr, rep.type = .rxDone → rep.buf ≠ none := by
  obtain ⟨-, hR⟩ := Prog.CallsOnly.events (J := fun _ => True) (R := CarriesBuffers)
    (fun l i a l' _ _ h => by
      obtain ⟨_, -, _, -, hbuf, -⟩ := h
      exact ⟨trivial, hbuf⟩) hx hp trivial
  intro rep hrep
  obtain ⟨ev, hev, hrep⟩ := List.mem_flatMap.mp hrep
  exact hR ev hev rep hrep

theorem handsOver_step {w w' : Ctx × Loss} {lab : RadioLabel} (h : LossStep w lab w') :
    HandsOver ⟨w, lab, w'⟩ := by
  rintro tr r rfl hrep
  have hpoll : Poll w.1 tr r w'.1 := op_step h rfl
  have hbufs : ∀ rep ∈ reportsOf tr, rep.type = .rxDone → rep.buf ≠ none := by
    cases h with
    | op hx => exact carriesBuffers_exec (callsOnly_poll.mono fun _ _ => trivial) hx
  have hbrings : bringsPacket (reportsOf tr) = true := by
    obtain ⟨rep, hmem, htype⟩ := reported_iff.mp hrep
    obtain ⟨buf, hbuf⟩ := Option.ne_none_iff_exists'.mp (hbufs rep hmem htype)
    refine List.any_eq_true.mpr ⟨rep, hmem, ?_⟩
    simp [Report.packet, htype, hbuf]
  obtain ⟨tr₁, hd, -⟩ := poll_delivered hpoll
  exact ⟨fun hp => (delivered_full hd hp).2.2 (.inr hbrings),
    fun hp => delivered_empty hd hp hbrings⟩

/-! ## Over runs -/

/-- An initialised radio at rest that met no packet while starting. -/
structure LossRun (w : Ctx × Loss) : Prop where
  initialized : w.1.initialized = true
  idle : LossIdle w.2

/-- Step lemma: from a radio at rest every operation ends settled. Only the
start functions can end with a packet caught. -/
theorem loss_step {w w' : Ctx × Loss} {lab : RadioLabel} (h : LossStep w lab w')
    (hi : LossRun w) : w'.1.initialized = true ∧ Settled w'.2 := by
  cases h with
  | tick h => exact ⟨hi.initialized, (lossIdle_raise _ _ h hi.idle).settled⟩
  | @op o s l tr r s' l' hx =>
      refine ⟨initialized_op (program_spec o _ _ _ _ hx) hi.initialized, ?_⟩
      cases o with
      | init hwCfg cfg =>
          obtain ⟨_, _, rfl⟩ := init_initialized hi.initialized hwCfg cfg _ _ _ _ hx
          exact hi.idle.settled
      | startTx data len => exact startTx_settles data len hi.idle _ _ _ _ hx
      | startRx => exact startRx_settles hi.idle _ _ _ _ hx
      | read bufNull bufSize outLenNull infoNull =>
          exact (lossIdle_kind.kept ((callsOnly_read ..).mono fun _ h => h.elim)
            hx hi.idle).settled
      | standby => exact (standby_lossIdle hi.idle _ _ _ _ hx).settled
      | poll => exact (poll_lossIdle hi.idle _ _ _ _ hx).settled

/-- In every run no packet is lost unseen, all through, exactly when no start
function meets a packet that is owed and none is latched while one is at work.
Both sides are settled step by step, and a step that is good leaves the radio
as the next one needs it. -/
theorem kept_iff_not_caught {w₀ w : Ctx × Loss} {xs : List (Rec (Ctx × Loss) RadioLabel)}
    (hinit : w₀.1.initialized = true) (h0 : LossIdle w₀.2) (h : Run LossStep w₀ xs w) :
    (∀ x ∈ xs, x.post.2.Kept ∧ HandsOver x) ↔ ∀ x ∈ xs, x.post.2.caught = false := by
  refine h.forall_iff LossRun (fun x => x.post.2.Kept ∧ HandsOver x)
    (fun x => x.post.2.caught = false) ⟨hinit, h0⟩ (fun x hs hi => ?_) fun x hs hgood hi => ?_
  · have hkept := (loss_step hs hi).2.kept_iff
    exact ⟨fun hgood => hkept.mp hgood.1, fun hc => ⟨hkept.mpr hc, handsOver_step hs⟩⟩
  · -- one good step is enough for the next to start from an idle radio
    obtain ⟨hinit, hset⟩ := loss_step hs hi
    exact ⟨hinit, hgood.1, hset.closed, hset.kept_iff.mp hgood.1⟩

/-! ## Concrete runs -/

/-- The bench chip with its packets followed. -/
def benchLoss (event : Chip → Call → Option Irq) (l : Loss) (i : Call) : Answer i × Loss :=
  let l := ((event l.chip i).map fun q => l.raise q 0).getD l
  let (a, c') := benchChip (fun _ _ => none) l.chip i
  (a, l.after i c')

theorem carriesBuffers_benchChip (c : Chip) (i : Call) :
    CarriesBuffers ⟨i, (benchChip (fun _ _ => none) c i).1⟩ := by
  cases i with
  | irqHandler =>
      intro rep hrep _
      obtain ⟨q, -, rfl⟩ := List.mem_map.mp hrep
      simp [benchReport]
  | _ =>
      intro rep hrep
      cases hrep

theorem benchLoss_answers {event : Chip → Call → Option Irq}
    (hevent : ∀ c i q, event c i = some q → c.op.raises q = true) :
    Answers (benchLoss event) lossChip := by
  intro l i
  refine ⟨((event l.chip i).map fun q => l.raise q 0).getD l, ?_,
    _, benchChip_chip _ i, carriesBuffers_benchChip _ i, rfl⟩
  cases hq : event l.chip i with
  | some q => exact .single ⟨q, 0, hevent _ _ _ hq, rfl⟩
  | none => exact .refl

def readyLoss : Loss :=
  { chip := readyChip, owed := false, lost := false, starting := false, caught := false }

theorem readyLoss_idle : LossIdle readyLoss := ⟨kept_of_not_owed rfl rfl, rfl, rfl⟩

/-- A packet arrives right before a call of the receiving radio. -/
def packetAt (moment : Call → Bool) (c : Chip) (i : Call) : Option Irq :=
  if c.op = .rx ∧ moment i = true then some .rxDone else none

theorem packetAt_raises {moment : Call → Bool} (c : Chip) (i : Call) (q : Irq)
    (h : packetAt moment c i = some q) : c.op.raises q = true := by
  unfold packetAt at h
  split at h
  · rename_i hc
    obtain rfl := Option.some.inj h
    rw [hc.1]
    rfl
  · cases h

def asksPending : Call → Bool
  | .irqPending => true
  | _ => false

def setsDioIrqParams : Call → Bool
  | .cmd (.setDioIrqParams ..) => true
  | _ => false

/-- A packet polled before the next transmission is stored. -/
theorem kept_iff_not_caught_polled :
    ∃ (xs : List (Rec (Ctx × Loss) RadioLabel)) (w : Ctx × Loss),
      Run LossStep (readyCtx, readyLoss) xs w ∧ w.1.rxPending = true
        ∧ ∀ x ∈ xs, x.post.2.Kept ∧ HandsOver x := by
  obtain ⟨xs, w, hrun, hw⟩ := evalsTo_run RaiseLoss (benchLoss_answers packetAt_raises)
    (show evalsTo program (benchLoss (packetAt asksPending)) 1 [.startRx, .poll, hello]
      (readyCtx, readyLoss)
      (fun xs w => w.1.rxPending && xs.all fun x => !x.post.2.caught) = true by
      decide +kernel)
  simp only [Bool.and_eq_true, List.all_eq_true, Bool.not_eq_true'] at hw
  exact ⟨xs, w, hrun, hw.1,
    (kept_iff_not_caught ready_initialised.initialized readyLoss_idle hrun).mpr hw.2⟩

/-- A packet latched when `start_tx` is called is gone, and nothing says so:
neither is it in the slot, nor is `rx_overrun` set. -/
theorem start_tx_discards :
    ∃ (xs : List (Rec (Ctx × Loss) RadioLabel)) (w : Ctx × Loss),
      Run LossStep (readyCtx, readyLoss) xs w ∧ w.2.lost = true ∧ ¬w.2.Kept
        ∧ w.1.rxPending = false ∧ w.1.rxOverrun = false := by
  obtain ⟨xs, w, hrun, hw⟩ := evalsTo_run RaiseLoss (benchLoss_answers packetAt_raises)
    (show evalsTo program (benchLoss (packetAt setsDioIrqParams)) 1 [.startRx, hello, .poll]
      (readyCtx, readyLoss)
      (fun _ w => w.2.lost && !w.1.rxPending && !w.1.rxOverrun) = true by decide +kernel)
  simp only [Bool.and_eq_true, Bool.not_eq_true'] at hw
  refine ⟨xs, w, hrun, hw.1.1, fun hk => ?_, hw.1.2, hw.2⟩
  cases hw.1.1.symm.trans hk.safe

end Sx126x

end LeosSdk
