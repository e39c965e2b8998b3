import LeosSdk.RadioRx

/-!
# SX126x: the chip behind a driver that never fails

An environment with the chip in it: which operating mode it is in, which
interrupt sources are enabled and which status bits are set. DIO1 is high
exactly while an enabled status bit is set, and each rising edge runs
`leos_sx126x_handle_dio1_irq` on the spot, whatever raised the line: an
event of the radio or a change of the enabled sources. Every driver call
succeeds and acts at once; radio events fall between any two calls, and
none inside a call. This is a restriction where a call does two things to
the chip: `sx1262_irq_handler` reads the status and then clears what it
read, and a source raised between the two is outside of this model.

`arming` is no part of the chip. It is true from a start function's
`sx1262_clear_irq_status` to the moment that function clears `irq_pending`,
and lets a run say when a radio event falls into that window.
-/

namespace LeosSdk

namespace Sx126x

/-! ## The chip -/

inductive ChipMode where
  | standby | rx | tx
deriving DecidableEq, Repr

/-- The mode the software reports for it. -/
def ChipMode.mode : ChipMode → RadioMode
  | .standby => .standby
  | .rx => .rx
  | .tx => .tx

structure Chip where
  latch : Dio1Latch
  op : ChipMode
  enabled : IrqMask
  status : IrqMask
  arming : Bool

def Irq.all : List Irq :=
  [.txDone, .rxDone, .preambleDetected, .syncWordValid, .headerValid, .headerErr,
    .crcErr, .cadDone, .cadDetected, .timeout]

theorem Irq.mem_all (q : Irq) : q ∈ Irq.all := by
  cases q <;> decide

/-- The level of DIO1. -/
def Chip.dio1 (c : Chip) : Bool := Irq.all.any fun q => c.status q && c.enabled q

theorem dio1_iff {c : Chip} :
    c.dio1 = true ↔ ∃ q, c.status q = true ∧ c.enabled q = true := by
  simp [Chip.dio1, Irq.mem_all]

theorem dio1_low {c : Chip} (h : ∀ q, c.status q = false) : c.dio1 = false := by
  refine Bool.eq_false_iff.mpr fun hd => ?_
  obtain ⟨q, hq, _⟩ := dio1_iff.mp hd
  rw [h q] at hq
  cases hq

/-- `c'` after `c`, with the interrupt if DIO1 has risen. -/
def Chip.edge (c c' : Chip) (nowMs : UInt64) : Chip :=
  if !c.dio1 && c'.dio1 then { c' with latch := handleDio1Irq true nowMs c'.latch }
  else c'

section Edge

variable (c c' : Chip) (nowMs : UInt64)

@[simp] theorem edge_op : (c.edge c' nowMs).op = c'.op := by
  unfold Chip.edge; split <;> rfl

@[simp] theorem edge_enabled : (c.edge c' nowMs).enabled = c'.enabled := by
  unfold Chip.edge; split <;> rfl

@[simp] theorem edge_status : (c.edge c' nowMs).status = c'.status := by
  unfold Chip.edge; split <;> rfl

@[simp] theorem edge_arming : (c.edge c' nowMs).arming = c'.arming := by
  unfold Chip.edge; split <;> rfl

@[simp] theorem edge_dio1 : (c.edge c' nowMs).dio1 = c'.dio1 := by
  simp [Chip.dio1]

end Edge

/-- A line that was flagged while high is flagged after the edge. -/
theorem edge_flagged {c c' : Chip} {nowMs : UInt64}
    (h : c.dio1 = true → c.latch.irqPending = true) (hl : c'.latch = c.latch)
    (hd : (c.edge c' nowMs).dio1 = true) : (c.edge c' nowMs).latch.irqPending = true := by
  rw [edge_dio1] at hd
  unfold Chip.edge
  split
  · rfl
  · rename_i hno
    have : c.dio1 = true := by simpa [hd] using hno
    rw [hl]
    exact h this

/-! ## Radio events -/

/-- The interrupts a mode can raise: a receiver's, or the end of a
transmission. -/
def ChipMode.raises : ChipMode → Irq → Bool
  | .standby, _ => false
  | .rx, q => q == .rxDone || q == .crcErr || q == .preambleDetected
    || q == .syncWordValid || q == .headerValid || q == .headerErr
  | .tx, q => irqMaskTx q

/-- Raising sets an enabled source's status bit; the end of a transmission
leaves the chip in standby, enabled or not. -/
def Chip.raise (c : Chip) (q : Irq) : Chip :=
  { c with
    status := fun q' => c.status q' || (q' == q && c.enabled q)
    op := if irqMaskTx q then .standby else c.op }

/-- A radio event, of those `allow`ed in the state it meets. -/
def Raise (allow : Chip → Irq → Prop) (c c' : Chip) : Prop :=
  ∃ q nowMs, c.op.raises q = true ∧ allow c q ∧ c' = c.edge (c.raise q) nowMs

theorem raises_rx {q : Irq} (h : ChipMode.rx.raises q = true) : irqMaskTx q = false := by
  cases q <;> first | rfl | cases h

/-! ## The driver -/

/-- A driver whose calls all succeed, each of them one step of the chip:
`sx1262_irq_handler` reports and clears the same status. -/
def chipEnv : Env Chip Call Answer
  | c, .irqPending, r, c' => r = c.latch.irqPending ∧ c' = c
  | c, .setIrqPending b, _, c' =>
    c' = { c with latch := { c.latch with irqPending := b }, arming := false }
  | c, .setIrqLatchedAtMs ms, _, c' =>
    c' = { c with latch := { c.latch with irqLatchedAtMs := ms } }
  | c, .cmd (.setDioIrqParams irqMask dio1Mask _ _), rc, c' =>
    rc = (0 : UInt8)
      ∧ ∃ nowMs, c' = c.edge { c with enabled := fun q => irqMask q && dio1Mask q } nowMs
  | c, .cmd (.clearIrqStatus mask), rc, c' =>
    rc = (0 : UInt8)
      ∧ c' = { c with status := fun q => c.status q && !mask q, arming := true }
  | c, .cmd (.setStandby _), rc, c' => rc = (0 : UInt8) ∧ c' = { c with op := .standby }
  | c, .cmd .continuousReceive, rc, c' => rc = (0 : UInt8) ∧ c' = { c with op := .rx }
  | c, .cmd (.setTx _), rc, c' => rc = (0 : UInt8) ∧ c' = { c with op := .tx }
  | c, .cmd _, rc, c' => rc = (0 : UInt8) ∧ c' = c
  | c, .irqHandler, a, c' =>
    Prod.snd a = (0 : UInt8) ∧ (∀ q, reported a.1 q = c.status q)
      ∧ c' = { c with status := irqMaskNone }
  | c, .timeoutConvertToRegister _, a, c' => Prod.fst a = (0 : UInt8) ∧ c' = c
  | c, .frequencyConvertToRegister _, a, c' => Prod.fst a = (0 : UInt8) ∧ c' = c
  | c, .getTxModulation, a, c' => Prod.fst a = (0 : UInt8) ∧ c' = c
  | c, .getTxClampConfig, a, c' => Prod.fst a = (0 : UInt8) ∧ c' = c
  | c, .getLoraPacketStatus, a, c' => Prod.fst a = (0 : UInt8) ∧ c' = c
  | c, .platformNowMs, _, c' => c' = c

variable {allow : Chip → Irq → Prop} {c c' : Chip}

/-- Driver calls with radio events before each of them. -/
abbrev radioChip (allow : Chip → Irq → Prop) : Env Chip Call Answer :=
  interleave (Raise allow) chipEnv

abbrev ChipStep (allow : Chip → Irq → Prop) :
    Ctx × Chip → RadioLabel → Ctx × Chip → Prop :=
  Session program (radioChip allow) (Raise allow)

theorem chip_cmd {cmd : Cmd} {rc : UInt8} (h : radioChip allow c (.cmd cmd) rc c') :
    rc = 0 := by
  obtain ⟨c₁, _, h⟩ := h
  cases cmd <;> exact h.1

/-- Calls that change neither the chip nor the shared fields. -/
inductive Call.Silent : Call → Prop
  | irqPending : Silent .irqPending
  | getLoraPacketStatus : Silent .getLoraPacketStatus
  | platformNowMs : Silent .platformNowMs
  | setLoraPacketParamsExplicit (preamble : UInt16) (len : UInt8) (crc iq : Bool) :
      Silent (.cmd (.setLoraPacketParamsExplicit preamble len crc iq))
  | writeBuffer (offset : UInt8) (data : List UInt8) :
      Silent (.cmd (.writeBuffer offset data))

/-- What radio events keep, silent calls keep. -/
theorem silent_step {J : Chip → Prop} (hJ : ∀ c c', Raise allow c c' → J c → J c')
    (c : Chip) (i : Call) (r : Answer i) (c' : Chip) (hi : i.Silent) (h0 : J c)
    (h : radioChip allow c i r c') : J c' := by
  obtain ⟨c₁, ht, h⟩ := h
  have h₁ : J c₁ := ticks_preserve hJ ht h0
  cases hi with
  | irqPending =>
      obtain ⟨_, rfl⟩ := h
      exact h₁
  | platformNowMs =>
      obtain rfl := h
      exact h₁
  | getLoraPacketStatus | setLoraPacketParamsExplicit | writeBuffer =>
      obtain ⟨_, rfl⟩ := h
      exact h₁

/-- A silent program keeps what radio events keep. -/
theorem silent_kept {J : Chip → Prop} (hJ : ∀ c c', Raise allow c c' → J c → J c')
    {α : Type} {p : Api α} (hp : p.CallsOnly Call.Silent) {s s' : Ctx}
    {tr : List (Event Call Answer)} {a : α}
    (hx : Exec (radioChip allow) p s c tr a s' c') (h0 : J c) : J c' :=
  hp.keeps (silent_step hJ) h0 _ _ _ _ hx

theorem silent_deliver (reports : List Report) :
    (deliver reports).CallsOnly Call.Silent :=
  (callsOnly_deliver reports).mono fun _ h => h ▸ .getLoraPacketStatus

theorem silent_pollTx : pollTx.CallsOnly Call.Silent :=
  callsOnly_pollTx.mono fun _ h => h ▸ .platformNowMs

/-- A radio just initialised: nothing enabled has been raised, nothing is in
flight. -/
structure Initialised (s : Ctx) (c : Chip) : Prop where
  initialized : s.initialized = true
  mode : s.mode = .standby
  idle : s.txInFlight = false
  op : c.op = .standby
  status : ∀ q, c.status q = false
  arming : c.arming = false

/-! ## A chain of successful driver calls -/

section Chain

variable {ε : Type} {E : Env ε Call Answer} {e : ε} {s : Ctx} {q : Api RadioStatus}
  {Q : Post Ctx ε Call Answer RadioStatus}

/-- Every command of the driver succeeds. -/
def AllSucceed (E : Env ε Call Answer) : Prop :=
  ∀ e cmd rc e', E e (.cmd cmd) rc e' → rc = (0 : UInt8)

/-- No step of a chain fails. -/
theorem ensures_thenOk_succeed (hE : AllSucceed E) {cmd : Cmd}
    (h : ∀ e', E e (.cmd cmd) (0 : UInt8) e' →
      Ensures E q (fun tr' => Q (⟨.cmd cmd, (0 : UInt8)⟩ :: tr')) s e') :
    Ensures E (thenOk (driver cmd) q) Q s e := by
  rw [ensures_thenOk, ensures_driver]
  intro rc e' hrc
  obtain rfl := hE _ _ _ _ hrc
  exact ⟨fun _ => h e' hrc, fun hr => (hr rfl).elim⟩

theorem ensures_thenOk_params (hE : AllSucceed E) {n : UInt8}
    (h : ∀ preamble crc iq e',
      E e (.cmd (.setLoraPacketParamsExplicit preamble n crc iq)) (0 : UInt8) e' →
      Ensures E q
        (fun tr' => Q (⟨.cmd (.setLoraPacketParamsExplicit preamble n crc iq),
          (0 : UInt8)⟩ :: tr')) s e') :
    Ensures E (thenOk (applyPacketParams n) q) Q s e :=
  ensures_thenOk_applyPacketParams.mpr (ensures_thenOk_succeed hE (h _ _ _))

theorem allSucceed_chip : AllSucceed (radioChip allow) := fun _ _ _ _ => chip_cmd

end Chain

/-! ## A chip on the bench -/

/-- One packet per reported RX_DONE. -/
def benchReport (q : Irq) : Report := ⟨q, some fun _ => 0x68, 5⟩

/-- The chip after a radio event, if there is one. -/
def Chip.raiseAny (c : Chip) : Option Irq → Chip
  | some q => c.edge (c.raise q) 0
  | none => c

/-- Answers of a chip whose radio raises `event c i` right before call `i`.
The clock reads 1000 while the chip transmits and 0 otherwise. -/
def benchChip (event : Chip → Call → Option Irq) (c : Chip) (i : Call) :
    Answer i × Chip :=
  let c := c.raiseAny (event c i)
  match i with
  | .irqPending => (c.latch.irqPending, c)
  | .setIrqPending b =>
    ((), { c with latch := { c.latch with irqPending := b }, arming := false })
  | .setIrqLatchedAtMs ms =>
    ((), { c with latch := { c.latch with irqLatchedAtMs := ms } })
  | .cmd (.setDioIrqParams irqMask dio1Mask _ _) =>
    ((0 : UInt8), c.edge { c with enabled := fun q => irqMask q && dio1Mask q } 0)
  | .cmd (.clearIrqStatus mask) =>
    ((0 : UInt8), { c with status := fun q => c.status q && !mask q, arming := true })
  | .cmd (.setStandby _) => ((0 : UInt8), { c with op := .standby })
  | .cmd .continuousReceive => ((0 : UInt8), { c with op := .rx })
  | .cmd (.setTx _) => ((0 : UInt8), { c with op := .tx })
  | .cmd _ => ((0 : UInt8), c)
  | .irqHandler =>
    (((Irq.all.filter c.status).map benchReport, 0), { c with status := irqMaskNone })
  | .timeoutConvertToRegister us => ((0, us), c)
  | .frequencyConvertToRegister hz => ((0, hz), c)
  | .getTxModulation => ((0, 0), c)
  | .getTxClampConfig => ((0, 0), c)
  | .getLoraPacketStatus => ((0, { rssiPkt := -90, snrPkt := 7 }), c)
  | .platformNowMs => (if c.op = .tx then 1000 else 0, c)

theorem reported_benchReport (status : IrqMask) (q : Irq) :
    reported ((Irq.all.filter status).map benchReport) q = status q := by
  rw [Bool.eq_iff_iff, reported_iff]
  simp [benchReport, Irq.mem_all]

theorem benchChip_chip (c : Chip) (i : Call) :
    chipEnv c i (benchChip (fun _ _ => none) c i).1 (benchChip (fun _ _ => none) c i).2 := by
  cases i with
  | cmd cmd =>
      cases cmd with
      | setDioIrqParams => exact ⟨rfl, 0, rfl⟩
      | _ => exact ⟨rfl, rfl⟩
  | setIrqPending | setIrqLatchedAtMs | platformNowMs => rfl
  | irqHandler => exact ⟨rfl, reported_benchReport _, rfl⟩
  | _ => exact ⟨rfl, rfl⟩

theorem benchChip_answers {event : Chip → Call → Option Irq}
    (hevent : ∀ c i q, event c i = some q → c.op.raises q = true ∧ allow c q) :
    Answers (benchChip event) (radioChip allow) := by
  intro c i
  refine ⟨c.raiseAny (event c i), ?_, benchChip_chip _ i⟩
  cases hq : event c i with
  | some q =>
      obtain ⟨hraise, hallow⟩ := hevent c i q hq
      exact .single ⟨q, 0, hraise, hallow, rfl⟩
  | none => exact .refl

/-- The context right after `init`, with the default configuration. -/
def readyCtx : Ctx :=
  { (Ctx.powerOn .sx1262).reset (Ctx.powerOn .sx1262).hwConfig (getDefaultConfig .sx1262)
    with initialized := true, mode := .standby }

def readyChip : Chip :=
  { latch := { irqPending := false, irqLatchedAtMs := 0 }, op := .standby
    enabled := irqMaskNone, status := irqMaskNone, arming := false }

theorem ready_initialised : Initialised readyCtx readyChip :=
  ⟨rfl, rfl, rfl, rfl, fun _ => rfl, rfl⟩

end Sx126x

end LeosSdk
