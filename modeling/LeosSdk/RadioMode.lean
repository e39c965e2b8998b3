import LeosSdk.RadioSteps

/-!
# SX126x: tx_in_flight and the mode

A radio with an arbitrary vendor driver: every call may return any result, the
clock any reading, and `sx1262_irq_handler` may report any interrupts among
those enabled through `sx1262_set_dio_irq_params`. DIO1 interrupts run between
calls and between operations; the two radios run side by side.

`tx_in_flight` and `mode = TX` say the same thing in every idle state, as long
as nobody puts the radio into standby during a transmission
(`NoStandbyInFlight`): `leos_sx126x_standby` writes `mode` and leaves
`tx_in_flight` set. After that `start_rx`, which tests `mode` only, succeeds,
and the next `poll` past the deadline knocks the receiver into STANDBY on
behalf of the forgotten transmission (`standby_in_flight`).

The equivalence alone is not inductive. A `poll` during a transmission writes
`mode` at every report, so it keeps TX only because nothing but the end of a
transmission can be reported then. `ModeInv` therefore carries what is enabled
on DIO1 as well: while a transmission is in flight only transmit sources are,
since `start_tx` enabled them and no call before the next start touches them
(`sources_kept`), and the driver reports enabled ones only. With this each
operation keeps the invariant by cases on its outcome, and the two radios,
which share nothing, are projected apart.
-/

namespace LeosSdk

namespace Sx126x

/-! ## The environment -/

/-- What the driver's side keeps: the shared fields of the context and the
sources enabled on DIO1. -/
structure Driver where
  latch : Dio1Latch
  enabled : IrqMask

/-- Any driver. A failing `sx1262_set_dio_irq_params` may have taken effect
or not; resetting the chip may leave any mask. -/
def driverEnv : Env Driver Call Answer
  | d, .irqPending, r, d' => r = d.latch.irqPending ∧ d' = d
  | d, .setIrqPending b, _, d' =>
    d' = { d with latch := { d.latch with irqPending := b } }
  | d, .setIrqLatchedAtMs ms, _, d' =>
    d' = { d with latch := { d.latch with irqLatchedAtMs := ms } }
  | d, .cmd (.setDioIrqParams irqMask _ _ _), rc, d' =>
    d' = { d with enabled := irqMask } ∨ rc ≠ (0 : UInt8) ∧ d' = d
  | d, .cmd .init, _, d' => d'.latch = d.latch
  | d, .cmd .deinit, _, d' => d'.latch = d.latch
  | d, .irqHandler, a, d' =>
    (∀ rep ∈ Prod.fst (β := UInt8) a, d.enabled rep.type = true) ∧ d' = d
  | d, _, _, d' => d' = d

/-- A DIO1 interrupt. -/
def dio1Irq (d d' : Driver) : Prop :=
  ∃ initialized nowMs, d' = { d with latch := handleDio1Irq initialized nowMs d.latch }

abbrev radioEnv : Env Driver Call Answer := interleave dio1Irq driverEnv

abbrev RadioLabel := Label Op Op.Ret Call Answer

abbrev RadioStep : Ctx × Driver → RadioLabel → Ctx × Driver → Prop :=
  Session program radioEnv dio1Irq

/-! ## What the driver's side keeps -/

/-- Calls that leave the enabled sources alone. -/
def Call.KeepsSources : Call → Prop
  | .cmd (.setDioIrqParams ..) | .cmd .init | .cmd .deinit => False
  | _ => True

theorem dio1Irq_enabled {m : IrqMask} {d d' : Driver} (h : dio1Irq d d')
    (hm : d.enabled = m) : d'.enabled = m := by
  obtain ⟨_, _, rfl⟩ := h
  exact hm

/-- Under a call that keeps them, the enabled sources stay and bound what
the driver reports. -/
theorem keepsSources_step {m : IrqMask} (d : Driver) (i : Call) (r : Answer i)
    (d' : Driver) (hi : i.KeepsSources) (hm : d.enabled = m)
    (h : radioEnv d i r d') :
    d'.enabled = m ∧ ∀ rep ∈ eventReports ⟨i, r⟩, m rep.type = true := by
  obtain ⟨d₁, ht, h⟩ := h
  have hm₁ : d₁.enabled = m :=
    ticks_preserve (J := (·.enabled = m)) (fun _ _ => dio1Irq_enabled) ht hm
  cases i with
  | cmd c =>
      cases c with
      | setDioIrqParams | init | deinit => exact hi.elim
      | _ =>
          obtain rfl : d' = d₁ := h
          exact ⟨hm₁, fun _ h => by cases h⟩
  | irqHandler =>
      obtain ⟨hrep, rfl⟩ := h
      rw [hm₁] at hrep
      exact ⟨hm₁, hrep⟩
  | irqPending =>
      obtain ⟨_, rfl⟩ := h
      exact ⟨hm₁, fun _ h => by cases h⟩
  | setIrqPending b | setIrqLatchedAtMs ms =>
      obtain rfl := h
      exact ⟨hm₁, fun _ h => by cases h⟩
  | _ =>
      obtain rfl : d' = d₁ := h
      exact ⟨hm₁, fun _ h => by cases h⟩

section

variable {s : Ctx} {d : Driver}

/-- A program that never touches the enabled sources. -/
theorem sources_kept {α : Type} {p : Api α} (hp : p.CallsOnly Call.KeepsSources) :
    Ensures radioEnv p (fun tr _ _ d' => d'.enabled = d.enabled
      ∧ ∀ rep ∈ reportsOf tr, d.enabled rep.type = true) s d := by
  intro tr a s' d' hx
  obtain ⟨hm, hR⟩ := Prog.CallsOnly.events
    (J := fun d' : Driver => d'.enabled = d.enabled)
    (R := fun ev => ∀ rep ∈ eventReports ev, d.enabled rep.type = true)
    keepsSources_step hx hp rfl
  refine ⟨hm, fun rep hrep => ?_⟩
  obtain ⟨ev, hev, hrep⟩ := List.mem_flatMap.mp hrep
  exact hR ev hev rep hrep

theorem keepsSources_armTx : armTx.CallsOnly Call.KeepsSources := by
  refine Prog.callsOnly_bind trivial fun _ => ?_
  refine Prog.callsOnly_bind ⟨trivial, fun _ => trivial⟩ fun _ => ?_
  refine Prog.callsOnly_bind ⟨trivial, fun _ => trivial⟩ fun _ => ?_
  refine Prog.callsOnly_bind ⟨trivial, fun _ => trivial⟩ fun nowMs => ?_
  refine Prog.callsOnly_bind trivial fun _ => ?_
  refine Prog.callsOnly_bind (fun _ => trivial) fun ctx => ?_
  refine Prog.callsOnly_bind (callsOnly_driver trivial) fun status => ?_
  split
  · exact Prog.callsOnly_bind trivial fun _ => trivial
  · trivial

/-- `start_tx` enables the transmit sources before anything else, and they
are what is enabled when it returns OK. -/
theorem startTx_sources (data : Option Buf) (len : Nat) :
    Ensures radioEnv (startTx data len)
      (fun _ r _ d' => r = .ok → d'.enabled = irqMaskTx) s d := by
  refine ensures_startTx (fun _ hr h => (hr h).elim) fun _ _ => ?_
  rw [ensures_thenOk]
  refine ensures_driver.mpr fun rc d₁ hrc => ⟨fun hok => ?_, fun hr h => (hr h).elim⟩
  obtain rfl : rc = 0 := mapStatus_ok.mp hok
  obtain ⟨d₀, _, rfl | ⟨hne, _⟩⟩ := hrc
  · refine (sources_kept ?_).mono fun _ _ _ _ h _ => h.1
    exact callsOnly_thenOk (callsOnly_driver trivial) <|
      callsOnly_thenOk (callsOnly_driver trivial) <|
      callsOnly_thenOk (callsOnly_applyPacketParams fun _ _ _ _ => trivial) <|
      callsOnly_thenOk (callsOnly_driver trivial) keepsSources_armTx
  · exact (hne rfl).elim

end

/-! ## The invariant -/

/-- What holds of a radio in every idle state, and what carries it:
`tx_in_flight` and the mode agree, and during a transmission only its own
interrupts are enabled. -/
structure ModeInv (s : Ctx) (d : Driver) : Prop where
  tracks : s.txInFlight = true ↔ s.mode = .tx
  live : s.txInFlight = true → s.initialized = true
  sources : s.txInFlight = true → ∀ q, d.enabled q = true → irqMaskTx q = true

/-- A radio that is not transmitting satisfies the invariant whatever is
enabled. -/
theorem modeInv_idle {s : Ctx} {d : Driver} (hf : s.txInFlight = false)
    (hm : s.mode ≠ .tx) : ModeInv s d where
  tracks := by simp [hf, hm]
  live := by simp [hf]
  sources := by simp [hf]

theorem ModeInv.mode_ne {s : Ctx} {d : Driver} (h : ModeInv s d)
    (hf : s.txInFlight = false) : s.mode ≠ .tx := by
  intro hm
  rw [h.tracks.mpr hm] at hf
  cases hf

theorem ModeInv.notInFlight {s : Ctx} {d : Driver} (h : ModeInv s d)
    (hm : s.mode ≠ .tx) : s.txInFlight = false :=
  Bool.eq_false_iff.mpr fun hf => hm (h.tracks.mp hf)

theorem ModeInv.of_sources {s : Ctx} {d d' : Driver} (h : ModeInv s d)
    (hd : d'.enabled = d.enabled) : ModeInv s d' :=
  ⟨h.tracks, h.live, by rw [hd]; exact h.sources⟩

theorem reportedMode_ne_tx {reports : List Report} {m : RadioMode} (hm : m ≠ .tx) :
    reportedMode reports m ≠ .tx := by
  unfold reportedMode
  split
  · simp
  · exact hm

theorem reportedMode_rx {reports : List Report} :
    reportedMode reports .rx = .rx ↔ reported reports .txDone = false := by
  cases h : reported reports .txDone <;> simp [reportedMode, h]

/-- Nothing terminal was reported and only transmit sources are enabled:
the mode stays TX. -/
theorem reportedMode_tx {reports : List Report}
    (hsrc : ∀ rep ∈ reports, irqMaskTx rep.type = true)
    (hd : reported reports .txDone = false) (ht : reported reports .timeout = false) :
    reportedMode reports .tx = .tx := by
  have hc : reported reports .crcErr = false := by
    refine Bool.eq_false_iff.mpr fun hc => ?_
    obtain ⟨rep, hrep, htype⟩ := reported_iff.mp hc
    have := hsrc rep hrep
    rw [htype] at this
    cases this
  simp [reportedMode, hc, hd, ht]

theorem modeInv_endTx {s : Ctx} {d : Driver} (r : RadioStatus) : ModeInv (s.endTx r) d :=
  modeInv_idle rfl fun h => by cases h

/-- `poll` keeps the invariant when it leaves the sources alone and is
reported enabled ones only: a report either ends the transmission, and both
fields fall together, or is none of a transmission's and cannot have come. -/
theorem modeInv_polled {s s' : Ctx} {d d' : Driver} {tr : List (Event Call Answer)}
    {r : RadioStatus} (hi : ModeInv s d) (h : Polled s tr r s')
    (hd : d'.enabled = d.enabled)
    (hrep : ∀ rep ∈ reportsOf tr, d.enabled rep.type = true) : ModeInv s' d' := by
  cases h with
  | refused => exact hi.of_sources hd
  | quiet _ hf =>
      refine modeInv_idle (by simpa using hf) ?_
      rw [noted_mode]
      exact reportedMode_ne_tx (hi.mode_ne hf)
  | failed | done | timedOut => exact modeInv_endTx _
  | waiting hinit hf hdone htime =>
      simp only [noted_txDone, noted_timeout, Bool.or_eq_false_iff] at hdone htime
      have hsrc : ∀ rep ∈ reportsOf tr, irqMaskTx rep.type = true :=
        fun rep hmem => hi.sources hf _ (hrep rep hmem)
      exact
        { tracks := by
            rw [noted_mode, hi.tracks.mp hf, reportedMode_tx hsrc hdone.2 htime.2]
            simpa using hf
          live := fun _ => by simpa using hinit
          sources := fun _ q hq => hi.sources hf q (by rwa [hd] at hq) }

/-! ## One step -/

/-- No `standby` call succeeds while a transmission is in flight: the driver
refuses its `sx1262_set_standby`. -/
def NoStandbyInFlight (x : Rec (Ctx × Driver) RadioLabel) : Prop :=
  ∀ tr r, x.label = .op .standby tr r → x.pre.1.txInFlight = true →
    setStandbyEvent 0 ∉ tr

theorem keepsSources_poll : poll.CallsOnly Call.KeepsSources := by
  refine callsOnly_poll.mono fun i hi => ?_
  cases hi <;> trivial

theorem modeInv_init {hwCfg : Option RadioHwConfig} {cfg : Option RadioConfig}
    {tr : List (Event Call Answer)} {r : RadioStatus} (hi : ModeInv s d)
    (hx : Exec radioEnv (program (.init hwCfg cfg)) s d tr r s' d') : ModeInv s' d' := by
  have hspec := program_spec _ _ _ _ _ hx
  cases hinit : s.initialized with
  | true =>
      obtain ⟨_, rfl, rfl⟩ := init_initialized hinit hwCfg cfg _ _ _ _ hx
      exact hi
  | false =>
      have hf : s.txInFlight = false :=
        Bool.eq_false_iff.mpr fun hf => by rw [hi.live hf] at hinit; cases hinit
      cases hspec with
      | refused => exact modeInv_idle hf (hi.mode_ne hf)
      | failed | done => exact modeInv_idle rfl fun h => by cases h

theorem modeInv_startTx {data : Option Buf} {len : Nat} {tr : List (Event Call Answer)}
    {r : RadioStatus} (hi : ModeInv s d)
    (hx : Exec radioEnv (program (.startTx data len)) s d tr r s' d') : ModeInv s' d' := by
  have hspec := program_spec _ _ _ _ _ hx
  cases hspec with
  | refused hr =>
      cases hf : s.txInFlight with
      | true =>
          obtain ⟨_, _, rfl⟩ := startTx_busy hf data len _ _ _ _ hx
          exact hi
      | false => exact modeInv_idle hf (hi.mode_ne hf)
  | failed => exact modeInv_endTx _
  | armed hready nowMs =>
      have henabled := startTx_sources data len _ _ _ _ hx rfl
      exact ⟨by simp [Ctx.arm], fun _ => hready.initialized,
        fun _ q hq => by rwa [henabled] at hq⟩

theorem modeInv_startRx {tr : List (Event Call Answer)} {r : RadioStatus} (hi : ModeInv s d)
    (hx : Exec radioEnv (program .startRx) s d tr r s' d') : ModeInv s' d' := by
  have hspec := program_spec _ _ _ _ _ hx
  cases hspec with
  | refused hr =>
      by_cases hm : s.mode = .tx
      · obtain ⟨_, _, rfl⟩ := startRx_busy hm _ _ _ _ hx
        exact hi
      · exact modeInv_idle (hi.notInFlight hm) hm
  | entered _ hm => exact modeInv_idle (hi.notInFlight hm) fun h => by cases h

theorem modeInv_step (x : Rec (Ctx × Driver) RadioLabel)
    (h : RadioStep x.pre x.label x.post) (hgood : NoStandbyInFlight x)
    (hi : ModeInv x.pre.1 x.pre.2) : ModeInv x.post.1 x.post.2 := by
  obtain ⟨⟨s, d⟩, l, ⟨s', d'⟩⟩ := x
  cases h with
  | tick ht => exact hi.of_sources (dio1Irq_enabled ht rfl)
  | @op o _ _ tr r _ _ hx =>
      have hspec := program_spec o tr r s' d' hx
      cases o with
      | init hwCfg cfg => exact modeInv_init hi hx
      | startTx data len => exact modeInv_startTx hi hx
      | startRx => exact modeInv_startRx hi hx
      | read bufNull bufSize outLenNull infoNull =>
          have hd := (sources_kept ((callsOnly_read ..).mono fun _ h => h.elim) _ _ _ _ hx).1
          cases hspec with
          | refused => exact hi.of_sources hd
          | taken =>
              have := hi.of_sources hd
              exact ⟨this.tracks, this.live, this.sources⟩
      | standby =>
          have hd := (sources_kept (callsOnly_standby.mono
            (by rintro _ rfl; trivial)) _ _ _ _ hx).1
          cases hspec with
          | refused => exact hi.of_sources hd
          | done =>
              refine modeInv_idle (Bool.eq_false_iff.mpr fun hf => ?_) fun h => by cases h
              exact hgood _ _ rfl hf (List.mem_singleton.mpr rfl)
      | poll =>
          obtain ⟨hd, hrep⟩ := sources_kept keepsSources_poll _ _ _ _ hx
          exact modeInv_polled hi (Poll.outcome hspec) hd hrep

/-! ## Runs -/

/-- The context at power-on: static storage. -/
def Ctx.powerOn (radio : Radio) : Ctx where
  radio := radio
  handle := { txDone := false, timeout := false }
  hwConfig :=
    { platformSpi := none, spiBaudHz := 0, pinSck := 0, pinMosi := 0, pinMiso := 0
      pinNss := 0, pinBusy := 0, pinReset := 0, pinDio1 := 0 }
  config :=
    { rfFrequencyHz := 0, txTimeoutMs := 0, txPowerDbm := 0, preambleLenSymbols := 0
      bandwidth := .bw7Khz, spreadingFactor := .other 0, codingRate := .cr4_5
      syncWord := 0, crcEnabled := false, iqInverted := false
      dio2RfSwitchEnable := false, dio3TcxoEnable := false, tcxoVoltage := .v1p6
      tcxoDelayUs := 0 }
  mode := .uninit
  initialized := false
  txInFlight := false
  txStartedAtMs := 0
  lastTxStatus := .ok
  rxPending := false
  rxOverrun := false
  rxBuf := fun _ => 0
  rxLen := 0
  rxInfo := { rssiDbm := 0, snrDb := 0, crcOk := false }

/-- What a run of one radio shows of its transmissions and its mode. -/
structure ModeTracks (xs : List (Rec (Ctx × Driver) RadioLabel)) (w : Ctx × Driver) :
    Prop where
  /-- In the idle state reached. -/
  idle : w.1.txInFlight = true ↔ w.1.mode = .tx
  startRx : ∀ x ∈ xs, ∀ tr, x.label = .op .startRx tr .ok → x.pre.1.txInFlight = false
  /-- `poll` ends no transmission of a receiving radio, and only a reported
  TX_DONE takes it out of RX. -/
  poll : ∀ x ∈ xs, ∀ tr r, x.label = .op .poll tr r → x.pre.1.mode = .rx →
    x.pre.1.txInFlight = false ∧ x.post.1.txInFlight = false
      ∧ x.post.1.lastTxStatus = x.pre.1.lastTxStatus
      ∧ (x.post.1.mode = .rx ↔ reported (reportsOf tr) .txDone = false)

theorem startRx_ok {x : Rec (Ctx × Driver) RadioLabel} {tr : List (Event Call Answer)}
    (h : RadioStep x.pre x.label x.post) (hi : ModeInv x.pre.1 x.pre.2)
    (hl : x.label = .op .startRx tr .ok) : x.pre.1.txInFlight = false := by
  have hstep : StartRx x.pre.1 .ok x.post.1 := op_step h hl
  generalize x.post.1 = s' at hstep
  cases hstep with
  | refused hr => exact (hr rfl).elim
  | entered _ hm => exact hi.notInFlight hm

theorem poll_rx {x : Rec (Ctx × Driver) RadioLabel} {tr : List (Event Call Answer)}
    {r : RadioStatus} (h : RadioStep x.pre x.label x.post)
    (hi : ModeInv x.pre.1 x.pre.2) (hl : x.label = .op .poll tr r)
    (hm : x.pre.1.mode = .rx) :
    x.pre.1.txInFlight = false ∧ x.post.1.txInFlight = false
      ∧ x.post.1.lastTxStatus = x.pre.1.lastTxStatus
      ∧ (x.post.1.mode = .rx ↔ reported (reportsOf tr) .txDone = false) := by
  have hf : x.pre.1.txInFlight = false := hi.notInFlight (by rw [hm]; simp)
  have hstep : Polled x.pre.1 tr r x.post.1 := Poll.outcome (op_step h hl)
  generalize x.post.1 = s' at hstep ⊢
  cases hstep with
  | refused _ htr =>
      subst htr
      exact ⟨hf, hf, rfl, by simp [hm, reportsOf]⟩
  | quiet _ _ =>
      refine ⟨hf, by simpa using hf, by simp, ?_⟩
      rw [noted_mode, hm]
      exact reportedMode_rx
  | failed _ hf' | done _ hf' | timedOut _ _ hf' | waiting _ hf' =>
      rw [hf] at hf'
      cases hf'

/-- In every run of the two radios, a radio nobody puts into standby during a
transmission keeps `tx_in_flight` and `mode = TX` in step. The run of both is
projected to the one radio, where `ModeInv` holds at power-on and every step
keeps it. -/
theorem tx_in_flight_iff_mode_tx {ws₀ ws : Radio → Ctx × Driver}
    {xs : List (Rec (Radio → Ctx × Driver) (Radio × RadioLabel))}
    (h0 : ∀ radio, (ws₀ radio).1 = Ctx.powerOn radio)
    (h : Run (Fam RadioStep) ws₀ xs ws) (radio : Radio)
    (hgood : ∀ x ∈ xs.filterMap (component radio), NoStandbyInFlight x) :
    ModeTracks (xs.filterMap (component radio)) (ws radio) := by
  have hstart : ModeInv (ws₀ radio).1 (ws₀ radio).2 := by
    rw [h0]
    exact modeInv_idle rfl fun h => by cases h
  obtain ⟨hend, hall⟩ := (h.project radio).invariant
    (fun w => ModeInv w.1 w.2) NoStandbyInFlight hstart modeInv_step hgood
  exact
    { idle := hend.tracks
      startRx := fun x hx tr hl => startRx_ok (hall x hx).1 (hall x hx).2.1 hl
      poll := fun x hx tr r hl hm => poll_rx (hall x hx).1 (hall x hx).2.1 hl hm }

/-! ## Runs on the bench -/

/-- A driver whose calls all succeed and that reports nothing. The clock
stands still but for a jump when the receive sources are enabled. -/
def plainDriver : Driver → (i : Call) → Answer i × Driver
  | d, .irqPending => (d.latch.irqPending, d)
  | d, .setIrqPending b => ((), { d with latch := { d.latch with irqPending := b } })
  | d, .setIrqLatchedAtMs ms =>
    ((), { d with latch := { d.latch with irqLatchedAtMs := ms } })
  | d, .cmd (.setDioIrqParams irqMask _ _ _) => (0, { d with enabled := irqMask })
  | d, .cmd _ => ((0 : UInt8), d)
  | d, .timeoutConvertToRegister us => ((0, us), d)
  | d, .frequencyConvertToRegister hz => ((0, hz), d)
  | d, .getTxModulation => ((0, 0), d)
  | d, .getTxClampConfig => ((0, 0), d)
  | d, .irqHandler => (([], 0), d)
  | d, .getLoraPacketStatus => ((0, { rssiPkt := -90, snrPkt := 7 }), d)
  | d, .platformNowMs => (if d.enabled .rxDone then 1000 else 0, d)

theorem plainDriver_answers : Answers plainDriver radioEnv := by
  intro d i
  refine interleave_of ?_
  cases i with
  | cmd c =>
      cases c with
      | setDioIrqParams => exact .inl rfl
      | _ => rfl
  | irqPending => exact ⟨rfl, rfl⟩
  | irqHandler => exact ⟨(fun _ h => by cases h), rfl⟩
  | _ => rfl

/-- The two radios at power-on. -/
def bench (radio : Radio) : Ctx × Driver :=
  (Ctx.powerOn radio, ⟨⟨false, 0⟩, irqMaskNone⟩)

/-- `init` with the default configuration. -/
def bringUp : Op :=
  .init (some (Ctx.powerOn .sx1262).hwConfig) (some (getDefaultConfig .sx1262))

/-- Five bytes to send. -/
def hello : Op := .startTx (some fun _ => 0x68) 5

def callsStandby : RadioLabel → Bool
  | .op .standby _ _ => true
  | _ => false

/-- One of two radios is brought up and sends; after a poll it still says so. -/
theorem tx_in_flight_iff_mode_tx_send : ∃ xs ws,
    Run (Fam RadioStep) bench xs ws
      ∧ ModeTracks (xs.filterMap (component .sx1262)) (ws .sx1262)
      ∧ (ws .sx1262).1.mode = .tx := by
  obtain ⟨xs, w, hrun, hw⟩ := evalsTo_run dio1Irq plainDriver_answers
    (show evalsTo program plainDriver 1 [bringUp, hello, .poll] (bench .sx1262)
      (fun xs w => w.1.mode == .tx
        && xs.all fun x => !callsStandby x.label) = true from rfl)
  simp only [Bool.and_eq_true, beq_iff_eq, List.all_eq_true] at hw
  refine ⟨_, _, hrun.embed,
    tx_in_flight_iff_mode_tx (fun _ => rfl) hrun.embed .sx1262 ?_, by simpa using hw.1⟩
  rw [component_embed]
  intro x hx tr r hl
  have := hw.2 x hx
  rw [hl] at this
  cases this

/-- A `standby` during a transmission separates the two, `start_rx` then
succeeds with the transmission still in flight, and the next `poll` takes
the receiver to STANDBY. -/
theorem standby_in_flight : ∃ xs ws,
    Run (Fam RadioStep) bench xs ws
      ∧ (∃ x ∈ xs.filterMap (component .sx1262),
          ¬(x.post.1.txInFlight = true ↔ x.post.1.mode = .tx))
      ∧ (xs.filterMap (component .sx1262)).map
          (fun x => (x.post.1.txInFlight, x.post.1.mode)) =
        [(false, .standby), (true, .tx), (true, .standby), (true, .rx),
          (false, .standby)] := by
  obtain ⟨xs, w, hrun, hw⟩ := evalsTo_run dio1Irq plainDriver_answers
    (show evalsTo program plainDriver 1 [bringUp, hello, .standby, .startRx, .poll]
      (bench .sx1262) (fun xs _ => decide
        (xs.map (fun x => (x.post.1.txInFlight, x.post.1.mode)) =
          [(false, .standby), (true, .tx), (true, .standby), (true, .rx),
            (false, .standby)])) = true from rfl)
  have hobs := of_decide_eq_true hw
  refine ⟨_, _, hrun.embed, ?_, by rw [component_embed]; exact hobs⟩
  rw [component_embed]
  have hmem : (true, RadioMode.standby) ∈
      xs.map (fun x => (x.post.1.txInFlight, x.post.1.mode)) := by
    rw [hobs]
    decide
  obtain ⟨x, hx, heq⟩ := List.mem_map.mp hmem
  exact ⟨x, hx, by simp_all⟩

end Sx126x

end LeosSdk
