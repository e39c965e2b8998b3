import LeosSdk.RadioLatch

/-!
# SX126x: the reported mode follows the chip

`mode` is a shadow: the software writes it when it commands the chip, and
again when it learns that a transmission has ended. In between, the chip may
be in standby with the news still pending on DIO1 (`Shadow.agree`).

One branch breaks the agreement: the software deadline in `poll` writes
STANDBY without commanding the chip. If the chip is still transmitting, or
receiving after a `standby` that left a transmission in flight, the shadow and
the chip part (`deadline_while_transmitting`). They stay together in every run
where the deadline only ever expires on a resting chip (`DeadlineAtRest`).

`Shadow` is the invariant. It says more than the agreement, since a radio
event may end the transmission at any moment: no source is set in the status
that is not enabled, in TX the enabled sources are the ends of a transmission,
and such an end finds the chip at rest. Events keep it (`shadow_raise`). In a
start function the shadow is behind for some calls; there `Still` and
`Cleared` hold instead, and the mode command at the end restores it. In `poll`
the reports of the whole status lead to the chip's mode
(`reportedMode_agrees`), and the only branch that does not rely on them is the
deadline.
-/

namespace LeosSdk

namespace Sx126x

variable {c c' : Chip} {s s' : Ctx}

/-- Any radio event at any time. -/
abbrev Any : Chip → Irq → Prop := fun _ _ => True

/-! ## The invariant -/

/-- The end of a transmission is set in the status. -/
def Chip.ended (c : Chip) : Prop := ∃ q, irqMaskTx q = true ∧ c.status q = true

/-- What keeps shadow and chip together, `poll`'s inside included: the modes
agree, or the end of the transmission is still to be serviced. -/
structure Shadow (s : Ctx) (c : Chip) : Prop where
  initialized : s.initialized = true
  agree : s.mode = c.op.mode ∨ s.mode = .tx ∧ c.op = .standby ∧ c.ended
  masked : ∀ q, c.status q = true → c.enabled q = true
  resting : c.ended → c.op = .standby
  sources : s.mode = .tx → c.enabled = irqMaskTx
  inFlight : s.mode = .tx → s.txInFlight = true
  /-- A noted end of the transmission in flight found the chip at rest. -/
  noted : s.txInFlight = true →
    s.handle.txDone = true ∨ s.handle.timeout = true → c.op = .standby

theorem mode_tx {op : ChipMode} : op.mode = .tx ↔ op = .tx := by
  cases op <;> simp [ChipMode.mode]

/-- A source set in the status was set before, or is the one just raised
and enabled. -/
theorem status_raised {q q' : Irq} {nowMs : UInt64}
    (h : (c.edge (c.raise q) nowMs).status q' = true) :
    c.status q' = true ∨ q' = q ∧ c.enabled q = true := by
  simpa [Chip.raise] using h

/-- Only enabled events are raised. -/
theorem masked_raise {q : Irq} (hi : Shadow s c) (nowMs : UInt64) (q' : Irq)
    (hq' : (c.edge (c.raise q) nowMs).status q' = true) :
    (c.edge (c.raise q) nowMs).enabled q' = true := by
  rw [edge_enabled]
  rcases status_raised hq' with hq' | ⟨rfl, henabled⟩
  · exact hi.masked q' hq'
  · exact henabled

/-- An event other than the end of a transmission leaves the chip receiving. -/
theorem shadow_raise_rx {q : Irq} (hi : Shadow s c) (hop : c.op = .rx)
    (hnot : irqMaskTx q = false) (nowMs : UInt64) : Shadow s (c.edge (c.raise q) nowMs) := by
  have hop' : (c.edge (c.raise q) nowMs).op = c.op := by simp [Chip.raise, hnot]
  have hended : (c.edge (c.raise q) nowMs).ended → c.ended := by
    intro h
    obtain ⟨q', htx, hq'⟩ := h
    refine ⟨q', htx, ?_⟩
    rcases status_raised hq' with hq' | ⟨rfl, -⟩
    · exact hq'
    · rw [hnot] at htx
      cases htx
  refine { hi with
    agree := ?_, masked := masked_raise hi nowMs, resting := ?_, sources := ?_, noted := ?_ }
  · rw [hop']
    refine hi.agree.imp_right fun h => ?_
    rw [hop] at h
    cases h.2.1
  · rw [hop']
    exact fun h => hi.resting (hended h)
  · rw [edge_enabled]
    exact hi.sources
  · rw [hop']
    exact hi.noted

/-- The end of a transmission takes the chip to standby. -/
theorem shadow_raise_tx {q : Irq} (hi : Shadow s c) (hop : c.op = .tx)
    (htx : irqMaskTx q = true) (nowMs : UInt64) : Shadow s (c.edge (c.raise q) nowMs) := by
  have hop' : (c.edge (c.raise q) nowMs).op = .standby := by simp [Chip.raise, htx]
  have hmode : s.mode = .tx := by
    rcases hi.agree with h | ⟨h, _⟩
    · rw [h, hop]; rfl
    · exact h
  have hset : (c.edge (c.raise q) nowMs).status q = true := by
    simp [Chip.raise, hi.sources hmode, htx]
  refine { hi with
    agree := .inr ⟨hmode, hop', q, htx, hset⟩, masked := masked_raise hi nowMs
    resting := fun _ => hop', sources := ?_, noted := fun _ _ => hop' }
  rw [edge_enabled]
  exact hi.sources

/-- A radio event. -/
theorem shadow_raise (s : Ctx) (c c' : Chip) (h : Raise Any c c') (hi : Shadow s c) :
    Shadow s c' := by
  obtain ⟨q, nowMs, hraise, _, rfl⟩ := h
  cases hop : c.op with
  | standby => rw [hop] at hraise; cases hraise
  | rx =>
      rw [hop] at hraise
      exact shadow_raise_rx hi hop (raises_rx hraise) nowMs
  | tx =>
      rw [hop] at hraise
      exact shadow_raise_tx hi hop hraise nowMs

/-- While the chip does not transmit, no radio event moves it. This is what a
start function builds on between its first call and its mode command. -/
structure Still (m : ChipMode) (c : Chip) : Prop where
  op : c.op = m
  notTx : m ≠ .tx

theorem still_raise {m : ChipMode} (c c' : Chip) (h : Raise Any c c')
    (hi : Still m c) : Still m c' := by
  obtain ⟨q, nowMs, hraise, _, rfl⟩ := h
  refine ⟨?_, hi.notTx⟩
  rw [edge_op]
  rw [hi.op] at hraise
  cases m with
  | standby => cases hraise
  | rx => simp [Chip.raise, raises_rx hraise, hi.op]
  | tx => exact (hi.notTx rfl).elim

/-- Between `sx1262_clear_irq_status` and the mode command of a start
function: only sources of the new mask can be set, and none of them ends a
transmission. -/
structure Cleared (m : ChipMode) (mask : IrqMask) (c : Chip) : Prop extends Still m c where
  enabled : c.enabled = mask
  masked : ∀ q, c.status q = true → mask q = true
  notEnded : ¬c.ended

theorem cleared_raise {m : ChipMode} {mask : IrqMask} (c c' : Chip) (h : Raise Any c c')
    (hi : Cleared m mask c) : Cleared m mask c' := by
  refine ⟨still_raise c c' h hi.toStill, ?_, ?_, ?_⟩
  all_goals
    obtain ⟨q, nowMs, hraise, _, rfl⟩ := h
    have hnot : irqMaskTx q = false := by
      rw [hi.op] at hraise
      cases m with
      | standby => cases hraise
      | rx => exact raises_rx hraise
      | tx => exact (hi.notTx rfl).elim
  · rw [edge_enabled]
    exact hi.enabled
  · intro q' hq'
    rw [edge_status] at hq'
    rcases Bool.or_eq_true_iff.mp hq' with hq' | hq'
    · exact hi.masked q' hq'
    · simp only [Bool.and_eq_true, beq_iff_eq] at hq'
      rw [hq'.1, ← hi.enabled]
      exact hq'.2
  · intro h
    rcases h with ⟨q', htx, hq'⟩
    rw [edge_status] at hq'
    rcases Bool.or_eq_true_iff.mp hq' with hq' | hq'
    · exact hi.notEnded ⟨q', htx, hq'⟩
    · simp only [Bool.and_eq_true, beq_iff_eq] at hq'
      rw [hq'.1, hnot] at htx
      cases htx

/-! ## The mode commands -/

theorem still_sources {m : ChipMode} {mask dio2Mask dio3Mask : IrqMask} {rc : UInt8}
    (hi : Still m c)
    (h : radioChip Any c (.cmd (.setDioIrqParams mask mask dio2Mask dio3Mask)) rc c') :
    Still m c' ∧ c'.enabled = mask := by
  obtain ⟨c₁, ht, _, nowMs, rfl⟩ := h
  have h₁ := ticks_preserve still_raise ht hi
  exact ⟨⟨by rw [edge_op]; exact h₁.op, h₁.notTx⟩, by simp⟩

theorem enabled_raise {mask : IrqMask} (c c' : Chip) (h : Raise Any c c')
    (hi : c.enabled = mask) : c'.enabled = mask := by
  obtain ⟨q, nowMs, _, _, rfl⟩ := h
  rw [edge_enabled]
  exact hi

theorem cleared_clear {m : ChipMode} {mask : IrqMask} {rc : UInt8} (hi : Still m c)
    (hmask : c.enabled = mask)
    (h : radioChip Any c (.cmd (.clearIrqStatus irqMaskAll)) rc c') :
    Cleared m mask c' := by
  obtain ⟨c₁, ht, _, rfl⟩ := h
  have h₁ := ticks_preserve still_raise ht hi
  have h₂ := ticks_preserve (J := (·.enabled = mask)) enabled_raise ht hmask
  exact ⟨⟨h₁.op, h₁.notTx⟩, h₂, by simp [irqMaskAll], by simp [Chip.ended, irqMaskAll]⟩

theorem cleared_command {m m' : ChipMode} {mask : IrqMask} (cmd : Cmd) {rc : UInt8}
    (hcmd : ∀ c rc c', chipEnv c (.cmd cmd) rc c' → c' = { c with op := m' })
    (hm' : m' ≠ .tx) (hi : Cleared m mask c)
    (h : radioChip Any c (.cmd cmd) rc c') : Cleared m' mask c' := by
  obtain ⟨c₁, ht, h⟩ := h
  have h₁ := ticks_preserve cleared_raise ht hi
  obtain rfl := hcmd _ _ _ h
  exact ⟨⟨rfl, hm'⟩, h₁.enabled, h₁.masked, h₁.notEnded⟩

/-- Calls on the shared fields leave the chip alone. -/
theorem cleared_shared {m : ChipMode} {mask : IrqMask} (i : Call) {r : Answer i}
    (hcall : ∀ c r c', chipEnv c i r c' →
      c'.op = c.op ∧ c'.enabled = c.enabled ∧ c'.status = c.status)
    (hi : Cleared m mask c)
    (h : radioChip Any c i r c') : Cleared m mask c' := by
  obtain ⟨c₁, ht, h⟩ := h
  have h₁ := ticks_preserve cleared_raise ht hi
  obtain ⟨hop, henabled, hstatus⟩ := hcall _ _ _ h
  refine ⟨⟨hop.trans h₁.op, h₁.notTx⟩, henabled.trans h₁.enabled, ?_, ?_⟩
  · rw [hstatus]
    exact h₁.masked
  · intro h
    rcases h with ⟨q, htx, hq⟩
    exact h₁.notEnded ⟨q, htx, by rwa [hstatus] at hq⟩

/-! ## The operations -/

/-- Between operations nothing about the transmission in flight is noted. -/
structure ShadowIdle (s : Ctx) (c : Chip) : Prop extends Shadow s c where
  clean : TxInv s

theorem Shadow.still (hi : Shadow s c) (hm : s.mode ≠ .tx) : Still c.op c := by
  refine ⟨rfl, fun hop => ?_⟩
  rcases hi.agree with h | ⟨h, _⟩
  · exact hm (h.trans (mode_tx.mpr hop))
  · exact hm h

/-- The chip at the end of a successful start function or `standby`. -/
theorem Cleared.shadow {m : ChipMode} {mask : IrqMask} (h : Cleared m mask c)
    (hi : s.initialized = true) (hm : s.mode = m.mode)
    (hn : s.txInFlight = true → s.handle.txDone = true ∨ s.handle.timeout = true →
      c.op = .standby) : Shadow s c where
  initialized := hi
  agree := .inl (by rw [hm, h.op])
  masked := fun q hq => by rw [h.enabled]; exact h.masked q hq
  resting := fun he => (h.notEnded he).elim
  sources := fun htx => (h.notTx (mode_tx.mp (hm.symm.trans htx))).elim
  inFlight := fun htx => (h.notTx (mode_tx.mp (hm.symm.trans htx))).elim
  noted := hn

theorem TxInv.notNoted (h : TxInv s) (hf : s.txInFlight = true)
    (hn : s.handle.txDone = true ∨ s.handle.timeout = true) : False := by
  rcases hn with hn | hn
  · cases hn.symm.trans (h.notDone hf)
  · cases hn.symm.trans (h.notTimeout hf)

theorem startRx_shadow (hi : ShadowIdle s c) :
    Ensures (radioChip Any) startRx (fun _ _ s' c' => Shadow s' c') s c := by
  refine ensures_startRx (fun _ _ => hi.toShadow) fun _ hm => ?_
  have hstill := hi.toShadow.still hm
  refine ensures_thenOk_succeed allSucceed_chip fun c₁ h₁ => ?_
  obtain ⟨hs₁, he₁⟩ := still_sources hstill h₁
  refine ensures_thenOk_succeed allSucceed_chip fun c₂ h₂ => ?_
  have hc₂ := cleared_clear hs₁ he₁ h₂
  refine ensures_thenOk_params allSucceed_chip fun _ _ _ c₃ h₃ => ?_
  have hc₃ := silent_step cleared_raise c₂ _ 0 c₃ (.setLoraPacketParamsExplicit ..) hc₂ h₃
  refine ensures_thenOk_succeed allSucceed_chip fun c₄ h₄ => ?_
  have hc₄ := cleared_command .continuousReceive (fun _ _ _ h => h.2) (by simp) hc₃ h₄
  simp only [enterRx, ensures_bind, ensures_ask, ensures_modify, ensures_pure]
  intro _ c₅ h₅
  have hc₅ := cleared_shared (.setIrqPending false)
    (by rintro _ _ _ rfl; exact ⟨rfl, rfl, rfl⟩) hc₄ h₅
  exact hc₅.shadow hi.initialized rfl fun hf hn => (hi.clean.notNoted hf hn).elim

theorem standby_shadow (hi : ShadowIdle s c) :
    Ensures (radioChip Any) standby (fun _ _ s' c' => Shadow s' c') s c := by
  simp only [standby, ensures_ite, ensures_bind, ensures_read, ensures_pure,
    ensures_driver, ensures_modify]
  refine ⟨fun _ => hi.toShadow, fun _ rc c₁ h₁ => ?_⟩
  obtain rfl := chip_cmd h₁
  obtain ⟨c₀, ht, _, rfl⟩ := h₁
  have h₀ := ticks_preserve (shadow_raise s) ht hi.toShadow
  refine ⟨fun hr => (hr rfl).elim, fun _ => ?_⟩
  exact
    { initialized := h₀.initialized
      agree := .inl rfl
      masked := h₀.masked
      resting := fun _ => rfl
      sources := by simp
      inFlight := by simp
      noted := fun _ _ => rfl }

theorem armTx_shadow {mask : IrqMask} (hmask : mask = irqMaskTx)
    (hc : Cleared .standby mask c) (hi : s.initialized = true) :
    Ensures (radioChip Any) armTx (fun _ _ s' c' => Shadow s' c') s c := by
  refine ensures_armTx fun c₁ h₁ c₂ h₂ nowMs c₃ h₃ rc c₄ h₄ _ _ => ?_
  have hc₁ := cleared_shared (.setIrqPending false)
    (by rintro _ _ _ rfl; exact ⟨rfl, rfl, rfl⟩) hc h₁
  have hc₂ := cleared_shared (.setIrqLatchedAtMs 0)
    (by rintro _ _ _ rfl; exact ⟨rfl, rfl, rfl⟩) hc₁ h₂
  have hc₃ := silent_step cleared_raise c₂ _ nowMs c₃ .platformNowMs hc₂ h₃
  obtain rfl := chip_cmd h₄
  obtain ⟨c₀, ht, _, rfl⟩ := h₄
  have hc₀ := ticks_preserve cleared_raise ht hc₃
  refine ⟨fun hr => (hr rfl).elim, fun _ => ?_⟩
  exact
    { initialized := hi
      agree := .inl rfl
      masked := fun q hq => by
        show c₀.enabled q = true
        rw [hc₀.enabled]
        exact hc₀.masked q hq
      resting := fun he => (hc₀.notEnded he).elim
      sources := fun _ => hc₀.enabled.trans hmask
      inFlight := fun _ => rfl
      noted := by simp [Ctx.arm, Ctx.clearFlags] }

theorem startTx_shadow (data : Option Buf) (len : Nat) (hi : ShadowIdle s c) :
    Ensures (radioChip Any) (startTx data len) (fun _ _ s' c' => Shadow s' c') s c := by
  refine ensures_startTx (fun _ _ => hi.toShadow) fun _ hready => ?_
  refine ensures_thenOk_succeed allSucceed_chip fun c₁ h₁ => ?_
  obtain ⟨hs₁, he₁⟩ := still_sources (hi.toShadow.still hready.notTx) h₁
  refine ensures_thenOk_succeed allSucceed_chip fun c₂ h₂ => ?_
  have hc₂ := cleared_clear hs₁ he₁ h₂
  refine ensures_thenOk_succeed allSucceed_chip fun c₃ h₃ => ?_
  have hc₃ := cleared_command (.setStandby .xtal32Mhz) (fun _ _ _ h => h.2) (by simp)
    hc₂ h₃
  refine ensures_thenOk_params allSucceed_chip fun _ _ _ c₄ h₄ => ?_
  have hc₄ := silent_step cleared_raise c₃ _ 0 c₄
    (.setLoraPacketParamsExplicit ..) hc₃ h₄
  refine ensures_thenOk_succeed allSucceed_chip fun c₅ h₅ => ?_
  have hc₅ := silent_step cleared_raise c₄ _ 0 c₅ (.writeBuffer ..) hc₄ h₅
  exact armTx_shadow rfl hc₅ hi.initialized

/-! ## poll -/

theorem reportedMode_of_ended {reports : List Report} {m : RadioMode}
    (h : ∃ q, irqMaskTx q = true ∧ reported reports q = true) (hm : m = .tx) :
    reportedMode reports m = .standby := by
  obtain ⟨q, hq, hrep⟩ := h
  unfold reportedMode
  rw [if_pos]
  cases q with
  | txDone => simp [hrep]
  | timeout => simp [hm, hrep]
  | _ => cases hq

theorem reportedMode_not_ended {reports : List Report} {m : RadioMode} (hm : m ≠ .tx)
    (h : reported reports .txDone = true → m = .standby) : reportedMode reports m = m := by
  unfold reportedMode
  split
  · rename_i hrep
    simp only [Bool.or_eq_true, Bool.and_eq_true, beq_iff_eq] at hrep
    rcases hrep with hrep | ⟨htx, _⟩
    · exact (h hrep).symm
    · exact (hm htx).elim
  · rfl

/-- The mode the reports of the whole status lead to is the chip's: they end a
transmission just if one has ended. -/
theorem reportedMode_agrees {reports : List Report} (hi : Shadow s c)
    (hrep : ∀ q, reported reports q = c.status q) :
    reportedMode reports s.mode = c.op.mode := by
  have hended : c.ended ↔ ∃ q, irqMaskTx q = true ∧ reported reports q = true := by
    simp only [Chip.ended, hrep]
  by_cases hm : s.mode = .tx
  · by_cases he : c.ended
    · rw [reportedMode_of_ended (hended.mp he) hm, hi.resting he]
      rfl
    · have hstays : reportedMode reports s.mode = .tx := by
        rw [hm]
        refine reportedMode_tx (fun rep hmem => ?_) ?_ ?_
        · have hstatus : c.status rep.type = true := by
            rw [← hrep, reported_iff]
            exact ⟨rep, hmem, rfl⟩
          rw [← hi.sources hm]
          exact hi.masked _ hstatus
        · exact Bool.eq_false_iff.mpr fun h => he (hended.mpr ⟨.txDone, rfl, h⟩)
        · exact Bool.eq_false_iff.mpr fun h => he (hended.mpr ⟨.timeout, rfl, h⟩)
      rw [hstays]
      rcases hi.agree with h | ⟨_, _, he'⟩
      · exact hm.symm.trans h
      · exact (he he').elim
  · have hagree : s.mode = c.op.mode := hi.agree.resolve_right fun h => hm h.1
    rw [← hagree]
    refine reportedMode_not_ended hm fun hd => ?_
    rw [hagree, hi.resting ⟨.txDone, rfl, by rw [← hrep]; exact hd⟩]
    rfl

/-- The handler's reports are the status it clears. -/
theorem shadow_handled {reports : List Report} {sl : RxSlot} (hi : Shadow s c)
    (hclean : TxInv s) (hrep : ∀ q, reported reports q = c.status q) :
    Shadow (s.noted reports sl) { c with status := irqMaskNone } := by
  have htx : reportedMode reports s.mode = .tx → s.mode = .tx := fun h => by
    by_contra hm
    exact reportedMode_ne_tx hm h
  have hagrees : reportedMode reports s.mode = c.op.mode := reportedMode_agrees hi hrep
  refine
    { initialized := by simpa using hi.initialized
      agree := .inl (by rw [noted_mode, hagrees])
      masked := fun _ h => by cases h
      resting := ?_
      sources := fun h => hi.sources (htx (by simpa using h))
      inFlight := fun h => by simpa using hi.inFlight (htx (by simpa using h))
      noted := ?_ }
  · intro h
    rcases h with ⟨q, _, hq⟩
    cases hq
  · intro hf hn
    have hf' : s.txInFlight = true := by simpa using hf
    simp only [noted_txDone, noted_timeout, hclean.notDone hf', hclean.notTimeout hf',
      Bool.false_or, hrep] at hn
    rcases hn with hn | hn
    · exact hi.resting ⟨.txDone, rfl, hn⟩
    · exact hi.resting ⟨.timeout, rfl, hn⟩

theorem serviceDeferredIrq_shadow (hi : ShadowIdle s c) :
    Ensures (radioChip Any) serviceDeferredIrq
      (fun _ r s' c' => r = .ok ∧ Shadow s' c') s c := by
  refine ensures_serviceDeferredIrq.mpr fun pending c₁ h₁ => ?_
  have hi₁ := silent_step (shadow_raise s) c _ pending c₁ .irqPending hi.toShadow h₁
  refine ⟨fun _ => ⟨rfl, hi₁⟩, fun _ c₂ h₂ a c₃ h₃ => ?_⟩
  have hi₂ : Shadow s c₂ := by
    obtain ⟨c₀, ht, rfl⟩ := h₂
    have h₀ := ticks_preserve (shadow_raise s) ht hi₁
    exact { h₀ with }
  obtain ⟨c₀, ht, hrc, hrep, rfl⟩ := h₃
  have h₀ := ticks_preserve (shadow_raise s) ht hi₂
  intro tr _ s' c' hx
  obtain ⟨sl, _, rfl⟩ := deliver_spec a.1 _ _ _ _ hx
  refine ⟨by rw [hrc]; rfl, ?_⟩
  exact silent_kept (shadow_raise _) (silent_deliver a.1) hx
    (shadow_handled h₀ hi.clean hrep)

theorem shadow_endTx {r : RadioStatus} (hi : Shadow s c) (hop : c.op = .standby) :
    Shadow (s.endTx r) c where
  initialized := hi.initialized
  agree := .inl (by rw [hop]; rfl)
  masked := hi.masked
  resting := hi.resting
  sources := fun h => by cases h
  inFlight := fun h => by cases h
  noted := fun h => by cases h

/-- Where the deadline has expired the chip rests. -/
theorem poll_shadow (hi : ShadowIdle s c) :
    Ensures (radioChip Any) poll (fun tr _ s' c' =>
      (∀ nowMs, (⟨.platformNowMs, nowMs⟩ : Event Call Answer) ∈ tr →
        s.pastDeadline nowMs → c'.op = .standby) → Shadow s' c') s c := by
  refine ensures_poll.mpr ⟨fun _ _ => hi.toShadow, fun _ => ?_⟩
  refine ((serviceDeferredIrq_shadow hi).and serviceDeferredIrq_spec).mono ?_
  intro tr status s₁ c₁ h
  rcases h with ⟨⟨rfl, hi₁⟩, hs⟩
  obtain ⟨sl, hs₁⟩ := hs.noted
  refine ⟨fun hr => (hr rfl).elim, fun _ => ?_⟩
  intro tr' r s₂ c₂ hx hrest
  have hi₂ : Shadow s₁ c₂ := silent_kept (shadow_raise s₁) silent_pollTx hx hi₁
  obtain ⟨_, hp⟩ := pollTx_spec _ _ _ _ hx
  cases hp with
  | idle => exact hi₂
  | waiting => exact hi₂
  | done nowMs hf hd => exact shadow_endTx hi₂ (hi₂.noted hf (.inl hd))
  | timedOut nowMs hf hd ht =>
      refine shadow_endTx hi₂ ?_
      rcases ht with ht | ht
      · exact hi₂.noted hf (.inr ht)
      · rw [hs₁, noted_pastDeadline] at ht
        exact hrest nowMs (by simp) ht

/-! ## Runs -/

/-- At every `poll` that reads the clock past the deadline of the
transmission in flight, the chip is in standby. -/
def DeadlineAtRest (x : Rec (Ctx × Chip) RadioLabel) : Prop :=
  ∀ tr r, x.label = .op .poll tr r → ∀ nowMs,
    (⟨.platformNowMs, nowMs⟩ : Event Call Answer) ∈ tr → x.pre.1.pastDeadline nowMs →
    x.post.2.op = .standby

/-- Step lemma, with the one thing the run must grant: at a `poll` past the
deadline the chip rests. -/
theorem shadow_step (x : Rec (Ctx × Chip) RadioLabel)
    (h : ChipStep Any x.pre x.label x.post) (hgood : DeadlineAtRest x)
    (hi : ShadowIdle x.pre.1 x.pre.2) : ShadowIdle x.post.1 x.post.2 := by
  refine ⟨?_, (tx_step h hi.clean).2⟩
  obtain ⟨⟨s, c⟩, l, ⟨s', c'⟩⟩ := x
  cases h with
  | tick ht => exact shadow_raise s c c' ht hi.toShadow
  | @op o _ _ tr r _ _ hx =>
      cases o with
      | init hwCfg cfg =>
          obtain ⟨_, rfl, rfl⟩ := init_initialized hi.initialized hwCfg cfg _ _ _ _ hx
          exact hi.toShadow
      | startTx data len => exact startTx_shadow data len hi _ _ _ _ hx
      | startRx => exact startRx_shadow hi _ _ _ _ hx
      | read bufNull bufSize outLenNull infoNull =>
          have hi' := silent_kept (shadow_raise s)
            ((callsOnly_read ..).mono fun _ h => h.elim) hx
            hi.toShadow
          cases read_spec bufNull bufSize outLenNull infoNull _ _ _ _ hx with
          | refused => exact hi'
          | taken => exact { hi' with }
      | standby => exact standby_shadow hi _ _ _ _ hx
      | poll => exact poll_shadow hi _ _ _ _ hx (hgood tr r rfl)

/-- In every run in which the software deadline only expires on a resting
chip, an idle radio with DIO1 low reports the mode the chip is in. By the
invariant the two agree or an end is pending, and a pending end would hold
DIO1 high. -/
theorem mode_tracks_chip {w₀ w : Ctx × Chip} {xs : List (Rec (Ctx × Chip) RadioLabel)}
    (h0 : Initialised w₀.1 w₀.2) (h : Run (ChipStep Any) w₀ xs w)
    (hgood : ∀ x ∈ xs, DeadlineAtRest x) (hlow : w.2.dio1 = false) :
    w.1.mode = w.2.op.mode := by
  have hstart : ShadowIdle w₀.1 w₀.2 :=
    { initialized := h0.initialized
      agree := .inl (by rw [h0.mode, h0.op]; rfl)
      masked := fun q hq => by rw [h0.status q] at hq; cases hq
      resting := fun _ => h0.op
      sources := fun hm => by rw [h0.mode] at hm; cases hm
      inFlight := fun hm => by rw [h0.mode] at hm; cases hm
      noted := fun _ _ => h0.op
      clean := txInv_idle h0.idle }
  have hend := (h.invariant (fun w => ShadowIdle w.1 w.2) DeadlineAtRest hstart
    shadow_step hgood).1
  refine hend.agree.resolve_right fun hended => ?_
  obtain ⟨_, _, q, _, hq⟩ := hended
  rw [dio1_iff.mpr ⟨q, hq, hend.masked q hq⟩] at hlow
  cases hlow

/-- The transmission ends as `poll` looks for it. -/
def doneAtPoll (c : Chip) : Call → Option Irq
  | .irqPending => if c.op = .tx then some .txDone else none
  | _ => none

/-- The chip rests after each `poll`. -/
def restsAfterPoll (x : Rec (Ctx × Chip) RadioLabel) : Bool :=
  match x.label with
  | .op .poll _ _ => x.post.2.op == .standby
  | _ => true

/-- A packet sent, its end serviced, and the receiver started. -/
theorem mode_tracks_chip_send : ∃ (w : Ctx × Chip) (xs : _),
    Run (ChipStep Any) (readyCtx, readyChip) xs w
      ∧ w.2.op = .rx ∧ w.1.mode = w.2.op.mode := by
  have hanswers : Answers (benchChip doneAtPoll) (radioChip Any) := by
    refine benchChip_answers fun c i q hq => ⟨?_, trivial⟩
    unfold doneAtPoll at hq
    split at hq
    · split at hq
      · rename_i h
        obtain rfl := Option.some.inj hq
        rw [h]
        rfl
      · cases hq
    · cases hq
  obtain ⟨xs, w, hrun, hw⟩ := evalsTo_run (Raise Any) hanswers
    (show evalsTo program _ 1 [hello, .poll, .startRx] (readyCtx, readyChip)
      (fun xs w => w.2.op == .rx && !w.2.dio1 && xs.all restsAfterPoll) = true by
      decide +kernel)
  simp only [Bool.and_eq_true, beq_iff_eq, Bool.not_eq_true', List.all_eq_true] at hw
  refine ⟨w, xs, hrun, hw.1.1,
    mode_tracks_chip ready_initialised hrun (fun x hx tr r hl nowMs _ _ => ?_) hw.1.2⟩
  have := hw.2 x hx
  rw [restsAfterPoll, hl] at this
  exact beq_iff_eq.mp this

/-- The software deadline gives up on a chip that is still transmitting:
`mode` says STANDBY with DIO1 low and nothing pending. -/
theorem deadline_while_transmitting : ∃ (w : Ctx × Chip) (xs : _),
    Run (ChipStep Any) (readyCtx, readyChip) xs w
      ∧ w.2.dio1 = false ∧ w.2.latch.irqPending = false
      ∧ w.1.mode = .standby ∧ w.2.op = .tx := by
  have hanswers : Answers (benchChip fun _ _ => none) (radioChip Any) := by
    refine benchChip_answers fun c i q hq => ?_
    cases hq
  obtain ⟨xs, w, hrun, hw⟩ := evalsTo_run (Raise Any) hanswers
    (show evalsTo program _ 1 [hello, .poll] (readyCtx, readyChip)
      (fun _ w => !w.2.dio1 && !w.2.latch.irqPending && w.1.mode == .standby
        && w.2.op == .tx) = true by decide +kernel)
  simp only [Bool.and_eq_true, beq_iff_eq, Bool.not_eq_true'] at hw
  exact ⟨w, xs, hrun, hw.1.1.1, hw.1.1.2, hw.1.2, hw.2⟩

end Sx126x

end LeosSdk
