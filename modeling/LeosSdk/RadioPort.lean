import LeosSdk.RadioMode

/-!
# SX126x: two radios on one platform

Both radios' driver calls end in the functions of one port
(`sx126x_port_pico.c`, `sx126x_port_linux.c`), which keep globals the radios
share. So a port is an environment for the two radios together, and what it
does for one of them depends on which radio that is and on its `hw_config`:
`leos_sx126x_init` stores the configuration in the context and links the
handle right before it calls `sx1262_init`. An environment therefore takes the
configuration as an argument, and a step runs with the one its context has
while the operation makes its calls (`linkedHw`). That this is the right one
is `step_hwConfig`: after a step the context has the configuration the step
ran with.

This module has what both ports' results need: which configuration a step runs
with, what a step leaves of contexts (`SameConfigs`, read off `OpStep` by
operation), and that an operation other than `init` neither brings the driver
up or down nor reaches it for an uninitialised radio. The last is used to
argue about a port call by call with `Prog.CallsOnly`, without looking at the
operation that makes the calls.
-/

namespace LeosSdk

namespace Sx126x

variable {ε : Type} {E : Env ε Call Answer} {s s' : Ctx} {e : ε}

/-! ## Steps of two radios -/

/-- The `hw_config` in the context while the operation makes its calls. -/
def linkedHw (s : Ctx) : Op → RadioHwConfig
  | .init (some hwCfg) (some _) => if s.initialized then s.hwConfig else hwCfg
  | _ => s.hwConfig

def labelHw (s : Ctx) : RadioLabel → RadioHwConfig
  | .op o _ _ => linkedHw s o
  | .tick => s.hwConfig

abbrev Pair (ε : Type) := (Radio → Ctx) × ε

abbrev PairLabel := Radio × RadioLabel

/-- One of the radios takes a step on the port. -/
abbrev PairStep (E : Radio → RadioHwConfig → Env ε Call Answer) :
    Pair ε → PairLabel → Pair ε → Prop :=
  SharedSession (fun _ => program) (fun radio s l => E radio (labelHw s l)) fun _ _ => False

/-- The two radios at power-on. -/
def pairStart (e : ε) : Pair ε := (Ctx.powerOn, e)

/-- Run a list of the radios' operations from power-on with `h` answering. -/
def pairEvalsTo (h : Radio → RadioHwConfig → ε → (i : Call) → Answer i × ε)
    (os : List (Radio × Op)) (e : ε)
    (P : List (Rec (Pair ε) PairLabel) → Pair ε → Bool) : Bool :=
  sharedEvalsTo (fun _ => program) (fun radio s o => h radio (linkedHw s o)) 1 os
    (pairStart e) P

theorem pairEvalsTo_run {h : Radio → RadioHwConfig → ε → (i : Call) → Answer i × ε}
    {E : Radio → RadioHwConfig → Env ε Call Answer}
    (hE : ∀ radio hw, Answers (h radio hw) (E radio hw)) {os : List (Radio × Op)} {e : ε}
    {P : List (Rec (Pair ε) PairLabel) → Pair ε → Bool} (heval : pairEvalsTo h os e P = true) :
    ∃ xs w, Run (PairStep E) (pairStart e) xs w ∧ P xs w = true :=
  sharedEvalsTo_run (fun _ _ => False) (fun _ _ _ _ _ => hE _ _) heval

/-- Answers of a driver whose calls all succeed and that reports nothing. -/
def plainAnswer : (i : Call) → Answer i
  | .cmd _ => (0 : UInt8)
  | .timeoutConvertToRegister us => (0, us)
  | .frequencyConvertToRegister hz => (0, hz)
  | .getTxModulation | .getTxClampConfig => (0, 0)
  | .irqHandler => ([], 0)
  | .getLoraPacketStatus => (0, { rssiPkt := -90, snrPkt := 7 })
  | .platformNowMs => (0 : UInt64)
  | .irqPending => false
  | .setIrqPending _ | .setIrqLatchedAtMs _ => ()

/-- `init` with the default configuration on the given bus and reset pin. -/
def bringUpOn (radio : Radio) (spi : Nat) (reset : UInt32) : Radio × Op :=
  (radio, .init (some { (Ctx.powerOn radio).hwConfig with
    platformSpi := some spi, pinReset := reset }) (some (getDefaultConfig radio)))

/-! ## What a step leaves of the context -/

/-- Only `init` writes the configurations and `initialized`. Every other
operation leaves them as they are, whatever the driver answers. -/
structure SameConfigs (s s' : Ctx) : Prop where
  hwConfig : s'.hwConfig = s.hwConfig
  config : s'.config = s.config
  initialized : s'.initialized = s.initialized

theorem sameConfigs_noted (reports : List Report) (sl : RxSlot) :
    SameConfigs s (s.noted reports sl) := by
  rw [Ctx.noted, noteReports_eq]
  exact ⟨rfl, rfl, rfl⟩

theorem sameConfigs_endTx {r : RadioStatus} (h : SameConfigs s s') :
    SameConfigs s (s'.endTx r) := ⟨h.hwConfig, h.config, h.initialized⟩

def Op.isInit : Op → Bool
  | .init .. => true
  | _ => false

theorem sameConfigs_op {o : Op} {tr : List (Event Call Answer)} {r : o.Ret}
    (h : OpStep s o tr r s') (ho : o.isInit = false) : SameConfigs s s' := by
  cases o with
  | init => cases ho
  | poll =>
      have hp := Poll.outcome h
      cases hp with
      | refused => exact ⟨rfl, rfl, rfl⟩
      | quiet | waiting => exact sameConfigs_noted ..
      | failed | done | timedOut => exact sameConfigs_endTx (sameConfigs_noted ..)
  | _ => cases h <;> exact ⟨rfl, rfl, rfl⟩

theorem init_hwConfig (hwCfg : Option RadioHwConfig) (cfg : Option RadioConfig) :
    Ensures E (init hwCfg cfg)
      (fun _ _ s' _ => s'.hwConfig = linkedHw s (.init hwCfg cfg)) s e := by
  rcases hwCfg with _ | hwCfg
  · simp [init, linkedHw]
  rcases cfg with _ | cfg
  · simp [init, linkedHw]
  cases hi : s.initialized with
  | true => simp [init, linkedHw, hi, ensures_ite]
  | false =>
      simp only [init, linkedHw, hi, ensures_bind, ensures_read, ensures_ite, ensures_pure,
        ensures_modify, ensures_ask, ensures_driver, Bool.false_eq_true, if_false,
        false_implies, not_false_eq_true, true_implies, true_and]
      intro _ e₁ _ _ e₂ _ rc e₃ _
      refine ⟨fun _ => rfl, fun _ tr status s₄ e₄ hx => ?_⟩
      obtain rfl := Prog.ReadOnly.exec hx readOnly_applyConfig
      exact ⟨fun _ _ _ _ => rfl, fun _ => rfl⟩

/-- After a step the context has the configuration the step ran with. -/
theorem step_hwConfig {tick : ε → ε → Prop} {w w' : Ctx × ε} {l : RadioLabel}
    (h : Session program E tick w l w') : w'.1.hwConfig = labelHw w.1 l := by
  cases h with
  | tick => rfl
  | @op o s e tr r s' e' hx =>
      cases o with
      | init hwCfg cfg => exact init_hwConfig hwCfg cfg _ _ _ _ hx
      | _ => exact (sameConfigs_op (program_spec _ _ _ _ _ hx) rfl).hwConfig

/-! ## Calls -/

/-- Calls of the driver other than bringing it up and down, which are the ones
that may move a port's globals. -/
def Call.Plain : Call → Prop
  | .cmd .init | .cmd .deinit => False
  | _ => True

theorem plain_armTx : armTx.CallsOnly Call.Plain := by
  refine keepsSources_armTx.mono fun i hi => ?_
  unfold Call.KeepsSources at hi
  unfold Call.Plain
  split <;> trivial

theorem plain_applyTcxo (cfg : RadioConfig) : (applyTcxo cfg).CallsOnly Call.Plain := by
  unfold applyTcxo
  split
  · split
    · trivial
    · refine Prog.callsOnly_bind ⟨trivial, fun _ => trivial⟩ fun r => ?_
      dsimp only
      split
      · trivial
      · exact callsOnly_driver trivial
  · trivial

theorem plain_applyRfSwitch (cfg : RadioConfig) :
    (applyRfSwitch cfg).CallsOnly Call.Plain := by
  unfold applyRfSwitch
  split
  · exact callsOnly_driver trivial
  · trivial

theorem plain_readThen {i : Call} {rc : Answer i → UInt8} {c : Answer i → Cmd}
    (hi : i.Plain) (hc : ∀ r, Call.Plain (.cmd (c r))) :
    (call i >>= fun r =>
      if mapStatus (rc r) ≠ .ok then pure (mapStatus (rc r))
      else driver (c r)).CallsOnly Call.Plain := by
  refine Prog.callsOnly_bind ⟨hi, fun _ => trivial⟩ fun r => ?_
  split
  · trivial
  · exact callsOnly_driver (hc r)

theorem plain_applyConfig : applyConfig.CallsOnly Call.Plain := by
  refine Prog.callsOnly_bind (fun _ => trivial) fun ctx => ?_
  dsimp only
  split
  · repeat' first
      | exact callsOnly_driver trivial
      | exact plain_applyTcxo _
      | exact plain_applyRfSwitch _
      | exact callsOnly_applyPacketParams fun _ _ _ _ => trivial
      | exact plain_readThen trivial fun _ => trivial
      | refine callsOnly_thenOk ?_ ?_
  · trivial

theorem plain_program (o : Op) (ho : o.isInit = false) : (program o).CallsOnly Call.Plain := by
  cases o with
  | init => cases ho
  | startTx data len =>
      cases data with
      | none => trivial
      | some data =>
          simp only [program, startTx]
          split
          · trivial
          · refine Prog.callsOnly_bind (fun _ => trivial) fun ctx => ?_
            split
            · trivial
            · split
              · trivial
              · exact callsOnly_thenOk (callsOnly_driver trivial) <|
                  callsOnly_thenOk (callsOnly_driver trivial) <|
                  callsOnly_thenOk (callsOnly_driver trivial) <|
                  callsOnly_thenOk (callsOnly_applyPacketParams fun _ _ _ _ => trivial) <|
                  callsOnly_thenOk (callsOnly_driver trivial) plain_armTx
  | startRx =>
      refine Prog.callsOnly_bind (fun _ => trivial) fun ctx => ?_
      split
      · trivial
      · split
        · trivial
        · exact callsOnly_thenOk (callsOnly_driver trivial) <|
            callsOnly_thenOk (callsOnly_driver trivial) <|
            callsOnly_thenOk (callsOnly_applyPacketParams fun _ _ _ _ => trivial) <|
            callsOnly_thenOk (callsOnly_driver trivial) <|
            Prog.callsOnly_bind ⟨trivial, fun _ => trivial⟩ fun _ =>
              Prog.callsOnly_bind trivial fun _ => trivial
  | read bufNull bufSize outLenNull infoNull =>
      exact (callsOnly_read ..).mono fun _ h => h.elim
  | standby => exact callsOnly_standby.mono fun _ h => h ▸ trivial
  | poll =>
      refine callsOnly_poll.mono fun i hi => ?_
      cases hi <;> trivial

/-- Nothing but `init` reaches the driver of an uninitialised radio. -/
theorem uninitialised_op {o : Op} (hi : s.initialized = false) (ho : o.isInit = false) :
    Ensures E (program o) (fun _ _ _ e' => e' = e) s e := by
  cases o with
  | init => cases ho
  | startTx data len =>
      cases data <;> simp [program, startTx, ensures_ite, hi]
  | startRx => simp [program, startRx, ensures_ite, hi]
  | standby => simp [program, standby, ensures_ite, hi]
  | poll => simp [program, poll, ensures_ite, hi]
  | read bufNull bufSize outLenNull infoNull =>
      simp [program, read, ensures_ite, hi]

end Sx126x

end LeosSdk
