import Mathlib.Data.List.Forall2
import LeosSdk.RadioPort

/-!
# SX126x on Linux: the shared reset line

`sx126x_port_linux.c` asks libgpiod for one reset line for both radios
(`leos_sx126x_reset_gpio_ensure` refuses a second offset) and never gives it
back. `sx1262_init`, which is not part of this repository, calls the linked
`reset_gpio_init` and then drives that line low and high through the linked
`reset_gpio_write`; a low level makes every chip on the line forget its
configuration. So bringing one radio up undoes the other's
`leos_sx126x_apply_config`, and nothing in the port or in `leos_sx126x_init`
notices.

The board counts how often the line was driven low and keeps the commands each
chip got since. A chip is configured if the whole sequence of
`leos_sx126x_apply_config` is among them in order (`ConfigReceived`), which
more commands do not undo. `Sends` says what a successful program has sent and
has one rule for each way the source composes its steps.

Of a step only two things matter then: it leaves the line alone, the other
chip too, and its own chip only gets more (`LineKept`); or it is an `init`
that drove the line low (`BroughtUp`), after which the other chip holds
nothing. So an initialised radio stays configured just as long as nobody else
pulses the line (`configured_step`, `not_configured_of_pulse`), and these two
are the two directions of the result about runs.
-/

namespace LeosSdk

namespace Sx126x

/-! ## The port's globals -/

/-- libgpiod's answers while one line is requested: which objects it could
allocate, and whether it granted the line. -/
structure LineAnswers where
  settings : Bool
  lineConfig : Bool
  requestConfig : Bool
  lines : Bool

/-- libgpiod's answers during one `leos_sx126x_gpio_init_ctx`. -/
structure Gpiod where
  chip : Bool
  reset : LineAnswers
  nss : LineAnswers
  busy : LineAnswers

/-- `leos_sx126x_linux_gpio_t`; a request is there or `NULL`. -/
structure LinuxGpio where
  nssReq : Bool
  busyReq : Bool
  nssOffset : UInt32
  busyOffset : UInt32
  requested : Bool

/-- `g_gpio_chip`, `g_reset_req`, `g_reset_offset`, and `g_sx1262_gpio` and
`g_sx1268_gpio`. -/
structure LinuxPort where
  gpioChip : Bool
  resetReq : Bool
  resetOffset : UInt32
  gpio : Radio → LinuxGpio

def LinuxPort.withGpio (p : LinuxPort) (radio : Radio) (f : LinuxGpio → LinuxGpio) :
    LinuxPort :=
  { p with gpio := Function.update p.gpio radio (f (p.gpio radio)) }

def gpioChipOpen (g : Gpiod) (p : LinuxPort) : UInt8 × LinuxPort :=
  if p.gpioChip then (0, p)
  else (if g.chip then 0 else 1, { p with gpioChip := g.chip })

def resetGpioEnsure (a : LineAnswers) (resetOffset : UInt32) (p : LinuxPort) :
    UInt8 × LinuxPort :=
  if p.resetReq then
    if p.resetOffset ≠ resetOffset then (1, p) else (0, p)
  else if !a.settings then (1, p)
  else if !a.lineConfig then (1, p)
  else if !a.requestConfig then (1, p)
  else if !a.lines then (1, p)
  else (0, { p with resetReq := true, resetOffset := resetOffset })

/-- The NSS block of `leos_sx126x_gpio_init_ctx`. A refused line leaves
`nss_req` `NULL`, an allocation that failed leaves it as it was. -/
def requestNss (a : LineAnswers) (radio : Radio) (p : LinuxPort) : UInt8 × LinuxPort :=
  if !a.settings then (1, p)
  else if !a.lineConfig then (1, p)
  else if !a.requestConfig then (1, p)
  else (if a.lines then 0 else 1, p.withGpio radio ({ · with nssReq := a.lines }))

/-- The BUSY block. Only a refused line gives NSS back. -/
def requestBusy (a : LineAnswers) (radio : Radio) (p : LinuxPort) : UInt8 × LinuxPort :=
  if !a.settings then (1, p)
  else if !a.lineConfig then (1, p)
  else if !a.requestConfig then (1, p)
  else if !a.lines then
    (1, p.withGpio radio ({ · with busyReq := false, nssReq := false }))
  else (0, p.withGpio radio ({ · with busyReq := true, requested := true }))

def gpioInitCtx (g : Gpiod) (radio : Radio) (hw : RadioHwConfig) (p : LinuxPort) :
    UInt8 × LinuxPort :=
  let (rc, p) := gpioChipOpen g p
  if rc ≠ 0 then (1, p)
  else if (p.gpio radio).requested then (0, p)
  else
    let p := p.withGpio radio ({ · with nssOffset := hw.pinNss, busyOffset := hw.pinBusy })
    let (rc, p) := resetGpioEnsure g.reset hw.pinReset p
    if rc ≠ 0 then (1, p)
    else
      let (rc, p) := requestNss g.nss radio p
      if rc ≠ 0 then (1, p) else requestBusy g.busy radio p

def gpioDeinitCtx (radio : Radio) (p : LinuxPort) : LinuxPort :=
  p.withGpio radio ({ · with busyReq := false, nssReq := false, requested := false })

/-- `driven` is whether `gpiod_line_request_set_value` worked. -/
def resetWriteCtx (driven : Bool) (p : LinuxPort) : UInt8 :=
  if !p.resetReq then 1 else if driven then 0 else 1

/-! ## The two chips -/

/-- The port and what is on its reset line: how often the line was driven
low, and the commands each chip got since the last time. -/
structure LinuxBoard where
  port : LinuxPort
  lows : Nat
  received : Radio → List Cmd

def LinuxBoard.low (b : LinuxBoard) : LinuxBoard :=
  { b with lows := b.lows + 1, received := fun _ => [] }

def LinuxBoard.receive (b : LinuxBoard) (radio : Radio) (c : Cmd) : LinuxBoard :=
  { b with received := Function.update b.received radio (b.received radio ++ [c]) }

/-- An error path of the vendor driver may call `reset_gpio_deinit`. -/
def Released (radio : Radio) (p p' : LinuxPort) : Prop :=
  p' = p ∨ p' = gpioDeinitCtx radio p

/-- What `sx1262_init` may do: give up before, in or right after
`reset_gpio_init`, or get as far as the low level. It succeeds only having
driven the line, which is why no successful `init` is harmless to the other
radio. -/
inductive VendorInit (radio : Radio) (hw : RadioHwConfig) (b : LinuxBoard) :
    UInt8 → LinuxBoard → Prop
  | early {rc : UInt8} (hrc : rc ≠ 0) : VendorInit radio hw b rc b
  | noPulse {rc : UInt8} {p : LinuxPort} (g : Gpiod) (hrc : rc ≠ 0)
      (hp : Released radio (gpioInitCtx g radio hw b.port).2 p) :
      VendorInit radio hw b rc { b with port := p }
  | pulsed {rc : UInt8} {p : LinuxPort} (g : Gpiod)
      (hg : (gpioInitCtx g radio hw b.port).1 = 0)
      (hlow : resetWriteCtx true (gpioInitCtx g radio hw b.port).2 = 0)
      (hp : p = (gpioInitCtx g radio hw b.port).2
        ∨ rc ≠ 0 ∧ Released radio (gpioInitCtx g radio hw b.port).2 p) :
      VendorInit radio hw b rc { b.low with port := p }

/-- The driver of `radio` on the board. A command that succeeds reached the
chip, one that fails may have. -/
def linuxEnv (radio : Radio) (hw : RadioHwConfig) : Env LinuxBoard Call Answer
  | b, .cmd .init, rc, b' => VendorInit radio hw b rc b'
  | b, .cmd .deinit, _, b' => ∃ p, Released radio b.port p ∧ b' = { b with port := p }
  | b, .cmd c, rc, b' => b' = b.receive radio c ∨ rc ≠ 0 ∧ b' = b
  | b, _, _, b' => b' = b

abbrev LinuxPair := Pair LinuxBoard

abbrev LinuxStep : LinuxPair → PairLabel → LinuxPair → Prop := PairStep linuxEnv

/-! ## The configuration sequence -/

/-- The commands that may stand at one place of the sequence. -/
abbrev Place := Cmd → Prop

/-- The commands of a complete `leos_sx126x_apply_config`, in order. The
registers the driver computes or reads are whatever it answered. -/
def configSequence (cfg : RadioConfig) (sf : LoraSf) (bw : LoraBandwidth) (cr : LoraCr) :
    List Place :=
  (· = .setStandby .rc13m) ::
  ((if cfg.dio3TcxoEnable then
    [fun c => ∃ voltage reg, toVendorTcxoVoltage cfg.tcxoVoltage = some voltage
      ∧ c = .setDio3AsTcxoCtrl voltage reg] else []) ++
  ((if cfg.dio2RfSwitchEnable then [(· = .setDio2AsRfSwitchCtrl true)] else []) ++
  [(· = .clearDeviceErrors),
    (· = .setStandby .xtal32Mhz),
    (· = .setStopTimerOnPreamble false),
    (· = .setRegulatorModeDcDcLdo),
    (· = .setPaConfig paDutyCycle paHpMax),
    (· = .setRxTxFallbackModeStdbyXosc),
    (· = .setPacketTypeLora),
    (· = .setTxParamsRamp10us cfg.txPowerDbm),
    (· = .setLoraModulationParams sf bw cr (lowDataRateOptimize cfg)),
    fun c => ∃ reg, c = .setRfFrequency reg,
    (· = .setBufferBaseAddress 0 0),
    (· = .setLoraPacketParamsExplicit cfg.preambleLenSymbols maxPayloadLen.toUInt8
      cfg.crcEnabled cfg.iqInverted),
    (· = .setLoraSymbNumTimeout symbNumTimeout),
    (· = .setLoraSyncWord ((cfg.syncWord <<< 8) ||| cfg.syncWord)),
    fun c => ∃ modulation, c = .setTxModulation (modulation ||| txModulationDefault),
    (· = .setRxGain rxGain),
    (· = .setOcp ocp),
    fun c => ∃ clamp, c = .setTxClampConfig (clamp ||| txClampMask),
    (· = .clearIrqStatus irqMaskAll)]))

/-- `sent` goes through the places one by one, with nothing left over. -/
def Fills (places : List Place) (sent : List Cmd) : Prop :=
  List.Forall₂ (fun place c => place c) places sent

/-- A chip that got `cmds` has been configured as `cfg` asks. -/
def ConfigReceived (cfg : RadioConfig) (cmds : List Cmd) : Prop :=
  ∃ sf bw cr, toVendorSf cfg.spreadingFactor = some sf
    ∧ toVendorBw cfg.bandwidth = some bw ∧ toVendorCr cfg.codingRate = some cr
    ∧ ∃ sent, sent <:+: cmds ∧ Fills (configSequence cfg sf bw cr) sent

theorem ConfigReceived.append {cfg : RadioConfig} {cmds : List Cmd}
    (h : ConfigReceived cfg cmds) (more : List Cmd) : ConfigReceived cfg (cmds ++ more) := by
  obtain ⟨sf, bw, cr, hsf, hbw, hcr, sent, hin, hf⟩ := h
  exact ⟨sf, bw, cr, hsf, hbw, hcr, sent, hin.trans (List.prefix_append ..).isInfix, hf⟩

/-- An erased chip is not configured. -/
theorem not_configReceived_nil (cfg : RadioConfig) : ¬ConfigReceived cfg [] := by
  intro h
  obtain ⟨sf, bw, cr, -, -, -, sent, hin, hf⟩ := h
  obtain rfl := List.infix_nil.mp hin
  have hlen := hf.length_eq
  simp [configSequence] at hlen

/-! ## What a program sends -/

section Sends

variable {radio : Radio} {hw : RadioHwConfig} {s : Ctx} {b : LinuxBoard}

/-- If `p` succeeds then it has left the context alone and sent commands that
fill the places. Of a program that fails nothing is said. -/
def Sends (radio : Radio) (hw : RadioHwConfig) (s : Ctx) (p : Api RadioStatus)
    (places : List Place) : Prop :=
  ∀ b, Ensures (linuxEnv radio hw) p (fun _ status s' b' => status = .ok →
    s' = s ∧ ∃ sent, b'.received radio = b.received radio ++ sent ∧ Fills places sent) s b

theorem Sends.mono {p : Api RadioStatus} {R : LinuxBoard → Prop} (places : List Place)
    (h : Sends radio hw s p places) (hR : ∀ b' sent,
      b'.received radio = b.received radio ++ sent → Fills places sent → R b') :
    Ensures (linuxEnv radio hw) p
      (fun _ status s' b' => status = .ok → s' = s ∧ R b') s b :=
  Ensures.mono (h b) fun _ _ s' b' hb hok => by
    obtain ⟨rfl, sent, hr, hf⟩ := hb hok
    exact ⟨rfl, hR b' sent hr hf⟩

def Cmd.Plain (c : Cmd) : Prop := Call.Plain (.cmd c)

theorem linuxEnv_cmd {c : Cmd} (hc : c.Plain) {rc : UInt8} {b' : LinuxBoard}
    (h : linuxEnv radio hw b (.cmd c) rc b') : b' = b.receive radio c ∨ rc ≠ 0 ∧ b' = b := by
  cases c with
  | init | deinit => exact hc.elim
  | _ => exact h

theorem sends_driver {c : Cmd} {place : Place} (hc : c.Plain) (h : place c) :
    Sends radio hw s (driver c) [place] := by
  intro b
  rw [ensures_driver]
  intro rc b' hb hok
  rw [mapStatus_ok] at hok
  rcases linuxEnv_cmd hc hb with rfl | ⟨hrc, -⟩
  · exact ⟨rfl, [c], by simp [LinuxBoard.receive], .cons h .nil⟩
  · exact absurd hok hrc

theorem sends_exactly {c : Cmd} (hc : c.Plain) : Sends radio hw s (driver c) [(· = c)] :=
  sends_driver hc rfl

theorem sends_ok : Sends radio hw s (pure .ok) [] := by
  intro b
  rw [ensures_pure]
  intro _
  exact ⟨rfl, [], by simp, .nil⟩

theorem sends_fail {status : RadioStatus} {places : List Place} (h : status ≠ .ok) :
    Sends radio hw s (pure status) places := by
  intro b
  rw [ensures_pure]
  intro hok
  exact absurd hok h

theorem sends_thenOk {p q : Api RadioStatus} {P Q : List Place}
    (hp : Sends radio hw s p P) (hq : Sends radio hw s q Q) :
    Sends radio hw s (thenOk p q) (P ++ Q) := by
  intro b
  rw [ensures_thenOk]
  refine (hp b).mono fun _ status s₁ b₁ h₁ => ⟨fun hok => ?_, fun hfail hok => absurd hok hfail⟩
  obtain ⟨rfl, sent₁, hr₁, hf₁⟩ := h₁ hok
  refine (hq b₁).mono fun _ _ s₂ b₂ h₂ hok₂ => ?_
  obtain ⟨rfl, sent₂, hr₂, hf₂⟩ := h₂ hok₂
  exact ⟨rfl, sent₁ ++ sent₂, by rw [hr₂, hr₁, List.append_assoc], List.rel_append hf₁ hf₂⟩

theorem sends_next {p q : Api RadioStatus} {place : Place} {Q : List Place}
    (hp : Sends radio hw s p [place]) (hq : Sends radio hw s q Q) :
    Sends radio hw s (thenOk p q) (place :: Q) :=
  sends_thenOk hp hq

/-- A call that only returns a value, and what its answer decides. -/
theorem sends_ask {i : Call} {k : Answer i → Api RadioStatus} {places : List Place}
    (hi : ∀ b r b', linuxEnv radio hw b i r b' → b' = b)
    (h : ∀ r, Sends radio hw s (k r) places) :
    Sends radio hw s (call i >>= k) places := by
  intro b
  rw [ensures_bind, ensures_ask]
  intro r b' hb
  obtain rfl := hi b r b' hb
  exact (h r b').mono fun _ _ _ _ hq => hq

theorem sends_ite {c : Prop} [Decidable c] {p q : Api RadioStatus} {P Q : List Place}
    (hp : c → Sends radio hw s p P) (hq : ¬c → Sends radio hw s q Q) :
    Sends radio hw s (if c then p else q) (if c then P else Q) := by
  split
  · rename_i hc; exact hp hc
  · rename_i hc; exact hq hc

/-- A register that is read, changed and written back, or one that is
computed and written. -/
theorem sends_readThen {i : Call} {rc : Answer i → UInt8} {c : Answer i → Cmd}
    {place : Place} (hi : ∀ b r b', linuxEnv radio hw b i r b' → b' = b)
    (hc : ∀ r, (c r).Plain) (h : ∀ r, place (c r)) :
    Sends radio hw s (call i >>= fun r =>
      if mapStatus (rc r) ≠ .ok then pure (mapStatus (rc r)) else driver (c r)) [place] := by
  refine sends_ask hi fun r => ?_
  by_cases hrc : mapStatus (rc r) ≠ .ok
  · rw [if_pos hrc]
    exact sends_fail hrc
  · rw [if_neg hrc]
    exact sends_driver (hc r) (h r)

theorem sends_applyTcxo (cfg : RadioConfig) : Sends radio hw s (applyTcxo cfg)
    (if cfg.dio3TcxoEnable then
      [fun c => ∃ voltage reg, toVendorTcxoVoltage cfg.tcxoVoltage = some voltage
        ∧ c = .setDio3AsTcxoCtrl voltage reg] else []) := by
  refine sends_ite (fun _ => ?_) fun _ => sends_ok
  split
  · exact sends_fail (by decide)
  · rename_i voltage hv
    refine sends_ask (fun _ _ _ hb => hb) fun r => ?_
    dsimp only
    split
    · exact sends_fail (by decide)
    · exact sends_driver trivial ⟨voltage, _, hv, rfl⟩

theorem sends_applyPacketParams (n : UInt8) : Sends radio hw s (applyPacketParams n)
    [(· = .setLoraPacketParamsExplicit s.config.preambleLenSymbols n s.config.crcEnabled
      s.config.iqInverted)] := by
  intro b
  rw [applyPacketParams, ensures_bind, ensures_read]
  exact sends_exactly (c := .setLoraPacketParamsExplicit s.config.preambleLenSymbols n
    s.config.crcEnabled s.config.iqInverted) trivial b

/-- A successful `leos_sx126x_apply_config` has sent the whole sequence: the
rules above, applied to it step by step. -/
theorem sends_applyConfig : Ensures (linuxEnv radio hw) applyConfig
    (fun _ status s' b' => status = .ok →
      s' = s ∧ ConfigReceived s.config (b'.received radio)) s b := by
  rw [applyConfig, ensures_bind, ensures_read]
  dsimp only
  split
  · rename_i sf bw cr hsf hbw hcr
    refine Sends.mono (configSequence s.config sf bw cr) ?_ fun b' sent hr hf =>
      ⟨sf, bw, cr, hsf, hbw, hcr, sent, hr ▸ (List.suffix_append ..).isInfix, hf⟩
    exact sends_next (sends_exactly trivial) <|
      sends_thenOk (sends_applyTcxo s.config) <|
      sends_thenOk (sends_ite (fun _ => sends_exactly trivial) fun _ => sends_ok) <|
      sends_next (sends_exactly trivial) <|
      sends_next (sends_exactly trivial) <|
      sends_next (sends_exactly trivial) <|
      sends_next (sends_exactly trivial) <|
      sends_next (sends_exactly trivial) <|
      sends_next (sends_exactly trivial) <|
      sends_next (sends_exactly trivial) <|
      sends_next (sends_exactly trivial) <|
      sends_next (sends_exactly trivial) <|
      sends_next (sends_readThen (fun _ _ _ hb => hb) (fun _ => trivial) fun r => ⟨r.2, rfl⟩) <|
      sends_next (sends_exactly trivial) <|
      sends_next (sends_applyPacketParams _) <|
      sends_next (sends_exactly trivial) <|
      sends_next (sends_exactly trivial) <|
      sends_next (sends_readThen (fun _ _ _ hb => hb) (fun _ => trivial) fun r => ⟨r.2, rfl⟩) <|
      sends_next (sends_exactly trivial) <|
      sends_next (sends_exactly trivial) <|
      sends_next (sends_readThen (fun _ _ _ hb => hb) (fun _ => trivial) fun r => ⟨r.2, rfl⟩) <|
      sends_exactly trivial
  · rw [ensures_pure]
    intro hok
    cases hok

end Sends

/-! ## What a step does to the chips -/

section Steps

variable {radio : Radio} {hw : RadioHwConfig} {s s' : Ctx} {b b' b'' : LinuxBoard}

/-- The line stayed high, the other chip got nothing and this one only more. -/
structure LineKept (radio : Radio) (b b' : LinuxBoard) : Prop where
  lows : b'.lows = b.lows
  others : ∀ k, k ≠ radio → b'.received k = b.received k
  own : b.received radio <+: b'.received radio

theorem lineKept_refl : LineKept radio b b := ⟨rfl, fun _ _ => rfl, List.prefix_refl _⟩

theorem LineKept.trans (h : LineKept radio b b') (h' : LineKept radio b' b'') :
    LineKept radio b b'' where
  lows := h'.lows.trans h.lows
  others k hk := (h'.others k hk).trans (h.others k hk)
  own := h.own.trans h'.own

theorem lineKept_receive (c : Cmd) : LineKept radio b (b.receive radio c) where
  lows := rfl
  others k hk := Function.update_of_ne hk ..
  own := by simp [LinuxBoard.receive]

theorem lineKept_plain {i : Call} {r : Answer i} (hi : i.Plain)
    (h : linuxEnv radio hw b i r b') : LineKept radio b b' := by
  cases i with
  | cmd c =>
      rcases linuxEnv_cmd hi h with rfl | ⟨-, rfl⟩
      · exact lineKept_receive c
      · exact lineKept_refl
  | _ =>
      obtain rfl := h
      exact lineKept_refl

theorem lineKept_deinit {rc : UInt8} (h : linuxEnv radio hw b (.cmd .deinit) rc b') :
    LineKept radio b b' := by
  obtain ⟨p, -, rfl⟩ := h
  exact ⟨rfl, fun _ _ => rfl, List.prefix_refl _⟩

/-- A program that brings no driver up or down leaves the line alone. -/
theorem lineKept_program {α : Type} {p : Api α} (hp : p.CallsOnly Call.Plain) :
    Ensures (linuxEnv radio hw) p (fun _ _ _ b' => LineKept radio b b') s b :=
  hp.keeps (J := LineKept radio b) (fun _ _ _ _ hi hkept hr => hkept.trans (lineKept_plain hi hr))
    lineKept_refl

theorem vendorInit_lineKept {rc : UInt8} (h : VendorInit radio hw b rc b') :
    rc ≠ 0 ∧ LineKept radio b b' ∨ b'.lows = b.lows + 1 ∧ ∀ k, b'.received k = [] := by
  cases h with
  | early hrc => exact .inl ⟨hrc, lineKept_refl⟩
  | noPulse _ hrc => exact .inl ⟨hrc, rfl, fun _ _ => rfl, List.prefix_refl _⟩
  | pulsed => exact .inr ⟨rfl, fun _ => rfl⟩

/-- What an `init` that passed its guards did: it failed without touching
the line, or it drove the line low and then, if it succeeded, sent the whole
configuration to its own chip only. -/
inductive BroughtUp (radio : Radio) (b : LinuxBoard) (s' : Ctx) (b' : LinuxBoard) : Prop
  | failed (hi : s'.initialized = false) (hq : LineKept radio b b')
  | erased (hlow : b.lows < b'.lows) (hothers : ∀ k, k ≠ radio → b'.received k = [])
      (hown : s'.initialized = true → ConfigReceived s'.config (b'.received radio))

theorem broughtUp_failed {rc : UInt8} (h : VendorInit radio hw b rc b')
    (hi : s'.initialized = false) : BroughtUp radio b s' b' := by
  rcases vendorInit_lineKept h with ⟨-, hq⟩ | ⟨hlow, hnone⟩
  · exact .failed hi hq
  · exact .erased (by omega) (fun k _ => hnone k) fun hi' => by simp [hi] at hi'

/-- An `init` either changed nothing, by its guards, or it is one of the cases
of `BroughtUp`. A driver that came up has just driven the line low. -/
theorem init_linux (hwCfg : Option RadioHwConfig) (cfg : Option RadioConfig) :
    Ensures (linuxEnv radio hw) (init hwCfg cfg) (fun _ _ s' b' =>
      s' = s ∧ b' = b ∨ s.initialized = false ∧ BroughtUp radio b s' b') s b := by
  rcases hwCfg with _ | hwCfg
  · simp [init]
  rcases cfg with _ | cfg
  · simp [init]
  cases hi : s.initialized with
  | true => simp [init, ensures_ite, hi]
  | false =>
      simp only [init, ensures_bind, ensures_read, ensures_ite, ensures_pure,
        ensures_modify, ensures_ask, ensures_driver, hi, Bool.false_eq_true, false_implies,
        not_false_eq_true, true_implies, true_and]
      intro _ b₁ h₁ _ b₂ h₂ rc b₃ hinit
      obtain rfl : b₁ = b := h₁
      obtain rfl : b₂ = b₁ := h₂
      refine ⟨fun _ => .inr (broughtUp_failed hinit hi), fun hok => ?_⟩
      rw [not_not, mapStatus_ok] at hok
      -- The driver came up, so the line has just been low.
      rcases vendorInit_lineKept hinit with ⟨hrc, -⟩ | ⟨hlow, hnone⟩
      · exact absurd hok hrc
      refine (sends_applyConfig.and (lineKept_program plain_applyConfig)).mono
        fun _ status s₄ b₄ hconf => ?_
      obtain ⟨hsent, hq⟩ := hconf
      have hothers : ∀ k, k ≠ radio → b₄.received k = [] := fun k hk =>
        (hq.others k hk).trans (hnone k)
      refine ⟨fun hfail => ?_, fun hok' => ?_⟩
      · intro rc' b₅ hdeinit
        have hq' := hq.trans (lineKept_deinit hdeinit)
        exact .inr (.erased (by rw [hq'.lows]; omega)
          (fun k hk => (hq'.others k hk).trans (hnone k)) fun hi' => by cases hi')
      · obtain ⟨rfl, hconf⟩ := hsent (not_not.mp hok')
        exact .inr (.erased (by rw [hq.lows]; omega) hothers fun _ => hconf)

end Steps

/-! ## Runs of the two radios -/

/-- Every initialised radio's chip has its configuration. -/
def Configured (w : LinuxPair) : Prop :=
  ∀ radio, (w.1 radio).initialized = true →
    ConfigReceived (w.1 radio).config (w.2.received radio)

/-- The step drives the reset line low only when no other radio is
initialised. -/
def PulsesAlone (x : Rec LinuxPair PairLabel) : Prop :=
  ∀ radio, radio ≠ x.label.1 → (x.pre.1 radio).initialized = true →
    x.post.2.lows = x.pre.2.lows

/-- What one step of a radio does: nothing that concerns the other, or an
`init` past its guards. -/
theorem linux_step {x : Rec LinuxPair PairLabel} (h : LinuxStep x.pre x.label x.post) :
    SameConfigs (x.pre.1 x.label.1) (x.post.1 x.label.1)
        ∧ LineKept x.label.1 x.pre.2 x.post.2
      ∨ BroughtUp x.label.1 x.pre.2 (x.post.1 x.label.1) x.post.2 := by
  obtain ⟨⟨ctx, b⟩, ⟨radio, l⟩, ctx', b'⟩ := x
  have hown := h.own
  dsimp only at hown ⊢
  generalize ctx radio = s at hown
  generalize ctx' radio = s' at hown
  cases hown with
  | tick ht => exact ht.elim
  | @op o s e tr r s' e' hx =>
      cases ho : o.isInit with
      | true =>
          cases o with
          | init hwCfg cfg =>
              rcases init_linux hwCfg cfg _ _ _ _ hx with ⟨rfl, rfl⟩ | ⟨-, hup⟩
              · exact .inl ⟨⟨rfl, rfl, rfl⟩, lineKept_refl⟩
              · exact .inr hup
          | _ => cases ho
      | false =>
          exact .inl ⟨sameConfigs_op (program_spec o _ _ _ _ hx) ho,
            lineKept_program (plain_program o ho) _ _ _ _ hx⟩

/-- Step lemma: the stepping radio sees to its own configuration, and for the
others a step that does not pulse the line changes nothing. -/
theorem configured_step {x : Rec LinuxPair PairLabel}
    (h : LinuxStep x.pre x.label x.post) (hc : Configured x.pre) (hp : PulsesAlone x) :
    Configured x.post := by
  intro radio hi
  by_cases hr : radio = x.label.1
  · subst hr
    rcases linux_step h with ⟨hsame, hq⟩ | hup
    · rw [hsame.initialized] at hi
      obtain ⟨more, hmore⟩ := hq.own
      rw [hsame.config, ← hmore]
      exact (hc _ hi).append more
    · cases hup with
      | failed hi' => rw [hi] at hi'; cases hi'
      | erased _ _ hown => exact hown hi
  · have hpre := h.others radio hr
    rw [hpre] at hi ⊢
    have hkept : x.post.2.received radio = x.pre.2.received radio := by
      rcases linux_step h with ⟨-, hq⟩ | hup
      · exact hq.others radio hr
      · cases hup with
        | failed _ hq => exact hq.others radio hr
        | erased hlow =>
            have := hp radio hr hi
            omega
    rw [hkept]
    exact hc radio hi

/-- A pulse beside an initialised radio leaves that radio erased. -/
theorem not_configured_of_pulse {x : Rec LinuxPair PairLabel}
    (h : LinuxStep x.pre x.label x.post) (hc : Configured x.post) : PulsesAlone x := by
  intro radio hr hi
  have hpost := hc radio (h.others radio hr ▸ hi)
  rcases linux_step h with ⟨-, hq⟩ | hup
  · exact hq.lows
  · cases hup with
    | failed _ hq => exact hq.lows
    | erased _ hothers =>
        rw [hothers radio hr] at hpost
        exact absurd hpost (not_configReceived_nil _)

/-- Every radio reported as initialised has its configuration in every state
of a run, exactly if no `leos_sx126x_init` of the run gets as far as driving
the reset line while the other radio is initialised. A pulse beside an
initialised radio shows at once, in the state after it. -/
theorem configured_iff_pulses_alone {b : LinuxBoard} {xs : List (Rec LinuxPair PairLabel)}
    {w : LinuxPair} (h : Run LinuxStep (pairStart b) xs w) :
    (∀ x ∈ xs, Configured x.post) ↔ ∀ x ∈ xs, PulsesAlone x := by
  have hstart : Configured (pairStart b) := fun _ hi => by cases hi
  refine h.forall_iff Configured (fun x => Configured x.post) PulsesAlone hstart
    (fun x hs hc => ?_) fun _ _ hc _ => hc
  exact ⟨not_configured_of_pulse hs, configured_step hs hc⟩

/-! ## Two radios on the bench -/

def LineAnswers.granted : LineAnswers := ⟨true, true, true, true⟩

def Gpiod.granted : Gpiod := ⟨true, .granted, .granted, .granted⟩

/-- Everything works; `sx1262_init` fails where the port makes it. -/
def linuxBench (radio : Radio) (hw : RadioHwConfig) (b : LinuxBoard) :
    (i : Call) → Answer i × LinuxBoard
  | .cmd .init =>
    let (rc, p) := gpioInitCtx .granted radio hw b.port
    if rc = 0 ∧ resetWriteCtx true p = 0 then ((0 : UInt8), { b.low with port := p })
    else ((1 : UInt8), { b with port := p })
  | .cmd .deinit => ((0 : UInt8), { b with port := gpioDeinitCtx radio b.port })
  | .cmd c => ((0 : UInt8), b.receive radio c)
  | i => (plainAnswer i, b)

theorem linuxBench_answers (radio : Radio) (hw : RadioHwConfig) :
    Answers (linuxBench radio hw) (linuxEnv radio hw) := by
  intro b i
  cases i with
  | cmd c =>
      cases c with
      | init =>
          simp only [linuxBench, linuxEnv]
          split
          · rename_i hup
            exact .pulsed .granted hup.1 hup.2 (.inl rfl)
          · exact .noPulse .granted (by decide : (1 : UInt8) ≠ 0) (.inl rfl)
      | deinit => exact ⟨_, .inr rfl, rfl⟩
      | _ => exact .inl rfl
  | _ => rfl

def linuxPowerOn : LinuxBoard where
  port :=
    { gpioChip := false, resetReq := false, resetOffset := 0
      gpio := fun _ => ⟨false, false, 0, 0, false⟩ }
  lows := 0
  received := fun _ => []

/-- `PulsesAlone`, computed. -/
def pulsesAlone (x : Rec LinuxPair PairLabel) : Bool :=
  [Radio.sx1262, .sx1268].all fun radio => radio == x.label.1
    || !(x.pre.1 radio).initialized || x.post.2.lows == x.pre.2.lows

theorem pulsesAlone_iff {x : Rec LinuxPair PairLabel} (h : pulsesAlone x = true) :
    PulsesAlone x := by
  intro radio hr hi
  have hradio : radio ∈ [Radio.sx1262, .sx1268] := by cases radio <;> simp
  have := List.all_eq_true.mp h radio hradio
  simpa [hr, hi] using this

/-- The other radio asks for another reset line and is refused, so the
first keeps its configuration. -/
theorem configured_iff_pulses_alone_refused : ∃ xs w,
    Run LinuxStep (pairStart linuxPowerOn) xs w
      ∧ (w.1 .sx1262).initialized = true ∧ ∀ x ∈ xs, Configured x.post := by
  obtain ⟨xs, w, hrun, hw⟩ := pairEvalsTo_run linuxBench_answers
    (show pairEvalsTo linuxBench [bringUpOn .sx1262 0 5, bringUpOn .sx1268 1 6,
        (.sx1262, .startRx)] linuxPowerOn
      (fun xs w => (w.1 .sx1262).initialized && xs.all pulsesAlone) = true
      from by decide +kernel)
  rw [Bool.and_eq_true, List.all_eq_true] at hw
  exact ⟨xs, w, hrun, hw.1, (configured_iff_pulses_alone hrun).mpr
    fun x hx => pulsesAlone_iff (hw.2 x hx)⟩

/-- Both radios come up on the one line, and the first has lost what
`leos_sx126x_apply_config` gave it. -/
theorem second_init_erases : ∃ xs w,
    Run LinuxStep (pairStart linuxPowerOn) xs w
      ∧ (w.1 .sx1262).initialized = true ∧ (w.1 .sx1268).initialized = true
      ∧ ¬Configured w := by
  obtain ⟨xs, w, hrun, hw⟩ := pairEvalsTo_run linuxBench_answers
    (show pairEvalsTo linuxBench [bringUpOn .sx1262 0 5, bringUpOn .sx1268 1 5]
        linuxPowerOn
      (fun _ w => (w.1 .sx1262).initialized && (w.1 .sx1268).initialized
        && (w.2.received .sx1262).isEmpty) = true from by decide +kernel)
  simp only [Bool.and_eq_true, List.isEmpty_iff] at hw
  refine ⟨xs, w, hrun, hw.1.1, hw.1.2, fun hc => ?_⟩
  have hlost := hc .sx1262 hw.1.1
  rw [hw.2] at hlost
  exact not_configReceived_nil _ hlost

end Sx126x

end LeosSdk
