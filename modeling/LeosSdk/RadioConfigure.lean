import Mathlib.Data.List.Forall2
import LeosSdk.RadioMode

/-!
# SX126x: what a configuration makes of the chip

`leos_sx126x_apply_config` for whole configurations: the driver calls of a
successful run are exactly the ones the configuration asks for, up to the
registers the driver computes or reads (`makes_applyConfig`). So two
configurations share a run exactly if they agree on everything that is sent
(`compatible_iff`).

Two things are lost on the way. The sync word, sixteen bits wide, is sent as
`(sync << 8) | sync` in sixteen bits, which ors its halves together. And
`leos_sx126x_low_data_rate_optimize` knows only 125 and 250 kHz, while the
narrower bandwidths reach the same symbol time at smaller spreading factors.

A sequence of calls is compared with a list of places, each a predicate on
calls, because some arguments come from the driver: a register that is read,
changed and written back may have any value with the right bits. `Makes` says
that the successful runs of a program are the sequences that go through its
places, and has one rule for each way the source composes its steps. Two
configurations have a run in common if some sequence goes through both lists,
which is decided place by place. There the sync words are compared as sent,
and bit by bit that leaves exactly `SyncAliased` (`packed_eq_iff`). The flag
of the low data rates is a function of bandwidth and spreading factor alone,
so its condition is decided by evaluation over both enumerations.
-/

namespace LeosSdk

namespace Sx126x

/-! ## The calls of a successful program -/

/-- A driver that may answer anything. -/
def anyDriver : Env Unit Call Answer := fun _ _ _ _ => True

/-- The calls that may stand at one place of a sequence. -/
abbrev CallPlace := Call → Prop

/-- `cs` goes through the places one by one: as many calls as places, each one
that may stand there. -/
def Follows (cs : List Call) (places : List CallPlace) : Prop :=
  List.Forall₂ (fun c place => place c) cs places

theorem follows_append {cs : List Call} {P Q : List CallPlace} :
    Follows cs (P ++ Q) ↔ ∃ cs₁ cs₂, Follows cs₁ P ∧ Follows cs₂ Q ∧ cs₁ ++ cs₂ = cs := by
  constructor
  · intro h
    exact ⟨_, _, List.forall₂_take_append cs P Q h, List.forall₂_drop_append cs P Q h,
      List.take_append_drop ..⟩
  · rintro ⟨cs₁, cs₂, h₁, h₂, rfl⟩
    exact List.rel_append h₁ h₂

theorem follows_singleton {cs : List Call} {place : CallPlace} :
    Follows cs [place] ↔ ∃ c, place c ∧ cs = [c] := by
  simp [Follows, List.forall₂_cons_right_iff]

/-- A call and another one after it. -/
theorem follows_pair {cs : List Call} {i : Call} {place : CallPlace} :
    Follows cs [(· = i), place] ↔ ∃ c, place c ∧ cs = [i, c] := by
  simp [Follows, List.forall₂_cons_right_iff]

/-- `p` may succeed having made the calls `cs`. -/
def Succeeds (s : Ctx) (p : Api RadioStatus) (cs : List Call) : Prop :=
  ∃ tr, Exec anyDriver p s () tr .ok s () ∧ tr.map Event.call = cs

theorem succeeds_pure {s : Ctx} {status : RadioStatus} {cs : List Call} :
    Succeeds s (pure status) cs ↔ status = .ok ∧ cs = [] := by
  constructor
  · rintro ⟨tr, hx, rfl⟩
    obtain ⟨rfl, rfl, -, -⟩ := exec_ret.mp hx
    exact ⟨rfl, rfl⟩
  · rintro ⟨rfl, rfl⟩
    exact ⟨[], .ret, rfl⟩

theorem succeeds_call {s : Ctx} {i : Call} {k : Answer i → Api RadioStatus} {cs : List Call} :
    Succeeds s (call i >>= k) cs ↔ ∃ r cs', Succeeds s (k r) cs' ∧ cs = i :: cs' := by
  constructor
  · rintro ⟨tr, hx, rfl⟩
    obtain ⟨r, ⟨⟩, tr', -, hx', rfl⟩ := exec_call.mp hx
    exact ⟨r, _, ⟨tr', hx', rfl⟩, rfl⟩
  · rintro ⟨r, cs', ⟨tr, hx, rfl⟩, rfl⟩
    exact ⟨_, .ask_bind trivial hx, rfl⟩

theorem succeeds_read {s : Ctx} {k : Ctx → Api RadioStatus} {cs : List Call} :
    Succeeds s (Prog.read >>= k) cs ↔ Succeeds s (k s) cs := by
  constructor
  · rintro ⟨tr, hx, rfl⟩
    exact ⟨tr, exec_get.mp hx, rfl⟩
  · rintro ⟨tr, hx, rfl⟩
    exact ⟨tr, .read_bind hx, rfl⟩

theorem succeeds_driver {s : Ctx} {c : Cmd} {cs : List Call} :
    Succeeds s (driver c) cs ↔ cs = [.cmd c] := by
  rw [driver, succeeds_call]
  constructor
  · rintro ⟨rc, cs', h, rfl⟩
    obtain ⟨-, rfl⟩ := succeeds_pure.mp h
    rfl
  · rintro rfl
    exact ⟨(0 : UInt8), [], succeeds_pure.mpr ⟨rfl, rfl⟩, rfl⟩

/-- `p` leaves the context alone, and the calls of its successful runs are the
ones that follow `places`. The rules below build this for a chain from its
steps. -/
structure Makes (s : Ctx) (p : Api RadioStatus) (places : List CallPlace) : Prop where
  readOnly : p.ReadOnly
  calls : ∀ cs, Succeeds s p cs ↔ Follows cs places

section Makes

variable {s : Ctx} {p q : Api RadioStatus} {P Q : List CallPlace}

/-- A chain succeeds just if both parts do, and its calls are those of the
parts. -/
theorem makes_thenOk (hp : Makes s p P) (hq : Makes s q Q) :
    Makes s (thenOk p q) (P ++ Q) where
  readOnly := readOnly_thenOk hp.readOnly hq.readOnly
  calls cs := by
    rw [follows_append]
    constructor
    · rintro ⟨tr, hx, rfl⟩
      obtain ⟨tr₁, status, s₁, e₁, tr₂, h₁, h₂, rfl⟩ := exec_bind.mp hx
      obtain rfl := Prog.ReadOnly.exec h₁ hp.readOnly
      by_cases hok : status = .ok
      · subst hok
        rw [if_neg (fun h => h rfl)] at h₂
        exact ⟨_, _, (hp.calls _).mp ⟨tr₁, h₁, rfl⟩, (hq.calls _).mp ⟨tr₂, h₂, rfl⟩, by simp⟩
      · rw [if_pos hok] at h₂
        obtain ⟨-, rfl, -, -⟩ := exec_ret.mp h₂
        exact absurd rfl hok
    · rintro ⟨cs₁, cs₂, h₁, h₂, rfl⟩
      obtain ⟨tr₁, hx₁, rfl⟩ := (hp.calls cs₁).mpr h₁
      obtain ⟨tr₂, hx₂, rfl⟩ := (hq.calls cs₂).mpr h₂
      refine ⟨tr₁ ++ tr₂, exec_bind.mpr ⟨tr₁, .ok, s, (), tr₂, hx₁, ?_, rfl⟩, by simp⟩
      rwa [if_neg (fun h => h rfl)]

theorem makes_next {place : CallPlace} (hp : Makes s p [place]) (hq : Makes s q Q) :
    Makes s (thenOk p q) (place :: Q) :=
  makes_thenOk hp hq

theorem makes_driver (c : Cmd) : Makes s (driver c) [(· = .cmd c)] where
  readOnly := readOnly_driver c
  calls cs := by simp [succeeds_driver, follows_singleton]

theorem makes_ok : Makes s (pure .ok) [] where
  readOnly := trivial
  calls cs := by simp [succeeds_pure, Follows]

theorem makes_ite {c : Prop} [Decidable c] (hp : c → Makes s p P) (hq : ¬c → Makes s q Q) :
    Makes s (if c then p else q) (if c then P else Q) := by
  split
  · rename_i hc; exact hp hc
  · rename_i hc; exact hq hc

/-- A register that is read, changed and written back, or one that is
computed and written. -/
theorem makes_readThen {i : Call} {rc : Answer i → UInt8} {c : Answer i → Cmd}
    {place : CallPlace} (hplace : ∀ c', place c' ↔ ∃ r, rc r = 0 ∧ c' = .cmd (c r)) :
    Makes s (call i >>= fun r =>
      if mapStatus (rc r) ≠ .ok then pure (mapStatus (rc r)) else driver (c r))
      [(· = i), place] where
  readOnly := readOnly_readThen
  calls cs := by
    rw [succeeds_call, follows_pair]
    constructor
    · rintro ⟨r, cs', h, rfl⟩
      by_cases hrc : mapStatus (rc r) = .ok
      · rw [if_neg (fun h => h hrc)] at h
        obtain rfl := succeeds_driver.mp h
        exact ⟨_, (hplace _).mpr ⟨r, mapStatus_ok.mp hrc, rfl⟩, rfl⟩
      · rw [if_pos hrc] at h
        exact absurd (succeeds_pure.mp h).1 hrc
    · rintro ⟨c', hc', rfl⟩
      obtain ⟨r, hrc, rfl⟩ := (hplace c').mp hc'
      refine ⟨r, [.cmd (c r)], ?_, rfl⟩
      rw [if_neg (fun h => h (mapStatus_ok.mpr hrc))]
      exact succeeds_driver.mpr rfl

theorem makes_applyRfSwitch (cfg : RadioConfig) : Makes s (applyRfSwitch cfg)
    (if cfg.dio2RfSwitchEnable then [(· = .cmd (.setDio2AsRfSwitchCtrl true))] else []) :=
  makes_ite (fun _ => makes_driver _) fun _ => makes_ok

theorem makes_applyPacketParams (n : UInt8) : Makes s (applyPacketParams n)
    [(· = .cmd (.setLoraPacketParamsExplicit s.config.preambleLenSymbols n s.config.crcEnabled
      s.config.iqInverted))] where
  readOnly := readOnly_applyPacketParams n
  calls cs := by
    rw [applyPacketParams, succeeds_read]
    exact (makes_driver _).calls cs

/-- The places of the `dio3_tcxo_enable` block. -/
def tcxoPlaces (cfg : RadioConfig) : List CallPlace :=
  if cfg.dio3TcxoEnable then
    [(· = .timeoutConvertToRegister cfg.tcxoDelayUs),
      fun c => ∃ voltage reg, toVendorTcxoVoltage cfg.tcxoVoltage = some voltage
        ∧ c = .cmd (.setDio3AsTcxoCtrl voltage reg)]
  else []

theorem makes_applyTcxo (cfg : RadioConfig) : Makes s (applyTcxo cfg) (tcxoPlaces cfg) where
  readOnly := readOnly_applyTcxo cfg
  calls cs := by
    unfold applyTcxo tcxoPlaces
    split
    · rw [follows_pair]
      cases hv : toVendorTcxoVoltage cfg.tcxoVoltage with
      | none =>
          constructor
          · intro h; exact absurd (succeeds_pure.mp h).1 (by decide)
          · rintro ⟨c, ⟨voltage, reg, hno, -⟩, -⟩; cases hno
      | some voltage =>
          dsimp only
          rw [succeeds_call]
          constructor
          · rintro ⟨⟨rc, reg⟩, cs', h, rfl⟩
            dsimp only at h
            split at h
            · exact absurd (succeeds_pure.mp h).1 (by decide)
            · obtain rfl := succeeds_driver.mp h
              exact ⟨_, ⟨voltage, reg, rfl, rfl⟩, rfl⟩
          · rintro ⟨c, ⟨voltage', reg, hsome, rfl⟩, rfl⟩
            cases hsome
            exact ⟨((0 : UInt8), reg), _, succeeds_driver.mpr rfl, rfl⟩
    · exact makes_ok.calls cs

/-- The places of a complete `leos_sx126x_apply_config`. -/
def configPlaces (cfg : RadioConfig) (sf : LoraSf) (bw : LoraBandwidth) (cr : LoraCr) :
    List CallPlace :=
  (· = .cmd (.setStandby .rc13m)) ::
  (tcxoPlaces cfg ++
  ((if cfg.dio2RfSwitchEnable then [(· = .cmd (.setDio2AsRfSwitchCtrl true))] else []) ++
  [(· = .cmd .clearDeviceErrors),
    (· = .cmd (.setStandby .xtal32Mhz)),
    (· = .cmd (.setStopTimerOnPreamble false)),
    (· = .cmd .setRegulatorModeDcDcLdo),
    (· = .cmd (.setPaConfig paDutyCycle paHpMax)),
    (· = .cmd .setRxTxFallbackModeStdbyXosc),
    (· = .cmd .setPacketTypeLora),
    (· = .cmd (.setTxParamsRamp10us cfg.txPowerDbm)),
    (· = .cmd (.setLoraModulationParams sf bw cr (lowDataRateOptimize cfg))),
    (· = .frequencyConvertToRegister cfg.rfFrequencyHz),
    fun c => ∃ reg, c = .cmd (.setRfFrequency reg),
    (· = .cmd (.setBufferBaseAddress 0 0)),
    (· = .cmd (.setLoraPacketParamsExplicit cfg.preambleLenSymbols maxPayloadLen.toUInt8
      cfg.crcEnabled cfg.iqInverted)),
    (· = .cmd (.setLoraSymbNumTimeout symbNumTimeout)),
    (· = .cmd (.setLoraSyncWord ((cfg.syncWord <<< 8) ||| cfg.syncWord))),
    (· = .getTxModulation),
    fun c => ∃ modulation, c = .cmd (.setTxModulation (modulation ||| txModulationDefault)),
    (· = .cmd (.setRxGain rxGain)),
    (· = .cmd (.setOcp ocp)),
    (· = .getTxClampConfig),
    fun c => ∃ clamp, c = .cmd (.setTxClampConfig (clamp ||| txClampMask)),
    (· = .cmd (.clearIrqStatus irqMaskAll))]))

/-- The whole chain: a configuration whose spreading factor, bandwidth and
coding rate exist makes the calls of `configPlaces`. -/
theorem makes_applyConfig {sf : LoraSf} {bw : LoraBandwidth} {cr : LoraCr}
    (hsf : toVendorSf s.config.spreadingFactor = some sf)
    (hbw : toVendorBw s.config.bandwidth = some bw)
    (hcr : toVendorCr s.config.codingRate = some cr) :
    Makes s applyConfig (configPlaces s.config sf bw cr) where
  readOnly := readOnly_applyConfig
  calls cs := by
    rw [applyConfig, succeeds_read]
    simp only [hsf, hbw, hcr]
    refine Makes.calls ?_ cs
    exact makes_next (makes_driver _) <|
      makes_thenOk (makes_applyTcxo s.config) <|
      makes_thenOk (makes_applyRfSwitch s.config) <|
      makes_next (makes_driver _) <|
      makes_next (makes_driver _) <|
      makes_next (makes_driver _) <|
      makes_next (makes_driver _) <|
      makes_next (makes_driver _) <|
      makes_next (makes_driver _) <|
      makes_next (makes_driver _) <|
      makes_next (makes_driver _) <|
      makes_next (makes_driver _) <|
      makes_thenOk (makes_readThen fun c => by simp) <|
      makes_next (makes_driver _) <|
      makes_next (makes_applyPacketParams _) <|
      makes_next (makes_driver _) <|
      makes_next (makes_driver _) <|
      makes_thenOk (makes_readThen fun c => by simp) <|
      makes_next (makes_driver _) <|
      makes_next (makes_driver _) <|
      makes_thenOk (makes_readThen fun c => by simp) <|
      makes_driver _

end Makes

/-! ## Two configurations -/

/-- Some calls follow both sequences. -/
def Compatible (P Q : List CallPlace) : Prop := ∃ cs, Follows cs P ∧ Follows cs Q

@[simp] theorem compatible_nil : Compatible [] [] := ⟨[], .nil, .nil⟩

@[simp] theorem compatible_cons {p q : CallPlace} {P Q : List CallPlace} :
    Compatible (p :: P) (q :: Q) ↔ (∃ c, p c ∧ q c) ∧ Compatible P Q := by
  constructor
  · rintro ⟨cs, hp, hq⟩
    cases hp with
    | cons hpc hP =>
        cases hq with
        | cons hqc hQ => exact ⟨⟨_, hpc, hqc⟩, _, hP, hQ⟩
  · rintro ⟨⟨c, hpc, hqc⟩, cs, hP, hQ⟩
    exact ⟨c :: cs, .cons hpc hP, .cons hqc hQ⟩

/-- The radio parameters of a configuration. -/
structure RadioParams where
  rfFrequencyHz : UInt32
  txPowerDbm : Int8
  preambleLenSymbols : UInt16
  bandwidth : RadioBandwidth
  spreadingFactor : RadioSpreadingFactor
  codingRate : RadioCodingRate
  syncWord : UInt16
  crcEnabled : Bool
  iqInverted : Bool
  deriving DecidableEq

def RadioConfig.params (cfg : RadioConfig) : RadioParams :=
  { cfg with }

/-- What a configuration asks of the board: the switches, and the TCXO's
settings where it has one. -/
structure BoardParams where
  rfSwitch : Bool
  tcxo : Option (UInt32 × RadioTcxoVoltage)
  deriving DecidableEq

def RadioConfig.board (cfg : RadioConfig) : BoardParams where
  rfSwitch := cfg.dio2RfSwitchEnable
  tcxo := if cfg.dio3TcxoEnable then some (cfg.tcxoDelayUs, cfg.tcxoVoltage) else none

/-- The configuration passes `leos_sx126x_apply_config`'s own checks. -/
def Accepted (cfg : RadioConfig) : Prop :=
  (toVendorSf cfg.spreadingFactor).isSome ∧ (toVendorBw cfg.bandwidth).isSome
    ∧ (toVendorCr cfg.codingRate).isSome
    ∧ (cfg.dio3TcxoEnable = true → (toVendorTcxoVoltage cfg.tcxoVoltage).isSome)

instance (cfg : RadioConfig) : Decidable (Accepted cfg) :=
  inferInstanceAs (Decidable (_ ∧ _ ∧ _ ∧ (_ → _)))

/-- A successful run of `leos_sx126x_apply_config` with this configuration
may make the calls `cs`. -/
def Applies (cfg : RadioConfig) (cs : List Call) : Prop :=
  ∃ s s' tr, s.config = cfg ∧ Exec anyDriver applyConfig s () tr .ok s' ()
    ∧ tr.map Event.call = cs

section Configs

variable {c₁ c₂ cfg : RadioConfig} {sf sf₁ sf₂ : LoraSf} {bw bw₁ bw₂ : LoraBandwidth}
  {cr cr₁ cr₂ : LoraCr} {cs : List Call}

theorem applies_iff (hsf : toVendorSf cfg.spreadingFactor = some sf)
    (hbw : toVendorBw cfg.bandwidth = some bw) (hcr : toVendorCr cfg.codingRate = some cr) :
    Applies cfg cs ↔ Follows cs (configPlaces cfg sf bw cr) := by
  constructor
  · rintro ⟨s, s', tr, rfl, hx, rfl⟩
    obtain rfl := Prog.ReadOnly.exec hx readOnly_applyConfig
    exact ((makes_applyConfig hsf hbw hcr).calls _).mp ⟨tr, hx, rfl⟩
  · intro h
    have hmakes : Makes { Ctx.powerOn .sx1262 with config := cfg } applyConfig
        (configPlaces cfg sf bw cr) := makes_applyConfig hsf hbw hcr
    obtain ⟨tr, hx, rfl⟩ := (hmakes.calls cs).mpr h
    exact ⟨_, _, tr, rfl, hx, rfl⟩

theorem accepted_cases (h : Accepted cfg) : ∃ sf bw cr,
    toVendorSf cfg.spreadingFactor = some sf ∧ toVendorBw cfg.bandwidth = some bw
      ∧ toVendorCr cfg.codingRate = some cr := by
  obtain ⟨hsf, hbw, hcr, -⟩ := h
  obtain ⟨sf, hsf⟩ := Option.isSome_iff_exists.mp hsf
  obtain ⟨bw, hbw⟩ := Option.isSome_iff_exists.mp hbw
  obtain ⟨cr, hcr⟩ := Option.isSome_iff_exists.mp hcr
  exact ⟨sf, bw, cr, hsf, hbw, hcr⟩

/-! Each conversion keeps apart what it accepts. -/

theorem toVendorSf_inj {a b : RadioSpreadingFactor} (ha : toVendorSf a = some sf)
    (hb : toVendorSf b = some sf) : a = b := by
  cases a <;> cases ha <;> cases b <;> cases hb <;> rfl

theorem toVendorBw_inj {a b : RadioBandwidth} (ha : toVendorBw a = some bw)
    (hb : toVendorBw b = some bw) : a = b := by
  cases a <;> cases ha <;> cases b <;> cases hb <;> rfl

theorem toVendorCr_inj {a b : RadioCodingRate} (ha : toVendorCr a = some cr)
    (hb : toVendorCr b = some cr) : a = b := by
  cases a <;> cases ha <;> cases b <;> cases hb <;> rfl

theorem toVendorTcxoVoltage_inj {a b : RadioTcxoVoltage} {v : TcxoVoltage}
    (ha : toVendorTcxoVoltage a = some v) (hb : toVendorTcxoVoltage b = some v) : a = b := by
  cases a <;> cases ha <;> cases b <;> cases hb <;> rfl

theorem toVendorTcxoVoltage_common {a b : RadioTcxoVoltage}
    (ha : (toVendorTcxoVoltage a).isSome) :
    (∃ v, toVendorTcxoVoltage a = some v ∧ toVendorTcxoVoltage b = some v) ↔ a = b := by
  constructor
  · rintro ⟨v, hav, hbv⟩
    exact toVendorTcxoVoltage_inj hav hbv
  · rintro rfl
    obtain ⟨v, hv⟩ := Option.isSome_iff_exists.mp ha
    exact ⟨v, hv, hv⟩

/-- Two sequences have a run in common exactly if they agree on all that is
sent, and the sync words on what is left of them. -/
theorem compatible_configPlaces (h₁ : Accepted c₁) :
    Compatible (configPlaces c₁ sf₁ bw₁ cr₁) (configPlaces c₂ sf₂ bw₂ cr₂) ↔
      c₁.board = c₂.board ∧ c₁.txPowerDbm = c₂.txPowerDbm
        ∧ (sf₁ = sf₂ ∧ bw₁ = bw₂ ∧ cr₁ = cr₂ ∧ lowDataRateOptimize c₁ = lowDataRateOptimize c₂)
        ∧ c₁.rfFrequencyHz = c₂.rfFrequencyHz
        ∧ (c₁.preambleLenSymbols = c₂.preambleLenSymbols ∧ c₁.crcEnabled = c₂.crcEnabled
          ∧ c₁.iqInverted = c₂.iqInverted)
        ∧ (c₁.syncWord <<< 8) ||| c₁.syncWord = (c₂.syncWord <<< 8) ||| c₂.syncWord := by
  have hreg (m : UInt8) : ∃ a b, a ||| m = b ||| m := ⟨0, 0, rfl⟩
  have hvoltage (h3 : c₁.dio3TcxoEnable = true) :
      (∃ voltage, toVendorTcxoVoltage c₁.tcxoVoltage = some voltage
        ∧ toVendorTcxoVoltage c₂.tcxoVoltage = some voltage) ↔ c₁.tcxoVoltage = c₂.tcxoVoltage :=
    toVendorTcxoVoltage_common (h₁.2.2.2 h3)
  -- a block that only one of them has puts the sequences out of step
  cases h3 : c₁.dio3TcxoEnable <;> cases h3' : c₂.dio3TcxoEnable <;>
    cases h2 : c₁.dio2RfSwitchEnable <;> cases h2' : c₂.dio2RfSwitchEnable <;>
    simp [configPlaces, tcxoPlaces, RadioConfig.board, h3, h3', h2, h2', hreg, hvoltage, and_assoc]

/-- The sync words differ only in bits of the high byte that lie over set
bits of the low byte, and nothing else that is sent differs. -/
structure SyncAliased (c₁ c₂ : RadioConfig) : Prop where
  ne : c₁.syncWord ≠ c₂.syncWord
  masked : ∀ i, c₁.syncWord.toBitVec.getLsbD i ≠ c₂.syncWord.toBitVec.getLsbD i →
    8 ≤ i ∧ c₁.syncWord.toBitVec.getLsbD (i - 8) = true
  board : c₁.board = c₂.board
  others : { c₁.params with syncWord := c₂.syncWord } = c₂.params

theorem shifted_bit (u : UInt16) {i : Nat} (hi : i < 16) :
    (u <<< 8).toBitVec.getLsbD i = (!decide (i < 8) && u.toBitVec.getLsbD (i - 8)) := by
  have hshift : (u <<< 8).toBitVec = u.toBitVec <<< 8 := rfl
  rw [hshift, BitVec.getLsbD_shiftLeft, decide_eq_true hi, Bool.true_and]

/-- The low byte is sent as it is ... -/
theorem packed_low (u : UInt16) {i : Nat} (hi : i < 8) :
    ((u <<< 8) ||| u).toBitVec.getLsbD i = u.toBitVec.getLsbD i := by
  rw [UInt16.toBitVec_or, BitVec.getLsbD_or, shifted_bit u (by omega), decide_eq_true hi]
  rfl

/-- ... and ored into the high one. -/
theorem packed_high (u : UInt16) {i : Nat} (h8 : 8 ≤ i) (hi : i < 16) :
    ((u <<< 8) ||| u).toBitVec.getLsbD i =
      (u.toBitVec.getLsbD (i - 8) || u.toBitVec.getLsbD i) := by
  rw [UInt16.toBitVec_or, BitVec.getLsbD_or, shifted_bit u hi,
    decide_eq_false (Nat.not_lt.mpr h8)]
  rfl

/-- Two sync words are sent alike just if they differ only in bits of the high
byte under which the low byte has a bit set. The low byte arrives as it is, so
it has to agree. -/
theorem packed_eq_iff (v w : UInt16) : (v <<< 8) ||| v = (w <<< 8) ||| w ↔
    ∀ i, v.toBitVec.getLsbD i ≠ w.toBitVec.getLsbD i →
      8 ≤ i ∧ v.toBitVec.getLsbD (i - 8) = true := by
  constructor
  · intro heq i hne
    have hlow (j : Nat) (hj : j < 8) : v.toBitVec.getLsbD j = w.toBitVec.getLsbD j := by
      rw [← packed_low v hj, ← packed_low w hj, heq]
    have hi : i < 16 := by
      by_contra hi
      exact hne (by rw [BitVec.getLsbD_of_ge _ _ (by omega), BitVec.getLsbD_of_ge _ _ (by omega)])
    have h8 : 8 ≤ i := by
      by_contra h8
      exact hne (hlow i (by omega))
    refine ⟨h8, ?_⟩
    have hhigh : (v.toBitVec.getLsbD (i - 8) || v.toBitVec.getLsbD i) =
        (w.toBitVec.getLsbD (i - 8) || w.toBitVec.getLsbD i) := by
      rw [← packed_high v h8 hi, ← packed_high w h8 hi, heq]
    rw [hlow (i - 8) (by omega)] at hhigh ⊢
    cases hset : w.toBitVec.getLsbD (i - 8) with
    | true => rfl
    | false =>
        rw [hset, Bool.false_or, Bool.false_or] at hhigh
        exact absurd hhigh hne
  · intro hmask
    have hlow (j : Nat) (hj : j < 8) : v.toBitVec.getLsbD j = w.toBitVec.getLsbD j := by
      by_contra hne
      have := (hmask j hne).1
      omega
    rw [← UInt16.toBitVec_inj]
    refine BitVec.eq_of_getLsbD_eq fun i hi => ?_
    by_cases h8 : i < 8
    · rw [packed_low v h8, packed_low w h8, hlow i h8]
    · rw [Nat.not_lt] at h8
      rw [packed_high v h8 hi, packed_high w h8 hi, ← hlow (i - 8) (by omega)]
      by_cases hbit : v.toBitVec.getLsbD i = w.toBitVec.getLsbD i
      · rw [hbit]
      · rw [(hmask i hbit).2]
        rfl

example : ((0x1424 : UInt16) <<< 8) ||| 0x1424 = 0x3424 := by decide

/-- Runs of two configurations can make the same calls exactly if the sync
words are all that is different, and alias. The vendor codes are injective, so
everything else that is sent determines the parameter it came from. -/
theorem compatible_iff (h₁ : Accepted c₁) (h₂ : Accepted c₂) :
    (∃ cs, Applies c₁ cs ∧ Applies c₂ cs) ↔ c₁.board = c₂.board
      ∧ { c₁.params with syncWord := c₂.syncWord } = c₂.params
      ∧ (c₁.syncWord <<< 8) ||| c₁.syncWord = (c₂.syncWord <<< 8) ||| c₂.syncWord := by
  obtain ⟨sf₁, bw₁, cr₁, hsf₁, hbw₁, hcr₁⟩ := accepted_cases h₁
  obtain ⟨sf₂, bw₂, cr₂, hsf₂, hbw₂, hcr₂⟩ := accepted_cases h₂
  have hcs : (∃ cs, Applies c₁ cs ∧ Applies c₂ cs)
      ↔ Compatible (configPlaces c₁ sf₁ bw₁ cr₁) (configPlaces c₂ sf₂ bw₂ cr₂) := by
    simp only [applies_iff hsf₁ hbw₁ hcr₁, applies_iff hsf₂ hbw₂ hcr₂, Compatible]
  rw [hcs, compatible_configPlaces h₁]
  constructor
  · rintro ⟨hboard, hpower, ⟨rfl, rfl, rfl, -⟩, hfreq, ⟨hpre, hcrc, hiq⟩, hsync⟩
    refine ⟨hboard, ?_, hsync⟩
    simp only [RadioConfig.params, RadioParams.mk.injEq]
    exact ⟨hfreq, hpower, hpre, toVendorBw_inj hbw₁ hbw₂, toVendorSf_inj hsf₁ hsf₂,
      toVendorCr_inj hcr₁ hcr₂, trivial, hcrc, hiq⟩
  · rintro ⟨hboard, hparams, hsync⟩
    simp only [RadioConfig.params, RadioParams.mk.injEq] at hparams
    obtain ⟨hfreq, hpower, hpre, hbw, hsf, hcr, -, hcrc, hiq⟩ := hparams
    rw [hsf, hsf₂] at hsf₁
    rw [hbw, hbw₂] at hbw₁
    rw [hcr, hcr₂] at hcr₁
    cases hsf₁
    cases hbw₁
    cases hcr₁
    have hldro : lowDataRateOptimize c₁ = lowDataRateOptimize c₂ := by
      simp only [lowDataRateOptimize, hbw, hsf]
    exact ⟨hboard, hpower, ⟨rfl, rfl, rfl, hldro⟩, hfreq, ⟨hpre, hcrc, hiq⟩, hsync⟩

/-- Two configurations that differ in a radio parameter never make the same
calls. -/
def Distinguished (c₁ c₂ : RadioConfig) : Prop :=
  c₁.params ≠ c₂.params → ∀ cs₁ cs₂, Applies c₁ cs₁ → Applies c₂ cs₂ → cs₁ ≠ cs₂

theorem distinguished_iff (h₁ : Accepted c₁) (h₂ : Accepted c₂) :
    Distinguished c₁ c₂ ↔ ¬SyncAliased c₁ c₂ := by
  constructor
  · intro hd ha
    obtain ⟨cs, hcs₁, hcs₂⟩ := (compatible_iff h₁ h₂).mpr
      ⟨ha.board, ha.others, (packed_eq_iff _ _).mpr ha.masked⟩
    exact hd (fun heq => ha.ne (congrArg RadioParams.syncWord heq)) cs cs hcs₁ hcs₂ rfl
  · rintro hna hne cs₁ cs₂ hcs₁ hcs₂ rfl
    obtain ⟨hboard, hothers, hsync⟩ := (compatible_iff h₁ h₂).mp ⟨cs₁, hcs₁, hcs₂⟩
    refine hna ⟨fun hword => hne ?_, (packed_eq_iff _ _).mp hsync, hboard, hothers⟩
    rw [← hothers, ← hword]
    rfl

end Configs

/-! ## Low data rates -/

/-- In Hz. -/
def RadioBandwidth.nominal : RadioBandwidth → Rat
  | .bw7Khz => 7812.5
  | .bw10Khz => 10420
  | .bw15Khz => 15625
  | .bw20Khz => 20830
  | .bw31Khz => 31250
  | .bw41Khz => 41670
  | .bw62Khz => 62500
  | .bw125Khz => 125000
  | .bw250Khz => 250000
  | .bw500Khz => 500000
  | .other _ => 0

def RadioSpreadingFactor.toNat : RadioSpreadingFactor → Nat
  | .sf5 => 5
  | .sf6 => 6
  | .sf7 => 7
  | .sf8 => 8
  | .sf9 => 9
  | .sf10 => 10
  | .sf11 => 11
  | .sf12 => 12
  | .other raw => raw

/-- `2^SF / bandwidth`, in ms. -/
def symbolTime (cfg : RadioConfig) : Rat :=
  2 ^ cfg.spreadingFactor.toNat / cfg.bandwidth.nominal * 1000

/-- Every modulation call the configuration leads to has the flag it needs. -/
def LdroExact (cfg : RadioConfig) : Prop :=
  ∀ cs sf bw cr ldro, Applies cfg cs →
    .cmd (.setLoraModulationParams sf bw cr ldro) ∈ cs →
    (ldro = true ↔ 16.38 ≤ symbolTime cfg)

/-- At least 125 kHz, or a spreading factor small enough for the bandwidth. -/
def wideOrFast (cfg : RadioConfig) : Bool :=
  match cfg.bandwidth with
  | .bw7Khz => cfg.spreadingFactor.toNat ≤ 6
  | .bw10Khz | .bw15Khz => cfg.spreadingFactor.toNat ≤ 7
  | .bw20Khz | .bw31Khz => cfg.spreadingFactor.toNat ≤ 8
  | .bw41Khz | .bw62Khz => cfg.spreadingFactor.toNat ≤ 9
  | _ => true

section Ldro

variable {c₁ c₂ cfg : RadioConfig}

theorem Follows.mem {cs : List Call} {places : List CallPlace} (h : Follows cs places) :
    (∀ c ∈ cs, ∃ place ∈ places, place c) ∧ ∀ place ∈ places, ∃ c ∈ cs, place c := by
  induction h with
  | nil => exact ⟨fun _ hc => absurd hc List.not_mem_nil, fun _ hp => absurd hp List.not_mem_nil⟩
  | @cons c place cs places hc _ ih =>
      refine ⟨fun c' hc' => ?_, fun place' hp' => ?_⟩
      · rcases List.mem_cons.mp hc' with rfl | hc'
        · exact ⟨place, .head _, hc⟩
        · obtain ⟨place', hp', h'⟩ := ih.1 c' hc'
          exact ⟨place', .tail _ hp', h'⟩
      · rcases List.mem_cons.mp hp' with rfl | hp'
        · exact ⟨c, .head _, hc⟩
        · obtain ⟨c', hc', h'⟩ := ih.2 place' hp'
          exact ⟨c', .tail _ hc', h'⟩

theorem modulation_mem_configPlaces (cfg : RadioConfig) {sf : LoraSf} {bw : LoraBandwidth}
    {cr : LoraCr} : (· = .cmd (.setLoraModulationParams sf bw cr (lowDataRateOptimize cfg)))
      ∈ configPlaces cfg sf bw cr := by
  simp [configPlaces]

theorem modulation_of_configPlaces (cfg : RadioConfig) {sf sf' : LoraSf}
    {bw bw' : LoraBandwidth} {cr cr' : LoraCr} {ldro : Bool} :
    ∀ place ∈ configPlaces cfg sf bw cr,
      place (.cmd (.setLoraModulationParams sf' bw' cr' ldro)) →
        ldro = lowDataRateOptimize cfg := by
  cases h3 : cfg.dio3TcxoEnable <;> cases h2 : cfg.dio2RfSwitchEnable <;>
    simp [configPlaces, tcxoPlaces, h3, h2]

/-- A successful run sends the flag the code computes. -/
theorem applies_modulation (h : Accepted cfg) :
    ∃ sf bw cr, (∃ cs, Applies cfg cs ∧ .cmd (.setLoraModulationParams sf bw cr
        (lowDataRateOptimize cfg)) ∈ cs)
      ∧ ∀ cs sf' bw' cr' ldro, Applies cfg cs →
        .cmd (.setLoraModulationParams sf' bw' cr' ldro) ∈ cs → ldro = lowDataRateOptimize cfg := by
  obtain ⟨sf, bw, cr, hsf, hbw, hcr⟩ := accepted_cases h
  obtain ⟨cs, hcs, -⟩ := (compatible_iff h h).mpr ⟨rfl, rfl, rfl⟩
  obtain ⟨c, hc, rfl⟩ := ((applies_iff hsf hbw hcr).mp hcs).mem.2 _
    (modulation_mem_configPlaces cfg)
  refine ⟨sf, bw, cr, ⟨cs, hcs, hc⟩, fun cs' sf' bw' cr' ldro hcs' hmem => ?_⟩
  obtain ⟨place, hp, hplace⟩ := ((applies_iff hsf hbw hcr).mp hcs').mem.1 _ hmem
  exact modulation_of_configPlaces cfg place hp hplace

/-- The code knows 125, 250 and 500 kHz. For these, and below them for the
small spreading factors, the flag is the one the symbol time asks for; decided
over both enumerations. -/
theorem lowDataRateOptimize_iff (h : Accepted cfg) :
    (lowDataRateOptimize cfg = true ↔ 16.38 ≤ symbolTime cfg) ↔ wideOrFast cfg = true := by
  obtain ⟨hsf, hbw, -, -⟩ := h
  unfold lowDataRateOptimize symbolTime wideOrFast
  generalize cfg.bandwidth = bw at *
  generalize cfg.spreadingFactor = sf at *
  cases bw with
  | other raw => cases hbw
  | _ =>
      cases sf with
      | other raw => cases hsf
      | _ => decide +kernel

theorem ldroExact_iff (h : Accepted cfg) : LdroExact cfg ↔ wideOrFast cfg = true := by
  obtain ⟨sf, bw, cr, ⟨cs, hcs, hmem⟩, hflag⟩ := applies_modulation h
  rw [← lowDataRateOptimize_iff h]
  constructor
  · intro hexact
    exact hexact cs sf bw cr _ hcs hmem
  · intro hiff cs' sf' bw' cr' ldro hcs' hmem'
    rw [hflag cs' sf' bw' cr' ldro hcs' hmem']
    exact hiff

/-- The configurations that pass the checks are the ones that can succeed. -/
theorem accepted_iff : Accepted cfg ↔ ∃ cs, Applies cfg cs := by
  constructor
  · intro h
    obtain ⟨cs, hcs, -⟩ := (compatible_iff h h).mpr ⟨rfl, rfl, rfl⟩
    exact ⟨cs, hcs⟩
  · rintro ⟨cs, hcs⟩
    obtain ⟨s, s', tr, rfl, hx, rfl⟩ := id hcs
    obtain rfl := Prog.ReadOnly.exec hx readOnly_applyConfig
    have hs : Succeeds s' applyConfig (tr.map Event.call) := ⟨tr, hx, rfl⟩
    rw [applyConfig, succeeds_read] at hs
    dsimp only at hs
    split at hs
    · rename_i sf bw cr hsf hbw hcr
      refine ⟨by simp [hsf], by simp [hbw], by simp [hcr], fun h3 => ?_⟩
      have hmem := ((applies_iff hsf hbw hcr).mp hcs).mem.2
      obtain ⟨c, -, voltage, reg, hv, -⟩ := hmem (fun c => ∃ voltage reg,
        toVendorTcxoVoltage s'.config.tcxoVoltage = some voltage
          ∧ c = .cmd (.setDio3AsTcxoCtrl voltage reg)) (by simp [configPlaces, tcxoPlaces, h3])
      simp [hv]
    · exact absurd (succeeds_pure.mp hs).1 (by decide)

end Ldro

/-- Two accepted configurations that differ in a radio parameter are kept
apart unless their sync words alias, and an accepted configuration gets the
flag its symbol time needs exactly if its bandwidth is at least 125 kHz or the
symbols are short. -/
theorem config_realised_iff {c₁ c₂ : RadioConfig} (h₁ : Accepted c₁) (h₂ : Accepted c₂) :
    (Distinguished c₁ c₂ ↔ ¬SyncAliased c₁ c₂) ∧ (LdroExact c₁ ↔ wideOrFast c₁ = true) :=
  ⟨distinguished_iff h₁ h₂, ldroExact_iff h₁⟩

/-- The default configuration and the same with another sync word. -/
theorem config_realised_iff_default :
    Distinguished (getDefaultConfig .sx1262) { getDefaultConfig .sx1262 with syncWord := 0x12 }
      ∧ LdroExact (getDefaultConfig .sx1262) := by
  have h₁ : Accepted (getDefaultConfig .sx1262) := by decide
  have h₂ : Accepted { getDefaultConfig .sx1262 with syncWord := 0x12 } := by decide
  have hiff := config_realised_iff h₁ h₂
  exact ⟨hiff.1.mpr fun h => absurd (h.masked 1 (by decide)).1 (by decide), hiff.2.mpr rfl⟩

/-- Two sync words of LoRa networks, of which the first is sent as the
second, and symbols of 16.384 ms without the flag. -/
theorem sync_words_collide :
    ∃ c₁ c₂ c₃ cs, Accepted c₁ ∧ Accepted c₂ ∧ c₁.params ≠ c₂.params
      ∧ Applies c₁ cs ∧ Applies c₂ cs ∧ Accepted c₃ ∧ ¬LdroExact c₃ := by
  have hc₁ : Accepted { getDefaultConfig .sx1262 with syncWord := 0x1424 } := by decide
  have hc₂ : Accepted { getDefaultConfig .sx1262 with syncWord := 0x3424 } := by decide
  have hc₃ : Accepted { getDefaultConfig .sx1262 with
    bandwidth := .bw62Khz, spreadingFactor := .sf10 } := by decide
  obtain ⟨cs, hcs₁, hcs₂⟩ := (compatible_iff hc₁ hc₂).mpr ⟨rfl, rfl, by decide⟩
  refine ⟨_, _, _, cs, hc₁, hc₂, by decide, hcs₁, hcs₂, hc₃, fun h => ?_⟩
  exact absurd ((ldroExact_iff hc₃).mp h) (by decide)

end Sx126x

end LeosSdk
