import LeosSdk.Run

/-!
# MCP342x: the configuration shadow

`mcp342x.c`. The driver keeps a copy of the converter's configuration register
in `dev->config`: the setters change a field of the copy and send it,
`mcp342x_read_raw` decodes readings by it. The I2C and GPIO functions of the
platform are calls. `mcp342x_read_voltage` scales a reading in floating point
and is left out, as is logging.

A setter changes the copy before the transfer and does not change it back when
the transfer fails. So copy and register agree exactly when every failing
setter asked for the value its field already held (`shadow_tracks_register`);
`mcp342x_read_blocking`, which triggers a conversion through a local copy,
never does harm.

The four setters have one body (`setField`) and one lemma (`setField_spec`):
the field is put into the copy whatever happens, and the register is either
what it was or what the copy now says. So all turns on the bits: putting a
value into a field shows in what is compared just if the field held another
(`sameConfig_put`), for no field contains `RDY`. The polling is a loop whose
invariant is that neither copy nor register changes. Each step is an
equivalence (`adc_step`), and so is the run.
-/

namespace LeosSdk

namespace Mcp342x

open Prog (modify)

/-! ## The program -/

def cfgRdy : UInt8 := (1 : UInt8) <<< 7
def cfgOc : UInt8 := (1 : UInt8) <<< 4

def defaultConfig : UInt8 := cfgRdy ||| cfgOc

/-- `i2c_inst_t *`. -/
abbrev I2c := Nat

structure Dev where
  i2c : I2c
  address : UInt8
  config : UInt8
deriving DecidableEq, Repr

/-- The three bytes a read transfers. -/
structure Reading where
  high : UInt8
  low : UInt8
  config : UInt8
deriving DecidableEq, Repr

inductive Call where
  | i2cInit (block : I2c) (baud : UInt32)
  | gpioSetFunctionI2c (pin : UInt32)
  | gpioPullUp (pin : UInt32)
  | i2cWriteBlocking (i2c : I2c) (address data : UInt8)
  | i2cReadBlocking (i2c : I2c) (address : UInt8)
  | sleepUs (us : UInt64)

abbrev Answer : Call → Type
  | .i2cWriteBlocking .. => Int32
  | .i2cReadBlocking .. => Int32 × Reading
  | _ => Unit

abbrev Api := Prog Dev Call Answer

abbrev call (i : Call) : Api (Answer i) := Prog.ask i

def init (devNull : Bool) (block : I2c) (sda scl : UInt32) (addr : UInt8) :
    Api Int32 := do
  if devNull then return -2
  modify fun dev => { dev with i2c := block, config := defaultConfig }
  call (.i2cInit block 400000)
  call (.gpioSetFunctionI2c sda)
  call (.gpioSetFunctionI2c scl)
  call (.gpioPullUp sda)
  call (.gpioPullUp scl)
  modify fun dev => { dev with address := addr }
  return 0

/-- A field of the configuration register; `RDY` is in none. -/
structure Field where
  mask : UInt8
  shift : UInt8
  notRdy : mask <<< shift &&& cfgRdy = 0
deriving DecidableEq

def Field.bits (f : Field) : UInt8 := f.mask <<< f.shift

/-- `(value & mask) << shift`. -/
def Field.place (f : Field) (value : UInt32) : UInt8 :=
  (value.toUInt8 &&& f.mask) <<< f.shift

def channelField : Field := ⟨0x3, 5, by decide⟩
def gainField : Field := ⟨0x3, 0, by decide⟩
def resolutionField : Field := ⟨0x3, 2, by decide⟩
def modeField : Field := ⟨0x1, 4, by decide⟩

/-- The body of the four setters. -/
def setField (f : Field) (value : UInt32) : Api Int32 := do
  modify fun dev => { dev with config := dev.config &&& ~~~f.bits }
  modify fun dev => { dev with config := dev.config ||| f.place value }
  let dev ← Prog.read
  call (.i2cWriteBlocking dev.i2c dev.address dev.config)

def setChannel (channel : UInt32) : Api Int32 := setField channelField channel
def setGain (gain : UInt32) : Api Int32 := setField gainField gain
def setResolution (resolution : UInt32) : Api Int32 := setField resolutionField resolution
def setMode (mode : UInt32) : Api Int32 := setField modeField mode

/-- What `mcp342x_read_raw` returns and writes; `none` is not written. -/
structure RawResult where
  ret : Int32
  value : Option Int32
  ready : Option Bool
deriving DecidableEq, Repr

/-- The sample in a reading, by the resolution of a configuration byte. -/
def decode (config : UInt8) (buf : Reading) : Int32 :=
  let raw := (buf.high.toUInt16 <<< 8 ||| buf.low.toUInt16).toInt16
  let res := config >>> 2 &&& 0x3
  if res = 0 then (raw >>> 4).toInt32
  else if res = 1 then (raw >>> 2).toInt32
  else raw.toInt32

def readRaw (readyNull : Bool) : Api RawResult := do
  let dev ← Prog.read
  let (ret, buf) ← call (.i2cReadBlocking dev.i2c dev.address)
  if ret < 0 then return ⟨ret, none, none⟩
  return {
    ret := 0
    value := some (decode dev.config buf)
    ready := if readyNull then none else some (buf.config &&& 0x80 == 0) }

/-- One iteration of the `do … while`; `value` is what `*value` holds. -/
def pollReady (value : Option Int32) :
    Api (Option Int32 ⊕ Int32 × Option Int32) := do
  let raw ← readRaw false
  if raw.ret < 0 then return .inr (raw.ret, value)
  if raw.ready = some true then return .inr (0, raw.value)
  call (.sleepUs 200)
  return .inl raw.value

/-- With what was written to `*value` last. -/
def readBlocking : Api (Int32 × Option Int32) := do
  let dev ← Prog.read
  if dev.config &&& cfgOc = 0 then
    let ret ← call (.i2cWriteBlocking dev.i2c dev.address (dev.config ||| cfgRdy))
    if ret < 0 then return (ret, none)
    Prog.iter pollReady none
  else Prog.iter pollReady none

inductive Op where
  | setChannel (channel : UInt32)
  | setGain (gain : UInt32)
  | setResolution (resolution : UInt32)
  | setMode (mode : UInt32)
  | readRaw (readyNull : Bool)
  | readBlocking

abbrev Op.Ret : Op → Type
  | .readRaw _ => RawResult
  | .readBlocking => Int32 × Option Int32
  | _ => Int32

def program : (o : Op) → Api o.Ret
  | .setChannel channel => setChannel channel
  | .setGain gain => setGain gain
  | .setResolution resolution => setResolution resolution
  | .setMode mode => setMode mode
  | .readRaw readyNull => readRaw readyNull
  | .readBlocking => readBlocking

/-! ## The converter -/

/-- Equal in every bit but `RDY`. -/
def SameConfig (a b : UInt8) : Prop := a ||| cfgRdy = b ||| cfgRdy

instance (a b : UInt8) : Decidable (SameConfig a b) :=
  inferInstanceAs (Decidable (_ = _))

/-- The chip, as far as its configuration register goes. -/
structure Adc where
  register : UInt8

/-- Conversions come and go: only `RDY` changes. -/
def converts (c c' : Adc) : Prop := SameConfig c'.register c.register

/-- A write that fails changes nothing and one that succeeds stores its
byte, as far as the register's other bits go. -/
def adcEnv : Env Adc Call Answer
  | c, .i2cWriteBlocking _ _ data, ret, c' =>
    (ret : Int32) < 0 ∧ converts c c' ∨ ¬(ret : Int32) < 0 ∧ SameConfig c'.register data
  | c, _, _, c' => converts c c'

abbrev AdcLabel := Label Op Op.Ret Call Answer

abbrev AdcStep : Dev × Adc → AdcLabel → Dev × Adc → Prop :=
  Session program adcEnv converts

/-- Shadow and register agree. -/
def Agree (w : Dev × Adc) : Prop := SameConfig w.1.config w.2.register

instance (w : Dev × Adc) : Decidable (Agree w) :=
  inferInstanceAs (Decidable (SameConfig _ _))

/-! ## Bits -/

theorem SameConfig.trans {a b c : UInt8} (h : SameConfig a b) (h' : SameConfig b c) :
    SameConfig a c := Eq.trans h h'

theorem SameConfig.symm {a b : UInt8} (h : SameConfig a b) : SameConfig b a := Eq.symm h

theorem sameConfig_rdy (config : UInt8) : SameConfig (config ||| cfgRdy) config := by
  rw [SameConfig, UInt8.or_assoc, UInt8.or_self]

/-- `config` with the field replaced. -/
def Field.put (f : Field) (config : UInt8) (value : UInt32) : UInt8 :=
  config &&& ~~~f.bits ||| f.place value

/-- The field holds `value` already. -/
def Field.Holds (f : Field) (config : UInt8) (value : UInt32) : Prop :=
  config &&& f.bits = f.place value

instance (f : Field) (config : UInt8) (value : UInt32) : Decidable (f.Holds config value) :=
  inferInstanceAs (Decidable (_ = _))

variable {f : Field} {config : UInt8} {value : UInt32}

theorem place_bits (f : Field) (value : UInt32) : f.place value &&& f.bits = f.place value := by
  rw [Field.place, Field.bits, ← UInt8.shiftLeft_and, UInt8.and_assoc, UInt8.and_self]

/-- Bytes that agree inside and outside a mask are equal. -/
theorem eq_of_mask {a b m : UInt8} (hin : a &&& m = b &&& m) (hout : a ||| m = b ||| m) :
    a = b := by
  rw [← UInt8.toBitVec_inj] at *
  ext i hi
  have h₁ := congrArg (·[i]) hin
  have h₂ := congrArg (·[i]) hout
  simp only [UInt8.toBitVec_and, UInt8.toBitVec_or, BitVec.getElem_and,
    BitVec.getElem_or] at h₁ h₂
  grind

/-- What is put can be read back: the shifted value lies within the field's
bits. -/
theorem put_and_bits : f.put config value &&& f.bits = f.place value := by
  have hp := place_bits f value
  unfold Field.put
  rw [← UInt8.toBitVec_inj] at *
  ext i hi
  have h := congrArg (·[i]) hp
  simp only [UInt8.toBitVec_and, UInt8.toBitVec_or, UInt8.toBitVec_not,
    BitVec.getElem_and, BitVec.getElem_or, BitVec.getElem_not] at h ⊢
  grind

/-- Nothing else is touched. -/
theorem put_or_bits : f.put config value ||| f.bits = config ||| f.bits := by
  have hp := place_bits f value
  unfold Field.put
  rw [← UInt8.toBitVec_inj] at *
  ext i hi
  have h := congrArg (·[i]) hp
  simp only [UInt8.toBitVec_and, UInt8.toBitVec_or, UInt8.toBitVec_not,
    BitVec.getElem_and, BitVec.getElem_or, BitVec.getElem_not] at h ⊢
  grind

/-- Bytes that agree outside a mask agree on what is disjoint from it. -/
theorem and_eq_of_or_eq {a b m k : UInt8} (h : a ||| m = b ||| m) (hm : m &&& k = 0) :
    a &&& k = b &&& k := by
  rw [← UInt8.toBitVec_inj] at *
  ext i hi
  have h₁ := congrArg (·[i]) h
  have h₂ := congrArg (·[i]) hm
  simp only [UInt8.toBitVec_and, UInt8.toBitVec_or, BitVec.getElem_and,
    BitVec.getElem_or, UInt8.toBitVec_zero, BitVec.getElem_zero] at h₁ h₂ ⊢
  grind

/-- Putting a value changes nothing just if the field holds it, since the bits
outside stay. -/
theorem put_eq_iff : f.put config value = config ↔ f.Holds config value := by
  constructor
  · intro h
    have hp : f.put config value &&& f.bits = f.place value := put_and_bits
    rw [Field.Holds, ← hp, h]
  · intro h
    exact eq_of_mask (put_and_bits.trans h.symm) put_or_bits

/-- Changing a field shows in the bits that are compared, for `RDY` is not
among the field's. -/
theorem sameConfig_put : SameConfig (f.put config value) config ↔ f.Holds config value := by
  rw [← put_eq_iff]
  exact ⟨eq_of_mask (and_eq_of_or_eq put_or_bits f.notRdy), fun h => by rw [h, SameConfig]⟩

/-! ## What each function can do -/

variable {s s' : Dev} {c c' : Adc}

/-- A setter changes the field in the shadow, whatever becomes of the
transfer: if that fails the register stays, and otherwise it holds what the
shadow says. -/
theorem setField_spec :
    Ensures adcEnv (setField f value) (fun _ ret s' c' =>
      s' = { s with config := f.put s.config value }
        ∧ (ret < 0 ∧ converts c c'
          ∨ ¬ret < 0 ∧ SameConfig c'.register s'.config)) s c := by
  simp only [setField, ensures_bind, ensures_modify, ensures_read, ensures_ask]
  intro ret c' h
  exact ⟨rfl, h⟩

theorem readRaw_spec (readyNull : Bool) :
    Ensures adcEnv (readRaw readyNull) (fun _ _ s' c' => s' = s ∧ converts c c') s c := by
  simp only [readRaw, ensures_bind, ensures_read, ensures_ask, ensures_ite, ensures_pure,
    true_and]
  intro a c' h
  exact ⟨fun _ => h, fun _ => h⟩

theorem pollReady_spec (v : Option Int32) :
    Ensures adcEnv (pollReady v) (fun _ _ s' c' => s' = s ∧ converts c c') s c := by
  simp only [pollReady, ensures_bind]
  refine (readRaw_spec false).mono ?_
  intro _ raw s₁ c₁ h
  rcases h with ⟨rfl, h⟩
  simp only [ensures_ite, ensures_bind, ensures_ask, ensures_pure, true_and]
  exact ⟨fun _ => h, fun _ => ⟨fun _ => h, fun _ _ c₂ h₂ => SameConfig.trans h₂ h⟩⟩

/-- Polling changes neither shadow nor, but for `RDY`, register, however long
it goes on. -/
theorem polling_spec (v : Option Int32) :
    Ensures adcEnv (Prog.iter pollReady v) (fun _ _ s' c' => s' = s ∧ converts c c') s c := by
  refine ensures_iter (fun _ _ s' c' => s' = s ∧ converts c c') ?_ ⟨rfl, rfl⟩
  intro v _ s₁ c₁ h
  rcases h with ⟨rfl, h₁⟩
  refine (pollReady_spec v).mono ?_
  intro _ _ s₂ c₂ h
  rcases h with ⟨rfl, h₂⟩
  have h : s₂ = s₂ ∧ converts c c₂ := ⟨rfl, SameConfig.trans h₂ h₁⟩
  exact ⟨fun _ _ => h, fun _ _ => h⟩

/-- The trigger writes what the shadow says: it harms no agreement. -/
theorem readBlocking_spec (ha : Agree (s, c)) :
    Ensures adcEnv readBlocking (fun _ _ s' c' => s' = s ∧ Agree (s, c')) s c := by
  have hpoll : ∀ c₁, Agree (s, c₁) →
      Ensures adcEnv (Prog.iter pollReady none)
        (fun _ _ s' c' => s' = s ∧ Agree (s, c')) s c₁ := by
    intro c₁ h₁
    refine (polling_spec none).mono ?_
    intro _ _ s₂ c₂ h
    exact ⟨h.1, SameConfig.trans h₁ h.2.symm⟩
  simp only [readBlocking, ensures_bind, ensures_read, ensures_ite, ensures_ask, ensures_pure,
    true_and]
  refine ⟨fun _ ret c₁ h => ?_, fun _ => hpoll c ha⟩
  have h₁ : Agree (s, c₁) := by
    rcases h with ⟨-, h⟩ | ⟨-, h⟩
    · exact SameConfig.trans ha h.symm
    · exact (h.trans (sameConfig_rdy s.config)).symm
  exact ⟨fun _ => h₁, fun _ => hpoll c₁ h₁⟩

/-! ## Runs -/

/-- A setter that returned an error: its field and the value asked for. -/
def AdcLabel.failed : AdcLabel → Option (Field × UInt32)
  | .op (.setChannel channel) _ ret =>
    if (ret : Int32) < 0 then some (channelField, channel) else none
  | .op (.setGain gain) _ ret =>
    if (ret : Int32) < 0 then some (gainField, gain) else none
  | .op (.setResolution resolution) _ ret =>
    if (ret : Int32) < 0 then some (resolutionField, resolution) else none
  | .op (.setMode mode) _ ret =>
    if (ret : Int32) < 0 then some (modeField, mode) else none
  | _ => none

/-- If the step is a failing setter, its field held the value already. -/
def Harmless (x : Rec (Dev × Adc) AdcLabel) : Prop :=
  ∀ f value, AdcLabel.failed x.label = some (f, value) → f.Holds x.pre.1.config value

/-- Shadow and register agree after the step, and a failing setter has left
the shadow as it was. -/
structure Tracks (x : Rec (Dev × Adc) AdcLabel) : Prop where
  agree : Agree x.post
  error : AdcLabel.failed x.label ≠ none → x.post.1.config = x.pre.1.config

/-- A step that leaves the shadow alone. -/
theorem tracks_of_same {l : AdcLabel} (hl : AdcLabel.failed l = none) (ha : Agree (s, c')) :
    Tracks ⟨(s, c), l, (s, c')⟩ ↔ Harmless ⟨(s, c), l, (s, c')⟩ := by
  constructor
  · intro _ f v h
    rw [hl] at h
    cases h
  · exact fun _ => ⟨ha, fun _ => rfl⟩

/-- A setter's step keeps the agreement just if it did no harm: one that
succeeds has sent the whole shadow, and one that fails has changed the shadow
alone, unless the field held the value. -/
theorem tracks_setter {l : AdcLabel} {ret : Int32}
    (hl : AdcLabel.failed l = if ret < 0 then some (f, value) else none)
    (ha : Agree (s, c)) (hs : s' = { s with config := f.put s.config value })
    (h : ret < 0 ∧ converts c c' ∨ ¬ret < 0 ∧ SameConfig c'.register s'.config) :
    Tracks ⟨(s, c), l, (s', c')⟩ ↔ Harmless ⟨(s, c), l, (s', c')⟩ := by
  subst hs
  rcases h with ⟨hret, hc⟩ | ⟨hret, hc⟩
  · rw [if_pos hret] at hl
    constructor
    · intro ht g v hg
      rw [hl] at hg
      cases hg
      have hput : SameConfig (f.put s.config value) s.config :=
        (SameConfig.trans ht.agree hc).trans ha.symm
      exact sameConfig_put.mp hput
    · intro hh
      have heq : f.put s.config value = s.config := put_eq_iff.mpr (hh _ _ hl)
      refine ⟨?_, fun _ => heq⟩
      rw [Agree, heq]
      exact SameConfig.trans ha hc.symm
  · rw [if_neg hret] at hl
    constructor
    · intro _ g v hg
      rw [hl] at hg
      cases hg
    · exact fun _ => ⟨hc.symm, fun hne => absurd hl hne⟩

/-- Step lemma: from agreement, a step keeps shadow and register together
exactly if it is harmless. -/
theorem adc_step {x : Rec (Dev × Adc) AdcLabel} (h : AdcStep x.pre x.label x.post)
    (ha : Agree x.pre) : Tracks x ↔ Harmless x := by
  obtain ⟨w, l, w'⟩ := x
  cases h with
  | tick h => exact tracks_of_same rfl (SameConfig.trans ha h.symm)
  | @op o s c tr ret s' c' h =>
      cases o with
      | setChannel | setGain | setResolution | setMode =>
          obtain ⟨hs, hc⟩ := setField_spec _ _ _ _ h
          exact tracks_setter rfl ha hs hc
      | readRaw readyNull =>
          obtain ⟨rfl, hc⟩ := readRaw_spec readyNull _ _ _ _ h
          exact tracks_of_same rfl (SameConfig.trans ha hc.symm)
      | readBlocking =>
          obtain ⟨rfl, hc⟩ := readBlocking_spec ha _ _ _ _ h
          exact tracks_of_same rfl hc

theorem init_spec {block : I2c} {sda scl : UInt32} {addr : UInt8} :
    Ensures adcEnv (init false block sda scl addr)
      (fun _ _ s' c' => s'.config = defaultConfig ∧ converts c c') s c := by
  simp only [init, Bool.false_eq_true, if_false, ensures_bind, ensures_modify, ensures_ask,
    ensures_pure, true_and]
  intro _ c₁ h₁ _ c₂ h₂ _ c₃ h₃ _ c₄ h₄ _ c₅ h₅
  exact (((SameConfig.trans h₅ h₄).trans h₃).trans h₂).trans h₁

/-- After `mcp342x_init` on a converter in its reset configuration, shadow and
register agree all along a run, and no failing setter changes the shadow,
exactly when each failing setter asked for the value its field held. The
agreement carries the induction in both directions. -/
theorem shadow_tracks_register {block : I2c} {sda scl : UInt32} {addr : UInt8}
    {tr : List (Event Call Answer)} {ret : Int32} {w₀ w : Dev × Adc}
    {xs : List (Rec (Dev × Adc) AdcLabel)} (hreset : SameConfig c.register defaultConfig)
    (h0 : Exec adcEnv (init false block sda scl addr) s c tr ret w₀.1 w₀.2)
    (h : Run AdcStep w₀ xs w) :
    (Agree w₀ ∧ ∀ x ∈ xs, Tracks x) ↔ ∀ x ∈ xs, Harmless x := by
  have ha : Agree w₀ := by
    obtain ⟨hs, hc⟩ := init_spec _ _ _ _ h0
    rw [Agree, hs]
    exact (hc.trans hreset).symm
  have hiff := h.forall_iff Agree Tracks Harmless ha (fun _ hs ha => adc_step hs ha)
    fun _ _ ht _ => ht.agree
  exact ⟨fun ht => hiff.mp ht.2, fun hh => ⟨ha, hiff.mpr hh⟩⟩

/-! ## A converter on the bench -/

/-- A converter that does not acknowledge the bytes of `nack`, and always
has a sample ready. -/
def benchAdc (nack : UInt8 → Bool) (c : Adc) : (i : Call) → Answer i × Adc
  | .i2cWriteBlocking _ _ data => if nack data then (-1, c) else (1, ⟨data⟩)
  | .i2cReadBlocking _ _ => ((3, ⟨0x12, 0x34, c.register &&& 0x7F⟩), c)
  | .i2cInit _ _ => ((), c)
  | .gpioSetFunctionI2c _ => ((), c)
  | .gpioPullUp _ => ((), c)
  | .sleepUs _ => ((), c)

theorem benchAdc_answers (nack : UInt8 → Bool) : Answers (benchAdc nack) adcEnv := by
  intro c i
  cases i with
  | i2cWriteBlocking block address data =>
      simp only [benchAdc]
      split
      · exact .inl ⟨(by decide : (-1 : Int32) < 0), rfl⟩
      · exact .inr ⟨(by decide : ¬(1 : Int32) < 0), rfl⟩
  | _ => rfl

/-- The device right after `mcp342x_init`. -/
def benchReady : Dev × Adc := (⟨0, 0x68, defaultConfig⟩, ⟨defaultConfig⟩)

theorem bench_init (nack : UInt8 → Bool) :
    ∃ tr, Exec adcEnv (init false 0 4 5 0x68) ⟨1, 0, 0⟩ ⟨defaultConfig⟩ tr 0
      benchReady.1 benchReady.2 :=
  ⟨_, Prog.eval_exec (benchAdc_answers nack)
    (show (init false 0 4 5 0x68).eval (benchAdc nack) 1 (⟨1, 0, 0⟩, ⟨defaultConfig⟩)
      = some (_, 0, benchReady) from rfl)⟩

/-- A run whose setters are all acknowledged: to one-shot mode and 16 bits,
then a reading that triggers its conversion. -/
theorem shadow_tracks_register_one_shot :
    ∃ xs w, Run AdcStep benchReady xs w ∧ (∀ x ∈ xs, Tracks x) ∧ w.1.config = 0x88 := by
  obtain ⟨tr, h0⟩ := bench_init fun _ => false
  obtain ⟨xs, w, hrun, hw⟩ := evalsTo_run converts (benchAdc_answers fun _ => false)
    (show evalsTo program (benchAdc fun _ => false) 1
      [.setMode 0, .setResolution 2, .readBlocking] benchReady
      (fun xs w => xs.all (fun x => (AdcLabel.failed x.label).isNone) && w.1.config == 0x88)
        = true by decide +kernel)
  simp only [Bool.and_eq_true, beq_iff_eq, List.all_eq_true, Option.isNone_iff_eq_none] at hw
  refine ⟨xs, w, hrun, ((shadow_tracks_register rfl h0 hrun).mpr fun x hx f v h => ?_).2, hw.2⟩
  rw [hw.1 x hx] at h
  cases h

/-- The sample a step returned. -/
def AdcLabel.sample : AdcLabel → Option Int32
  | .op (.readRaw _) _ ret => ret.value
  | _ => none

/-- The 16-bit resolution is not acknowledged; the next reading is decoded
as a 16-bit one all the same, `0x1234` for `0x123`. -/
theorem failed_setter_rescales :
    ∃ xs w, Run AdcStep benchReady xs w
      ∧ (∃ x ∈ xs, AdcLabel.failed x.label ≠ none ∧ x.post.1.config ≠ x.pre.1.config)
      ∧ ¬Agree w
      ∧ ∃ x ∈ xs, AdcLabel.sample x.label = some 0x1234
        ∧ decode w.2.register ⟨0x12, 0x34, w.2.register⟩ = 0x123 := by
  obtain ⟨xs, w, hrun, hw⟩ := evalsTo_run converts (benchAdc_answers (· == 0x98))
    (show evalsTo program (benchAdc (· == 0x98)) 1 [.setResolution 2, .readRaw false] benchReady
      (fun xs w =>
        xs.any (fun x => AdcLabel.failed x.label != none && x.post.1.config != x.pre.1.config)
          && !decide (Agree w)
          && xs.any fun x => AdcLabel.sample x.label == some 0x1234
            && decode w.2.register ⟨0x12, 0x34, w.2.register⟩ == 0x123) = true
      by decide +kernel)
  exact ⟨xs, w, hrun, by simpa [and_assoc] using hw⟩

end Mcp342x

end LeosSdk
