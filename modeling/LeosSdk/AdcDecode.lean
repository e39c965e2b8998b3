import Mathlib.Algebra.Order.Ring.Int
import Mathlib.Tactic.Linarith
import LeosSdk.Adc

/-!
# MCP342x: the codes a reading gives

The converter sends a conversion's code as a 16-bit two's-complement number
whatever its resolution. `mcp342x_read_raw` shifts it down by the bits the
resolution leaves unused, as if they were the low ones: right at 16 bits, and
for no other code than `0` and `-1` at 12 and 14. All along a history of
successful setters it shifts by the resolution in force, and
`mcp342x_read_blocking` returns with the first new code.

That the driver makes `code / 2 ^ (16 - bits)` of a code, rounded down, is
shown bit by bit once (`decode_encode`); the rest is about integers. Which
resolution the driver decodes by is the business of the shadow, so the chip
here is viewed as the one of `Adc` (`converter_adc`) and its step lemma says
that after successful setters the shadow holds what is in force (`InForce`).
The polling is a loop that the chip ends: a conversion takes a bounded number
of readings, and how many are left is the measure (`polling_total`).
-/

namespace LeosSdk

namespace Mcp342x

/-! ## The converter's readings -/

/-- A conversion: its code, and whether it has not been read before. -/
structure Sample where
  code : Int
  fresh : Bool
deriving DecidableEq, Repr

/-- The resolution a configuration byte selects: 12, 14, 16 or 18 bits. -/
def bits (config : UInt8) : Nat := 12 + 2 * (config >>> 2 &&& 0x3).toNat

/-- The signed codes of `n` bits. -/
def Representable (n : Nat) (code : Int) : Prop :=
  -(2 ^ (n - 1)) ≤ code ∧ code < 2 ^ (n - 1)

instance (n : Nat) (code : Int) : Decidable (Representable n code) :=
  inferInstanceAs (Decidable (_ ∧ _))

/-- The three bytes of a reading: the code in 16 bits, its sign repeated in
the unused upper ones, and the configuration, `RDY` clear if the code is
new. -/
def encode (register : UInt8) (x : Sample) : Reading :=
  let word := (Int16.ofInt x.code).toUInt16
  { high := (word >>> 8).toUInt8
    low := word.toUInt8
    config := if x.fresh then register &&& ~~~cfgRdy else register ||| cfgRdy }

/-- The chip with the samples it sent so far. A conversion comes to an end:
no more than `due` readings before it find nothing new. -/
structure Converter where
  register : UInt8
  due : Nat
  sent : List Sample

def Converter.adc (c : Converter) : Adc := ⟨c.register⟩

/-- The chip sends `x`, a sample of the resolution in force. -/
def Converter.Sends (c : Converter) (x : Sample) (c' : Converter) : Prop :=
  Representable (bits c.register) x.code
    ∧ ∃ due, (x.fresh = true ∨ due < c.due) ∧ c' = { c with due := due, sent := c.sent ++ [x] }

/-- A write that succeeds starts a conversion. -/
def converterEnv : Env Converter Call Answer
  | c, .i2cWriteBlocking _ _ data, ret, c' =>
    (ret : Int32) < 0 ∧ c' = c
      ∨ ¬(ret : Int32) < 0 ∧ ∃ due, c' = { c with register := data, due := due }
  | c, .i2cReadBlocking _ _, a, c' => Prod.fst a < 0 ∧ c' = c
      ∨ ¬Prod.fst a < 0 ∧ ∃ x, c.Sends x c' ∧ Prod.snd a = encode c.register x
  | c, _, _, c' => c' = c

/-- Between the driver's calls conversions come and go. -/
def Converter.Rests (c c' : Converter) : Prop := ∃ due, c' = { c with due := due }

abbrev ConverterStep : Dev × Converter → AdcLabel → Dev × Converter → Prop :=
  Session program converterEnv Converter.Rests

/-! ## Codes -/

/-- Dividing changes every number but `0` and, rounding down, `-1`. -/
theorem ediv_eq_self {a m : Int} (hm : 2 ≤ m) : a / m = a ↔ a = 0 ∨ a = -1 := by
  rw [Int.ediv_eq_iff_of_pos (by omega)]
  constructor
  · intro h
    rcases h with ⟨hlo, hhi⟩
    have hle : ¬0 < a := fun ha => by nlinarith
    have hge : ¬a < -1 := fun ha => by nlinarith
    omega
  · intro h
    rcases h with rfl | rfl <;> omega

theorem Representable.mono {n m : Nat} {code : Int} (h : Representable n code) (hnm : n ≤ m) :
    Representable m code := by
  have hpow : (2 : Int) ^ (n - 1) ≤ 2 ^ (m - 1) :=
    pow_le_pow_right₀ (by decide) (Nat.sub_le_sub_right hnm 1)
  exact ⟨(Int.neg_le_neg hpow).trans h.1, h.2.trans_le hpow⟩

theorem bytes_word (word : UInt16) :
    (word >>> 8).toUInt8.toUInt16 <<< 8 ||| word.toUInt8.toUInt16 = word := by
  rw [← UInt16.toBitVec_inj]
  ext i hi
  simp only [UInt16.toBitVec_or, UInt16.toBitVec_shiftLeft, UInt8.toBitVec_toUInt16,
    UInt16.toBitVec_toUInt8, UInt16.toBitVec_shiftRight, BitVec.getElem_or]
  by_cases h : i < 8
  · simp [h, BitVec.getLsbD_eq_getElem hi]
  · have hlow : 8 + (i - 8) = i := by omega
    have hhigh : i - 8 < 8 := by omega
    simp [h, hlow, hhigh, BitVec.getLsbD_eq_getElem hi]

theorem toInt_shiftRight {a k : Int16} {n : Nat} (hk : (k.toBitVec.smod 16).toNat = n) :
    (a >>> k).toInt32.toInt = a.toInt / 2 ^ n := by
  rw [Int16.toInt_toInt32, ← Int16.toInt_toBitVec, Int16.toBitVec_shiftRight,
    BitVec.sshiftRight', hk, BitVec.toInt_sshiftRight, Int.shiftRight_eq_div_pow,
    Int16.toInt_toBitVec]
  push_cast
  rfl

/-- The resolutions of the driver's enumeration. -/
theorem bits_cases {config : UInt8} (h : bits config ≤ 16) :
    config >>> 2 &&& 0x3 = 0 ∧ bits config = 12 ∨ config >>> 2 &&& 0x3 = 1 ∧ bits config = 14
      ∨ config >>> 2 &&& 0x3 = 2 ∧ bits config = 16 := by
  simp only [bits] at h ⊢
  generalize config >>> 2 &&& 0x3 = res at h ⊢
  simp only [← UInt8.toNat_inj, UInt8.reduceToNat]
  omega

variable {config : UInt8} {x : Sample}

/-- What the driver makes of a code: its quotient by the unused bits, rounded
down, as an arithmetic shift of the 16-bit word is. -/
theorem decode_encode (register : UInt8) (hcode : Representable 16 x.code)
    (hbits : bits config ≤ 16) :
    (decode config (encode register x)).toInt = x.code / 2 ^ (16 - bits config) := by
  have hword : (Int16.ofInt x.code).toInt = x.code := Int16.toInt_ofInt_of_le hcode.1 hcode.2
  simp only [decode, encode, bytes_word, Int16.toInt16_toUInt16]
  rcases bits_cases hbits with ⟨hres, hn⟩ | ⟨hres, hn⟩ | ⟨hres, hn⟩
  · rw [if_pos hres, toInt_shiftRight (n := 4) rfl, hword, hn]
  · rw [if_neg (by rw [hres]; decide), if_pos hres, toInt_shiftRight (n := 2) rfl, hword, hn]
  · rw [if_neg (by rw [hres]; decide), if_neg (by rw [hres]; decide), Int16.toInt_toInt32, hword,
      hn, Nat.sub_self, pow_zero, Int.ediv_one]

/-- The code itself comes out at 16 bits, and `0` and `-1` always; they are
what a division leaves alone. -/
theorem decode_eq_iff (register : UInt8) (hcode : Representable (bits config) x.code)
    (hbits : bits config ≤ 16) :
    (decode config (encode register x)).toInt = x.code
      ↔ bits config = 16 ∨ x.code = 0 ∨ x.code = -1 := by
  rw [decode_encode register (hcode.mono hbits) hbits]
  by_cases h : bits config = 16
  · simp [h]
  · have hpow : (2 : Int) ^ 1 ≤ 2 ^ (16 - bits config) :=
      pow_le_pow_right₀ (by decide) (by omega)
    rw [ediv_eq_self hpow]
    exact (or_iff_right h).symm

/-! ## What each function can do -/

variable {s s' : Dev} {c c' : Converter}

/-- Without its samples the chip is one of `Adc`, so what was proved of the
shadow there holds here. -/
theorem converter_adc {i : Call} {r : Answer i} (h : converterEnv c i r c') :
    adcEnv c.adc i r c'.adc := by
  cases i with
  | i2cWriteBlocking block address data =>
      rcases h with ⟨hret, rfl⟩ | ⟨hret, due, rfl⟩
      · exact .inl ⟨hret, rfl⟩
      · exact .inr ⟨hret, rfl⟩
  | i2cReadBlocking block address =>
      rcases h with ⟨-, rfl⟩ | ⟨-, x, ⟨-, due, -, rfl⟩, -⟩ <;> rfl
  | i2cInit | gpioSetFunctionI2c | gpioPullUp | sleepUs =>
      obtain rfl := h
      rfl

theorem converterStep_adc {w w' : Dev × Converter} {l : AdcLabel} (h : ConverterStep w l w') :
    AdcStep (w.1, w.2.adc) l (w'.1, w'.2.adc) := by
  refine Session.view Converter.adc (fun _ _ _ _ => converter_adc) ?_ h
  intro c c' h
  obtain ⟨due, rfl⟩ := h
  rfl

theorem encode_ready (register : UInt8) (x : Sample) :
    ((encode register x).config &&& 0x80 == 0) = x.fresh := by
  cases hx : x.fresh with
  | true =>
      have h : register &&& ~~~cfgRdy &&& 0x80 = 0 := by
        rw [UInt8.and_assoc, show ~~~cfgRdy &&& 0x80 = 0 from rfl, UInt8.and_zero]
      simp [encode, hx, h]
  | false =>
      have h : (register ||| cfgRdy) &&& 0x80 ≠ 0 := by
        intro h
        have hbit := congrArg (fun b : UInt8 => b.toBitVec[7]) h
        simp [cfgRdy] at hbit
      simp [encode, hx, h]

/-- `v` is what the driver makes of `x`. -/
def Decoded (s : Dev) (x : Sample) (v : Int32) : Prop :=
  Representable (bits s.config) x.code ∧ ∃ register, v = decode s.config (encode register x)

theorem bits_field (config : UInt8) :
    bits config = 12 + 2 * ((config &&& resolutionField.bits) >>> 2).toNat := by
  rw [UInt8.shiftRight_and]
  rfl

/-- Only the resolution field selects the resolution: configurations that
agree outside other fields, or outside `RDY`, have the same. -/
theorem bits_congr {a b m : UInt8} (h : a ||| m = b ||| m) (hm : m &&& resolutionField.bits = 0) :
    bits a = bits b := by
  rw [bits_field, bits_field, and_eq_of_or_eq h hm]

theorem SameConfig.bits_eq {a b : UInt8} (h : SameConfig a b) : bits a = bits b :=
  bits_congr h rfl

theorem sends_decoded (ha : Agree (s, c.adc)) (h : c.Sends x c') :
    Decoded s x (decode s.config (encode c.register x)) := by
  refine ⟨?_, c.register, rfl⟩
  rw [ha.bits_eq]
  exact h.1

theorem Converter.Sends.adc (h : c.Sends x c') : c'.adc = c.adc := by
  obtain ⟨-, due, -, rfl⟩ := h
  rfl

theorem Converter.Sends.sent (h : c.Sends x c') : c'.sent = c.sent ++ [x] := by
  obtain ⟨-, due, -, rfl⟩ := h
  rfl

theorem Converter.Sends.due_lt (h : c.Sends x c') (hx : x.fresh = false) : c'.due < c.due := by
  obtain ⟨-, due, hdue, rfl⟩ := h
  rcases hdue with hfresh | hlt
  · rw [hx] at hfresh
    cases hfresh
  · exact hlt

/-- A reading fails, or the driver gets one sample. -/
theorem readRaw_total {readyNull : Bool} :
    Total converterEnv (readRaw readyNull) (fun _ raw s' c' => s' = s
      ∧ (raw.ret < 0 ∧ raw.ready = none ∧ c' = c
        ∨ ∃ x, c.Sends x c' ∧ raw = {
            ret := 0
            value := some (decode s.config (encode c.register x))
            ready := if readyNull then none else some x.fresh })) s c := by
  refine total_bind (total_read (total_call ⟨(-1, ⟨0, 0, 0⟩), c, .inl ⟨by decide, rfl⟩⟩ ?_))
  intro a c' h
  obtain ⟨ret, buf⟩ := a
  rcases h with ⟨hret, rfl⟩ | ⟨hret, x, hx, hbuf⟩ <;> dsimp only at hret ⊢
  · rw [if_pos hret]
    exact total_pure ⟨rfl, .inl ⟨hret, rfl, rfl⟩⟩
  · rw [if_neg hret]
    refine total_pure ⟨rfl, .inr ⟨x, hx, ?_⟩⟩
    rw [show buf = encode c.register x from hbuf, encode_ready]

/-- How one iteration of the polling ends. -/
def Polls (s : Dev) (c : Converter) (r : Option Int32 ⊕ Int32 × Option Int32)
    (c' : Converter) : Prop :=
  (∃ v x, r = .inl v ∧ x.fresh = false ∧ c.Sends x c')
    ∨ (∃ ret v, r = .inr (ret, v) ∧ ret < 0 ∧ c' = c)
    ∨ ∃ v x, r = .inr (0, some v) ∧ x.fresh = true ∧ Decoded s x v ∧ c.Sends x c'

/-- One iteration of the polling: it goes on only after a sample that is not
new, and ends with an error or what the driver makes of a new one. -/
theorem pollReady_total (ha : Agree (s, c.adc)) (v : Option Int32) :
    Total converterEnv (pollReady v) (fun _ r s' c' => s' = s ∧ Polls s c r c') s c := by
  refine total_bind (readRaw_total.mono ?_)
  intro _ raw s₁ c₁ h
  rcases h with ⟨rfl, ⟨hret, -, rfl⟩ | ⟨x, hx, rfl⟩⟩
  · rw [if_pos hret]
    exact total_pure ⟨rfl, .inr (.inl ⟨raw.ret, v, rfl, hret, rfl⟩)⟩
  · rw [if_neg (by decide : ¬(0 : Int32) < 0)]
    cases hfresh : x.fresh with
    | true =>
        rw [if_pos (by simp)]
        exact total_pure ⟨rfl, .inr (.inr ⟨_, x, rfl, hfresh, sends_decoded ha hx, hx⟩)⟩
    | false =>
        rw [if_neg (by simp)]
        refine total_call ⟨(), c₁, rfl⟩ ?_
        rintro _ c₂ rfl
        exact total_pure ⟨rfl, .inl ⟨_, x, rfl, hfresh, hx⟩⟩

/-- What the polling came to: an error with nothing new sent, or what the
driver makes of the first new sample. -/
def Polled (s : Dev) (sent : List Sample) (r : Int32 × Option Int32) (c' : Converter) : Prop :=
  ∃ ys, (∀ y ∈ ys, y.fresh = false)
    ∧ (r.1 < 0 ∧ c'.sent = sent ++ ys
      ∨ ∃ v x, r = (0, some v) ∧ x.fresh = true ∧ Decoded s x v ∧ c'.sent = sent ++ (ys ++ [x]))

/-- The polling comes to an end, for so does the conversion: an iteration that
goes on has used up one of the readings that may find nothing new. -/
theorem polling_total (ha : Agree (s, c.adc)) (v : Option Int32) :
    Total converterEnv (Prog.iter pollReady v)
      (fun _ r s' c' => s' = s ∧ Polled s c.sent r c') s c := by
  refine total_iter
    (fun _ _ s₁ c₁ => s₁ = s ∧ c₁.adc = c.adc
      ∧ ∃ ys, (∀ y ∈ ys, y.fresh = false) ∧ c₁.sent = c.sent ++ ys)
    (fun _ _ c₁ => c₁.due) ?_ ⟨rfl, rfl, [], by simp, by simp⟩
  intro v _ s₁ c₁ h
  rcases h with ⟨rfl, hadc, ys, hys, hsent⟩
  refine (pollReady_total (hadc ▸ ha) v).mono ?_
  intro _ r s₂ c₂ h
  rcases h with ⟨rfl, ⟨v, x, rfl, hx, hsend⟩ | ⟨ret, v, rfl, hret, rfl⟩
    | ⟨v, x, rfl, hx, hdec, hsend⟩⟩
  · refine ⟨fun v' hv => ?_, fun _ hr => by cases hr⟩
    refine ⟨⟨rfl, hsend.adc.trans hadc, ys ++ [x], ?_, ?_⟩, hsend.due_lt hx⟩
    · exact List.forall_mem_append.mpr ⟨hys, by simpa using hx⟩
    · rw [hsend.sent, hsent, List.append_assoc]
  · refine ⟨fun _ hr => (by cases hr), fun r hr => ?_⟩
    obtain rfl := Sum.inr.inj hr
    exact ⟨rfl, ys, hys, .inl ⟨hret, hsent⟩⟩
  · refine ⟨fun _ hr => (by cases hr), fun r hr => ?_⟩
    obtain rfl := Sum.inr.inj hr
    refine ⟨rfl, ys, hys, .inr ⟨v, x, rfl, hx, hdec, ?_⟩⟩
    rw [hsend.sent, hsent, List.append_assoc]

theorem readBlocking_total (ha : Agree (s, c.adc)) :
    Total converterEnv readBlocking (fun _ r s' c' => s' = s ∧ Polled s c.sent r c') s c := by
  refine total_bind (total_read ?_)
  split
  · refine total_call ⟨(-1 : Int32), c, .inl ⟨(by decide : (-1 : Int32) < 0), rfl⟩⟩ ?_
    intro ret c₁ h
    rcases h with ⟨hret, rfl⟩ | ⟨hret, due, rfl⟩
    · rw [if_pos hret]
      exact total_pure ⟨rfl, [], by simp, .inl ⟨hret, by simp⟩⟩
    · rw [if_neg hret]
      have ha₁ : Agree (s, Converter.adc ⟨s.config ||| cfgRdy, due, c.sent⟩) :=
        (sameConfig_rdy s.config).symm
      exact polling_total ha₁ none
  · exact polling_total ha none

/-! ## Runs -/

/-- A resolution set is one of the driver's enumeration. -/
def AdcLabel.supported : AdcLabel → Bool
  | .op (.setResolution resolution) _ _ => resolution < 3
  | _ => true

/-- No setter that fails, and no resolution the driver does not know. -/
def AdcLabel.Successful (l : AdcLabel) : Prop :=
  AdcLabel.failed l = none ∧ AdcLabel.supported l = true

instance (l : AdcLabel) : Decidable (AdcLabel.Successful l) :=
  inferInstanceAs (Decidable (_ ∧ _))

/-- The samples sent in a step. -/
def sentIn (x : Rec (Dev × Converter) AdcLabel) : List Sample :=
  x.post.2.sent.drop x.pre.2.sent.length

/-- The code a read was sent: `mcp342x_read_raw` the one it read,
`mcp342x_read_blocking` the first new one. -/
def AdcLabel.received (sent : List Sample) : AdcLabel → Option Int
  | .op (.readRaw _) _ _ => sent.head?.map (·.code)
  | .op .readBlocking _ _ => (sent.find? (·.fresh)).map (·.code)
  | _ => none

/-- What a successful read stored. -/
def AdcLabel.stored : AdcLabel → Option Int
  | .op (.readRaw _) _ raw => if raw.ret = 0 then raw.value.map Int32.toInt else none
  | .op .readBlocking _ (ret, value) => if ret = 0 then value.map Int32.toInt else none
  | _ => none

/-- The code a read was sent is the one it stored. -/
def Decodes (x : Rec (Dev × Converter) AdcLabel) : Prop :=
  ∀ code, AdcLabel.received (sentIn x) x.label = some code → AdcLabel.stored x.label = some code

/-- The resolution in force leaves no bit unused, or the code is `0` or
`-1`. -/
def Fits (x : Rec (Dev × Converter) AdcLabel) : Prop :=
  ∀ code, AdcLabel.received (sentIn x) x.label = some code →
    bits x.pre.2.register = 16 ∨ code = 0 ∨ code = -1

/-- The shadow holds the resolution in force, one of the driver's
enumeration. -/
structure InForce (w : Dev × Converter) : Prop where
  agree : Agree (w.1, w.2.adc)
  le : bits w.1.config ≤ 16

theorem bits_put {f : Field} {value : UInt32} (h : f.bits &&& resolutionField.bits = 0) :
    bits (f.put config value) = bits config :=
  bits_congr put_or_bits h

theorem bits_put_resolution {value : UInt32} (h : value < 3) :
    bits (resolutionField.put config value) ≤ 16 := by
  have hvalue : value = 0 ∨ value = 1 ∨ value = 2 := by
    simp only [UInt32.lt_iff_toNat_lt, ← UInt32.toNat_inj, UInt32.reduceToNat] at h ⊢
    omega
  rw [bits_field, put_and_bits]
  rcases hvalue with rfl | rfl | rfl <;> decide

/-- A successful step keeps the resolution of the shadow in the enumeration. -/
theorem bits_step {w w' : Dev × Adc} {l : AdcLabel} (h : AdcStep w l w')
    (hok : AdcLabel.Successful l) (ha : Agree w) (hle : bits w.1.config ≤ 16) :
    bits w'.1.config ≤ 16 := by
  cases h with
  | tick => exact hle
  | @op o s c tr ret s' c' h =>
      cases o with
      | setResolution resolution =>
          obtain ⟨rfl, -⟩ := setField_spec _ _ _ _ h
          exact bits_put_resolution (of_decide_eq_true hok.2)
      | setChannel | setGain | setMode =>
          obtain ⟨rfl, -⟩ := setField_spec _ _ _ _ h
          refine (bits_put ?_).trans_le hle
          rfl
      | readRaw readyNull =>
          obtain ⟨rfl, -⟩ := readRaw_spec readyNull _ _ _ _ h
          exact hle
      | readBlocking =>
          obtain ⟨rfl, -⟩ := readBlocking_spec ha _ _ _ _ h
          exact hle

/-- Step lemma: a successful step keeps the resolution in force in the shadow,
by the step lemma of the shadow, and in the enumeration. -/
theorem inForce_step {x : Rec (Dev × Converter) AdcLabel}
    (h : ConverterStep x.pre x.label x.post) (hok : AdcLabel.Successful x.label)
    (hi : InForce x.pre) : InForce x.post := by
  have hadc := converterStep_adc h
  have hharm : Harmless ⟨(x.pre.1, x.pre.2.adc), x.label, (x.post.1, x.post.2.adc)⟩ := by
    intro f value hf
    exact absurd (hok.1.symm.trans hf) (by simp)
  have htracks := (adc_step hadc hi.agree).mpr hharm
  have hle := bits_step hadc hok hi.agree hi.le
  exact ⟨htracks.agree, hle⟩

theorem decodes_of_none {x : Rec (Dev × Converter) AdcLabel}
    (h : AdcLabel.received (sentIn x) x.label = none) : Decodes x ↔ Fits x := by
  simp [Decodes, Fits, h]

/-- A read that made something of a code decodes it just if the resolution
fits. -/
theorem decodes_of_some {x : Rec (Dev × Converter) AdcLabel} {y : Sample} {v : Int32}
    (hi : InForce x.pre) (hdec : Decoded x.pre.1 y v)
    (hreceived : AdcLabel.received (sentIn x) x.label = some y.code)
    (hstored : AdcLabel.stored x.label = some v.toInt) : Decodes x ↔ Fits x := by
  obtain ⟨hcode, register, rfl⟩ := hdec
  have hbits : bits x.pre.1.config = bits x.pre.2.register := hi.agree.bits_eq
  have hiff := decode_eq_iff register hcode hi.le
  rw [hbits] at hiff
  simpa [Decodes, Fits, hreceived, hstored] using hiff

/-- A step from a shadow that holds the resolution in force: the code a read
was sent is the one it stored just if the resolution fits. -/
theorem decodes_step {x : Rec (Dev × Converter) AdcLabel}
    (h : ConverterStep x.pre x.label x.post) (hi : InForce x.pre) : Decodes x ↔ Fits x := by
  obtain ⟨w, l, w'⟩ := x
  cases h with
  | tick => exact decodes_of_none rfl
  | @op o s c tr ret s' c' h =>
      cases o with
      | setChannel | setGain | setResolution | setMode => exact decodes_of_none rfl
      | readRaw readyNull =>
          obtain ⟨-, hread⟩ := readRaw_total.ensures _ _ _ _ h
          rcases hread with ⟨-, -, rfl⟩ | ⟨y, hy, rfl⟩
          · exact decodes_of_none (by simp [AdcLabel.received, sentIn])
          · refine decodes_of_some hi (sends_decoded hi.agree hy) ?_ rfl
            simp [AdcLabel.received, sentIn, hy.sent]
      | readBlocking =>
          obtain ⟨-, ys, hys, hpoll⟩ := (readBlocking_total hi.agree).ensures _ _ _ _ h
          have hstale : ys.find? (·.fresh) = none :=
            List.find?_eq_none.mpr fun y hy => by simp [hys y hy]
          rcases hpoll with ⟨-, hsent⟩ | ⟨v, y, rfl, hy, hdec, hsent⟩
          · refine decodes_of_none ?_
            simp [AdcLabel.received, sentIn, hsent, hstale]
          · refine decodes_of_some hi hdec ?_ rfl
            simp [AdcLabel.received, sentIn, hsent, List.find?_append, hstale, hy]

/-- After `mcp342x_init` on a converter in its reset configuration, all along
a history of successful setters, a read stores the code it was sent exactly
when the resolution in force is 16 bits or the code is `0` or `-1`; and
`mcp342x_read_blocking` comes back, with an error or what it makes of the
first new code. By induction with `InForce`. -/
theorem reads_decode {s : Dev} {c : Converter} {block : I2c} {sda scl : UInt32} {addr : UInt8}
    {tr : List (Event Call Answer)} {ret : Int32} {w₀ w : Dev × Converter}
    {xs : List (Rec (Dev × Converter) AdcLabel)} (hreset : SameConfig c.register defaultConfig)
    (h0 : Exec converterEnv (init false block sda scl addr) s c tr ret w₀.1 w₀.2)
    (h : Run ConverterStep w₀ xs w) (hok : ∀ x ∈ xs, AdcLabel.Successful x.label) :
    (∀ x ∈ xs, Decodes x ↔ Fits x)
      ∧ Total converterEnv readBlocking (fun _ r s' c' => s' = w.1 ∧ Polled w.1 w.2.sent r c')
          w.1 w.2 := by
  have h₀ : InForce w₀ := by
    obtain ⟨hs, hc⟩ := init_spec _ _ _ _ (h0.view Converter.adc fun _ _ _ _ => converter_adc)
    refine ⟨?_, ?_⟩
    · rw [Agree, hs]
      exact (hc.trans hreset).symm
    · rw [hs]
      decide
  obtain ⟨hw, hxs⟩ := h.invariant InForce (fun x => AdcLabel.Successful x.label) h₀
    (fun _ hs hx hi => inForce_step hs hx hi) hok
  refine ⟨fun x hx => ?_, readBlocking_total hw.agree⟩
  obtain ⟨hs, hi, -⟩ := hxs x hx
  exact decodes_step hs hi

/-! ## A converter on the bench -/

/-- A converter that acknowledges everything and measures the same all the
time; the first reading after a write finds nothing new. -/
def benchConverter (code : Int) (c : Converter) : (i : Call) → Answer i × Converter
  | .i2cWriteBlocking _ _ data => (1, { c with register := data, due := 1 })
  | .i2cReadBlocking _ _ =>
    let x : Sample := ⟨code, c.due == 0⟩
    ((3, encode c.register x), { c with due := c.due - 1, sent := c.sent ++ [x] })
  | .i2cInit _ _ => ((), c)
  | .gpioSetFunctionI2c _ => ((), c)
  | .gpioPullUp _ => ((), c)
  | .sleepUs _ => ((), c)

theorem benchConverter_answers {code : Int} (h : Representable 12 code) :
    Answers (benchConverter code) converterEnv := by
  intro c i
  cases i with
  | i2cWriteBlocking block address data =>
      exact .inr ⟨(by decide : ¬(1 : Int32) < 0), 1, rfl⟩
  | i2cReadBlocking block address =>
      refine .inr ⟨(by decide : ¬(3 : Int32) < 0), ⟨code, c.due == 0⟩, ⟨?_, _, ?_, rfl⟩, rfl⟩
      · exact h.mono (Nat.le_add_right ..)
      · simp only [beq_iff_eq]
        omega
  | i2cInit | gpioSetFunctionI2c | gpioPullUp | sleepUs => rfl

/-- Out of reset. -/
def benchReset : Converter := ⟨defaultConfig, 0, []⟩

/-- The device and the converter right after `mcp342x_init`. -/
def benchInit : Dev × Converter := (⟨0, 0x68, defaultConfig⟩, benchReset)

theorem benchConverter_init {code : Int} (h : Representable 12 code) :
    ∃ tr, Exec converterEnv (init false 0 4 5 0x68) ⟨1, 0, 0⟩ benchReset tr 0
      benchInit.1 benchInit.2 :=
  ⟨_, Prog.eval_exec (benchConverter_answers h)
    (show (init false 0 4 5 0x68).eval (benchConverter code) 1 (⟨1, 0, 0⟩, benchReset)
      = some (_, 0, benchInit) from rfl)⟩

/-- A history that sets 16 bits and reads a negative code, with and without
waiting. -/
theorem reads_decode_sixteen_bits :
    ∃ xs w, Run ConverterStep benchInit xs w ∧ (∀ x ∈ xs, Decodes x)
      ∧ ∃ x ∈ xs, AdcLabel.stored x.label = some (-2000) := by
  have hcode : Representable 12 (-2000) := by decide
  obtain ⟨tr, h0⟩ := benchConverter_init hcode
  obtain ⟨xs, w, hrun, hw⟩ := evalsTo_run Converter.Rests (benchConverter_answers hcode)
    (show evalsTo program (benchConverter (-2000)) 3
      [.setMode 0, .setResolution 2, .setGain 3, .readRaw false, .readBlocking] benchInit
      (fun xs _ => xs.all (fun x => AdcLabel.Successful x.label
          && ((AdcLabel.received (sentIn x) x.label).isNone || bits x.pre.2.register == 16))
        && xs.any fun x => AdcLabel.stored x.label == some (-2000)) = true
      by decide +kernel)
  simp only [Bool.and_eq_true, Bool.or_eq_true, beq_iff_eq, List.all_eq_true, List.any_eq_true,
    decide_eq_true_eq, Option.isNone_iff_eq_none] at hw
  refine ⟨xs, w, hrun, fun x hx => ?_, hw.2⟩
  have hreads := reads_decode (c := benchReset) rfl h0 hrun fun x hx => (hw.1 x hx).1
  refine (hreads.1 x hx).mpr fun code hreceived => ?_
  rcases (hw.1 x hx).2 with hnone | h16
  · rw [hnone] at hreceived
    cases hreceived
  · exact .inl h16

/-- At the 12 bits of reset the code `0x123` is stored as `0x12`. -/
theorem twelve_bit_code_shifted :
    ∃ tr xs w, Exec converterEnv (init false 0 4 5 0x68) ⟨1, 0, 0⟩ benchReset tr 0
        benchInit.1 benchInit.2
      ∧ Run ConverterStep benchInit xs w ∧ (∀ x ∈ xs, AdcLabel.Successful x.label)
      ∧ ∃ x ∈ xs, AdcLabel.received (sentIn x) x.label = some 0x123
        ∧ AdcLabel.stored x.label = some 0x12 ∧ ¬Decodes x := by
  have hcode : Representable 12 0x123 := by decide
  obtain ⟨tr, h0⟩ := benchConverter_init hcode
  obtain ⟨xs, w, hrun, hw⟩ := evalsTo_run Converter.Rests (benchConverter_answers hcode)
    (show evalsTo program (benchConverter 0x123) 3
      [.setMode 1, .setResolution 0, .readRaw false, .readBlocking] benchInit
      (fun xs _ => xs.all (fun x => AdcLabel.Successful x.label)
        && xs.any fun x => AdcLabel.received (sentIn x) x.label == some 0x123
          && AdcLabel.stored x.label == some 0x12) = true
      by decide +kernel)
  simp only [Bool.and_eq_true, beq_iff_eq, List.all_eq_true, List.any_eq_true,
    decide_eq_true_eq] at hw
  obtain ⟨hok, x, hx, hreceived, hstored⟩ := hw
  refine ⟨tr, xs, w, h0, hrun, hok, x, hx, hreceived, hstored, fun hdec => ?_⟩
  have h := hdec _ hreceived
  rw [hstored] at h
  exact absurd h (by decide)

end Mcp342x

end LeosSdk
