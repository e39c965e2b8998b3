import LeosSdk.CanCrc
import LeosSdk.CrcErrors

/-!
# MCP251XFD: the errors the port's CRC notices

Whatever its name, `crc16_cms` is a CRC with generator `0x8005` over the bits
of each byte taken lowest first. A string followed by its checksum, low byte
first, leaves the register clear, and nothing else does (`clear_iff`). The
generator is odd, has an odd number of bits below its top, and comes back only
after 32767 steps (`cms_return`), so a receiver that recomputes the checksum
notices every burst of 16 bits in a string of any length, and any three
flipped bits in strings of up to 4093 bytes.

What was sent and what was received are two messages of one length, and both
leave the register clear if the damage goes unnoticed. Then the bits in which
they differ, by themselves, leave a cleared register clear (`damage_clear`),
and `CrcErrors` says what such bits look like: not within one burst, and at
least four of them while the register has not come back. That it does not is
the only computation here: the register is run through its 32766 values, on
numbers, once (`staysAway`).
-/

namespace LeosSdk

namespace Mcp251xfd

open Crc (remainder remainderLow shift shiftLow flips)

/-! ## A string and its checksum -/

def checksumBits (crc : UInt16) : List Bool := (List.range 16).map crc.toBitVec.getLsbD

/-- Every byte lowest bit first, the checksum's low byte first. -/
def guarded (data : List UInt8) (crc : UInt16) : List Bool :=
  data.flatMap bitsLow ++ checksumBits crc

theorem length_guarded (data : List UInt8) (crc : UInt16) :
    (guarded data crc).length = 8 * data.length + 16 := by
  rw [guarded, List.length_append, length_flatMap_bits bitsLow fun _ => rfl]
  rfl

/-- What recomputing the checksum of the received string and comparing finds
out. -/
def accepts (data : List UInt8) (crc : UInt16) : Bool := computeCrc16Pico data == crc

/-- A string and a checksum leave the register clear just if the checksum is
the string's: of all words only the register's own contents clear it. -/
theorem clear_iff (data : List UInt8) (crc : UInt16) :
    remainder 0x8005#16 0xFFFF#16 (guarded data crc) = 0#16 ↔ accepts data crc = true := by
  have hlow : (remainderLow 0xA001#16 0xFFFF#16 (guarded data crc)).reverse
      = remainder 0x8005#16 0xFFFF#16 (guarded data crc) := Crc.remainderLow_reverse _ _ _
  have happend : remainderLow 0xA001#16 0xFFFF#16 (guarded data crc)
      = remainderLow 0xA001#16 (crc16Cms data).toBitVec (checksumBits crc) := by
    rw [crc16Cms_toBitVec, remainderLow, remainderLow, remainderLow, ← List.foldl_append]
    rfl
  rw [← hlow, BitVec.reverse_eq_zero_iff, happend, checksumBits,
    Crc.remainderLow_word_eq_zero_iff (by decide), accepts, beq_iff_eq, computeCrc16Pico,
    UInt16.toBitVec_inj]

theorem bitsLow_injective : Function.Injective bitsLow := by
  intro a b h
  rw [← UInt8.toBitVec_inj]
  refine BitVec.eq_of_getLsbD_eq fun j hj => ?_
  exact (List.map_inj_left.mp h) j (List.mem_range.mpr hj)

theorem checksumBits_injective : Function.Injective checksumBits := by
  intro a b h
  rw [← UInt16.toBitVec_inj]
  refine BitVec.eq_of_getLsbD_eq fun j hj => ?_
  exact (List.map_inj_left.mp h) j (List.mem_range.mpr hj)

theorem flatMap_bitsLow_injective {data data' : List UInt8}
    (h : data.flatMap bitsLow = data'.flatMap bitsLow) : data = data' := by
  induction data generalizing data' with
  | nil =>
      cases data' with
      | nil => rfl
      | cons => simp [bitsLow] at h
  | cons byte data ih =>
      cases data' with
      | nil => simp [bitsLow] at h
      | cons byte' data' =>
          rw [List.flatMap_cons, List.flatMap_cons] at h
          obtain ⟨hbyte, hdata⟩ := List.append_inj h rfl
          rw [bitsLow_injective hbyte, ih hdata]

theorem guarded_inj {data data' : List UInt8} {crc crc' : UInt16}
    (h : guarded data crc = guarded data' crc') : data = data' ∧ crc = crc' := by
  obtain ⟨hdata, hcrc⟩ := List.append_inj' h rfl
  exact ⟨flatMap_bitsLow_injective hdata, checksumBits_injective hcrc⟩

/-- The bits in which what was received differs from what was sent. -/
def damage (data data' : List UInt8) (crc' : UInt16) : List Bool :=
  flips (guarded data (computeCrc16Pico data)) (guarded data' crc')

variable {data data' : List UInt8} {crc' : UInt16}

theorem length_damage (hlen : data'.length = data.length) :
    (damage data data' crc').length = 8 * data.length + 16 := by
  rw [damage, Crc.length_flips (by rw [length_guarded, length_guarded, hlen]), length_guarded]

/-- Damage a receiver does not notice leaves a cleared register cleared,
because both strings leave the register alike. -/
theorem damage_clear (hlen : data'.length = data.length) (h : accepts data' crc' = true) :
    remainder 0x8005#16 0#16 (damage data data' crc') = 0#16 := by
  have hsent : accepts data (computeCrc16Pico data) = true := beq_self_eq_true _
  rw [damage, ← Crc.remainder_eq_iff 0xFFFF#16 (by rw [length_guarded, length_guarded, hlen]),
    (clear_iff _ _).mpr hsent, (clear_iff _ _).mpr h]

theorem true_mem_damage (hlen : data'.length = data.length)
    (hne : data' ≠ data ∨ crc' ≠ computeCrc16Pico data) : true ∈ damage data data' crc' := by
  by_contra hnone
  have heq := Crc.eq_of_flips (by rw [length_guarded, length_guarded, hlen]) hnone
  obtain ⟨rfl, rfl⟩ := guarded_inj heq
  rcases hne with hne | hne <;> exact hne rfl

/-! ## Bursts -/

/-- Damage within sixteen consecutive bits of a string and its checksum is
noticed, however long the string. A burst the register can hold never cancels
out. -/
theorem crc16_notices_bursts (data data' : List UInt8) (crc' : UInt16)
    (hlen : data'.length = data.length)
    (hne : data' ≠ data ∨ crc' ≠ computeCrc16Pico data)
    (hburst : Crc.Burst 16 (damage data data' crc')) : accepts data' crc' = false := by
  rw [Bool.eq_false_iff]
  intro haccept
  have hclear := damage_clear hlen haccept
  exact Crc.true_not_mem_of_burst (by decide) hburst hclear (true_mem_damage hlen hne)

theorem crc16_notices_bursts_digits :
    accepts [0x31, 0x32, 0xCC, 0xCB] (computeCrc16Pico [0x31, 0x32, 0x33, 0x34]) = false :=
  crc16_notices_bursts [0x31, 0x32, 0x33, 0x34] _ _ rfl (.inl (by decide))
    ⟨16, by decide +kernel, by decide +kernel⟩

/-! ## Three flipped bits -/

/-- The register's step, on its value. -/
def shiftNat (c : Nat) : Nat := if 0x8000 ≤ c then (2 * c - 0x10000) ^^^ 0x8005 else 2 * c

theorem toNat_shift (c : BitVec 16) : (shift 0x8005#16 c).toNat = shiftNat c.toNat := by
  have hlt : c.toNat < 65536 := c.isLt
  rw [shift, shiftNat, BitVec.msb_eq_decide]
  simp only [decide_eq_true_eq]
  split
  · next h =>
      have h' : 0x8000 ≤ c.toNat := h
      have hshift : (c <<< 1).toNat = 2 * c.toNat - 0x10000 := by
        rw [BitVec.toNat_shiftLeft, Nat.shiftLeft_eq]
        omega
      rw [BitVec.toNat_xor, hshift]
      rfl
  · next h =>
      have h' : ¬ 0x8000 ≤ c.toNat := h
      rw [BitVec.toNat_shiftLeft, Nat.shiftLeft_eq]
      omega

/-- `home` is not met in the first `n` values from `c` on. -/
def staysAway (home : Nat) : Nat → Nat → Bool
  | 0, _ => true
  | n + 1, c => !(c.beq home) && staysAway home n (shiftNat c)

theorem staysAway_iterate {home : Nat} : ∀ {n : Nat} {c : BitVec 16},
    staysAway home n c.toNat = true →
    ∀ j, j < n → ((shift 0x8005#16)^[j] c).toNat ≠ home
  | n + 1, c, h, j, hj => by
      rw [staysAway, Bool.and_eq_true, ← toNat_shift] at h
      cases j with
      | zero =>
          intro heq
          have : c.toNat = home := heq
          simp [this] at h
      | succ j =>
          rw [Function.iterate_succ_apply]
          exact staysAway_iterate h.2 j (by omega)

/-- The register does not come back to the generator within 32767 steps.
Evaluated. -/
theorem cms_return (j : Nat) (hj : j + 1 < 32767) :
    (shift 0x8005#16)^[j + 1] 0x8005#16 ≠ 0x8005#16 := by
  have haway : staysAway 0x8005 32766 (shift 0x8005#16 0x8005#16).toNat = true := by
    decide +kernel
  intro heq
  exact staysAway_iterate haway j (by omega) (by
    rw [← Function.iterate_succ_apply, heq]
    rfl)

/-- Up to three flipped bits anywhere in a string of at most 4093 bytes and
its checksum are noticed. The length keeps the damage below the 32767 steps
after which two bits could cancel out. -/
theorem crc16_notices_three_flips (data data' : List UInt8) (crc' : UInt16)
    (hlen : data'.length = data.length) (hmax : data.length ≤ 4093)
    (hne : data' ≠ data ∨ crc' ≠ computeCrc16Pico data)
    (hfew : (damage data data' crc').count true ≤ 3) : accepts data' crc' = false := by
  rw [Bool.eq_false_iff]
  intro haccept
  have hfour := Crc.four_le_count (by decide) (by decide) cms_return
    (by rw [length_damage hlen]; omega) (true_mem_damage hlen hne) (damage_clear hlen haccept)
  omega

theorem crc16_notices_three_flips_digits :
    accepts [0xB1, 0x32, 0x37, 0x34] (computeCrc16Pico [0x31, 0x32, 0x33, 0x34] ^^^ 0x0100)
      = false :=
  crc16_notices_three_flips [0x31, 0x32, 0x33, 0x34] _ _ rfl (by decide) (.inl (by decide))
    (by decide +kernel)

end Mcp251xfd

end LeosSdk
