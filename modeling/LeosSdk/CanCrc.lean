import LeosSdk.Crc

/-!
# MCP251XFD: the CRC the port computes

`crc16_cms` of `leos_mcp251xfd/platform.c` moves its register down and uses
`0xA001`, the reflected form of `0x8005`. That is the CRC of the bits of each
byte taken lowest first, read backwards (`crc16Cms_reverse`), known as
CRC-16/MODBUS. CRC-16/CMS takes them highest first and reads the register as
it is. By linearity the two agree on a string exactly if its set bits satisfy
sixteen parity checks.

The code is a fold over bytes with eight moves each. `crc16Cms_toBitVec` makes
it a fold over bits, since putting a byte into the low end of the register and
moving it down eight times feeds these bits one by one, and `Crc` turns the
register round. Both checksums are then registers of the same machine over two
orders of the same bits, and each is what the start leaves exclusive or what
every set bit leaves, which depends on the bit's place alone. A set bit is at
mirrored places in the two orders, so it adds `weight` to their difference;
the sum of these over the string is `syndrome`, and that of the start is
`offset`.
-/

namespace LeosSdk

namespace Mcp251xfd

open Crc (remainder remainderLow shift shiftLow stepLow contribution power pick)

/-! ## The code -/

/-- The body of the inner loop. -/
def crcShift (crc : UInt16) : UInt16 :=
  if crc &&& 0x0001 ≠ 0 then (crc >>> 1) ^^^ 0xA001 else crc >>> 1

def crc16Cms (data : List UInt8) : UInt16 :=
  data.foldl (fun crc byte => crcShift^[8] (crc ^^^ byte.toUInt16)) 0xFFFF

/-- `MCP251XFD_ComputeCRC16_Pico`. -/
def computeCrc16Pico (data : List UInt8) : UInt16 := crc16Cms data

/-! ## CRC-16/CMS -/

/-- The bits of a byte, highest first. -/
def bitsHigh (byte : UInt8) : List Bool :=
  (List.range 8).map fun j => byte.toBitVec.getLsbD (7 - j)

/-- The bits of a byte, lowest first. -/
def bitsLow (byte : UInt8) : List Bool := (List.range 8).map byte.toBitVec.getLsbD

/-- Polynomial `0x8005`, initial value `0xFFFF`, highest bit first, nothing
reflected, no final XOR: the catalogues' CRC-16/CMS. -/
def cms (data : List UInt8) : BitVec 16 :=
  remainder 0x8005#16 0xFFFF#16 (data.flatMap bitsHigh)

example : cms [0x31, 0x32, 0x33, 0x34, 0x35, 0x36, 0x37, 0x38, 0x39] = 0xAEE7#16 := by
  decide +kernel

/-! ## What the code computes -/

theorem crcShift_toBitVec (crc : UInt16) :
    (crcShift crc).toBitVec = shiftLow 0xA001#16 crc.toBitVec := by
  have hlow : crc &&& 0x0001 ≠ 0 ↔ crc.toBitVec.getLsbD 0 = true := by
    rw [ne_eq, ← UInt16.toBitVec_inj, UInt16.toBitVec_and]
    have hone : crc.toBitVec &&& (0x0001 : UInt16).toBitVec =
        BitVec.setWidth 16 (BitVec.ofBool (crc.toBitVec.getLsbD 0)) :=
      BitVec.and_one_eq_setWidth_ofBool_getLsbD
    rw [hone]
    cases crc.toBitVec.getLsbD 0 <;> decide
  simp only [crcShift, shiftLow, hlow]
  split <;> rfl

theorem crcShift_iterate (crc : UInt16) (k : Nat) :
    (crcShift^[k] crc).toBitVec = (shiftLow 0xA001#16)^[k] crc.toBitVec := by
  induction k with
  | zero => rfl
  | succ k ih => rw [Function.iterate_succ_apply', Function.iterate_succ_apply',
      crcShift_toBitVec, ih]

/-- One byte, as the bits it feeds. -/
theorem crcByte_toBitVec (crc : UInt16) (byte : UInt8) :
    (crcShift^[8] (crc ^^^ byte.toUInt16)).toBitVec =
      remainderLow 0xA001#16 crc.toBitVec (bitsLow byte) := by
  have hbits : (List.range 8).map byte.toUInt16.toBitVec.getLsbD = bitsLow byte := by
    refine List.map_congr_left fun j hj => ?_
    have hj' : j < 16 := by
      have := List.mem_range.mp hj
      omega
    simp [hj']
  have hgone : byte.toUInt16.toBitVec >>> 8 = 0#16 := by
    ext i hi
    simp
  rw [crcShift_iterate, UInt16.toBitVec_xor, Crc.shiftLow_iterate, hbits, hgone,
    BitVec.xor_zero]

/-- Byte by byte: the code's register is the one fed from the bottom. -/
theorem crc16Cms_toBitVec (data : List UInt8) :
    (crc16Cms data).toBitVec = remainderLow 0xA001#16 0xFFFF#16 (data.flatMap bitsLow) := by
  suffices h : ∀ crc : UInt16,
      (data.foldl (fun crc byte => crcShift^[8] (crc ^^^ byte.toUInt16)) crc).toBitVec
        = remainderLow 0xA001#16 crc.toBitVec (data.flatMap bitsLow) from h 0xFFFF
  intro crc
  induction data generalizing crc with
  | nil => rfl
  | cons byte data ih =>
      rw [List.foldl_cons, ih, crcByte_toBitVec, List.flatMap_cons, remainderLow, remainderLow,
        ← List.foldl_append, ← remainderLow]

/-- The code's CRC, read backwards, is that of the bits taken lowest first. -/
theorem crc16Cms_reverse (data : List UInt8) :
    (crc16Cms data).toBitVec.reverse =
      remainder 0x8005#16 0xFFFF#16 (data.flatMap bitsLow) := by
  rw [crc16Cms_toBitVec, Crc.remainderLow_reverse]
  rfl

/-! ## Where the two agree -/

/-- What a set bit of a byte adds to one checksum and not to the other: the
bit of weight `2 ^ j`, with `n` bytes after it. -/
def weight (n j : Nat) : BitVec 16 :=
  power 0x8005#16 (8 * n + j) ^^^ (power 0x8005#16 (8 * n + (7 - j))).reverse

/-- The weights of a byte's set bits. -/
def byteSyndrome (n : Nat) (byte : UInt8) : BitVec 16 :=
  ((List.range 8).map fun j => pick (weight n j) (byte.toBitVec.getLsbD j)).foldr (· ^^^ ·) 0#16

/-- The weights of a string's set bits. -/
def syndrome : List UInt8 → BitVec 16
  | [] => 0#16
  | byte :: data => byteSyndrome data.length byte ^^^ syndrome data

/-- What the initial value adds to one checksum and not to the other. -/
def offset (n : Nat) : BitVec 16 :=
  (shift 0x8005#16)^[8 * n] 0xFFFF#16 ^^^ ((shift 0x8005#16)^[8 * n] 0xFFFF#16).reverse

theorem length_flatMap_bits (bits : UInt8 → List Bool) (h : ∀ byte, (bits byte).length = 8)
    (data : List UInt8) : (data.flatMap bits).length = 8 * data.length := by
  induction data with
  | nil => rfl
  | cons byte data ih =>
      rw [List.flatMap_cons, List.length_append, ih, h, List.length_cons]
      omega

theorem contribution_byte (n : Nat) (byte : UInt8) :
    contribution 0x8005#16 (8 * n) (bitsHigh byte)
        ^^^ (contribution 0x8005#16 (8 * n) (bitsLow byte)).reverse
      = byteSyndrome n byte := by
  have hhigh : bitsHigh byte = [byte.toBitVec.getLsbD 7, byte.toBitVec.getLsbD 6,
      byte.toBitVec.getLsbD 5, byte.toBitVec.getLsbD 4, byte.toBitVec.getLsbD 3,
      byte.toBitVec.getLsbD 2, byte.toBitVec.getLsbD 1, byte.toBitVec.getLsbD 0] := rfl
  have hlow : bitsLow byte = [byte.toBitVec.getLsbD 0, byte.toBitVec.getLsbD 1,
      byte.toBitVec.getLsbD 2, byte.toBitVec.getLsbD 3, byte.toBitVec.getLsbD 4,
      byte.toBitVec.getLsbD 5, byte.toBitVec.getLsbD 6, byte.toBitVec.getLsbD 7] := rfl
  have hrange : List.range 8 = [0, 1, 2, 3, 4, 5, 6, 7] := rfl
  rw [hhigh, hlow, byteSyndrome, hrange]
  simp only [contribution, Crc.reverse_xor, Crc.pick_reverse, weight, Crc.pick_xor_word,
    List.length_cons, List.length_nil, List.map_cons, List.map_nil, List.foldr_cons,
    List.foldr_nil, Nat.reduceAdd, Nat.reduceSub, Nat.add_comm (8 * n), BitVec.xor_zero]
  ac_rfl

/-- What the set bits leave in the one register, and mirrored in the other,
differs by the syndrome. By induction on the string, a byte at a time. -/
theorem contribution_syndrome (data : List UInt8) :
    contribution 0x8005#16 0 (data.flatMap bitsHigh)
        ^^^ (contribution 0x8005#16 0 (data.flatMap bitsLow)).reverse
      = syndrome data := by
  induction data with
  | nil => rfl
  | cons byte data ih =>
      have hhigh := length_flatMap_bits bitsHigh (fun _ => rfl) data
      have hlow := length_flatMap_bits bitsLow (fun _ => rfl) data
      rw [List.flatMap_cons, List.flatMap_cons, Crc.contribution_append,
        Crc.contribution_append, hhigh, hlow, Nat.add_zero, Crc.reverse_xor, syndrome, ← ih,
        ← contribution_byte]
      ac_rfl

/-- The code returns a string's CRC-16/CMS exactly if the weights of the
string's set bits, sixteen parity checks, add up to that of the initial value.
The two checksums differ by just these two sums. -/
theorem crc16_is_cms_iff (data : List UInt8) :
    (computeCrc16Pico data).toBitVec = cms data ↔ syndrome data = offset data.length := by
  have hhigh := length_flatMap_bits bitsHigh (fun _ => rfl) data
  have hlow := length_flatMap_bits bitsLow (fun _ => rfl) data
  have hcode : (crc16Cms data).toBitVec =
      ((shift 0x8005#16)^[8 * data.length] 0xFFFF#16).reverse
        ^^^ (contribution 0x8005#16 0 (data.flatMap bitsLow)).reverse := by
    rw [← BitVec.reverse_reverse_eq (x := (crc16Cms data).toBitVec), crc16Cms_reverse,
      Crc.remainder_eq, hlow, Crc.reverse_xor]
  have hcms : cms data = (shift 0x8005#16)^[8 * data.length] 0xFFFF#16
      ^^^ contribution 0x8005#16 0 (data.flatMap bitsHigh) := by
    rw [cms, Crc.remainder_eq, hhigh]
  have hsum : (crc16Cms data).toBitVec ^^^ cms data =
      syndrome data ^^^ offset data.length := by
    rw [hcode, hcms, ← contribution_syndrome, offset]
    ac_rfl
  rw [computeCrc16Pico, ← BitVec.xor_eq_zero_iff, hsum, BitVec.xor_eq_zero_iff]

example : syndrome [0x00, 0x42] = offset 2 := by decide +kernel

/-- The nine digits of the catalogues of CRCs. -/
theorem crc16_of_digits :
    computeCrc16Pico [0x31, 0x32, 0x33, 0x34, 0x35, 0x36, 0x37, 0x38, 0x39] = 0x4B37
      ∧ cms [0x31, 0x32, 0x33, 0x34, 0x35, 0x36, 0x37, 0x38, 0x39] = 0xAEE7#16 := by
  decide +kernel

end Mcp251xfd

end LeosSdk
