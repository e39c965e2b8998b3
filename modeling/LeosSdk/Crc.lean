import Mathlib.Logic.Function.Iterate

/-!
# Cyclic redundancy checks, bit by bit

A CRC register of any width and generator, fed one message bit at a time from
the top (`remainder`), and its mirror image, fed from the bottom
(`remainderLow`). The two are one machine seen from its two ends
(`remainderLow_reverse`), which is shown for one step and carries over to any
message.

The register is linear over exclusive or: what a message leaves in it is what
the start leaves, and one contribution for each bit that is set, which depends
only on how many bits come after it (`remainder_eq`). For that a step is
written as a shift without a message bit and the generator picked by the bit
(`step_eq`), and both parts distribute over exclusive or.

A program that works on whole words puts a word into the register at once and
then moves it. That this feeds the word's bits one after the other is
`shiftLow_iterate`.
-/

namespace LeosSdk

namespace Crc

variable {w : Nat} (poly : BitVec w)

/-! ## The register -/

/-- One step without a message bit. -/
def shift (c : BitVec w) : BitVec w :=
  if c.msb then (c <<< 1) ^^^ poly else c <<< 1

/-- One step of a register whose top bit meets the message bit. -/
def step (c : BitVec w) (b : Bool) : BitVec w :=
  if c.msb ^^ b then (c <<< 1) ^^^ poly else c <<< 1

/-- The register after a message, first bit first. -/
def remainder (c : BitVec w) (bits : List Bool) : BitVec w := bits.foldl (step poly) c

/-- The mirrored steps: the register moves down and its lowest bit meets
the message. -/
def shiftLow (c : BitVec w) : BitVec w :=
  if c.getLsbD 0 then (c >>> 1) ^^^ poly else c >>> 1

def stepLow (c : BitVec w) (b : Bool) : BitVec w :=
  if c.getLsbD 0 ^^ b then (c >>> 1) ^^^ poly else c >>> 1

def remainderLow (c : BitVec w) (bits : List Bool) : BitVec w := bits.foldl (stepLow poly) c

/-! ## The mirror -/

theorem reverse_xor (a b : BitVec w) : (a ^^^ b).reverse = a.reverse ^^^ b.reverse := by
  ext i hi
  simp [BitVec.getElem_reverse, BitVec.getMsbD_xor]

theorem reverse_ushiftRight_one (c : BitVec w) : (c >>> 1).reverse = c.reverse <<< 1 := by
  ext i hi
  simp [BitVec.getElem_reverse, BitVec.getElem_shiftLeft, BitVec.getMsbD_ushiftRight, hi]

theorem stepLow_reverse (c : BitVec w) (b : Bool) :
    (stepLow poly c b).reverse = step poly.reverse c.reverse b := by
  simp only [stepLow, step, BitVec.msb_reverse]
  split
  · rw [reverse_xor, reverse_ushiftRight_one]
  · rw [reverse_ushiftRight_one]

/-- A register fed from the bottom is the mirror image of one fed from the
top. -/
theorem remainderLow_reverse (c : BitVec w) (bits : List Bool) :
    (remainderLow poly c bits).reverse = remainder poly.reverse c.reverse bits := by
  induction bits generalizing c with
  | nil => rfl
  | cons b bits ih =>
      simp only [remainderLow, remainder, List.foldl_cons] at ih ⊢
      rw [ih, stepLow_reverse]

/-! ## A word at a time -/

theorem shiftLow_xor_low (c x : BitVec w) :
    shiftLow poly (c ^^^ x) = stepLow poly c (x.getLsbD 0) ^^^ (x >>> 1) := by
  simp only [shiftLow, stepLow, BitVec.getLsbD_xor, BitVec.ushiftRight_xor_distrib]
  split
  · rw [BitVec.xor_assoc, BitVec.xor_comm (x >>> 1), ← BitVec.xor_assoc]
  · rfl

/-- Putting a word into the register and moving it down `k` times feeds its
`k` low bits, lowest first. -/
theorem shiftLow_iterate (c x : BitVec w) (k : Nat) :
    (shiftLow poly)^[k] (c ^^^ x) =
      remainderLow poly c ((List.range k).map x.getLsbD) ^^^ (x >>> k) := by
  induction k with
  | zero => simp [remainderLow]
  | succ k ih =>
      rw [Function.iterate_succ_apply', ih, shiftLow_xor_low, List.range_succ, List.map_append,
        remainderLow, remainderLow, List.foldl_append, ← BitVec.shiftRight_add]
      simp [BitVec.getLsbD_ushiftRight]

/-! ## Linearity -/

/-- What a bit puts into the register. -/
def pick (b : Bool) : BitVec w := if b then poly else 0#w

theorem pick_xor (a b : Bool) : pick poly (a ^^ b) = pick poly a ^^^ pick poly b := by
  cases a <;> cases b <;> simp [pick]

theorem pick_xor_word (p q : BitVec w) (b : Bool) : pick (p ^^^ q) b = pick p b ^^^ pick q b := by
  cases b <;> simp [pick]

theorem pick_reverse (b : Bool) : (pick poly b).reverse = pick poly.reverse b := by
  cases b
  · exact BitVec.reverse_eq_zero_iff.mpr rfl
  · rfl

theorem shift_eq (c : BitVec w) : shift poly c = (c <<< 1) ^^^ pick poly c.msb := by
  simp only [shift, pick]
  split <;> simp

theorem step_eq (c : BitVec w) (b : Bool) : step poly c b = shift poly c ^^^ pick poly b := by
  rw [shift_eq, BitVec.xor_assoc, ← pick_xor, step, pick]
  split <;> simp

theorem shift_xor (a b : BitVec w) : shift poly (a ^^^ b) = shift poly a ^^^ shift poly b := by
  simp only [shift_eq, BitVec.msb_xor, BitVec.shiftLeft_xor_distrib, pick_xor]
  ac_rfl

theorem shift_zero : shift poly 0#w = 0#w := by
  simp [shift]

theorem shift_iterate_zero (k : Nat) : (shift poly)^[k] 0#w = 0#w := by
  induction k with
  | zero => rfl
  | succ k ih => rw [Function.iterate_succ_apply, shift_zero, ih]

theorem shift_iterate_xor (k : Nat) (a b : BitVec w) :
    (shift poly)^[k] (a ^^^ b) = (shift poly)^[k] a ^^^ (shift poly)^[k] b := by
  induction k with
  | zero => rfl
  | succ k ih => simp only [Function.iterate_succ_apply', ih, shift_xor]

/-- What a set bit leaves with `k` bits after it: the generator, moved on `k`
times. -/
def power (k : Nat) : BitVec w := (shift poly)^[k] poly

/-- What the set bits of a message leave, with `k` bits after the message. -/
def contribution (k : Nat) : List Bool → BitVec w
  | [] => 0#w
  | b :: bits => pick (power poly (bits.length + k)) b ^^^ contribution k bits

/-- What a message leaves in the register: what the start leaves, and the
contributions of its set bits. By induction on the message. -/
theorem remainder_eq (c : BitVec w) (bits : List Bool) :
    remainder poly c bits = (shift poly)^[bits.length] c ^^^ contribution poly 0 bits := by
  induction bits generalizing c with
  | nil => simp [remainder, contribution]
  | cons b bits ih =>
      have hbit : (shift poly)^[bits.length] (pick poly b)
          = pick (power poly bits.length) b := by
        cases b
        · exact shift_iterate_zero poly _
        · rfl
      rw [remainder, List.foldl_cons, ← remainder, ih, step_eq, shift_iterate_xor, hbit,
        contribution, List.length_cons, Function.iterate_succ_apply, Nat.add_zero,
        BitVec.xor_assoc]

theorem contribution_append (k : Nat) (xs ys : List Bool) :
    contribution poly k (xs ++ ys) =
      contribution poly (ys.length + k) xs ^^^ contribution poly k ys := by
  induction xs with
  | nil => simp [contribution]
  | cons b xs ih =>
      rw [List.cons_append, contribution, contribution, ih, List.length_append,
        Nat.add_assoc, BitVec.xor_assoc]

end Crc

end LeosSdk
