import LeosSdk.Crc
import Mathlib.Data.List.Range
import Mathlib.Algebra.Ring.Parity

/-!
# Which errors a cyclic redundancy check notices

Two messages of one length leave the same register exactly if the bits in
which they differ, fed to a cleared register, leave it cleared
(`remainder_eq_iff`). So an error goes unnoticed because of its own bits and
never because of the message around it.

An odd generator makes the register's steps reversible (`shift_injective`).
Then a burst no longer than the register never cancels out
(`true_not_mem_of_burst`), and two flipped bits cancel out only if the
register comes back to the generator between them (`remainder_pair`). Three
never do if the generator has an odd number of bits (`parity_remainder`).

Reversibility takes care of everything around the flipped bits: zeros in front
leave a cleared register cleared, and from zeros behind one goes back to a
register cleared right after the last flipped bit. In a burst what is left is
at most one register's width of bits, and by the mirror image these are the
register's own contents (`remainderLow_word_eq_zero_iff`), so they are all
clear. The parity of an odd number of bits in the generator follows the parity
of the bits fed, which excludes every odd number of flips at once.
-/

namespace LeosSdk

namespace Crc

variable {w : Nat} {poly : BitVec w}

/-! ## Only the difference counts -/

/-- Where two messages differ. -/
def flips (xs ys : List Bool) : List Bool := List.zipWith xor xs ys

theorem step_xor (a b : BitVec w) (x y : Bool) :
    step poly (a ^^^ b) (x ^^ y) = step poly a x ^^^ step poly b y := by
  simp only [step_eq, shift_xor, pick_xor]
  ac_rfl

theorem remainder_flips (a b : BitVec w) {xs ys : List Bool} (h : xs.length = ys.length) :
    remainder poly (a ^^^ b) (flips xs ys) = remainder poly a xs ^^^ remainder poly b ys := by
  induction xs generalizing a b ys with
  | nil =>
      obtain rfl := List.length_eq_zero_iff.mp h.symm
      rfl
  | cons x xs ih =>
      cases ys with
      | nil => cases h
      | cons y ys =>
          have htail : xs.length = ys.length := by simpa using h
          have := ih (step poly a x) (step poly b y) htail
          rw [← step_xor] at this
          exact this

/-- Only the difference counts: two messages leave the same register just if
the bits in which they differ leave a cleared one cleared. -/
theorem remainder_eq_iff (c : BitVec w) {xs ys : List Bool} (h : xs.length = ys.length) :
    remainder poly c xs = remainder poly c ys ↔ remainder poly 0#w (flips xs ys) = 0#w := by
  have hflips : remainder poly (c ^^^ c) (flips xs ys)
      = remainder poly c xs ^^^ remainder poly c ys := remainder_flips c c h
  rw [BitVec.xor_self] at hflips
  rw [hflips, BitVec.xor_eq_zero_iff]

theorem length_flips {xs ys : List Bool} (h : xs.length = ys.length) :
    (flips xs ys).length = xs.length := by
  simp [flips, h]

/-- Messages with no flipped bit are equal. -/
theorem eq_of_flips {xs ys : List Bool} (h : xs.length = ys.length)
    (hnone : true ∉ flips xs ys) : xs = ys := by
  induction xs generalizing ys with
  | nil => exact (List.length_eq_zero_iff.mp h.symm).symm
  | cons x xs ih =>
      cases ys with
      | nil => cases h
      | cons y ys =>
          have hhead : (x ^^ y) = false := by
            cases hflip : x ^^ y with
            | false => rfl
            | true => exact absurd (by simp [flips, hflip]) hnone
          have htail : true ∉ flips xs ys := fun hm =>
            hnone (List.mem_cons_of_mem _ hm)
          have hxy : x = y := by simpa using hhead
          rw [hxy, ih (by simpa using h) htail]

/-! ## Zeros around the flipped bits -/

theorem remainder_append (c : BitVec w) (xs ys : List Bool) :
    remainder poly c (xs ++ ys) = remainder poly (remainder poly c xs) ys :=
  List.foldl_append

theorem step_false (c : BitVec w) : step poly c false = shift poly c := by
  rw [step_eq]
  simp [pick]

theorem remainder_zeros (c : BitVec w) (k : Nat) :
    remainder poly c (List.replicate k false) = (shift poly)^[k] c := by
  induction k generalizing c with
  | zero => rfl
  | succ k ih =>
      rw [List.replicate_succ, Function.iterate_succ_apply, ← ih, ← step_false]
      rfl

theorem remainder_zero_zeros (k : Nat) :
    remainder poly 0#w (List.replicate k false) = 0#w := by
  rw [remainder_zeros, shift_iterate_zero]

/-! ## An odd generator -/

theorem shiftLeft_one_low (c : BitVec w) : (c <<< 1).getLsbD 0 = false := by
  simp

theorem getLsbD_shiftLeft_one {c : BitVec w} {i : Nat} (hi : i + 1 < w) :
    (c <<< 1).getLsbD (i + 1) = c.getLsbD i := by
  rw [BitVec.getLsbD_shiftLeft]
  simp [hi]

/-- A step whose lowest bit comes out clear did not take the generator in. -/
theorem step_clear (hpoly : poly.getLsbD 0 = true) {c : BitVec w} {b : Bool}
    (h : (step poly c b).getLsbD 0 = false) : c.msb = b ∧ step poly c b = c <<< 1 := by
  unfold step at h ⊢
  split at h
  · rw [BitVec.getLsbD_xor, shiftLeft_one_low, hpoly] at h
    cases h
  · next hx =>
      rw [if_neg hx]
      exact ⟨by simpa using hx, rfl⟩

theorem eq_zero_of_shift (hpoly : poly.getLsbD 0 = true) {r : BitVec w}
    (h : shift poly r = 0#w) : r = 0#w := by
  rw [← step_false] at h
  obtain ⟨hmsb, hshift⟩ := step_clear hpoly (c := r) (b := false) (by rw [h]; simp)
  rw [hshift] at h
  ext i hi
  by_cases hlast : i + 1 = w
  · have htop : r.msb = r[i] := by
      rw [BitVec.msb_eq_getLsbD_last, show w - 1 = i by omega, BitVec.getLsbD_eq_getElem hi]
    rw [← htop, hmsb]
    simp
  · have hbit := congrArg (·.getLsbD (i + 1)) h
    simp only [getLsbD_shiftLeft_one (c := r) (i := i) (by omega)] at hbit
    simpa [hi] using hbit

/-- The lowest bit after a step tells whether the generator was taken in, so
the step can be undone. -/
theorem shift_injective (hpoly : poly.getLsbD 0 = true) : Function.Injective (shift poly) := by
  intro a b h
  have hzero : shift poly (a ^^^ b) = 0#w := by
    rw [shift_xor, h, BitVec.xor_self]
  exact BitVec.xor_eq_zero_iff.mp (eq_zero_of_shift hpoly hzero)

theorem eq_zero_of_shift_iterate (hpoly : poly.getLsbD 0 = true) {c : BitVec w} {k : Nat}
    (h : (shift poly)^[k] c = 0#w) : c = 0#w :=
  (shift_injective hpoly).iterate k (h.trans (shift_iterate_zero poly k).symm)

/-! ## A word that clears the register -/

theorem shiftLow_reverse (c : BitVec w) :
    (shiftLow poly c).reverse = shift poly.reverse c.reverse := by
  have := stepLow_reverse poly c false
  rw [step_false] at this
  simpa [stepLow, shiftLow] using this

theorem shiftLow_injective (hpoly : poly.msb = true) : Function.Injective (shiftLow poly) := by
  intro a b h
  have hodd : poly.reverse.getLsbD 0 = true := by
    rwa [← BitVec.msb_reverse, BitVec.reverse_reverse_eq]
  have hrev : shift poly.reverse a.reverse = shift poly.reverse b.reverse := by
    rw [← shiftLow_reverse, ← shiftLow_reverse, h]
  have := shift_injective hodd hrev
  rw [← BitVec.reverse_reverse_eq (x := a), this, BitVec.reverse_reverse_eq]

/-- Of all words only the register's own contents clear it. -/
theorem remainderLow_word_eq_zero_iff (hpoly : poly.msb = true) (c x : BitVec w) :
    remainderLow poly c ((List.range w).map x.getLsbD) = 0#w ↔ c = x := by
  have hgone : x >>> w = 0#w := by
    ext i hi
    simp
  have hzero : (shiftLow poly)^[w] 0#w = 0#w := by
    have hfix : shiftLow poly 0#w = 0#w := by simp [shiftLow]
    exact Function.iterate_fixed hfix w
  have hword := shiftLow_iterate poly c x w
  rw [hgone, BitVec.xor_zero] at hword
  rw [← hword, ← BitVec.xor_eq_zero_iff (x := c)]
  constructor
  · intro h
    exact (shiftLow_injective hpoly).iterate w (h.trans hzero.symm)
  · intro h
    rw [h, hzero]

/-! ## Bursts -/

theorem eq_replicate_of_not_mem {bits : List Bool} (h : true ∉ bits) :
    bits = List.replicate bits.length false :=
  List.eq_replicate_iff.mpr ⟨rfl, fun b hb => by
    cases b with
    | false => rfl
    | true => exact absurd hb h⟩

/-- If the register's bits below the top `m` are clear after at most `w - m`
bits, none of these was set. -/
theorem clear_of_remainder_low (hpoly : poly.getLsbD 0 = true) {bits : List Bool} {m : Nat}
    (hlen : bits.length + m ≤ w)
    (hlow : ∀ i, i + m < w → (remainder poly 0#w bits).getLsbD i = false) :
    true ∉ bits := by
  induction bits using List.reverseRecOn generalizing m with
  | nil => simp
  | append_singleton bits b ih =>
      have hlast : remainder poly 0#w (bits ++ [b])
          = step poly (remainder poly 0#w bits) b := remainder_append _ _ _
      rw [List.length_append, List.length_singleton] at hlen
      rw [hlast] at hlow
      obtain ⟨hmsb, hshift⟩ := step_clear hpoly (hlow 0 (by omega))
      have hbits : true ∉ bits := by
        refine ih (m := m + 1) (by omega) fun i hi => ?_
        have := hlow (i + 1) (by omega)
        rwa [hshift, getLsbD_shiftLeft_one (by omega)] at this
      rw [eq_replicate_of_not_mem hbits, remainder_zero_zeros] at hmsb
      have hb : b = false := by
        rw [← hmsb]
        simp [BitVec.msb]
      simp [hbits, hb]

/-- Outside `n` consecutive bits none is set. -/
def Burst (n : Nat) (bits : List Bool) : Prop :=
  ∃ i, true ∉ bits.take i ∧ true ∉ bits.drop (i + n)

/-- Bits that leave a cleared register cleared are not set within one burst
the register can hold. -/
theorem true_not_mem_of_burst (hpoly : poly.getLsbD 0 = true) {bits : List Bool}
    (hburst : Burst w bits) (h : remainder poly 0#w bits = 0#w) : true ∉ bits := by
  obtain ⟨i, hfront, hback⟩ := hburst
  have hsplit : bits = bits.take i ++ ((bits.drop i).take w ++ bits.drop (i + w)) := by
    rw [← List.drop_drop, List.take_append_drop, List.take_append_drop]
  rw [hsplit, remainder_append, remainder_append, eq_replicate_of_not_mem hfront,
    eq_replicate_of_not_mem hback, remainder_zero_zeros, remainder_zeros] at h
  have hmiddle := eq_zero_of_shift_iterate hpoly h
  have hnone : true ∉ (bits.drop i).take w :=
    clear_of_remainder_low hpoly (m := 0) (List.length_take_le ..) fun i _ => by simp [hmiddle]
  rw [hsplit, List.mem_append, List.mem_append]
  rintro (hm | hm | hm)
  · exact hfront hm
  · exact hnone hm
  · exact hback hm

/-! ## Two flipped bits -/

/-- Two flipped bits, `j` bits between them, cancel out only if the register
is back at the generator when the second one comes. -/
theorem remainder_pair (hpoly : poly.getLsbD 0 = true) {i j k : Nat}
    (h : remainder poly 0#w (List.replicate i false ++ true :: (List.replicate j false
      ++ true :: List.replicate k false)) = 0#w) :
    (shift poly)^[j + 1] poly = poly := by
  have hone : ∀ c : BitVec w, ∀ bits, remainder poly c (true :: bits)
      = remainder poly (shift poly c ^^^ poly) bits := fun c bits => by
    rw [← show step poly c true = shift poly c ^^^ poly from step_eq poly c true]
    rfl
  rw [remainder_append, remainder_zero_zeros, hone, shift_zero, BitVec.zero_xor,
    remainder_append, remainder_zeros, hone, remainder_zeros] at h
  rw [Function.iterate_succ_apply']
  exact BitVec.xor_eq_zero_iff.mp (eq_zero_of_shift_iterate hpoly h)

/-! ## An odd number of flipped bits -/

/-- The parity of the first `k` bits of a register. -/
def parityBelow (c : BitVec w) : Nat → Bool
  | 0 => false
  | k + 1 => parityBelow c k ^^ c.getLsbD k

def parity (c : BitVec w) : Bool := parityBelow c w

theorem parityBelow_xor (a b : BitVec w) (k : Nat) :
    parityBelow (a ^^^ b) k = (parityBelow a k ^^ parityBelow b k) := by
  induction k with
  | zero => rfl
  | succ k ih =>
      simp only [parityBelow, ih, BitVec.getLsbD_xor, Bool.xor_assoc, Bool.xor_left_comm]

theorem parity_zero : parity 0#w = false := by
  have h : ∀ k, parityBelow 0#w k = false := fun k => by
    induction k with
    | zero => rfl
    | succ k ih => rw [parityBelow, ih]; simp
  exact h w

theorem parityBelow_shiftLeft (c : BitVec w) {k : Nat} (hk : k < w) :
    parityBelow (c <<< 1) (k + 1) = parityBelow c k := by
  induction k with
  | zero => simp [parityBelow]
  | succ k ih =>
      rw [parityBelow, ih (by omega), parityBelow, getLsbD_shiftLeft_one hk]

theorem parity_shiftLeft (c : BitVec w) : parity (c <<< 1) = (parity c ^^ c.msb) := by
  cases w with
  | zero => simp [parity, parityBelow, BitVec.msb]
  | succ n =>
      rw [parity, parityBelow_shiftLeft c (Nat.lt_succ_self n), parity, parityBelow,
        BitVec.msb_eq_getLsbD_last]
      simp

theorem parity_step (hpoly : parity poly = true) (c : BitVec w) (b : Bool) :
    parity (step poly c b) = (parity c ^^ b) := by
  have hpick : ∀ x, parity (pick poly x) = x := fun x => by
    cases x with
    | false => exact parity_zero
    | true => exact hpoly
  have hxor : ∀ x y : BitVec w, parity (x ^^^ y) = (parity x ^^ parity y) := fun x y =>
    parityBelow_xor x y w
  rw [step_eq, shift_eq, hxor, hxor, hpick, hpick, parity_shiftLeft]
  cases parity c <;> cases c.msb <;> cases b <;> rfl

/-- With an odd number of bits in the generator, the register's parity is
that of the bits fed to it. -/
theorem parity_remainder (hpoly : parity poly = true) (c : BitVec w) (bits : List Bool) :
    parity (remainder poly c bits) = (parity c ^^ decide (Odd (bits.count true))) := by
  induction bits generalizing c with
  | nil => simp [remainder]
  | cons b bits ih =>
      rw [remainder, List.foldl_cons, ← remainder, ih, parity_step hpoly]
      cases b with
      | false => simp
      | true =>
          simp only [List.count_cons_self, Nat.odd_add_one, decide_not]
          cases parity c <;> simp

/-! ## At least four flipped bits -/

theorem split_at_true {bits : List Bool} {n : Nat} (h : bits.count true = n + 1) :
    ∃ i rest, bits = List.replicate i false ++ true :: rest ∧ rest.count true = n := by
  induction bits with
  | nil => cases h
  | cons b bits ih =>
      cases b with
      | true =>
          rw [List.count_cons_self] at h
          exact ⟨0, bits, rfl, Nat.succ.inj h⟩
      | false =>
          obtain ⟨i, rest, rfl, hrest⟩ := ih (by simpa using h)
          exact ⟨i + 1, rest, rfl, hrest⟩

/-- A generator that is odd, has an odd number of bits below its top and is
not met again for `n` steps: of at most `n` bits that leave a cleared
register cleared, none or at least four are set. -/
theorem four_le_count (hpoly : poly.getLsbD 0 = true) (hparity : parity poly = true) {n : Nat}
    (hreturn : ∀ j, j + 1 < n → (shift poly)^[j + 1] poly ≠ poly) {bits : List Bool}
    (hlen : bits.length ≤ n) (hsome : true ∈ bits) (h : remainder poly 0#w bits = 0#w) :
    4 ≤ bits.count true := by
  have heven : ¬ Odd (bits.count true) := fun hodd => by
    have := parity_remainder hparity 0#w bits
    rw [h, parity_zero] at this
    simp [hodd] at this
  have hpos : 0 < bits.count true := List.count_pos_iff.mpr hsome
  have htwo : bits.count true ≠ 2 := fun htwo => by
    obtain ⟨i, rest, rfl, hone⟩ := split_at_true htwo
    obtain ⟨j, last, rfl, hzero⟩ := split_at_true hone
    rw [eq_replicate_of_not_mem (List.count_eq_zero.mp hzero)] at h
    refine hreturn j ?_ (remainder_pair hpoly h)
    simp only [List.length_append, List.length_replicate, List.length_cons] at hlen
    omega
  rw [Nat.odd_iff] at heven
  omega

end Crc

end LeosSdk
