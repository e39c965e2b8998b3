import Mathlib.Logic.Function.Basic
import Mathlib.Data.List.FinRange

/-!
# Slot tables

A fixed array of optional entries, searched from its first index on. An entry
is put into the first free slot and taken out of the slot it was found in.
`Has` is membership; while the entries are `Distinct` the table behaves as a
set of at most `n` entries.

Searching goes through the indices in order. A search that succeeds comes with
its slot, a free slot is found where there is one, and what a search finds
depends on the entries in the table alone (`findFirst_congr`). What putting
and taking do to membership is said in one equation each (`has_put`,
`has_clear`); the second needs the entries to be distinct, since an entry that
was in two slots would still be there.

Nothing here names a particular program.
-/

namespace LeosSdk

/-- `n` slots, each empty or holding an entry. -/
abbrev Slots (n : Nat) (α : Type) := Fin n → Option α

namespace Slots

variable {n : Nat} {α : Type} {t : Slots n α} {i j : Fin n} {a b : α} {p q : α → Bool}

def empty : Slots n α := fun _ => none

/-- The first entry satisfying `p`, with its slot. -/
def findFirst (t : Slots n α) (p : α → Bool) : Option (Fin n × α) :=
  (List.finRange n).findSome? fun i => ((t i).filter p).map fun a => (i, a)

def firstFree (t : Slots n α) : Option (Fin n) :=
  (List.finRange n).find? fun i => (t i).isNone

def put (t : Slots n α) (i : Fin n) (a : α) : Slots n α := Function.update t i (some a)

def clear (t : Slots n α) (i : Fin n) : Slots n α := Function.update t i none

/-- `a` is in some slot. -/
def Has (t : Slots n α) (a : α) : Prop := ∃ i, t i = some a

instance [DecidableEq α] : Decidable (t.Has a) :=
  inferInstanceAs (Decidable (∃ i, t i = some a))

/-- No entry is in two slots. -/
def Distinct (t : Slots n α) : Prop := ∀ ⦃i j a⦄, t i = some a → t j = some a → i = j

/-! ## Searching -/

theorem findFirst_some (h : t.findFirst p = some (i, a)) : t i = some a ∧ p a = true := by
  obtain ⟨j, -, hj⟩ := List.exists_of_findSome?_eq_some h
  obtain ⟨b, hb, heq⟩ := Option.map_eq_some_iff.mp hj
  obtain ⟨rfl, rfl⟩ := Prod.mk.inj heq
  exact Option.filter_eq_some_iff.mp hb

theorem findFirst_congr (h : ∀ a, t.Has a → p a = q a) : t.findFirst p = t.findFirst q := by
  unfold findFirst
  congr 1
  funext i
  cases hi : t i with
  | none => rfl
  | some a => simp only [Option.filter_some, h a ⟨i, hi⟩]

theorem firstFree_some (h : t.firstFree = some i) : t i = none :=
  Option.isNone_iff_eq_none.mp (List.find?_some (p := fun i => (t i).isNone) h)

theorem exists_firstFree (h : t i = none) : ∃ j, t.firstFree = some j := by
  refine Option.isSome_iff_exists.mp (List.find?_isSome.mpr ⟨i, List.mem_finRange i, ?_⟩)
  simp [h]

/-! ## Putting and taking -/

theorem has_empty : ¬(empty : Slots n α).Has a := by
  intro h
  rcases h with ⟨i, hi⟩
  cases hi

theorem distinct_empty : (empty : Slots n α).Distinct := by
  intro i j a hi
  cases hi

theorem has_put (h : t i = none) : (t.put i a).Has b ↔ b = a ∨ t.Has b := by
  constructor
  · intro h
    rcases h with ⟨j, hj⟩
    by_cases hji : j = i
    · subst hji
      rw [put, Function.update_self] at hj
      exact .inl (Option.some.inj hj).symm
    · rw [put, Function.update_of_ne hji] at hj
      exact .inr ⟨j, hj⟩
  · intro h
    rcases h with rfl | ⟨j, hj⟩
    · exact ⟨i, Function.update_self ..⟩
    · have hji : j ≠ i := by
        rintro rfl
        rw [h] at hj
        cases hj
      exact ⟨j, by rw [put, Function.update_of_ne hji, hj]⟩

theorem has_clear (hd : t.Distinct) (h : t i = some a) :
    (t.clear i).Has b ↔ b ≠ a ∧ t.Has b := by
  constructor
  · intro h
    rcases h with ⟨j, hj⟩
    by_cases hji : j = i
    · subst hji
      rw [clear, Function.update_self] at hj
      cases hj
    · rw [clear, Function.update_of_ne hji] at hj
      refine ⟨?_, j, hj⟩
      rintro rfl
      exact hji (hd hj h)
  · intro h
    rcases h with ⟨hne, j, hj⟩
    have hji : j ≠ i := by
      rintro rfl
      exact hne (Option.some.inj (hj.symm.trans h))
    exact ⟨j, by rw [clear, Function.update_of_ne hji, hj]⟩

theorem distinct_put (hd : t.Distinct) (ha : ¬t.Has a) : (t.put i a).Distinct := by
  intro j k b hj hk
  by_cases hji : j = i <;> by_cases hki : k = i
  · rw [hji, hki]
  · subst hji
    rw [put, Function.update_self] at hj
    rw [put, Function.update_of_ne hki] at hk
    exact absurd ⟨k, hk.trans hj.symm⟩ ha
  · subst hki
    rw [put, Function.update_of_ne hji] at hj
    rw [put, Function.update_self] at hk
    exact absurd ⟨j, hj.trans hk.symm⟩ ha
  · rw [put, Function.update_of_ne hji] at hj
    rw [put, Function.update_of_ne hki] at hk
    exact hd hj hk

theorem distinct_clear (hd : t.Distinct) : (t.clear i).Distinct := by
  intro j k b hj hk
  have hne : ∀ {l}, t.clear i l = some b → t l = some b := by
    intro l hl
    by_cases hli : l = i
    · subst hli
      rw [clear, Function.update_self] at hl
      cases hl
    · rwa [clear, Function.update_of_ne hli] at hl
  exact hd (hne hj) (hne hk)

theorem clear_self : t.clear i i = none := Function.update_self ..

end Slots

end LeosSdk
