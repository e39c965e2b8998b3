import Mathlib.Data.Finset.Basic

/-!
# Arenas

An allocator over one area of memory, as its callers see it: the blocks it has
handed out and not got back never overlap, because a block is handed out only
where it overlaps none of them. `Arena.init` starts over with nothing handed
out, whatever was before.

That the blocks do not overlap is a field of the structure, so `alloc` asks
for a proof that the block is free (`Fresh`) and `free` keeps what there was;
which block is handed out is the allocator's choice and left open. Blocks are
of positive size, so a block overlaps itself and a fresh one was not handed
out before.

A component that takes several blocks and gives them back takes them one after
the other (`Allocates`), and what it holds then is a list of blocks; the
lemmas say which blocks are handed out after it took or gave back such a list.

Nothing here names a particular program.
-/

namespace LeosSdk

structure Block where
  addr : Nat
  size : Nat
  pos : 0 < size
deriving DecidableEq

/-- The blocks have a byte in common. -/
def Block.Overlaps (b b' : Block) : Prop :=
  b.addr < b'.addr + b'.size ∧ b'.addr < b.addr + b.size

instance (b b' : Block) : Decidable (b.Overlaps b') :=
  inferInstanceAs (Decidable (_ ∧ _))

theorem Block.overlaps_self (b : Block) : b.Overlaps b :=
  ⟨Nat.lt_add_of_pos_right b.pos, Nat.lt_add_of_pos_right b.pos⟩

theorem Block.Overlaps.symm {b b' : Block} (h : b.Overlaps b') : b'.Overlaps b :=
  ⟨h.2, h.1⟩

/-- The blocks handed out and not got back. -/
structure Arena where
  live : Finset Block
  apart : ∀ b ∈ live, ∀ b' ∈ live, b ≠ b' → ¬b.Overlaps b'

namespace Arena

variable {h h' : Arena} {b b' : Block} {bs : List Block}

/-- Nothing handed out. -/
def init : Arena := ⟨∅, by simp⟩

/-- `b` may be handed out. -/
def Fresh (h : Arena) (b : Block) : Prop := ∀ b' ∈ h.live, ¬b.Overlaps b'

instance (h : Arena) (b : Block) : Decidable (h.Fresh b) :=
  inferInstanceAs (Decidable (∀ b' ∈ h.live, _))

theorem Fresh.notMem (hb : h.Fresh b) : b ∉ h.live := fun hm => hb b hm b.overlaps_self

def alloc (h : Arena) (b : Block) (hb : h.Fresh b) : Arena where
  live := insert b h.live
  apart := by
    intro c hc c' hc' hne
    rcases Finset.mem_insert.mp hc with hc | hc <;>
      rcases Finset.mem_insert.mp hc' with hc' | hc'
    · exact absurd (hc.trans hc'.symm) hne
    · exact hc ▸ hb c' hc'
    · intro ho
      rw [hc'] at ho
      exact hb c hc ho.symm
    · exact h.apart c hc c' hc' hne

def free (h : Arena) (b : Block) : Arena where
  live := h.live.erase b
  apart c hc c' hc' :=
    h.apart c (Finset.mem_of_mem_erase hc) c' (Finset.mem_of_mem_erase hc')

/-- The blocks are handed out one after the other. -/
inductive Allocates : Arena → List Block → Arena → Prop
  | nil (h : Arena) : Allocates h [] h
  | cons {h h' : Arena} {b : Block} {bs : List Block} (hb : h.Fresh b)
      (hbs : Allocates (h.alloc b hb) bs h') : Allocates h (b :: bs) h'

def freeAll (h : Arena) (bs : List Block) : Arena := bs.foldl free h

theorem mem_allocates (ha : Allocates h bs h') : b ∈ h'.live ↔ b ∈ bs ∨ b ∈ h.live := by
  induction ha with
  | nil => simp
  | cons hb _ ih => simp [ih, alloc, or_left_comm, or_assoc]

theorem Allocates.notMem (ha : Allocates h bs h') (hb : b ∈ bs) : b ∉ h.live := by
  induction ha with
  | nil => cases hb
  | cons hfresh _ ih =>
      rcases List.mem_cons.mp hb with rfl | hb
      · exact hfresh.notMem
      · exact fun hm => ih hb (Finset.mem_insert_of_mem hm)

theorem mem_freeAll : b ∈ (h.freeAll bs).live ↔ b ∈ h.live ∧ b ∉ bs := by
  induction bs generalizing h with
  | nil => simp [freeAll]
  | cons c bs ih =>
      show b ∈ ((h.free c).freeAll bs).live ↔ _
      rw [ih]
      simp [free, and_assoc, and_left_comm]

end Arena

end LeosSdk
