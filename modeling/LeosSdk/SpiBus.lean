import Mathlib.Data.List.Basic

/-!
# Chips on a serial bus

A chip listens while its select line is low and takes what is clocked
meanwhile for one frame. Each chip has a history of its own: the master swaps
bytes with whichever chips are selected, and what they have on their side of
the wire is the same sequence of swaps (`ChipLog.clock`).

Nothing here says who drives the lines. A board moves each chip by the level
of its select line (`ChipLog.Follows`) and clocks all of them; a line nobody
drives may have any level, so its chip may do anything, and a board that is to
promise something must have driven it.

A transfer selects a chip that was not, clocks and releases it, and leaves one
more frame (`ChipLog.transfer`); a chip that is not selected sees nothing of
it (`ChipLog.clock_idle`). These two are what the boards' results rest on: a
transfer for one chip adds a frame there, and leaves the histories of all the
others as they are.
-/

namespace LeosSdk

/-- A byte each way, from the master and to it. -/
structure Swap where
  mosi : UInt8
  miso : UInt8
deriving DecidableEq, Repr

/-- The frames of a chip's earlier selections, oldest first, and that of the
present one. -/
structure ChipLog where
  frames : List (List Swap)
  current : Option (List Swap)
deriving DecidableEq, Repr

namespace ChipLog

variable {c c' : ChipLog} {xs ys : List Swap}

def select (c : ChipLog) : ChipLog := { c with current := some (c.current.getD []) }

def release (c : ChipLog) : ChipLog := ⟨c.frames ++ c.current.toList, none⟩

/-- Bytes on the wire. Only a selected chip takes them into its frame. -/
def clock (xs : List Swap) (c : ChipLog) : ChipLog :=
  { c with current := c.current.map (· ++ xs) }

/-- One more frame. -/
def add (c : ChipLog) (f : List Swap) : ChipLog := ⟨c.frames ++ [f], none⟩

/-- What a chip makes of the level of its select line: high ends its frame and
low begins one. Of a line that nobody drives it may make anything. -/
def Follows (level : Option Bool) (c c' : ChipLog) : Prop :=
  (level = some true → c' = c.release) ∧ (level = some false → c' = c.select)

theorem clock_idle (h : c.current = none) (xs : List Swap) : c.clock xs = c := by
  obtain ⟨frames, current⟩ := c
  obtain rfl := h
  rfl

theorem release_idle (h : c.current = none) : c.release = c := by
  obtain ⟨frames, current⟩ := c
  obtain rfl := h
  simp [release]

@[simp] theorem clock_nil (c : ChipLog) : c.clock [] = c := by
  obtain ⟨frames, current⟩ := c
  simp [clock]

@[simp] theorem clock_clock (c : ChipLog) : (c.clock xs).clock ys = c.clock (xs ++ ys) := by
  simp [clock, Function.comp_def]

/-- Selected, clocked and released, a chip that was not listening has one more
frame, the bytes of the transfer. -/
theorem transfer (h : c.current = none) (xs : List Swap) :
    (c.select.clock xs).release = c.add xs := by
  simp [select, clock, release, add, h]

end ChipLog

end LeosSdk
