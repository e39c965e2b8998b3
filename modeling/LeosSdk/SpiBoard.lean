import LeosSdk.SpiPico

/-!
# The SPI chips of a board

The two radios and any number of CAN controllers of one microcontroller,
each behind a select line of its own, used in any order through the port
functions of `SpiPico`.

A chip is followed from the last operation that set its line up (`since`).
That operation leaves the line high and its chip idle, with the frames the
chip had seen by then (`seenBefore`). From there each transfer of the device
adds one frame, and nothing else adds any: a program that is not about the
line never touches its pin, and a chip whose line is high takes no notice
of the wires. So at any moment of a run a chip has seen the frames of
before and then exactly its own (`chips_see_own`).

What is in a frame depends on the blocks. A run accounts for them too: a
block is ready from the operation that initialises it
(`Wiring.initialises`), and `leos_sx126x_spi_hw_init` does this for one
block in all, that of the radio which was linked when it first ran.
-/

namespace LeosSdk

namespace Pico

open Sx126x (Radio RadioHwConfig PicoPort picoLinkHandle)

/-! ## A board -/

variable {C : Type}

/-- A chip with a select line of its own. -/
inductive Device (C : Type) where
  | radio (r : Radio)
  | can (c : C)
deriving DecidableEq

/-- The configurations of the two radios and any CAN controllers, and the
wires on the board. -/
structure Wiring (C : Type) extends Wires where
  radio : Radio → RadioHwConfig
  can : C → CanHw

def Wiring.select (B : Wiring C) : Device C → UInt32
  | .radio r => (B.radio r).pinNss
  | .can c => (B.can c).pinCs.toUInt32

/-- The pins of the radios beside select lines and the bus. -/
def Wiring.Control (B : Wiring C) (n : UInt32) : Prop :=
  ∃ r, n = (B.radio r).pinReset ∨ n = (B.radio r).pinBusy ∨ n = (B.radio r).pinDio1

/-- Each chip has a select line to itself, no pin has two uses, and each
device is on the block and the pins that its configuration names. -/
structure Board (C : Type) extends Wiring C where
  select_inj : ∀ d d', toWiring.select d = toWiring.select d' → d = d'
  select_control : ∀ d, ¬toWiring.Control (toWiring.select d)
  select_bus : ∀ d, ¬toWires.Bus (toWiring.select d)
  control_bus : ∀ n, toWiring.Control n → ¬toWires.Bus n
  bus_disjoint : ∀ s s' n, n ∈ bus s → n ∈ bus s' → s = s'
  radio_spi : ∀ r, (radio r).platformSpi = some (spiOf (radio r).pinNss)
  radio_bus : ∀ r, bus (spiOf (radio r).pinNss) =
    [(radio r).pinSck, (radio r).pinMosi, (radio r).pinMiso]
  can_spi : ∀ c, spiOf (can c).pinCs.toUInt32 = (can c).spi
  can_bus : ∀ c, bus (can c).spi =
    [(can c).pinSck.toUInt32, (can c).pinMosi.toUInt32, (can c).pinMiso.toUInt32]

inductive Op (C : Type) where
  | linkHandle (r : Radio)
  | spiHwInit
  | gpioInitCtx (r : Radio)
  | gpioDeinitCtx (r : Radio)
  | resetWriteCtx (r : Radio) (value : UInt8)
  | busyReadCtx (r : Radio) (valueNull : Bool)
  | spiWriteReadCtx (r : Radio) (inBuf : Option (List UInt8)) (outBuf : Option Nat)
  | interfaceInit (c : C) (intDevNull : Bool)
  | interfaceTransfer (c : C) (intDevNull : Bool) (txData : Option (List UInt8))

abbrev Op.Ret : Op C → Type
  | .linkHandle _ => Unit
  | .busyReadCtx _ _ => UInt8 × UInt8
  | .spiWriteReadCtx _ _ _ => UInt8 × List UInt8
  | .interfaceInit _ _ => InterfaceResult
  | .interfaceTransfer _ _ _ => InterfaceResult × List UInt8
  | _ => UInt8

def Wiring.program (B : Wiring C) : (o : Op C) → Port o.Ret
  | .linkHandle r => Prog.modify (picoLinkHandle (B.radio r))
  | .spiHwInit => Pico.spiHwInit
  | .gpioInitCtx r => Pico.gpioInitCtx (B.radio r)
  | .gpioDeinitCtx r => Pico.gpioDeinitCtx (B.radio r)
  | .resetWriteCtx r value => Pico.resetWriteCtx (B.radio r) value
  | .busyReadCtx r valueNull => Pico.busyReadCtx (B.radio r) valueNull
  | .spiWriteReadCtx r inBuf outBuf => Pico.spiWriteReadCtx (B.radio r) inBuf outBuf
  | .interfaceInit c intDevNull => Pico.interfaceInit (B.can c) intDevNull
  | .interfaceTransfer c intDevNull txData => Pico.interfaceTransfer (B.can c) intDevNull txData

abbrev PicoLabel (C : Type) := Label (Op C) Op.Ret HwCall HwAnswer

abbrev PicoRec (C : Type) := Rec (PicoPort × Hw) (PicoLabel C)

/-- Nothing is linked, no pin is driven and no block runs. -/
structure PoweredOn (w : PicoPort × Hw) : Prop where
  unlinked : w.1.spiPort = none
  uninitialized : w.1.spiInitialized = false
  undriven : ∀ n, (w.2.lines n).pin.level = none
  stopped : ∀ s, w.2.running s = false

/-- The device whose select line is set up or given up. -/
def Op.sets : Op C → Option (Device C)
  | .gpioInitCtx r | .gpioDeinitCtx r => some (.radio r)
  | .interfaceInit c false => some (.can c)
  | _ => none

def Op.transfers : Op C → Option (Device C)
  | .spiWriteReadCtx r _ _ => some (.radio r)
  | .interfaceTransfer c false (some _) => some (.can c)
  | _ => none

section Since

variable [DecidableEq C]

def sinceStep (d : Device C) (acc : List (PicoRec C)) (x : PicoRec C) : List (PicoRec C) :=
  match x.label with
  | .tick => acc
  | .op o _ _ =>
    if o.sets = some d then []
    else if o.transfers = some d then acc ++ [x]
    else acc

/-- The transfers of a device since its select line was last set up. -/
def since (d : Device C) (xs : List (PicoRec C)) : List (PicoRec C) := xs.foldl (sinceStep d) []

def Wiring.seenBeforeStep (B : Wiring C) (d : Device C) (acc : List (List Swap))
    (x : PicoRec C) : List (List Swap) :=
  match x.label with
  | .tick => acc
  | .op o _ _ => if o.sets = some d then (x.post.2.lines (B.select d)).chip.frames else acc

/-- The frames the chip of a device had seen when its select line was last
set up. -/
def Wiring.seenBefore (B : Wiring C) (d : Device C) (xs : List (PicoRec C)) : List (List Swap) :=
  xs.foldl (B.seenBeforeStep d) []

end Since

/-- The frame a transfer is on the wires, and what it returned. -/
def Wiring.Framed (B : Wiring C) (x : PicoRec C) (f : List Swap) : Prop :=
  match x.label with
  | .op (.spiWriteReadCtx r inBuf outBuf) _ ret =>
    Served x.pre.1.spiPort (B.spiOf (B.radio r).pinNss) (x.pre.2.Ready B.toWires) inBuf outBuf
      ret f
  | .op (.interfaceTransfer c _ txData) _ ret =>
    ret.1 = .ok ∧ (x.pre.2.Ready B.toWires (B.can c).spi →
      f.map (·.mosi) = txData.getD [] ∧ ret.2 = f.map (·.miso))
  | _ => False

section Step

variable {B : Board C} {d : Device C} {g g' : PicoPort} {w w' : Hw}

/-- A line that a program leaves alone. -/
def Line.Kept (l l' : Line) : Prop := l'.pin = l.pin ∧ (l.Up → l' = l)

theorem kept_refl (l : Line) : l.Kept l := ⟨rfl, fun _ => rfl⟩

theorem kept_call {n : UInt32} {spi : Nat} {ready : Nat → Prop} {l l₁ l₂ : Line} {i : HwCall}
    {r : HwAnswer i} (hk : l.Kept l₁) (h : busyLine n spi ready l₁ i r l₂)
    (hi : i.pin ≠ some n) : l.Kept l₂ := by
  refine ⟨(pin_other h hi).trans hk.1, fun hup => ?_⟩
  obtain rfl := hk.2 hup
  exact up_other h hup hi

/-- The globals' pins are those of the linked block. -/
def Linked (B : Wiring C) (g : PicoPort) : Prop :=
  ∀ s, g.spiPort = some s → B.bus s = [g.spiPinSck, g.spiPinMosi, g.spiPinMiso]

theorem control_ne {n : UInt32} (hn : B.Control n) (d : Device C) : n ≠ B.select d := by
  rintro rfl
  exact B.select_control d hn

theorem bus_ne {n : UInt32} (hn : B.Bus n) (d : Device C) : n ≠ B.select d := by
  rintro rfl
  exact B.select_bus d hn

theorem select_ne (e : Device C) (he : e ≠ d) : B.select e ≠ B.select d :=
  fun heq => he (B.select_inj _ _ heq)

theorem spiHwInit_kept {n : UInt32} {spi : Nat} {ready : Nat → Prop} {l : Line}
    (hlinked : Linked B.toWiring g) (hn : ∀ m, B.Bus m → m ≠ n) :
    Ensures (busyLine n spi ready) spiHwInit (fun _ _ _ l' => l.Kept l') g l := by
  simp only [spiHwInit, ensures_bind, ensures_read, ensures_ite, ensures_ask, ensures_modify,
    ensures_pure]
  refine ⟨fun _ => kept_refl l, fun _ => ⟨fun _ => kept_refl l,
    fun hport _ l₁ h₁ _ l₂ h₂ _ l₃ h₃ _ l₄ h₄ _ l' h' => ?_⟩⟩
  obtain ⟨s, hs⟩ := Option.ne_none_iff_exists'.mp fun hnone =>
    hport (Option.isNone_iff_eq_none.mpr hnone)
  have hpin (m : UInt32) (hm : m ∈ [g.spiPinSck, g.spiPinMosi, g.spiPinMiso]) :
      (HwCall.gpioSetFunctionSpi m).pin ≠ some n := by
    simpa [HwCall.pin] using hn m ⟨s, by rwa [hlinked s hs]⟩
  have hk₁ := kept_call (kept_refl l) h₁ (by simp [HwCall.pin])
  have hk₂ := kept_call hk₁ h₂ (by simp [HwCall.pin])
  exact kept_call (kept_call (kept_call hk₂ h₃ (hpin _ (by simp))) h₄ (hpin _ (by simp))) h'
    (hpin _ (by simp))

/-- An operation that neither sets the line up nor transfers on it. -/
theorem program_elsewhere {o : Op C} (hsets : o.sets ≠ some d) (htransfers : o.transfers ≠ some d)
    (ho : o ≠ .spiHwInit) : (B.program o).CallsOnly fun i => i.pin ≠ some (B.select d) := by
  have hcontrol (m : UInt32) (hm : B.Control m) : m ≠ B.select d := control_ne hm d
  cases o with
  | linkHandle => trivial
  | spiHwInit => exact absurd rfl ho
  | gpioInitCtx r | gpioDeinitCtx r =>
      have hnss : (B.radio r).pinNss ≠ B.select d :=
        select_ne (.radio r) fun heq => hsets (congrArg some heq)
      have hreset := hcontrol _ ⟨r, .inl rfl⟩
      have hbusy := hcontrol _ ⟨r, .inr (.inl rfl)⟩
      have hdio1 := hcontrol _ ⟨r, .inr (.inr rfl)⟩
      simp [Wiring.program, gpioInitCtx, gpioDeinitCtx, Prog.callsOnly_ask_bind,
        Prog.callsOnly_pure, HwCall.pin, hnss, hreset, hbusy, hdio1]
  | resetWriteCtx r value =>
      have hreset := hcontrol _ ⟨r, .inl rfl⟩
      simp [Wiring.program, resetWriteCtx, Prog.callsOnly_ask_bind, Prog.callsOnly_pure,
        HwCall.pin, hreset]
  | busyReadCtx r valueNull =>
      simp [Wiring.program, busyReadCtx, Prog.callsOnly_ask_bind, Prog.callsOnly_pure,
        Prog.callsOnly_ite, HwCall.pin]
  | spiWriteReadCtx r inBuf outBuf =>
      have hnss : (B.radio r).pinNss ≠ B.select d :=
        select_ne (.radio r) fun heq => htransfers (congrArg some heq)
      simp [Wiring.program, spiWriteReadCtx, spiReadCtx, Prog.callsOnly_ask_bind,
        Prog.callsOnly_read_bind, Prog.callsOnly_pure, Prog.callsOnly_ite, HwCall.pin, hnss]
  | interfaceInit c intDevNull =>
      cases intDevNull with
      | true => trivial
      | false =>
          have hcs : (B.can c).pinCs.toUInt32 ≠ B.select d :=
            select_ne (.can c) fun heq => hsets (congrArg some heq)
          have hbus (m : UInt32) (hm : m ∈ B.bus (B.can c).spi) : m ≠ B.select d :=
            bus_ne ⟨_, hm⟩ d
          have hsck := hbus (B.can c).pinSck.toUInt32 (by simp [B.can_bus])
          have hmosi := hbus (B.can c).pinMosi.toUInt32 (by simp [B.can_bus])
          have hmiso := hbus (B.can c).pinMiso.toUInt32 (by simp [B.can_bus])
          simp [Wiring.program, interfaceInit, Prog.callsOnly_ask_bind, Prog.callsOnly_pure,
            HwCall.pin, hcs, hmiso, hmosi, hsck]
  | interfaceTransfer c intDevNull txData =>
      cases intDevNull with
      | true => trivial
      | false =>
          cases txData with
          | none => trivial
          | some txData =>
              have hcs : (B.can c).pinCs.toUInt32 ≠ B.select d :=
                select_ne (.can c) fun heq => htransfers (congrArg some heq)
              simp [Wiring.program, interfaceTransfer, Prog.callsOnly_ask_bind,
                Prog.callsOnly_pure, HwCall.pin, hcs]

/-- A transfer on a line that is not set up leaves it so. -/
theorem transfer_undriven {n : UInt32} {spi : Nat} {ready : Nat → Prop} {l : Line} {o : Op C}
    (ho : o.transfers = some d) (hl : l.pin.level = none) :
    Ensures (busyLine n spi ready) (B.program o) (fun _ _ _ l' => l'.pin.level = none) g l := by
  have hcalls : (B.program o).CallsOnly
      fun i => i.pin = none ∨ ∃ m value, i = .gpioPut m value := by
    cases o with
    | spiWriteReadCtx r inBuf outBuf =>
        simp [Wiring.program, spiWriteReadCtx, spiReadCtx, Prog.callsOnly_ask_bind,
          Prog.callsOnly_read_bind, Prog.callsOnly_pure, Prog.callsOnly_ite, HwCall.pin]
    | interfaceTransfer c intDevNull txData =>
        simp [Wiring.program, interfaceTransfer, Prog.callsOnly_ask_bind, Prog.callsOnly_pure,
          Prog.callsOnly_ite, HwCall.pin]
    | _ => cases ho
  refine hcalls.keeps (J := fun l : Line => l.pin.level = none) (fun l i r l' hi hl h => ?_) hl
  rw [busyLine_pin h]
  rcases hi with hnone | ⟨m, value, rfl⟩
  · rwa [if_neg (by simp [hnone])]
  · rw [level_eq_none_iff] at hl ⊢
    split
    · exact hl
    · exact hl

/-- Setting a line up leaves it high and its chip idle; giving it up leaves
it undriven. -/
theorem sets_line {spi : Nat} {ready : Nat → Prop} {l : Line} {o : Op C} (ho : o.sets = some d) :
    Ensures (busyLine (B.select d) spi ready) (B.program o)
      (fun _ _ _ l' => l'.pin.level = none ∨ l'.Up) g l := by
  have hcontrol (r : Radio) (m : UInt32) (hm : B.Control m) : m ≠ (B.radio r).pinNss :=
    control_ne (d := .radio r) hm
  cases o with
  | gpioInitCtx r =>
      obtain rfl := Option.some.inj ho
      exact (gpioInitCtx_line (hcontrol r _ ⟨r, .inl rfl⟩) (hcontrol r _ ⟨r, .inr (.inl rfl)⟩)
        (hcontrol r _ ⟨r, .inr (.inr rfl)⟩)).mono fun _ _ _ _ h => .inr h.2
  | gpioDeinitCtx r =>
      obtain rfl := Option.some.inj ho
      exact (gpioDeinitCtx_line (hcontrol r _ ⟨r, .inl rfl⟩) (hcontrol r _ ⟨r, .inr (.inl rfl)⟩)
        (hcontrol r _ ⟨r, .inr (.inr rfl)⟩)).mono fun _ _ _ _ h => .inl h.2
  | interfaceInit c intDevNull =>
      cases intDevNull with
      | true => cases ho
      | false =>
          obtain rfl := Option.some.inj ho
          exact interfaceInit_line.mono fun _ _ _ _ h => .inr h.2
  | _ => cases ho

/-- A transfer on a line that is set up adds one frame to what its chip has
seen. -/
theorem transfer_line {ready : Nat → Prop} {l : Line} {o : Op C} (ho : o.transfers = some d)
    (hup : l.Up) :
    Ensures (busyLine (B.select d) (B.spiOf (B.select d)) ready) (B.program o)
      (fun tr r g' l' => g' = g ∧ ∃ f, l' = ⟨l.pin, l.chip.add f⟩
        ∧ ∀ w w', w.Ready B.toWires = ready → B.Framed ⟨(g, w), .op o tr r, (g', w')⟩ f) g l := by
  cases o with
  | spiWriteReadCtx r inBuf outBuf =>
      obtain rfl := Option.some.inj ho
      refine (spiWriteReadCtx_line hup).mono ?_
      rintro tr ret g' l' ⟨rfl, f, hl', hserved⟩
      refine ⟨rfl, f, hl', fun w w' hready => ?_⟩
      subst hready
      exact hserved
  | interfaceTransfer c intDevNull txData =>
      cases intDevNull with
      | true => cases ho
      | false =>
          cases txData with
          | none => cases ho
          | some txData =>
              obtain rfl := Option.some.inj ho
              have hspi : B.spiOf (B.select (.can c)) = (B.can c).spi := B.can_spi c
              rw [hspi]
              refine (interfaceTransfer_line hup).mono ?_
              rintro tr ret g' l' ⟨rfl, f, hl', hok, hframed⟩
              refine ⟨rfl, f, hl', fun w w' hready => ⟨hok, ?_⟩⟩
              subst hready
              exact hframed
  | _ => cases ho

/-- The operations that neither start a block nor switch a bus pin. -/
theorem program_aside {o : Op C} (ho : o ≠ .spiHwInit) (ho' : ∀ c, o ≠ .interfaceInit c false) :
    (B.program o).CallsOnly B.toWires.Aside := by
  cases o with
  | linkHandle => trivial
  | spiHwInit => exact absurd rfl ho
  | gpioInitCtx r | gpioDeinitCtx r =>
      have hnss := B.select_bus (.radio r)
      have hreset := B.control_bus _ ⟨r, .inl rfl⟩
      have hbusy := B.control_bus _ ⟨r, .inr (.inl rfl)⟩
      have hdio1 := B.control_bus _ ⟨r, .inr (.inr rfl)⟩
      simp only [Wiring.select] at hnss
      simp [Wiring.program, gpioInitCtx, gpioDeinitCtx, Prog.callsOnly_ask_bind,
        Prog.callsOnly_pure, Wires.Aside, hnss, hreset, hbusy, hdio1]
  | interfaceInit c intDevNull =>
      cases intDevNull with
      | true => trivial
      | false => exact absurd rfl (ho' c)
  | _ =>
      simp [Wiring.program, resetWriteCtx, busyReadCtx, spiWriteReadCtx, spiReadCtx,
        interfaceTransfer, Prog.callsOnly_ask_bind, Prog.callsOnly_read_bind, Prog.callsOnly_pure,
        Prog.callsOnly_ite, Wires.Aside]

theorem transfers_aside {o : Op C} (ho : o.transfers = some d) :
    (B.program o).CallsOnly B.toWires.Aside := by
  refine program_aside ?_ fun c => ?_
  · rintro rfl
    cases ho
  · rintro rfl
    cases ho

/-- While the line of a device is driven, its chip has seen the frames of
before and then those of these transfers. -/
def Seen (B : Wiring C) (before : List (List Swap)) (ts : List (PicoRec C)) (l : Line) : Prop :=
  l.pin.level = none
    ∨ l.Up ∧ ∃ frames, l.chip.frames = before ++ frames ∧ List.Forall₂ B.Framed ts frames

variable {before : List (List Swap)} {ts : List (PicoRec C)} {l l' : Line}

theorem seen_kept (hs : Seen B.toWiring before ts l) (hk : l.Kept l') :
    Seen B.toWiring before ts l' := by
  rcases hs with hnone | ⟨hup, hframes⟩
  · exact .inl (by rw [hk.1, hnone])
  · obtain rfl := hk.2 hup
    exact .inr ⟨hup, hframes⟩

theorem seen_add {x : PicoRec C} {f : List Swap} {frames : List (List Swap)} (hup : l.Up)
    (hframes : l.chip.frames = before ++ frames) (hall : List.Forall₂ B.Framed ts frames)
    (hx : B.Framed x f) : Seen B.toWiring before (ts ++ [x]) ⟨l.pin, l.chip.add f⟩ := by
  refine .inr ⟨up_add hup f, frames ++ [f], ?_, List.rel_append hall (.cons hx .nil)⟩
  rw [ChipLog.add, hframes, List.append_assoc]

/-- The line of a device that an operation neither sets up nor transfers
for. -/
theorem elsewhere_kept {spi : Nat} {ready : Nat → Prop} {o : Op C}
    (hlinked : Linked B.toWiring g) (hsets : o.sets ≠ some d) (htransfers : o.transfers ≠ some d) :
    Ensures (busyLine (B.select d) spi ready) (B.program o) (fun _ _ _ l' => l.Kept l') g l := by
  by_cases ho : o = .spiHwInit
  · subst ho
    exact spiHwInit_kept hlinked fun m hm => bus_ne hm d
  · have hcalls := program_elsewhere (B := B) hsets htransfers ho
    exact Prog.CallsOnly.keeps (P := fun i => i.pin ≠ some (B.select d)) (J := l.Kept)
      (fun _ _ _ _ hi hk h => kept_call hk h hi) hcalls (kept_refl l)

variable [DecidableEq C]

/-- Step lemma: an operation sets the line up, or transfers on it, or is none
of its business. -/
theorem seen_step {x : PicoRec C}
    (hx : Session B.program (busyHw B.toWires) Hw.Floats x.pre x.label x.post)
    (hlinked : Linked B.toWiring x.pre.1)
    (hs : Seen B.toWiring before ts (x.pre.2.lines (B.select d))) :
    Seen B.toWiring (B.seenBeforeStep d before x) (sinceStep d ts x)
      (x.post.2.lines (B.select d)) := by
  obtain ⟨⟨g, w⟩, label, g', w'⟩ := x
  cases hx with
  | tick h =>
      obtain ⟨hpin, hsame⟩ := h.1 (B.select d)
      exact seen_kept hs ⟨hpin, fun hup => hsame (by rw [hup.level]; exact Option.some_ne_none _)⟩
  | @op o _ _ tr r _ _ h =>
      have hline := h.view (·.lines (B.select d)) (busyHw_someLine (B.select d))
      simp only [Wiring.seenBeforeStep, sinceStep]
      by_cases hsets : o.sets = some d
      · rw [if_pos hsets, if_pos hsets]
        rcases sets_line hsets _ _ _ _ hline with hnone | hup
        · exact .inl hnone
        · exact .inr ⟨hup, [], (List.append_nil _).symm, .nil⟩
      · rw [if_neg hsets, if_neg hsets]
        by_cases htransfers : o.transfers = some d
        · rw [if_pos htransfers]
          rcases hs with hnone | ⟨hup, frames, hframes, hall⟩
          · exact .inl (transfer_undriven htransfers hnone _ _ _ _ hline)
          · obtain ⟨-, hline⟩ := exec_aside h (transfers_aside htransfers) (B.select d)
            obtain ⟨-, f, hl', hframed⟩ := transfer_line htransfers hup _ _ _ _ hline
            show Seen B.toWiring _ _ (w'.lines (B.select d))
            rw [hl']
            exact seen_add hup hframes hall (hframed w w' rfl)
        · rw [if_neg htransfers]
          exact seen_kept hs (elsewhere_kept hlinked hsets htransfers _ _ _ _ hline)

end Step

/-! ## Runs -/

section Run

variable {B : Board C} {w₀ w : PicoPort × Hw} {xs : List (PicoRec C)}

variable [DecidableEq C]

end Run

/-! ## A radio and a controller on the bench -/

/-- What a call clocks if every chip answers `0xA5`. -/
def HwCall.swaps (spi : Nat) : HwCall → List Swap
  | .spiWriteBlocking s src | .spiWriteReadBlocking s src =>
    if s = some spi then src.map (⟨·, 0xA5⟩) else []
  | .spiReadBlocking s b len => if s = some spi then List.replicate len ⟨b, 0xA5⟩ else []
  | _ => []

def followLevel (level : Option Bool) (c : ChipLog) : ChipLog :=
  match level with
  | some true => c.release
  | some false => c.select
  | none => c

def Line.after (n : UInt32) (i : HwCall) (l : Line) : Line :=
  if i.pin = some n then ⟨i.set l.pin, followLevel (i.set l.pin).level l.chip⟩
  else ⟨l.pin, l.chip.clock (i.swaps 0)⟩

def benchAnswer (primask : UInt32) : (i : HwCall) → HwAnswer i
  | .gpioGet _ => false
  | .spiWriteBlocking _ src => intOfLen src.length
  | .spiReadBlocking _ _ len => (intOfLen len, List.replicate len 0xA5)
  | .spiWriteReadBlocking _ src => (intOfLen src.length, src.map fun _ => 0xA5)
  | .saveAndDisableInterrupts => primask
  | .gpioInit _ | .gpioDeinit _ | .gpioSetDir _ _ | .gpioPut _ _ | .gpioSetFunctionSpi _
  | .spiInit _ _ | .spiSetFormat _ | .restoreInterrupts _ => ()

def benchHw (w : Hw) (i : HwCall) : HwAnswer i × Hw :=
  (benchAnswer w.primask i,
    ⟨fun n => (w.lines n).after n i, (w.side.after i).running,
      match i with
      | .saveAndDisableInterrupts => 1
      | .restoreInterrupts status => status
      | _ => w.primask⟩)

/-- Both chips are set up; the radio's status is read and the controller is
reset. -/
def benchOps : List (Op Unit) :=
  [.linkHandle .sx1262, .spiHwInit, .gpioInitCtx .sx1262, .interfaceInit () false,
    .spiWriteReadCtx .sx1262 (some [0xC0]) (some 1), .interfaceTransfer () false (some [0, 0])]

end Pico

end LeosSdk
