import LeosSdk.RadioSpi
import LeosSdk.SpiBus

/-!
# The SPI lines of the Pico

The port functions of `sx126x_port_pico.c` and the SPI functions of
`platform.c`, down to the calls of the SDK they make. Radios and CAN
controllers share a block of the microcontroller; a chip's select line is an
output pin that these functions set themselves.

Three things decide what a chip sees of a call: the level of its select
line, the block that the call names, and whether that block is ready, that
is, was initialised by `spi_init` and has its pins switched to it
(`Side.Ready`). Of a transfer on a block that is not ready nothing is
known, neither what it clocks nor what it returns. This matters because
`leos_sx126x_spi_hw_init` initialises only once (`g_spi_initialized`), while
`leos_sx126x_link_handle` moves `g_spi_port` on to the block of the radio it
links: a second block is never initialised by it.

Each chip has the wires to itself in its own history: `lineEnv` says what
one select line and the chip behind it see of a call, whatever the rest of
the board does. Seen so, a call of a port function is a frame
(`spiWriteReadCtx_line`, `interfaceTransfer_line`), or makes the line an
output, gives it up or is none of its business. `SpiBoard` puts the chips
of a board back together.
-/

namespace LeosSdk

namespace Pico

open Sx126x (Radio RadioHwConfig PicoPort picoLinkHandle)

/-! ## The SDK -/

inductive PinFunction where
  | null
  | sio
  | spi
deriving DecidableEq, Repr

structure Pin where
  function : PinFunction
  output : Bool
  value : Bool
deriving DecidableEq, Repr

/-- The level the microcontroller drives the pin to. -/
def Pin.level (p : Pin) : Option Bool :=
  if p.function = .sio ∧ p.output = true then some p.value else none

theorem level_eq_none_iff {p : Pin} :
    p.level = none ↔ ¬(p.function = .sio ∧ p.output = true) := by simp [Pin.level]

inductive HwCall where
  | gpioInit (pin : UInt32)
  | gpioDeinit (pin : UInt32)
  | gpioSetDir (pin : UInt32) (out : Bool)
  | gpioPut (pin : UInt32) (value : Bool)
  | gpioGet (pin : UInt32)
  | gpioSetFunctionSpi (pin : UInt32)
  | spiInit (spi : Option Nat) (baudHz : UInt32)
  | spiSetFormat (spi : Option Nat)
  | spiWriteBlocking (spi : Option Nat) (src : List UInt8)
  | spiReadBlocking (spi : Option Nat) (repeatedTxData : UInt8) (len : Nat)
  | spiWriteReadBlocking (spi : Option Nat) (src : List UInt8)
  | saveAndDisableInterrupts
  | restoreInterrupts (status : UInt32)

abbrev HwAnswer : HwCall → Type
  | .gpioGet _ => Bool
  | .spiWriteBlocking _ _ => Int32
  | .spiReadBlocking _ _ _ => Int32 × List UInt8
  | .spiWriteReadBlocking _ _ => Int32 × List UInt8
  | .saveAndDisableInterrupts => UInt32
  | _ => Unit

/-- The pin a call is about, unless it only reads it. -/
def HwCall.pin : HwCall → Option UInt32
  | .gpioInit n | .gpioDeinit n | .gpioSetDir n _ | .gpioPut n _ | .gpioSetFunctionSpi n => some n
  | _ => none

def HwCall.set : HwCall → Pin → Pin
  | .gpioInit _, _ => ⟨.sio, false, false⟩
  | .gpioDeinit _, p => { p with function := .null }
  | .gpioSetDir _ out, p => { p with output := out }
  | .gpioPut _ value, p => { p with value := value }
  | .gpioSetFunctionSpi _, p => { p with function := .spi }
  | _, p => p

/-- The block a call takes out of reset. -/
def HwCall.starts : HwCall → Option Nat
  | .spiInit s _ => s
  | _ => none

/-- `(int)len`. -/
def intOfLen (len : Nat) : Int32 := (UInt32.ofNat len).toInt32

/-! ## Blocks and their wires -/

/-- The block on whose wires the chip behind each pin is, and the pins that
bring a block to its wires: its SCK, its MOSI and its MISO. -/
structure Wires where
  spiOf : UInt32 → Nat
  bus : Nat → List UInt32

/-- The pins of all blocks. -/
def Wires.Bus (W : Wires) (n : UInt32) : Prop := ∃ s, n ∈ W.bus s

/-- The microcontroller's own side: the blocks that were initialised, and
the pins. -/
structure Side where
  running : Nat → Bool
  pins : UInt32 → Pin

def Side.after (v : Side) (i : HwCall) : Side where
  running s := v.running s || decide (i.starts = some s)
  pins n := if i.pin = some n then i.set (v.pins n) else v.pins n

/-- The block is initialised and its pins are switched to it. -/
def Side.Ready (W : Wires) (v : Side) (s : Nat) : Prop :=
  v.running s = true ∧ ∀ n ∈ W.bus s, (v.pins n).function = .spi

/-- The block that a call names is ready, if it names one. -/
def HwCall.Runs (ready : Nat → Prop) : HwCall → Prop
  | .spiWriteBlocking s _ | .spiReadBlocking s _ _ | .spiWriteReadBlocking s _ =>
    ∃ b, s = some b ∧ ready b
  | _ => True

/-- The transfers report how many bytes they moved, which is all. -/
def HwCall.Returns : (i : HwCall) → HwAnswer i → Prop
  | .spiWriteBlocking _ src, n => n = intOfLen src.length
  | .spiReadBlocking _ _ len, a => Prod.fst a = intOfLen len
  | .spiWriteReadBlocking _ src, a => Prod.fst a = intOfLen src.length
  | _, _ => True

/-- What a transfer over `s` clocks on the wires of block `spi`: its bytes if
that is the block and it is ready, anything if it is not ready, and nothing if
`s` is another block. Of a call that names no block nothing is known. -/
structure ClocksOver (spi : Nat) (ready : Nat → Prop) (s : Option Nat) (xs : List Swap)
    (bytes : Prop) : Prop where
  own : s = some spi → ready spi → bytes
  foreign : ∀ b, s = some b → b ≠ spi → xs = []

/-- What a call clocks on the wires of block `spi`. -/
def HwCall.Clocks (spi : Nat) (ready : Nat → Prop) : (i : HwCall) → HwAnswer i → List Swap → Prop
  | .spiWriteBlocking s src, _, xs => ClocksOver spi ready s xs (xs.map (·.mosi) = src)
  | .spiReadBlocking s b len, a, xs =>
    ClocksOver spi ready s xs
      (xs.map (·.mosi) = List.replicate len b ∧ Prod.snd a = xs.map (·.miso))
  | .spiWriteReadBlocking s src, a, xs =>
    ClocksOver spi ready s xs (xs.map (·.mosi) = src ∧ Prod.snd a = xs.map (·.miso))
  | _, _, xs => xs = []

/-! ## The port functions -/

abbrev Port := Prog PicoPort HwCall HwAnswer

abbrev hwCall (i : HwCall) : Port (HwAnswer i) := Prog.ask i

/-- `leos_sx126x_spi_hw_init`. -/
def spiHwInit : Port UInt8 := do
  let g ← Prog.read
  if g.spiInitialized then return 0
  if g.spiPort.isNone then return 1
  hwCall (.spiInit g.spiPort g.spiBaudHz)
  hwCall (.spiSetFormat g.spiPort)
  hwCall (.gpioSetFunctionSpi g.spiPinSck)
  hwCall (.gpioSetFunctionSpi g.spiPinMosi)
  hwCall (.gpioSetFunctionSpi g.spiPinMiso)
  Prog.modify fun g => { g with spiInitialized := true }
  return 0

/-- `leos_sx126x_gpio_init_ctx`. -/
def gpioInitCtx (hw : RadioHwConfig) : Port UInt8 := do
  hwCall (.gpioInit hw.pinNss)
  hwCall (.gpioSetDir hw.pinNss true)
  hwCall (.gpioPut hw.pinNss true)
  hwCall (.gpioInit hw.pinReset)
  hwCall (.gpioSetDir hw.pinReset true)
  hwCall (.gpioPut hw.pinReset true)
  hwCall (.gpioInit hw.pinBusy)
  hwCall (.gpioSetDir hw.pinBusy false)
  hwCall (.gpioInit hw.pinDio1)
  hwCall (.gpioSetDir hw.pinDio1 false)
  return 0

/-- `leos_sx126x_gpio_deinit_ctx`. -/
def gpioDeinitCtx (hw : RadioHwConfig) : Port UInt8 := do
  hwCall (.gpioDeinit hw.pinNss)
  hwCall (.gpioDeinit hw.pinReset)
  hwCall (.gpioDeinit hw.pinBusy)
  hwCall (.gpioDeinit hw.pinDio1)
  return 0

/-- `leos_sx126x_reset_write_ctx`. -/
def resetWriteCtx (hw : RadioHwConfig) (value : UInt8) : Port UInt8 := do
  hwCall (.gpioPut hw.pinReset (value != 0))
  return 0

/-- `leos_sx126x_busy_read_ctx`. -/
def busyReadCtx (hw : RadioHwConfig) (valueNull : Bool) : Port (UInt8 × UInt8) := do
  if valueNull then return (1, 0)
  let busy ← hwCall (.gpioGet hw.pinBusy)
  return (0, if busy then 1 else 0)

/-- `leos_sx126x_spi_write_read_ctx` from the second transfer on; a null
`out_buf` is `none`. -/
def spiReadCtx (hw : RadioHwConfig) (outBuf : Option Nat) : Port (UInt8 × List UInt8) := do
  let g ← Prog.read
  if outBuf.getD 0 = 0 then
    hwCall (.gpioPut hw.pinNss true)
    return (0, [])
  let (n, out) ← hwCall (.spiReadBlocking g.spiPort 0x00 (outBuf.getD 0))
  if n < 0 then
    hwCall (.gpioPut hw.pinNss true)
    return (1, out)
  hwCall (.gpioPut hw.pinNss true)
  return (0, out)

/-- `leos_sx126x_spi_write_read_ctx`. -/
def spiWriteReadCtx (hw : RadioHwConfig) (inBuf : Option (List UInt8)) (outBuf : Option Nat) :
    Port (UInt8 × List UInt8) := do
  hwCall (.gpioPut hw.pinNss false)
  let g ← Prog.read
  if inBuf.getD [] = [] then spiReadCtx hw outBuf
  else
    let n ← hwCall (.spiWriteBlocking g.spiPort (inBuf.getD []))
    if n < 0 then
      hwCall (.gpioPut hw.pinNss true)
      return (1, [])
    spiReadCtx hw outBuf

/-- `leos_mcp251xfd_hw_t`, as far as `platform.c` and the MCP251XFD library
use it for the interface. -/
structure CanHw where
  spi : Nat
  pinMosi : UInt8
  pinMiso : UInt8
  pinSck : UInt8
  pinCs : UInt8
  spiBaud : UInt32

/-- The results of the interface functions. -/
inductive InterfaceResult where
  | ok
  | spiParameterError
deriving DecidableEq, Repr

/-- `MCP251XFD_InterfaceInit_Pico`, with the controller's own `pin_cs` and
`spi_baud`. -/
def interfaceInit (hw : CanHw) (intDevNull : Bool) : Port InterfaceResult := do
  if intDevNull then return .spiParameterError
  hwCall (.spiInit (some hw.spi) hw.spiBaud)
  hwCall (.gpioSetFunctionSpi hw.pinMiso.toUInt32)
  hwCall (.gpioSetFunctionSpi hw.pinMosi.toUInt32)
  hwCall (.gpioSetFunctionSpi hw.pinSck.toUInt32)
  hwCall (.gpioInit hw.pinCs.toUInt32)
  hwCall (.gpioSetDir hw.pinCs.toUInt32 true)
  hwCall (.gpioPut hw.pinCs.toUInt32 true)
  hwCall (.spiSetFormat (some hw.spi))
  return .ok

/-- `MCP251XFD_InterfaceTransfer_Pico`; a null `txData` is `none`. -/
def interfaceTransfer (hw : CanHw) (intDevNull : Bool) (txData : Option (List UInt8)) :
    Port (InterfaceResult × List UInt8) := do
  if intDevNull then return (.spiParameterError, [])
  if txData.isNone then return (.spiParameterError, [])
  let irqs ← hwCall .saveAndDisableInterrupts
  hwCall (.gpioPut hw.pinCs.toUInt32 false)
  let (_, rxData) ← hwCall (.spiWriteReadBlocking (some hw.spi) (txData.getD []))
  hwCall (.gpioPut hw.pinCs.toUInt32 true)
  hwCall (.restoreInterrupts irqs)
  return (.ok, rxData)

/-! ## Select lines -/

/-- A pin and the chip it selects, if it is a select line. -/
structure Line where
  pin : Pin
  chip : ChipLog
deriving DecidableEq, Repr

/-- Nothing is known of a chip whose select line is not driven. -/
def Line.Floats (l l' : Line) : Prop := l'.pin = l.pin ∧ (l.pin.level ≠ none → l' = l)

/-- What pin `n` and the chip behind it see of a call, the chip being on the
wires of block `spi`. -/
def lineEnv (n : UInt32) (spi : Nat) (ready : Nat → Prop) : Env Line HwCall HwAnswer :=
  fun l i r l' =>
    (i.Runs ready → i.Returns r) ∧
      if i.pin = some n then l'.pin = i.set l.pin ∧ l.chip.Follows l'.pin.level l'.chip
      else l'.pin = l.pin
        ∧ (l.pin.level ≠ none → ∃ xs, i.Clocks spi ready r xs ∧ l'.chip = l.chip.clock xs)

abbrev busyLine (n : UInt32) (spi : Nat) (ready : Nat → Prop) : Env Line HwCall HwAnswer :=
  interleave Line.Floats (lineEnv n spi ready)

/-- No block is known to be ready. -/
def noneReady (_ : Nat) : Prop := False

/-- All pins, the blocks that run, and whether interrupts are disabled. -/
structure Hw where
  lines : UInt32 → Line
  running : Nat → Bool
  primask : UInt32

def Hw.side (w : Hw) : Side := ⟨w.running, fun n => (w.lines n).pin⟩

abbrev Hw.Ready (W : Wires) (w : Hw) : Nat → Prop := w.side.Ready W

def irqEnv : Env UInt32 HwCall HwAnswer
  | m, .saveAndDisableInterrupts, r, m' => r = m ∧ m' = 1
  | _, .restoreInterrupts status, _, m' => m' = status
  | m, _, _, m' => m' = m

def sideEnv : Env Side HwCall HwAnswer := fun v i _ v' => v' = v.after i

def Hw.Floats (w w' : Hw) : Prop :=
  (∀ n, (w.lines n).Floats (w'.lines n)) ∧ w'.running = w.running ∧ w'.primask = w.primask

/-- All chips see a call at once. -/
def hwEnv (W : Wires) : Env Hw HwCall HwAnswer := fun w i r w' =>
  (∀ n, lineEnv n (W.spiOf n) (w.Ready W) (w.lines n) i r (w'.lines n))
    ∧ w'.running = (w.side.after i).running ∧ irqEnv w.primask i r w'.primask

abbrev busyHw (W : Wires) : Env Hw HwCall HwAnswer := interleave Hw.Floats (hwEnv W)

section Views

variable {W : Wires} {w w' : Hw} {i : HwCall} {r : HwAnswer i}

theorem line_ticks (h : Relation.ReflTransGen Hw.Floats w w') (n : UInt32) :
    Relation.ReflTransGen Line.Floats (w.lines n) (w'.lines n) :=
  h.lift (·.lines n) fun _ _ h => h.1 n

theorem floats_side (h : w.Floats w') : w'.side = w.side := by
  obtain ⟨hlines, hrunning, -⟩ := h
  rw [Hw.side, hrunning, Hw.side]
  exact congrArg _ (funext fun n => (hlines n).1)

theorem side_ticks (h : Relation.ReflTransGen Hw.Floats w w') : w'.side = w.side := by
  induction h with
  | refl => rfl
  | tail _ h ih => exact (floats_side h).trans ih

theorem busyHw_side (w : Hw) (i : HwCall) (r : HwAnswer i) (w' : Hw)
    (h : busyHw W w i r w') : sideEnv w.side i r w'.side := by
  obtain ⟨w₁, ht, hlines, hrunning, -⟩ := h
  rw [sideEnv, ← side_ticks ht, Hw.side, hrunning]
  refine congrArg _ (funext fun n => ?_)
  obtain ⟨-, hline⟩ := hlines n
  show (w'.lines n).pin = if i.pin = some n then i.set (w₁.lines n).pin else (w₁.lines n).pin
  split at hline
  · rename_i hi
    rw [if_pos hi]
    exact hline.1
  · rename_i hi
    rw [if_neg hi]
    exact hline.1

/-- The less is known of the blocks, the more may happen. -/
theorem lineEnv_mono {n : UInt32} {spi : Nat} {ready ready' : Nat → Prop} {l l' : Line}
    (hready : ∀ s, ready' s → ready s) (h : lineEnv n spi ready l i r l') :
    lineEnv n spi ready' l i r l' := by
  obtain ⟨hreturns, hline⟩ := h
  have hruns : i.Runs ready' → i.Runs ready := by
    cases i with
    | spiWriteBlocking | spiReadBlocking | spiWriteReadBlocking =>
        rintro ⟨b, hb, hr⟩
        exact ⟨b, hb, hready b hr⟩
    | _ => exact id
  have hclocks (xs : List Swap) : i.Clocks spi ready r xs → i.Clocks spi ready' r xs := by
    cases i with
    | spiWriteBlocking | spiReadBlocking | spiWriteReadBlocking =>
        exact fun h => ⟨fun hs hr => h.own hs (hready spi hr), h.foreign⟩
    | _ => exact id
  refine ⟨fun h => hreturns (hruns h), ?_⟩
  split at hline
  · rename_i hi
    rwa [if_pos hi]
  · rename_i hi
    rw [if_neg hi]
    refine ⟨hline.1, fun hlevel => ?_⟩
    obtain ⟨xs, hxs, hchip⟩ := hline.2 hlevel
    exact ⟨xs, hclocks xs hxs, hchip⟩

theorem busyHw_line (n : UInt32) (w : Hw) (i : HwCall) (r : HwAnswer i) (w' : Hw)
    (h : busyHw W w i r w') :
    busyLine n (W.spiOf n) (w.Ready W) (w.lines n) i r (w'.lines n) := by
  obtain ⟨w₁, ht, hlines, -⟩ := h
  refine ⟨w₁.lines n, line_ticks ht n, ?_⟩
  have hline := hlines n
  rwa [Hw.Ready, side_ticks ht] at hline

theorem busyHw_someLine (n : UInt32) (w : Hw) (i : HwCall) (r : HwAnswer i) (w' : Hw)
    (h : busyHw W w i r w') :
    busyLine n (W.spiOf n) noneReady (w.lines n) i r (w'.lines n) := by
  obtain ⟨l, ht, hline⟩ := busyHw_line n w i r w' h
  exact ⟨l, ht, lineEnv_mono (fun _ h => h.elim) hline⟩

end Views

/-! ## How a block becomes ready -/

section Blocks

variable {W : Wires} {v v₁ v₂ v' : Side} {s : Nat} {i : HwCall}

/-- A call that starts no block and leaves the functions of bus pins alone. -/
def Wires.Aside (W : Wires) : HwCall → Prop
  | .spiInit _ _ => False
  | .gpioInit n | .gpioDeinit n | .gpioSetFunctionSpi n => ¬W.Bus n
  | _ => True

theorem aside_running (hi : W.Aside i) : (v.after i).running = v.running := by
  cases i with
  | spiInit => exact hi.elim
  | _ => exact funext fun s => Bool.or_false _

theorem aside_function (hi : W.Aside i) {n : UInt32} (hn : W.Bus n) :
    ((v.after i).pins n).function = (v.pins n).function := by
  simp only [Side.after]
  split
  · rename_i hpin
    cases i with
    | gpioInit | gpioDeinit | gpioSetFunctionSpi =>
        obtain rfl := Option.some.inj hpin
        exact absurd hn hi
    | gpioSetDir | gpioPut => rfl
    | _ => cases hpin
  · rfl

theorem ready_aside (hi : W.Aside i) : (v.after i).Ready W = v.Ready W := by
  refine funext fun s => propext ?_
  simp only [Side.Ready, aside_running hi]
  exact and_congr_right fun _ => forall₂_congr fun n hn => by rw [aside_function hi ⟨s, hn⟩]

/-- A program of such calls leaves every block as ready as it was. So it sees
one select line under what was known of the blocks to begin with. -/
theorem exec_aside {α : Type} {q : Port α} {g g' : PicoPort} {w w' : Hw}
    {tr : List (Event HwCall HwAnswer)} {r : α} (hx : Exec (busyHw W) q g w tr r g' w')
    (hq : q.CallsOnly W.Aside) (n : UInt32) :
    w'.Ready W = w.Ready W
      ∧ Exec (busyLine n (W.spiOf n) (w.Ready W)) q g (w.lines n) tr r g' (w'.lines n) := by
  refine Prog.CallsOnly.view (J := fun w₁ => w₁.Ready W = w.Ready W) (·.lines n) ?_ hx hq rfl
  intro w₁ i r w₂ hi hready h
  have hside : w₂.side = w₁.side.after i := busyHw_side w₁ i r w₂ h
  exact ⟨by rw [← hready, Hw.Ready, hside, ready_aside hi], hready ▸ busyHw_line n w₁ i r w₂ h⟩

/-- Since `v` block `s` was started and these pins were switched, as far as
bus pins go. -/
structure Side.Started (W : Wires) (s : Nat) (done : List UInt32) (v v' : Side) : Prop where
  running : ∀ b, v'.running b = (v.running b || decide (s = b))
  function : ∀ n, W.Bus n →
    (v'.pins n).function = if n ∈ done then .spi else (v.pins n).function

end Blocks

section Lines

variable {n : UInt32} {spi : Nat} {ready : Nat → Prop} {l l₁ l' : Line}

theorem floats_ticks (h : Relation.ReflTransGen Line.Floats l l') : l.Floats l' := by
  induction h with
  | refl => exact ⟨rfl, fun _ => rfl⟩
  | tail _ h ih =>
      obtain ⟨hpin, hsame⟩ := ih
      obtain ⟨hpin', hsame'⟩ := h
      refine ⟨hpin'.trans hpin, fun hlevel => ?_⟩
      rw [hsame' (by rwa [hpin]), hsame hlevel]

/-- The line is high and its chip listens to nothing. -/
structure Line.Up (l : Line) : Prop where
  level : l.pin.level = some true
  idle : l.chip.current = none

/-- Between two calls a line that is driven stays as it is. -/
theorem busyLine_driven {i : HwCall} {r : HwAnswer i} (h : busyLine n spi ready l i r l')
    (hlevel : l.pin.level ≠ none) : lineEnv n spi ready l i r l' := by
  obtain ⟨l₁, ht, h⟩ := h
  obtain rfl := (floats_ticks ht).2 hlevel
  exact h

theorem busyLine_pin {i : HwCall} {r : HwAnswer i} (h : busyLine n spi ready l i r l') :
    l'.pin = if i.pin = some n then i.set l.pin else l.pin := by
  obtain ⟨l₁, ht, -, h⟩ := h
  rw [← (floats_ticks ht).1]
  split at h
  · rename_i hi
    rw [if_pos hi]
    exact h.1
  · rename_i hi
    rw [if_neg hi]
    exact h.1

theorem busyLine_own {i : HwCall} {r : HwAnswer i} (h : busyLine n spi ready l i r l')
    (hlevel : l.pin.level ≠ none) (hi : i.pin = some n) :
    l'.pin = i.set l.pin ∧ l.chip.Follows l'.pin.level l'.chip := by
  obtain ⟨-, hline⟩ := busyLine_driven h hlevel
  rwa [if_pos hi] at hline

/-! A call that is about other pins. -/

theorem pin_other {i : HwCall} {r : HwAnswer i} (h : busyLine n spi ready l i r l')
    (hi : i.pin ≠ some n) : l'.pin = l.pin := by
  rw [busyLine_pin h, if_neg hi]

theorem up_other {i : HwCall} {r : HwAnswer i} (h : busyLine n spi ready l i r l') (hl : l.Up)
    (hi : i.pin ≠ some n) : l' = l := by
  have hdriven : l.pin.level ≠ none := by
    rw [hl.level]
    exact Option.some_ne_none _
  obtain ⟨-, hline⟩ := busyLine_driven h hdriven
  rw [if_neg hi] at hline
  obtain ⟨hpin, hchip⟩ := hline
  obtain ⟨xs, -, hclock⟩ := hchip hdriven
  obtain ⟨pin', chip'⟩ := l'
  obtain rfl : pin' = l.pin := hpin
  obtain rfl : chip' = l.chip := hclock.trans (ChipLog.clock_idle hl.idle xs)
  rfl

/-! A transfer, from the fall of the line to its rise. -/

/-- The line was pulled low, and so much was clocked since. -/
structure Line.Selected (l : Line) (f : List Swap) (l' : Line) : Prop where
  pin : l'.pin = { l.pin with value := false }
  chip : l'.chip = l.chip.select.clock f

theorem driven_of_up (hl : l.Up) : l.pin.function = .sio ∧ l.pin.output = true
    ∧ l.pin.value = true := by
  have hlevel := hl.level
  unfold Pin.level at hlevel
  split at hlevel
  · rename_i hdriven
    exact ⟨hdriven.1, hdriven.2, Option.some.inj hlevel⟩
  · cases hlevel

theorem level_of_up (hl : l.Up) (value : Bool) :
    ({ l.pin with value := value } : Pin).level = some value := by
  obtain ⟨hfunction, houtput, -⟩ := driven_of_up hl
  simp [Pin.level, hfunction, houtput]

theorem put_low {r : Unit} (hl : l.Up) (h : busyLine n spi ready l (.gpioPut n false) r l') :
    l.Selected [] l' := by
  have hdriven : l.pin.level ≠ none := by
    rw [hl.level]
    exact Option.some_ne_none _
  obtain ⟨hpin, -, hlow⟩ := busyLine_own h hdriven rfl
  have hlevel : l'.pin.level = some false := by
    rw [hpin]
    exact level_of_up hl false
  exact ⟨hpin, by rw [hlow hlevel, ChipLog.clock_nil]⟩

theorem selected_clock {i : HwCall} {r : HwAnswer i} {f : List Swap} (hl : l.Up)
    (hs : l.Selected f l₁) (h : busyLine n spi ready l₁ i r l') (hi : i.pin = none) :
    (i.Runs ready → i.Returns r)
      ∧ ∃ xs, i.Clocks spi ready r xs ∧ l.Selected (f ++ xs) l' := by
  have hdriven : l₁.pin.level ≠ none := by
    rw [hs.pin, level_of_up hl]
    exact Option.some_ne_none _
  obtain ⟨hreturns, hline⟩ := busyLine_driven h hdriven
  rw [if_neg (by simp [hi])] at hline
  obtain ⟨hpin, hchip⟩ := hline
  obtain ⟨xs, hxs, hclock⟩ := hchip hdriven
  refine ⟨hreturns, xs, hxs, hpin.trans hs.pin, ?_⟩
  rw [hclock, hs.chip, ChipLog.clock_clock]

theorem put_high {r : Unit} {f : List Swap} (hl : l.Up) (hs : l.Selected f l₁)
    (h : busyLine n spi ready l₁ (.gpioPut n true) r l') : l' = ⟨l.pin, l.chip.add f⟩ := by
  have hdriven : l₁.pin.level ≠ none := by
    rw [hs.pin, level_of_up hl]
    exact Option.some_ne_none _
  obtain ⟨hpin, hhigh, -⟩ := busyLine_own h hdriven rfl
  have hback : l'.pin = l.pin := by
    rw [hpin, hs.pin]
    show ({ l.pin with value := true } : Pin) = l.pin
    rw [← (driven_of_up hl).2.2]
  have hchip : l'.chip = l.chip.add f := by
    rw [hhigh (by rw [hback, hl.level]), hs.chip, ChipLog.transfer hl.idle]
  obtain ⟨pin', chip'⟩ := l'
  obtain rfl : pin' = l.pin := hback
  obtain rfl : chip' = _ := hchip
  rfl

theorem up_add (hl : l.Up) (f : List Swap) : Line.Up ⟨l.pin, l.chip.add f⟩ := ⟨hl.level, rfl⟩

end Lines

/-! ## What a chip sees of a port function -/

section Functions

variable {n : UInt32} {spi : Nat} {ready : Nat → Prop} {l : Line} {g : PicoPort}

/-- A frame of `spi_write_read` over block `port`, `g_spi_port`, with what the
call returned: what was to be written, then zeros for what was to be read. A
length that is negative as an `int` ends the transfer. All this is if the
block is ready; where the radio's chip is on another block the frame is
empty. Without a linked block nothing is said. -/
structure Served (port : Option Nat) (spi : Nat) (ready : Nat → Prop)
    (inBuf : Option (List UInt8)) (outBuf : Option Nat) (r : UInt8 × List UInt8)
    (f : List Swap) : Prop where
  status : ∀ b, port = some b → ready b →
    r.1 = if intOfLen (inBuf.getD []).length < 0 ∨ intOfLen (outBuf.getD 0) < 0 then 1 else 0
  mosi : port = some spi → ready spi → f.map (·.mosi) = inBuf.getD [] ++
    (if intOfLen (inBuf.getD []).length < 0 then [] else List.replicate (outBuf.getD 0) 0)
  read : port = some spi → ready spi → ¬intOfLen (inBuf.getD []).length < 0 →
    r.2 = (f.drop (inBuf.getD []).length).map (·.miso)
  foreign : ∀ b, port = some b → b ≠ spi → f = []

/-- The second half of a frame, from a chip that is selected already. -/
theorem spiReadCtx_line {hw : RadioHwConfig} {l₁ : Line} {outBuf : Option Nat} {f : List Swap}
    (hl : l.Up) (hs : l.Selected f l₁) :
    Ensures (busyLine hw.pinNss spi ready) (spiReadCtx hw outBuf) (fun _ r g' l' => g' = g
      ∧ ∃ xs, l' = ⟨l.pin, l.chip.add (f ++ xs)⟩
        ∧ Served g.spiPort spi ready none outBuf r xs) g l₁ := by
  simp only [spiReadCtx, ensures_bind, ensures_read, ensures_ite, ensures_ask, ensures_pure,
    true_and]
  have hzero : ¬intOfLen ([] : List UInt8).length < 0 := by decide
  refine ⟨fun hnone _ l' h => ⟨[], ?_, ?_⟩, fun _ a l₂ h => ?_⟩
  · rw [List.append_nil]
    exact put_high hl hs h
  · have hnoneg : ¬intOfLen (outBuf.getD 0) < 0 := by
      rw [hnone]
      decide
    refine ⟨fun _ _ _ => ?_, fun _ _ => ?_, fun _ _ _ => rfl, fun _ _ _ => rfl⟩
    · rw [Option.getD_none, if_neg (not_or.mpr ⟨hzero, hnoneg⟩)]
    · rw [hnone, Option.getD_none, if_neg hzero]
      rfl
  · obtain ⟨hreturns, xs, hxs, hs'⟩ := selected_clock hl hs h rfl
    obtain ⟨hown, hforeign⟩ := hxs
    have hserved (status : UInt8) (hstatus : status = if a.1 < 0 then 1 else 0) :
        Served g.spiPort spi ready none outBuf (status, a.2) xs := by
      refine ⟨fun b hb hr => ?_, fun hport hr => ?_, fun hport hr _ => (hown hport hr).2, hforeign⟩
      · have hn : a.1 = intOfLen (outBuf.getD 0) := hreturns ⟨b, hb, hr⟩
        simp only [Option.getD_none, hzero, false_or]
        rw [← hn]
        exact hstatus
      · rw [Option.getD_none, if_neg hzero, List.nil_append]
        exact (hown hport hr).1
    exact ⟨fun hneg _ l' h' => ⟨xs, put_high hl hs' h', hserved 1 (if_pos hneg).symm⟩,
      fun hneg _ l' h' => ⟨xs, put_high hl hs' h', hserved 0 (if_neg hneg).symm⟩⟩

/-- A transfer of a radio is one frame. The two halves go out while the line
is low, so what each of them clocks comes one after the other. -/
theorem spiWriteReadCtx_line {hw : RadioHwConfig} {inBuf : Option (List UInt8)}
    {outBuf : Option Nat} (hl : l.Up) :
    Ensures (busyLine hw.pinNss spi ready) (spiWriteReadCtx hw inBuf outBuf)
      (fun _ r g' l' => g' = g ∧ ∃ f, l' = ⟨l.pin, l.chip.add f⟩
        ∧ Served g.spiPort spi ready inBuf outBuf r f) g l := by
  simp only [spiWriteReadCtx, ensures_bind, ensures_read, ensures_ite, ensures_ask, ensures_pure,
    true_and]
  intro _ l₁ h₁
  have hs := put_low hl h₁
  have hzero : ¬intOfLen ([] : List UInt8).length < 0 := by decide
  refine ⟨fun hnone => ?_, fun _ a l₂ h₂ => ?_⟩
  · refine (spiReadCtx_line hl hs).mono ?_
    rintro - r g' l' ⟨rfl, xs, hl', hserved⟩
    rw [List.nil_append] at hl'
    have hsame : inBuf.getD [] = (none : Option (List UInt8)).getD [] := hnone
    refine ⟨rfl, xs, hl', ?_, ?_, ?_, hserved.foreign⟩
    · rw [hsame]
      exact hserved.status
    · rw [hsame]
      exact hserved.mosi
    · rw [hsame]
      exact hserved.read
  · obtain ⟨hreturns, xs, hxs, hs'⟩ := selected_clock hl hs h₂ rfl
    have hn {b : Nat} (hb : g.spiPort = some b) (hr : ready b) :
        a = intOfLen (inBuf.getD []).length := hreturns ⟨b, hb, hr⟩
    obtain ⟨hown, hforeign⟩ := hxs
    rw [List.nil_append] at hs'
    refine ⟨fun hneg _ l' h' => ⟨xs, put_high hl hs' h', ?_⟩, fun hneg => ?_⟩
    · refine ⟨fun b hb hr => ?_, fun hport hr => ?_, fun hport hr hnot => ?_, hforeign⟩
      · rw [hn hb hr] at hneg
        simp [hneg]
      · rw [hn hport hr] at hneg
        rw [hown hport hr, if_pos hneg, List.append_nil]
      · rw [hn hport hr] at hneg
        exact absurd hneg hnot
    · refine (spiReadCtx_line hl hs').mono ?_
      rintro - r g' l' ⟨rfl, ys, hl', hserved⟩
      refine ⟨rfl, xs ++ ys, hl', fun b hb hr => ?_, fun hport hr => ?_, fun hport hr _ => ?_,
        fun b hb hne => ?_⟩
      · rw [hn hb hr] at hneg
        have hstatus := hserved.status b hb hr
        simp only [Option.getD_none, hzero, false_or] at hstatus
        simp [hstatus, hneg]
      · rw [hn hport hr] at hneg
        have hmosi := hserved.mosi hport hr
        rw [Option.getD_none, if_neg hzero, List.nil_append] at hmosi
        rw [List.map_append, hown hport hr, hmosi, if_neg hneg]
      · have hlen : (inBuf.getD []).length = xs.length := by
          rw [← hown hport hr, List.length_map]
        rw [hlen, List.drop_left]
        exact hserved.read hport hr hzero
      · rw [hforeign b hb hne, hserved.foreign b hb hne]
        rfl

/-- A transfer of a controller is one frame, on the block its configuration
names. -/
theorem interfaceTransfer_line {hw : CanHw} {txData : List UInt8} (hl : l.Up) :
    Ensures (busyLine hw.pinCs.toUInt32 hw.spi ready) (interfaceTransfer hw false (some txData))
      (fun _ r g' l' => g' = g ∧ ∃ f, l' = ⟨l.pin, l.chip.add f⟩ ∧ r.1 = .ok
        ∧ (ready hw.spi → f.map (·.mosi) = txData ∧ r.2 = f.map (·.miso))) g l := by
  simp only [interfaceTransfer, Bool.false_eq_true, if_false, Option.isNone_some, ensures_bind,
    ensures_ask, ensures_pure, true_and]
  intro irqs l₁ h₁ _ l₂ h₂ a l₃ h₃ _ l₄ h₄ _ l₅ h₅
  obtain rfl := up_other h₁ hl (by simp [HwCall.pin])
  obtain ⟨-, xs, hxs, hs⟩ := selected_clock hl (put_low hl h₂) h₃ rfl
  have hl₄ := put_high hl hs h₄
  have hup : l₄.Up := hl₄ ▸ up_add hl _
  obtain rfl := up_other h₅ hup (by simp [HwCall.pin])
  exact ⟨xs, by simpa using hl₄, fun hr => hxs.own rfl hr⟩

/-! A line is made an output, or given up. -/

theorem put_up {r : Unit} {value : Bool} (hpin : l.pin = ⟨.sio, true, value⟩) {l' : Line}
    (h : busyLine n spi ready l (.gpioPut n true) r l') : l'.Up := by
  have hlevel : l.pin.level = some value := by rw [hpin]; rfl
  obtain ⟨hpin', hhigh, -⟩ := busyLine_own h (by rw [hlevel]; exact Option.some_ne_none _) rfl
  have hlevel' : l'.pin.level = some true := by rw [hpin', hpin]; rfl
  exact ⟨hlevel', by rw [hhigh hlevel']; rfl⟩

theorem gpioInitCtx_line {hw : RadioHwConfig} (hreset : hw.pinReset ≠ hw.pinNss)
    (hbusy : hw.pinBusy ≠ hw.pinNss) (hdio1 : hw.pinDio1 ≠ hw.pinNss) :
    Ensures (busyLine hw.pinNss spi ready) (gpioInitCtx hw)
      (fun _ _ g' l' => g' = g ∧ l'.Up) g l := by
  simp only [gpioInitCtx, ensures_bind, ensures_ask, ensures_pure, true_and]
  intro _ l₁ h₁ _ l₂ h₂ _ l₃ h₃ _ l₄ h₄ _ l₅ h₅ _ l₆ h₆ _ l₇ h₇ _ l₈ h₈ _ l₉ h₉ _ l' h'
  have hpin₁ : l₁.pin = ⟨.sio, false, false⟩ := by
    simpa [HwCall.pin, HwCall.set] using busyLine_pin h₁
  have hpin₂ : l₂.pin = ⟨.sio, true, false⟩ := by
    simpa [HwCall.pin, HwCall.set, hpin₁] using busyLine_pin h₂
  have hup := put_up hpin₂ h₃
  obtain rfl := up_other h₄ hup (by simpa [HwCall.pin] using hreset)
  obtain rfl := up_other h₅ hup (by simpa [HwCall.pin] using hreset)
  obtain rfl := up_other h₆ hup (by simpa [HwCall.pin] using hreset)
  obtain rfl := up_other h₇ hup (by simpa [HwCall.pin] using hbusy)
  obtain rfl := up_other h₈ hup (by simpa [HwCall.pin] using hbusy)
  obtain rfl := up_other h₉ hup (by simpa [HwCall.pin] using hdio1)
  obtain rfl := up_other h' hup (by simpa [HwCall.pin] using hdio1)
  exact hup

theorem interfaceInit_line {hw : CanHw} :
    Ensures (busyLine hw.pinCs.toUInt32 spi ready) (interfaceInit hw false)
      (fun _ _ g' l' => g' = g ∧ l'.Up) g l := by
  simp only [interfaceInit, Bool.false_eq_true, if_false, ensures_bind, ensures_ask, ensures_pure,
    true_and]
  intro _ l₁ h₁ _ l₂ h₂ _ l₃ h₃ _ l₄ h₄ _ l₅ h₅ _ l₆ h₆ _ l₇ h₇ _ l' h'
  have hpin₅ : l₅.pin = ⟨.sio, false, false⟩ := by
    simpa [HwCall.pin, HwCall.set] using busyLine_pin h₅
  have hpin₆ : l₆.pin = ⟨.sio, true, false⟩ := by
    simpa [HwCall.pin, HwCall.set, hpin₅] using busyLine_pin h₆
  have hup := put_up hpin₆ h₇
  obtain rfl := up_other h' hup (by simp [HwCall.pin])
  exact hup

theorem gpioDeinitCtx_line {hw : RadioHwConfig} (hreset : hw.pinReset ≠ hw.pinNss)
    (hbusy : hw.pinBusy ≠ hw.pinNss) (hdio1 : hw.pinDio1 ≠ hw.pinNss) :
    Ensures (busyLine hw.pinNss spi ready) (gpioDeinitCtx hw)
      (fun _ _ g' l' => g' = g ∧ l'.pin.level = none) g l := by
  simp only [gpioDeinitCtx, ensures_bind, ensures_ask, ensures_pure, true_and]
  intro _ l₁ h₁ _ l₂ h₂ _ l₃ h₃ _ l' h'
  have hpin₁ : l₁.pin = { l.pin with function := .null } := by
    simpa [HwCall.pin, HwCall.set] using busyLine_pin h₁
  rw [pin_other h' (by simpa [HwCall.pin] using hdio1),
    pin_other h₃ (by simpa [HwCall.pin] using hbusy),
    pin_other h₂ (by simpa [HwCall.pin] using hreset), hpin₁]
  rfl

end Functions

end Pico

end LeosSdk
