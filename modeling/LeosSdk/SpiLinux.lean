import LeosSdk.RadioSpi
import LeosSdk.SpiBus

/-!
# The NSS lines on Linux

The port functions of `sx126x_port_linux.c`. Both halves of a transfer go to
the kernel as one message, with its own chip select switched off, between
two calls that set the radio's NSS line. Either may fail, and so may the
message, in which case some of it may have been on the wires. A failure to
raise the line leaves the chip selected: it would take what is meant for the
other radio.

In every run in which raising a line works, each chip has seen the frames of
its own transfers and nothing else since its line was requested
(`radios_see_own`). Each radio's line is followed by itself: what its chip
had seen when the line was requested (`seenBefore`) and the transfers since
that lowered it (`since`) account for all of the chip's history. A port
function of the other radio leaves the line high, and a chip whose line is
high takes no notice of the wires; a transfer of its own goes through
`spiWriteReadCtx_line`, whichever of its three calls fails.
-/

namespace LeosSdk

namespace Linux

open Sx126x (Radio RadioHwConfig LinuxPort LinuxGpio Gpiod linuxSpiFd)

/-! ## The port functions -/

/-- `struct spi_ioc_transfer`. Without a `tx_buf` zeros are sent. -/
structure SpiIocTransfer where
  txBuf : Option (List UInt8)
  rxBuf : Bool
  len : Nat
  speedHz : UInt32
  bitsPerWord : UInt8
deriving DecidableEq, Repr

/-- The requests of `leos_sx126x_spi_hw_init`. -/
inductive SpiSetting where
  | mode (mode : UInt8)
  | bitsPerWord (bits : UInt8)
  | maxSpeedHz (hz : UInt32)
deriving DecidableEq, Repr

/-- `SPI_MODE_0 | SPI_NO_CS`. -/
def modeNoCs : UInt8 := 0x40

inductive SpiCall where
  | setValue (radio : Radio) (active : Bool)
  | ioctlMessage (fd : Int32) (transfers : List SpiIocTransfer)
  | ioctlWrite (fd : Int32) (setting : SpiSetting)
  | setReset (offset : UInt32) (active : Bool)
  | getBusy (radio : Radio) (offset : UInt32)

/-- With what is stored behind the message's `rx_buf`. -/
abbrev SpiAnswer : SpiCall → Type
  | .ioctlMessage _ _ => Int32 × List UInt8
  | _ => Int32

abbrev Port := Prog LinuxPort SpiCall SpiAnswer

abbrev spiCall (i : SpiCall) : Port (SpiAnswer i) := Prog.ask i

def spiHwInit (hw : RadioHwConfig) (fds : Nat → Int32) : Port UInt8 := do
  if linuxSpiFd fds hw < 0 then return 1
  let mode ← spiCall (.ioctlWrite (linuxSpiFd fds hw) (.mode modeNoCs))
  if mode < 0 then return 1
  let bits ← spiCall (.ioctlWrite (linuxSpiFd fds hw) (.bitsPerWord 8))
  if bits < 0 then return 1
  let speed ← spiCall (.ioctlWrite (linuxSpiFd fds hw) (.maxSpeedHz hw.spiBaudHz))
  if speed < 0 then return 1
  return 0

def resetWriteCtx (value : UInt8) : Port UInt8 := do
  let p ← Prog.read
  if !p.resetReq then return 1
  let rc ← spiCall (.setReset p.resetOffset (value ≠ 0))
  return if rc = 0 then 0 else 1

/-- `GPIOD_LINE_VALUE_ACTIVE`. -/
def lineValueActive : Int32 := 1

/-- With what is stored in `*value`, if anything is. -/
def busyReadCtx (radio : Radio) (valueNull : Bool) : Port (UInt8 × Option UInt8) := do
  let p ← Prog.read
  if !(p.gpio radio).busyReq || valueNull then return (1, none)
  let rc ← spiCall (.getBusy radio (p.gpio radio).busyOffset)
  if rc < 0 then return (1, none)
  return (0, some (if rc = lineValueActive then 1 else 0))

/-- `transfers` up to `transfer_count`. -/
def transfers (hw : RadioHwConfig) (inBuf : Option (List UInt8)) (outBuf : Option Nat) :
    List SpiIocTransfer :=
  (if inBuf.getD [] = [] then []
    else [⟨inBuf, false, (inBuf.getD []).length, hw.spiBaudHz, 8⟩])
  ++ (if outBuf.getD 0 = 0 then [] else [⟨none, true, outBuf.getD 0, hw.spiBaudHz, 8⟩])

/-- `leos_sx126x_spi_write_read_ctx`; a null buffer is `none`. -/
def spiWriteReadCtx (radio : Radio) (hw : RadioHwConfig) (fds : Nat → Int32)
    (inBuf : Option (List UInt8)) (outBuf : Option Nat) : Port (UInt8 × List UInt8) := do
  let p ← Prog.read
  if !(p.gpio radio).nssReq then return (1, [])
  if linuxSpiFd fds hw < 0 then return (1, [])
  if transfers hw inBuf outBuf = [] then return (0, [])
  let low ← spiCall (.setValue radio false)
  if low < 0 then return (1, [])
  let (sent, out) ← spiCall (.ioctlMessage (linuxSpiFd fds hw) (transfers hw inBuf outBuf))
  if sent < 0 then
    let _ ← spiCall (.setValue radio true)
    return (1, out)
  let high ← spiCall (.setValue radio true)
  if high < 0 then return (1, out)
  return (0, out)

/-! ## The lines -/

def SpiIocTransfer.bytes (t : SpiIocTransfer) : List UInt8 :=
  t.txBuf.getD (List.replicate t.len 0)

/-- What the master read for the transfers that have an `rx_buf`. -/
def received : List SpiIocTransfer → List Swap → List UInt8
  | [], _ => []
  | t :: ts, xs => (if t.rxBuf then (xs.take t.len).map (·.miso) else [])
      ++ received ts (xs.drop t.len)

/-- The NSS line of a radio, `none` while nobody drives it, and its chip. -/
structure NssLine where
  value : Option Bool
  chip : ChipLog
deriving DecidableEq, Repr

def NssLine.set (l : NssLine) (active : Bool) : NssLine :=
  ⟨some active, if active then l.chip.release else l.chip.select⟩

/-- What a message clocks on the wires of a chip that is on that bus. -/
def Clocked (onBus : Bool) (ts : List SpiIocTransfer) (a : Int32 × List UInt8)
    (xs : List Swap) : Prop :=
  if onBus then xs.map (·.mosi) <+: ts.flatMap SpiIocTransfer.bytes
    ∧ (¬a.1 < 0 → xs.map (·.mosi) = ts.flatMap SpiIocTransfer.bytes ∧ a.2 = received ts xs)
  else xs = []

/-- What the line of `radio` and its chip see of a call. -/
def lineEnv (radio : Radio) (onBus : Int32 → Bool) : Env NssLine SpiCall SpiAnswer
  | l, .setValue k active, n, l' =>
    if k = radio ∧ ¬(n : Int32) < 0 then l' = l.set active else l' = l
  | l, .ioctlMessage fd ts, a, l' =>
    l'.value = l.value ∧ (l.value ≠ none → ∃ xs, Clocked (onBus fd) ts a xs
      ∧ l'.chip = l.chip.clock xs)
  | l, _, _, l' => l' = l

def NssLine.Floats (l l' : NssLine) : Prop := l'.value = l.value ∧ (l.value ≠ none → l' = l)

abbrev busyLine (radio : Radio) (onBus : Int32 → Bool) : Env NssLine SpiCall SpiAnswer :=
  interleave NssLine.Floats (lineEnv radio onBus)

abbrev NssLines := Radio → NssLine

def NssLinesFloat (w w' : NssLines) : Prop := ∀ radio, (w radio).Floats (w' radio)

/-- `onBus radio fd`: the chip of `radio` is on the bus behind `fd`. -/
def linesEnv (onBus : Radio → Int32 → Bool) : Env NssLines SpiCall SpiAnswer :=
  fun w i r w' => ∀ radio, lineEnv radio (onBus radio) (w radio) i r (w' radio)

abbrev busyLines (onBus : Radio → Int32 → Bool) : Env NssLines SpiCall SpiAnswer :=
  interleave NssLinesFloat (linesEnv onBus)

/-- What `leos_sx126x_gpio_init_ctx` makes of the line: a line it requests is
driven high, one that it had stays as it is, and of one that it does not have
afterwards nothing is known. -/
def Requested (before after : LinuxGpio) (l l' : NssLine) : Prop :=
  after.nssReq = true → before.nssReq = true ∧ l' = l ∨ l' = l.set true

inductive LinuxLabel where
  | floats
  | gpioInit (radio : Radio)
  | gpioDeinit (radio : Radio)
  | spiHwInit (radio : Radio)
  | resetWrite (value : UInt8)
  | busyRead (radio : Radio)
  | transfer (radio : Radio) (inBuf : Option (List UInt8)) (outBuf : Option Nat) (fd : Int32)
      (tr : List (Event SpiCall SpiAnswer)) (ret : UInt8 × List UInt8)

inductive LinuxStep (hw : Radio → RadioHwConfig) (onBus : Radio → Int32 → Bool) :
    LinuxPort × NssLines → LinuxLabel → LinuxPort × NssLines → Prop
  | floats {p w w'} (h : NssLinesFloat w w') : LinuxStep hw onBus (p, w) .floats (p, w')
  | gpioInit {p w w'} {radio : Radio} (g : Gpiod)
      (hline : Requested (p.gpio radio) ((Sx126x.gpioInitCtx g radio (hw radio) p).2.gpio radio)
        (w radio) (w' radio)) (hother : ∀ k, k ≠ radio → w' k = w k) :
      LinuxStep hw onBus (p, w) (.gpioInit radio)
        ((Sx126x.gpioInitCtx g radio (hw radio) p).2, w')
  | gpioDeinit {p w w'} {radio : Radio} (hother : ∀ k, k ≠ radio → w' k = w k) :
      LinuxStep hw onBus (p, w) (.gpioDeinit radio) (Sx126x.gpioDeinitCtx radio p, w')
  | spiHwInit {p p' w w' radio tr ret} (fds : Nat → Int32)
      (h : Exec (busyLines onBus) (spiHwInit (hw radio) fds) p w tr ret p' w') :
      LinuxStep hw onBus (p, w) (.spiHwInit radio) (p', w')
  | resetWrite {p p' w w' value tr ret}
      (h : Exec (busyLines onBus) (resetWriteCtx value) p w tr ret p' w') :
      LinuxStep hw onBus (p, w) (.resetWrite value) (p', w')
  | busyRead {p p' w w' radio tr ret} (valueNull : Bool)
      (h : Exec (busyLines onBus) (busyReadCtx radio valueNull) p w tr ret p' w') :
      LinuxStep hw onBus (p, w) (.busyRead radio) (p', w')
  | transfer {p p' w w' radio inBuf outBuf tr ret} (fds : Nat → Int32)
      (h : Exec (busyLines onBus) (spiWriteReadCtx radio (hw radio) fds inBuf outBuf) p w tr ret
        p' w') :
      LinuxStep hw onBus (p, w)
        (.transfer radio inBuf outBuf (linuxSpiFd fds (hw radio)) tr ret) (p', w')

/-! ## One transfer -/

/-- The bytes of a transfer: what was to be written, then zeros for what was to
be read. -/
def transferBytes (inBuf : Option (List UInt8)) (outBuf : Option Nat) : List UInt8 :=
  inBuf.getD [] ++ List.replicate (outBuf.getD 0) 0

theorem bytes_transfers (hw : RadioHwConfig) (inBuf : Option (List UInt8)) (outBuf : Option Nat) :
    (transfers hw inBuf outBuf).flatMap SpiIocTransfer.bytes = transferBytes inBuf outBuf := by
  rw [transfers, transferBytes, List.flatMap_append]
  congr 1
  · split
    · rename_i hnone
      rw [hnone]
      rfl
    · rename_i hsome
      cases inBuf with
      | none => exact absurd rfl hsome
      | some src => simp [SpiIocTransfer.bytes]
  · split
    · rename_i hnone
      rw [hnone]
      rfl
    · simp [SpiIocTransfer.bytes]

theorem received_transfers {hw : RadioHwConfig} {inBuf : Option (List UInt8)}
    {outBuf : Option Nat} {xs : List Swap}
    (hxs : xs.map (·.mosi) = transferBytes inBuf outBuf) :
    received (transfers hw inBuf outBuf) xs
      = (xs.drop (inBuf.getD []).length).map (·.miso) := by
  have hlen : xs.length = (inBuf.getD []).length + outBuf.getD 0 := by
    have := congrArg List.length hxs
    simpa [transferBytes] using this
  have hread (ys : List Swap) (hys : ys.length = outBuf.getD 0) :
      received (if outBuf.getD 0 = 0 then [] else [⟨none, true, outBuf.getD 0, hw.spiBaudHz, 8⟩]) ys
        = ys.map (·.miso) := by
    split
    · rename_i hnone
      rw [hnone, List.length_eq_zero_iff] at hys
      rw [hys]
      rfl
    · simp [received, ← hys]
  rw [transfers]
  split
  · rename_i hnone
    rw [hnone] at hlen ⊢
    exact hread xs (by simpa using hlen)
  · show [] ++ received _ (xs.drop (inBuf.getD []).length) = _
    rw [List.nil_append]
    exact hread _ (by rw [List.length_drop]; omega)

/-- The NSS line was lowered. -/
def selects : Event SpiCall SpiAnswer → Bool
  | ⟨.setValue _ active, n⟩ => !active && !decide ((n : Int32) < 0)
  | _ => false

/-- The NSS line could not be raised. -/
def staysLow : Event SpiCall SpiAnswer → Bool
  | ⟨.setValue _ active, n⟩ => active && decide ((n : Int32) < 0)
  | _ => false

/-- The frame of a transfer. If it failed it may have been cut short; where
the chip is on another bus than the descriptor's it is empty. -/
structure Served (own : Prop) (inBuf : Option (List UInt8)) (outBuf : Option Nat)
    (r : UInt8 × List UInt8) (f : List Swap) : Prop where
  mosi : f.map (·.mosi) <+: transferBytes inBuf outBuf
  done : own → r.1 = 0 → f.map (·.mosi) = transferBytes inBuf outBuf
    ∧ r.2 = (f.drop (inBuf.getD []).length).map (·.miso)
  foreign : ¬own → f = []

/-- The line is high and its chip listens to nothing. -/
structure NssLine.Up (l : NssLine) : Prop where
  value : l.value = some true
  idle : l.chip.current = none

section Lines

variable {radio : Radio} {onBus : Int32 → Bool} {l l₁ l' : NssLine} {p : LinuxPort}

theorem floats_ticks (h : Relation.ReflTransGen NssLine.Floats l l') : l.Floats l' := by
  induction h with
  | refl => exact ⟨rfl, fun _ => rfl⟩
  | tail _ h ih =>
      obtain ⟨hvalue, hsame⟩ := ih
      obtain ⟨hvalue', hsame'⟩ := h
      refine ⟨hvalue'.trans hvalue, fun hdriven => ?_⟩
      rw [hsame' (by rwa [hvalue]), hsame hdriven]

theorem busyLine_driven {i : SpiCall} {r : SpiAnswer i} (h : busyLine radio onBus l i r l')
    (hdriven : l.value ≠ none) : lineEnv radio onBus l i r l' := by
  obtain ⟨l₁, ht, h⟩ := h
  obtain rfl := (floats_ticks ht).2 hdriven
  exact h

theorem driven_of_up (hl : l.Up) : l.value ≠ none := by
  rw [hl.value]
  exact Option.some_ne_none _

theorem up_add (chip : ChipLog) (f : List Swap) : NssLine.Up ⟨some true, chip.add f⟩ := ⟨rfl, rfl⟩

/-- The line as it is while the chip is selected, and so much was clocked. -/
def NssLine.selected (l : NssLine) (f : List Swap) : NssLine :=
  ⟨some false, l.chip.select.clock f⟩

theorem set_low {n : Int32} (hl : l.Up) (h : busyLine radio onBus l (.setValue radio false) n l')
    (hn : ¬n < 0) : l' = l.selected [] := by
  have hline := busyLine_driven h (driven_of_up hl)
  rw [lineEnv, if_pos ⟨rfl, hn⟩] at hline
  rw [hline, NssLine.selected, ChipLog.clock_nil]
  rfl

theorem set_low_fails {n : Int32} (hl : l.Up)
    (h : busyLine radio onBus l (.setValue radio false) n l') (hn : n < 0) : l' = l := by
  have hline := busyLine_driven h (driven_of_up hl)
  rwa [lineEnv, if_neg fun hand => hand.2 hn] at hline

theorem message_clocks {fd : Int32} {ts : List SpiIocTransfer} {a : Int32 × List UInt8}
    (h : busyLine radio onBus (l.selected []) (.ioctlMessage fd ts) a l') :
    ∃ xs, Clocked (onBus fd) ts a xs ∧ l' = l.selected xs := by
  have hdriven : (l.selected []).value ≠ none := Option.some_ne_none _
  obtain ⟨hvalue, hchip⟩ := busyLine_driven h hdriven
  obtain ⟨xs, hxs, hclock⟩ := hchip hdriven
  obtain ⟨value', chip'⟩ := l'
  obtain rfl : value' = some false := hvalue
  obtain rfl : chip' = _ := hclock
  refine ⟨xs, hxs, ?_⟩
  simp [NssLine.selected]

theorem set_high {n : Int32} {f : List Swap} (hl : l.Up)
    (h : busyLine radio onBus (l.selected f) (.setValue radio true) n l') (hn : ¬n < 0) :
    l' = ⟨some true, l.chip.add f⟩ := by
  have hline := busyLine_driven h (Option.some_ne_none _)
  rw [lineEnv, if_pos ⟨rfl, hn⟩] at hline
  rw [hline, NssLine.set, if_pos rfl]
  congr 1
  exact ChipLog.transfer hl.idle f

/-- What a transfer does to a line that is high: nothing, or it is a frame. -/
def Transferred (own : Prop) (inBuf : Option (List UInt8)) (outBuf : Option Nat) (l : NssLine)
    (tr : List (Event SpiCall SpiAnswer)) (r : UInt8 × List UInt8) (l' : NssLine) : Prop :=
  (∀ ev ∈ tr, staysLow ev = false) →
    tr.any selects = false ∧ l' = l
      ∨ tr.any selects = true ∧ ∃ f, l' = ⟨some true, l.chip.add f⟩ ∧ Served own inBuf outBuf r f

theorem spiWriteReadCtx_line {hw : RadioHwConfig} {fds : Nat → Int32}
    {inBuf : Option (List UInt8)} {outBuf : Option Nat} (hl : l.Up) :
    Ensures (busyLine radio onBus) (spiWriteReadCtx radio hw fds inBuf outBuf)
      (fun tr r _ l' => Transferred (onBus (linuxSpiFd fds hw) = true) inBuf outBuf l tr r l')
      p l := by
  simp only [spiWriteReadCtx, ensures_bind, ensures_read, ensures_ite, ensures_ask, ensures_pure]
  have hnothing (r : UInt8 × List UInt8) :
      Transferred (onBus (linuxSpiFd fds hw) = true) inBuf outBuf l [] r l :=
    fun _ => .inl ⟨rfl, rfl⟩
  refine ⟨fun _ => hnothing _, fun _ => ⟨fun _ => hnothing _, fun _ => ⟨fun _ => hnothing _, ?_⟩⟩⟩
  intro _ low l₁ h₁
  refine ⟨fun hlow _ => .inl ⟨by simp [selects, hlow], set_low_fails hl h₁ hlow⟩,
    fun hlow a l₂ h₂ => ?_⟩
  obtain rfl := set_low hl h₁ hlow
  obtain ⟨f, hf, rfl⟩ := message_clocks h₂
  have hselects (tr : List (Event SpiCall SpiAnswer)) :
      List.any (⟨.setValue radio false, low⟩ :: tr) selects = true := by
    simp [selects, hlow]
  have hserved (rc : UInt8) (hrc : rc = 0 → ¬a.1 < 0) :
      Served (onBus (linuxSpiFd fds hw) = true) inBuf outBuf (rc, a.2) f := by
    rw [Clocked, bytes_transfers] at hf
    refine ⟨?_, fun hown hzero => ?_, fun hforeign => ?_⟩
    · split at hf
      · exact hf.1
      · rw [hf]
        exact List.nil_prefix
    · rw [if_pos hown] at hf
      obtain ⟨hmosi, hread⟩ := hf.2 (hrc hzero)
      exact ⟨hmosi, by rw [← received_transfers hmosi]; exact hread⟩
    · rwa [if_neg hforeign] at hf
  refine ⟨fun hsent high l' h' hraised => .inr ⟨hselects _, f, ?_,
      hserved 1 fun hone => absurd hone (by decide)⟩,
    fun hsent high l' h' => ⟨fun hhigh hraised => ?_, fun hhigh hraised =>
      .inr ⟨hselects _, f, set_high hl h' hhigh, hserved 0 fun _ => hsent⟩⟩⟩
  · refine set_high hl h' fun hhigh => ?_
    have := hraised ⟨.setValue radio true, high⟩ (by simp)
    simp [staysLow, hhigh] at this
  · have := hraised ⟨.setValue radio true, high⟩ (by simp)
    simp [staysLow, hhigh] at this

/-- The line of another radio. -/
theorem spiWriteReadCtx_other {k : Radio} (hk : k ≠ radio) {hw : RadioHwConfig}
    {fds : Nat → Int32} {inBuf : Option (List UInt8)} {outBuf : Option Nat} (hl : l.Up) :
    Ensures (busyLine radio onBus) (spiWriteReadCtx k hw fds inBuf outBuf)
      (fun _ _ _ l' => l' = l) p l := by
  have hcalls : (spiWriteReadCtx k hw fds inBuf outBuf).CallsOnly
      fun i => ∀ active, i ≠ .setValue radio active := by
    simp [spiWriteReadCtx, Prog.callsOnly_read_bind, Prog.callsOnly_ask_bind,
      Prog.callsOnly_ite, Prog.callsOnly_pure, hk]
  refine Prog.CallsOnly.keeps (P := fun i => ∀ active, i ≠ .setValue radio active)
    (J := (· = l)) (fun l₁ i r l₂ hi hl₁ h => ?_) hcalls rfl
  subst hl₁
  have hline := busyLine_driven h (driven_of_up hl)
  cases i with
  | setValue j active =>
      have hj : j ≠ radio := fun heq => hi active (by rw [heq])
      rwa [lineEnv, if_neg fun hand => hj hand.1] at hline
  | ioctlMessage fd ts =>
      obtain ⟨hvalue, hchip⟩ := hline
      obtain ⟨xs, -, hclock⟩ := hchip (driven_of_up hl)
      obtain ⟨value', chip'⟩ := l₂
      obtain rfl : value' = l₁.value := hvalue
      obtain rfl : chip' = l₁.chip := hclock.trans (ChipLog.clock_idle hl.idle xs)
      rfl
  | _ => exact hline

/-- What neither sets an NSS line nor clocks anything. -/
def SpiCall.Aside : SpiCall → Prop
  | .setValue _ _ | .ioctlMessage _ _ => False
  | _ => True

theorem aside_line {α : Type} {q : Port α} (hq : q.CallsOnly SpiCall.Aside) (hl : l.Up) :
    Ensures (busyLine radio onBus) q (fun _ _ _ l' => l' = l) p l := by
  refine hq.keeps (J := (· = l)) (fun l₁ i r l₂ hi hl₁ h => ?_) rfl
  subst hl₁
  have hline := busyLine_driven h (driven_of_up hl)
  cases i with
  | setValue | ioctlMessage => exact hi.elim
  | _ => exact hline

theorem aside_spiHwInit (hw : RadioHwConfig) (fds : Nat → Int32) :
    (spiHwInit hw fds).CallsOnly SpiCall.Aside := by
  simp [spiHwInit, Prog.callsOnly_ask_bind, Prog.callsOnly_ite, Prog.callsOnly_pure,
    SpiCall.Aside]

theorem aside_resetWriteCtx (value : UInt8) :
    (resetWriteCtx value).CallsOnly SpiCall.Aside := by
  simp [resetWriteCtx, Prog.callsOnly_read_bind, Prog.callsOnly_ask_bind, Prog.callsOnly_ite,
    Prog.callsOnly_pure, SpiCall.Aside]

theorem aside_busyReadCtx (radio : Radio) (valueNull : Bool) :
    (busyReadCtx radio valueNull).CallsOnly SpiCall.Aside := by
  simp [busyReadCtx, Prog.callsOnly_read_bind, Prog.callsOnly_ask_bind, Prog.callsOnly_ite,
    Prog.callsOnly_pure, SpiCall.Aside]

theorem spiHwInit_port {ε : Type} {E : Env ε SpiCall SpiAnswer} {e : ε} {hw : RadioHwConfig}
    {fds : Nat → Int32} : Ensures E (spiHwInit hw fds) (fun _ _ p' _ => p' = p) p e := by
  simp [spiHwInit, ensures_ite]

theorem resetWriteCtx_port {ε : Type} {E : Env ε SpiCall SpiAnswer} {e : ε} {value : UInt8} :
    Ensures E (resetWriteCtx value) (fun _ _ p' _ => p' = p) p e := by
  simp [resetWriteCtx, ensures_ite]

theorem busyReadCtx_port {ε : Type} {E : Env ε SpiCall SpiAnswer} {e : ε} {k : Radio}
    {valueNull : Bool} : Ensures E (busyReadCtx k valueNull) (fun _ _ p' _ => p' = p) p e := by
  simp [busyReadCtx, ensures_ite]

theorem spiWriteReadCtx_port {ε : Type} {E : Env ε SpiCall SpiAnswer} {e : ε} {k : Radio}
    {hw : RadioHwConfig} {fds : Nat → Int32} {inBuf : Option (List UInt8)}
    {outBuf : Option Nat} :
    Ensures E (spiWriteReadCtx k hw fds inBuf outBuf) (fun _ _ p' _ => p' = p) p e := by
  simp [spiWriteReadCtx, ensures_ite]

theorem busyLines_line {onBus : Radio → Int32 → Bool} (radio : Radio) (w : NssLines)
    (i : SpiCall) (r : SpiAnswer i) (w' : NssLines) (h : busyLines onBus w i r w') :
    busyLine radio (onBus radio) (w radio) i r (w' radio) := by
  obtain ⟨w₁, ht, h⟩ := h
  exact ⟨w₁ radio, ht.lift (· radio) fun _ _ h => h radio, h radio⟩

end Lines

/-! ## Runs -/

abbrev LinuxRec := Rec (LinuxPort × NssLines) LinuxLabel

/-- The NSS line could be raised after every transfer. -/
def LinuxRec.Raises (x : LinuxRec) : Prop :=
  ∀ radio inBuf outBuf fd tr ret, x.label = .transfer radio inBuf outBuf fd tr ret →
    ∀ ev ∈ tr, staysLow ev = false

def sinceStep (radio : Radio) (acc : List LinuxRec) (x : LinuxRec) : List LinuxRec :=
  match x.label with
  | .floats | .spiHwInit _ | .resetWrite _ | .busyRead _ => acc
  | .gpioInit k => if k = radio ∧ (x.pre.1.gpio radio).nssReq = false then [] else acc
  | .gpioDeinit k => if k = radio then [] else acc
  | .transfer k _ _ _ tr _ => if k = radio ∧ tr.any selects = true then acc ++ [x] else acc

/-- The transfers of a radio that lowered its line, since that was requested. -/
def since (radio : Radio) (xs : List LinuxRec) : List LinuxRec := xs.foldl (sinceStep radio) []

/-- Until a line is requested nothing is known of it. -/
def seenBeforeStep (radio : Radio) (acc : List (List Swap)) (x : LinuxRec) : List (List Swap) :=
  match x.label with
  | .gpioInit k =>
    if k = radio ∧ (x.pre.1.gpio radio).nssReq = false then (x.post.2 radio).chip.frames else acc
  | .gpioDeinit k => if k = radio then (x.post.2 radio).chip.frames else acc
  | _ => acc

/-- The frames the chip of a radio had seen when its line was requested. -/
def seenBefore (radio : Radio) (xs : List LinuxRec) : List (List Swap) :=
  xs.foldl (seenBeforeStep radio) []

/-- The frame a transfer is on the wires, and what it returned. -/
def Framed (onBus : Radio → Int32 → Bool) (x : LinuxRec) (f : List Swap) : Prop :=
  match x.label with
  | .transfer radio inBuf outBuf fd _ ret =>
    Served (onBus radio fd = true) inBuf outBuf ret f
  | _ => False

section Run

variable {hw : Radio → RadioHwConfig} {onBus : Radio → Int32 → Bool} {radio : Radio}
  {w₀ w : LinuxPort × NssLines} {xs ts : List LinuxRec} {before : List (List Swap)}

/-! The radios' globals are their own. -/

theorem withGpio_other {k : Radio} (hk : k ≠ radio) (p : LinuxPort) (f : LinuxGpio → LinuxGpio) :
    (p.withGpio k f).gpio radio = p.gpio radio := Function.update_of_ne (Ne.symm hk) ..

theorem gpioChipOpen_gpio (g : Gpiod) (p : LinuxPort) :
    (Sx126x.gpioChipOpen g p).2.gpio = p.gpio := by
  unfold Sx126x.gpioChipOpen
  split <;> rfl

theorem resetGpioEnsure_gpio (a : Sx126x.LineAnswers) (offset : UInt32) (p : LinuxPort) :
    (Sx126x.resetGpioEnsure a offset p).2.gpio = p.gpio := by
  unfold Sx126x.resetGpioEnsure
  repeat' split
  all_goals rfl

theorem requestNss_other {k : Radio} (hk : k ≠ radio) (a : Sx126x.LineAnswers) (p : LinuxPort) :
    (Sx126x.requestNss a k p).2.gpio radio = p.gpio radio := by
  unfold Sx126x.requestNss
  repeat' split
  all_goals first | rfl | exact Function.update_of_ne (Ne.symm hk) ..

theorem requestBusy_other {k : Radio} (hk : k ≠ radio) (a : Sx126x.LineAnswers) (p : LinuxPort) :
    (Sx126x.requestBusy a k p).2.gpio radio = p.gpio radio := by
  unfold Sx126x.requestBusy
  repeat' split
  all_goals first | rfl | exact Function.update_of_ne (Ne.symm hk) ..

theorem gpioInitCtx_other {g : Gpiod} {k : Radio} {hw : RadioHwConfig} {p : LinuxPort}
    (hk : k ≠ radio) : (Sx126x.gpioInitCtx g k hw p).2.gpio radio = p.gpio radio := by
  unfold Sx126x.gpioInitCtx
  dsimp only
  split
  · exact congrFun (gpioChipOpen_gpio g p) radio
  split
  · exact congrFun (gpioChipOpen_gpio g p) radio
  split
  · rw [resetGpioEnsure_gpio, withGpio_other hk, gpioChipOpen_gpio]
  split
  · rw [requestNss_other hk, resetGpioEnsure_gpio, withGpio_other hk, gpioChipOpen_gpio]
  · rw [requestBusy_other hk, requestNss_other hk, resetGpioEnsure_gpio, withGpio_other hk,
      gpioChipOpen_gpio]

/-- While the port has the line of `radio`, it is high and its chip has seen
the frames of before, then those of these transfers and nothing else. -/
def Seen (onBus : Radio → Int32 → Bool) (radio : Radio) (before : List (List Swap))
    (ts : List LinuxRec) (w : LinuxPort × NssLines) : Prop :=
  (w.1.gpio radio).nssReq = true → (w.2 radio).Up
    ∧ ∃ frames, (w.2 radio).chip.frames = before ++ frames
      ∧ List.Forall₂ (Framed onBus) ts frames

theorem seen_same {p p' : LinuxPort} {w w' : NssLines} (hs : Seen onBus radio before ts (p, w))
    (hp : p'.gpio radio = p.gpio radio) (hw : (w radio).Up → w' radio = w radio) :
    Seen onBus radio before ts (p', w') := by
  intro hreq
  have hreq' : (p.gpio radio).nssReq = true := by
    rw [← hp]
    exact hreq
  obtain ⟨hup, hframes⟩ := hs hreq'
  show (w' radio).Up ∧ ∃ frames, (w' radio).chip.frames = before ++ frames ∧ _
  rw [hw hup]
  exact ⟨hup, hframes⟩

theorem set_of_up {l : NssLine} (hl : l.Up) : l.set true = l := by
  obtain ⟨value, chip⟩ := l
  obtain rfl : value = some true := hl.value
  rw [NssLine.set, if_pos rfl, ChipLog.release_idle hl.idle]

theorem seen_gpioInit {g : Gpiod} {p : LinuxPort} {w w' : NssLines} {k : Radio}
    (hline : Requested (p.gpio k) ((Sx126x.gpioInitCtx g k (hw k) p).2.gpio k) (w k) (w' k))
    (hother : ∀ j, j ≠ k → w' j = w j) (hs : Seen onBus radio before ts (p, w)) :
    Seen onBus radio
      (if k = radio ∧ (p.gpio radio).nssReq = false then (w' radio).chip.frames else before)
      (if k = radio ∧ (p.gpio radio).nssReq = false then [] else ts)
      ((Sx126x.gpioInitCtx g k (hw k) p).2, w') := by
  by_cases hk : k = radio
  · subst hk
    intro hreq
    show (w' k).Up ∧ ∃ frames, (w' k).chip.frames = _ ++ frames ∧ _
    cases hheld : (p.gpio k).nssReq with
    | true =>
        obtain ⟨hup, hframes⟩ := hs hheld
        have hsame : w' k = w k := by
          rcases hline hreq with ⟨-, hsame⟩ | hset
          · exact hsame
          · rw [hset, set_of_up hup]
        rw [hsame, if_neg fun hand => Bool.noConfusion hand.2,
          if_neg fun hand => Bool.noConfusion hand.2]
        exact ⟨hup, hframes⟩
    | false =>
        have hset : w' k = (w k).set true := by
          rcases hline hreq with ⟨hnot, -⟩ | hset
          · rw [hheld] at hnot
            cases hnot
          · exact hset
        rw [hset, if_pos ⟨rfl, rfl⟩, if_pos ⟨rfl, rfl⟩]
        exact ⟨⟨rfl, rfl⟩, [], (List.append_nil _).symm, .nil⟩
  · rw [if_neg fun hand => hk hand.1, if_neg fun hand => hk hand.1]
    exact seen_same hs (gpioInitCtx_other hk) fun _ => hother _ (Ne.symm hk)

theorem seen_gpioDeinit {p : LinuxPort} {w w' : NssLines} {k : Radio}
    (hother : ∀ j, j ≠ k → w' j = w j) (hs : Seen onBus radio before ts (p, w)) :
    Seen onBus radio (if k = radio then (w' radio).chip.frames else before)
      (if k = radio then [] else ts) (Sx126x.gpioDeinitCtx k p, w') := by
  by_cases hk : k = radio
  · subst hk
    intro hreq
    simp [Sx126x.gpioDeinitCtx, LinuxPort.withGpio] at hreq
  · rw [if_neg hk, if_neg hk]
    exact seen_same hs (withGpio_other hk ..) fun _ => hother _ (Ne.symm hk)

theorem seen_transfer {p p' : LinuxPort} {w w' : NssLines} {k : Radio} {fds : Nat → Int32}
    {inBuf : Option (List UInt8)} {outBuf : Option Nat} {tr : List (Event SpiCall SpiAnswer)}
    {ret : UInt8 × List UInt8} {x : LinuxRec}
    (h : Exec (busyLines onBus) (spiWriteReadCtx k (hw k) fds inBuf outBuf) p w tr ret p' w')
    (hx : x.label = .transfer k inBuf outBuf (linuxSpiFd fds (hw k)) tr ret) (hraises : x.Raises)
    (hs : Seen onBus radio before ts (p, w)) :
    Seen onBus radio before (if k = radio ∧ tr.any selects = true then ts ++ [x] else ts)
      (p', w') := by
  obtain rfl := spiWriteReadCtx_port _ _ _ _ h
  have hline := h.view (· radio) (busyLines_line radio)
  by_cases hk : k = radio
  · subst hk
    intro hreq
    show (w' k).Up ∧ ∃ frames, (w' k).chip.frames = before ++ frames ∧ _
    obtain ⟨hup, frames, hframes, hall⟩ := hs hreq
    rcases spiWriteReadCtx_line hup _ _ _ _ hline (hraises _ _ _ _ _ _ hx)
      with ⟨hnone, hsame⟩ | ⟨hsome, f, hadd, hserved⟩
    · rw [hsame, if_neg (by simp [hnone])]
      exact ⟨hup, frames, hframes, hall⟩
    · rw [hadd, if_pos ⟨rfl, hsome⟩]
      refine ⟨up_add _ f, frames ++ [f], ?_, List.rel_append hall (.cons ?_ .nil)⟩
      · rw [ChipLog.add, hframes, List.append_assoc]
      · rw [Framed, hx]
        exact hserved
  · rw [if_neg fun hand => hk hand.1]
    exact seen_same hs rfl fun hup => spiWriteReadCtx_other hk hup _ _ _ _ hline

theorem seen_aside {α : Type} {q : Port α} {p p' : LinuxPort} {w w' : NssLines}
    {tr : List (Event SpiCall SpiAnswer)} {ret : α} (hq : q.CallsOnly SpiCall.Aside)
    (hport : Ensures (busyLines onBus) q (fun _ _ p' _ => p' = p) p w)
    (h : Exec (busyLines onBus) q p w tr ret p' w') (hs : Seen onBus radio before ts (p, w)) :
    Seen onBus radio before ts (p', w') := by
  obtain rfl := hport _ _ _ _ h
  have hline := h.view (· radio) (busyLines_line radio)
  exact seen_same hs rfl fun hup => aside_line hq hup _ _ _ _ hline

/-- Step lemma: a step requests the line or gives it up, adds a frame, or
leaves the line as it is. -/
theorem seen_step {x : LinuxRec} (hx : LinuxStep hw onBus x.pre x.label x.post)
    (hraises : x.Raises) (hs : Seen onBus radio before ts x.pre) :
    Seen onBus radio (seenBeforeStep radio before x) (sinceStep radio ts x) x.post := by
  obtain ⟨⟨p, w⟩, label, p', w'⟩ := x
  cases hx with
  | floats h => exact seen_same hs rfl fun hup => (h radio).2 (driven_of_up hup)
  | gpioInit g hline hother => exact seen_gpioInit hline hother hs
  | gpioDeinit hother => exact seen_gpioDeinit hother hs
  | spiHwInit fds h => exact seen_aside (aside_spiHwInit ..) spiHwInit_port h hs
  | resetWrite h => exact seen_aside (aside_resetWriteCtx _) resetWriteCtx_port h hs
  | busyRead _ h => exact seen_aside (aside_busyReadCtx ..) busyReadCtx_port h hs
  | transfer fds h => exact seen_transfer h rfl hraises hs

/-- No line is requested yet. -/
def PoweredOn (w : LinuxPort × NssLines) : Prop := ∀ radio, (w.1.gpio radio).nssReq = false

/-- In every order of the two radios' port functions, whichever of them fail.
By induction on the run; the condition is needed at each transfer, since a
line that stays low would let its chip take the other radio's traffic for
its own. -/
theorem radios_see_own (h0 : PoweredOn w₀) (h : Run (LinuxStep hw onBus) w₀ xs w)
    (hraises : ∀ x ∈ xs, LinuxRec.Raises x) (radio : Radio) :
    Seen onBus radio (seenBefore radio xs) (since radio xs) w := by
  induction h with
  | nil =>
      intro hreq
      rw [h0 radio] at hreq
      cases hreq
  | @snoc xs w l w' _ hs ih =>
      have hpre := ih fun x hx => hraises x (List.mem_append_left _ hx)
      rw [since, seenBefore, List.foldl_append, List.foldl_append]
      exact seen_step (x := ⟨w, l, w'⟩) hs (hraises _ (by simp)) hpre

end Run

/-! ## Both radios on one spidev -/

/-- Every call works and both chips answer `0xA5`. -/
def benchLines (w : NssLines) : (i : SpiCall) → SpiAnswer i × NssLines
  | .setValue k active => ((0 : Int32), Function.update w k ((w k).set active))
  | .ioctlMessage _ ts =>
    let xs := (ts.flatMap SpiIocTransfer.bytes).map (⟨·, 0xA5⟩)
    ((0, received ts xs), fun k => ⟨(w k).value, (w k).chip.clock xs⟩)
  | .ioctlWrite _ _ | .setReset _ _ | .getBusy _ _ => ((0 : Int32), w)

theorem benchLines_answers : Answers benchLines (busyLines fun _ _ => true) := by
  intro w i
  refine interleave_of fun radio => ?_
  cases i with
  | setValue k active =>
      by_cases hk : k = radio
      · subst hk
        simp [benchLines, lineEnv]
      · simp [benchLines, lineEnv, hk, Function.update_of_ne (Ne.symm hk)]
  | ioctlMessage fd ts =>
      refine ⟨rfl, fun _ => ⟨_, ?_, rfl⟩⟩
      simp [Clocked, benchLines, Function.comp_def]
  | _ => exact rfl

def benchHw (_ : Radio) : RadioHwConfig := ⟨some 0, 1000000, 0, 0, 0, 21, 20, 18, 16⟩

def benchGranted : Gpiod :=
  ⟨true, ⟨true, true, true, true⟩, ⟨true, true, true, true⟩, ⟨true, true, true, true⟩⟩

def benchPort : LinuxPort := ⟨false, false, 0, fun _ => ⟨false, false, 0, 0, false⟩⟩

def benchIdle : NssLine := ⟨none, [], none⟩

def benchUp : NssLines := Function.update (fun _ => benchIdle) .sx1262 (benchIdle.set true)

/-- One radio's lines are requested and its status is asked for: its chip has
seen that frame and no other. -/
theorem radios_see_own_status : ∃ xs w,
    Run (LinuxStep benchHw fun _ _ => true) (benchPort, fun _ => benchIdle) xs w
      ∧ (w.2 .sx1262).chip.frames = [[⟨0xC0, 0xA5⟩, ⟨0, 0xA5⟩]]
      ∧ (w.1.gpio .sx1262).nssReq = true
      ∧ Seen (fun _ _ => true) .sx1262 (seenBefore .sx1262 xs) (since .sx1262 xs) w := by
  have hinit : LinuxStep benchHw (fun _ _ => true) (benchPort, fun _ => benchIdle)
      (.gpioInit .sx1262)
      ((Sx126x.gpioInitCtx benchGranted .sx1262 (benchHw .sx1262) benchPort).2, benchUp) := by
    refine .gpioInit benchGranted (fun _ => .inr ?_) fun k hk => ?_
    · exact Function.update_self ..
    · exact Function.update_of_ne hk ..
  have heval : ∃ tr ret w, (spiWriteReadCtx .sx1262 (benchHw .sx1262) (fun _ => 3) (some [0xC0])
        (some 1)).eval benchLines 1
        ((Sx126x.gpioInitCtx benchGranted .sx1262 (benchHw .sx1262) benchPort).2, benchUp)
        = some (tr, ret, w)
      ∧ (w.2 .sx1262).chip.frames = [[⟨0xC0, 0xA5⟩, ⟨0, 0xA5⟩]]
      ∧ (w.1.gpio .sx1262).nssReq = true ∧ ∀ ev ∈ tr, staysLow ev = false :=
    ⟨_, _, _, rfl, by decide, by decide, by decide⟩
  obtain ⟨tr, ret, ⟨p, w⟩, heval, hframes, hreq, hraised⟩ := heval
  have hrun := (Run.nil.snoc hinit).snoc
    (.transfer (fun _ => 3) (Prog.eval_exec benchLines_answers heval))
  refine ⟨_, _, hrun, hframes, hreq, radios_see_own (fun _ => rfl) hrun ?_ .sx1262⟩
  intro x hx radio inBuf outBuf fd tr' ret' hlabel
  simp only [List.nil_append, List.singleton_append, List.mem_cons, List.not_mem_nil,
    or_false] at hx
  rcases hx with rfl | rfl
  · cases hlabel
  · cases hlabel
    exact hraised

end Linux

end LeosSdk
