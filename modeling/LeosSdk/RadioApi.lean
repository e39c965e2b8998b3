import LeosSdk.RadioTypes

/-!
# SX126x: the API functions

`sx126x.c`, function by function, each under its name. A driver call followed
by `if (status != LEOS_RADIO_OK) return status;` is `thenOk`; everything else
is written out in the order of the source, with the guards first. Logging is
left out.

A function is a program (`Api`) that reads and writes the context of its radio
and makes calls. Three of them are cut where the source goes on in another
state: `armTx` is `leos_sx126x_start_tx` from the loaded buffer on, `enterRx`
is `leos_sx126x_start_rx` once the chip receives, and `pollTx` is what
`leos_sx126x_poll` does about a transmission after it has serviced the
interrupt. The proofs of `RadioSteps` follow these cuts, one lemma a piece.

The receive callback runs inside `sx1262_irq_handler`. The handler is part of
the driver, so it answers with the invocations it made, and `deliver` runs the
callback for each of them in turn: the latch of the packet, with its own
question to the driver about the packet's metadata, happens there. What the
handler does to the handle's `tx_done` and `timeout` flags is applied with
each invocation, as the vendor's code sets a flag before it calls back.

`handleDio1Irq` is the interrupt handler of the GPIO side. It only touches the
two shared fields, so it is a function of them and runs wherever an
environment lets it.
-/

namespace LeosSdk

namespace Sx126x

open Prog (modify)

/-! ## Conversions -/

def toVendorBw : RadioBandwidth → Option LoraBandwidth
  | .bw7Khz => some .khz7p81
  | .bw10Khz => some .khz10p42
  | .bw15Khz => some .khz15p63
  | .bw20Khz => some .khz20p83
  | .bw31Khz => some .khz31p25
  | .bw41Khz => some .khz41p67
  | .bw62Khz => some .khz62p50
  | .bw125Khz => some .khz125
  | .bw250Khz => some .khz250
  | .bw500Khz => some .khz500
  | .other _ => none

def toVendorSf : RadioSpreadingFactor → Option LoraSf
  | .sf5 => some .sf5
  | .sf6 => some .sf6
  | .sf7 => some .sf7
  | .sf8 => some .sf8
  | .sf9 => some .sf9
  | .sf10 => some .sf10
  | .sf11 => some .sf11
  | .sf12 => some .sf12
  | .other _ => none

def toVendorCr : RadioCodingRate → Option LoraCr
  | .cr4_5 => some .cr4_5
  | .cr4_6 => some .cr4_6
  | .cr4_7 => some .cr4_7
  | .cr4_8 => some .cr4_8
  | .other _ => none

def toVendorTcxoVoltage : RadioTcxoVoltage → Option TcxoVoltage
  | .v1p6 => some .v1p6
  | .v1p7 => some .v1p7
  | .v1p8 => some .v1p8
  | .v2p2 => some .v2p2
  | .v2p4 => some .v2p4
  | .v2p7 => some .v2p7
  | .v3p0 => some .v3p0
  | .v3p3 => some .v3p3
  | .other _ => none

def lowDataRateOptimize (cfg : RadioConfig) : Bool :=
  match cfg.bandwidth with
  | .bw125Khz => cfg.spreadingFactor == .sf11 || cfg.spreadingFactor == .sf12
  | .bw250Khz => cfg.spreadingFactor == .sf12
  | _ => false

def mapStatus (rc : UInt8) : RadioStatus :=
  if rc = 0 then .ok
  else if rc = 4 then .errBusy
  else if rc = 5 ∨ rc = 6 then .errTimeout
  else .errDriver

/-! ## Helpers of the embedding -/

/-- `leos_sx126x_map_status(sx1262_…(&ctx->handle, …))`. -/
def driver (c : Cmd) : Api RadioStatus := do
  return mapStatus (← call (.cmd c))

/-- `if (status != LEOS_RADIO_OK) return status;` between two steps: the
second runs only if the first is OK, and otherwise the first one's status is
the result. -/
def thenOk (p q : Api RadioStatus) : Api RadioStatus := do
  let status ← p
  if status ≠ .ok then return status
  q

/-! ## Configuration -/

def applyPacketParams (payloadLen : UInt8) : Api RadioStatus := do
  let ctx ← Prog.read
  driver (.setLoraPacketParamsExplicit ctx.config.preambleLenSymbols payloadLen
    ctx.config.crcEnabled ctx.config.iqInverted)

/-- The `dio3_tcxo_enable` block of `leos_sx126x_apply_config`. -/
def applyTcxo (cfg : RadioConfig) : Api RadioStatus :=
  if cfg.dio3TcxoEnable then
    match toVendorTcxoVoltage cfg.tcxoVoltage with
    | none => return .errArg
    | some tcxoVoltage => do
      let (rc, tcxoDelayReg) ← call (.timeoutConvertToRegister cfg.tcxoDelayUs)
      if rc ≠ 0 then return .errArg
      driver (.setDio3AsTcxoCtrl tcxoVoltage tcxoDelayReg)
  else return .ok

/-- The `dio2_rf_switch_enable` block of `leos_sx126x_apply_config`. -/
def applyRfSwitch (cfg : RadioConfig) : Api RadioStatus :=
  if cfg.dio2RfSwitchEnable then driver (.setDio2AsRfSwitchCtrl true)
  else return .ok

/-- Frequency conversion and `sx1262_set_rf_frequency`. -/
def applyFrequency (cfg : RadioConfig) : Api RadioStatus := do
  let (rc, freqReg) ← call (.frequencyConvertToRegister cfg.rfFrequencyHz)
  let status := mapStatus rc
  if status ≠ .ok then return status
  driver (.setRfFrequency freqReg)

/-- Read-modify-write of the TX modulation register. -/
def applyTxModulation : Api RadioStatus := do
  let (rc, modulation) ← call .getTxModulation
  let status := mapStatus rc
  if status ≠ .ok then return status
  driver (.setTxModulation (modulation ||| txModulationDefault))

/-- Read-modify-write of the TX clamp register. -/
def applyTxClamp : Api RadioStatus := do
  let (rc, clamp) ← call .getTxClampConfig
  let status := mapStatus rc
  if status ≠ .ok then return status
  driver (.setTxClampConfig (clamp ||| txClampMask))

def applyConfig : Api RadioStatus := do
  let ctx ← Prog.read
  let cfg := ctx.config
  match toVendorSf cfg.spreadingFactor, toVendorBw cfg.bandwidth,
      toVendorCr cfg.codingRate with
  | some sf, some bw, some cr =>
    thenOk (driver (.setStandby .rc13m)) <|
    thenOk (applyTcxo cfg) <|
    thenOk (applyRfSwitch cfg) <|
    thenOk (driver .clearDeviceErrors) <|
    thenOk (driver (.setStandby .xtal32Mhz)) <|
    thenOk (driver (.setStopTimerOnPreamble false)) <|
    thenOk (driver .setRegulatorModeDcDcLdo) <|
    thenOk (driver (.setPaConfig paDutyCycle paHpMax)) <|
    thenOk (driver .setRxTxFallbackModeStdbyXosc) <|
    thenOk (driver .setPacketTypeLora) <|
    thenOk (driver (.setTxParamsRamp10us cfg.txPowerDbm)) <|
    thenOk (driver (.setLoraModulationParams sf bw cr (lowDataRateOptimize cfg))) <|
    thenOk (applyFrequency cfg) <|
    thenOk (driver (.setBufferBaseAddress 0 0)) <|
    thenOk (applyPacketParams maxPayloadLen.toUInt8) <|
    thenOk (driver (.setLoraSymbNumTimeout symbNumTimeout)) <|
    thenOk (driver (.setLoraSyncWord ((cfg.syncWord <<< 8) ||| cfg.syncWord))) <|
    thenOk applyTxModulation <|
    thenOk (driver (.setRxGain rxGain)) <|
    thenOk (driver (.setOcp ocp)) <|
    thenOk applyTxClamp <|
    driver (.clearIrqStatus irqMaskAll)
  | _, _, _ => return .errArg

/-! ## Receiving -/

/-- `memcpy(ctx->rx_buf, buf, len)`: bytes from `len` on keep their value. -/
def memcpyRx (old : Fin maxPayloadLen → UInt8) (buf : Buf) (len : Nat) :
    Fin maxPayloadLen → UInt8 :=
  fun i => if i.val < len then buf i else old i

def latchRx (buf : Option Buf) (len : UInt16) : Api Unit := do
  let ctx ← Prog.read
  match buf with
  | none => return ()
  | some buf =>
    if ctx.rxPending then
      modify fun ctx => { ctx with rxOverrun := true }
    else do
      let len := if maxPayloadLen < len.toNat then maxPayloadLen else len.toNat
      modify fun ctx => { ctx with
        rxBuf := memcpyRx ctx.rxBuf buf len
        rxLen := len
        rxInfo := { ctx.rxInfo with crcOk := true } }
      let (rc, st) ← call .getLoraPacketStatus
      if rc = 0 then
        modify fun ctx => { ctx with
          rxInfo := { ctx.rxInfo with rssiDbm := st.rssiPkt, snrDb := st.snrPkt } }
      else
        modify fun ctx => { ctx with
          rxInfo := { ctx.rxInfo with rssiDbm := 0, snrDb := 0 } }
      modify fun ctx => { ctx with rxPending := true }

def receiveCallbackImpl (type : Irq) (buf : Option Buf) (len : UInt16) :
    Api Unit := do
  match type with
  | .txDone => modify fun ctx => { ctx with mode := .standby }
  | .rxDone => latchRx buf len
  | .crcErr =>
    modify fun ctx => if ctx.mode = .tx then { ctx with mode := .standby } else ctx
  | .timeout =>
    modify fun ctx => if ctx.mode = .tx then { ctx with mode := .standby } else ctx
  | _ => return ()

/-! ## The vendor interrupt handler

`sx1262_irq_handler` sets `handle.tx_done`/`handle.timeout` for the bits it
reports and invokes the linked callback once per bit; it never clears
those flags. -/

def Handle.note (h : Handle) (type : Irq) : Handle :=
  { txDone := h.txDone || type == .txDone, timeout := h.timeout || type == .timeout }

def deliver : List Report → Api Unit
  | [] => return ()
  | rep :: reps => do
    modify fun ctx => { ctx with handle := ctx.handle.note rep.type }
    receiveCallbackImpl rep.type rep.buf rep.len
    deliver reps

def sx1262IrqHandler : Api UInt8 := do
  let (reports, rc) ← call .irqHandler
  deliver reports
  return rc

def serviceDeferredIrq : Api RadioStatus := do
  let pending ← call .irqPending
  if !pending then return .ok
  call (.setIrqPending false)
  return mapStatus (← sx1262IrqHandler)

/-! ## Public API -/

/-- What `leos_sx126x_init` resets before it touches the chip;
`leos_sx126x_link_handle` zeroes the handle. -/
def Ctx.reset (ctx : Ctx) (hwCfg : RadioHwConfig) (cfg : RadioConfig) : Ctx :=
  { ctx with
    rxBuf := fun _ => 0
    hwConfig := hwCfg
    config := cfg
    txInFlight := false
    txStartedAtMs := 0
    lastTxStatus := .ok
    rxPending := false
    rxOverrun := false
    rxLen := 0
    rxInfo := { rssiDbm := 0, snrDb := 0, crcOk := false }
    mode := .uninit
    handle := { txDone := false, timeout := false } }

def init (hwCfg : Option RadioHwConfig) (cfg : Option RadioConfig) :
    Api RadioStatus := do
  match hwCfg, cfg with
  | some hwCfg, some cfg =>
    let ctx ← Prog.read
    if ctx.initialized then return .errState
    modify (·.reset hwCfg cfg)
    call (.setIrqPending false)
    call (.setIrqLatchedAtMs 0)
    let status ← driver .init
    if status ≠ .ok then return status
    modify fun ctx => { ctx with initialized := true }
    let status ← applyConfig
    if status ≠ .ok then
      let _ ← call (.cmd .deinit)
      modify fun ctx => { ctx with initialized := false, mode := .uninit }
      return status
    modify fun ctx => { ctx with mode := .standby }
    return .ok
  | _, _ => return .errArg

/-- The software side of arming a transmission, just before `sx1262_set_tx`
(the `volatile` fields aside). -/
def Ctx.arm (ctx : Ctx) (nowMs : UInt64) : Ctx :=
  { ctx with
    txInFlight := true
    txStartedAtMs := nowMs
    lastTxStatus := .ok
    mode := .tx }

/-- End a transmission with a status: `start_tx`'s failed arming and the
three branches of `poll`. -/
def Ctx.endTx (ctx : Ctx) (status : RadioStatus) : Ctx :=
  { ctx with
    txInFlight := false
    txStartedAtMs := 0
    lastTxStatus := status
    mode := .standby }

/-- The part of `leos_sx126x_start_tx` after the buffer is loaded. -/
def armTx : Api RadioStatus := do
  modify fun ctx => { ctx with handle := { txDone := false, timeout := false } }
  call (.setIrqPending false)
  call (.setIrqLatchedAtMs 0)
  let nowMs ← call .platformNowMs
  modify (·.arm nowMs)
  let ctx ← Prog.read
  let status ← driver (.setTx (ctx.config.txTimeoutMs * 1000))
  if status ≠ .ok then
    modify (·.endTx status)
    return status
  return .ok

def startTx (data : Option Buf) (len : Nat) : Api RadioStatus := do
  match data with
  | none => return .errArg
  | some data =>
    if len = 0 ∨ maxPayloadLen < len then return .errArg
    let ctx ← Prog.read
    if !ctx.initialized then return .errState
    if ctx.txInFlight || ctx.mode == .tx then return .errBusy
    thenOk (driver (.setDioIrqParams irqMaskTx irqMaskTx irqMaskNone irqMaskNone)) <|
    thenOk (driver (.clearIrqStatus irqMaskAll)) <|
    thenOk (driver (.setStandby .xtal32Mhz)) <|
    thenOk (applyPacketParams len.toUInt8) <|
    thenOk (driver (.writeBuffer 0 ((List.range len).map data))) <|
    armTx

/-- The part of `leos_sx126x_start_rx` after `sx1262_continuous_receive`. -/
def enterRx : Api RadioStatus := do
  call (.setIrqPending false)
  modify fun ctx => { ctx with mode := .rx }
  return .ok

def startRx : Api RadioStatus := do
  let ctx ← Prog.read
  if !ctx.initialized then return .errState
  if ctx.mode = .tx then return .errBusy
  thenOk (driver (.setDioIrqParams irqMaskRx irqMaskRx irqMaskNone irqMaskNone)) <|
  thenOk (driver (.clearIrqStatus irqMaskAll)) <|
  thenOk (applyPacketParams maxPayloadLen.toUInt8) <|
  thenOk (driver .continuousReceive) <|
  enterRx

def packetAvailable (ctx : Ctx) : Bool := ctx.rxPending

/-- What `leos_sx126x_read` leaves in the caller's memory. -/
structure ReadResult where
  status : RadioStatus
  written : List UInt8
  outLen : Option Nat
  info : Option RadioPacketInfo
deriving DecidableEq, Repr

def ReadResult.failed (status : RadioStatus) : ReadResult :=
  { status, written := [], outLen := none, info := none }

/-- The first `rx_len` bytes of `rx_buf`. -/
def Ctx.rxBytes (ctx : Ctx) : List UInt8 :=
  (List.ofFn ctx.rxBuf).take ctx.rxLen

/-- `bufNull`, `outLenNull` and `infoNull` say which pointer arguments are
`NULL`. -/
def read (bufNull : Bool) (bufSize : Nat) (outLenNull infoNull : Bool) :
    Api ReadResult := do
  if bufNull || outLenNull then return .failed .errArg
  let ctx ← Prog.read
  if !ctx.initialized then return .failed .errState
  if !ctx.rxPending then return .failed .errState
  if bufSize < ctx.rxLen then return .failed .errArg
  modify fun ctx => { ctx with rxPending := false, rxLen := 0 }
  return {
    status := .ok
    written := ctx.rxBytes
    outLen := some ctx.rxLen
    info := if infoNull then none else some ctx.rxInfo }

def standby : Api RadioStatus := do
  let ctx ← Prog.read
  if !ctx.initialized then return .errState
  let status ← driver (.setStandby .xtal32Mhz)
  if status ≠ .ok then return status
  modify fun ctx => { ctx with mode := .standby }
  return .ok

/-- Runs in interrupt context; `initialized` is the context's field and
`nowMs` the clock reading at that moment. -/
def handleDio1Irq (initialized : Bool) (nowMs : UInt64) (latch : Dio1Latch) :
    Dio1Latch :=
  if initialized then { irqPending := true, irqLatchedAtMs := nowMs } else latch

/-- `poll` after a successful `leos_sx126x_service_deferred_irq`. -/
def pollTx : Api RadioStatus := do
  let ctx ← Prog.read
  if !ctx.txInFlight then return .ok
  let nowMs ← call .platformNowMs
  if ctx.handle.txDone then
    modify (·.endTx .ok)
    return .ok
  if ctx.handle.timeout || ctx.config.txTimeoutMs.toUInt64 ≤ nowMs - ctx.txStartedAtMs then
    modify (·.endTx .errTimeout)
    return .ok
  return .ok

def poll : Api RadioStatus := do
  let ctx ← Prog.read
  if !ctx.initialized then return .errState
  let status ← serviceDeferredIrq
  if status ≠ .ok then
    modify fun ctx => if ctx.txInFlight then ctx.endTx status else ctx
    return status
  pollTx

def txInFlight (ctx : Ctx) : Bool := ctx.txInFlight

def lastTxStatus (ctx : Ctx) : RadioStatus := ctx.lastTxStatus

def mode (ctx : Ctx) : RadioMode := ctx.mode

def getDefaultConfig (radio : Radio) : RadioConfig where
  rfFrequencyHz := match radio with
    | .sx1262 => 915000000
    | .sx1268 => 433000000
  txTimeoutMs := 200
  txPowerDbm := 17
  preambleLenSymbols := 12
  bandwidth := .bw125Khz
  spreadingFactor := .sf9
  codingRate := .cr4_5
  syncWord := 0x34
  crcEnabled := true
  iqInverted := false
  dio2RfSwitchEnable := false
  dio3TcxoEnable := false
  tcxoVoltage := .v1p6
  tcxoDelayUs := 0

end Sx126x

end LeosSdk
