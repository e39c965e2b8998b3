import LeosSdk.Run

/-!
# SX126x: data and driver interface

The public types of `leos/sx126x.h`, the per-radio context of `sx126x_priv.h`,
and the calls `sx126x.c` makes: the vendor driver's functions, the platform
clock, and the two `volatile` fields shared with the DIO1 interrupt handler
(`irq_pending`, `irq_latched_at_ms`), which are therefore not part of the
private context `Ctx` but read and written through calls.

That choice decides how a radio is modelled everywhere below. An API function
is a program over `Ctx` that makes calls; who answers them is an environment,
and an environment may change between two calls. So an interrupt that runs in
the middle of a function is a move of the environment, and no function has to
be cut open for it. A result proved for an arbitrary environment holds
whatever the vendor driver does; the chip of `RadioChip` or the radio on the
air of `RadioAir` are environments that answer as such a thing would.

C enumerations whose `switch` has a `default` arm keep it: `other` stands for
a value outside the enumerators. The vendor driver is not part of this
repository; a call's answer is whatever the driver returns. What the code
takes from it beyond the answers is in `Answer`: the interrupt handler answers
with the callback invocations it made.
-/

namespace LeosSdk

namespace Sx126x

/-! ## Public types -/

inductive Radio where
  | sx1262 | sx1268
deriving DecidableEq, Repr

inductive RadioStatus where
  | ok | errArg | errState | errIo | errTimeout | errBusy | errDriver
deriving DecidableEq, Repr

inductive RadioMode where
  | uninit | standby | rx | tx
deriving DecidableEq, Repr

inductive RadioBandwidth where
  | bw7Khz | bw10Khz | bw15Khz | bw20Khz | bw31Khz | bw41Khz | bw62Khz
  | bw125Khz | bw250Khz | bw500Khz
  | other (raw : Nat)
deriving DecidableEq, Repr

inductive RadioSpreadingFactor where
  | sf5 | sf6 | sf7 | sf8 | sf9 | sf10 | sf11 | sf12
  | other (raw : Nat)
deriving DecidableEq, Repr

inductive RadioCodingRate where
  | cr4_5 | cr4_6 | cr4_7 | cr4_8
  | other (raw : Nat)
deriving DecidableEq, Repr

inductive RadioTcxoVoltage where
  | v1p6 | v1p7 | v1p8 | v2p2 | v2p4 | v2p7 | v3p0 | v3p3
  | other (raw : Nat)
deriving DecidableEq, Repr

structure RadioHwConfig where
  platformSpi : Option Nat
  spiBaudHz : UInt32
  pinSck : UInt32
  pinMosi : UInt32
  pinMiso : UInt32
  pinNss : UInt32
  pinBusy : UInt32
  pinReset : UInt32
  pinDio1 : UInt32
deriving DecidableEq, Repr

structure RadioConfig where
  rfFrequencyHz : UInt32
  txTimeoutMs : UInt32
  txPowerDbm : Int8
  preambleLenSymbols : UInt16
  bandwidth : RadioBandwidth
  spreadingFactor : RadioSpreadingFactor
  codingRate : RadioCodingRate
  syncWord : UInt16
  crcEnabled : Bool
  iqInverted : Bool
  dio2RfSwitchEnable : Bool
  dio3TcxoEnable : Bool
  tcxoVoltage : RadioTcxoVoltage
  tcxoDelayUs : UInt32
deriving DecidableEq, Repr

structure RadioPacketInfo where
  rssiDbm : Int16
  snrDb : Int8
  crcOk : Bool
deriving DecidableEq, Repr

/-! ## Vendor enumerations -/

inductive LoraBandwidth where
  | khz7p81 | khz10p42 | khz15p63 | khz20p83 | khz31p25 | khz41p67 | khz62p50
  | khz125 | khz250 | khz500
deriving DecidableEq, Repr

inductive LoraSf where
  | sf5 | sf6 | sf7 | sf8 | sf9 | sf10 | sf11 | sf12
deriving DecidableEq, Repr

inductive LoraCr where
  | cr4_5 | cr4_6 | cr4_7 | cr4_8
deriving DecidableEq, Repr

inductive TcxoVoltage where
  | v1p6 | v1p7 | v1p8 | v2p2 | v2p4 | v2p7 | v3p0 | v3p3
deriving DecidableEq, Repr

inductive ClockSource where
  | rc13m | xtal32Mhz
deriving DecidableEq, Repr

/-- The ten interrupt sources of the chip (`LEOS_SX126X_IRQ_MASK_ALL` is
`0x03FF`). -/
inductive Irq where
  | txDone | rxDone | preambleDetected | syncWordValid | headerValid
  | headerErr | crcErr | cadDone | cadDetected | timeout
deriving DecidableEq, Repr

/-- A 16-bit mask of interrupt sources. -/
abbrev IrqMask := Irq → Bool

def irqMaskAll : IrqMask := fun _ => true
def irqMaskNone : IrqMask := fun _ => false
def irqMaskTx : IrqMask := fun q => q == .txDone || q == .timeout
def irqMaskRx : IrqMask := fun q => q == .rxDone || q == .timeout || q == .crcErr

def maxPayloadLen : Nat := 255
def paDutyCycle : UInt8 := 0x02
def paHpMax : UInt8 := 0x03
def rxGain : UInt8 := 0x94
def ocp : UInt8 := 0x38
def txModulationDefault : UInt8 := 0x04
def txClampMask : UInt8 := 0x1E
def symbNumTimeout : UInt8 := 0

/-! ## The per-radio context -/

/-- The flags of `sx1262_handle_t` this code reads. -/
structure Handle where
  txDone : Bool
  timeout : Bool
deriving DecidableEq, Repr

/-- `leos_sx126x_ctx_t` without its two `volatile` fields. -/
structure Ctx where
  radio : Radio
  handle : Handle
  hwConfig : RadioHwConfig
  config : RadioConfig
  mode : RadioMode
  initialized : Bool
  txInFlight : Bool
  txStartedAtMs : UInt64
  lastTxStatus : RadioStatus
  rxPending : Bool
  rxOverrun : Bool
  rxBuf : Fin maxPayloadLen → UInt8
  rxLen : Nat
  rxInfo : RadioPacketInfo

/-- The two `volatile` fields. -/
structure Dio1Latch where
  irqPending : Bool
  irqLatchedAtMs : UInt64
deriving DecidableEq, Repr

/-! ## Calls -/

/-- Memory behind a pointer. -/
abbrev Buf := Nat → UInt8

/-- One invocation of the linked receive callback: the interrupt it is told
of, and the buffer and length it is handed, if any. -/
structure Report where
  type : Irq
  buf : Option Buf
  len : UInt16

/-- Readings of `sx1262_get_lora_packet_status`, after the casts
`(int16_t)rssi_pkt` and `(int8_t)snr_pkt` of the only code that uses them. -/
structure PacketStatus where
  rssiPkt : Int16
  snrPkt : Int8
deriving DecidableEq, Repr

/-- Driver functions that only return a result code. -/
inductive Cmd where
  | init
  | deinit
  | setStandby (source : ClockSource)
  | setDio3AsTcxoCtrl (voltage : TcxoVoltage) (delay : UInt32)
  | setDio2AsRfSwitchCtrl (enable : Bool)
  | clearDeviceErrors
  | setStopTimerOnPreamble (enable : Bool)
  | setRegulatorModeDcDcLdo
  | setPaConfig (dutyCycle hpMax : UInt8)
  | setRxTxFallbackModeStdbyXosc
  | setPacketTypeLora
  | setTxParamsRamp10us (dbm : Int8)
  | setLoraModulationParams (sf : LoraSf) (bw : LoraBandwidth) (cr : LoraCr)
      (lowDataRateOptimize : Bool)
  | setRfFrequency (reg : UInt32)
  | setBufferBaseAddress (tx rx : UInt8)
  | setLoraPacketParamsExplicit (preamble : UInt16) (payloadLen : UInt8)
      (crc iqInverted : Bool)
  | setLoraSymbNumTimeout (n : UInt8)
  | setLoraSyncWord (word : UInt16)
  | setTxModulation (modulation : UInt8)
  | setRxGain (gain : UInt8)
  | setOcp (ocp : UInt8)
  | setTxClampConfig (clamp : UInt8)
  | clearIrqStatus (mask : IrqMask)
  | setDioIrqParams (irqMask dio1Mask dio2Mask dio3Mask : IrqMask)
  | writeBuffer (offset : UInt8) (data : List UInt8)
  | setTx (timeout : UInt32)
  | continuousReceive

/-- Everything `sx126x.c` asks of the outside. The driver functions that
return no more than a result code are one constructor, `cmd`, so that a chain
of them has one rule. -/
inductive Call where
  | cmd (c : Cmd)
  | timeoutConvertToRegister (us : UInt32)
  | frequencyConvertToRegister (hz : UInt32)
  | getTxModulation
  | getTxClampConfig
  | irqHandler
  | getLoraPacketStatus
  | platformNowMs
  | irqPending
  | setIrqPending (b : Bool)
  | setIrqLatchedAtMs (ms : UInt64)

/-- Answers. `irqHandler` answers with the callback invocations it made, in
order, and its result code. -/
abbrev Answer : Call → Type
  | .cmd _ => UInt8
  | .timeoutConvertToRegister _ => UInt8 × UInt32
  | .frequencyConvertToRegister _ => UInt8 × UInt32
  | .getTxModulation => UInt8 × UInt8
  | .getTxClampConfig => UInt8 × UInt8
  | .irqHandler => List Report × UInt8
  | .getLoraPacketStatus => UInt8 × PacketStatus
  | .platformNowMs => UInt64
  | .irqPending => Bool
  | .setIrqPending _ => Unit
  | .setIrqLatchedAtMs _ => Unit

abbrev Api := Prog Ctx Call Answer

abbrev call (i : Call) : Api (Answer i) := Prog.ask i

end Sx126x

end LeosSdk
