import LeosSdk.CanIrq

/-!
# MCP251XFD: bringing a device up and down

`leos_mcp251xfd_init` and `leos_mcp251xfd_deinit` of `mcp251xfd.c`. The GPIO
handler may run before any of their calls, so the table `s_ctx_by_gpio` and
the contexts, which it reads, are reached through calls too; what is private
is the caller's `MCP251XFD` object. Logging is left out.

A context is a pointer, and `writeCtx`, `readPinIrq` and `free` name it:
whether it is allocated at that moment is the environment's business, so a use
of a freed context is something a run can show rather than something the model
excludes. The result of `malloc` is a pointer or `NULL`, and holds whatever
was there before. `init` is written out in three pieces, the GPIO calls
(`setupIrq`), the part that talks to the controller (`configure`) and what is
around them, in the order of the source: the object gets its context before
the pin is checked, which is what the later modules turn on.

The copying of the configuration is here as the source has it (`mcpConfig`),
with the data bitrate in the place of the bandwidth; `CanConfigure` says what
follows from it.
-/

namespace LeosSdk

namespace Mcp251xfd

open Prog (modify)

abbrev Ptr := Nat

/-! ## Data -/

/-- `leos_mcp251xfd_hw_t`. -/
structure Hw where
  spi : Nat
  pinMosi : UInt8
  pinMiso : UInt8
  pinSck : UInt8
  pinCs : UInt8
  pinInt : UInt8
  pinIrq : UInt8
  spiBaud : UInt32
deriving DecidableEq, Repr

/-- `leos_mcp251xfd_config_t`; the library's enumerations and sets by their
values, the FIFO and filter lists by address and length. -/
structure Config where
  xtalHz : UInt32
  oscHz : UInt32
  sysclkConfig : Nat
  nominalBitrate : UInt32
  dataBitrate : UInt32
  bandwidth : Nat
  ctrlFlags : Nat
  irqFlags : Nat
  fifo : Ptr
  numFifos : Nat
  filter : Ptr
  numFilters : Nat
  initialMode : Nat
deriving DecidableEq, Repr

/-- `leos_mcp251xfd_ctx_t`. -/
structure DriverCtx where
  hw : Hw
  cfg : Config
  irqPending : Bool
  rxCb : Option RxCb
  cbUserReference : Option UserReference
deriving DecidableEq, Repr

/-- The fields of `MCP251XFD` that `init` fills, without its four HAL
functions, which are the same for every device. -/
structure Device where
  userDriverData : Option Ptr
  spiChipSelect : UInt8
  spiClockSpeed : UInt32
  interfaceDevice : Option Hw
  gpiosOutLevel : UInt8
deriving DecidableEq, Repr

def Device.zero : Device := ⟨none, 0, 0, none, 0⟩

inductive GpioPinMode where
  | asGpio0Out | asInt1Rx
deriving DecidableEq, Repr

inductive OutMode where
  | pushPull
deriving DecidableEq, Repr

/-- `MCP251XFD_Config`, without the two addresses results are stored at. -/
structure McpConfig where
  gpio0PinMode : GpioPinMode
  gpio1PinMode : GpioPinMode
  intsOutMode : OutMode
  txcanOutMode : OutMode
  xtalFreq : UInt32
  oscFreq : UInt32
  sysclkConfig : Nat
  nominalBitrate : UInt32
  dataBitrate : UInt32
  bandwidth : UInt32
  controlFlags : Nat
  sysInterruptFlags : Nat
deriving DecidableEq, Repr

/-- `Bandwidth` gets the data bitrate, as in the source. -/
def mcpConfig (config : Config) : McpConfig where
  gpio0PinMode := .asGpio0Out
  gpio1PinMode := .asInt1Rx
  intsOutMode := .pushPull
  txcanOutMode := .pushPull
  xtalFreq := config.xtalHz
  oscFreq := config.oscHz
  sysclkConfig := config.sysclkConfig
  nominalBitrate := config.nominalBitrate
  dataBitrate := config.dataBitrate
  bandwidth := config.dataBitrate
  controlFlags := config.ctrlFlags
  sysInterruptFlags := config.irqFlags

/-- The library's error codes this code names, as a parameter. All that
matters is that they differ from the code of success. -/
structure Errors where
  outOfMemory : ErrorResult
  outOfRange : ErrorResult
  frequencyError : ErrorResult
  outOfMemory_ne : outOfMemory ≠ errOk
  outOfRange_ne : outOfRange ≠ errOk
  frequencyError_ne : frequencyError ≠ errOk

/-- `MCP251XFD_TS_CAN20_SOF_CANFD_SOF`. -/
inductive TimeStampMode where
  | can20SofCanfdSof
deriving DecidableEq, Repr

/-- `MCP251XFD_D_NET_FILTER_DISABLE`. -/
inductive DNetFilter where
  | disable
deriving DecidableEq, Repr

/-! ## Calls -/

inductive InitCall where
  | malloc
  | writeCtx (ctx : Ptr) (value : DriverCtx)
  | readPinIrq (ctx : Ptr)
  | free (ctx : Ptr)
  | writeTable (gpio : UInt8) (ctx : Option Ptr)
  | gpioInit (pin : UInt8)
  | gpioSetDirIn (pin : UInt8)
  | gpioPullUp (pin : UInt8)
  | gpioSetIrqCallback
  | irqSetEnabled (enabled : Bool)
  | gpioSetIrqEnabled (pin : UInt8) (events : UInt32) (enabled : Bool)
  | sleepMs (ms : UInt32)
  | initMcp251xfd (config : McpConfig)
  | configureTimeStamp (enable : Bool) (mode : TimeStampMode) (prescaler : UInt16)
      (interruptBaseCounter : Bool)
  | configureFifoList (fifo : Ptr) (numFifos : Nat)
  | configureFilterList (dnet : DNetFilter) (filter : Ptr) (numFilters : Nat)
  | requestOperationMode (mode : Nat) (waitOperationChange : Bool)

abbrev InitAnswer : InitCall → Type
  | .malloc => Option Ptr
  | .readPinIrq _ => UInt8
  | .initMcp251xfd _ => ErrorResult
  | .configureTimeStamp .. => ErrorResult
  | .configureFifoList .. => ErrorResult
  | .configureFilterList .. => ErrorResult
  | .requestOperationMode .. => ErrorResult
  | _ => Unit

abbrev Init := Prog Device InitCall InitAnswer

abbrev initCall (i : InitCall) : Init (InitAnswer i) := Prog.ask i

/-! ## init and deinit -/

/-- `count_of(s_ctx_by_gpio)`. -/
abbrev tableLength : Nat := 48

/-- `leos_mcp251xfd_attach_gpio_interrupt`. -/
def attachGpioInterrupt : Init Unit := initCall .gpioSetIrqCallback

/-- The part of `leos_mcp251xfd_init` that talks to the controller. Every call
but the last ends `init` if it fails; the last one's result is returned. -/
def configure (X : Errors) (config : Config) : Init ErrorResult := do
  initCall (.sleepMs 3)
  let result ← initCall (.initMcp251xfd (mcpConfig config))
  if result = X.frequencyError then return X.frequencyError
  if result ≠ errOk then return result
  let timestampResult ← initCall (.configureTimeStamp true .can20SofCanfdSof 40 false)
  if timestampResult ≠ errOk then return timestampResult
  let fifoResult ← initCall (.configureFifoList config.fifo config.numFifos)
  if fifoResult ≠ errOk then return fifoResult
  let filterResult ← initCall (.configureFilterList .disable config.filter config.numFilters)
  if filterResult ≠ errOk then return filterResult
  initCall (.requestOperationMode config.initialMode true)

/-- The GPIO calls of `leos_mcp251xfd_init`. -/
def setupIrq (hw : Hw) (attachInterrupt : Bool) : Init Unit := do
  initCall (.gpioInit hw.pinIrq)
  initCall (.gpioSetDirIn hw.pinIrq)
  initCall (.gpioPullUp hw.pinIrq)
  if attachInterrupt then attachGpioInterrupt
  initCall (.irqSetEnabled true)
  initCall (.gpioSetIrqEnabled hw.pinIrq gpioIrqEdgeFall true)

def init (X : Errors) (hw : Hw) (config : Config) (attachInterrupt : Bool) :
    Init ErrorResult := do
  modify fun _ => .zero
  let ctx ← initCall .malloc
  match ctx with
  | none => return X.outOfMemory
  | some ctx =>
    initCall (.writeCtx ctx
      { hw, cfg := config, irqPending := false, rxCb := none, cbUserReference := none })
    modify fun device => { device with userDriverData := some ctx }
    setupIrq hw attachInterrupt
    if tableLength ≤ hw.pinIrq.toNat then return X.outOfRange
    initCall (.writeTable hw.pinIrq (some ctx))
    modify fun device => { device with
      spiChipSelect := hw.pinCs
      spiClockSpeed := hw.spiBaud
      interfaceDevice := some hw
      gpiosOutLevel := 0 }
    configure X config

/-- `devNull` says that `dev` is `NULL`. -/
def deinit (devNull : Bool) : Init Unit := do
  if devNull then return ()
  let dev ← Prog.read
  match dev.userDriverData with
  | none => return ()
  | some ctx =>
    let pin ← initCall (.readPinIrq ctx)
    initCall (.gpioSetIrqEnabled pin gpioIrqEdgeFall false)
    let pin ← initCall (.readPinIrq ctx)
    initCall (.writeTable pin none)
    initCall (.free ctx)
    modify fun dev => { dev with userDriverData := none }

inductive DeviceOp where
  | init (config : Config) (attachInterrupt : Bool)
  | deinit (devNull : Bool)

abbrev DeviceOp.Ret : DeviceOp → Type
  | .init .. => ErrorResult
  | .deinit _ => Unit

/-- What is called for the device wired as `hw`. -/
def deviceProgram (X : Errors) (hw : Hw) : (o : DeviceOp) → Init o.Ret
  | .init config attachInterrupt => init X hw config attachInterrupt
  | .deinit devNull => deinit devNull

/-! ## On the bench -/

def benchErrors : Errors where
  outOfMemory := 1
  outOfRange := 2
  frequencyError := 3
  outOfMemory_ne := by decide
  outOfRange_ne := by decide
  frequencyError_ne := by decide

def benchHw (pinIrq : UInt8) : Hw := ⟨0, 3, 4, 2, 5, 6, pinIrq, 10000000⟩

def benchConfig (numFifos : Nat) : Config := ⟨0, 40000000, 0, 500000, 2000000, 0, 0, 0, 0,
  numFifos, 0, 1, 0⟩

end Mcp251xfd

end LeosSdk
