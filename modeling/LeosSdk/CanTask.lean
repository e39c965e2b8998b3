import LeosSdk.Run

/-!
# MCP251XFD: the service task

`leos_mcp251xfd_task` and `leos_mcp251xfd_set_rx_handler` of `mcp251xfd.c`.
The MCP251XFD library is not part of this repository: its functions are calls,
and so is the `volatile` flag `irq_pending` that the GPIO handler sets. The
installed callback is user code and a call as well.

The private memory is the device's `UserDriverData`, of which the task reads
`rx_cb` and `cb_user_reference`. Logging is left out.

The `while (true)` of the task is `Prog.iter` over `serviceLoop`, so a run of
the task that never ends is a run without an execution, and termination is
something to prove or to refute (`CanDrain`). Each arm of the `switch` is a
definition of its own (`service`), because what an arm does to the controller
and what it does to the interrupt flag are proved apart from the loop around
it. A library function that returns a result code and a value answers with the
pair; the arms look at the code just where the source does.
-/

namespace LeosSdk

namespace Mcp251xfd

/-- `eERRORRESULT`. -/
abbrev ErrorResult := UInt32

def errOk : ErrorResult := 0

/-- `eMCP251XFD_InterruptFlagCode`; the codes the task's `switch` leaves to
`default` are `other`. -/
inductive InterruptFlagCode where
  | noInterrupt
  | errorInterrupt
  | wakeupInterrupt
  | opmodeChangeOccured
  | txqInterrupt
  | fifo1Interrupt
  | other (code : Nat)
deriving DecidableEq, Repr

/-- The event masks the task clears. -/
inductive InterruptEvents where
  | busErrorEvent
  | busWakeupEvent
  | operationModeChangeEvent
  | rxEvent
  | clearableFlagsMask
deriving DecidableEq, Repr

/-- Interrupt sources of a receive FIFO; the task names the first three. -/
inductive FifoEvent where
  | receiveFifoNotEmpty | receiveFifoHalfFull | receiveFifoFull | receiveFifoOverflow
deriving DecidableEq, Repr

/-- `MCP251XFD_FIFO1`, the receive FIFO. -/
inductive Fifo where
  | fifo1
deriving DecidableEq, Repr

/-- The status bits the task tests. -/
structure TxqStatus where
  attemptsExhausted : Bool
deriving DecidableEq, Repr

structure FifoStatus where
  rxFifoNotEmpty : Bool
deriving DecidableEq, Repr

abbrev RxCb := Nat
abbrev UserReference := Nat

/-- `leos_mcp251xfd_ctx_t` as far as the task reads it. The flag `irq_pending`
is not here, since interrupts write it: it is reached through calls. -/
structure TaskCtx where
  rxCb : Option RxCb
  cbUserReference : UserReference
deriving DecidableEq, Repr

inductive Call where
  | irqPending
  | setIrqPending (b : Bool)
  | getCurrentInterruptEvent
  | getTransmitReceiveErrorStatus
  | clearInterruptEvents (events : InterruptEvents)
  | getActualOperationMode
  | getTxqStatus
  | resetTxq
  | getFifoStatus (fifo : Fifo)
  | clearFifoEvents (fifo : Fifo) (events : List FifoEvent)
  | rxCb (callback : RxCb) (userReference : UserReference)

abbrev Answer : Call → Type
  | .irqPending => Bool
  | .setIrqPending _ => Unit
  | .getCurrentInterruptEvent => ErrorResult × InterruptFlagCode
  | .getTransmitReceiveErrorStatus => ErrorResult × Nat
  | .clearInterruptEvents _ => ErrorResult
  | .getActualOperationMode => ErrorResult × Nat
  | .getTxqStatus => ErrorResult × TxqStatus
  | .resetTxq => ErrorResult
  | .getFifoStatus _ => ErrorResult × FifoStatus
  | .clearFifoEvents _ _ => ErrorResult
  | .rxCb _ _ => Unit

/-- `UserDriverData` may be `NULL`. -/
abbrev Task := Prog (Option TaskCtx) Call Answer

abbrev call (i : Call) : Task (Answer i) := Prog.ask i

/-! ## The branches of the switch -/

def serviceError : Task Unit := do
  let _ ← call .getTransmitReceiveErrorStatus
  let _ ← call (.clearInterruptEvents .busErrorEvent)
  return ()

def serviceWakeup : Task Unit := do
  let _ ← call (.clearInterruptEvents .busWakeupEvent)
  return ()

def serviceOpmodeChange : Task Unit := do
  let _ ← call .getActualOperationMode
  let _ ← call (.clearInterruptEvents .operationModeChangeEvent)
  return ()

def serviceTxq : Task Unit := do
  let (err, qst) ← call .getTxqStatus
  if err ≠ errOk then return ()
  if qst.attemptsExhausted then
    let _ ← call .resetTxq
    return ()
  return ()

/-- `if (ctx->rx_cb) ctx->rx_cb(dev, ctx->cb_user_reference);` -/
def invokeRxCb : Task Unit := do
  let ctx ← Prog.read
  match ctx with
  | some { rxCb := some callback, cbUserReference } =>
    let _ ← call (.rxCb callback cbUserReference)
    return ()
  | _ => return ()

def serviceFifo1 : Task Unit := do
  let (err, st) ← call (.getFifoStatus .fifo1)
  if err ≠ errOk then return ()
  if st.rxFifoNotEmpty then invokeRxCb
  let _ ← call (.clearFifoEvents .fifo1
    [.receiveFifoNotEmpty, .receiveFifoHalfFull, .receiveFifoFull])
  let _ ← call (.clearInterruptEvents .rxEvent)
  return ()

def serviceDefault : Task Unit := do
  let _ ← call (.clearInterruptEvents .clearableFlagsMask)
  return ()

def service : InterruptFlagCode → Task Unit
  | .errorInterrupt => serviceError
  | .wakeupInterrupt => serviceWakeup
  | .opmodeChangeOccured => serviceOpmodeChange
  | .txqInterrupt => serviceTxq
  | .fifo1Interrupt => serviceFifo1
  | .noInterrupt => serviceDefault
  | .other _ => serviceDefault

/-! ## The task -/

/-- One iteration of the `while (true)`: go on or break. The query's failure
breaks before its code is looked at. -/
def serviceLoop (_ : Unit) : Task (Unit ⊕ Unit) := do
  let (err, code) ← call .getCurrentInterruptEvent
  if err ≠ errOk then return .inr ()
  if code = .noInterrupt then return .inr ()
  service code
  return .inl ()

/-- `devNull` says that `dev` is `NULL`. -/
def task (devNull : Bool) : Task Unit := do
  if devNull then return ()
  let ctx ← Prog.read
  if ctx.isNone then return ()
  let pending ← call .irqPending
  if !pending then return ()
  call (.setIrqPending false)
  Prog.iter serviceLoop ()

def setRxHandler (devNull : Bool) (callback : Option RxCb)
    (userReference : UserReference) : Task Unit := do
  if devNull then return ()
  let ctx ← Prog.read
  if ctx.isNone then return ()
  Prog.modify fun ctx => ctx.map fun _ =>
    { rxCb := callback, cbUserReference := userReference }

/-- The device's operations. -/
inductive Op where
  | task (devNull : Bool)
  | setRxHandler (devNull : Bool) (callback : Option RxCb)
      (userReference : UserReference)

def program : Op → Task Unit
  | .task devNull => task devNull
  | .setRxHandler devNull callback userReference =>
    setRxHandler devNull callback userReference

end Mcp251xfd

end LeosSdk
