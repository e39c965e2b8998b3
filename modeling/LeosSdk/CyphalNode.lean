import Mathlib.Data.Finset.Basic
import LeosSdk.Run
import LeosSdk.Slots

/-!
# Cyphal node: subscriptions

`leos_cyphal_init`, `leos_cyphal_subscribe`, `leos_cyphal_unsubscribe` and
`leos_cyphal_subscription_dispatch` of `cyphal.c` and `transport.c`, over a
node with its slot table, libcanard's registry and the node's heap.

libcanard and the heap are not part of this repository. `canardRxSubscribe`
and `canardRxUnsubscribe` keep one subscription object per transfer kind and
port-ID and report what they did; they reject arguments by a negative code and
then change nothing (`Canard`). The heap hands out blocks it has not handed
out and not got back, or none. What a freed block holds afterwards is
anybody's guess (`Outside.scrap`). Logging is left out.

A call is a function of the node and of what the heap does during it, since
nothing else happens in between, and its outcome is the result, the block it
freed and the node it left. The source's two steps that both subscribing and
unsubscribing take are definitions of their own: to look for the old
subscription by its port-ID and free it (`Node.release`), and to put the new
one into the first free slot (`Node.install`). The first writes to the table
before the call is known to succeed. A transfer is delivered by the object
libcanard has registered for its kind and port-ID, with whatever its block
holds at that time.
-/

namespace LeosSdk

namespace Cyphal

/-! ## Types -/

/-- `leos_cyphal_result_t`; libcanard's negative codes pass through it. -/
abbrev Result := Int

def Result.ok : Result := 0
def Result.invalidArgument : Result := -1
def Result.outOfMemory : Result := -2
def Result.tooManySubscriptions : Result := -10
def Result.errorUnknown : Result := -100

/-- `enum CanardTransferKind`; C lets other values through as `other`. -/
inductive TransferKind where
  | message | response | request
  | other (value : Nat)
deriving DecidableEq, Repr, Inhabited

abbrev PortId := UInt16

/-- What libcanard keys its subscriptions on. -/
structure Port where
  kind : TransferKind
  portId : PortId
deriving DecidableEq, Repr, Inhabited

abbrev Ptr := Nat
abbrev RxCallback := Nat
abbrev UserRef := Nat

/-- `leos_cyphal_subscription_t`; the first four fields are those of its
`sub` that are set on subscribing. -/
structure Subscription where
  portId : PortId
  extent : Nat
  transferIdTimeoutUsec : Nat
  userReference : Option Ptr
  callback : RxCallback
  userRef : UserRef
deriving DecidableEq, Repr

/-- The transfer's memory, to be freed with `allocatedSize`. -/
structure Payload where
  size : Nat
  data : Option Ptr
  allocatedSize : Nat
deriving DecidableEq, Repr, Inhabited

/-- `struct CanardRxTransfer`. -/
structure Transfer where
  priority : Nat
  port : Port
  remoteNodeId : UInt8
  transferId : UInt8
  timestampUsec : UInt64
  payload : Payload
deriving DecidableEq, Repr, Inhabited

/-- `CYPHAL_MAX_SUBSCRIPTIONS`. -/
def maxSubscriptions : Nat := 25

/-- `CANARD_DEFAULT_TRANSFER_ID_TIMEOUT_USEC`. -/
def defaultTransferIdTimeoutUsec : Nat := 2000000

/-- The node as far as subscriptions go: the slot table, libcanard's
registry, and the heap's subscription blocks with their contents. -/
structure Node where
  subscriptions : Slots maxSubscriptions Ptr
  rxSubscriptions : Port → Option Ptr
  live : Finset Ptr
  mem : Ptr → Subscription

/-- `leos_cyphal_init`: the node zeroed, the heap new. -/
def Node.init (mem : Ptr → Subscription) : Node where
  subscriptions := .empty
  rxSubscriptions _ := none
  live := ∅
  mem := mem

/-! ## libcanard and the heap -/

/-- Which arguments libcanard accepts, and its answer to the others. -/
structure Canard where
  validArgs : Port → Bool
  error : Int
  error_neg : error < 0

/-- What the heap does during one call: the block it hands out, if any, and
what becomes of a freed one. -/
structure Outside where
  alloc : Option Ptr
  scrap : Subscription

def Canard.rxSubscribe (L : Canard) (port : Port) (extent : Nat) (out : Ptr)
    (n : Node) : Int × Node :=
  if L.validArgs port then
    (if (n.rxSubscriptions port).isSome then 0 else 1,
      { n with
        rxSubscriptions := Function.update n.rxSubscriptions port (some out)
        mem := Function.update n.mem out
          { n.mem out with
            portId := port.portId
            extent := extent
            transferIdTimeoutUsec := defaultTransferIdTimeoutUsec } })
  else (L.error, n)

def Canard.rxUnsubscribe (L : Canard) (port : Port) (n : Node) : Int × Node :=
  if L.validArgs port then
    if (n.rxSubscriptions port).isSome then
      (1, { n with rxSubscriptions := Function.update n.rxSubscriptions port none })
    else (0, n)
  else (L.error, n)

def Node.allocate (s : Ptr) (n : Node) : Node := { n with live := insert s n.live }

def Node.deallocate (scrap : Subscription) (s : Ptr) (n : Node) : Node :=
  { n with live := n.live.erase s, mem := Function.update n.mem s scrap }

/-! ## Subscribing -/

/-- The first slot whose subscription has this port-ID, of any kind. -/
def Node.findPort (n : Node) (portId : PortId) : Option (Fin maxSubscriptions × Ptr) :=
  n.subscriptions.findFirst fun s => (n.mem s).portId == portId

/-- What a call did: its result, the block it freed and the node it left. -/
structure Outcome where
  result : Result
  freed : Option Ptr
  node : Node

/-- `// Found the old subscription, should free it.` -/
def Node.release (scrap : Subscription) (portId : PortId) (n : Node) :
    Option Ptr × Node :=
  match n.findPort portId with
  | none => (none, n)
  | some (i, s) =>
    let n := n.deallocate scrap s
    (some s, { n with subscriptions := n.subscriptions.clear i })

/-- The new subscription goes into the first free slot. -/
def Node.install (s : Ptr) (freed : Option Ptr) (n : Node) : Outcome :=
  match n.subscriptions.firstFree with
  | some i => ⟨.ok, freed, { n with subscriptions := n.subscriptions.put i s }⟩
  | none => ⟨.tooManySubscriptions, freed, n⟩

/-- The block before it is registered. -/
def Node.fill (s : Ptr) (callback : RxCallback) (userReference : UserRef) (n : Node) :
    Node :=
  { n with
    mem := Function.update n.mem s
      { n.mem s with
        callback := callback
        userRef := userReference
        userReference := some s } }

/-- `leos_cyphal_subscribe`, with its early returns where the source has them;
`nodeNull` says that `node` is `NULL`. -/
def subscribe (L : Canard) (o : Outside) (nodeNull : Bool) (port : Port)
    (extent : Nat) (callback : RxCallback) (userReference : UserRef) (n : Node) :
    Outcome :=
  if nodeNull then ⟨.invalidArgument, none, n⟩
  else
    match o.alloc with
    | none => ⟨.outOfMemory, none, n⟩
    | some s =>
      let n := (n.allocate s).fill s callback userReference
      let (result, n) := L.rxSubscribe port extent s n
      if result < 0 then ⟨result, none, n⟩
      else if result = 0 then
        let (freed, n) := n.release o.scrap port.portId
        n.install s freed
      else n.install s none

/-- `leos_cyphal_unsubscribe`. -/
def unsubscribe (L : Canard) (o : Outside) (nodeNull : Bool) (port : Port)
    (n : Node) : Outcome :=
  if nodeNull then ⟨.invalidArgument, none, n⟩
  else
    let (result, n) := L.rxUnsubscribe port n
    if result < 0 then ⟨result, none, n⟩
    else if result = 0 then ⟨.ok, none, n⟩
    else
      match n.release o.scrap port.portId with
      | (some s, n) => ⟨.ok, some s, n⟩
      | (none, n) => ⟨.errorUnknown, none, n⟩

/-! ## Dispatching -/

/-- A call of a user's callback. -/
structure Invocation where
  callback : RxCallback
  transfer : Transfer
  userReference : UserRef
deriving DecidableEq, Repr

/-- `leos_cyphal_subscription_dispatch`: the callback it invokes. -/
def subscriptionDispatch (mem : Ptr → Subscription) (transfer : Option Transfer)
    (subscription : Option Ptr) : Option Invocation := do
  let transfer ← transfer
  let subscription ← subscription
  let s ← (mem subscription).userReference
  return ⟨(mem s).callback, transfer, (mem s).userRef⟩

/-- A completed transfer, dispatched with the object libcanard has for its
kind and port-ID. -/
def Node.deliver (n : Node) (transfer : Transfer) : Option Invocation :=
  subscriptionDispatch n.mem (some transfer) (n.rxSubscriptions transfer.port)

/-! ## Runs of a node -/

inductive NodeOp where
  | subscribe (nodeNull : Bool) (port : Port) (extent : Nat) (callback : RxCallback)
      (userReference : UserRef)
  | unsubscribe (nodeNull : Bool) (port : Port)

def NodeOp.port : NodeOp → Port
  | .subscribe _ port .. => port
  | .unsubscribe _ port => port

def NodeOp.apply (L : Canard) (o : Outside) : NodeOp → Node → Outcome
  | .subscribe nodeNull port extent callback userReference =>
    Cyphal.subscribe L o nodeNull port extent callback userReference
  | .unsubscribe nodeNull port => Cyphal.unsubscribe L o nodeNull port

/-- A call with what the heap did during it and what it answered. -/
structure NodeCall where
  op : NodeOp
  outside : Outside
  result : Result
  freed : Option Ptr

/-- A call as its function says. The heap hands out no block that is in use. -/
def NodeStep (L : Canard) (n : Node) (l : NodeCall) (n' : Node) : Prop :=
  (∀ s, l.outside.alloc = some s → s ∉ n.live)
    ∧ l.op.apply L l.outside n = ⟨l.result, l.freed, n'⟩

/-- The calls made one after the other. -/
def runCalls (L : Canard) : List (NodeOp × Outside) → Node → List (Rec Node NodeCall) × Node
  | [], n => ([], n)
  | (op, o) :: calls, n =>
    let out := op.apply L o n
    let (xs, n') := runCalls L calls out.node
    (⟨n, ⟨op, o, out.result, out.freed⟩, out.node⟩ :: xs, n')

/-- No block in use is handed out. -/
def FreshCalls (L : Canard) : List (NodeOp × Outside) → Node → Prop
  | [], _ => True
  | (op, o) :: calls, n =>
    (∀ s ∈ o.alloc, s ∉ n.live) ∧ FreshCalls L calls (op.apply L o n).node

instance decidableFreshCalls (L : Canard) : ∀ calls n, Decidable (FreshCalls L calls n)
  | [], _ => isTrue trivial
  | (op, o) :: calls, n =>
    have := decidableFreshCalls L calls (op.apply L o n).node
    inferInstanceAs (Decidable (_ ∧ _))

theorem runCalls_run {L : Canard} : ∀ {calls : List (NodeOp × Outside)} {n : Node},
    FreshCalls L calls n →
      Run (NodeStep L) n (runCalls L calls n).1 (runCalls L calls n).2
  | [], _, _ => .nil
  | (op, o) :: _, n, h =>
    .cons (l := ⟨op, o, (op.apply L o n).result, (op.apply L o n).freed⟩)
      ⟨h.1, rfl⟩ (runCalls_run h.2)

end Cyphal

end LeosSdk
