import Mathlib.Order.Bounds.Basic
import LeosSdk.CyphalFrames
import LeosSdk.CyphalReceive
import LeosSdk.CyphalTx
import LeosSdk.Medium

/-!
# Cyphal node: nodes on one bus

Any number of nodes, each with its MCP251XFD on one CAN bus. Between any two
calls of a node's program a message may leave its TXQ, the other nodes may
send, a message of theirs may be taken into FIFO1 or be missed, events come
and go and the GPIO interrupt runs; any SPI access may fail.

What a node's TXQ ever took is on the bus, still queued or was discarded by
a reset, each message once (`Stocked.own`). Together with the ledger of
`CyphalReceive` this tells where every frame that libcanard is given comes
from: `canard_mcp_tx_frame` of another node was called with it
(`frames_exchange`). Its payload is at the front of what arrives, which has
the next length that a CAN FD frame can have. `canard_mcp_tx_frame` rounds
the DLC up and pads nothing, so the controller sends what lies beyond the
payload in memory: `TxMessage.Becomes` leaves those bytes open.

Each node runs on its own view of the history of the bus, `BusNode.log`, in
which the messages of the others appear from outside. So every step and run
lemma is about one node, and the nodes are put together at the end: their
runs have nothing in common but that history. What is on it from a node
stands for some of what that node was given, once each, and a node that
hears part of it hears messages with a sender (`Medium.exists_origin`).
-/

namespace LeosSdk

namespace Cyphal

open Mcp251xfd (ErrorResult errOk TaskCtx Board)
open Medium (sentBy sentByOthers)

/-! ## A controller on the bus -/

/-- A node's controller. The history of the bus is as far as the node has
seen it, `heard` how far its receiver got. -/
structure BusNode (K : Type) where
  inbox : Inbox
  txq : List BusMessage
  /-- Every message the TXQ took. -/
  accepted : List BusMessage
  /-- Every message a reset of the TXQ discarded. -/
  discarded : List BusMessage
  heard : Nat
  log : Medium K BusMessage

variable {K : Type}

def BusNode.take (w : BusNode K) (m : BusMessage) : BusNode K :=
  { w with txq := w.txq ++ [m], accepted := w.accepted ++ [m] }

def BusNode.reset (w : BusNode K) : BusNode K :=
  { w with txq := [], discarded := w.discarded ++ w.txq }

/-- A reset that fails may leave the TXQ as it was. -/
def BusNode.Resets (w : BusNode K) (result : ErrorResult) (w' : BusNode K) : Prop :=
  w' = w.reset ∨ result ≠ errOk ∧ w' = w

/-- FIFO1 takes message `i` of the bus. -/
def BusNode.receive (b : Board) (w : BusNode K) (i : Nat) (d : Delivery) : BusNode K :=
  { w with
    heard := i + 1
    inbox := w.inbox.settle b { w.inbox with
      fifo1 := w.inbox.fifo1 ++ [d.message], received := w.inbox.received ++ [d.message] } }

/-- What happens beside the program of node `k`. Any message in the TXQ may
be the next on the bus. -/
inductive BusNode.Moves (k : K) (b : Board) (depth : Nat) (w : BusNode K) : BusNode K → Prop
  | others {j : K} (hj : j ≠ k) (m : BusMessage) :
      Moves k b depth w { w with log := w.log ++ [(j, m)] }
  | sends {earlier later : List BusMessage} {m : BusMessage}
      (htxq : w.txq = earlier ++ m :: later) :
      Moves k b depth w { w with txq := earlier ++ later, log := w.log ++ [(k, m)] }
  | receives {i : Nat} {j : K} (d : Delivery) (hi : w.heard ≤ i)
      (hlog : w.log[i]? = some (j, d.bus)) (hj : j ≠ k)
      (hroom : w.inbox.fifo1.length < depth) : Moves k b depth w (w.receive b i d)
  | event (events : List Mcp251xfd.PendingCode) :
      Moves k b depth w { w with inbox := w.inbox.settle b { w.inbox with events := events } }
  | gpio (gpio : Nat) (events : UInt32) :
      Moves k b depth w { w with inbox := { w.inbox with
        irqPending := Mcp251xfd.irqHandler b.ctxByGpio gpio events w.inbox.irqPending } }

/-- What a message handed to `MCP251XFD_TransmitMessageToTXQ` becomes on the
bus: 29 bits of its identifier, and as many bytes as its DLC says, some of
them from beyond the payload. -/
structure TxMessage.Becomes (msg : TxMessage) (m : BusMessage) : Prop where
  extended : m.extended = msg.controlFlags.contains .extendedMessageId
  fd : m.fd = msg.controlFlags.contains .canFdFrame
  id : m.id = msg.messageId &&& 0x1FFFFFFF
  dlc : m.dlc = msg.dlc
  data : ∃ beyond, m.data = (msg.payloadData ++ beyond).take (canFdLength msg.dlc.toNat)

/-- The MCP251XFD library under `canard_mcp_tx_frame`, with a TXQ of that
depth. -/
def nodeTxEnv (txDepth : Nat) : Env (BusNode K) TxCall TxAnswer
  | w, .getTxqStatus, a, w' => w' = w
      ∧ (Prod.fst a ≠ errOk ∨ Prod.snd a = ⟨decide (w.txq.length < txDepth)⟩)
  | w, .resetTxq, r, w' => w.Resets r w'
  | w, .transmitMessageToTxq msg _, r, w' => r ≠ errOk ∧ w' = w
      ∨ r = errOk ∧ w.txq.length < txDepth ∧ ∃ m, msg.Becomes m ∧ w' = w.take m

abbrev busyNodeTx (k : K) (b : Board) (depth txDepth : Nat) : Env (BusNode K) TxCall TxAnswer :=
  interleave (BusNode.Moves k b depth) (nodeTxEnv txDepth)

/-- The calls of `canard_mcp_rx_process`. -/
def nodeRxEnv : Env (BusNode K) RxCall RxAnswer
  | w, i, a, w' => ∃ inbox, drainEnv w.inbox i a inbox ∧ w' = { w with inbox := inbox }

abbrev busyNodeRx (k : K) (b : Board) (depth : Nat) : Env (BusNode K) RxCall RxAnswer :=
  interleave (BusNode.Moves k b depth) nodeRxEnv

/-- The calls of the service task, whose queries may fail at any time. -/
def nodeTaskEnv (k : K) (b : Board) (depth : Nat) (T : RxTarget) :
    Env (BusNode K) Mcp251xfd.Call Mcp251xfd.Answer
  | w, .resetTxq, r, w' => w.Resets r w'
  | w, .rxCb _ userReference, _, w' =>
    ∃ tr, Exec (busyNodeRx k b depth) (leosCyphalRxProcess T (userReference == 0)) () w tr () () w'
  | w, i, a, w' => ∃ inbox, taskEnv b depth T (fun _ => True) w.inbox i a inbox
      ∧ w' = { w with inbox := inbox }

abbrev busyNodeTask (k : K) (b : Board) (depth : Nat) (T : RxTarget) :
    Env (BusNode K) Mcp251xfd.Call Mcp251xfd.Answer :=
  interleave (BusNode.Moves k b depth) (nodeTaskEnv k b depth T)

inductive NodeLabel where
  | moves
  | tx (frame : MutableFrame) (tr : List (Event TxCall TxAnswer)) (result : Int8)
  | rx (tr : List (Event RxCall RxAnswer))
  | service (o : Mcp251xfd.Op) (tr : List (Event Mcp251xfd.Call Mcp251xfd.Answer))

/-- A board, the depths of its queues and what the compiled code takes from
elsewhere. -/
structure Setup where
  board : Board
  fifoDepth : Nat
  txDepth : Nat
  target : RxTarget

/-- libcanard sends a frame, `leos_cyphal_rx_process` is called, or the
service task or `leos_mcp251xfd_set_rx_handler`. -/
inductive NodeRuns (k : K) (S : Setup) :
    Option TaskCtx × BusNode K → NodeLabel → Option TaskCtx × BusNode K → Prop
  | moves {ctx w w'} (h : BusNode.Moves k S.board S.fifoDepth w w') :
      NodeRuns k S (ctx, w) .moves (ctx, w')
  | tx {ctx w w' deadlineUsec frame tr result}
      (h : Exec (busyNodeTx k S.board S.fifoDepth S.txDepth)
        (txCallback transportMcp251xfd deadlineUsec frame) () w tr result () w') :
      NodeRuns k S (ctx, w) (.tx frame tr result) (ctx, w')
  | rx {ctx w w' nodeNull tr}
      (h : Exec (busyNodeRx k S.board S.fifoDepth) (leosCyphalRxProcess S.target nodeNull)
        () w tr () () w') : NodeRuns k S (ctx, w) (.rx tr) (ctx, w')
  | service {ctx ctx' w w' o tr}
      (h : Exec (busyNodeTask k S.board S.fifoDepth S.target) (Mcp251xfd.program o) ctx w tr ()
        ctx' w') : NodeRuns k S (ctx, w) (.service o tr) (ctx', w')

/-! ## Where a message is -/

/-- What was read out for a message on the bus. -/
def BusMessage.ReadAs (m : BusMessage) (msg : Message) : Prop :=
  ∃ d : Delivery, d.bus = m ∧ d.message = msg

/-- Of the messages `acc` the TXQ took each is on the bus, queued or
discarded, and what FIFO1 took are messages of other nodes, in the order
they were on the bus. -/
structure Stocked [DecidableEq K] (k : K) (acc : List BusMessage) (w : BusNode K) : Prop where
  accepted : w.accepted = acc
  own : (sentBy k w.log ++ w.txq ++ w.discarded).Perm acc
  heard_le : w.heard ≤ w.log.length
  received : ∃ ms, ms.Sublist (sentByOthers k (w.log.take w.heard))
    ∧ List.Forall₂ BusMessage.ReadAs ms w.inbox.received

section Stock

variable [DecidableEq K] {k : K} {b : Board} {depth txDepth : Nat} {T : RxTarget}
  {acc : List BusMessage} {w w' : BusNode K}

/-- The bus goes on. -/
theorem received_grow (hs : Stocked k acc w) (x : K × BusMessage) :
    w.heard ≤ (w.log ++ [x]).length
      ∧ ∃ ms, ms.Sublist (sentByOthers k ((w.log ++ [x]).take w.heard))
        ∧ List.Forall₂ BusMessage.ReadAs ms w.inbox.received := by
  refine ⟨by have := hs.heard_le; simp; omega, ?_⟩
  rw [List.take_append_of_le_length hs.heard_le]
  exact hs.received

theorem stocked_moves (h : w.Moves k b depth w') (hs : Stocked k acc w) : Stocked k acc w' := by
  cases h with
  | @others j hj m =>
      obtain ⟨hle, hreceived⟩ := received_grow hs (j, m)
      refine ⟨hs.accepted, ?_, hle, hreceived⟩
      rw [Medium.sentBy_other hj]
      exact hs.own
  | @sends earlier later m htxq =>
      obtain ⟨hle, hreceived⟩ := received_grow hs (k, m)
      refine ⟨hs.accepted, ?_, hle, hreceived⟩
      have hown := hs.own
      rw [htxq] at hown
      rw [Medium.sentBy_own]
      refine List.Perm.trans ?_ hown
      refine List.Perm.append_right _ ?_
      rw [List.append_assoc]
      show (sentBy k w.log ++ (m :: (earlier ++ later))).Perm _
      exact List.Perm.append_left _ List.perm_middle.symm
  | @receives i j d hi hlog hj hroom =>
      have hlt : i < w.log.length := (List.getElem?_eq_some_iff.mp hlog).1
      obtain ⟨ms, hms, hread⟩ := hs.received
      refine ⟨hs.accepted, hs.own, hlt, ms ++ [d.bus], ?_, ?_⟩
      · show (ms ++ [d.bus]).Sublist (sentByOthers k (w.log.take (i + 1)))
        rw [Medium.sentByOthers_snoc hlog hj]
        exact (hms.trans (Medium.sentByOthers_take_mono hi)).append (List.Sublist.refl _)
      · exact List.rel_append hread (.cons ⟨d, rfl, rfl⟩ .nil)
  | event | gpio => exact ⟨hs.accepted, hs.own, hs.heard_le, hs.received⟩

theorem stocked_ticks (h : Relation.ReflTransGen (BusNode.Moves k b depth) w w')
    (hs : Stocked k acc w) : Stocked k acc w' :=
  ticks_preserve (J := Stocked k acc) (fun _ _ hm hs => stocked_moves hm hs) h hs

theorem stocked_reset (hs : Stocked k acc w) : Stocked k acc w.reset := by
  refine ⟨hs.accepted, ?_, hs.heard_le, hs.received⟩
  have hperm : (sentBy k w.log ++ [] ++ (w.discarded ++ w.txq)).Perm
      (sentBy k w.log ++ w.txq ++ w.discarded) := by
    rw [List.append_nil, List.append_assoc]
    exact List.Perm.append_left _ List.perm_append_comm
  exact hperm.trans hs.own

theorem stocked_resets {result : ErrorResult} (h : w.Resets result w') (hs : Stocked k acc w) :
    Stocked k acc w' := by
  rcases h with rfl | ⟨-, rfl⟩
  · exact stocked_reset hs
  · exact hs

theorem stocked_take (hs : Stocked k acc w) (m : BusMessage) :
    Stocked k (acc ++ [m]) (w.take m) := by
  refine ⟨by rw [← hs.accepted]; rfl, ?_, hs.heard_le, hs.received⟩
  show (sentBy k w.log ++ (w.txq ++ [m]) ++ w.discarded).Perm (acc ++ [m])
  have hperm : (sentBy k w.log ++ (w.txq ++ [m]) ++ w.discarded).Perm
      (sentBy k w.log ++ w.txq ++ w.discarded ++ [m]) := by
    simp only [List.append_assoc]
    exact List.Perm.append_left _ (List.Perm.append_left _ List.perm_append_comm)
  exact hperm.trans (hs.own.append_right _)

/-- What libcanard's side and the service task ask of the receive path
takes nothing new from the bus. -/
theorem stocked_inbox {inbox : Inbox} (hs : Stocked k acc w)
    (hsame : inbox.received = w.inbox.received) : Stocked k acc { w with inbox := inbox } := by
  obtain ⟨ms, hms, hread⟩ := hs.received
  exact ⟨hs.accepted, hs.own, hs.heard_le, ms, hms, by rw [hsame]; exact hread⟩

theorem received_drainEnv {i : RxCall} {a : RxAnswer i} {v v' : Inbox}
    (h : drainEnv v i a v') : v'.received = v.received := by
  cases i with
  | getFifoStatus => rw [h.1]
  | receiveMessageFromFifo =>
      rcases h with ⟨-, rfl⟩ | ⟨-, rest, -, rfl⟩ <;> rfl
  | canardRxAccept | subscriptionDispatch | deallocate =>
      obtain rfl := h
      rfl

theorem stocked_rx {i : RxCall} {a : RxAnswer i} (hs : Stocked k acc w)
    (h : busyNodeRx k b depth w i a w') : Stocked k acc w' := by
  obtain ⟨w₁, ht, inbox, h, rfl⟩ := h
  exact stocked_inbox (stocked_ticks ht hs) (received_drainEnv h)

theorem stocked_task {i : Mcp251xfd.Call} {a : Mcp251xfd.Answer i} (hs : Stocked k acc w)
    (h : busyNodeTask k b depth T w i a w') : Stocked k acc w' := by
  obtain ⟨w₁, ht, h⟩ := h
  have h₁ := stocked_ticks ht hs
  cases i with
  | resetTxq => exact stocked_resets h h₁
  | rxCb callback userReference =>
      obtain ⟨tr, hx⟩ := h
      exact ensures_keeps (J := Stocked k acc) (fun _ _ _ _ hs h => stocked_rx hs h) _ h₁ _ _ _ _ hx
  | irqPending | getCurrentInterruptEvent | getFifoStatus =>
      obtain ⟨inbox, h, rfl⟩ := h
      exact stocked_inbox h₁ (by first | rw [h.2] | rw [h.1])
  | _ =>
      obtain ⟨inbox, h, rfl⟩ := h
      obtain rfl := h
      exact stocked_inbox h₁ rfl

/-! ## One frame -/

/-- The frame is the last message the TXQ took. -/
def FrameTaken (k : K) (acc : List BusMessage) (frame : MutableFrame) (w : BusNode K) : Prop :=
  ∃ m, (txMessage frame).Becomes m ∧ Stocked k (acc ++ [m]) w

theorem stocked_transmit {frame : MutableFrame} {flush : Bool} {r : ErrorResult}
    (hs : Stocked k acc w)
    (h : busyNodeTx k b depth txDepth w (.transmitMessageToTxq (txMessage frame) flush) r w') :
    r ≠ errOk ∧ Stocked k acc w' ∨ r = errOk ∧ FrameTaken k acc frame w' := by
  obtain ⟨w₁, ht, h⟩ := h
  have h₁ := stocked_ticks ht hs
  rcases h with ⟨herr, rfl⟩ | ⟨hok, -, m, hm, rfl⟩
  · exact .inl ⟨herr, h₁⟩
  · exact .inr ⟨hok, m, hm, stocked_take h₁ m⟩

/-- What `canard_mcp_tx_frame` does with a frame: nothing, or the TXQ takes
it; and it does if the result is positive and not a failure's. -/
structure Offered (k : K) (acc : List BusMessage) (frame : MutableFrame)
    (tr : List (Event TxCall TxAnswer)) (result : Int8) (w : BusNode K) : Prop where
  either : Stocked k acc w ∨ FrameTaken k acc frame w
  taken : FailuresNegative tr → 0 < result → FrameTaken k acc frame w

theorem transmit_offered {frame : MutableFrame} {flush : Bool} {r : ErrorResult}
    (hs : Stocked k acc w)
    (h : busyNodeTx k b depth txDepth w (.transmitMessageToTxq (txMessage frame) flush) r w')
    {tr : List (Event TxCall TxAnswer)}
    (hev : ⟨.transmitMessageToTxq (txMessage frame) flush, r⟩ ∈ tr) :
    (r ≠ errOk → Offered k acc frame tr (negated r) w')
      ∧ (¬r ≠ errOk → Offered k acc frame tr 1 w') := by
  rcases stocked_transmit hs h with ⟨herr, hs'⟩ | ⟨hok, ht⟩
  · refine ⟨fun _ => ⟨.inl hs', fun hneg hpos => ?_⟩, fun hnot => absurd herr hnot⟩
    exact absurd hpos (hneg.not_pos _ hev (by rw [failure, if_neg herr]))
  · exact ⟨fun hnot => absurd hok hnot, fun _ => ⟨.inr ht, fun _ _ => ht⟩⟩

theorem txFrame_offered (deadlineUsec : UInt64) (frame : MutableFrame) (hs : Stocked k acc w) :
    Ensures (busyNodeTx k b depth txDepth) (txFrame deadlineUsec frame)
      (fun tr result _ w' => Offered k acc frame tr result w') () w := by
  simp only [txFrame, ensures_bind, ensures_ask, ensures_ite, ensures_pure]
  intro status w₁ h₁
  have hs₁ : Stocked k acc w₁ := by
    obtain ⟨w₀, ht, rfl, -⟩ := h₁
    exact stocked_ticks ht hs
  refine ⟨fun herr => ⟨.inl hs₁, fun hneg hpos => ?_⟩, fun _ => ⟨fun _ reset w₂ h₂ r w₃ h₃ => ?_,
    fun _ r w₂ h₂ => ?_⟩⟩
  · refine absurd hpos (hneg.not_pos ⟨.getTxqStatus, status⟩ (by simp) ?_)
    rw [failure, if_neg herr]
  · have hs₂ : Stocked k acc w₂ := by
      obtain ⟨w₀, ht, h₂⟩ := h₂
      exact stocked_resets h₂ (stocked_ticks ht hs₁)
    exact transmit_offered hs₂ h₃ (by simp)
  · exact transmit_offered hs₁ h₂ (by simp)

end Stock

/-! ## The receive path, seen from FIFO1 -/

section Inbox

variable {k : K} {b : Board} {depth txDepth : Nat} {T : RxTarget} {w w' : BusNode K}

theorem inbox_moves (h : w.Moves k b depth w') :
    Relation.ReflTransGen (Inbox.Moves b depth) w.inbox w'.inbox := by
  cases h with
  | others | sends => exact .refl
  | receives d hi hlog hj hroom => exact .single (.arrives d.message hroom)
  | event events => exact .single (.event events)
  | gpio gpio events => exact .single (.gpio gpio events)

theorem inbox_ticks (h : Relation.ReflTransGen (BusNode.Moves k b depth) w w') :
    Relation.ReflTransGen (Inbox.Moves b depth) w.inbox w'.inbox :=
  h.trans_induction_on (fun _ => .refl) inbox_moves fun _ _ h₁ h₂ => h₁.trans h₂

theorem inbox_rx (w : BusNode K) (i : RxCall) (a : RxAnswer i) (w' : BusNode K)
    (h : busyNodeRx k b depth w i a w') : busyDrain b depth w.inbox i a w'.inbox := by
  obtain ⟨w₁, ht, inbox, h, rfl⟩ := h
  exact ⟨w₁.inbox, inbox_ticks ht, h⟩

theorem inbox_task (w : BusNode K) (i : Mcp251xfd.Call) (a : Mcp251xfd.Answer i)
    (w' : BusNode K) (h : busyNodeTask k b depth T w i a w') :
    busyTask b depth T (fun _ => True) w.inbox i a w'.inbox := by
  obtain ⟨w₁, ht, h⟩ := h
  refine ⟨w₁.inbox, inbox_ticks ht, ?_⟩
  cases i with
  | resetTxq =>
      rcases h with rfl | ⟨-, rfl⟩ <;> rfl
  | rxCb callback userReference =>
      obtain ⟨tr, hx⟩ := h
      exact ⟨tr, hx.view BusNode.inbox inbox_rx⟩
  | _ =>
      obtain ⟨inbox, h, rfl⟩ := h
      exact h

theorem inbox_tx {i : TxCall} {a : TxAnswer i} (h : busyNodeTx k b depth txDepth w i a w') :
    Relation.ReflTransGen (Inbox.Moves b depth) w.inbox w'.inbox := by
  obtain ⟨w₁, ht, h⟩ := h
  refine (inbox_ticks ht).trans ?_
  cases i with
  | getTxqStatus =>
      obtain rfl := h.1
      exact .refl
  | resetTxq => rcases h with rfl | ⟨-, rfl⟩ <;> exact .refl
  | transmitMessageToTxq => rcases h with ⟨-, rfl⟩ | ⟨-, -, m, -, rfl⟩ <;> exact .refl

theorem sound_run {S : Setup} {s s' : Option TaskCtx} {l : NodeLabel}
    (h : NodeRuns k S (s, w) l (s', w')) (hs : w.inbox.Sound S.target [] 0) :
    w'.inbox.Sound S.target [] 0 := by
  cases h with
  | moves h => exact ticks_preserve sound_moves (inbox_moves h) hs
  | tx h =>
      exact ensures_keeps (J := fun w : BusNode K => w.inbox.Sound S.target [] 0)
        (fun _ _ _ _ hs h => ticks_preserve sound_moves (inbox_tx h) hs) _ hs _ _ _ _ h
  | rx h => exact leosCyphalRxProcess_sound hs _ _ _ _ (h.view BusNode.inbox inbox_rx)
  | service h =>
      exact ensures_keeps (J := fun w : BusNode K => w.inbox.Sound S.target [] 0)
        (fun _ _ _ _ hs h => sound_call hs (inbox_task _ _ _ _ h)) _ hs _ _ _ _ h

end Inbox

/-! ## A frame of another node -/

/-- The shortest of the CAN FD frames that hold `n` bytes has `length`. -/
def Fits (n length : Nat) : Prop :=
  IsLeast {m | n ≤ m ∧ ∃ dlc < 16, m = canFdLength dlc} length

/-- A frame as another node's libcanard gets it: 29 bits of the identifier,
and the payload with whatever fills the CAN FD frame after it. -/
structure Arrives (f : MutableFrame) (frame : Frame) : Prop where
  id : frame.extendedCanId = f.extendedCanId &&& 0x1FFFFFFF
  payload : f.payloadData.length = f.payloadSize → f.payloadSize ≤ 64 →
    f.payloadData <+: frame.payload ∧ Fits f.payloadSize frame.payload.length

theorem bytesToDlc_fits {n : Nat} (hn : n ≤ 64) :
    Fits n (canFdLength (bytesToDlc (UInt8.ofNat n)).toNat) := by
  have hall : ∀ n < 65, (bytesToDlc (UInt8.ofNat n)).toNat < 16
      ∧ n ≤ canFdLength (bytesToDlc (UInt8.ofNat n)).toNat
      ∧ ∀ dlc < 16, n ≤ canFdLength dlc →
        canFdLength (bytesToDlc (UInt8.ofNat n)).toNat ≤ canFdLength dlc := by decide +kernel
  obtain ⟨hlt, hle, hleast⟩ := hall n (by omega)
  refine ⟨⟨hle, _, hlt, rfl⟩, ?_⟩
  rintro m ⟨hm, dlc, hdlc, rfl⟩
  exact hleast dlc hdlc hm

theorem arrives_of_becomes {T : RxTarget} {f : MutableFrame} {m : BusMessage} {d : Delivery}
    (hdlc : T.dlcToByte d.bus.dlc true = canFdLength d.bus.dlc.toNat)
    (hm : (txMessage f).Becomes m) (hd : d.bus = m) : Arrives f (T.rxFrame d.message) := by
  subst hd
  -- a CAN FD frame is no remote frame
  have hremote : d.bus.remote = false := by
    cases hr : d.bus.remote with
    | false => rfl
    | true =>
        have hfd : d.bus.fd = true := hm.fd
        rw [d.bus.classic_of_remote hr] at hfd
        cases hfd
  have hsuited : d.bus.Suited :=
    ⟨hm.extended, ⟨fun h => absurd (hremote.symm.trans h) Bool.false_ne_true, .inl hm.fd⟩⟩
  have hfaithful := (faithful_iff d hdlc).mpr hsuited
  refine ⟨hfaithful.id.trans hm.id, fun hlen hsize => ?_⟩
  obtain ⟨beyond, hdata⟩ := hm.data
  have hfits := bytesToDlc_fits hsize
  have hlength : d.bus.data.length =
      canFdLength (bytesToDlc (UInt8.ofNat f.payloadSize)).toNat := by
    rw [d.bus.length_data, dataLength, hremote, dlcLength, hm.fd, hm.dlc]
    rfl
  rw [hfaithful.payload]
  refine ⟨?_, hlength ▸ hfits⟩
  have hle : f.payloadData.length ≤ canFdLength (bytesToDlc (UInt8.ofNat f.payloadSize)).toNat :=
    hlen ▸ hfits.1.1
  rw [hdata]
  show f.payloadData <+: (f.payloadData ++ beyond).take
    (canFdLength (bytesToDlc (UInt8.ofNat f.payloadSize)).toNat)
  exact List.prefix_take_iff.mpr ⟨List.prefix_append _ _, hle⟩

/-! ## Runs -/

abbrev NodeRec (K : Type) := Rec (Option TaskCtx × BusNode K) NodeLabel

/-- The frame `canard_mcp_tx_frame` is called with. -/
def NodeLabel.offered : NodeLabel → List MutableFrame
  | .tx frame _ _ => [frame]
  | _ => []

instance (tr : List (Event TxCall TxAnswer)) : Decidable (FailuresNegative tr) :=
  inferInstanceAs (Decidable (∀ ev ∈ tr, ∀ code ∈ failure ev, negated code ≤ 0))

/-- The frame, where libcanard is told that it was sent and not by a failure:
a failed call whose negated code is positive as an `int8_t` tells it the
same. -/
def NodeLabel.acknowledged : NodeLabel → List MutableFrame
  | .tx frame tr result => if FailuresNegative tr ∧ 0 < result then [frame] else []
  | _ => []

def offeredIn (xs : List (NodeRec K)) : List MutableFrame := xs.flatMap (·.label.offered)

def acknowledgedIn (xs : List (NodeRec K)) : List MutableFrame :=
  xs.flatMap (·.label.acknowledged)

def Become (fs : List MutableFrame) (ms : List BusMessage) : Prop :=
  List.Forall₂ (fun f m => (txMessage f).Becomes m) fs ms

def BusNode.fresh : BusNode K := ⟨.idle, [], [], [], 0, []⟩

section Run

variable [DecidableEq K] {k : K} {S : Setup} {acc : List BusMessage}

/-- Step lemma: the TXQ takes no message but that of the frame offered, and
takes it if that is acknowledged. -/
theorem stocked_step {s s' : Option TaskCtx × BusNode K} {l : NodeLabel}
    (h : NodeRuns k S s l s') (hs : Stocked k acc s.2) :
    ∃ fs ms, l.acknowledged.Sublist fs ∧ fs.Sublist l.offered ∧ Become fs ms
      ∧ Stocked k (acc ++ ms) s'.2 := by
  have hnothing {w' : BusNode K} (hs' : Stocked k acc w') :
      ∃ ms, Become [] ms ∧ Stocked k (acc ++ ms) w' :=
    ⟨[], .nil, by rwa [List.append_nil]⟩
  cases h with
  | moves h =>
      obtain ⟨ms, hms, hs'⟩ := hnothing (stocked_moves h hs)
      exact ⟨[], ms, .slnil, .slnil, hms, hs'⟩
  | rx h =>
      obtain ⟨ms, hms, hs'⟩ := hnothing (ensures_keeps (J := Stocked k acc)
        (fun _ _ _ _ hs h => stocked_rx hs h) _ hs _ _ _ _ h)
      exact ⟨[], ms, .slnil, .slnil, hms, hs'⟩
  | service h =>
      obtain ⟨ms, hms, hs'⟩ := hnothing (ensures_keeps (J := Stocked k acc)
        (fun _ _ _ _ hs h => stocked_task hs h) _ hs _ _ _ _ h)
      exact ⟨[], ms, .slnil, .slnil, hms, hs'⟩
  | @tx ctx w w' deadlineUsec frame tr result h =>
      have hoffered := txFrame_offered deadlineUsec frame hs _ _ _ _ h
      have htaken (ht : FrameTaken k acc frame w') :
          ∃ ms, Become [frame] ms ∧ Stocked k (acc ++ ms) w' := by
        obtain ⟨m, hm, hs'⟩ := ht
        exact ⟨[m], .cons hm .nil, hs'⟩
      by_cases hack : FailuresNegative tr ∧ 0 < result
      · obtain ⟨ms, hms, hs'⟩ := htaken (hoffered.taken hack.1 hack.2)
        exact ⟨[frame], ms, by simp [NodeLabel.acknowledged, hack], List.Sublist.refl _, hms, hs'⟩
      · rcases hoffered.either with hs' | ht
        · obtain ⟨ms, hms, hs'⟩ := hnothing hs'
          exact ⟨[], ms, by simp [NodeLabel.acknowledged, hack], List.nil_sublist _, hms, hs'⟩
        · obtain ⟨ms, hms, hs'⟩ := htaken ht
          exact ⟨[frame], ms, by simp [NodeLabel.acknowledged, hack], List.Sublist.refl _, hms, hs'⟩

/-- What a node's TXQ took and what its libcanard was given. -/
structure NodeBooks (k : K) (S : Setup) (xs : List (NodeRec K)) (fs : List MutableFrame)
    (w : BusNode K) : Prop where
  acknowledged : (acknowledgedIn xs).Sublist fs
  offered : fs.Sublist (offeredIn xs)
  stocked : ∃ ms, Become fs ms ∧ Stocked k ms w
  sound : w.inbox.Sound S.target [] 0

variable {ctx : Option TaskCtx} {w : Option TaskCtx × BusNode K} {xs : List (NodeRec K)}

/-- The run lemma. -/
theorem books_run (h : Run (NodeRuns k S) (ctx, .fresh) xs w) :
    ∃ fs, NodeBooks k S xs fs w.2 := by
  induction h with
  | nil =>
      refine ⟨[], .slnil, .slnil, ⟨[], .nil, rfl, .nil, Nat.le_refl _, [], .slnil, .nil⟩, ?_⟩
      exact ⟨⟨[], rfl, rfl⟩, Nat.zero_le _⟩
  | @snoc xs w l w' _ hs ih =>
      obtain ⟨fs, hacc, hoff, ⟨ms, hms, hstock⟩, hsound⟩ := ih
      obtain ⟨now, ms', hacc', hoff', hms', hstock'⟩ := stocked_step hs hstock
      refine ⟨fs ++ now, ?_, ?_, ⟨ms ++ ms', List.rel_append hms hms', hstock'⟩, ?_⟩
      · simpa [acknowledgedIn] using hacc.append hacc'
      · simpa [offeredIn] using hoff.append hoff'
      · exact sound_run hs hsound

/-- Each frame libcanard was given is that of a message of the others, in
the order they were on the bus. -/
theorem handed_heard {ms : List BusMessage} {w : BusNode K} (hs : Stocked k ms w)
    (hsound : w.inbox.Sound S.target [] 0) :
    ∃ heard, heard.Sublist (sentByOthers k w.log)
      ∧ List.Forall₂ (fun m x => ∃ d : Delivery, d.bus = m ∧ x.2 = S.target.rxFrame d.message)
        heard w.inbox.handed := by
  obtain ⟨read, hread, hall⟩ := hs.received
  obtain ⟨taken, hreceived, hhanded⟩ := hsound.ledger.books
  have htaken : taken.Sublist w.inbox.received := by
    rw [hreceived, List.append_assoc]
    exact List.sublist_append_left _ _
  obtain ⟨heard, hheard, htold⟩ := forall₂_sublist hall htaken
  refine ⟨heard, hheard.trans (hread.trans (Medium.sentByOthers_take_sublist _)), ?_⟩
  rw [hhanded, List.forall₂_map_right_iff]
  refine htold.imp ?_
  rintro m msg ⟨d, rfl, rfl⟩
  exact ⟨d, rfl, rfl⟩

end Run

/-! ## Nodes on one bus -/

section Nodes

variable [DecidableEq K] {S : K → Setup} {ctx : K → Option TaskCtx}
  {w : K → Option TaskCtx × BusNode K} {xs : K → List (NodeRec K)}
  {log : Medium K BusMessage}

/-- What the nodes of one bus exchange, `given k` being the frames node `k`
was given to send. -/
structure BusExchange (xs : K → List (NodeRec K)) (w : K → Option TaskCtx × BusNode K)
    (given : K → List MutableFrame) : Prop where
  /-- Frames of `canard_mcp_tx_frame`, in order, all of those acknowledged
  among them. -/
  acknowledged : ∀ k, (acknowledgedIn (xs k)).Sublist (given k)
  offered : ∀ k, (given k).Sublist (offeredIn (xs k))
  /-- Each is on the bus, queued or was discarded by a reset, and once. -/
  kept : ∀ k, ∃ ms, Become (given k) ms
    ∧ (sentBy k (w k).2.log ++ (w k).2.txq ++ (w k).2.discarded).Perm ms
  /-- What libcanard gets are frames given to other nodes, none of them more
  often than it was given. -/
  origin : ∀ k, ∃ fs : Medium K MutableFrame,
    List.Forall₂ (fun f x => Arrives f.2 x.2) fs (w k).2.inbox.handed
      ∧ (∀ f ∈ fs, f.1 ≠ k) ∧ ∀ j, (sentBy j fs).Subperm (given j)

/-- Whatever the interleaving: the runs only have the history of the bus in
common. By `books_run` each node's messages stand for frames it was given;
what another node heard is part of the history, and is traced to its sender
and from there to the frame. -/
theorem frames_exchange (hdlc : ∀ k, ∀ dlc : UInt8, dlc.toNat < 16 →
      (S k).target.dlcToByte dlc true = canFdLength dlc.toNat)
    (hrun : ∀ k, Run (NodeRuns k (S k)) (ctx k, .fresh) (xs k) (w k))
    (hlog : ∀ k, (w k).2.log = log) : ∃ given, BusExchange xs w given := by
  choose given hbooks using fun k => books_run (hrun k)
  choose ms hms hstock using fun k => (hbooks k).stocked
  refine ⟨given, fun k => (hbooks k).acknowledged, fun k => (hbooks k).offered,
    fun k => ⟨ms k, hms k, (hstock k).own⟩, fun k => ?_⟩
  -- what is on the bus of node `j` stands for some of what it was given
  have hsent : ∀ j, ∃ fs, fs.Subperm (given j) ∧ Become fs (sentBy j log) := by
    intro j
    have hown := (hstock j).own
    rw [hlog j, List.append_assoc] at hown
    exact forall₂_subperm (hms j) ((List.sublist_append_left _ _).subperm.trans hown.subperm)
  choose fs hfs hbecome using hsent
  obtain ⟨origin, horigin, hall⟩ := Medium.exists_origin hbecome
  obtain ⟨heard, hheard, htold⟩ := handed_heard (hstock k) (hbooks k).sound
  rw [hlog k] at hheard
  obtain ⟨senders, hsenders, hne, rfl⟩ := Medium.exists_senders hheard
  obtain ⟨heardOf, hfrom, hof⟩ := forall₂_sublist hall hsenders
  rw [List.forall₂_map_left_iff] at htold
  refine ⟨heardOf, forall₂_chain ?_ hof htold, ?_, fun j => ?_⟩
  · rintro f p x ⟨-, hm⟩ ⟨d, hd, hx⟩
    rw [hx]
    exact arrives_of_becomes (hdlc k _ d.bus.dlc_lt) hm hd
  · intro f hf
    have hsame : heardOf.map (·.1) = senders.map (·.1) := by
      rw [← List.forall₂_eq_eq_eq, List.forall₂_map_left_iff, List.forall₂_map_right_iff]
      exact hof.imp fun _ _ h => h.1
    have hmem : f.1 ∈ senders.map (·.1) := hsame ▸ List.mem_map_of_mem hf
    obtain ⟨p, hp, hfp⟩ := List.mem_map.mp hmem
    exact hfp ▸ hne p hp
  · exact (Medium.sentBy_sublist hfrom j).subperm.trans (horigin j ▸ hfs j)

end Nodes

/-! ## Two nodes on the bench -/

def benchSetup : Setup := ⟨benchBoard, 2, 1, benchDlc⟩

/-- Nine bytes, which `canFdFrame` brings with three from beyond. -/
def nineBytes : MutableFrame := ⟨0x1234567, 9, List.replicate 9 7⟩

theorem nineBytes_becomes : (txMessage nineBytes).Becomes canFdFrame :=
  ⟨rfl, rfl, rfl, rfl, [7, 7, 7], rfl⟩

/-- Node `false` sends its frame and the controller puts it on the bus. -/
def benchSender : BusNode Bool := ⟨.idle, [], [canFdFrame], [], 0, [(false, canFdFrame)]⟩

theorem benchSender_run : ∃ xs, Run (NodeRuns false benchSetup) (none, .fresh) xs
    (none, benchSender) ∧ acknowledgedIn xs = [nineBytes] := by
  have hstatus : nodeTxEnv 1 (.fresh : BusNode Bool) .getTxqStatus (errOk, ⟨true⟩) .fresh :=
    ⟨rfl, .inr rfl⟩
  have htake : nodeTxEnv 1 .fresh (.transmitMessageToTxq (txMessage nineBytes) true) errOk
      (BusNode.fresh.take canFdFrame : BusNode Bool) :=
    .inr ⟨rfl, by decide, canFdFrame, nineBytes_becomes, rfl⟩
  have htx : Exec (busyNodeTx false benchBoard 2 1)
      (txCallback transportMcp251xfd 0 nineBytes) () .fresh (roomTrace nineBytes) 1 ()
      (BusNode.fresh.take canFdFrame) :=
    .ask_bind (interleave_of hstatus) (.ask_bind (interleave_of htake) .ret)
  have hneg : FailuresNegative (roomTrace nineBytes) := by
    simp [FailuresNegative, roomTrace, failure]
  have htxq : (BusNode.fresh.take canFdFrame : BusNode Bool).txq = [] ++ canFdFrame :: [] := rfl
  have hsends : BusNode.Moves false benchBoard 2 (BusNode.fresh.take canFdFrame) benchSender :=
    .sends htxq
  refine ⟨_, .snoc (.snoc .nil (.tx (S := benchSetup) htx)) (.moves hsends), ?_⟩
  simp [acknowledgedIn, NodeLabel.acknowledged, hneg]

/-- Node `true` sees the frame on the bus and takes it. -/
def benchListener : BusNode Bool := ⟨.idle, [], [], [], 0, [(false, canFdFrame)]⟩

def benchHearer : BusNode Bool := benchListener.receive benchBoard 0 canFdFrame.deliver

def benchNodeRx (w : BusNode Bool) : (i : RxCall) → RxAnswer i × BusNode Bool
  | .getFifoStatus _ => ((errOk, ⟨!w.inbox.fifo1.isEmpty⟩), w)
  | .receiveMessageFromFifo _ _ =>
    match w.inbox.fifo1 with
    | [] => ((1, default), w)
    | msg :: rest => ((errOk, msg), { w with inbox := { w.inbox with fifo1 := rest } })
  | .canardRxAccept timestampUs frame _ => (⟨0, default, none⟩,
    { w with inbox := { w.inbox with handed := w.inbox.handed ++ [(timestampUs, frame)] } })
  | .subscriptionDispatch _ _ => ((), w)
  | .deallocate _ _ => ((), w)

theorem benchNodeRx_answers : Answers benchNodeRx (busyNodeRx true benchBoard 2) := by
  intro w i
  refine interleave_of ?_
  cases i with
  | getFifoStatus => exact ⟨w.inbox, ⟨rfl, .inr rfl⟩, rfl⟩
  | receiveMessageFromFifo =>
      simp only [benchNodeRx]
      cases hfifo : w.inbox.fifo1 with
      | nil => exact ⟨w.inbox, .inl ⟨(by decide : (1 : ErrorResult) ≠ errOk), rfl⟩, rfl⟩
      | cons msg rest => exact ⟨_, .inr ⟨rfl, rest, hfifo, rfl⟩, rfl⟩
  | canardRxAccept => exact ⟨_, rfl, rfl⟩
  | subscriptionDispatch | deallocate => exact ⟨w.inbox, rfl, rfl⟩

theorem benchHearer_run : ∃ xs w, Run (NodeRuns true benchSetup) (none, .fresh) xs (none, w)
    ∧ w.log = [(false, canFdFrame)]
    ∧ w.inbox.handed.map (·.2.payload) = [List.replicate 12 7] := by
  have hothers : BusNode.Moves true benchBoard 2 .fresh benchListener :=
    .others Bool.false_ne_true canFdFrame
  have hlogged : benchListener.log[0]? = some (false, canFdFrame.deliver.bus) := rfl
  have hreceives : benchListener.Moves true benchBoard 2 benchHearer :=
    .receives canFdFrame.deliver (Nat.le_refl _) hlogged Bool.false_ne_true (by decide)
  have heval : ∃ tr w, (leosCyphalRxProcess benchDlc false).eval benchNodeRx 2 ((), benchHearer)
      = some (tr, (), ((), w)) ∧ w.log = [(false, canFdFrame)]
      ∧ w.inbox.handed.map (·.2.payload) = [List.replicate 12 7] := ⟨_, _, rfl, rfl, by decide⟩
  obtain ⟨tr, w, heval, hlog, hhanded⟩ := heval
  have hrx := Prog.eval_exec benchNodeRx_answers heval
  exact ⟨_, w, .snoc (.snoc (.snoc .nil (.moves hothers)) (.moves hreceives))
    (.rx (S := benchSetup) hrx), hlog, hhanded⟩

/-- Nine bytes are sent as a frame of twelve; the node that hears it is handed
twelve, with whatever was behind the nine. -/
theorem frames_exchange_nine : ∃ (xs : Bool → List (NodeRec Bool))
    (w : Bool → Option TaskCtx × BusNode Bool) (given : Bool → List MutableFrame),
    acknowledgedIn (xs false) = [nineBytes]
      ∧ (w true).2.inbox.handed.map (·.2.payload) = [List.replicate 12 7]
      ∧ BusExchange xs w given := by
  obtain ⟨xs, hrun, hack⟩ := benchSender_run
  obtain ⟨xs', w', hrun', hlog', hhanded⟩ := benchHearer_run
  have hruns : ∀ k : Bool, Run (NodeRuns k benchSetup) (none, .fresh) (if k then xs' else xs)
      (none, if k then w' else benchSender) := by
    intro k
    cases k
    · exact hrun
    · exact hrun'
  have hlogs : ∀ k : Bool, (if k then w' else benchSender).log = [(false, canFdFrame)] := by
    intro k
    cases k
    · rfl
    · exact hlog'
  obtain ⟨given, hexchange⟩ := frames_exchange (fun _ _ _ => rfl) hruns hlogs
  exact ⟨_, _, given, hack, hhanded, hexchange⟩

end Cyphal

end LeosSdk
