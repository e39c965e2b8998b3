import LeosSdk.CanTask
import LeosSdk.CyphalNode

/-!
# Cyphal node: draining the receive FIFO

`canard_mcp_rx_process` of the MCP251XFD transport's `driver.c`. The MCP251XFD
library and libcanard are calls; so is `leos_cyphal_subscription_dispatch`,
whose effect on the node is that of the callback it invokes (`CyphalNode`). A
callback may subscribe and unsubscribe as it likes.

The result variable has the type `eERRORRESULT` for all three APIs. Whether
`result < 0` can hold for it depends on how the compiler represents that
enumeration, so the program takes it as a parameter and what is proved holds
either way. Logging is left out.

What a drain does is stated on its trace: the calls that concern frames,
transfers and payloads come in blocks, one for each message taken (`Handles`),
and what is left in the FIFO is the rest of it. One iteration handles one
message or fails to take any (`Iterated`). That the call returns at all is
proved with the number of waiting messages as the measure: no message arrives
during the drain, and an iteration that goes on has taken one. An iteration
ends the loop with messages left only after a failure.
-/

namespace LeosSdk

namespace Cyphal

open Mcp251xfd (ErrorResult errOk Fifo FifoStatus)

/-! ## The program -/

/-- `MCP251XFD_CANMessage` with its time stamp. -/
structure Message where
  messageId : UInt32
  dlc : UInt8
  payloadData : List UInt8
  timestampUs : UInt32
deriving DecidableEq, Repr, Inhabited

/-- `struct CanardFrame`. -/
structure Frame where
  extendedCanId : UInt32
  payloadSize : Nat
  payloadData : List UInt8
deriving DecidableEq, Repr

/-- What `canardRxAccept` returns and writes. -/
structure RxAccepted where
  result : Int8
  transfer : Transfer
  subscription : Option Ptr

/-- `MCP251XFD_PAYLOAD_64BYTE`. -/
inductive PayloadSize where
  | payload64Byte
deriving DecidableEq, Repr

inductive RxCall where
  | getFifoStatus (fifo : Fifo)
  | receiveMessageFromFifo (payloadSize : PayloadSize) (fifo : Fifo)
  | canardRxAccept (timestampUs : UInt32) (frame : Frame) (redundantIfaceIndex : UInt8)
  | subscriptionDispatch (transfer : Transfer) (subscription : Option Ptr)
  | deallocate (size : Nat) (pointer : Option Ptr)

abbrev RxAnswer : RxCall → Type
  | .getFifoStatus _ => ErrorResult × FifoStatus
  | .receiveMessageFromFifo _ _ => ErrorResult × Message
  | .canardRxAccept _ _ _ => RxAccepted
  | .subscriptionDispatch _ _ => Unit
  | .deallocate _ _ => Unit

abbrev Rx := Prog Unit RxCall RxAnswer

abbrev rxCall (i : RxCall) : Rx (RxAnswer i) := Prog.ask i

/-- What the compiled code takes from elsewhere: `MCP251XFD_DLCToByte`, and
whether `eERRORRESULT` is a signed type. -/
structure RxTarget where
  dlcToByte : UInt8 → Bool → Nat
  signedResult : Bool

/-- A result of `canardRxAccept` in the variable `result`. -/
def resultOfInt8 (result : Int8) : ErrorResult := result.toInt32.toUInt32

/-- `result < 0`. -/
def RxTarget.negative (T : RxTarget) (result : ErrorResult) : Bool :=
  T.signedResult && decide (result.toInt32 < 0)

def RxTarget.rxFrame (T : RxTarget) (msg : Message) : Frame where
  extendedCanId := msg.messageId
  payloadSize := T.dlcToByte msg.dlc true
  payloadData := msg.payloadData

/-- `// Check if more frames are available`. -/
def checkMore (frameCount : UInt32) : Rx (UInt32 ⊕ UInt32) := do
  let (result, rxStatus) ← rxCall (.getFifoStatus .fifo1)
  if result ≠ errOk then return .inr frameCount
  if rxStatus.rxFifoNotEmpty then return .inl frameCount
  return .inr frameCount

/-- One iteration of the `do … while`, with the count so far. -/
def rxLoop (T : RxTarget) (frameCount : UInt32) : Rx (UInt32 ⊕ UInt32) := do
  let (result, msg) ← rxCall (.receiveMessageFromFifo .payload64Byte .fifo1)
  if result ≠ errOk then return .inr frameCount
  let frameCount := frameCount + 1
  let accepted ← rxCall (.canardRxAccept msg.timestampUs (T.rxFrame msg) 0)
  let result := resultOfInt8 accepted.result
  if result = 1 then
    rxCall (.subscriptionDispatch accepted.transfer accepted.subscription)
    rxCall (.deallocate accepted.transfer.payload.allocatedSize
      accepted.transfer.payload.data)
    checkMore frameCount
  else if T.negative result then return .inr frameCount
  else checkMore frameCount

/-- `canard_mcp_rx_process`. -/
def rxProcess (T : RxTarget) : Rx UInt32 := do
  let (result, rxStatus) ← rxCall (.getFifoStatus .fifo1)
  if result ≠ errOk then return 0
  if !rxStatus.rxFifoNotEmpty then return 0
  Prog.iter (rxLoop T) 0

/-! ## The world -/

/-- The receive FIFO, oldest message first, and the node. -/
structure World where
  fifo : List Message
  node : Node

/-- What a callback may do to the node. -/
def Callback (L : Canard) : Node → Node → Prop :=
  Relation.ReflTransGen fun n n' => ∃ l, NodeStep L n l n'

/-- Any call but a dispatch or a free may fail. No message arrives meanwhile;
a failed receive takes none. A completed transfer comes with the object
registered for its port, and a callback may do to the node what its calls
allow. -/
def rxEnv (L : Canard) : Env World RxCall RxAnswer
  | w, .getFifoStatus _, a, w' =>
    w' = w ∧ (Prod.fst a ≠ errOk ∨ Prod.snd a = ⟨!w.fifo.isEmpty⟩)
  | w, .receiveMessageFromFifo _ _, a, w' =>
    Prod.fst a ≠ errOk ∧ w' = w
      ∨ Prod.fst a = errOk ∧ w.fifo = Prod.snd a :: w'.fifo ∧ w'.node = w.node
  | w, .canardRxAccept _ _ _, a, w' =>
    w' = w ∧ (a.result = 0 ∨ a.result < 0
      ∨ a.result = 1 ∧ a.subscription.isSome
        ∧ a.subscription = w.node.rxSubscriptions a.transfer.port)
  | w, .subscriptionDispatch transfer subscription, _, w' =>
    w'.fifo = w.fifo
      ∧ match Cyphal.subscriptionDispatch w.node.mem (some transfer) subscription with
        | none => w'.node = w.node
        | some _ => Callback L w.node w'.node
  | w, .deallocate _ _, _, w' => w' = w

/-! ## What happens to the frames -/

/-- The calls that concern frames, transfers and payloads. -/
inductive Move where
  | pop (msg : Message)
  | accept (timestampUs : UInt32) (frame : Frame)
      (completed : Option (Transfer × Option Ptr))
  | dispatch (transfer : Transfer) (subscription : Option Ptr)
  | free (size : Nat) (pointer : Option Ptr)

def move : Event RxCall RxAnswer → Option Move
  | ⟨.getFifoStatus _, _⟩ => none
  | ⟨.receiveMessageFromFifo _ _, a⟩ =>
    if Prod.fst a = errOk then some (.pop (Prod.snd a)) else none
  | ⟨.canardRxAccept timestampUs frame _, a⟩ =>
    some (.accept timestampUs frame
      (if a.result = 1 then some (a.transfer, a.subscription) else none))
  | ⟨.subscriptionDispatch transfer subscription, _⟩ =>
    some (.dispatch transfer subscription)
  | ⟨.deallocate size pointer, _⟩ => some (.free size pointer)

/-- A call that failed. -/
def Failed : Event RxCall RxAnswer → Prop
  | ⟨.getFifoStatus _, a⟩ => Prod.fst a ≠ errOk
  | ⟨.receiveMessageFromFifo _ _, a⟩ => Prod.fst a ≠ errOk
  | ⟨.canardRxAccept _ _ _, a⟩ => a.result < 0
  | ⟨.subscriptionDispatch _ _, _⟩ => False
  | ⟨.deallocate _ _, _⟩ => False

/-- A popped message and the transfer it completed, if it did. -/
structure Handled where
  msg : Message
  completed : Option (Transfer × Option Ptr)

/-- A popped frame is accepted; a transfer it completes is dispatched, then
its payload freed. -/
def Handled.moves (T : RxTarget) (h : Handled) : List Move :=
  [.pop h.msg, .accept h.msg.timestampUs (T.rxFrame h.msg) h.completed]
    ++ match h.completed with
      | none => []
      | some (transfer, subscription) =>
        [.dispatch transfer subscription,
          .free transfer.payload.allocatedSize transfer.payload.data]

/-- `tr` pops and handles messages from `w` on, leaving `w'`: the moves of the
trace are those of the messages, one after the other, and the FIFO is what is
left. -/
def Handles (T : RxTarget) (w : World) (tr : List (Event RxCall RxAnswer))
    (frameCount : UInt32) (w' : World) : Prop :=
  ∃ handled : List Handled, tr.filterMap move = handled.flatMap (Handled.moves T)
    ∧ w.fifo = handled.map (·.msg) ++ w'.fifo
    ∧ frameCount = UInt32.ofNat handled.length

variable {L : Canard} {T : RxTarget} {w w₀ w' : World} {n : UInt32}
  {tr tr' : List (Event RxCall RxAnswer)}

theorem handles_nil : Handles T w [] 0 w := ⟨[], rfl, rfl, rfl⟩

theorem handles_append (h : Handles T w₀ tr n w) (htr : tr'.filterMap move = [])
    (hfifo : w'.fifo = w.fifo) : Handles T w₀ (tr ++ tr') n w' := by
  obtain ⟨handled, hm, hf, hn⟩ := h
  refine ⟨handled, ?_, by rw [hfifo, hf], hn⟩
  rw [List.filterMap_append, htr, List.append_nil, hm]

/-- One more message handled. -/
theorem handles_snoc (h : Handles T w₀ tr n w) {x : Handled}
    (htr : tr'.filterMap move = x.moves T) (hfifo : w.fifo = x.msg :: w'.fifo) :
    Handles T w₀ (tr ++ tr') (n + 1) w' := by
  obtain ⟨handled, hm, hf, rfl⟩ := h
  refine ⟨handled ++ [x], ?_, ?_, ?_⟩
  · rw [List.filterMap_append, hm, htr, List.flatMap_append, List.flatMap_singleton]
  · rw [hf, hfifo, List.map_append]
    simp
  · rw [List.length_append, List.length_singleton, UInt32.ofNat_add]
    rfl

/-! ## One iteration -/

/-- `1` of `canardRxAccept` is the only result that reads as `1`. -/
theorem resultOfInt8_eq_one {result : Int8} : resultOfInt8 result = 1 ↔ result = 1 := by
  refine ⟨fun h => ?_, fun h => by rw [h]; rfl⟩
  have := congrArg (fun r : UInt32 => r.toInt32.toInt8) h
  simpa [resultOfInt8] using this

theorem negative_zero : T.negative (resultOfInt8 0) = false := by
  simp [RxTarget.negative, resultOfInt8]

section Rules

variable {ε : Type} {E : Env ε RxCall RxAnswer} {e : ε} {T : RxTarget} {n : UInt32}

/-- The check after a frame goes on where the status says so. -/
theorem ensures_checkMore {Q : Post Unit ε RxCall RxAnswer (UInt32 ⊕ UInt32)}
    (h : ∀ result st e₁, E e (.getFifoStatus .fifo1) (result, st) e₁ →
      Q [⟨.getFifoStatus .fifo1, (result, st)⟩]
        (if result = errOk ∧ st.rxFifoNotEmpty = true then .inl n else .inr n) () e₁) :
    Ensures E (checkMore n) Q () e := by
  simp only [checkMore, ensures_bind, ensures_ask]
  rintro ⟨result, st⟩ e₁ he
  have hq := h result st e₁ he
  by_cases hr : result = errOk
  · simp only [hr, ne_eq, not_true_eq_false, if_false, true_and] at hq ⊢
    split
    · rename_i hmore
      rw [if_pos hmore] at hq
      exact ensures_pure.mpr hq
    · rename_i hmore
      rw [if_neg hmore] at hq
      exact ensures_pure.mpr hq
  · simp only [hr, ne_eq, not_false_eq_true, if_true, false_and, if_false] at hq ⊢
    exact ensures_pure.mpr hq

/-- An iteration ends at a receive that fails. A frame is accepted; one that
completes a transfer is followed by its dispatch and its release. -/
theorem ensures_rxLoop {Q : Post Unit ε RxCall RxAnswer (UInt32 ⊕ UInt32)}
    (hfails : ∀ result msg e₁, result ≠ errOk →
      E e (.receiveMessageFromFifo .payload64Byte .fifo1) (result, msg) e₁ →
      Q [⟨.receiveMessageFromFifo .payload64Byte .fifo1, (result, msg)⟩] (.inr n) () e₁)
    (hframe : ∀ msg e₁ a e₂,
      E e (.receiveMessageFromFifo .payload64Byte .fifo1) (errOk, msg) e₁ →
      E e₁ (.canardRxAccept msg.timestampUs (T.rxFrame msg) 0) a e₂ →
      ∀ tr, tr = [⟨.receiveMessageFromFifo .payload64Byte .fifo1, (errOk, msg)⟩,
          ⟨.canardRxAccept msg.timestampUs (T.rxFrame msg) 0, a⟩] →
        (a.result = 1 →
          ∀ e₃, E e₂ (.subscriptionDispatch a.transfer a.subscription) () e₃ →
          ∀ e₄, E e₃ (.deallocate a.transfer.payload.allocatedSize
            a.transfer.payload.data) () e₄ →
          Ensures E (checkMore (n + 1)) (fun tr' => Q (tr ++
            (⟨.subscriptionDispatch a.transfer a.subscription, ()⟩ ::
            ⟨.deallocate a.transfer.payload.allocatedSize a.transfer.payload.data, ()⟩ ::
              tr'))) () e₄)
        ∧ (a.result ≠ 1 → T.negative (resultOfInt8 a.result) = true →
          Q tr (.inr (n + 1)) () e₂)
        ∧ (a.result ≠ 1 → T.negative (resultOfInt8 a.result) = false →
          Ensures E (checkMore (n + 1)) (fun tr' => Q (tr ++ tr')) () e₂)) :
    Ensures E (rxLoop T n) Q () e := by
  simp only [rxLoop, ensures_bind, ensures_ask]
  rintro ⟨result, msg⟩ e₁ h₁
  by_cases hr : result = errOk
  · subst hr
    simp only [ne_eq, not_true_eq_false, if_false, ensures_bind, ensures_ask]
    intro a e₂ h₂
    obtain ⟨hone, hstops, hgoes⟩ := hframe msg e₁ a e₂ h₁ h₂ _ rfl
    by_cases ha : a.result = 1
    · simp only [resultOfInt8_eq_one, ha, if_true, ensures_bind, ensures_ask]
      intro _ e₃ h₃ _ e₄ h₄
      exact hone ha e₃ h₃ e₄ h₄
    · simp only [resultOfInt8_eq_one, ha, if_false]
      cases hneg : T.negative (resultOfInt8 a.result) with
      | true => exact ensures_pure.mpr (hstops ha hneg)
      | false => exact hgoes ha hneg
  · simp only [ne_eq, hr, not_false_eq_true, if_true]
    exact ensures_pure.mpr (hfails result msg e₁ hr h₁)

/-- The drain starts where the first status says that there is a frame. -/
theorem ensures_rxProcess {Q : Post Unit ε RxCall RxAnswer UInt32}
    (h : ∀ result st e₁, E e (.getFifoStatus .fifo1) (result, st) e₁ →
      Q [⟨.getFifoStatus .fifo1, (result, st)⟩] 0 () e₁
        ∧ Ensures E (Prog.iter (rxLoop T) 0)
          (fun tr => Q (⟨.getFifoStatus .fifo1, (result, st)⟩ :: tr)) () e₁) :
    Ensures E (rxProcess T) Q () e := by
  simp only [rxProcess, ensures_bind, ensures_ask]
  rintro ⟨result, st⟩ e₁ he
  obtain ⟨hnone, hloop⟩ := h result st e₁ he
  dsimp only
  split
  · exact ensures_pure.mpr hnone
  · split
    · exact ensures_pure.mpr hnone
    · exact hloop

end Rules

/-- What a check for more frames leaves and answers. -/
def Checked (w : World) (n : UInt32) : Post Unit World RxCall RxAnswer (UInt32 ⊕ UInt32) :=
  fun tr r _ w' => w' = w ∧ tr.filterMap move = []
    ∧ (r = .inl n ∨ r = .inr n ∧ ((∀ ev ∈ tr, ¬Failed ev) → w.fifo = []))

theorem checkMore_total : Total (rxEnv L) (checkMore n) (Checked w n) () w := by
  refine total_call ⟨(errOk, ⟨!w.fifo.isEmpty⟩), w, rfl, .inr rfl⟩ ?_
  rintro ⟨result, st⟩ w' ⟨rfl, hst⟩
  by_cases hr : result = errOk
  · obtain rfl : st = ⟨!w'.fifo.isEmpty⟩ := hst.resolve_left fun h => h hr
    simp only [hr, ne_eq, not_true_eq_false, if_false]
    split
    · exact total_pure ⟨rfl, rfl, .inl rfl⟩
    · rename_i hempty
      refine total_pure ⟨rfl, rfl, .inr ⟨rfl, fun _ => ?_⟩⟩
      simpa using hempty
  · simp only [ne_eq, hr, not_false_eq_true, if_true]
    refine total_pure ⟨rfl, rfl, .inr ⟨rfl, fun hok => ?_⟩⟩
    exact absurd hr (hok ⟨.getFifoStatus .fifo1, (result, st)⟩ (by simp))

/-- An iteration either fails to receive or handles one message. It ends the
loop with frames left only after a failure. -/
def Iterated (T : RxTarget) (w : World) (n : UInt32) :
    Post Unit World RxCall RxAnswer (UInt32 ⊕ UInt32) :=
  fun tr r _ w' =>
    (r = .inr n ∧ w'.fifo = w.fifo ∧ tr.filterMap move = [] ∧ ∃ ev ∈ tr, Failed ev)
    ∨ ∃ x : Handled, tr.filterMap move = x.moves T ∧ w.fifo = x.msg :: w'.fifo
      ∧ (r = .inl (n + 1)
        ∨ r = .inr (n + 1) ∧ ((∀ ev ∈ tr, ¬Failed ev) → w'.fifo = []))

/-- The check after a handled message ends the iteration. -/
theorem checkMore_iterated {w₁ : World} {x : Handled} (htr : tr.filterMap move = x.moves T)
    (hfifo : w.fifo = x.msg :: w₁.fifo) :
    Total (rxEnv L) (checkMore (n + 1)) (fun tr' => Iterated T w n (tr ++ tr')) () w₁ := by
  refine checkMore_total.mono ?_
  intro tr' r _ w' h
  rcases h with ⟨rfl, htr', hr⟩
  refine .inr ⟨x, ?_, hfifo, hr.imp_right fun h => ⟨h.1, fun hok => h.2 ?_⟩⟩
  · rw [List.filterMap_append, htr', List.append_nil, htr]
  · exact fun ev hev => hok ev (List.mem_append_right _ hev)

/-- A dispatch returns, at the latest from a callback that does nothing. -/
theorem dispatch_answers (w : World) (transfer : Transfer) (subscription : Option Ptr) :
    rxEnv L w (.subscriptionDispatch transfer subscription) () w := by
  refine ⟨rfl, ?_⟩
  split
  · rfl
  · exact .refl

theorem moves_dispatched {msg : Message} {accepted : RxAccepted} (hone : accepted.result = 1) :
    ([⟨.receiveMessageFromFifo .payload64Byte .fifo1, (errOk, msg)⟩,
      ⟨.canardRxAccept msg.timestampUs (T.rxFrame msg) 0, accepted⟩,
      ⟨.subscriptionDispatch accepted.transfer accepted.subscription, ()⟩,
      ⟨.deallocate accepted.transfer.payload.allocatedSize
        accepted.transfer.payload.data, ()⟩] : List (Event RxCall RxAnswer)).filterMap move
      = (⟨msg, some (accepted.transfer, accepted.subscription)⟩ : Handled).moves T := by
  simp [move, Handled.moves, hone]

theorem moves_dropped {msg : Message} {accepted : RxAccepted} (hone : accepted.result ≠ 1) :
    ([⟨.receiveMessageFromFifo .payload64Byte .fifo1, (errOk, msg)⟩,
      ⟨.canardRxAccept msg.timestampUs (T.rxFrame msg) 0, accepted⟩] :
      List (Event RxCall RxAnswer)).filterMap move = (⟨msg, none⟩ : Handled).moves T := by
  simp [move, Handled.moves, hone]

/-- Step lemma: an iteration returns, whatever it is answered, and is one of
the two. -/
theorem rxLoop_total : Total (rxEnv L) (rxLoop T n) (Iterated T w n) () w := by
  refine total_call ⟨((1, default) : ErrorResult × Message), w,
    .inl ⟨by decide, rfl⟩⟩ ?_
  rintro ⟨result, msg⟩ w₁ h
  rcases h with ⟨herr, rfl⟩ | ⟨hok, hfifo, hnode⟩
  · replace herr : result ≠ errOk := herr
    simp only [ne_eq, herr, not_false_eq_true, if_true]
    refine total_pure (.inl ⟨rfl, rfl, ?_, ⟨_, .head _, herr⟩⟩)
    simp [move, herr]
  obtain rfl : result = errOk := hok
  replace hfifo : w.fifo = msg :: w₁.fifo := hfifo
  simp only [ne_eq, not_true_eq_false, if_false]
  refine total_call ⟨⟨0, default, none⟩, w₁, rfl, .inl rfl⟩ ?_
  intro accepted w₂ h
  rcases h with ⟨rfl, hres⟩
  by_cases hone : accepted.result = 1
  · -- a transfer is complete: it is dispatched, then its payload freed
    simp only [resultOfInt8_eq_one, hone, if_true]
    refine total_call ⟨(), w₂, dispatch_answers ..⟩ ?_
    intro _ w₃ h
    rcases h with ⟨hfifo₃, -⟩
    refine total_call ⟨(), w₃, rfl⟩ ?_
    rintro _ _ rfl
    exact checkMore_iterated (moves_dispatched hone) (hfifo.trans (by rw [hfifo₃]))
  · simp only [resultOfInt8_eq_one, hone, if_false]
    split
    · rename_i hneg
      -- only a negative result reads as one
      have hlt : accepted.result < 0 := by
        rcases hres with h | h | ⟨h, -⟩
        · rw [h, negative_zero] at hneg
          cases hneg
        · exact h
        · exact absurd h hone
      refine total_pure (.inr ⟨⟨msg, none⟩, moves_dropped hone, hfifo, .inr ⟨rfl, fun hok => ?_⟩⟩)
      exact absurd hlt (hok ⟨.canardRxAccept msg.timestampUs (T.rxFrame msg) 0, accepted⟩
        (by simp))
    · exact checkMore_iterated (moves_dropped hone) hfifo

/-! ## The whole drain -/

/-- The loop returns, by the number of messages that are waiting. -/
theorem rxLoops_total : Total (rxEnv L) (Prog.iter (rxLoop T) 0)
    (fun tr r _ w' =>
      Handles T w tr r w' ∧ ((∀ ev ∈ tr, ¬Failed ev) → w'.fifo = [])) () w := by
  refine total_iter (fun n tr _ w₁ => Handles T w tr n w₁) (fun _ _ w₁ => w₁.fifo.length)
    ?_ handles_nil
  intro n tr _ w₁ hI
  refine rxLoop_total.mono ?_
  intro tr' r _ w' h
  rcases h with ⟨rfl, hfifo, htr, ev, hev, hfail⟩ | ⟨x, htr, hfifo, hr⟩
  · refine ⟨by simp, fun m hm => ?_⟩
    cases hm
    refine ⟨handles_append hI htr hfifo, fun hok => ?_⟩
    exact absurd hfail (hok ev (List.mem_append_right _ hev))
  · have hsnoc := handles_snoc hI htr hfifo
    rcases hr with rfl | ⟨rfl, hempty⟩
    · refine ⟨fun m hm => ?_, by simp⟩
      cases hm
      exact ⟨hsnoc, by rw [hfifo, List.length_cons]; omega⟩
    · refine ⟨by simp, fun m hm => ?_⟩
      cases hm
      exact ⟨hsnoc, fun hok => hempty fun ev hev => hok ev (List.mem_append_right _ hev)⟩

/-- Whatever fails and whatever the callbacks do, `canard_mcp_rx_process`
returns; it has popped some frames off the front of the FIFO, handed each
once to `canardRxAccept`, dispatched each completed transfer and then freed
its payload before the next pop, freed nothing else, and returns how many
it popped. The FIFO is empty unless a call failed. -/
theorem rxProcess_drains (L : Canard) (T : RxTarget) (w : World) :
    Total (rxEnv L) (rxProcess T) (fun tr frameCount _ w' =>
      ∃ handled : List Handled,
        tr.filterMap move = handled.flatMap (Handled.moves T)
          ∧ w.fifo = handled.map (·.msg) ++ w'.fifo
          ∧ frameCount = UInt32.ofNat handled.length
          ∧ (handled.length < UInt32.size → frameCount.toNat = handled.length)
          ∧ ((∀ ev ∈ tr, ¬Failed ev) → w'.fifo = [])) () w := by
  suffices h : Total (rxEnv L) (rxProcess T) (fun tr r _ w' =>
      Handles T w tr r w' ∧ ((∀ ev ∈ tr, ¬Failed ev) → w'.fifo = [])) () w by
    refine h.mono ?_
    intro tr r _ w' h
    rcases h with ⟨⟨handled, hm, hf, rfl⟩, hempty⟩
    exact ⟨handled, hm, hf, rfl, UInt32.toNat_ofNat_of_lt', hempty⟩
  refine total_call ⟨(errOk, ⟨!w.fifo.isEmpty⟩), w, rfl, .inr rfl⟩ ?_
  rintro ⟨result, st⟩ w₁ ⟨rfl, hst⟩
  by_cases hr : result = errOk
  · obtain rfl : st = ⟨!w₁.fifo.isEmpty⟩ := hst.resolve_left fun h => h hr
    simp only [hr, ne_eq, not_true_eq_false, if_false]
    split
    · rename_i hempty
      exact total_pure ⟨handles_append handles_nil rfl rfl, fun _ => by simpa using hempty⟩
    · refine rxLoops_total.mono ?_
      intro tr r _ w' h
      rcases h with ⟨⟨handled, hm, hf, hn⟩, hempty⟩
      exact ⟨⟨handled, hm, hf, hn⟩, fun hok => hempty fun ev hev =>
        hok ev (List.mem_cons_of_mem _ hev)⟩
  · simp only [ne_eq, hr, not_false_eq_true, if_true]
    refine total_pure ⟨handles_append handles_nil rfl rfl, fun hok => ?_⟩
    exact absurd hr (hok ⟨.getFifoStatus .fifo1, (result, st)⟩ (by simp))

end Cyphal

end LeosSdk
