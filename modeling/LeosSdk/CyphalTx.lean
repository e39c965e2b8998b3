import LeosSdk.CanTask

/-!
# Cyphal node: the transmit path

`canard_mcp_tx_frame` of the MCP251XFD transport's `driver.c`, reached from
`canardTxPoll` through `tx_callback`, beside `leos_mcp251xfd_task`: both may
flush the controller's TXQ while frames leave it for the bus.

libcanard keeps a frame that got 0, retires one that got a positive value and
drops the whole transfer on a negative one. The frames of a transfer it has
not finished are flushed with the others, so its remaining frames may follow
without them (`lost_truncates`), at any depth of the TXQ
(`truncated_at_every_depth`). A failure code whose negation is positive as an
`int8_t` retires a frame that never was in the TXQ. Runs with neither send no
transfer truncated (`transfers_untruncated`).

Frames carry the transfer they are of and their place in it, so the bus can be
asked what became of each. A library call only takes the frame being sent,
passes frames on to the bus or resets (`Bus.Follows`), and a positive result
means that the frame was taken or a failure read as a success
(`txFrame_takes`). The invariant `Whole` is about open transfers: the frames
before the next one are on their way, and only finished transfers have lost
any. The converse is no invariant but a continuation: once a frame of an open
transfer is lost, the library can answer so that all the others are sent.
-/

namespace LeosSdk

namespace Cyphal

open Mcp251xfd (ErrorResult errOk TaskCtx)

/-! ## The program -/

/-- `struct CanardMutableFrame`. -/
structure MutableFrame where
  extendedCanId : UInt32
  payloadSize : Nat
  payloadData : List UInt8
deriving DecidableEq, Repr, Inhabited

/-- The control flags `canard_mcp_tx_frame` sets. -/
inductive ControlFlag where
  | canFdFrame
  | extendedMessageId
deriving DecidableEq, Repr

/-- `MCP251XFD_CANMessage` as it is transmitted. -/
structure TxMessage where
  messageId : UInt32
  dlc : UInt8
  controlFlags : List ControlFlag
  payloadData : List UInt8
deriving DecidableEq, Repr

/-- The status bit `canard_mcp_tx_frame` tests. -/
structure TxqStatus where
  notFull : Bool
deriving DecidableEq, Repr

inductive TxCall where
  | getTxqStatus
  | resetTxq
  | transmitMessageToTxq (msg : TxMessage) (flush : Bool)

abbrev TxAnswer : TxCall → Type
  | .getTxqStatus => ErrorResult × TxqStatus
  | .resetTxq => ErrorResult
  | .transmitMessageToTxq _ _ => ErrorResult

abbrev Tx := Prog Unit TxCall TxAnswer

abbrev txCall (i : TxCall) : Tx (TxAnswer i) := Prog.ask i

def bytesToDlc (n : UInt8) : UInt8 :=
  if n ≤ 8 then n
  else if n ≤ 12 then 9
  else if n ≤ 16 then 10
  else if n ≤ 20 then 11
  else if n ≤ 24 then 12
  else if n ≤ 32 then 13
  else if n ≤ 48 then 14
  else 15

/-- `frame->payload.size` goes to `bytes_to_dlc` as a `uint8_t`. -/
def txMessage (frame : MutableFrame) : TxMessage where
  messageId := frame.extendedCanId
  dlc := bytesToDlc (UInt8.ofNat frame.payloadSize)
  controlFlags := [.canFdFrame, .extendedMessageId]
  payloadData := frame.payloadData

/-- `return -result;` as an `int8_t`. -/
def negated (result : ErrorResult) : Int8 := (-result).toUInt8.toInt8

/-- `canard_mcp_tx_frame`. The deadline is not used. -/
def txFrame (_deadlineUsec : UInt64) (frame : MutableFrame) : Tx Int8 := do
  let msg := txMessage frame
  let (result, txqStatus) ← txCall .getTxqStatus
  if result ≠ errOk then return negated result
  if !txqStatus.notFull then
    let _ ← txCall .resetTxq
  let result ← txCall (.transmitMessageToTxq msg true)
  if result ≠ errOk then return negated result
  return 1

/-- `leos_cyphal_transport_t` as far as it sends. -/
structure Transport where
  txFrame : UInt64 → MutableFrame → Tx Int8

/-- `leos_cyphal_transport_mcp251xfd`. -/
def transportMcp251xfd : Transport := ⟨txFrame⟩

def txCallback (transport : Transport) (deadlineUsec : UInt64) (frame : MutableFrame) : Tx Int8 :=
  transport.txFrame deadlineUsec frame

/-! ## The TXQ and the bus -/

/-- A frame of a transfer. -/
structure FrameId where
  transfer : Nat
  index : Nat
deriving DecidableEq, Repr

/-- The frames in the TXQ, and so far: the frames that left it onto the bus,
those it took, and those a reset discarded. -/
structure Bus where
  txq : List FrameId
  sent : List FrameId
  accepted : List FrameId
  discarded : List FrameId

def Bus.take (b : Bus) (f : FrameId) : Bus :=
  { b with txq := b.txq ++ [f], accepted := b.accepted ++ [f] }

def Bus.reset (b : Bus) : Bus :=
  { b with txq := [], discarded := b.discarded ++ b.txq }

/-- Any frame in the TXQ may be the next on the bus. -/
def Bus.Sends (b b' : Bus) : Prop :=
  ∃ earlier f later, b.txq = earlier ++ f :: later
    ∧ b' = { b with txq := earlier ++ later, sent := b.sent ++ [f] }

/-- A reset that fails may leave the TXQ as it was. -/
def Bus.Resets (b : Bus) (result : ErrorResult) (b' : Bus) : Prop :=
  b' = b.reset ∨ result ≠ errOk ∧ b' = b

/-- The MCP251XFD library with a TXQ of that depth, while `f` is being
transmitted. -/
def txEnv (depth : Nat) (f : FrameId) : Env Bus TxCall TxAnswer
  | b, .getTxqStatus, a, b' => b' = b
      ∧ (Prod.fst a ≠ errOk ∨ Prod.snd a = ⟨decide (b.txq.length < depth)⟩)
  | b, .resetTxq, r, b' => b.Resets r b'
  | b, .transmitMessageToTxq _ _, r, b' => r ≠ errOk ∧ b' = b
      ∨ r = errOk ∧ b.txq.length < depth ∧ b' = b.take f

/-- The library under the service task. -/
def taskTxEnv : Env Bus Mcp251xfd.Call Mcp251xfd.Answer
  | b, .resetTxq, r, b' => b.Resets r b'
  | b, _, _, b' => b' = b

abbrev busyTx (depth : Nat) (f : FrameId) : Env Bus TxCall TxAnswer :=
  interleave Bus.Sends (txEnv depth f)

abbrev busyTaskTx : Env Bus Mcp251xfd.Call Mcp251xfd.Answer := interleave Bus.Sends taskTxEnv

/-! ## libcanard's transfers -/

/-- The transfers handed to libcanard, each with its frames. -/
structure Transfers where
  length : Nat → Nat
  frame : FrameId → MutableFrame

/-- `next k` is the frame of transfer `k` to send next, `none` once the
transfer is sent or dropped. -/
structure Link where
  bus : Bus
  next : Nat → Option Nat

/-- What libcanard makes of the result for frame `i` of so many. -/
def advance (length i : Nat) (result : Int8) : Option Nat :=
  if 0 < result then if i + 1 < length then some (i + 1) else none
  else if result = 0 then some i
  else none

inductive LinkLabel where
  | sends
  | task (devNull : Bool) (tr : List (Event Mcp251xfd.Call Mcp251xfd.Answer))
  | tx (f : FrameId) (tr : List (Event TxCall TxAnswer)) (result : Int8)

/-- A frame leaves for the bus, the service task runs, or `canardTxPoll`
sends the next frame of some transfer. -/
inductive LinkStep (T : Transfers) (depth : Nat) : Link → LinkLabel → Link → Prop
  | sends {w : Link} {b'} (h : w.bus.Sends b') :
      LinkStep T depth w .sends { w with bus := b' }
  | task {w : Link} {devNull tr b'} {ctx ctx' : Option TaskCtx}
      (h : Exec busyTaskTx (Mcp251xfd.task devNull) ctx w.bus tr () ctx' b') :
      LinkStep T depth w (.task devNull tr) { w with bus := b' }
  | tx {w : Link} {k i deadlineUsec tr result b'} (hnext : w.next k = some i)
      (hlen : i < T.length k)
      (h : Exec (busyTx depth ⟨k, i⟩)
        (txCallback transportMcp251xfd deadlineUsec (T.frame ⟨k, i⟩)) () w.bus tr result () b') :
      LinkStep T depth w (.tx ⟨k, i⟩ tr result)
        ⟨b', Function.update w.next k (advance (T.length k) i result)⟩

/-- Nothing queued, and every transfer at its first frame. -/
def linkStart : Link := ⟨⟨[], [], [], []⟩, fun _ => some 0⟩

/-! ## What must hold -/

/-- On the bus or still in the TXQ. -/
def Bus.Kept (b : Bus) (f : FrameId) : Prop := f ∈ b.sent ∨ f ∈ b.txq

/-- A positive value for the last frame of a transfer: all the frames before
it were taken, are on the bus or still in the TXQ, and none was discarded. -/
def Untruncated (T : Transfers) (x : Rec Link LinkLabel) : Prop :=
  ∀ k i tr result, x.label = .tx ⟨k, i⟩ tr result → i + 1 = T.length k → 0 < result →
    ∀ j < i, ⟨k, j⟩ ∈ x.post.bus.accepted ∧ x.post.bus.Kept ⟨k, j⟩
      ∧ ⟨k, j⟩ ∉ x.post.bus.discarded

/-- A reset finds no frame of an unfinished transfer in the TXQ. -/
def ResetsSpare (x : Rec Link LinkLabel) : Prop :=
  ∀ f ∈ x.post.bus.discarded, f ∉ x.pre.bus.discarded → x.pre.next f.transfer = none

/-- A failure of the library, and its code. -/
def failure : Event TxCall TxAnswer → Option ErrorResult
  | ⟨.getTxqStatus, a⟩ => if a.1 = errOk then none else some a.1
  | ⟨.resetTxq, _⟩ => none
  | ⟨.transmitMessageToTxq _ _, r⟩ => if r = errOk then none else some r

/-- No failure comes back from `canard_mcp_tx_frame` as a success. -/
def FailuresNegative (tr : List (Event TxCall TxAnswer)) : Prop :=
  ∀ ev ∈ tr, ∀ code, failure ev = some code → negated code ≤ 0

def FailuresRead (x : Rec Link LinkLabel) : Prop :=
  ∀ f tr result, x.label = .tx f tr result → FailuresNegative tr

/-! ## What the library does to the frames -/

/-- Nothing taken is forgotten, and a frame is lost to a reset only. -/
structure Bus.Follows (b b' : Bus) : Prop where
  accepted : ∀ f ∈ b.accepted, f ∈ b'.accepted
  discarded : ∀ f ∈ b.discarded, f ∈ b'.discarded
  kept : ∀ f, b.Kept f → b'.Kept f ∨ f ∈ b'.discarded

variable {b b' b'' : Bus} {T : Transfers} {depth : Nat} {f : FrameId}

theorem Bus.Follows.refl (b : Bus) : b.Follows b :=
  ⟨fun _ h => h, fun _ h => h, fun _ h => .inl h⟩

theorem Bus.Follows.trans (h₁ : b.Follows b') (h₂ : b'.Follows b'') : b.Follows b'' where
  accepted f hf := h₂.accepted f (h₁.accepted f hf)
  discarded f hf := h₂.discarded f (h₁.discarded f hf)
  kept f hf := by
    rcases h₁.kept f hf with hkept | hgone
    · exact h₂.kept f hkept
    · exact .inr (h₂.discarded f hgone)

theorem Bus.Sends.follows (h : b.Sends b') : b.Follows b' := by
  obtain ⟨earlier, g, later, htxq, rfl⟩ := h
  refine ⟨fun _ h => h, fun _ h => h, fun f hf => .inl ?_⟩
  rcases hf with hsent | hf
  · exact .inl (List.mem_append_left _ hsent)
  · rw [htxq, List.mem_append, List.mem_cons] at hf
    rcases hf with hf | rfl | hf
    · exact .inr (List.mem_append_left _ hf)
    · exact .inl (by simp)
    · exact .inr (List.mem_append_right _ hf)

theorem Bus.reset_follows (b : Bus) : b.Follows b.reset where
  accepted _ h := h
  discarded _ h := List.mem_append_left _ h
  kept f hf := by
    rcases hf with hsent | htxq
    · exact .inl (.inl hsent)
    · exact .inr (List.mem_append_right _ htxq)

theorem Bus.Resets.follows {result : ErrorResult} (h : b.Resets result b') : b.Follows b' := by
  rcases h with rfl | ⟨-, rfl⟩
  · exact b.reset_follows
  · exact .refl _

theorem Bus.take_follows (b : Bus) (f : FrameId) : b.Follows (b.take f) where
  accepted _ h := List.mem_append_left _ h
  discarded _ h := h
  kept g hg := by
    rcases hg with hsent | htxq
    · exact .inl (.inl hsent)
    · exact .inl (.inr (List.mem_append_left _ htxq))

theorem sends_follow (h : Relation.ReflTransGen Bus.Sends b b') : b.Follows b' :=
  ticks_preserve (fun _ _ hs hb => hb.trans hs.follows) h (.refl b)

/-- Whatever `canard_mcp_tx_frame` asks of the library. -/
theorem busyTx_follows {i : TxCall} {r : TxAnswer i} (h : busyTx depth f b i r b') :
    b.Follows b' := by
  obtain ⟨b₁, hticks, h⟩ := h
  refine (sends_follow hticks).trans ?_
  cases i with
  | getTxqStatus =>
      obtain rfl := h.1
      exact .refl _
  | resetTxq => exact Bus.Resets.follows h
  | transmitMessageToTxq msg flush =>
      rcases h with ⟨-, rfl⟩ | ⟨-, -, rfl⟩
      · exact .refl _
      · exact b₁.take_follows f

theorem busyTaskTx_follows {i : Mcp251xfd.Call} {r : Mcp251xfd.Answer i}
    (h : busyTaskTx b i r b') : b.Follows b' := by
  obtain ⟨b₁, hticks, h⟩ := h
  refine (sends_follow hticks).trans ?_
  cases i with
  | resetTxq => exact Bus.Resets.follows h
  | _ =>
      obtain rfl := h
      exact .refl _

theorem FailuresNegative.not_pos {tr : List (Event TxCall TxAnswer)} (h : FailuresNegative tr)
    (ev : Event TxCall TxAnswer) (hev : ev ∈ tr) {code : ErrorResult}
    (hcode : failure ev = some code) : ¬0 < negated code :=
  Int8.not_lt.mpr (h ev hev code hcode)

/-- What follows once `MCP251XFD_TransmitMessageToTXQ` has answered. -/
theorem transmit_takes {msg : TxMessage} {flush : Bool} {r : ErrorResult}
    (h : busyTx depth f b (.transmitMessageToTxq msg flush) r b')
    {tr : List (Event TxCall TxAnswer)} (hev : ⟨.transmitMessageToTxq msg flush, r⟩ ∈ tr) :
    (r ≠ errOk → FailuresNegative tr → 0 < negated r → f ∈ b'.accepted ∧ b'.Kept f)
      ∧ (¬r ≠ errOk → FailuresNegative tr → (0 : Int8) < 1 → f ∈ b'.accepted ∧ b'.Kept f) := by
  obtain ⟨b₁, -, h⟩ := h
  constructor
  · intro herr hneg hpos
    exact absurd hpos (hneg.not_pos _ hev (by rw [failure, if_neg herr]))
  · intro hok _ _
    rcases h with ⟨herr, -⟩ | ⟨-, -, rfl⟩
    · exact absurd herr hok
    · exact ⟨by simp [Bus.take], .inr (by simp [Bus.take])⟩

/-- A positive result that is not a failure's means that the TXQ took the
frame, after a reset or without one. -/
theorem txFrame_takes (deadlineUsec : UInt64) (frame : MutableFrame) (b : Bus) :
    Ensures (busyTx depth f) (txFrame deadlineUsec frame)
      (fun tr result _ b' => FailuresNegative tr → 0 < result →
        f ∈ b'.accepted ∧ b'.Kept f) () b := by
  simp only [txFrame, ensures_bind, ensures_ask, ensures_ite, ensures_pure]
  intro status b₁ _
  refine ⟨fun herr hneg hpos => ?_, fun _ => ⟨fun _ reset b₂ _ r b₃ h₃ => ?_,
    fun _ r b₂ h₂ => ?_⟩⟩
  · refine absurd hpos (hneg.not_pos ⟨.getTxqStatus, status⟩ (by simp) ?_)
    rw [failure, if_neg herr]
  · exact transmit_takes h₃ (by simp)
  · exact transmit_takes h₂ (by simp)

/-! ## Every open transfer is whole -/

/-- While a transfer is not finished, the frames before its next one are on
their way, and only finished transfers have lost any. -/
structure Whole (w : Link) : Prop where
  taken : ∀ k i, w.next k = some i → ∀ j < i,
    ⟨k, j⟩ ∈ w.bus.accepted ∧ w.bus.Kept ⟨k, j⟩
  lost : ∀ f ∈ w.bus.discarded, w.next f.transfer = none

theorem linkStart_whole : Whole linkStart where
  taken k i hnext j hj := by
    obtain rfl : 0 = i := Option.some.inj hnext
    exact absurd hj (Nat.not_lt_zero j)
  lost f hf := absurd hf List.not_mem_nil

theorem advance_eq_some {length i i' : Nat} {result : Int8}
    (h : advance length i result = some i') : i' = i ∨ i' = i + 1 ∧ 0 < result := by
  unfold advance at h
  split at h
  · rename_i hpos
    split at h
    · exact .inr ⟨(Option.some.inj h).symm, hpos⟩
    · cases h
  · split at h
    · exact .inl (Option.some.inj h).symm
    · cases h

section Step

variable {w w' : Link} {l : LinkLabel}

theorem linkStep_follows (h : LinkStep T depth w l w') : w.bus.Follows w'.bus := by
  cases h with
  | sends h => exact h.follows
  | task h =>
      exact ensures_keeps (J := Bus.Follows w.bus)
        (fun _ _ _ _ hfollows hr => hfollows.trans (busyTaskTx_follows hr)) _ (.refl _) _ _ _ _ h
  | tx _ _ h =>
      exact ensures_keeps (J := Bus.Follows w.bus)
        (fun _ _ _ _ hfollows hr => hfollows.trans (busyTx_follows hr)) _ (.refl _) _ _ _ _ h

/-- A finished transfer stays finished. -/
theorem linkStep_finished (h : LinkStep T depth w l w') {k : Nat} (hk : w.next k = none) :
    w'.next k = none := by
  cases h with
  | sends | task => exact hk
  | @tx k₀ i _ _ _ _ hnext =>
      have hne : k ≠ k₀ := by
        rintro rfl
        rw [hk] at hnext
        cases hnext
      exact (Function.update_of_ne hne ..).trans hk

/-- The next frame of a transfer stays, or it moves on over one that got a
positive result. -/
theorem linkStep_next (h : LinkStep T depth w l w') {k i : Nat} (hi : w'.next k = some i) :
    w.next k = some i ∨ ∃ i₀ tr result, l = .tx ⟨k, i₀⟩ tr result ∧ w.next k = some i₀
      ∧ i = i₀ + 1 ∧ 0 < result := by
  cases h with
  | sends | task => exact .inl hi
  | @tx k₀ i₀ _ _ _ _ hnext =>
      rcases eq_or_ne k k₀ with rfl | hne
      · simp only [Function.update_self] at hi
        rcases advance_eq_some hi with rfl | ⟨rfl, hpos⟩
        · exact .inl hnext
        · exact .inr ⟨i₀, _, _, rfl, hnext, rfl, hpos⟩
      · exact .inl ((Function.update_of_ne hne ..).symm.trans hi)

theorem linkStep_takes {tr : List (Event TxCall TxAnswer)} {result : Int8}
    (h : LinkStep T depth w (.tx f tr result) w') (hneg : FailuresNegative tr)
    (hpos : 0 < result) : f ∈ w'.bus.accepted ∧ w'.bus.Kept f := by
  cases h with
  | @tx _ _ deadlineUsec _ _ _ _ _ h =>
      exact txFrame_takes deadlineUsec _ _ _ _ _ _ h hneg hpos

theorem linkStep_current {tr : List (Event TxCall TxAnswer)} {result : Int8}
    (h : LinkStep T depth w (.tx f tr result) w') : w.next f.transfer = some f.index := by
  cases h with
  | tx hnext => exact hnext

theorem lost_finished (hw : Whole w) (hspare : ResetsSpare ⟨w, l, w'⟩) {f : FrameId}
    (hf : f ∈ w'.bus.discarded) : w.next f.transfer = none := by
  by_cases hpre : f ∈ w.bus.discarded
  · exact hw.lost f hpre
  · exact hspare f hf hpre

/-- A step that spares them leaves the frames of an open transfer on their
way. -/
theorem frames_spared (hw : Whole w) (h : LinkStep T depth w l w')
    (hspare : ResetsSpare ⟨w, l, w'⟩) {k i j : Nat} (hnext : w.next k = some i) (hj : j < i) :
    ⟨k, j⟩ ∈ w'.bus.accepted ∧ w'.bus.Kept ⟨k, j⟩ ∧ ⟨k, j⟩ ∉ w'.bus.discarded := by
  have hfollows := linkStep_follows h
  obtain ⟨haccepted, hkept⟩ := hw.taken k i hnext j hj
  have hnot : ⟨k, j⟩ ∉ w'.bus.discarded := by
    intro hlost
    have hnone : w.next k = none := lost_finished hw hspare hlost
    rw [hnext] at hnone
    cases hnone
  exact ⟨hfollows.accepted _ haccepted, (hfollows.kept _ hkept).resolve_right hnot, hnot⟩

/-- Step lemma: a step whose resets spare the open transfers, and in which no
failure is read as a success, keeps them whole. -/
theorem whole_step (hw : Whole w) (h : LinkStep T depth w l w')
    (hspare : ResetsSpare ⟨w, l, w'⟩) (hread : FailuresRead ⟨w, l, w'⟩) : Whole w' := by
  refine ⟨fun k i hi j hj => ?_, fun f hf => linkStep_finished h (lost_finished hw hspare hf)⟩
  have hspared : ∀ i₀, w.next k = some i₀ → j < i₀ →
      ⟨k, j⟩ ∈ w'.bus.accepted ∧ w'.bus.Kept ⟨k, j⟩ := by
    intro i₀ hi₀ hlt
    obtain ⟨haccepted, hkept, -⟩ := frames_spared hw h hspare hi₀ hlt
    exact ⟨haccepted, hkept⟩
  rcases linkStep_next h hi with hsame | ⟨i₀, tr, result, rfl, hi₀, rfl, hpos⟩
  · exact hspared i hsame hj
  · rcases Nat.lt_succ_iff_lt_or_eq.mp hj with hlt | rfl
    · exact hspared i₀ hi₀ hlt
    · exact linkStep_takes h (hread _ _ _ rfl) hpos

end Step

/-- In every run in which no reset catches a frame of an unfinished transfer
and no failure is read as a success, no transfer is sent truncated: when its
last frame gets a positive value all the others were on their way. -/
theorem transfers_untruncated {xs : List (Rec Link LinkLabel)} {w : Link}
    (h : Run (LinkStep T depth) linkStart xs w)
    (hgood : ∀ x ∈ xs, ResetsSpare x ∧ FailuresRead x) : ∀ x ∈ xs, Untruncated T x := by
  have hwhole := (h.invariant Whole (fun x => ResetsSpare x ∧ FailuresRead x) linkStart_whole
    (fun x hs hx hw => whole_step hw hs hx.1 hx.2) hgood).2
  intro x hx k i tr result hl _ _ j hj
  obtain ⟨hs, hpre, -⟩ := hwhole x hx
  exact frames_spared hpre hs (hgood x hx).1 (linkStep_current (hl ▸ hs)) hj

/-! ## Without failures -/

section Working

variable {w : Link} {k i : Nat}

def roomTrace (frame : MutableFrame) : List (Event TxCall TxAnswer) :=
  [⟨.getTxqStatus, (errOk, ⟨true⟩)⟩, ⟨.transmitMessageToTxq (txMessage frame) true, errOk⟩]

def fullTrace (frame : MutableFrame) : List (Event TxCall TxAnswer) :=
  [⟨.getTxqStatus, (errOk, ⟨false⟩)⟩, ⟨.resetTxq, errOk⟩,
    ⟨.transmitMessageToTxq (txMessage frame) true, errOk⟩]

theorem roomTrace_read {w w' : Link} {f : FrameId} (frame : MutableFrame) (result : Int8) :
    FailuresRead ⟨w, .tx f (roomTrace frame) result, w'⟩ := by
  intro _ tr _ hl
  cases hl
  simp [FailuresNegative, roomTrace, failure]

/-- With room in the TXQ the next frame of a transfer is taken. -/
theorem linkStep_room (hnext : w.next k = some i) (hlen : i < T.length k)
    (hroom : w.bus.txq.length < depth) :
    LinkStep T depth w (.tx ⟨k, i⟩ (roomTrace (T.frame ⟨k, i⟩)) 1)
      ⟨w.bus.take ⟨k, i⟩, Function.update w.next k (advance (T.length k) i 1)⟩ := by
  refine @LinkStep.tx _ _ _ _ _ 0 _ _ _ hnext hlen ?_
  refine .call (interleave_of ⟨rfl, .inr (by rw [decide_eq_true hroom])⟩) ?_
  exact .call (interleave_of (.inr ⟨rfl, hroom, rfl⟩)) .ret

/-- With the TXQ full it is taken too, and what was in the TXQ is gone. -/
theorem linkStep_full (hnext : w.next k = some i) (hlen : i < T.length k)
    (hfull : depth ≤ w.bus.txq.length) (hdepth : 0 < depth) :
    LinkStep T depth w (.tx ⟨k, i⟩ (fullTrace (T.frame ⟨k, i⟩)) 1)
      ⟨w.bus.reset.take ⟨k, i⟩, Function.update w.next k (advance (T.length k) i 1)⟩ := by
  refine @LinkStep.tx _ _ _ _ _ 0 _ _ _ hnext hlen ?_
  refine .call (interleave_of ⟨rfl, .inr (by rw [decide_eq_false (Nat.not_lt.mpr hfull)])⟩) ?_
  exact .call (interleave_of (.inl rfl)) (.call (interleave_of (.inr ⟨rfl, hdepth, rfl⟩)) .ret)

/-- Room or not, the next frame of a transfer can get a positive result. -/
theorem linkStep_succeeds (hnext : w.next k = some i) (hlen : i < T.length k)
    (hdepth : 0 < depth) : ∃ tr w', LinkStep T depth w (.tx ⟨k, i⟩ tr 1) w'
      ∧ w'.next k = advance (T.length k) i 1 := by
  rcases Nat.lt_or_ge w.bus.txq.length depth with hroom | hfull
  · exact ⟨_, _, linkStep_room hnext hlen hroom, Function.update_self ..⟩
  · exact ⟨_, _, linkStep_full hnext hlen hfull hdepth, Function.update_self ..⟩

end Working

/-- Once a frame of an unfinished transfer has been discarded, nothing keeps
the rest of the transfer from being sent without it: room or not, its next
frame can always get a positive result. -/
theorem lost_truncates {w : Link} {i : Nat} (hdepth : 0 < depth)
    (hnext : w.next f.transfer = some i) (hlen : i < T.length f.transfer)
    (hindex : f.index < i) (hlost : f ∈ w.bus.discarded) :
    ∃ ys w', Run (LinkStep T depth) w ys w' ∧ ∃ y ∈ ys, ¬Untruncated T y := by
  obtain ⟨n, hn⟩ := Nat.exists_eq_add_of_lt hlen
  -- by the number of frames after the next one
  induction n generalizing w i with
  | zero =>
      obtain ⟨tr, w', hstep, -⟩ := linkStep_succeeds hnext hlen hdepth
      have hlost' := (linkStep_follows hstep).discarded f hlost
      refine ⟨_, _, .cons hstep .nil, _, List.mem_singleton_self _, fun h => ?_⟩
      exact (h f.transfer i tr 1 rfl hn.symm (by decide) f.index hindex).2.2 hlost'
  | succ n ih =>
      have hmore : i + 1 < T.length f.transfer := by omega
      obtain ⟨tr, w', hstep, hnext'⟩ := linkStep_succeeds hnext hlen hdepth
      have hadvance : advance (T.length f.transfer) i 1 = some (i + 1) := by
        rw [advance, if_pos (by decide), if_pos hmore]
      obtain ⟨ys, w'', hrun, y, hy, hbad⟩ := ih (hnext'.trans hadvance) hmore (by omega)
        ((linkStep_follows hstep).discarded f hlost) (by omega)
      exact ⟨_, _, .cons hstep hrun, y, List.mem_cons_of_mem _ hy, hbad⟩

/-- Transfers of that many frames each. -/
def transfersOf (n : Nat) : Transfers := ⟨fun _ => n, fun _ => default⟩

/-- With room for both frames they stay. -/
theorem transfers_untruncated_room : ∃ xs w, Run (LinkStep (transfersOf 2) 2) linkStart xs w
    ∧ w.bus.txq = [⟨0, 0⟩, ⟨0, 1⟩] ∧ w.next 0 = none
    ∧ ∀ x ∈ xs, Untruncated (transfersOf 2) x := by
  have hrun : Run (LinkStep (transfersOf 2) 2) linkStart _ _ :=
    .cons (linkStep_room (k := 0) rfl (by decide) (by decide))
      (.cons (linkStep_room (k := 0) (i := 1) rfl (by decide) (by decide)) .nil)
  refine ⟨_, _, hrun, rfl, rfl, transfers_untruncated hrun ?_⟩
  refine List.forall_mem_cons.mpr ⟨⟨?_, roomTrace_read _ _⟩,
    List.forall_mem_cons.mpr ⟨⟨?_, roomTrace_read _ _⟩, List.forall_mem_nil _⟩⟩
  · intro f hf
    exact absurd hf List.not_mem_nil
  · intro f hf
    exact absurd hf List.not_mem_nil

/-- With room for one the second flushes the first and is a success: the
transfer is finished with only its tail in the TXQ. -/
theorem head_flushed : ∃ xs w, Run (LinkStep (transfersOf 2) 1) linkStart xs w
    ∧ w.next 0 = none ∧ w.bus.discarded = [⟨0, 0⟩] ∧ w.bus.txq = [⟨0, 1⟩]
    ∧ ¬∀ x ∈ xs, Untruncated (transfersOf 2) x := by
  have hrun : Run (LinkStep (transfersOf 2) 1) linkStart _ _ :=
    .cons (linkStep_room (k := 0) rfl (by decide) (by decide))
      (.cons (linkStep_full (k := 0) (i := 1) rfl (by decide) (by decide) (by decide)) .nil)
  refine ⟨_, _, hrun, rfl, rfl, rfl, fun h => ?_⟩
  have hlast := h _ (List.mem_cons_of_mem _ (List.mem_singleton_self _))
  exact (hlast 0 1 _ 1 rfl rfl (by decide) 0 (by decide)).2.2 (by decide)

/-! ## No depth is enough -/

theorem txq_fills (depth n : Nat) (hn : n ≤ depth) :
    ∃ xs w, Run (LinkStep (transfersOf (depth + 1)) depth) linkStart xs w
      ∧ w.bus.txq = (List.range n).map (FrameId.mk 0) ∧ w.next 0 = some n := by
  induction n with
  | zero => exact ⟨[], linkStart, .nil, rfl, rfl⟩
  | succ n ih =>
      obtain ⟨xs, w, hrun, htxq, hnext⟩ := ih (by omega)
      have hroom : w.bus.txq.length < depth := by
        rw [htxq, List.length_map, List.length_range]
        omega
      have hstep := linkStep_room (T := transfersOf (depth + 1)) hnext
        (Nat.lt_succ_of_le (by omega)) hroom
      refine ⟨_, _, hrun.snoc hstep, ?_, ?_⟩
      · simp [Bus.take, htxq, List.range_succ]
      · have hmore : n + 1 < depth + 1 := by omega
        simp [advance, transfersOf, hmore]

/-- While nothing leaves for the bus, a transfer of one frame more than the
TXQ has room for is sent without its head. -/
theorem truncated_at_every_depth (depth : Nat) (hdepth : 0 < depth) :
    ∃ xs w, Run (LinkStep (transfersOf (depth + 1)) depth) linkStart xs w
      ∧ ¬∀ x ∈ xs, Untruncated (transfersOf (depth + 1)) x := by
  obtain ⟨xs, w, hrun, htxq, hnext⟩ := txq_fills depth depth (Nat.le_refl _)
  have hfull : depth ≤ w.bus.txq.length := by simp [htxq]
  have hstep := linkStep_full (T := transfersOf (depth + 1)) hnext
    (Nat.lt_succ_self depth) hfull hdepth
  refine ⟨_, _, hrun.snoc hstep, fun h => ?_⟩
  have hlast := h _ (List.mem_append_right _ (List.mem_singleton_self _))
  refine (hlast 0 depth _ 1 rfl rfl (by decide) 0 hdepth).2.2 ?_
  have hhead : (⟨0, 0⟩ : FrameId) ∈ w.bus.txq := by
    rw [htxq]
    exact List.mem_map_of_mem (List.mem_range.mpr hdepth)
  exact List.mem_append_right _ hhead

end Cyphal

end LeosSdk
