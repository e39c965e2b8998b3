import LeosSdk.CanIrq
import LeosSdk.CyphalRx

/-!
# Cyphal node: from the interrupt to libcanard

`leos_mcp251xfd_task` with `leos_cyphal_rx_process` behind the callback that
`leos_mcp251xfd_set_rx_handler` installed: a call of the callback is one
execution of `canard_mcp_rx_process`. The program may call
`leos_cyphal_rx_process` itself as well. Messages arrive, other events come
and go and GPIO interrupts run between any two calls of either, and any SPI
access may fail.

A message is in the FIFO or has been handed to `canardRxAccept`, in the
order received and once (`Ledger`). Whenever `irq_pending` is clear between
two operations nothing is in the FIFO, so all of them have been
(`received_handed_or_flagged`), unless a query of the task fails with INT
asserted and the flag clear.

Two invariants carry this. The ledger is kept by every single call: a
receive takes a message out and owes it, the accept after it settles the
debt, and no other call touches either side; so it does not matter where in
a drain something fails. That INT low implies the flag is `CanIrq`'s
invariant, which only looks at the INT line: seen from there a whole drain
is a sequence of moves that can but release INT (`line_drain`). A FIFO that
is not empty asserts INT, so without the flag it is empty.
-/

namespace LeosSdk

namespace Cyphal

open Mcp251xfd (errOk TaskCtx PendingCode Line Board irqHandler Forgiving)

/-! ## The callback -/

/-- `leos_cyphal_rx_process` on a node with the MCP251XFD transport. -/
def leosCyphalRxProcess (T : RxTarget) (nodeNull : Bool) : Rx Unit := do
  if nodeNull then return ()
  let _ ← rxProcess T
  return ()

/-! ## The controller and the node -/

/-- FIFO1, oldest message first, and the events pending beside its own. -/
structure Inbox where
  irqPending : Bool
  fifo1 : List Message
  events : List PendingCode
  /-- Every message the FIFO took. -/
  received : List Message
  /-- Every frame handed to `canardRxAccept`, with its time stamp. -/
  handed : List (UInt32 × Frame)

/-- The FIFO asserts its event while it holds a message. -/
def Inbox.pending (w : Inbox) : List PendingCode :=
  (if w.fifo1.isEmpty then [] else [⟨.fifo1Interrupt, by decide⟩]) ++ w.events

def Inbox.line (w : Inbox) : Line := ⟨w.irqPending, w.pending⟩

/-- `w'` after `w`, with the interrupt if INT has fallen. -/
def Inbox.settle (b : Board) (w w' : Inbox) : Inbox :=
  { w' with irqPending := (w.line.become b w'.pending).irqPending }

/-- What happens beside the program. A message that finds the FIFO full is
not received. -/
inductive Inbox.Moves (b : Board) (depth : Nat) (w : Inbox) : Inbox → Prop
  | arrives (msg : Message) (hroom : w.fifo1.length < depth) :
      Moves b depth w (w.settle b
        { w with fifo1 := w.fifo1 ++ [msg], received := w.received ++ [msg] })
  | event (events : List PendingCode) :
      Moves b depth w (w.settle b { w with events := events })
  | gpio (gpio : Nat) (events : UInt32) :
      Moves b depth w { w with irqPending := irqHandler b.ctxByGpio gpio events w.irqPending }

/-- The calls of `canard_mcp_rx_process`. A receive that fails takes no
message; a subscription's callback keeps away from the controller. -/
def drainEnv : Env Inbox RxCall RxAnswer
  | w, .getFifoStatus _, a, w' =>
    w' = w ∧ (Prod.fst a ≠ errOk ∨ Prod.snd a = ⟨!w.fifo1.isEmpty⟩)
  | w, .receiveMessageFromFifo _ _, a, w' =>
    Prod.fst a ≠ errOk ∧ w' = w
      ∨ Prod.fst a = errOk ∧ ∃ rest, w.fifo1 = Prod.snd a :: rest ∧ w' = { w with fifo1 := rest }
  | w, .canardRxAccept timestampUs frame _, _, w' =>
    w' = { w with handed := w.handed ++ [(timestampUs, frame)] }
  | w, .subscriptionDispatch _ _, _, w' => w' = w
  | w, .deallocate _ _, _, w' => w' = w

abbrev busyDrain (b : Board) (depth : Nat) : Env Inbox RxCall RxAnswer :=
  interleave (Inbox.Moves b depth) drainEnv

/-- The calls of the task. Whatever callback is installed calls
`leos_cyphal_rx_process`; its reference is the node. -/
def taskEnv (b : Board) (depth : Nat) (T : RxTarget) (Fails : Line → Prop) :
    Env Inbox Mcp251xfd.Call Mcp251xfd.Answer
  | w, .irqPending, r, w' => r = w.irqPending ∧ w' = w
  | w, .setIrqPending v, _, w' => w' = { w with irqPending := v }
  | w, .getCurrentInterruptEvent, a, w' =>
    w' = w ∧ (Prod.fst a ≠ errOk ∧ Fails w.line
      ∨ Prod.fst a = errOk ∧ w.line.Finds (Prod.snd a))
  | w, .getFifoStatus _, a, w' =>
    w' = w ∧ (Prod.fst a ≠ errOk ∨ Prod.snd a = ⟨!w.fifo1.isEmpty⟩)
  | w, .rxCb _ userReference, _, w' =>
    ∃ tr, Exec (busyDrain b depth) (leosCyphalRxProcess T (userReference == 0)) () w tr () () w'
  | w, _, _, w' => w' = w

abbrev busyTask (b : Board) (depth : Nat) (T : RxTarget) (Fails : Line → Prop) :
    Env Inbox Mcp251xfd.Call Mcp251xfd.Answer :=
  interleave (Inbox.Moves b depth) (taskEnv b depth T Fails)

inductive InboxLabel where
  | service (l : Label Mcp251xfd.Op (fun _ => Unit) Mcp251xfd.Call Mcp251xfd.Answer)
  | rx (tr : List (Event RxCall RxAnswer))

/-- The task or `leos_mcp251xfd_set_rx_handler` runs, or the program calls
`leos_cyphal_rx_process` itself. -/
inductive InboxStep (b : Board) (depth : Nat) (T : RxTarget) (Fails : Line → Prop) :
    Option TaskCtx × Inbox → InboxLabel → Option TaskCtx × Inbox → Prop
  | service {w l w'}
      (h : Session Mcp251xfd.program (busyTask b depth T Fails) (Inbox.Moves b depth) w l w') :
      InboxStep b depth T Fails w (.service l) w'
  | rx {s w w' nodeNull tr}
      (h : Exec (busyDrain b depth) (leosCyphalRxProcess T nodeNull) () w tr () () w') :
      InboxStep b depth T Fails (s, w) (.rx tr) (s, w')

/-! ## The ledger -/

/-- What `canard_mcp_rx_process` hands over for a message. -/
def RxTarget.handover (T : RxTarget) (msg : Message) : UInt32 × Frame :=
  (msg.timestampUs, T.rxFrame msg)

/-- Every message received has been handed over or waits in the FIFO; of
those taken out the last `owed` are yet to be handed over. -/
structure Inbox.Ledger (T : RxTarget) (owed : List Message) (w : Inbox) : Prop where
  books : ∃ taken, w.received = taken ++ owed ++ w.fifo1 ∧ w.handed = taken.map T.handover

variable {b : Board} {depth : Nat} {T : RxTarget} {Fails : Line → Prop} {owed : List Message}
  {w w' : Inbox}

theorem ledger_moves (h : w.Moves b depth w') (hl : w.Ledger T owed) : w'.Ledger T owed := by
  obtain ⟨taken, hreceived, hhanded⟩ := hl.books
  cases h with
  | arrives msg => exact ⟨taken, by simp [Inbox.settle, hreceived], hhanded⟩
  | event | gpio => exact ⟨taken, hreceived, hhanded⟩

theorem received_moves (h : w.Moves b depth w') : w.received.length ≤ w'.received.length := by
  cases h with
  | arrives msg => simp [Inbox.settle]
  | event | gpio => exact Nat.le_refl _

/-! ## The drain -/

section Drain

variable {n : UInt32}

/-- No message less was received since, and the ledger is in order. -/
structure Inbox.Sound (T : RxTarget) (owed : List Message) (since : Nat) (w : Inbox) : Prop where
  ledger : w.Ledger T owed
  grown : since ≤ w.received.length

variable {since : Nat}

theorem sound_moves (w w' : Inbox) (h : w.Moves b depth w') (hs : w.Sound T owed since) :
    w'.Sound T owed since :=
  ⟨ledger_moves h hs.ledger, Nat.le_trans hs.grown (received_moves h)⟩

/-- Calls that take nothing and hand nothing over. -/
theorem sound_idle {i : RxCall} {a : RxAnswer i} (hs : w.Sound T owed since)
    (h : busyDrain b depth w i a w') (hi : ∀ w w', drainEnv w i a w' → w' = w) :
    w'.Sound T owed since := by
  obtain ⟨w₁, ht, h⟩ := h
  rw [hi w₁ w' h]
  exact ticks_preserve sound_moves ht hs

theorem sound_receive {msg : Message} {p : PayloadSize} {fifo : Mcp251xfd.Fifo}
    (hs : w.Sound T [] since)
    (h : busyDrain b depth w (.receiveMessageFromFifo p fifo) (errOk, msg) w') :
    w'.Sound T [msg] since := by
  obtain ⟨w₁, ht, ⟨hne, -⟩ | ⟨-, rest, hfifo, rfl⟩⟩ := h
  · exact absurd rfl hne
  · have h₁ := ticks_preserve sound_moves ht hs
    obtain ⟨taken, hreceived, hhanded⟩ := h₁.ledger.books
    refine ⟨⟨taken, ?_, hhanded⟩, h₁.grown⟩
    simpa [hfifo] using hreceived

theorem sound_accept {msg : Message} {iface : UInt8} {a : RxAccepted}
    (hs : w.Sound T [msg] since)
    (h : busyDrain b depth w (.canardRxAccept msg.timestampUs (T.rxFrame msg) iface) a w') :
    w'.Sound T [] since := by
  obtain ⟨w₁, ht, rfl⟩ := h
  have h₁ := ticks_preserve sound_moves ht hs
  obtain ⟨taken, hreceived, hhanded⟩ := h₁.ledger.books
  refine ⟨⟨taken ++ [msg], by simpa using hreceived, ?_⟩, h₁.grown⟩
  simp [hhanded, RxTarget.handover]

theorem checkMore_sound (hs : w.Sound T [] since) :
    Ensures (busyDrain b depth) (checkMore n) (fun _ _ _ w' => w'.Sound T [] since) () w :=
  ensures_checkMore fun _ _ _ h => sound_idle hs h fun _ _ h => h.1

theorem rxLoop_sound (hs : w.Sound T [] since) :
    Ensures (busyDrain b depth) (rxLoop T n) (fun _ _ _ w' => w'.Sound T [] since) () w := by
  refine ensures_rxLoop (fun result msg w₁ hne h => ?_) fun msg w₁ a w₂ h₁ h₂ tr _ => ?_
  · refine sound_idle hs h fun w w' h => ?_
    rcases h with ⟨-, rfl⟩ | ⟨heq, -⟩
    · rfl
    · exact absurd heq hne
  · have hs₂ := sound_accept (sound_receive hs h₁) h₂
    refine ⟨fun _ w₃ h₃ w₄ h₄ => ?_, fun _ _ => hs₂, fun _ _ => ?_⟩
    · have hs₃ := sound_idle hs₂ h₃ fun _ _ h => h
      exact checkMore_sound (sound_idle hs₃ h₄ fun _ _ h => h)
    · exact checkMore_sound hs₂

theorem rxProcess_sound (hs : w.Sound T [] since) :
    Ensures (busyDrain b depth) (rxProcess T) (fun _ _ _ w' => w'.Sound T [] since) () w := by
  refine ensures_rxProcess fun result st w₁ h => ?_
  have hs₁ := sound_idle hs h fun _ _ h => h.1
  refine ⟨hs₁, ensures_iter (fun _ _ _ w => w.Sound T [] since) (fun _ _ _ w hw => ?_) hs₁⟩
  exact (rxLoop_sound hw).mono fun _ _ _ _ h => ⟨fun _ _ => h, fun _ _ => h⟩

theorem leosCyphalRxProcess_sound {nodeNull : Bool} (hs : w.Sound T [] since) :
    Ensures (busyDrain b depth) (leosCyphalRxProcess T nodeNull)
      (fun _ _ _ w' => w'.Sound T [] since) () w := by
  rw [leosCyphalRxProcess, ensures_ite]
  refine ⟨fun _ => ensures_pure.mpr hs, fun _ => ?_⟩
  rw [ensures_bind]
  exact (rxProcess_sound hs).mono fun _ _ _ _ h => ensures_pure.mpr h

end Drain

/-! ## The task -/

/-- Step lemma: every call of the task leaves the ledger in order. -/
theorem sound_call {since : Nat} {i : Mcp251xfd.Call} {a : Mcp251xfd.Answer i}
    (hs : w.Sound T [] since) (h : busyTask b depth T Fails w i a w') : w'.Sound T [] since := by
  obtain ⟨w₁, ht, h⟩ := h
  have h₁ := ticks_preserve sound_moves ht hs
  cases i with
  | rxCb callback userReference =>
      obtain ⟨tr, hx⟩ := h
      exact leosCyphalRxProcess_sound h₁ _ _ _ _ hx
  | setIrqPending v =>
      obtain rfl := h
      exact ⟨⟨h₁.ledger.books⟩, h₁.grown⟩
  | irqPending =>
      obtain ⟨-, rfl⟩ := h
      exact h₁
  | getCurrentInterruptEvent | getFifoStatus =>
      obtain ⟨rfl, -⟩ := h
      exact h₁
  | _ =>
      obtain rfl : w' = w₁ := h
      exact h₁

theorem sound_step {since : Nat} {s s' : Option TaskCtx} {l : InboxLabel}
    (h : InboxStep b depth T Fails (s, w) l (s', w')) (hs : w.Sound T [] since) :
    w'.Sound T [] since := by
  cases h with
  | service h =>
      cases h with
      | tick h => exact sound_moves w w' h hs
      | op h =>
          exact ensures_keeps (J := fun w : Inbox => w.Sound T [] since)
            (fun _ _ _ _ hs h => sound_call hs h) _ hs _ _ _ _ h
  | rx h => exact leosCyphalRxProcess_sound hs _ _ _ _ h

/-! ## The INT line -/

theorem line_moves (w w' : Inbox) (h : w.Moves b depth w') : w.line.Moves b w'.line := by
  cases h with
  | arrives | event => exact .bus _
  | gpio gpio events => exact .gpio gpio events

theorem line_ticks (h : Relation.ReflTransGen (Inbox.Moves b depth) w w') :
    Relation.ReflTransGen (Line.Moves b) w.line w'.line := h.lift Inbox.line line_moves

/-- Taking a message can only release INT. -/
theorem line_pop {msg : Message} {rest : List Message} (hfifo : w.fifo1 = msg :: rest) :
    w.line.Moves b ({ w with fifo1 := rest } : Inbox).line := by
  have hlow : w.line.asserted = true := by
    simp [Line.asserted, Inbox.line, Inbox.pending, hfifo]
  have hkept : w.line.become b ({ w with fifo1 := rest } : Inbox).pending =
      ({ w with fifo1 := rest } : Inbox).line := by
    simp only [Line.become, hlow, Bool.not_true, Bool.false_and, Bool.false_eq_true, if_false]
    rfl
  exact hkept ▸ .bus _

theorem line_drain {i : RxCall} {a : RxAnswer i} (h : busyDrain b depth w i a w') :
    Relation.ReflTransGen (Line.Moves b) w.line w'.line := by
  obtain ⟨w₁, ht, h⟩ := h
  refine (line_ticks ht).trans ?_
  cases i with
  | getFifoStatus =>
      obtain ⟨rfl, -⟩ := h
      exact .refl
  | receiveMessageFromFifo =>
      rcases h with ⟨-, rfl⟩ | ⟨-, rest, hfifo, rfl⟩
      · exact .refl
      · exact .single (line_pop hfifo)
  | canardRxAccept | subscriptionDispatch | deallocate =>
      obtain rfl := h
      exact .refl

/-- Seen from the INT line a call of the task is one of the controller's. -/
theorem line_call (w : Inbox) (i : Mcp251xfd.Call) (a : Mcp251xfd.Answer i) (w' : Inbox)
    (h : busyTask b depth T Fails w i a w') : Mcp251xfd.busyLine b Fails w.line i a w'.line := by
  obtain ⟨w₁, ht, h⟩ := h
  refine ⟨w₁.line, line_ticks ht, ?_⟩
  cases i with
  | rxCb callback userReference =>
      obtain ⟨tr, hx⟩ := h
      refine ensures_keeps (J := fun w => Relation.ReflTransGen (Line.Moves b) w₁.line w.line)
        (fun _ _ _ _ hl h => hl.trans (line_drain h)) _ .refl _ _ _ _ hx
  | setIrqPending v =>
      obtain rfl := h
      rfl
  | irqPending =>
      obtain ⟨rfl, rfl⟩ := h
      exact ⟨rfl, rfl⟩
  | getCurrentInterruptEvent =>
      obtain ⟨rfl, hans⟩ := h
      exact ⟨rfl, hans⟩
  | getFifoStatus =>
      obtain ⟨rfl, -⟩ := h
      exact .refl
  | _ =>
      obtain rfl : w' = w₁ := h
      exact .refl

/-- INT does not stay low without the flag: the task and the callback see to
it, and a drain only makes moves that do. -/
theorem flagged_inboxStep {s s' : Option TaskCtx} {l : InboxLabel} (hF : Forgiving Fails)
    (h : InboxStep b depth T Fails (s, w) l (s', w')) (hf : w.line.Flagged) :
    w'.line.Flagged := by
  cases h with
  | service h =>
      exact Mcp251xfd.flagged_step (x := ⟨(s, w.line), _, (s', w'.line)⟩) hF
        (h.view Inbox.line line_call line_moves) hf
  | rx h =>
      exact ensures_keeps (J := fun w : Inbox => w.line.Flagged)
        (fun _ _ _ _ hf h => ticks_preserve (J := Line.Flagged)
          (fun _ _ => Mcp251xfd.flagged_moves) (line_drain h) hf) _ hf _ _ _ _ h

/-! ## A task call -/

def QueryFails : Event Mcp251xfd.Call Mcp251xfd.Answer → Prop
  | ⟨.getCurrentInterruptEvent, a⟩ => Prod.fst a ≠ errOk
  | _ => False

/-- The query that finds nothing has found the FIFO empty. -/
theorem fifo1_of_finds (h : w.line.Finds .noInterrupt) : w.fifo1 = [] := by
  have hlow := Mcp251xfd.finds_noInterrupt h
  by_contra hne
  simp [Line.asserted, Inbox.line, Inbox.pending, hne] at hlow

theorem handed_of_empty {since : Nat} (hs : w.Sound T [] since) (hempty : w.fifo1 = []) :
    w.handed = w.received.map T.handover := by
  obtain ⟨taken, hreceived, hhanded⟩ := hs.ledger.books
  rw [hhanded, hreceived, hempty]
  simp

theorem loop_hands {since : Nat} {s : Option TaskCtx} (hs : w.Sound T [] since) :
    Ensures (busyTask b depth T Fails) (Prog.iter Mcp251xfd.serviceLoop ())
      (fun tr _ _ w' => (∀ ev ∈ tr, ¬QueryFails ev) → since ≤ w'.handed.length) s w := by
  refine ensures_iter (fun _ _ _ w => w.Sound T [] since) ?_ hs
  intro _ tr s w hs
  rw [Mcp251xfd.serviceLoop, ensures_bind, ensures_ask]
  intro a w₁ ha
  have h₁ := sound_call hs ha
  obtain ⟨w₀, -, rfl, hans⟩ := ha
  obtain ⟨err, code⟩ := a
  dsimp only at hans ⊢
  rcases hans with ⟨herr, -⟩ | ⟨herr, hfinds⟩
  · rw [if_pos herr, ensures_pure]
    refine ⟨by simp, fun _ _ hok => ?_⟩
    exact absurd herr (hok ⟨.getCurrentInterruptEvent, (err, code)⟩ (by simp))
  · obtain rfl : err = errOk := herr
    simp only [ne_eq, not_true_eq_false, if_false]
    split
    · rename_i hcode
      subst hcode
      rw [ensures_pure]
      refine ⟨by simp, fun _ _ _ => ?_⟩
      have hlen := congrArg List.length (handed_of_empty h₁ (fifo1_of_finds hfinds))
      rw [List.length_map] at hlen
      exact hlen ▸ h₁.grown
    · rw [ensures_bind]
      intro _ _ _ w₂ hx
      have h₂ := ensures_keeps (J := fun w : Inbox => w.Sound T [] since)
        (fun _ _ _ _ hs h => sound_call hs h) _ h₁ _ _ _ _ hx
      rw [ensures_pure]
      exact ⟨fun _ _ => h₂, by simp⟩

theorem task_hands {ctx : TaskCtx} {since : Nat} (hp : w.irqPending = true)
    (hs : w.Sound T [] since) :
    Ensures (busyTask b depth T Fails) (Mcp251xfd.task false)
      (fun tr _ _ w' => (∀ ev ∈ tr, ¬QueryFails ev) → since ≤ w'.handed.length)
      (some ctx) w := by
  simp only [Mcp251xfd.task, ensures_bind, ensures_read, ensures_ask, Bool.false_eq_true,
    if_false, Option.isNone_some]
  intro pending w₁ h
  have h₁ := sound_call hs h
  obtain ⟨w₀, ht, rfl, rfl⟩ := h
  have hp₁ : w₁.irqPending = true :=
    ticks_preserve (J := fun w : Inbox => w.irqPending = true)
      (fun w w' h hp => Mcp251xfd.irqPending_moves (line_moves w w' h) hp) ht hp
  simp only [hp₁, Bool.not_true, Bool.false_eq_true, if_false, ensures_bind, ensures_ask]
  intro _ w₂ h₂
  refine (loop_hands (sound_call h₁ h₂)).mono fun tr _ _ _ h hok => h fun ev hev => hok ev ?_
  simp [hev]

/-! ## Runs -/

/-- After `leos_mcp251xfd_init`, before any event. -/
def Inbox.idle : Inbox := ⟨false, [], [], [], []⟩

abbrev InboxRec := Rec (Option TaskCtx × Inbox) InboxLabel

/-- A task call that finds the flag set and whose queries succeed hands over
all that was received before it. -/
def HandsOver (x : InboxRec) : Prop :=
  x.pre.1.isSome → x.pre.2.irqPending = true → ∀ tr r,
    x.label = .service (.op (.task false) tr r) → (∀ ev ∈ tr, ¬QueryFails ev) →
    x.pre.2.received.length ≤ x.post.2.handed.length

/-- What libcanard is given of the messages received. -/
structure Receives (T : RxTarget) (xs : List InboxRec) (w : Inbox) : Prop where
  /-- In the order received, each once, the rest still in the FIFO. -/
  inOrder : w.Ledger T []
  unlessFlagged : w.irqPending = false → w.handed = w.received.map T.handover
  handsOver : ∀ x ∈ xs, HandsOver x

/-- By induction on the run with both invariants: the ledger gives the order,
INT and the flag that nothing is left behind. What a task call hands over is
read off its last query, which found nothing pending. -/
theorem received_handed_or_flagged {s : Option TaskCtx} {xs : List InboxRec}
    {w : Option TaskCtx × Inbox}
    (hF : ∀ c, Fails c → c.asserted = true → c.irqPending = true)
    (h : Run (InboxStep b depth T Fails) (s, .idle) xs w) : Receives T xs w.2 := by
  have hidle : Inbox.idle.Sound T [] 0 ∧ Inbox.idle.line.Flagged :=
    ⟨⟨⟨⟨[], rfl, rfl⟩⟩, Nat.zero_le _⟩, fun ha => by cases ha⟩
  obtain ⟨⟨hsound, hflagged⟩, hxs⟩ := h.invariant
    (fun w => w.2.Sound T [] 0 ∧ w.2.line.Flagged) (fun _ => True) hidle
    (fun _ hs _ hi => ⟨sound_step hs hi.1, flagged_inboxStep hF hs hi.2⟩) fun _ _ => trivial
  refine ⟨hsound.ledger, fun hp => handed_of_empty hsound ?_, fun x hx => ?_⟩
  · by_contra hne
    have hlow : w.2.line.asserted = true := by
      simp [Line.asserted, Inbox.line, Inbox.pending, hne]
    cases hp.symm.trans (hflagged hlow)
  · obtain ⟨hs, ⟨hpre, -⟩, -⟩ := hxs x hx
    obtain ⟨⟨s, w⟩, l, w'⟩ := x
    rintro hctx hp tr r ⟨⟩ hok
    obtain ⟨ctx, rfl⟩ := Option.isSome_iff_exists.mp hctx
    cases hs with
    | service hs =>
        cases hs with
        | op h => exact task_hands hp ⟨hpre.ledger, Nat.le_refl _⟩ _ _ _ _ h hok

/-! ## A controller on the bench -/

/-- The FIFO drained without a failure. -/
def Inbox.drained (T : RxTarget) (w : Inbox) : Inbox :=
  { w with fifo1 := [], handed := w.handed ++ w.fifo1.map T.handover }

/-- One message drained. -/
def Inbox.next (T : RxTarget) (w : Inbox) (msg : Message) (rest : List Message) : Inbox :=
  { w with fifo1 := rest, handed := w.handed ++ [T.handover msg] }

theorem rxLoop_exec {msg : Message} {rest : List Message} (hfifo : w.fifo1 = msg :: rest)
    (n : UInt32) : ∃ tr, Exec (busyDrain b depth) (rxLoop T n) () w tr
      (if rest.isEmpty then .inr (n + 1) else .inl (n + 1)) () (w.next T msg rest) := by
  have hpop : drainEnv w (.receiveMessageFromFifo .payload64Byte .fifo1) (errOk, msg)
      { w with fifo1 := rest } := .inr ⟨rfl, rest, hfifo, rfl⟩
  have haccept : drainEnv { w with fifo1 := rest }
      (.canardRxAccept msg.timestampUs (T.rxFrame msg) 0) ⟨0, default, none⟩
      (w.next T msg rest) := rfl
  have hstatus : drainEnv (w.next T msg rest) (.getFifoStatus .fifo1)
      (errOk, ⟨!rest.isEmpty⟩) (w.next T msg rest) := ⟨rfl, .inr rfl⟩
  have hcheck : ∃ tr, Exec (busyDrain b depth) (checkMore (n + 1)) () (w.next T msg rest) tr
      (if rest.isEmpty then .inr (n + 1) else .inl (n + 1)) () (w.next T msg rest) := by
    cases rest with
    | nil => exact ⟨_, .ask_bind (interleave_of hstatus) .ret⟩
    | cons => exact ⟨_, .ask_bind (interleave_of hstatus) .ret⟩
  obtain ⟨tr, hcheck⟩ := hcheck
  have hgoes : Exec (busyDrain b depth)
      (if T.negative (resultOfInt8 0) then return .inr (n + 1) else checkMore (n + 1)) ()
      (w.next T msg rest) tr (if rest.isEmpty then .inr (n + 1) else .inl (n + 1)) ()
      (w.next T msg rest) := by
    rw [negative_zero]
    exact hcheck
  exact ⟨_, .ask_bind (interleave_of hpop) (.ask_bind (interleave_of haccept) hgoes)⟩

theorem rxLoops_exec : ∀ {rest : List Message} {msg : Message} {w : Inbox} (n : UInt32),
    w.fifo1 = msg :: rest → ∃ tr m, Exec (busyDrain b depth) (Prog.iter (rxLoop T) n) () w tr m ()
      (w.drained T)
  | [], msg, w, n, hfifo => by
      obtain ⟨tr, hx⟩ : ∃ tr, Exec (busyDrain b depth) (rxLoop T n) () w tr _ () _ :=
        rxLoop_exec hfifo n
      have hlast : w.next T msg [] = w.drained T := by simp [Inbox.next, Inbox.drained, hfifo]
      rw [← hlast]
      exact ⟨_, _, .done hx .ret⟩
  | msg' :: rest, msg, w, n, hfifo => by
      obtain ⟨tr, hx⟩ : ∃ tr, Exec (busyDrain b depth) (rxLoop T n) () w tr _ () _ :=
        rxLoop_exec hfifo n
      obtain ⟨tr', m, hx'⟩ := rxLoops_exec (w := w.next T msg (msg' :: rest)) (n + 1) rfl
      have hrest : (w.next T msg (msg' :: rest)).drained T = w.drained T := by
        simp [Inbox.next, Inbox.drained, hfifo]
      exact ⟨_, m, .next hx (hrest ▸ hx')⟩

theorem leosCyphalRxProcess_exec (w : Inbox) : ∃ tr,
    Exec (busyDrain b depth) (leosCyphalRxProcess T false) () w tr () () (w.drained T) := by
  have hstatus : drainEnv w (.getFifoStatus .fifo1) (errOk, ⟨!w.fifo1.isEmpty⟩) w :=
    ⟨rfl, .inr rfl⟩
  have hprocess : ∃ tr m, Exec (busyDrain b depth) (rxProcess T) () w tr m () (w.drained T) := by
    cases hfifo : w.fifo1 with
    | nil =>
        have hsame : w = w.drained T := by
          obtain ⟨_, _, _, _, _⟩ := w
          obtain rfl := hfifo
          simp [Inbox.drained]
        rw [hfifo] at hstatus
        rw [← hsame]
        exact ⟨_, _, .ask_bind (interleave_of hstatus) .ret⟩
    | cons msg rest =>
        obtain ⟨tr, m, hx⟩ : ∃ tr m, Exec (busyDrain b depth) (Prog.iter (rxLoop T) 0) () w tr m ()
            (w.drained T) := rxLoops_exec 0 hfifo
        rw [hfifo] at hstatus
        exact ⟨_, m, .ask_bind (interleave_of hstatus) hx⟩
  obtain ⟨tr, m, hx⟩ := hprocess
  exact ⟨_, exec_bind.mpr ⟨tr, m, (), w.drained T, [], hx, .ret, rfl⟩⟩

def benchBoard : Board := ⟨0, fun _ => true, rfl⟩

def plainTarget : RxTarget where
  dlcToByte dlc _ := dlc.toNat
  signedResult := false

def benchMessage (id : UInt32) : Message where
  messageId := id
  dlc := 8
  payloadData := List.replicate 8 7
  timestampUs := 0

/-- A message into a FIFO of depth 2. -/
def Inbox.arrive (w : Inbox) (msg : Message) : Inbox :=
  if w.fifo1.length < 2 then
    w.settle benchBoard { w with fifo1 := w.fifo1 ++ [msg], received := w.received ++ [msg] }
  else w

theorem arrive_ticks (w : Inbox) (msg : Message) :
    Relation.ReflTransGen (Inbox.Moves benchBoard 2) w (w.arrive msg) := by
  unfold Inbox.arrive
  split
  · exact .single (.arrives msg ‹_›)
  · exact .refl

/-- No call fails; two messages arrive before the first look at the flag. -/
def benchInbox (w : Inbox) : (i : Mcp251xfd.Call) → Mcp251xfd.Answer i × Inbox
  | .irqPending =>
    let w := if w.received.isEmpty then (w.arrive (benchMessage 1)).arrive (benchMessage 2) else w
    (w.irqPending, w)
  | .setIrqPending v => ((), { w with irqPending := v })
  | .getCurrentInterruptEvent => ((errOk, (w.pending.map (·.val)).headD .noInterrupt), w)
  | .getFifoStatus _ => ((errOk, ⟨!w.fifo1.isEmpty⟩), w)
  | .rxCb _ userReference => ((), if userReference == 0 then w else w.drained plainTarget)
  | .getTransmitReceiveErrorStatus | .getActualOperationMode => ((errOk, 0), w)
  | .getTxqStatus => ((errOk, ⟨false⟩), w)
  | .clearInterruptEvents _ | .resetTxq | .clearFifoEvents _ _ => (errOk, w)

theorem benchInbox_answers :
    Answers benchInbox (busyTask benchBoard 2 plainTarget fun _ => False) := by
  intro w i
  cases i with
  | irqPending =>
      refine ⟨(benchInbox w .irqPending).2, ?_, rfl, rfl⟩
      simp only [benchInbox]
      split
      · exact (arrive_ticks w _).trans (arrive_ticks _ _)
      · exact .refl
  | getCurrentInterruptEvent =>
      refine interleave_of ⟨rfl, .inr ⟨rfl, ?_⟩⟩
      have hpending : w.line.pending = w.pending := rfl
      simp only [benchInbox, Line.Finds, hpending]
      cases w.pending with
      | nil => exact .inr ⟨rfl, rfl⟩
      | cons code rest => exact .inl (by simp)
  | getFifoStatus => exact interleave_of ⟨rfl, .inr rfl⟩
  | rxCb callback userReference =>
      refine interleave_of ?_
      simp only [benchInbox]
      cases hnull : userReference == 0 with
      | true =>
          refine ⟨[], ?_⟩
          rw [hnull]
          exact .ret
      | false =>
          obtain ⟨tr, hx⟩ : ∃ tr, Exec (busyDrain benchBoard 2)
              (leosCyphalRxProcess plainTarget false) () w tr () () (w.drained plainTarget) :=
            leosCyphalRxProcess_exec w
          exact ⟨tr, by simpa [hnull] using hx⟩
  | _ => exact interleave_of rfl

theorem received_handed_or_flagged_two : ∃ (xs : List InboxRec) (w : Option TaskCtx × Inbox),
    Run (InboxStep benchBoard 2 plainTarget fun _ => False) (some ⟨none, 0⟩, .idle) xs w
      ∧ Receives plainTarget xs w.2
      ∧ w.2.handed = [benchMessage 1, benchMessage 2].map plainTarget.handover := by
  obtain ⟨xs, w, hrun, hw⟩ := evalsTo_run (Inbox.Moves benchBoard 2) benchInbox_answers
    (show evalsTo Mcp251xfd.program benchInbox 3 [.setRxHandler false (some 0) 1, .task false]
      (some ⟨none, 0⟩, .idle) (fun _ w => decide (w.2.handed =
        [benchMessage 1, benchMessage 2].map plainTarget.handover)) = true by decide +kernel)
  simp only [decide_eq_true_eq] at hw
  have hrun' :
      Run (InboxStep benchBoard 2 plainTarget fun _ => False) (some ⟨none, 0⟩, .idle) _ w :=
    hrun.relabel InboxLabel.service fun _ _ _ => .service
  exact ⟨_, w, hrun', received_handed_or_flagged (fun _ h => h.elim) hrun', hw⟩

end Cyphal

end LeosSdk
