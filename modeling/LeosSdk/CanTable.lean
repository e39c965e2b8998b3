import LeosSdk.CanInit

/-!
# MCP251XFD: the table of contexts

`init`, `deinit` and `leos_mcp251xfd_irq_handler` over the table
`s_ctx_by_gpio` that they share and the heap the contexts come from, for any
number of devices with different IRQ pins.

`init` refuses an IRQ pin of 48 or more, but only once the object holds its
context, and the interrupt handler compares as well. `deinit`, which the
header calls safe after a failed `init`, does not: it stores its `NULL` at
whatever index the context's pin is.

Every access is logged with whether it was in order, so that safety is a
property of the log and a step that goes wrong can be seen in the state after
it. Inside an operation the assertion is `At`: the table, the pins of the
allocated contexts, and a log in order so far. Interrupts keep it
(`at_interrupts`) and each call moves it in its own way, so `init` and
`deinit` have one specification each, through all their exits (`init_spec`,
`deinit_spec`).

Over a run the invariant `Inv` adds who holds what: every device holds an
allocated context of its own pin, and every entry of the table is the context
of the device with that pin. A step keeps, takes or releases (`DeviceEffect`).
Different pins are what makes two devices' contexts different. If a `deinit`
does store outside the table, the log shows it (`deinit_outside`), which is
the other direction.
-/

namespace LeosSdk

namespace Mcp251xfd

/-! ## The table, the heap and the interrupt handler -/

/-- What was done to the shared memory, in order: an index used into the
table, a use or a `free` of a context and whether it was allocated, and
whose context an interrupt marked. -/
inductive Access where
  | index (i : Nat)
  | use (live : Bool)
  | free (live : Bool)
  | mark (gpio : Nat) (pinIrq : UInt8)
deriving DecidableEq, Repr

structure System where
  table : Fin tableLength → Option Ptr
  heap : Ptr → Option DriverCtx
  log : List Access

def System.isLive (w : System) (p : Ptr) : Bool := (w.heap p).isSome

def System.note (w : System) (a : Access) : System := { w with log := w.log ++ [a] }

/-- The table with entry `gpio`, where there is one, set. -/
def entrySet (table : Fin tableLength → Option Ptr) (gpio : UInt8) (ctx : Option Ptr) :
    Fin tableLength → Option Ptr :=
  fun i => if i.val = gpio.toNat then ctx else table i

/-- `leos_mcp251xfd_irq_handler`. -/
def System.irqHandler (gpio : Nat) (events : UInt32) (w : System) : System :=
  if events &&& gpioIrqEdgeFall = 0 then w
  else if h : gpio < tableLength then
    match w.table ⟨gpio, h⟩ with
    | none => w.note (.index gpio)
    | some p => match w.heap p with
      | none => (w.note (.index gpio)).note (.use false)
      | some ctx => { w with
          heap := Function.update w.heap p (some { ctx with irqPending := true })
          log := w.log ++ [.index gpio, .use true, .mark gpio ctx.hw.pinIrq] }
  else w

/-- A GPIO interrupt, of any pin and with any events. -/
def Interrupt (w w' : System) : Prop := ∃ gpio events, w' = w.irqHandler gpio events

/-- The heap hands out contexts that are not in use, holding anything. A read
through a pointer that is not allocated may find anything, and every access is
logged. -/
def systemEnv : Env System InitCall InitAnswer
  | w, .malloc, r, w' => r = none ∧ w' = w
      ∨ ∃ p rubbish, r = some p ∧ w.heap p = none
        ∧ w' = { w with heap := Function.update w.heap p (some rubbish) }
  | w, .writeCtx p value, _, w' => w' = { w with
      heap := if w.isLive p then Function.update w.heap p (some value) else w.heap
      log := w.log ++ [.use (w.isLive p)] }
  | w, .readPinIrq p, r, w' => (∀ ctx, w.heap p = some ctx → r = ctx.hw.pinIrq)
      ∧ w' = w.note (.use (w.isLive p))
  | w, .free p, _, w' => w' = { w with
      heap := Function.update w.heap p none
      log := w.log ++ [.free (w.isLive p)] }
  | w, .writeTable gpio ctx, _, w' => w' = { w with
      table := entrySet w.table gpio ctx
      log := w.log ++ [.index gpio.toNat] }
  | w, _, _, w' => w' = w

abbrev busySystem : Env System InitCall InitAnswer := interleave Interrupt systemEnv

abbrev DeviceLabel := Label DeviceOp DeviceOp.Ret InitCall InitAnswer

abbrev Devices (K : Type) := (K → Device) × System

/-- One of the devices is brought up or down, or an interrupt comes. -/
abbrev DevicesStep {K : Type} (X : Errors) (hw : K → Hw) :
    Devices K → K × DeviceLabel → Devices K → Prop :=
  SharedSession (fun k => deviceProgram X (hw k)) (fun _ _ _ => busySystem) Interrupt

/-- Zeroed objects, an empty table and no context allocated. -/
def devicesStart {K : Type} : Devices K := (fun _ => .zero, ⟨fun _ => none, fun _ => none, []⟩)

/-! ## What must hold -/

/-- The index is in the table, the context is allocated, and the interrupt
is the marked device's own. -/
def Access.Ok : Access → Prop
  | .index i => i < tableLength
  | .use live => live = true
  | .free live => live = true
  | .mark gpio pinIrq => pinIrq.toNat = gpio

instance : (a : Access) → Decidable a.Ok
  | .index _ => inferInstanceAs (Decidable (_ < _))
  | .use _ => inferInstanceAs (Decidable (_ = _))
  | .free _ => inferInstanceAs (Decidable (_ = _))
  | .mark .. => inferInstanceAs (Decidable (_ = _))

def System.Clean (w : System) : Prop := ∀ a ∈ w.log, a.Ok

variable {K : Type}

/-- Every entry is an allocated context with that IRQ pin, and what the
device with that pin holds. -/
def Owned (hw : K → Hw) (w : Devices K) : Prop :=
  ∀ i p, w.2.table i = some p → ∃ k ctx, w.2.heap p = some ctx
    ∧ ctx.hw.pinIrq.toNat = i.val ∧ (hw k).pinIrq.toNat = i.val
    ∧ (w.1 k).userDriverData = some p

/-- A `deinit` that follows an `init` of the same device, with nothing but
interrupts between them, leaves the table and the allocated contexts as they
were before that `init`. -/
def Restores (xs : List (Rec (Devices K) (K × DeviceLabel))) : Prop :=
  ∀ ws x ys y zs, xs = ws ++ x :: (ys ++ y :: zs) →
    ∀ k config attach tr r, x.label = (k, .op (.init config attach) tr r) →
    ∀ tr' r', y.label = (k, .op (.deinit false) tr' r') → (∀ z ∈ ys, z.label.2 = .tick) →
      y.post.2.table = x.pre.2.table ∧ ∀ p, y.post.2.isLive p = x.pre.2.isLive p

structure Safe (hw : K → Hw) (xs : List (Rec (Devices K) (K × DeviceLabel))) : Prop where
  clean : ∀ x ∈ xs, x.post.2.Clean
  owned : ∀ x ∈ xs, Owned hw x.post
  restored : Restores xs

/-- No device is initialised that still holds a context. -/
def InitsFresh (x : Rec (Devices K) (K × DeviceLabel)) : Prop :=
  ∀ config attach tr r, x.label.2 = .op (.init config attach) tr r →
    (x.pre.1 x.label.1).userDriverData = none

/-- A device that is deinitialised holding a context has an IRQ pin in the
table. -/
def DeinitInRange (hw : K → Hw) (x : Rec (Devices K) (K × DeviceLabel)) : Prop :=
  ∀ tr r, x.label.2 = .op (.deinit false) tr r →
    (x.pre.1 x.label.1).userDriverData ≠ none → (hw x.label.1).pinIrq.toNat < tableLength

/-! ## What a call does to table and contexts -/

/-- The IRQ pin of an allocated context. -/
def System.pinOf (w : System) (p : Ptr) : Option UInt8 := (w.heap p).map (·.hw.pinIrq)

theorem isLive_pinOf (w : System) (p : Ptr) : w.isLive p = (w.pinOf p).isSome := by
  simp [System.isLive, System.pinOf]

/-- The table is `T`, the allocated contexts and their pins are `H`, and all
accesses so far were in order. The assertion that `init` and `deinit` carry
from call to call. -/
structure System.At (T : Fin tableLength → Option Ptr) (H : Ptr → Option UInt8)
    (w : System) : Prop where
  table : w.table = T
  pins : w.pinOf = H
  clean : w.Clean

/-- Every entry of the table is allocated and in its place. -/
def Sound (T : Fin tableLength → Option Ptr) (H : Ptr → Option UInt8) : Prop :=
  ∀ i p, T i = some p → ∃ pin, H p = some pin ∧ pin.toNat = i.val

section Calls

variable {T : Fin tableLength → Option Ptr} {H : Ptr → Option UInt8} {w w' : System}
  {p : Ptr} {pin : UInt8}

theorem clean_append {as : List Access} (h : w.Clean) (has : ∀ a ∈ as, a.Ok) :
    ∀ a ∈ w.log ++ as, a.Ok :=
  List.forall_mem_append.mpr ⟨h, has⟩

theorem At.live (h : w.At T H) (hp : H p = some pin) : w.isLive p = true := by
  rw [isLive_pinOf, h.pins, hp]
  rfl

theorem pinOf_update {value : Option DriverCtx} :
    System.pinOf { w with heap := Function.update w.heap p value }
      = Function.update w.pinOf p (value.map (·.hw.pinIrq)) := by
  funext q
  by_cases hq : q = p
  · subst hq
    simp [System.pinOf]
  · simp [System.pinOf, Function.update_of_ne hq]

/-- An interrupt only sets a flag, and one of the pin it came on. Over a sound
table it finds an allocated context or none. -/
theorem at_irqHandler (hs : Sound T H) (h : w.At T H) (gpio : Nat) (events : UInt32) :
    (w.irqHandler gpio events).At T H := by
  unfold System.irqHandler
  split
  · exact h
  · split
    · rename_i hgpio
      split
      · exact ⟨h.table, h.pins, clean_append h.clean (by simpa [Access.Ok] using hgpio)⟩
      · rename_i p hp
        obtain ⟨pin, hpin, hi⟩ := hs _ p (h.table ▸ hp)
        rw [← h.pins] at hpin
        split
        · rename_i hnone
          simp [System.pinOf, hnone] at hpin
        · rename_i ctx hctx
          simp only [System.pinOf, hctx, Option.map_some, Option.some.injEq] at hpin
          refine ⟨h.table, ?_, clean_append h.clean ?_⟩
          · show System.pinOf { w with heap := _ } = H
            rw [pinOf_update, ← h.pins]
            exact Function.update_eq_self_iff.mpr (by simp [System.pinOf, hctx])
          · simp [Access.Ok, hgpio, hpin, hi]
    · exact h

theorem at_interrupts (hs : Sound T H) (ht : Relation.ReflTransGen Interrupt w w')
    (h : w.At T H) : w'.At T H := by
  refine ticks_preserve (J := System.At T H) (fun e e' htick he => ?_) ht h
  obtain ⟨gpio, events, rfl⟩ := htick
  exact at_irqHandler hs he gpio events

/-- Calls that reach neither the table nor a context. -/
def InitCall.Outside : InitCall → Prop
  | .malloc | .writeCtx .. | .readPinIrq _ | .free _ | .writeTable .. => False
  | _ => True

theorem at_outside {i : InitCall} {r : InitAnswer i} (hs : Sound T H) (h : w.At T H)
    (hx : busySystem w i r w') (hi : i.Outside) : w'.At T H := by
  obtain ⟨w₁, ht, hx⟩ := hx
  have h₁ := at_interrupts hs ht h
  cases i with
  | malloc | writeCtx | readPinIrq | free | writeTable => exact hi.elim
  | _ =>
      obtain rfl := hx
      exact h₁

theorem at_malloc {r : Option Ptr} (hs : Sound T H) (h : w.At T H)
    (hx : busySystem w .malloc r w') :
    r = none ∧ w'.At T H
      ∨ ∃ p pin, r = some p ∧ H p = none ∧ w'.At T (Function.update H p (some pin)) := by
  obtain ⟨w₁, ht, hx⟩ := hx
  have h₁ := at_interrupts hs ht h
  rcases hx with ⟨rfl, rfl⟩ | ⟨p, rubbish, rfl, hfree, rfl⟩
  · exact .inl ⟨rfl, h₁⟩
  · refine .inr ⟨p, rubbish.hw.pinIrq, rfl, ?_, h₁.table, ?_, h₁.clean⟩
    · rw [← h₁.pins, System.pinOf, hfree]
      rfl
    · rw [pinOf_update, h₁.pins]
      rfl

theorem at_writeCtx {value : DriverCtx} (hs : Sound T H) (h : w.At T H) (hp : H p = some pin)
    {r : Unit} (hx : busySystem w (.writeCtx p value) r w') :
    w'.At T (Function.update H p (some value.hw.pinIrq)) := by
  obtain ⟨w₁, ht, rfl⟩ := hx
  have h₁ := at_interrupts hs ht h
  have hlive := At.live h₁ hp
  refine ⟨h₁.table, ?_, clean_append h₁.clean (by simpa [Access.Ok] using hlive)⟩
  show System.pinOf { w₁ with heap := if w₁.isLive p then _ else _ } = _
  rw [if_pos hlive, pinOf_update, h₁.pins]
  rfl

theorem at_readPinIrq {r : UInt8} (hs : Sound T H) (h : w.At T H) (hp : H p = some pin)
    (hx : busySystem w (.readPinIrq p) r w') : r = pin ∧ w'.At T H := by
  obtain ⟨w₁, ht, hr, rfl⟩ := hx
  have h₁ := at_interrupts hs ht h
  refine ⟨?_, h₁.table, h₁.pins, clean_append h₁.clean (by
    simpa [Access.Ok] using At.live h₁ hp)⟩
  rw [← h₁.pins, System.pinOf, Option.map_eq_some_iff] at hp
  obtain ⟨ctx, hctx, rfl⟩ := hp
  exact hr ctx hctx

theorem at_writeTable {gpio : UInt8} {ctx : Option Ptr} (hs : Sound T H) (h : w.At T H)
    (hgpio : gpio.toNat < tableLength) {r : Unit}
    (hx : busySystem w (.writeTable gpio ctx) r w') : w'.At (entrySet T gpio ctx) H := by
  obtain ⟨w₁, ht, rfl⟩ := hx
  have h₁ := at_interrupts hs ht h
  exact ⟨congrArg (entrySet · gpio ctx) h₁.table, h₁.pins,
    clean_append h₁.clean (by simpa [Access.Ok] using hgpio)⟩

theorem at_free (hs : Sound T H) (h : w.At T H) (hp : H p = some pin) {r : Unit}
    (hx : busySystem w (.free p) r w') : w'.At T (Function.update H p none) := by
  obtain ⟨w₁, ht, rfl⟩ := hx
  have h₁ := at_interrupts hs ht h
  refine ⟨h₁.table, ?_, clean_append h₁.clean (by simpa [Access.Ok] using At.live h₁ hp)⟩
  show System.pinOf { w₁ with heap := _ } = _
  rw [pinOf_update, h₁.pins]
  rfl

theorem sound_allocated (pin : UInt8) (hs : Sound T H) (hp : H p = none) :
    Sound T (Function.update H p (some pin)) := by
  intro i q hq
  obtain ⟨pin', hpin, hi⟩ := hs i q hq
  have hne : q ≠ p := by
    rintro rfl
    rw [hp] at hpin
    cases hpin
  exact ⟨pin', by rw [Function.update_of_ne hne, hpin], hi⟩

theorem sound_entered (hs : Sound T H) (hp : H p = some pin) :
    Sound (entrySet T pin (some p)) H := by
  intro i q hq
  unfold entrySet at hq
  split at hq
  · rename_i hi
    obtain rfl := Option.some.inj hq
    exact ⟨pin, hp, hi.symm⟩
  · exact hs i q hq

/-- The entry goes first, so the table never names a freed context. -/
theorem sound_cleared (hs : Sound T H) : Sound (entrySet T pin none) H := by
  intro i q hq
  unfold entrySet at hq
  split at hq
  · cases hq
  · exact hs i q hq

theorem outside_preserves (hs : Sound T H) (h : w.At T H) {α : Type} {q : Init α}
    (hq : q.CallsOnly InitCall.Outside) {d : Device} :
    Ensures busySystem q (fun _ _ _ w' => w'.At T H) d w :=
  hq.keeps (E := busySystem) (J := System.At T H)
    (fun _ _ _ _ hi he hr => at_outside hs he hr hi) h

/-- One device's flag under the shared handler is `irqHandler` over the
entries that name its context. -/
theorem irqHandler_flag {ctx : DriverCtx} (hctx : w.heap p = some ctx) (gpio : Nat)
    (events : UInt32) :
    ((w.irqHandler gpio events).heap p).map (·.irqPending)
      = some (irqHandler (fun i => w.table i == some p) gpio events ctx.irqPending) := by
  unfold System.irqHandler irqHandler
  split
  · simp [hctx]
  · split
    · rename_i hgpio
      split
      · rename_i hnone
        simp [System.note, hctx, hnone]
      · rename_i q hq
        by_cases hqp : q = p
        · subst hqp
          simp [hctx, hq]
        · split
          · simp [System.note, hctx, hq, hqp]
          · simp [hctx, hq, hqp, Function.update_of_ne (Ne.symm hqp)]
    · simp [hctx]

end Calls

/-! ## What init and deinit leave -/

section Programs

variable {T : Fin tableLength → Option Ptr} {H : Ptr → Option UInt8} {w : System}
  {p : Ptr} {d : Device} {X : Errors} {hw : Hw} {config : Config} {attachInterrupt : Bool}

theorem outside_configure : (configure X config).CallsOnly InitCall.Outside := by
  refine Prog.callsOnly_bind ⟨trivial, fun _ => trivial⟩ fun _ => ?_
  refine Prog.callsOnly_bind ⟨trivial, fun _ => trivial⟩ fun result => ?_
  split
  · trivial
  split
  · trivial
  refine Prog.callsOnly_bind ⟨trivial, fun _ => trivial⟩ fun timestampResult => ?_
  split
  · trivial
  refine Prog.callsOnly_bind ⟨trivial, fun _ => trivial⟩ fun fifoResult => ?_
  split
  · trivial
  refine Prog.callsOnly_bind ⟨trivial, fun _ => trivial⟩ fun filterResult => ?_
  split
  · trivial
  · exact ⟨trivial, fun _ => trivial⟩

theorem outside_setupIrq : (setupIrq hw attachInterrupt).CallsOnly InitCall.Outside := by
  refine Prog.callsOnly_bind ⟨trivial, fun _ => trivial⟩ fun _ => ?_
  refine Prog.callsOnly_bind ⟨trivial, fun _ => trivial⟩ fun _ => ?_
  refine Prog.callsOnly_bind ⟨trivial, fun _ => trivial⟩ fun _ => ?_
  have hrest : (do
      initCall (.irqSetEnabled true)
      initCall (.gpioSetIrqEnabled hw.pinIrq gpioIrqEdgeFall true) : Init Unit).CallsOnly
        InitCall.Outside :=
    Prog.callsOnly_bind ⟨trivial, fun _ => trivial⟩ fun _ => ⟨trivial, fun _ => trivial⟩
  split
  · exact Prog.callsOnly_bind ⟨trivial, fun _ => trivial⟩ fun _ => hrest
  · exact hrest

theorem readOnly_configure : (configure X config).ReadOnly := by
  refine Prog.readOnly_bind (fun _ => trivial) fun _ => ?_
  refine Prog.readOnly_bind (fun _ => trivial) fun result => ?_
  split
  · trivial
  split
  · trivial
  refine Prog.readOnly_bind (fun _ => trivial) fun timestampResult => ?_
  split
  · trivial
  refine Prog.readOnly_bind (fun _ => trivial) fun fifoResult => ?_
  split
  · trivial
  refine Prog.readOnly_bind (fun _ => trivial) fun filterResult => ?_
  split
  · trivial
  · exact fun _ => trivial

theorem readOnly_setupIrq : (setupIrq hw attachInterrupt).ReadOnly := by
  refine Prog.readOnly_bind (fun _ => trivial) fun _ => ?_
  refine Prog.readOnly_bind (fun _ => trivial) fun _ => ?_
  refine Prog.readOnly_bind (fun _ => trivial) fun _ => ?_
  split
  · exact Prog.readOnly_bind (fun _ => trivial) fun _ =>
      Prog.readOnly_bind (fun _ => trivial) fun _ _ => trivial
  · exact Prog.readOnly_bind (fun _ => trivial) fun _ _ => trivial

theorem entrySet_outside {gpio : UInt8} (hgpio : tableLength ≤ gpio.toNat)
    (ctx : Option Ptr) : entrySet T gpio ctx = T := by
  funext i
  have := i.isLt
  unfold entrySet
  split
  · omega
  · rfl

/-- The device holds the context `p`, which was not allocated before, and
the table names it where it can. -/
def Holding (T : Fin tableLength → Option Ptr) (H : Ptr → Option UInt8) (pin : UInt8)
    (p : Ptr) (w : System) : Prop :=
  w.At (entrySet T pin (some p)) (Function.update H p (some pin))

/-- `init` either got no context, or its device holds one, whichever exit it
took afterwards: with an error from the controller it is still allocated and
still in the table. -/
theorem init_spec (hs : Sound T H) (h : w.At T H) :
    Ensures busySystem (init X hw config attachInterrupt) (fun _ _ d' w' =>
      d'.userDriverData = none ∧ w'.At T H
      ∨ ∃ p, d'.userDriverData = some p ∧ H p = none ∧ Holding T H hw.pinIrq p w') d w := by
  simp only [init, ensures_bind, ensures_modify, ensures_ask]
  intro r w₁ hx₁
  rcases at_malloc hs h hx₁ with ⟨rfl, h₁⟩ | ⟨p, pin, rfl, hp, h₁⟩
  · exact ensures_pure.mpr (.inl ⟨rfl, h₁⟩)
  · have hs₁ := sound_allocated pin hs hp
    simp only [ensures_bind, ensures_modify, ensures_ask]
    intro _ w₂ hx₂
    have h₂ := at_writeCtx hs₁ h₁ (Function.update_self ..) hx₂
    rw [Function.update_idem] at h₂
    have hs₂ := sound_allocated hw.pinIrq hs hp
    intro _ _ d₃ w₃ hx₃
    obtain rfl := Prog.ReadOnly.exec hx₃ readOnly_setupIrq
    have h₃ := outside_preserves hs₂ h₂ outside_setupIrq _ _ _ _ hx₃
    rw [ensures_ite]
    refine ⟨fun hrange => ?_, fun hrange => ?_⟩
    · refine ensures_pure.mpr (.inr ⟨p, rfl, hp, ?_⟩)
      rw [Holding, entrySet_outside hrange]
      exact h₃
    · simp only [ensures_bind, ensures_modify, ensures_ask]
      intro _ w₄ hx₄
      have h₄ := at_writeTable hs₂ h₃ (Nat.lt_of_not_le hrange) hx₄
      have hs₄ := sound_entered hs₂ (Function.update_self p (some hw.pinIrq) H)
      intro _ _ d₅ w₅ hx₅
      obtain rfl := Prog.ReadOnly.exec hx₅ readOnly_configure
      exact .inr ⟨p, rfl, hp, outside_preserves hs₄ h₄ outside_configure _ _ _ _ hx₅⟩

/-- What `init` leaves in the table is the wiring the interrupts rely on. -/
theorem Holding.board {pin : UInt8} (h : Holding T H pin p w) (hpin : pin.toNat < tableLength) :
    ∃ b : Board, b.pinIrq = ⟨pin.toNat, hpin⟩ ∧ ∀ gpio events ctx, w.heap p = some ctx →
      ((w.irqHandler gpio events).heap p).map (·.irqPending)
        = some (irqHandler b.ctxByGpio gpio events ctx.irqPending) := by
  have hentry : w.table ⟨pin.toNat, hpin⟩ = some p := by
    rw [h.table]
    simp [entrySet]
  exact ⟨⟨⟨pin.toNat, hpin⟩, fun i => w.table i == some p, by simp [hentry]⟩, rfl,
    fun gpio events ctx hctx => irqHandler_flag hctx gpio events⟩

/-- `deinit` of a device that holds nothing. -/
theorem deinit_nothing {devNull : Bool} (hd : devNull = true ∨ d.userDriverData = none) :
    Ensures busySystem (deinit devNull) (fun _ _ d' w' => d' = d ∧ w' = w) d w := by
  rw [deinit, ensures_ite]
  refine ⟨fun _ => ensures_pure.mpr ⟨rfl, rfl⟩, fun hnull => ?_⟩
  have hd : d.userDriverData = none := hd.resolve_left hnull
  simp [ensures_bind, hd]

/-- `deinit` of a device whose pin is in the table takes its entry and its
context away again, the entry before the context is freed. -/
theorem deinit_spec {pin : UInt8} (hs : Sound T H) (h : w.At T H)
    (hd : d.userDriverData = some p) (hp : H p = some pin) (hpin : pin.toNat < tableLength) :
    Ensures busySystem (deinit false) (fun _ _ d' w' => d'.userDriverData = none
      ∧ w'.At (entrySet T pin none) (Function.update H p none)) d w := by
  simp only [deinit, ensures_bind, ensures_read, Bool.false_eq_true, if_false, hd,
    ensures_ask, ensures_modify]
  intro pin₁ w₁ hx₁
  obtain ⟨rfl, h₁⟩ := at_readPinIrq hs h hp hx₁
  intro _ w₂ hx₂
  have h₂ := at_outside hs h₁ hx₂ trivial
  intro pin₃ w₃ hx₃
  obtain ⟨rfl, h₃⟩ := at_readPinIrq hs h₂ hp hx₃
  intro _ w₄ hx₄
  have h₄ := at_writeTable hs h₃ hpin hx₄
  intro _ w₅ hx₅
  exact ⟨trivial, at_free (sound_cleared hs) h₄ hp hx₅⟩

/-- What was logged stays logged. -/
theorem log_irqHandler {a : Access} (ha : a ∈ w.log) (gpio : Nat) (events : UInt32) :
    a ∈ (w.irqHandler gpio events).log := by
  unfold System.irqHandler
  split
  · exact ha
  · split
    · split
      · exact List.mem_append_left _ ha
      · split
        · exact List.mem_append_left _ (List.mem_append_left _ ha)
        · exact List.mem_append_left _ ha
    · exact ha

theorem log_free {a : Access} {w' : System} {r : Unit} (ha : a ∈ w.log)
    (hx : busySystem w (.free p) r w') : a ∈ w'.log := by
  obtain ⟨w₁, ht, rfl⟩ := hx
  refine List.mem_append_left _ (ticks_preserve (J := fun w => a ∈ w.log) ?_ ht ha)
  intro e e' htick he
  obtain ⟨gpio, events, rfl⟩ := htick
  exact log_irqHandler he gpio events

/-- `deinit` of a device whose pin is outside the table writes outside it. -/
theorem deinit_outside {pin : UInt8} (hs : Sound T H) (h : w.At T H)
    (hd : d.userDriverData = some p) (hp : H p = some pin) (hpin : tableLength ≤ pin.toNat) :
    Ensures busySystem (deinit false) (fun _ _ _ w' => ¬w'.Clean) d w := by
  simp only [deinit, ensures_bind, ensures_read, Bool.false_eq_true, if_false, hd,
    ensures_ask, ensures_modify]
  intro pin₁ w₁ hx₁
  obtain ⟨rfl, h₁⟩ := at_readPinIrq hs h hp hx₁
  intro _ w₂ hx₂
  have h₂ := at_outside hs h₁ hx₂ trivial
  intro pin₃ w₃ hx₃
  obtain ⟨rfl, h₃⟩ := at_readPinIrq hs h₂ hp hx₃
  intro _ w₄ hx₄ _ w₅ hx₅ hclean
  have hindex : .index pin₃.toNat ∈ w₄.log := by
    obtain ⟨_, -, rfl⟩ := hx₄
    simp
  have := hclean _ (log_free hindex hx₅)
  exact absurd this (Nat.not_lt.mpr hpin)

end Programs

/-! ## Runs -/

section Runs

variable {X : Errors} {hw : K → Hw}

/-- Every device holds an allocated context of its own pin, and every entry of
the table is the context of the device with that pin. What steps keep. -/
structure Inv (hw : K → Hw) (w : Devices K) : Prop where
  clean : w.2.Clean
  held : ∀ k p, (w.1 k).userDriverData = some p → w.2.pinOf p = some (hw k).pinIrq
  listed : ∀ i p, w.2.table i = some p →
    ∃ k, (hw k).pinIrq.toNat = i.val ∧ (w.1 k).userDriverData = some p

theorem Inv.at {w : Devices K} (h : Inv hw w) : w.2.At w.2.table w.2.pinOf :=
  ⟨rfl, rfl, h.clean⟩

theorem Inv.sound {w : Devices K} (h : Inv hw w) : Sound w.2.table w.2.pinOf := by
  intro i p hp
  obtain ⟨k, hk, hu⟩ := h.listed i p hp
  exact ⟨_, h.held k p hu, hk⟩

theorem Inv.owned {w : Devices K} (h : Inv hw w) : Owned hw w := by
  intro i p hp
  obtain ⟨k, hk, hu⟩ := h.listed i p hp
  have hpin := h.held k p hu
  rw [System.pinOf, Option.map_eq_some_iff] at hpin
  obtain ⟨ctx, hctx, heq⟩ := hpin
  exact ⟨k, ctx, hctx, by rw [heq]; exact hk, hk, hu⟩

theorem inv_start : Inv hw (devicesStart : Devices K) where
  clean a ha := by cases ha
  held k p h := by cases h
  listed i p h := by cases h

/-- What a step of one device does to the shared memory `w`, for a device
that holds `held` before and `held'` after. -/
inductive DeviceEffect (pin : UInt8) (w : System) (held : Option Ptr) :
    Option Ptr → System → Prop
  | kept {w' : System} (h : w'.At w.table w.pinOf) : DeviceEffect pin w held held w'
  | took {p : Ptr} {w' : System} (hheld : held = none) (hp : w.pinOf p = none)
      (h : Holding w.table w.pinOf pin p w') : DeviceEffect pin w held (some p) w'
  | released {p : Ptr} {w' : System} (hheld : held = some p)
      (h : w'.At (entrySet w.table pin none) (Function.update w.pinOf p none)) :
      DeviceEffect pin w held none w'

/-- A step of one device in terms of what it does to the shared memory, from
the specifications of the two functions. -/
theorem device_step {x : Rec (Devices K) (K × DeviceLabel)}
    (h : DevicesStep X hw x.pre x.label x.post) (hi : Inv hw x.pre) (hf : InitsFresh x)
    (hr : DeinitInRange hw x) :
    DeviceEffect (hw x.label.1).pinIrq x.pre.2 (x.pre.1 x.label.1).userDriverData
      (x.post.1 x.label.1).userDriverData x.post.2 := by
  have hown := h.own
  have hat := hi.at
  have hs := hi.sound
  have hheld := hi.held x.label.1
  have hrange : ∀ tr r, x.label.2 = .op (.deinit false) tr r → _ := hr
  have hfresh : ∀ config attach tr r, x.label.2 = .op (.init config attach) tr r → _ := hf
  generalize x.label.2 = l at hown hrange hfresh
  cases l with
  | tick =>
      obtain ⟨hu, ht⟩ := hown.ticked
      obtain ⟨gpio, events, heq⟩ := ht
      rw [show x.post.1 x.label.1 = x.pre.1 x.label.1 from hu]
      exact .kept (heq ▸ at_irqHandler hs hat gpio events)
  | op o tr r =>
      have hx := hown.exec
      cases o with
      | init config attach =>
          have hnone := hfresh config attach tr r rfl
          rcases init_spec hs hat _ _ _ _ hx with ⟨hu, hw'⟩ | ⟨p, hu, hp, hw'⟩
          · rw [show (x.post.1 x.label.1).userDriverData = none from hu, hnone]
            exact .kept hw'
          · rw [show (x.post.1 x.label.1).userDriverData = some p from hu]
            exact .took hnone hp hw'
      | deinit devNull =>
          by_cases hd : devNull = true ∨ (x.pre.1 x.label.1).userDriverData = none
          · obtain ⟨hd', hw'⟩ := deinit_nothing hd _ _ _ _ hx
            rw [show x.post.1 x.label.1 = x.pre.1 x.label.1 from hd',
              show x.post.2 = x.pre.2 from hw']
            exact .kept hat
          · rw [not_or, Bool.not_eq_true] at hd
            obtain ⟨rfl, hne⟩ := hd
            obtain ⟨p, hp⟩ := Option.ne_none_iff_exists'.mp hne
            obtain ⟨hu, hw'⟩ := deinit_spec hs hat hp (hheld p hp) (hrange tr r rfl hne)
              _ _ _ _ hx
            rw [show (x.post.1 x.label.1).userDriverData = none from hu]
            exact .released hp hw'

section Effects

variable {w w' : Devices K} {k₀ : K} {p : Ptr}

theorem inv_kept (hi : Inv hw w) (hothers : ∀ k, k ≠ k₀ → w'.1 k = w.1 k)
    (hu : (w'.1 k₀).userDriverData = (w.1 k₀).userDriverData)
    (hat : w'.2.At w.2.table w.2.pinOf) : Inv hw w' := by
  have hsame : ∀ k, (w'.1 k).userDriverData = (w.1 k).userDriverData := by
    intro k
    by_cases hk : k = k₀
    · rw [hk, hu]
    · rw [hothers k hk]
  refine ⟨hat.clean, fun k q hq => ?_, fun i q hq => ?_⟩
  · rw [hat.pins]
    exact hi.held k q ((hsame k).symm.trans hq)
  · rw [hat.table] at hq
    obtain ⟨k, hki, hk⟩ := hi.listed i q hq
    exact ⟨k, hki, (hsame k).trans hk⟩

theorem inv_took (hi : Inv hw w) (hothers : ∀ k, k ≠ k₀ → w'.1 k = w.1 k)
    (hnone : (w.1 k₀).userDriverData = none) (hu : (w'.1 k₀).userDriverData = some p)
    (hfree : w.2.pinOf p = none)
    (hat : Holding w.2.table w.2.pinOf (hw k₀).pinIrq p w'.2) : Inv hw w' := by
  refine ⟨hat.clean, fun k q hq => ?_, fun i q hq => ?_⟩
  · rw [hat.pins]
    by_cases hk : k = k₀
    · subst hk
      obtain rfl := Option.some.inj (hu.symm.trans hq)
      exact Function.update_self ..
    · have hpre := hi.held k q (hothers k hk ▸ hq)
      have hne : q ≠ p := by
        rintro rfl
        rw [hfree] at hpre
        cases hpre
      rw [Function.update_of_ne hne, hpre]
  · rw [hat.table] at hq
    unfold entrySet at hq
    split at hq
    · rename_i hpin
      exact ⟨k₀, hpin.symm, hu.trans hq⟩
    · obtain ⟨k, hki, hk⟩ := hi.listed i q hq
      have hkl : k ≠ k₀ := by
        rintro rfl
        rw [hnone] at hk
        cases hk
      exact ⟨k, hki, hothers k hkl ▸ hk⟩

theorem inv_released (hpins : ∀ j k, (hw j).pinIrq = (hw k).pinIrq → j = k) (hi : Inv hw w)
    (hothers : ∀ k, k ≠ k₀ → w'.1 k = w.1 k) (hheld : (w.1 k₀).userDriverData = some p)
    (hu : (w'.1 k₀).userDriverData = none)
    (hat : w'.2.At (entrySet w.2.table (hw k₀).pinIrq none)
      (Function.update w.2.pinOf p none)) : Inv hw w' := by
  refine ⟨hat.clean, fun k q hq => ?_, fun i q hq => ?_⟩
  · have hk : k ≠ k₀ := by
      rintro rfl
      rw [hu] at hq
      cases hq
    have hq' : (w.1 k).userDriverData = some q := hothers k hk ▸ hq
    -- Two devices never hold one context: its pin would be both devices'.
    have hne : q ≠ p := by
      rintro rfl
      have heq := (hi.held k q hq').symm.trans (hi.held k₀ q hheld)
      exact hk (hpins _ _ (Option.some.inj heq))
    rw [hat.pins, Function.update_of_ne hne]
    exact hi.held k q hq'
  · rw [hat.table] at hq
    unfold entrySet at hq
    split at hq
    · cases hq
    · rename_i hpin
      obtain ⟨k, hki, hk⟩ := hi.listed i q hq
      have hkl : k ≠ k₀ := by
        rintro rfl
        exact hpin hki.symm
      exact ⟨k, hki, hothers k hkl ▸ hk⟩

end Effects

/-- Step lemma, by the three effects. With different pins no device's context
is another's. -/
theorem inv_step (hpins : ∀ j k, (hw j).pinIrq = (hw k).pinIrq → j = k)
    {x : Rec (Devices K) (K × DeviceLabel)}
    (h : DevicesStep X hw x.pre x.label x.post) (hi : Inv hw x.pre) (hf : InitsFresh x)
    (hr : DeinitInRange hw x) : Inv hw x.post := by
  have heff := device_step h hi hf hr
  generalize hu : (x.pre.1 x.label.1).userDriverData = held at heff
  generalize hu' : (x.post.1 x.label.1).userDriverData = held' at heff
  generalize hw' : x.post.2 = w' at heff
  cases heff with
  | kept hat => exact inv_kept hi h.others (hu'.trans hu.symm) (hw' ▸ hat)
  | took hheld hfree hat =>
      exact inv_took hi h.others (hu.trans hheld) hu' hfree (hw' ▸ hat)
  | released hheld hat =>
      exact inv_released hpins hi h.others (hu.trans hheld) hu' (hw' ▸ hat)

/-- Only a `deinit` that writes outside the table spoils the log, and it does
so at once. -/
theorem deinitInRange_of_clean {x : Rec (Devices K) (K × DeviceLabel)}
    (h : DevicesStep X hw x.pre x.label x.post) (hi : Inv hw x.pre)
    (hc : x.post.2.Clean) : DeinitInRange hw x := by
  intro tr r hl hne
  obtain ⟨p, hp⟩ := Option.ne_none_iff_exists'.mp hne
  by_contra hrange
  have hown := h.own
  rw [hl] at hown
  exact deinit_outside hi.sound hi.at hp (hi.held _ p hp) (Nat.le_of_not_lt hrange)
    _ _ _ _ hown.exec hc

/-- Interrupts alone leave table, contexts and devices. -/
theorem ticks_at {T : Fin tableLength → Option Ptr} {H : Ptr → Option UInt8} (hs : Sound T H)
    {w w' : Devices K} {ys : List (Rec (Devices K) (K × DeviceLabel))}
    (h : Run (DevicesStep X hw) w ys w') (hticks : ∀ y ∈ ys, y.label.2 = .tick)
    (hw : w.2.At T H) : w'.1 = w.1 ∧ w'.2.At T H := by
  refine (Run.invariant (fun v => v.1 = w.1 ∧ v.2.At T H) (fun y => y.label.2 = .tick)
    ⟨rfl, hw⟩ (fun y hy ht hv => ?_) h hticks).1
  have hown := hy.own
  rw [ht] at hown
  obtain ⟨hu, gpio, events, heq⟩ := hown.ticked
  have hdev : y.post.1 = y.pre.1 := by
    funext k
    by_cases hk : k = y.label.1
    · subst hk
      exact hu
    · exact hy.others k hk
  exact ⟨hdev.trans hv.1, (show y.post.2 = _ from heq) ▸ at_irqHandler hs hv.2 gpio events⟩

/-- A device that holds nothing has no entry. -/
theorem table_none (hpins : ∀ j k, (hw j).pinIrq = (hw k).pinIrq → j = k) {w : Devices K}
    (hi : Inv hw w) {k : K} (hk : (w.1 k).userDriverData = none) {i : Fin tableLength}
    (hki : i.val = (hw k).pinIrq.toNat) : w.2.table i = none := by
  cases hp : w.2.table i with
  | none => rfl
  | some p =>
      obtain ⟨j, hji, hj⟩ := hi.listed i p hp
      have hjk : j = k := hpins _ _ (UInt8.toNat_inj.mp (hji.trans hki))
      rw [hjk, hk] at hj
      cases hj

theorem entrySet_undone {T : Fin tableLength → Option Ptr} {pin : UInt8} {ctx : Option Ptr}
    (h : ∀ i : Fin tableLength, i.val = pin.toNat → T i = none) :
    entrySet (entrySet T pin ctx) pin none = T := by
  funext i
  unfold entrySet
  split
  · rename_i hi
    exact (h i hi).symm
  · rfl

/-- Whatever exit `init` took, the next `deinit` undoes it: the entry it
clears was empty before, and the context it frees was not allocated. -/
theorem deinit_restores (hpins : ∀ j k, (hw j).pinIrq = (hw k).pinIrq → j = k)
    {x y : Rec (Devices K) (K × DeviceLabel)} {ys : List (Rec (Devices K) (K × DeviceLabel))}
    (hx : DevicesStep X hw x.pre x.label x.post) (hi : Inv hw x.pre) (hf : InitsFresh x)
    (hys : Run (DevicesStep X hw) x.post ys y.pre) (hticks : ∀ z ∈ ys, z.label.2 = .tick)
    (hy : DevicesStep X hw y.pre y.label y.post) (hr : DeinitInRange hw y)
    {k : K} {config : Config} {attach : Bool} {tr tr' : List (Event InitCall InitAnswer)}
    {r : ErrorResult} {r' : Unit} (hlx : x.label = (k, .op (.init config attach) tr r))
    (hly : y.label = (k, .op (.deinit false) tr' r')) :
    y.post.2.table = x.pre.2.table ∧ y.post.2.pinOf = x.pre.2.pinOf := by
  have hxown := hx.own
  have hyown := hy.own
  rw [hlx] at hxown
  rw [hly] at hyown
  have hnone : (x.pre.1 k).userDriverData = none := by
    have := hf config attach tr r (by rw [hlx])
    rwa [hlx] at this
  have hs := hi.sound
  rcases init_spec hs hi.at _ _ _ _ hxown.exec with ⟨hu, hat⟩ | ⟨p, hu, hp, hat⟩
  · obtain ⟨hdev, hat'⟩ := ticks_at hs hys hticks hat
    obtain ⟨-, hw'⟩ := deinit_nothing (.inr (by rw [hdev]; exact hu)) _ _ _ _ hyown.exec
    rw [show y.post.2 = y.pre.2 from hw']
    exact ⟨hat'.table, hat'.pins⟩
  · have hheld : Function.update x.pre.2.pinOf p (some (hw k).pinIrq) p
        = some (hw k).pinIrq := Function.update_self ..
    have hs' := sound_entered (sound_allocated (hw k).pinIrq hs hp) hheld
    obtain ⟨hdev, hat'⟩ := ticks_at hs' hys hticks hat
    have huy : (y.pre.1 k).userDriverData = some p := by
      rw [hdev]
      exact hu
    have hrange : (hw k).pinIrq.toNat < tableLength := by
      have := hr tr' r' (by rw [hly])
      rw [hly] at this
      exact this (by simp [huy])
    obtain ⟨-, hat''⟩ := deinit_spec hs' hat' huy hheld hrange _ _ _ _ hyown.exec
    refine ⟨?_, ?_⟩
    · rw [show y.post.2.table = _ from hat''.table]
      exact entrySet_undone fun i hki => table_none hpins hi hnone hki
    · rw [show y.post.2.pinOf = _ from hat''.pins, Function.update_idem]
      exact Function.update_eq_self_iff.mpr hp.symm

/-- In every run in which no device is initialised that still holds a context:
table, heap and interrupts are in order all along and every `deinit` undoes
its `init`, exactly if no device with an IRQ pin outside the table is
deinitialised while it holds a context. The invariant holds up to the first
such step, and that step is in the log. -/
theorem safe_iff_deinit_in_range (hpins : ∀ j k, (hw j).pinIrq = (hw k).pinIrq → j = k)
    {xs : List (Rec (Devices K) (K × DeviceLabel))} {w : Devices K}
    (h : Run (DevicesStep X hw) devicesStart xs w) (hfresh : ∀ x ∈ xs, InitsFresh x) :
    Safe hw xs ↔ ∀ x ∈ xs, DeinitInRange hw x := by
  constructor
  · intro hsafe
    have hxs := (h.invariant (Inv hw) (fun x => InitsFresh x ∧ x.post.2.Clean) inv_start
      (fun x hs hg hi => inv_step hpins hs hi hg.1 (deinitInRange_of_clean hs hi hg.2))
      fun x hx => ⟨hfresh x hx, hsafe.clean x hx⟩).2
    exact fun x hx => deinitInRange_of_clean (hxs x hx).1 (hxs x hx).2.1 (hsafe.clean x hx)
  · intro hrange
    have hxs := (h.invariant (Inv hw) (fun x => InitsFresh x ∧ DeinitInRange hw x) inv_start
      (fun x hs hg hi => inv_step hpins hs hi hg.1 hg.2)
      fun x hx => ⟨hfresh x hx, hrange x hx⟩).2
    refine ⟨fun x hx => (hxs x hx).2.2.clean, fun x hx => (hxs x hx).2.2.owned, ?_⟩
    intro ws x ys y zs heq k config attach tr r hlx tr' r' hly hticks
    subst heq
    have hx : x ∈ ws ++ x :: (ys ++ y :: zs) := by simp
    have hy : y ∈ ws ++ x :: (ys ++ y :: zs) := by simp
    obtain ⟨_, _, hrest⟩ := h.split
    obtain ⟨_, _, hafter⟩ := hrest.head
    obtain ⟨v, hys, hlast⟩ := hafter.split
    obtain rfl := hlast.head.1
    obtain ⟨htable, hpin⟩ := deinit_restores hpins (hxs x hx).1 (hxs x hx).2.1
      (hfresh x hx) hys hticks (hxs y hy).1 (hrange y hy) hlx hly
    exact ⟨htable, fun p => by rw [isLive_pinOf, isLive_pinOf, hpin]⟩

end Runs

/-! ## Runs on the bench -/

/-- One context fits the heap, the FIFO list must not be empty, everything
else works, and pin 9 interrupts while `init` sleeps. -/
def benchSystem (w : System) : (i : InitCall) → InitAnswer i × System
  | .malloc =>
    let rubbish : DriverCtx := ⟨benchHw 0, benchConfig 0, true, none, none⟩
    if (w.heap 0).isNone then
      (some 0, { w with heap := Function.update w.heap 0 (some rubbish) })
    else (none, w)
  | .writeCtx p value => ((), { w with
      heap := if w.isLive p then Function.update w.heap p (some value) else w.heap
      log := w.log ++ [.use (w.isLive p)] })
  | .readPinIrq p => (((w.heap p).map (·.hw.pinIrq)).getD 0, w.note (.use (w.isLive p)))
  | .free p => ((), { w with
      heap := Function.update w.heap p none
      log := w.log ++ [.free (w.isLive p)] })
  | .writeTable gpio ctx => ((), { w with
      table := entrySet w.table gpio ctx
      log := w.log ++ [.index gpio.toNat] })
  | .sleepMs _ => ((), w.irqHandler 9 gpioIrqEdgeFall)
  | .configureFifoList _ numFifos => (if numFifos = 0 then (7 : UInt32) else errOk, w)
  | .initMcp251xfd _ | .configureTimeStamp .. | .configureFilterList ..
  | .requestOperationMode .. => (errOk, w)
  | .gpioInit _ | .gpioSetDirIn _ | .gpioPullUp _ | .gpioSetIrqCallback | .irqSetEnabled _
  | .gpioSetIrqEnabled .. => ((), w)

theorem benchSystem_answers : Answers benchSystem busySystem := by
  intro w i
  cases i with
  | sleepMs => exact ⟨_, .single ⟨9, gpioIrqEdgeFall, rfl⟩, rfl⟩
  | malloc =>
      refine interleave_of ?_
      simp only [benchSystem]
      split
      · rename_i hfree
        exact .inr ⟨0, _, rfl, by simpa using hfree, rfl⟩
      · exact .inl ⟨rfl, rfl⟩
  | readPinIrq p =>
      refine interleave_of ⟨fun ctx hctx => ?_, rfl⟩
      simp [benchSystem, hctx]
  | _ => exact interleave_of rfl

def initsFresh {K : Type} (x : Rec (Devices K) (K × DeviceLabel)) : Bool :=
  match x.label.2 with
  | .op (.init ..) _ _ => (x.pre.1 x.label.1).userDriverData.isNone
  | _ => true

theorem initsFresh_iff {K : Type} {x : Rec (Devices K) (K × DeviceLabel)}
    (h : initsFresh x = true) : InitsFresh x := by
  intro config attach tr r hl
  simpa [initsFresh, hl] using h

/-- An `init` that fails at the FIFOs and one that succeeds, of two devices. -/
theorem safe_iff_deinit_in_range_retried : ∃ xs w,
    Run (DevicesStep benchErrors fun k : Bool => benchHw (if k then 9 else 4)) devicesStart
        xs w
      ∧ Safe (fun k : Bool => benchHw (if k then 9 else 4)) xs
      ∧ Access.mark 9 9 ∈ w.2.log := by
  obtain ⟨xs, w, hrun, hw⟩ := sharedEvalsTo_run
    (E := fun _ _ _ => busySystem) Interrupt
    (fun _ _ _ _ _ => benchSystem_answers)
    (show sharedEvalsTo (fun k : Bool => deviceProgram benchErrors
          (benchHw (if k then 9 else 4))) (fun _ _ _ => benchSystem) 1
        [(false, .init (benchConfig 0) true), (false, .deinit false),
          (true, .init (benchConfig 1) true)] devicesStart
        (fun xs w => xs.all initsFresh && w.2.log.contains (.mark 9 9)) = true
      from by decide +kernel)
  rw [Bool.and_eq_true, List.all_eq_true] at hw
  refine ⟨xs, w, hrun, (safe_iff_deinit_in_range (by decide) hrun
    fun x hx => initsFresh_iff (hw.1 x hx)).mpr fun x _ _ _ _ _ => ?_, by simpa using hw.2⟩
  cases x.label.1 <;> decide

/-- An IRQ pin the table has no entry for: `init` returns its error, and the
`deinit` after it stores beyond the table. -/
theorem deinit_stores_outside : ∃ xs w,
    Run (DevicesStep benchErrors fun _ : Unit => benchHw 200) devicesStart xs w
      ∧ (∀ x ∈ xs, InitsFresh x) ∧ Access.index 200 ∈ w.2.log
      ∧ ¬Safe (fun _ : Unit => benchHw 200) xs := by
  obtain ⟨xs, w, hrun, hw⟩ := sharedEvalsTo_run
    (E := fun _ _ _ => busySystem) Interrupt
    (fun _ _ _ _ _ => benchSystem_answers)
    (show sharedEvalsTo (fun _ : Unit => deviceProgram benchErrors (benchHw 200))
        (fun _ _ _ => benchSystem) 1
        [((), .init (benchConfig 1) true), ((), .deinit false)] devicesStart
        (fun xs w => xs.all initsFresh && w.2.log.contains (.index 200)
          && xs.any fun x => x.post.2.log.contains (.index 200)) = true
      from by decide +kernel)
  simp only [Bool.and_eq_true, List.all_eq_true, List.any_eq_true, List.contains_iff_mem] at hw
  obtain ⟨⟨hfresh, hlog⟩, x, hx, hstored⟩ := hw
  refine ⟨xs, w, hrun, fun x hx => initsFresh_iff (hfresh x hx), hlog, fun hsafe => ?_⟩
  have hok := hsafe.clean x hx _ hstored
  exact absurd hok (by decide : ¬Access.Ok (.index 200))

end Mcp251xfd

end LeosSdk
