import LeosSdk.CanTable
import LeosSdk.Implement

/-!
# MCP251XFD: the driver

All of `mcp251xfd.c` on any number of controllers: `init`, `deinit`,
`set_rx_handler`, `task` and the interrupt handler, over the table and the
contexts of `CanTable`. Each controller's INT line is on the IRQ pin of its
device, and its falling edge reaches the handler, whoever attached it.

`CanTask` has task and `set_rx_handler` over a context of their own. Here they
reach it through `UserDriverData` (`ctxImpl`). An execution is one of
`CanTask`'s on the line of its own controller (`serve_carries`), and whatever
is done for other devices only moves that line. So what is proved of one
device there holds of each device here. The installed callbacks do not call
the driver.

Seen from one device that holds a context, the world is its line and its flag
(`Observes`). Beside the programs only moves of that line happen
(`observes_moves`), and an access to another context or another pin's entry
changes nothing (`Aloof`), because devices on different pins hold different
contexts. `init` and `deinit` are seen twice: from the table and the contexts,
where `CanTable` has what they do (`setup_sys`), and from the line of each
device, where they start its own (`init_observes`) and move everyone else's
(`setup_elsewhere`). `Works` puts this together for all devices, with what
each registered last; it is the invariant of the run.
-/

namespace LeosSdk

namespace Mcp251xfd

open Relation (ReflTransGen)

/-! ## Task and set_rx_handler on the contexts -/

/-- The members the task uses; a null reference is 0. -/
def DriverCtx.rx (ctx : DriverCtx) : TaskCtx := ⟨ctx.rxCb, ctx.cbUserReference.getD 0⟩

def DriverCtx.setRx (ctx : DriverCtx) (rx : TaskCtx) : DriverCtx :=
  { ctx with
    rxCb := rx.rxCb
    cbUserReference := if rx.cbUserReference = 0 then none else some rx.cbUserReference }

@[simp] theorem rx_setRx (ctx : DriverCtx) (rx : TaskCtx) : (ctx.setRx rx).rx = rx := by
  by_cases h : rx.cbUserReference = 0
  · simp [DriverCtx.rx, DriverCtx.setRx, ← h]
  · simp [DriverCtx.rx, DriverCtx.setRx, h]

inductive ServeCall where
  | readIrqPending (ctx : Ptr)
  | writeIrqPending (ctx : Ptr) (value : Bool)
  | readRx (ctx : Ptr)
  | writeRx (ctx : Ptr) (rx : TaskCtx)
  | device (i : Call)

abbrev ServeAnswer : ServeCall → Type
  | .readIrqPending _ => Bool
  | .readRx _ => TaskCtx
  | .device i => Answer i
  | _ => Unit

abbrev Serve := Prog Device ServeCall ServeAnswer

abbrev serveCall (i : ServeCall) : Serve (ServeAnswer i) := Prog.ask i

/-- `f` on the context, if there is one. -/
def onCtx {α : Type} (otherwise : α) (f : Ptr → Serve α) : Serve α := do
  let dev ← Prog.read
  match dev.userDriverData with
  | none => return otherwise
  | some ctx => f ctx

/-- The task's accesses and calls, with the context behind `UserDriverData`:
an access of the single device's program is a load of the pointer and one
through it. -/
def ctxImpl : Impl (Option TaskCtx) Call Answer Device ServeCall ServeAnswer where
  load := onCtx none fun ctx => do
    let rx ← serveCall (.readRx ctx)
    return some rx
  store f := onCtx () fun ctx => do
    let rx ← serveCall (.readRx ctx)
    match f (some rx) with
    | none => return ()
    | some rx => serveCall (.writeRx ctx rx)
  call
    | .irqPending => onCtx false fun ctx => serveCall (.readIrqPending ctx)
    | .setIrqPending value => onCtx () fun ctx => serveCall (.writeIrqPending ctx value)
    | i => serveCall (.device i)

def serveProgram (o : Op) : Serve Unit := (program o).implement ctxImpl

/-- The call of the single device's program that an event stands for. -/
def ServeCall.view : Event ServeCall ServeAnswer → Option (Event Call Answer)
  | ⟨.readIrqPending _, r⟩ => some ⟨.irqPending, r⟩
  | ⟨.writeIrqPending _ value, r⟩ => some ⟨.setIrqPending value, r⟩
  | ⟨.device i, r⟩ => some ⟨i, r⟩
  | _ => none

/-! ## The controllers and the shared memory -/

structure World (K : Type) where
  sys : System
  pending : K → List PendingCode

section Definitions

variable {K : Type} [DecidableEq K]

/-- The pending events of a controller change, with the interrupt if its INT
falls. -/
def World.become (hw : K → Hw) (w : World K) (k : K) (pending : List PendingCode) : World K where
  pending := Function.update w.pending k pending
  sys :=
    if (w.pending k).isEmpty && !pending.isEmpty then
      w.sys.irqHandler (hw k).pinIrq.toNat gpioIrqEdgeFall
    else w.sys

/-- What happens beside the programs. -/
inductive World.Moves (hw : K → Hw) (w : World K) : World K → Prop
  | bus (k : K) (pending : List PendingCode) : Moves hw w (w.become hw k pending)
  | gpio (gpio : Nat) (events : UInt32) : Moves hw w { w with sys := w.sys.irqHandler gpio events }

/-- The INT line of a controller and the flag behind its table entry. -/
def World.line (hw : K → Hw) (w : World K) (k : K) : Line where
  pending := w.pending k
  irqPending :=
    if h : (hw k).pinIrq.toNat < tableLength then
      ((w.sys.table ⟨_, h⟩).bind w.sys.heap).any (·.irqPending)
    else false

/-- An access to a context. -/
def World.touch (w : World K) (p : Ptr) (f : DriverCtx → DriverCtx) : World K :=
  { w with sys := { w.sys with
      heap := Function.update w.sys.heap p ((w.sys.heap p).map f)
      log := w.sys.log ++ [.use (w.sys.isLive p)] } }

/-- `init` and `deinit` of device `k`. When `Init_MCP251XFD` succeeds it has
reset the controller. -/
def setupEnv (k : K) : Env (World K) InitCall InitAnswer
  | w, .initMcp251xfd _, r, w' => w'.sys = w.sys ∧ (w'.pending = Function.update w.pending k []
      ∨ (r : ErrorResult) ≠ errOk ∧ w'.pending = w.pending)
  | w, i, r, w' => systemEnv w.sys i r w'.sys ∧ w'.pending = w.pending

/-- Task and `set_rx_handler` of device `k`. -/
def serveEnv (hw : K → Hw) (Fails : Line → Prop) (k : K) : Env (World K) ServeCall ServeAnswer
  | w, .readIrqPending p, r, w' =>
    (∀ ctx, w.sys.heap p = some ctx → r = ctx.irqPending) ∧ w' = w.touch p id
  | w, .writeIrqPending p value, _, w' => w' = w.touch p ({ · with irqPending := value })
  | w, .readRx p, r, w' => (∀ ctx, w.sys.heap p = some ctx → r = ctx.rx) ∧ w' = w.touch p id
  | w, .writeRx p rx, _, w' => w' = w.touch p (·.setRx rx)
  | w, .device .getCurrentInterruptEvent, a, w' => w' = w
      ∧ (Prod.fst a ≠ errOk ∧ Fails (w.line hw k)
        ∨ Prod.fst a = errOk ∧ (w.line hw k).Finds (Prod.snd a))
  | w, .device _, _, w' => ReflTransGen (World.Moves hw) w w'

abbrev busySetup (hw : K → Hw) (k : K) : Env (World K) InitCall InitAnswer :=
  interleave (World.Moves hw) (setupEnv k)

abbrev busyServe (hw : K → Hw) (Fails : Line → Prop) (k : K) :
    Env (World K) ServeCall ServeAnswer :=
  interleave (World.Moves hw) (serveEnv hw Fails k)

inductive DriverLabel where
  | tick
  | setup (o : DeviceOp) (tr : List (Event InitCall InitAnswer)) (r : o.Ret)
  | serve (o : Op) (tr : List (Event ServeCall ServeAnswer))

/-- A step of device `k`. -/
inductive DriverStep.One (X : Errors) (hw : K → Hw) (Fails : Line → Prop) (k : K) :
    Device × World K → DriverLabel → Device × World K → Prop
  | tick {d w w'} (h : w.Moves hw w') : One X hw Fails k (d, w) .tick (d, w')
  | setup {o d w tr r d' w'} (h : Exec (busySetup hw k) (deviceProgram X (hw k) o) d w tr r d' w') :
      One X hw Fails k (d, w) (.setup o tr r) (d', w')
  | serve {o d w tr d' w'} (h : Exec (busyServe hw Fails k) (serveProgram o) d w tr () d' w') :
      One X hw Fails k (d, w) (.serve o tr) (d', w')

abbrev DriverStep (X : Errors) (hw : K → Hw) (Fails : Line → Prop) :
    (K → Device) × World K → K × DriverLabel → (K → Device) × World K → Prop :=
  Shared (DriverStep.One X hw Fails)

abbrev DriverRec (K : Type) := Rec ((K → Device) × World K) (K × DriverLabel)

/-- Zeroed objects, an empty table, no context, and the controllers as they
were left. -/
def driverStart (pending : K → List PendingCode) : (K → Device) × World K :=
  (fun _ => .zero, ⟨⟨fun _ => none, fun _ => none, []⟩, pending⟩)

/-! ## What must hold -/

/-- No device is initialised that still holds a context. -/
def DriverRec.InitsFresh (x : DriverRec K) : Prop :=
  ∀ config attach tr r, x.label.2 = .setup (.init config attach) tr r →
    (x.pre.1 x.label.1).userDriverData = none

def DriverLabel.registers (rx : TaskCtx) : DriverLabel → TaskCtx
  | .setup (.init ..) _ _ => ⟨none, 0⟩
  | .serve (.setRxHandler false callback userReference) _ => ⟨callback, userReference⟩
  | _ => rx

/-- What `set_rx_handler` was given for the device since its last `init`. -/
def registered (k : K) (xs : List (DriverRec K)) : TaskCtx :=
  xs.foldl (fun rx x => if x.label.1 = k then x.label.2.registers rx else rx) ⟨none, 0⟩

def DriverLabel.brings (up : Bool) : DriverLabel → Bool
  | .setup (.init ..) _ r => (r : ErrorResult) == errOk
  | .setup (.deinit false) _ _ => false
  | _ => up

/-- The last `init` of the device succeeded and no `deinit` followed. -/
def isUp (k : K) (xs : List (DriverRec K)) : Bool :=
  xs.foldl (fun up x => if x.label.1 = k then x.label.2.brings up else up) false

/-- A step after `ys`. -/
structure Attends (hw : K → Hw) (ys : List (DriverRec K)) (x : DriverRec K) : Prop where
  clean : x.post.2.sys.Clean
  called : ∀ o tr, x.label.2 = .serve o tr → ∀ callback userReference r,
    (⟨.device (.rxCb callback userReference), r⟩ : Event ServeCall ServeAnswer) ∈ tr →
      registered x.label.1 ys = ⟨some callback, userReference⟩
  flagged : ∀ k, isUp k ys = true → (x.pre.2.line hw k).Flagged
  queries : isUp x.label.1 ys = true → (x.pre.2.line hw x.label.1).asserted = true →
    ∀ tr, x.label.2 = .serve (.task false) tr →
      ∃ a, (⟨.device .getCurrentInterruptEvent, a⟩ : Event ServeCall ServeAnswer) ∈ tr

end Definitions

/-! ## One device in the world -/

section Observing

variable {K : Type} {hw : K → Hw} {k j : K} {p q : Ptr} {rx rx' : TaskCtx} {c c' : Line}
  {w w' : World K} {ctx : DriverCtx}

/-- The wiring of a device whose pin is in the table. -/
def boardOf (hw : K → Hw) (hrange : ∀ k, (hw k).pinIrq.toNat < tableLength) (k : K) : Board where
  pinIrq := ⟨_, hrange k⟩
  ctxByGpio i := i.val == (hw k).pinIrq.toNat
  registered := by simp

/-- What the world says of device `k` with the context `p`: its pin leads to
it, its members are `rx`, and line and flag are those of `c`. -/
structure Observes (hw : K → Hw) (k : K) (p : Ptr) (rx : TaskCtx) (c : Line) (w : World K) :
    Prop where
  ctx : ∃ ctx, w.sys.heap p = some ctx ∧ ctx.rx = rx ∧ ctx.irqPending = c.irqPending
    ∧ ctx.hw.pinIrq = (hw k).pinIrq
  entries : ∀ i, w.sys.table i = some p ↔ i.val = (hw k).pinIrq.toNat
  pending : w.pending k = c.pending

theorem table_irqHandler (w : System) (gpio : Nat) (events : UInt32) :
    (w.irqHandler gpio events).table = w.table := by
  unfold System.irqHandler
  split
  · rfl
  · split
    · split
      · rfl
      · split <;> rfl
    · rfl

theorem heap_irqHandler {w : System} (hctx : w.heap p = some ctx) (gpio : Nat) (events : UInt32) :
    (w.irqHandler gpio events).heap p = some { ctx with
      irqPending := irqHandler (fun i => w.table i == some p) gpio events ctx.irqPending } := by
  unfold System.irqHandler irqHandler
  split
  · exact hctx
  · split
    · rename_i hgpio
      split
      · rename_i hnone
        simp [System.note, hctx, hnone]
      · rename_i q hq
        by_cases hqp : q = p
        · subst hqp
          simp [hctx, hq]
        · split
          · simp [System.note, hctx, hq, hqp]
          · simp [hctx, hq, hqp, Function.update_of_ne (Ne.symm hqp)]
    · exact hctx

theorem Observes.ctxByGpio (hrange : ∀ k, (hw k).pinIrq.toNat < tableLength)
    (h : Observes hw k p rx c w) :
    (fun i => w.sys.table i == some p) = (boardOf hw hrange k).ctxByGpio := by
  funext i
  rw [Bool.eq_iff_iff, beq_iff_eq, h.entries i]
  simp [boardOf]

theorem observes_irqHandler (hrange : ∀ k, (hw k).pinIrq.toNat < tableLength)
    (h : Observes hw k p rx c w) (gpio : Nat) (events : UInt32) :
    Observes hw k p rx { c with
      irqPending := irqHandler (boardOf hw hrange k).ctxByGpio gpio events c.irqPending }
      { w with sys := w.sys.irqHandler gpio events } := by
  obtain ⟨ctx, hctx, hrx, hirq, hpin⟩ := h.ctx
  refine ⟨⟨_, heap_irqHandler hctx gpio events, hrx, ?_, hpin⟩, fun i => ?_, h.pending⟩
  · rw [h.ctxByGpio hrange, hirq]
  · rw [table_irqHandler]
    exact h.entries i

theorem Observes.line [DecidableEq K] (h : Observes hw k p rx c w)
    (hrange : (hw k).pinIrq.toNat < tableLength) : w.line hw k = c := by
  obtain ⟨ctx, hctx, -, hirq, -⟩ := h.ctx
  have hentry : w.sys.table ⟨_, hrange⟩ = some p := (h.entries _).mpr rfl
  have hpending := h.pending
  cases c with
  | mk irqPending pending =>
      simp only [World.line, hrange, dif_pos, hentry, Option.bind_some, hctx, Option.any_some]
      rw [hirq, hpending]

/-- Whatever happens beside the programs is a move of the device's line, or
nothing to it. -/
theorem observes_moves [DecidableEq K] (hrange : ∀ k, (hw k).pinIrq.toNat < tableLength)
    (h : Observes hw k p rx c w) (hm : w.Moves hw w') :
    ∃ c', ReflTransGen (Line.Moves (boardOf hw hrange k)) c c' ∧ Observes hw k p rx c' w' := by
  cases hm with
  | gpio gpio events =>
      exact ⟨_, .single (.gpio gpio events), observes_irqHandler hrange h gpio events⟩
  | bus j pending =>
      by_cases hj : j = k
      · subst hj
        refine ⟨_, .single (.bus pending), ?_⟩
        have hfalls : (!c.asserted && !pending.isEmpty)
            = ((w.pending j).isEmpty && !pending.isEmpty) := by
          rw [Line.asserted, h.pending, Bool.not_not]
        have hpending : Function.update w.pending j pending j = pending := Function.update_self ..
        rw [Line.become, hfalls]
        unfold World.become
        split
        · exact ⟨(observes_irqHandler hrange h _ _).ctx, (observes_irqHandler hrange h _ _).entries,
            hpending⟩
        · exact ⟨h.ctx, h.entries, hpending⟩
      · have hpending : Function.update w.pending j pending k = c.pending :=
          (Function.update_of_ne (Ne.symm hj) ..).trans h.pending
        unfold World.become
        split
        · exact ⟨_, .single (.gpio _ _), (observes_irqHandler hrange h _ _).ctx,
            (observes_irqHandler hrange h _ _).entries, hpending⟩
        · exact ⟨c, .refl, h.ctx, h.entries, hpending⟩

/-- From `c` the line of the device has moved on. -/
def Reaches (hw : K → Hw) (hrange : ∀ k, (hw k).pinIrq.toNat < tableLength) (k : K) (p : Ptr)
    (rx : TaskCtx) (c : Line) (w : World K) : Prop :=
  ∃ c', ReflTransGen (Line.Moves (boardOf hw hrange k)) c c' ∧ Observes hw k p rx c' w

variable {hrange : ∀ k, (hw k).pinIrq.toNat < tableLength}

theorem Observes.reaches (h : Observes hw k p rx c w) : Reaches hw hrange k p rx c w :=
  ⟨c, .refl, h⟩

theorem reaches_moves [DecidableEq K] (h : Reaches hw hrange k p rx c w) (hm : w.Moves hw w') :
    Reaches hw hrange k p rx c w' := by
  obtain ⟨c₁, h₁, ho⟩ := h
  obtain ⟨c₂, h₂, ho⟩ := observes_moves hrange ho hm
  exact ⟨c₂, h₁.trans h₂, ho⟩

theorem reaches_ticks [DecidableEq K] (h : Reaches hw hrange k p rx c w)
    (hm : ReflTransGen (World.Moves hw) w w') : Reaches hw hrange k p rx c w' :=
  ticks_preserve (J := Reaches hw hrange k p rx c) (fun _ _ hm h => reaches_moves h hm) hm h

theorem Reaches.flagged {Up : Prop} (h : Reaches hw hrange k p rx c w) (hf : Up → c.Flagged) :
    ∃ c', Observes hw k p rx c' w ∧ (Up → c'.Flagged) := by
  obtain ⟨c', hm, ho⟩ := h
  refine ⟨c', ho, fun hup => ?_⟩
  exact ticks_preserve (J := Line.Flagged) (fun _ _ => flagged_moves) hm (hf hup)

/-- An access to the device's own context. -/
theorem observes_touch {f : DriverCtx → DriverCtx} (h : Observes hw k p rx c w)
    (hrx : ∀ ctx, ctx.rx = rx → (f ctx).rx = rx')
    (hirq : ∀ ctx, ctx.irqPending = c.irqPending → (f ctx).irqPending = c'.irqPending)
    (hpin : ∀ ctx, (f ctx).hw = ctx.hw) (hpending : c'.pending = c.pending) :
    Observes hw k p rx' c' (w.touch p f) := by
  obtain ⟨ctx, hctx, hrx', hirq', hpin'⟩ := h.ctx
  refine ⟨⟨f ctx, ?_, hrx ctx hrx', hirq ctx hirq', by rw [hpin, hpin']⟩, h.entries,
    h.pending.trans hpending.symm⟩
  simp [World.touch, hctx]

/-- An access to another context. -/
theorem observes_touch_other {f : DriverCtx → DriverCtx} (hqp : p ≠ q)
    (h : Observes hw k p rx c w) : Observes hw k p rx c (w.touch q f) := by
  obtain ⟨ctx, hctx, hrest⟩ := h.ctx
  exact ⟨⟨ctx, by simpa [World.touch, Function.update_of_ne hqp] using hctx, hrest⟩, h.entries,
    h.pending⟩

/-- Devices on different pins hold different contexts. -/
theorem Observes.ne {rx' : TaskCtx} {c' : Line} (h : Observes hw k p rx c w)
    (h' : Observes hw j q rx' c' w) (hrange : (hw k).pinIrq.toNat < tableLength)
    (hne : (hw j).pinIrq ≠ (hw k).pinIrq) : p ≠ q := by
  rintro rfl
  have hentry : w.sys.table ⟨_, hrange⟩ = some p := (h.entries _).mpr rfl
  exact hne (UInt8.toNat_inj.mp ((h'.entries _).mp hentry).symm)

theorem Observes.congr (h : Observes hw k p rx c w) (hheap : w'.sys.heap p = w.sys.heap p)
    (htable : ∀ i, w'.sys.table i = some p ↔ w.sys.table i = some p)
    (hpending : w'.pending k = w.pending k) : Observes hw k p rx c w' := by
  obtain ⟨ctx, hctx, hrest⟩ := h.ctx
  exact ⟨⟨ctx, hheap.trans hctx, hrest⟩, fun i => (htable i).trans (h.entries i),
    hpending.trans h.pending⟩

/-- The entry of another pin. -/
theorem Observes.entrySet {entry : Option Ptr} (h : Observes hw k p rx c w)
    (hjk : (hw j).pinIrq ≠ (hw k).pinIrq) (hentry : entry ≠ some p) (i : Fin tableLength) :
    entrySet w.sys.table (hw j).pinIrq entry i = some p ↔ w.sys.table i = some p := by
  unfold Mcp251xfd.entrySet
  split
  · rename_i hi
    have hne : i.val ≠ (hw k).pinIrq.toNat := by
      rw [hi]
      exact fun heq => hjk (UInt8.toNat_inj.mp heq)
    exact ⟨fun heq => (hentry heq).elim, fun heq => (hne ((h.entries i).mp heq)).elim⟩
  · exact Iff.rfl

end Observing

/-! ## Task and set_rx_handler -/

section Serving

variable {K : Type} [DecidableEq K] {hw : K → Hw} {k : K} {p : Ptr}
  {hrange : ∀ k, (hw k).pinIrq.toNat < tableLength} {Fails : Line → Prop} {d d' : Device}
  {rx : TaskCtx} {c c' : Line} {w w' : World K} {J : World K → Prop} {s : Option TaskCtx}

/-- What neither moves of the world nor accesses to the context `p` undo. -/
structure Aloof (hw : K → Hw) (p : Ptr) (J : World K → Prop) : Prop where
  moves : ∀ w w', w.Moves hw w' → J w → J w'
  touch : ∀ w f, (∀ ctx, DriverCtx.hw (f ctx) = ctx.hw) → J w → J (w.touch p f)

/-- The single device's memory and line as the world has them. -/
def Serving (hw : K → Hw) (k : K) (p : Ptr) (d₀ : Device) (J : World K → Prop)
    (s : Option TaskCtx) (c : Line) (d : Device) (w : World K) : Prop :=
  d = d₀ ∧ (∃ rx, s = some rx ∧ Observes hw k p rx c w) ∧ J w

theorem serving_ticks (hJ : Aloof hw p J) (h : Serving hw k p d J s c d w)
    (hm : ReflTransGen (World.Moves hw) w w') :
    ∃ c', ReflTransGen (Line.Moves (boardOf hw hrange k)) c c' ∧ Serving hw k p d J s c' d w' := by
  obtain ⟨-, ⟨rx, rfl, ho⟩, hj⟩ := h
  have hreach : Reaches hw hrange k p rx c w := ho.reaches
  obtain ⟨c', hm', ho'⟩ := reaches_ticks hreach hm
  exact ⟨c', hm', rfl, ⟨rx, rfl, ho'⟩, ticks_preserve hJ.moves hm hj⟩

/-- A context stays one. -/
def KeepsCtx (f : Option TaskCtx → Option TaskCtx) : Prop := ∀ rx, (f (some rx)).isSome = true

theorem serving_simulates (hJ : Aloof hw p J) (hd : d.userDriverData = some p) :
    Simulates ctxImpl (lineEnv (boardOf hw hrange k) Fails) (Line.Moves (boardOf hw hrange k))
      (busyServe hw Fails k) ServeCall.view KeepsCtx (Serving hw k p d J) where
  load := by
    intro s c d w h
    obtain ⟨rfl, -⟩ := id h
    simp only [ctxImpl, onCtx, ensures_bind, ensures_read, hd, ensures_ask, ensures_pure]
    rintro r w' ⟨w₁, hm, hr, rfl⟩
    obtain ⟨c₁, hm₁, -, ⟨rx, rfl, ho⟩, hj⟩ := serving_ticks hJ h hm
    obtain ⟨ctx, hctx, hrx, -⟩ := ho.ctx
    refine ⟨rfl, by rw [hr ctx hctx, hrx], c₁, hm₁, rfl, ⟨rx, rfl, ?_⟩, ?_⟩
    · exact observes_touch ho (fun _ h => h) (fun _ h => h) (fun _ => rfl) rfl
    · exact hJ.touch _ _ (fun _ => rfl) hj
  store := by
    intro f s c d w hf h
    obtain ⟨rfl, -⟩ := id h
    simp only [ctxImpl, onCtx, ensures_bind, ensures_read, hd, ensures_ask]
    rintro r w' ⟨w₁, hm, hr, rfl⟩
    obtain ⟨c₁, hm₁, -, ⟨rx, rfl, ho⟩, hj⟩ := serving_ticks hJ h hm
    obtain ⟨ctx, hctx, hrx, -⟩ := ho.ctx
    obtain rfl : r = rx := (hr ctx hctx).trans hrx
    obtain ⟨rx', hrx'⟩ := Option.isSome_iff_exists.mp (hf r)
    have h₁ : Serving hw k p d J (some r) c₁ d (w₁.touch p id) :=
      ⟨rfl, ⟨r, rfl, observes_touch ho (fun _ h => h) (fun _ h => h) (fun _ => rfl) rfl⟩,
        hJ.touch _ _ (fun _ => rfl) hj⟩
    simp only [hrx', ensures_ask]
    rintro _ w₃ ⟨w₂, hm', rfl⟩
    obtain ⟨c₂, hm₂, -, ⟨rx₂, -, ho₂⟩, hj₂⟩ := serving_ticks hJ h₁ hm'
    refine ⟨rfl, c₂, hm₁.trans hm₂, rfl, ⟨rx', rfl, ?_⟩, ?_⟩
    · exact observes_touch ho₂ (fun _ _ => rx_setRx ..) (fun _ h => h) (fun _ => rfl) rfl
    · exact hJ.touch _ _ (fun _ => rfl) hj₂
  call := by
    intro i s c d w h
    obtain ⟨rfl, -⟩ := id h
    cases i with
    | irqPending =>
        simp only [ctxImpl, onCtx, ensures_bind, ensures_read, hd, ensures_ask]
        rintro r w' ⟨w₁, hm, hr, rfl⟩
        obtain ⟨c₁, hm₁, -, ⟨rx, rfl, ho⟩, hj⟩ := serving_ticks hJ h hm
        obtain ⟨ctx, hctx, -, hirq, -⟩ := ho.ctx
        refine ⟨rfl, c₁, c₁, c₁, hm₁, ⟨(hr ctx hctx).trans hirq, rfl⟩, .refl, rfl,
          ⟨rx, rfl, ?_⟩, ?_⟩
        · exact observes_touch ho (fun _ h => h) (fun _ h => h) (fun _ => rfl) rfl
        · exact hJ.touch _ _ (fun _ => rfl) hj
    | setIrqPending value =>
        simp only [ctxImpl, onCtx, ensures_bind, ensures_read, hd, ensures_ask]
        rintro _ w' ⟨w₁, hm, rfl⟩
        obtain ⟨c₁, hm₁, -, ⟨rx, rfl, ho⟩, hj⟩ := serving_ticks hJ h hm
        refine ⟨rfl, c₁, _, _, hm₁, rfl, .refl, rfl, ⟨rx, rfl, ?_⟩, ?_⟩
        · exact observes_touch ho (fun _ h => h) (fun _ _ => rfl) (fun _ => rfl) rfl
        · exact hJ.touch _ _ (fun _ => rfl) hj
    | getCurrentInterruptEvent =>
        simp only [ctxImpl, ensures_ask]
        rintro a w' ⟨w₁, hm, rfl, ha⟩
        obtain ⟨c₁, hm₁, -, ⟨rx, rfl, ho⟩, hj⟩ := serving_ticks hJ h hm
        rw [ho.line (hrange k)] at ha
        exact ⟨rfl, c₁, c₁, c₁, hm₁, ⟨rfl, ha⟩, .refl, rfl, ⟨rx, rfl, ho⟩, hj⟩
    | _ =>
        simp only [ctxImpl, ensures_ask]
        rintro a w' ⟨w₁, hm, hm'⟩
        obtain ⟨c₁, hm₁, h₁⟩ := serving_ticks hJ h hm
        obtain ⟨c₂, hm₂, h₂⟩ := serving_ticks hJ h₁ hm'
        exact ⟨rfl, c₁, c₂, c₂, hm₁, hm₂, .refl, h₂⟩

theorem readOnly_call (i : Call) : (call i).ReadOnly := fun _ => trivial

theorem readOnly_invokeRxCb : invokeRxCb.ReadOnly := by
  intro ctx
  rcases ctx with - | ⟨- | callback, userReference⟩
  · trivial
  · trivial
  · exact fun _ => trivial

theorem readOnly_service (code : InterruptFlagCode) : (service code).ReadOnly := by
  cases code with
  | errorInterrupt | opmodeChangeOccured =>
      exact Prog.readOnly_bind (readOnly_call _) fun _ => Prog.readOnly_bind (readOnly_call _)
        fun _ => trivial
  | wakeupInterrupt | noInterrupt | other =>
      exact Prog.readOnly_bind (readOnly_call _) fun _ => trivial
  | txqInterrupt =>
      refine Prog.readOnly_bind (readOnly_call _) fun a => ?_
      obtain ⟨err, qst⟩ := a
      dsimp only
      split
      · trivial
      · split
        · exact fun _ => trivial
        · trivial
  | fifo1Interrupt =>
      refine Prog.readOnly_bind (readOnly_call _) fun a => ?_
      obtain ⟨err, st⟩ := a
      dsimp only
      have hclear : (do
          let _ ← call (.clearFifoEvents .fifo1
            [.receiveFifoNotEmpty, .receiveFifoHalfFull, .receiveFifoFull])
          let _ ← call (.clearInterruptEvents .rxEvent)
          return () : Task Unit).ReadOnly :=
        Prog.readOnly_bind (readOnly_call _) fun _ => Prog.readOnly_bind (readOnly_call _)
          fun _ => trivial
      split
      · trivial
      · split
        · exact Prog.readOnly_bind readOnly_invokeRxCb fun _ => hclear
        · exact hclear

theorem readOnly_task (devNull : Bool) : (task devNull).ReadOnly := by
  cases devNull with
  | true => trivial
  | false =>
      intro ctx
      cases ctx with
      | none => trivial
      | some rx =>
          intro pending
          cases pending with
          | false => trivial
          | true =>
              refine fun _ => ⟨fun _ => Prog.readOnly_bind (readOnly_call _) fun a => ?_,
                fun _ => trivial⟩
              obtain ⟨err, code⟩ := a
              dsimp only
              split
              · trivial
              · split
                · trivial
                · exact Prog.readOnly_bind (readOnly_service code) fun _ => trivial

theorem storesOnly_program (o : Op) : (program o).StoresOnly KeepsCtx := by
  cases o with
  | task devNull => exact (readOnly_task devNull).storesOnly
  | setRxHandler devNull callback userReference =>
      cases devNull with
      | true => trivial
      | false =>
          intro s
          cases s with
          | none => trivial
          | some rx => exact ⟨fun _ => rfl, trivial⟩

theorem view_device {i : Call} {r : Answer i} {e : Event ServeCall ServeAnswer}
    (hi : i = .getCurrentInterruptEvent) (h : ServeCall.view e = some ⟨i, r⟩) :
    e = ⟨.device i, r⟩ := by
  subst hi
  obtain ⟨j, r'⟩ := e
  cases j <;> simp_all [ServeCall.view]

/-- `CanTask`'s program on the line of its controller: by the simulation of
`Implement`, from the three accesses and calls one by one. -/
theorem serve_carries (hrange : ∀ k, (hw k).pinIrq.toNat < tableLength) {o : Op}
    {tr : List (Event ServeCall ServeAnswer)} (hJ : Aloof hw p J)
    (hd : d.userDriverData = some p) (ho : Observes hw k p rx c w) (hj : J w)
    (hx : Exec (busyServe hw Fails k) (serveProgram o) d w tr () d' w') :
    ∃ rx' c₁ c', Exec (busyLine (boardOf hw hrange k) Fails) (program o) (some rx) c
        (tr.filterMap ServeCall.view) () (some rx') c₁
      ∧ ReflTransGen (Line.Moves (boardOf hw hrange k)) c₁ c' ∧ d' = d
      ∧ Observes hw k p rx' c' w' ∧ J w' := by
  obtain ⟨s', c₁, c', hexec, hm, hd', ⟨rx', rfl, ho'⟩, hj'⟩ :=
    (serving_simulates hJ hd).exec (storesOnly_program o) hx .refl ⟨rfl, ⟨rx, rfl, ho⟩, hj⟩
  exact ⟨rx', c₁, c', hexec, hm, hd', ho', hj'⟩

/-- Without a context nothing happens. -/
theorem serve_nothing {o : Op} (hd : d.userDriverData = none) :
    Ensures (busyServe hw Fails k) (serveProgram o) (fun tr _ d' w' => tr = [] ∧ d' = d ∧ w' = w)
      d w := by
  have hload : ∀ f : Option TaskCtx → Serve Unit, f none = .ret () →
      Ensures (busyServe hw Fails k) (ctxImpl.load >>= f)
        (fun tr _ d' w' => tr = [] ∧ d' = d ∧ w' = w) d w := by
    intro f hf
    simp only [ctxImpl, onCtx, ensures_bind, ensures_read, hd, ensures_pure, hf]
    exact ensures_pure.mpr ⟨rfl, rfl, rfl⟩
  cases o with
  | task devNull =>
      cases devNull with
      | true => exact ensures_pure.mpr ⟨rfl, rfl, rfl⟩
      | false => exact hload _ rfl
  | setRxHandler devNull callback userReference =>
      cases devNull with
      | true => exact ensures_pure.mpr ⟨rfl, rfl, rfl⟩
      | false => exact hload _ rfl

/-- A callback is called with the reference it was registered with. -/
def CallsBack (rx : TaskCtx) (tr : List (Event Call Answer)) : Prop :=
  ∀ callback userReference r, (⟨.rxCb callback userReference, r⟩ : Event Call Answer) ∈ tr →
    rx = ⟨some callback, userReference⟩

theorem callsBack_append {tr tr' : List (Event Call Answer)} :
    CallsBack rx (tr ++ tr') ↔ CallsBack rx tr ∧ CallsBack rx tr' := by
  simp only [CallsBack, List.mem_append]
  constructor
  · intro h
    exact ⟨fun cb u r hr => h cb u r (.inl hr), fun cb u r hr => h cb u r (.inr hr)⟩
  · rintro h cb u r (hr | hr)
    · exact h.1 cb u r hr
    · exact h.2 cb u r hr

section CallsBack

variable {ε : Type} {E : Env ε Call Answer} {e : ε}

theorem invokeRxCb_callsBack :
    Ensures E invokeRxCb (fun tr _ _ _ => CallsBack rx tr) (some rx) e := by
  rcases rx with ⟨- | callback, userReference⟩
  · simp [invokeRxCb, CallsBack]
  · simp only [invokeRxCb, ensures_bind, ensures_read, ensures_ask, ensures_pure]
    intro _ _ _ cb u r hr
    simp only [List.nil_append, List.append_nil, List.mem_singleton, Event.mk.injEq,
      Call.rxCb.injEq] at hr
    obtain ⟨⟨rfl, rfl⟩, -⟩ := hr
    rfl

theorem service_callsBack (code : InterruptFlagCode) :
    Ensures E (service code) (fun tr _ _ _ => CallsBack rx tr) (some rx) e := by
  cases code with
  | fifo1Interrupt =>
      have hclear : ∀ s e, Ensures E (do
          let _ ← call (.clearFifoEvents .fifo1
            [.receiveFifoNotEmpty, .receiveFifoHalfFull, .receiveFifoFull])
          let _ ← call (.clearInterruptEvents .rxEvent)
          return () : Task Unit) (fun tr _ _ _ => CallsBack rx tr) s e := by
        simp [ensures_bind, CallsBack]
      rw [service, serviceFifo1, ensures_bind, ensures_ask]
      rintro ⟨err, st⟩ e₁ _
      have hstatus : CallsBack rx [⟨.getFifoStatus .fifo1, (err, st)⟩] := by simp [CallsBack]
      dsimp only
      split
      · exact ensures_pure.mpr (callsBack_append.mpr ⟨hstatus, by simp [CallsBack]⟩)
      · split
        · rw [ensures_bind]
          refine invokeRxCb_callsBack.mono fun tr _ s' e' htr => ?_
          refine (hclear s' e').mono fun tr' _ _ _ htr' => ?_
          exact callsBack_append.mpr ⟨hstatus, callsBack_append.mpr ⟨htr, htr'⟩⟩
        · exact (hclear _ _).mono fun tr _ _ _ htr => callsBack_append.mpr ⟨hstatus, htr⟩
  | txqInterrupt =>
      simp [service, serviceTxq, CallsBack, ensures_ite]
  | errorInterrupt | wakeupInterrupt | opmodeChangeOccured | noInterrupt | other =>
      simp [service, serviceError, serviceWakeup, serviceOpmodeChange, serviceDefault, CallsBack]

theorem task_callsBack (devNull : Bool) :
    Ensures E (task devNull) (fun tr _ _ _ => CallsBack rx tr) (some rx) e := by
  have hloop : ∀ e, Ensures E (Prog.iter serviceLoop ()) (fun tr _ _ _ => CallsBack rx tr)
      (some rx) e := by
    intro e
    refine ensures_iter (fun _ tr s _ => s = some rx ∧ CallsBack rx tr) ?_
      ⟨rfl, by simp [CallsBack]⟩
    intro _ tr s e h
    obtain ⟨rfl, htr⟩ := h
    rw [serviceLoop, ensures_bind, ensures_ask]
    rintro ⟨err, code⟩ e₁ _
    have hquery : CallsBack rx (tr ++ [⟨.getCurrentInterruptEvent, (err, code)⟩]) :=
      callsBack_append.mpr ⟨htr, by simp [CallsBack]⟩
    dsimp only
    split
    · exact ensures_pure.mpr ⟨by simp, fun _ _ => by simpa using hquery⟩
    · split
      · exact ensures_pure.mpr ⟨by simp, fun _ _ => by simpa using hquery⟩
      · rw [ensures_bind]
        intro tr' _ s' e' hx
        have hs' := (readOnly_service code).exec hx
        have htr' := service_callsBack code _ _ _ _ hx
        refine ensures_pure.mpr ⟨fun _ _ => ⟨hs', ?_⟩, by simp⟩
        simpa using callsBack_append.mpr ⟨hquery, htr'⟩
  rw [task, ensures_ite]
  refine ⟨fun _ => by simp [CallsBack], fun _ => ?_⟩
  simp only [ensures_bind, ensures_read, Option.isNone_some, Bool.false_eq_true, if_false,
    ensures_ask]
  intro pending e₁ _
  split
  · simp [CallsBack]
  · simp only [ensures_bind, ensures_ask]
    intro _ e₂ _
    refine (hloop e₂).mono fun tr _ _ _ htr => ?_
    have hflag : CallsBack rx [⟨.irqPending, pending⟩, ⟨.setIrqPending false, ()⟩] := by
      simp [CallsBack]
    have hall := callsBack_append.mpr ⟨hflag, htr⟩
    exact hall

theorem program_registers (o : Op) (tr₀ : List (Event ServeCall ServeAnswer)) :
    Ensures E (program o) (fun tr _ s' _ =>
      s' = some (DriverLabel.registers rx (.serve o tr₀)) ∧ CallsBack rx tr) (some rx) e := by
  cases o with
  | task devNull =>
      intro tr _ s' e' hx
      exact ⟨(readOnly_task devNull).exec hx, task_callsBack devNull _ _ _ _ hx⟩
  | setRxHandler devNull callback userReference =>
      cases devNull <;> simp [program, setRxHandler, DriverLabel.registers, CallsBack]

end CallsBack

end Serving

/-! ## init and deinit -/

section Setup

variable {K : Type} {hw : K → Hw} {k j : K} {p q : Ptr}
  {hrange : ∀ k, (hw k).pinIrq.toNat < tableLength} {X : Errors} {config : Config}
  {attachInterrupt : Bool} {d : Device} {rx : TaskCtx} {c : Line} {w w' : World K}
  {ctx : DriverCtx}

/-- The context is not in the table. -/
structure Unlisted (p : Ptr) (ctx : DriverCtx) (w : World K) : Prop where
  heap : w.sys.heap p = some ctx
  table : ∀ i, w.sys.table i ≠ some p

theorem irqHandler_unlisted (gpio : Nat) (events : UInt32) (irqPending : Bool) :
    irqHandler (fun _ => false) gpio events irqPending = irqPending := by
  simp [irqHandler]

theorem unlisted_irqHandler (h : Unlisted p ctx w) (gpio : Nat) (events : UInt32) :
    Unlisted p ctx { w with sys := w.sys.irqHandler gpio events } := by
  refine ⟨?_, fun i => by rw [table_irqHandler]; exact h.table i⟩
  have hnone : (fun i => w.sys.table i == some p) = fun _ => false := by
    funext i
    simpa using h.table i
  rw [heap_irqHandler h.heap, hnone, irqHandler_unlisted]

/-- Every entry of the table is allocated. -/
def Listed (w : World K) : Prop := ∀ i q, w.sys.table i = some q → w.sys.heap q ≠ none

theorem listed_irqHandler (h : Listed w) (gpio : Nat) (events : UInt32) :
    Listed { w with sys := w.sys.irqHandler gpio events } := by
  intro i q hq
  rw [table_irqHandler] at hq
  obtain ⟨ctx, hctx⟩ := Option.ne_none_iff_exists'.mp (h i q hq)
  rw [heap_irqHandler hctx]
  exact Option.some_ne_none _

variable [DecidableEq K]

theorem unlisted_moves (h : Unlisted p ctx w) (hm : w.Moves hw w') : Unlisted p ctx w' := by
  cases hm with
  | gpio gpio events => exact unlisted_irqHandler h gpio events
  | bus j pending =>
      unfold World.become
      split
      · exact ⟨(unlisted_irqHandler h _ _).heap, (unlisted_irqHandler h _ _).table⟩
      · exact ⟨h.heap, h.table⟩

theorem listed_moves (h : Listed w) (hm : w.Moves hw w') : Listed w' := by
  cases hm with
  | gpio gpio events => exact listed_irqHandler h gpio events
  | bus j pending =>
      unfold World.become
      split
      · exact listed_irqHandler h _ _
      · exact h

theorem unlisted_ticks (h : Unlisted p ctx w) (hm : ReflTransGen (World.Moves hw) w w') :
    Unlisted p ctx w' :=
  ticks_preserve (J := Unlisted p ctx) (fun _ _ hm h => unlisted_moves h hm) hm h

/-- A call that reaches neither the table nor a context. -/
theorem setupEnv_outside {i : InitCall} {r : InitAnswer i} (hi : i.Outside)
    (hx : setupEnv j w i r w') : w'.sys = w.sys
      ∧ (w'.pending = w.pending ∨ w'.pending = Function.update w.pending j []) := by
  cases i with
  | malloc | writeCtx | readPinIrq | free | writeTable => exact hi.elim
  | initMcp251xfd =>
      obtain ⟨hsys, hpending | ⟨-, hpending⟩⟩ := hx
      · exact ⟨hsys, .inr hpending⟩
      · exact ⟨hsys, .inl hpending⟩
  | _ =>
      obtain ⟨hsys, hpending⟩ := hx
      exact ⟨hsys, .inl hpending⟩

theorem reaches_outside {i : InitCall} {r : InitAnswer i} (hi : i.Outside)
    (h : Reaches hw hrange k q rx c w) (hx : busySetup hw j w i r w') :
    Reaches hw hrange k q rx c w' := by
  obtain ⟨w₁, hm, hx⟩ := hx
  obtain ⟨c₁, hm₁, ho⟩ := reaches_ticks h hm
  obtain ⟨hsys, hpending | hpending⟩ := setupEnv_outside hi hx
  · exact ⟨c₁, hm₁, ho.congr (by rw [hsys]) (by simp [hsys]) (by rw [hpending])⟩
  · obtain ⟨c₂, hm₂, ho₂⟩ := observes_moves hrange ho (.bus j [])
    refine ⟨c₂, hm₁.trans hm₂, ho₂.congr ?_ ?_ ?_⟩
    · simp [World.become, hsys]
    · simp [World.become, hsys]
    · rw [hpending]
      rfl

theorem outside_reaches {α : Type} {m : Init α} (hm : m.CallsOnly InitCall.Outside)
    (h : Reaches hw hrange k q rx c w) :
    Ensures (busySetup hw j) m (fun _ _ _ w' => Reaches hw hrange k q rx c w') d w :=
  hm.keeps (fun _ _ _ _ hi hj hx => reaches_outside hi hj hx) h

/-- When the library's init succeeds INT is high, and what follows only moves
it from there. So line and flag agree when `init` returns. -/
theorem configure_observes (hrange : ∀ k, (hw k).pinIrq.toNat < tableLength)
    (h : Observes hw k p rx c w) :
    Ensures (busySetup hw k) (configure X config) (fun _ r _ w' =>
      ∃ c', Observes hw k p rx c' w' ∧ (r = errOk → c'.Flagged)) d w := by
  have houtside : (configure X config).CallsOnly InitCall.Outside := outside_configure
  rw [configure, ensures_bind, ensures_ask]
  intro _ w₁ hx₁
  have h₁ : Reaches hw hrange k p rx c w₁ :=
    reaches_outside (i := .sleepMs 3) trivial h.reaches hx₁
  rw [ensures_bind, ensures_ask]
  intro result w₂ hx₂
  obtain ⟨c₂, -, h₂⟩ : Reaches hw hrange k p rx c w₂ :=
    reaches_outside (i := .initMcp251xfd _) trivial h₁ hx₂
  split
  · exact ensures_pure.mpr ⟨c₂, h₂, fun herr => (X.frequencyError_ne herr).elim⟩
  · split
    · rename_i herr
      exact ensures_pure.mpr ⟨c₂, h₂, fun hok => (herr hok).elim⟩
    · rename_i hfrequency hok
      have hquiet : c₂.Flagged := by
        obtain ⟨w₁', -, -, hpending | ⟨herr, -⟩⟩ := hx₂
        · have hnil : c₂.pending = [] := by
            rw [← h₂.pending, hpending, Function.update_self]
          intro ha
          rw [Line.asserted, hnil] at ha
          cases ha
        · exact (hok herr).elim
      have hrest : Prog.CallsOnly InitCall.Outside
          (if result = X.frequencyError then _ else if result ≠ errOk then _ else _) :=
        (houtside.2 ()).2 result
      rw [if_neg hfrequency, if_neg hok] at hrest
      intro tr r d' w' hx
      have hreach : Reaches hw hrange k p rx c₂ w' := outside_reaches hrest h₂.reaches _ _ _ _ hx
      exact hreach.flagged fun _ => hquiet

theorem outside_unlisted {α : Type} {m : Init α} (hm : m.CallsOnly InitCall.Outside)
    (h : Unlisted p ctx w) :
    Ensures (busySetup hw j) m (fun _ _ _ w' => Unlisted p ctx w') d w := by
  refine hm.keeps (J := Unlisted p ctx) (fun w i r w' hi h hx => ?_) h
  obtain ⟨w₁, hticks, hx⟩ := hx
  have h₁ := unlisted_ticks h hticks
  obtain ⟨hsys, -⟩ := setupEnv_outside hi hx
  exact ⟨by rw [hsys]; exact h₁.heap, by rw [hsys]; exact h₁.table⟩

/-- A device that `init` gave a context is observed from then on, and if
`init` succeeds its flag is in order. -/
theorem init_observes (hrange : ∀ k, (hw k).pinIrq.toNat < tableLength) (hlisted : Listed w) :
    Ensures (busySetup hw k) (init X (hw k) config attachInterrupt) (fun _ r d' w' =>
      d'.userDriverData = none ∧ r ≠ errOk
        ∨ ∃ p c, d'.userDriverData = some p ∧ Observes hw k p ⟨none, 0⟩ c w'
          ∧ (r = errOk → c.Flagged)) d w := by
  simp only [init, ensures_bind, ensures_modify, ensures_ask]
  rintro r w' ⟨w₁, hm, hmalloc, hpending⟩
  have hlisted₁ : Listed w₁ :=
    ticks_preserve (J := Listed) (fun _ _ hm h => listed_moves h hm) hm hlisted
  rcases hmalloc with ⟨rfl, -⟩ | ⟨p, rubbish, rfl, hfree, hsys⟩
  · exact ensures_pure.mpr (.inl ⟨rfl, X.outOfMemory_ne⟩)
  · have h₁ : Unlisted p rubbish w' := by
      refine ⟨by simp [hsys], fun i hi => ?_⟩
      rw [hsys] at hi
      exact hlisted₁ i p hi hfree
    simp only [ensures_bind, ensures_modify, ensures_ask]
    rintro _ w₃ ⟨w₂, hm₂, hwrite, -⟩
    have h₂ := unlisted_ticks h₁ hm₂
    have hlive : w₂.sys.isLive p = true := by simp [System.isLive, h₂.heap]
    have h₃ : Unlisted p ⟨hw k, config, false, none, none⟩ w₃ := by
      have hsys : w₃.sys = _ := hwrite
      rw [if_pos hlive] at hsys
      exact ⟨by rw [hsys]; exact Function.update_self .., fun i => by rw [hsys]; exact h₂.table i⟩
    intro _ _ d₄ w₄ hx₄
    obtain rfl := Prog.ReadOnly.exec hx₄ readOnly_setupIrq
    have h₄ := outside_unlisted outside_setupIrq h₃ _ _ _ _ hx₄
    rw [if_neg (Nat.not_le.mpr (hrange k))]
    simp only [ensures_bind, ensures_modify, ensures_ask]
    rintro _ w₆ ⟨w₅, hm₅, hwrite, hpending⟩
    have h₅ := unlisted_ticks h₄ hm₅
    have h₆ : Observes hw k p ⟨none, 0⟩ ⟨false, w₆.pending k⟩ w₆ := by
      have hsys : w₆.sys = _ := hwrite
      refine ⟨⟨_, by rw [hsys]; exact h₅.heap, rfl, rfl, rfl⟩, fun i => ?_, rfl⟩
      rw [hsys]
      show entrySet w₅.sys.table (hw k).pinIrq (some p) i = some p ↔ _
      unfold entrySet
      split
      · rename_i hi
        simp [hi]
      · rename_i hi
        simp [hi, h₅.table i]
    intro _ r d₇ w₇ hx₇
    obtain rfl := Prog.ReadOnly.exec hx₇ readOnly_configure
    obtain ⟨c', h₇, hflagged⟩ := configure_observes hrange h₆ _ _ _ _ hx₇
    exact .inr ⟨p, c', rfl, h₇, hflagged⟩

/-- What a call finds of the device. -/
theorem reaches_before {i : InitCall} {r : InitAnswer i} (h : Reaches hw hrange k q rx c w)
    (hx : busySetup hw j w i r w') :
    ∃ c₁ w₁, ReflTransGen (Line.Moves (boardOf hw hrange k)) c c₁ ∧ Observes hw k q rx c₁ w₁
      ∧ setupEnv j w₁ i r w' := by
  obtain ⟨w₁, hm, hx⟩ := hx
  obtain ⟨c₁, hm₁, ho⟩ := reaches_ticks h hm
  exact ⟨c₁, w₁, hm₁, ho, hx⟩

/-- `init` leaves a device on another pin alone. -/
theorem init_elsewhere (hjk : (hw j).pinIrq ≠ (hw k).pinIrq) (h : Reaches hw hrange k q rx c w) :
    Ensures (busySetup hw j) (init X (hw j) config attachInterrupt)
      (fun _ _ _ w' => Reaches hw hrange k q rx c w') d w := by
  simp only [init, ensures_bind, ensures_modify, ensures_ask]
  intro r w₁ hx₁
  obtain ⟨c₀, w₀, hm₀, h₀, hmalloc, hpending⟩ := reaches_before h hx₁
  rcases hmalloc with ⟨rfl, hsys⟩ | ⟨p, rubbish, rfl, hfree, hsys⟩
  · exact ensures_pure.mpr ⟨c₀, hm₀, h₀.congr (by rw [hsys]) (by simp [hsys]) (by rw [hpending])⟩
  · have hqp : q ≠ p := by
      rintro rfl
      obtain ⟨ctx, hctx, -⟩ := h₀.ctx
      rw [hfree] at hctx
      cases hctx
    have h₁ : Reaches hw hrange k q rx c w₁ := ⟨c₀, hm₀, h₀.congr
      (by rw [hsys]; exact Function.update_of_ne hqp ..) (by simp [hsys]) (by rw [hpending])⟩
    simp only [ensures_bind, ensures_modify, ensures_ask]
    intro _ w₃ hx₃
    obtain ⟨c₂, w₂, hm₂, h₂, hwrite, hpending₂⟩ := reaches_before h₁ hx₃
    have hsys₂ : w₃.sys = _ := hwrite
    have h₃ : Reaches hw hrange k q rx c w₃ := by
      refine ⟨c₂, hm₂, h₂.congr ?_ (by simp [hsys₂]) (by rw [hpending₂])⟩
      rw [hsys₂]
      dsimp only
      split
      · exact Function.update_of_ne hqp ..
      · rfl
    intro _ _ d₄ w₄ hx₄
    have h₄ : Reaches hw hrange k q rx c w₄ := outside_reaches outside_setupIrq h₃ _ _ _ _ hx₄
    rw [if_neg (Nat.not_le.mpr (hrange j))]
    simp only [ensures_bind, ensures_modify, ensures_ask]
    intro _ w₆ hx₆
    obtain ⟨c₅, w₅, hm₅, h₅, hentry, hpending₅⟩ := reaches_before h₄ hx₆
    have hsys₅ : w₆.sys = _ := hentry
    have hctx : (some p : Option Ptr) ≠ some q := fun heq => hqp (Option.some.inj heq).symm
    have h₆ : Reaches hw hrange k q rx c w₆ := ⟨c₅, hm₅, h₅.congr (by rw [hsys₅])
      (fun i => by rw [hsys₅]; exact h₅.entrySet hjk hctx i) (by rw [hpending₅])⟩
    exact outside_reaches outside_configure h₆

theorem reaches_readPinIrq {pin : UInt8} (h : Reaches hw hrange k q rx c w)
    (hx : busySetup hw j w (.readPinIrq p) pin w') :
    Reaches hw hrange k q rx c w' ∧ (q = p → pin = (hw k).pinIrq) := by
  obtain ⟨c₁, w₁, hm₁, ho, ⟨hpin, hsys⟩, hpending⟩ := reaches_before h hx
  refine ⟨⟨c₁, hm₁, ho.congr (by simp [hsys, System.note]) (by simp [hsys, System.note])
    (by rw [hpending])⟩, ?_⟩
  rintro rfl
  obtain ⟨ctx, hctx, -, -, heq⟩ := ho.ctx
  exact (hpin ctx hctx).trans heq

/-- And so does `deinit`. -/
theorem deinit_elsewhere {devNull : Bool} (hjk : (hw j).pinIrq ≠ (hw k).pinIrq)
    (hown : ∀ p, d.userDriverData = some p → ∃ rx c, Observes hw j p rx c w)
    (h : Reaches hw hrange k q rx c w) :
    Ensures (busySetup hw j) (deinit devNull) (fun _ _ _ w' => Reaches hw hrange k q rx c w')
      d w := by
  rw [deinit, ensures_ite]
  refine ⟨fun _ => ensures_pure.mpr h, fun _ => ?_⟩
  rw [ensures_bind, ensures_read]
  cases hd : d.userDriverData with
  | none => exact ensures_pure.mpr h
  | some p =>
      obtain ⟨rx', c', ho⟩ := hown p hd
      have hqp : q ≠ p := by
        obtain ⟨_, -, h⟩ := h
        exact h.ne ho (hrange k) hjk
      have hown : Reaches hw hrange j p rx' c' w := ho.reaches
      simp only [ensures_bind, ensures_ask, ensures_modify]
      intro pin₁ w₁ hx₁
      have h₁ := (reaches_readPinIrq h hx₁).1
      have hown₁ := (reaches_readPinIrq hown hx₁).1
      intro _ w₂ hx₂
      have h₂ := reaches_outside (i := .gpioSetIrqEnabled ..) trivial h₁ hx₂
      have hown₂ := reaches_outside (i := .gpioSetIrqEnabled ..) trivial hown₁ hx₂
      intro pin₃ w₃ hx₃
      have h₃ := (reaches_readPinIrq h₂ hx₃).1
      obtain rfl := (reaches_readPinIrq hown₂ hx₃).2 rfl
      intro _ w₅ hx₅
      obtain ⟨c₄, w₄, hm₄, h₄, hentry, hpending₄⟩ := reaches_before h₃ hx₅
      have hsys₄ : w₅.sys = _ := hentry
      have h₅ : Reaches hw hrange k q rx c w₅ := ⟨c₄, hm₄, h₄.congr (by rw [hsys₄])
        (fun i => by rw [hsys₄]; exact h₄.entrySet hjk (Option.some_ne_none q).symm i)
        (by rw [hpending₄])⟩
      intro _ w₇ hx₇
      obtain ⟨c₆, w₆, hm₆, h₆, hfree, hpending₆⟩ := reaches_before h₅ hx₇
      have hsys₆ : w₇.sys = _ := hfree
      exact ⟨c₆, hm₆, h₆.congr (by rw [hsys₆]; exact Function.update_of_ne hqp ..)
        (by simp [hsys₆]) (by rw [hpending₆])⟩

end Setup

/-! ## Runs -/

section Runs

variable {K : Type} {X : Errors} {hw : K → Hw} {Fails : Line → Prop} {k j : K} {p q : Ptr}
  {hrange : ∀ k, (hw k).pinIrq.toNat < tableLength} {T : Fin tableLength → Option Ptr}
  {H : Ptr → Option UInt8} {d d' : Device} {m : K → Device} {w w' : World K} {rx : TaskCtx}
  {up : Bool} {c : Line} {J : World K → Prop}

/-- A device is observed with `rx`, and if it is up its flag is in order. -/
def Watched (hw : K → Hw) (k : K) (p : Ptr) (rx : TaskCtx) (up : Bool) (w : World K) : Prop :=
  ∃ c, Observes hw k p rx c w ∧ (up = true → c.Flagged)

theorem watched_touch_other {f : DriverCtx → DriverCtx} (hpq : p ≠ q)
    (h : Watched hw k p rx up w) : Watched hw k p rx up (w.touch q f) := by
  obtain ⟨c, ho, hf⟩ := h
  exact ⟨c, observes_touch_other hpq ho, hf⟩

theorem at_touch {f : DriverCtx → DriverCtx} {pin : UInt8} (hf : ∀ ctx, (f ctx).hw = ctx.hw)
    (hp : H p = some pin) (h : w.sys.At T H) : (w.touch p f).sys.At T H := by
  have hlive := At.live h hp
  refine ⟨h.table, ?_, clean_append h.clean (by simpa [Access.Ok] using hlive)⟩
  show System.pinOf { w.sys with
    heap := Function.update w.sys.heap p ((w.sys.heap p).map f) } = H
  rw [pinOf_update, ← h.pins]
  refine Function.update_eq_self_iff.mpr ?_
  cases hctx : w.sys.heap p <;> simp [System.pinOf, hctx, hf]

theorem program_flagged {b : Board} {s : Option TaskCtx} (hF : Forgiving Fails) (o : Op)
    (hf : c.Flagged) :
    Ensures (busyLine b Fails) (program o) (fun _ _ _ c' => c'.Flagged) s c := by
  cases o with
  | task devNull => exact task_flagged hF hf
  | setRxHandler devNull callback userReference => exact setRxHandler_flagged hf

/-- What holds of one device. -/
structure Fit (hw : K → Hw) (k : K) (rx : TaskCtx) (up : Bool) (d : Device) (w : World K) :
    Prop where
  watched : ∀ p, d.userDriverData = some p → Watched hw k p rx up w
  holds : up = true → d.userDriverData ≠ none

/-- The invariant: table and contexts are as `CanTable` says, and every device
fits what was last registered for it and whether it is up. -/
structure Works (hw : K → Hw) (rx : K → TaskCtx) (up : K → Bool) (w : (K → Device) × World K) :
    Prop where
  inv : Inv hw (w.1, w.2.sys)
  fit : ∀ k, Fit hw k (rx k) (up k) (w.1 k) w.2

theorem Works.listed {rx : K → TaskCtx} {up : K → Bool} (h : Works hw rx up (m, w)) :
    Listed w := by
  intro i q hq
  obtain ⟨k, ctx, hctx, -⟩ := h.inv.owned i q hq
  rw [show w.sys.heap q = some ctx from hctx]
  exact Option.some_ne_none _

theorem Works.ne {rx : K → TaskCtx} {up : K → Bool}
    (hpins : ∀ j k, (hw j).pinIrq = (hw k).pinIrq → j = k) (h : Works hw rx up (m, w))
    (hjk : j ≠ k) (hp : (m j).userDriverData = some p) (hq : (m k).userDriverData = some q) :
    p ≠ q := by
  rintro rfl
  have heq := (h.inv.held j p hp).symm.trans (h.inv.held k p hq)
  exact hjk (hpins _ _ (Option.some.inj heq))

variable [DecidableEq K]

theorem moves_sys (h : w.Moves hw w') : ReflTransGen Interrupt w.sys w'.sys := by
  cases h with
  | gpio gpio events => exact .single ⟨gpio, events, rfl⟩
  | bus j pending =>
      unfold World.become
      split
      · exact .single ⟨(hw j).pinIrq.toNat, gpioIrqEdgeFall, rfl⟩
      · exact .refl

theorem ticks_sys (h : ReflTransGen (World.Moves hw) w w') :
    ReflTransGen Interrupt w.sys w'.sys :=
  ticks_preserve (J := fun w' => ReflTransGen Interrupt w.sys w'.sys)
    (fun _ _ hm h => h.trans (moves_sys hm)) h .refl

theorem setupEnv_sys {i : InitCall} {r : InitAnswer i} (h : setupEnv k w i r w') :
    systemEnv w.sys i r w'.sys := by
  cases i with
  | initMcp251xfd => exact h.1
  | _ => exact h.1

/-- `init` and `deinit` seen from the table and the contexts. -/
theorem setup_sys {o : DeviceOp} {tr : List (Event InitCall InitAnswer)} {r : o.Ret}
    (h : Exec (busySetup hw k) (deviceProgram X (hw k) o) d w tr r d' w') :
    Exec busySystem (deviceProgram X (hw k) o) d w.sys tr r d' w'.sys := by
  refine h.view World.sys fun w i r w' hx => ?_
  obtain ⟨w₁, hm, hx⟩ := hx
  exact ⟨w₁.sys, ticks_sys hm, setupEnv_sys hx⟩

theorem watched_moves (hrange : ∀ k, (hw k).pinIrq.toNat < tableLength)
    (h : Watched hw k p rx up w) (hm : w.Moves hw w') : Watched hw k p rx up w' := by
  obtain ⟨c, ho, hf⟩ := h
  have hreach : Reaches hw hrange k p rx c w' := reaches_moves ho.reaches hm
  exact hreach.flagged hf

/-- What the operations of a device leave of it. -/
theorem serve_watched (hrange : ∀ k, (hw k).pinIrq.toNat < tableLength) (hF : Forgiving Fails)
    {o : Op} {tr : List (Event ServeCall ServeAnswer)} (hJ : Aloof hw p J)
    (hd : d.userDriverData = some p) (h : Watched hw k p rx up w) (hj : J w)
    (hx : Exec (busyServe hw Fails k) (serveProgram o) d w tr () d' w') :
    d' = d ∧ Watched hw k p ((DriverLabel.serve o tr).registers rx) up w' ∧ J w' := by
  obtain ⟨c, ho, hf⟩ := h
  obtain ⟨rx', c₁, c', hexec, hm, hd', ho', hj'⟩ :=
    serve_carries hrange hJ hd ho hj hx
  obtain ⟨hrx, -⟩ := program_registers o tr _ _ _ _ hexec
  obtain rfl := Option.some.inj hrx
  have hreach : Reaches hw hrange k p _ c₁ w' := ⟨c', hm, ho'⟩
  exact ⟨hd', hreach.flagged fun hup => program_flagged hF o (hf hup) _ _ _ _ hexec, hj'⟩

/-- A task call on a flagged line gets to the controller. -/
theorem serve_queries (hrange : ∀ k, (hw k).pinIrq.toNat < tableLength)
    {tr : List (Event ServeCall ServeAnswer)} (hd : d.userDriverData = some p)
    (h : Watched hw k p rx true w) (ha : (w.line hw k).asserted = true)
    (hx : Exec (busyServe hw Fails k) (serveProgram (.task false)) d w tr () d' w') :
    ∃ a, (⟨.device .getCurrentInterruptEvent, a⟩ : Event ServeCall ServeAnswer) ∈ tr := by
  obtain ⟨c, ho, hf⟩ := h
  rw [ho.line (hrange k)] at ha
  have hnothing : Aloof hw p fun _ : World K => True :=
    ⟨fun _ _ _ _ => trivial, fun _ _ _ _ => trivial⟩
  obtain ⟨rx', c₁, c', hexec, -⟩ := serve_carries hrange hnothing hd ho trivial hx
  obtain ⟨a, hquery⟩ := task_queries (hf rfl ha) _ _ _ _ hexec
  obtain ⟨e, he, hview⟩ := List.mem_filterMap.mp hquery
  exact ⟨a, view_device rfl hview ▸ he⟩

theorem serve_called (hrange : ∀ k, (hw k).pinIrq.toNat < tableLength) {o : Op}
    {tr : List (Event ServeCall ServeAnswer)} (hd : d.userDriverData = some p)
    (h : Watched hw k p rx up w)
    (hx : Exec (busyServe hw Fails k) (serveProgram o) d w tr () d' w')
    {callback : RxCb} {userReference : UserReference} {r : Unit}
    (hr : (⟨.device (.rxCb callback userReference), r⟩ : Event ServeCall ServeAnswer) ∈ tr) :
    rx = ⟨some callback, userReference⟩ := by
  obtain ⟨c, ho, -⟩ := h
  have hnothing : Aloof hw p fun _ : World K => True :=
    ⟨fun _ _ _ _ => trivial, fun _ _ _ _ => trivial⟩
  obtain ⟨rx', c₁, c', hexec, -⟩ := serve_carries hrange hnothing hd ho trivial hx
  obtain ⟨-, hcalls⟩ := program_registers o tr _ _ _ _ hexec
  exact hcalls callback userReference r (List.mem_filterMap.mpr ⟨_, hr, rfl⟩)

theorem works_tick {rx : K → TaskCtx} {up : K → Bool}
    (hrange : ∀ k, (hw k).pinIrq.toNat < tableLength) (k : K) (hm : w.Moves hw w')
    (h : Works hw rx up (m, w)) : Works hw rx up (m, w') where
  inv := inv_kept h.inv (fun j (_ : j ≠ k) => rfl) rfl
    (at_interrupts h.inv.sound (moves_sys hm) h.inv.at)
  fit k := ⟨fun p hp => watched_moves hrange ((h.fit k).watched p hp) hm, (h.fit k).holds⟩

/-- The task and `set_rx_handler` of one device. -/
theorem works_serve {rx : K → TaskCtx} {up : K → Bool}
    (hpins : ∀ j k, (hw j).pinIrq = (hw k).pinIrq → j = k)
    (hrange : ∀ k, (hw k).pinIrq.toNat < tableLength) (hF : Forgiving Fails) {o : Op}
    {tr : List (Event ServeCall ServeAnswer)} (h : Works hw rx up (m, w))
    (hx : Exec (busyServe hw Fails k) (serveProgram o) (m k) w tr () d' w') :
    d' = m k ∧ Works hw
      (fun j => if k = j then (DriverLabel.serve o tr).registers (rx j) else rx j) up (m, w') := by
  cases hd : (m k).userDriverData with
  | none =>
      obtain ⟨-, hd', rfl⟩ := serve_nothing hd _ _ _ _ hx
      refine ⟨hd', h.inv, fun j => ⟨fun p hp => ?_, (h.fit j).holds⟩⟩
      have hkj : k ≠ j := by
        rintro rfl
        rw [show (m k).userDriverData = some p from hp] at hd
        cases hd
      rw [if_neg hkj]
      exact (h.fit j).watched p hp
  | some p =>
      have hpin := h.inv.held k p hd
      have haloof : Aloof hw p fun w' => w'.sys.At w.sys.table w.sys.pinOf
          ∧ ∀ j q, j ≠ k → (m j).userDriverData = some q → Watched hw j q (rx j) (up j) w' := by
        constructor
        · rintro w₁ w₂ hm ⟨hat, hothers⟩
          exact ⟨at_interrupts h.inv.sound (moves_sys hm) hat,
            fun j q hj hq => watched_moves hrange (hothers j q hj hq) hm⟩
        · rintro w₁ f hf ⟨hat, hothers⟩
          exact ⟨at_touch hf hpin hat, fun j q hj hq =>
            watched_touch_other (h.ne hpins hj hq hd) (hothers j q hj hq)⟩
      obtain ⟨hd', hown, hat, hothers⟩ := serve_watched hrange hF haloof hd
        ((h.fit k).watched p hd) ⟨h.inv.at, fun j q _ hq => (h.fit j).watched q hq⟩ hx
      refine ⟨hd', inv_kept h.inv (fun j (_ : j ≠ k) => rfl) rfl hat,
        fun j => ⟨fun q hq => ?_, (h.fit j).holds⟩⟩
      by_cases hkj : k = j
      · subst hkj
        obtain rfl := Option.some.inj (hd.symm.trans hq)
        rw [if_pos rfl]
        exact hown
      · rw [if_neg hkj]
        exact hothers j q (Ne.symm hkj) hq

/-- `init` and `deinit` of another device leave this one observed, and its
flag in order. -/
theorem setup_elsewhere (hrange : ∀ k, (hw k).pinIrq.toNat < tableLength) {o : DeviceOp}
    {tr : List (Event InitCall InitAnswer)} {r : o.Ret} (hjk : (hw j).pinIrq ≠ (hw k).pinIrq)
    (hown : ∀ p, d.userDriverData = some p → ∃ rx c, Observes hw j p rx c w)
    (h : Watched hw k q rx up w)
    (hx : Exec (busySetup hw j) (deviceProgram X (hw j) o) d w tr r d' w') :
    Watched hw k q rx up w' := by
  obtain ⟨c, ho, hf⟩ := h
  have hreach : Reaches hw hrange k q rx c w := ho.reaches
  cases o with
  | init config attachInterrupt => exact (init_elsewhere hjk hreach _ _ _ _ hx).flagged hf
  | deinit devNull => exact (deinit_elsewhere hjk hown hreach _ _ _ _ hx).flagged hf

/-- `init` and `deinit` of the device itself. -/
theorem setup_own (hrange : ∀ k, (hw k).pinIrq.toNat < tableLength) {o : DeviceOp}
    {tr : List (Event InitCall InitAnswer)} {r : o.Ret} (hlisted : Listed w)
    (hs : Sound w.sys.table w.sys.pinOf) (hat : w.sys.At w.sys.table w.sys.pinOf)
    (hheld : ∀ p, d.userDriverData = some p → w.sys.pinOf p = some (hw k).pinIrq)
    (h : Fit hw k rx up d w)
    (hx : Exec (busySetup hw k) (deviceProgram X (hw k) o) d w tr r d' w') :
    Fit hw k ((DriverLabel.setup o tr r).registers rx) ((DriverLabel.setup o tr r).brings up)
      d' w' := by
  cases o with
  | init config attachInterrupt =>
      rcases init_observes hrange hlisted _ _ _ _ hx with
        ⟨hnone, hr⟩ | ⟨p, c, hd', ho, hf⟩
      · refine ⟨fun p hp => ?_, fun hup => (hr (eq_of_beq hup)).elim⟩
        rw [hnone] at hp
        cases hp
      · refine ⟨fun q hq => ?_, fun _ => hd' ▸ Option.some_ne_none p⟩
        obtain rfl := Option.some.inj (hd'.symm.trans hq)
        exact ⟨c, ho, fun hup => hf (eq_of_beq hup)⟩
  | deinit devNull =>
      cases devNull with
      | true =>
          obtain ⟨-, -, rfl, rfl⟩ := exec_ret.mp hx
          exact h
      | false =>
          have hnone : d'.userDriverData = none := by
            cases hd : d.userDriverData with
            | none =>
                obtain ⟨rfl, -⟩ := deinit_nothing (.inr hd) _ _ _ _ (setup_sys hx)
                exact hd
            | some p =>
                exact (deinit_spec hs hat hd (hheld p hd) (hrange k) _ _ _ _ (setup_sys hx)).1
          refine ⟨fun p hp => ?_, fun hup => by cases hup⟩
          rw [hnone] at hp
          cases hp

theorem works_setup {rx : K → TaskCtx} {up : K → Bool} {m' : K → Device}
    (hpins : ∀ j k, (hw j).pinIrq = (hw k).pinIrq → j = k)
    (hrange : ∀ k, (hw k).pinIrq.toNat < tableLength) {o : DeviceOp}
    {tr : List (Event InitCall InitAnswer)} {r : o.Ret} (h : Works hw rx up (m, w))
    (hfresh : ∀ config attach, o = .init config attach → (m k).userDriverData = none)
    (hothers : ∀ j, j ≠ k → m' j = m j)
    (hx : Exec (busySetup hw k) (deviceProgram X (hw k) o) (m k) w tr r (m' k) w') :
    Works hw
      (fun j => if k = j then (DriverLabel.setup o tr r).registers (rx j) else rx j)
      (fun j => if k = j then (DriverLabel.setup o tr r).brings (up j) else up j) (m', w') := by
  have hstep : DevicesStep X hw (m, w.sys) (k, .op o tr r) (m', w'.sys) :=
    ⟨.op (setup_sys hx), hothers⟩
  refine ⟨inv_step (x := ⟨(m, w.sys), (k, .op o tr r), (m', w'.sys)⟩) hpins hstep h.inv ?_
    fun _ _ _ _ => hrange k, fun j => ?_⟩
  · intro config attach tr' r' hl
    cases hl
    exact hfresh config attach rfl
  · by_cases hkj : k = j
    · subst hkj
      rw [if_pos rfl, if_pos rfl]
      exact setup_own hrange h.listed h.inv.sound h.inv.at (h.inv.held k) (h.fit k) hx
    · rw [if_neg hkj, if_neg hkj]
      refine ⟨fun q hq => ?_, fun hup => ?_⟩
      · have hq : (m j).userDriverData = some q := hothers j (Ne.symm hkj) ▸ hq
        refine setup_elsewhere hrange (fun heq => hkj (hpins _ _ heq)) (fun p hp => ?_)
          ((h.fit j).watched q hq) hx
        obtain ⟨c, ho, -⟩ := (h.fit k).watched p hp
        exact ⟨_, c, ho⟩
      · rw [show (m', w').1 j = m j from hothers j (Ne.symm hkj)]
        exact (h.fit j).holds hup

theorem Works.flagged {rx : K → TaskCtx} {up : K → Bool}
    (hrange : ∀ k, (hw k).pinIrq.toNat < tableLength) (h : Works hw rx up (m, w))
    (hup : up k = true) : (w.line hw k).Flagged := by
  obtain ⟨p, hp⟩ := Option.ne_none_iff_exists'.mp ((h.fit k).holds hup)
  obtain ⟨c, ho, hf⟩ := (h.fit k).watched p hp
  rw [ho.line (hrange k)]
  exact hf hup

variable {xs : List (DriverRec K)}

theorem registered_snoc (k : K) (x : DriverRec K) : registered k (xs ++ [x])
    = if x.label.1 = k then x.label.2.registers (registered k xs) else registered k xs := by
  simp [registered]

theorem isUp_snoc (k : K) (x : DriverRec K) :
    isUp k (xs ++ [x]) = if x.label.1 = k then x.label.2.brings (isUp k xs) else isUp k xs := by
  simp [isUp]

/-- Step lemma, by what the step is: an event beside the programs, a task or
registration, or an `init` or `deinit` of some device. -/
theorem works_step (hpins : ∀ j k, (hw j).pinIrq = (hw k).pinIrq → j = k)
    (hrange : ∀ k, (hw k).pinIrq.toNat < tableLength) (hF : Forgiving Fails) {x : DriverRec K}
    (hs : DriverStep X hw Fails x.pre x.label x.post) (hfresh : x.InitsFresh)
    (h : Works hw (registered · xs) (isUp · xs) x.pre) :
    Works hw (registered · (xs ++ [x])) (isUp · (xs ++ [x])) x.post := by
  simp only [registered_snoc, isUp_snoc]
  obtain ⟨⟨m, w⟩, ⟨k, l⟩, ⟨m', w'⟩⟩ := x
  obtain ⟨hown, hothers⟩ := hs
  have hsame : m' k = m k → m' = m := by
    intro hk
    funext j
    by_cases hj : j = k
    · exact hj ▸ hk
    · exact hothers j hj
  dsimp only at hown hothers ⊢
  generalize hd : m k = d at hown
  generalize hd' : m' k = d' at hown
  cases hown with
  | tick hm =>
      rw [hsame (hd'.trans hd.symm)]
      simpa [DriverLabel.registers, DriverLabel.brings] using works_tick hrange k hm h
  | serve hx =>
      rw [← hd] at hx
      obtain ⟨hkept, hworks⟩ := works_serve hpins hrange hF h hx
      rw [hsame (hd'.trans hkept)]
      simpa [DriverLabel.brings] using hworks
  | setup hx =>
      rw [← hd, ← hd'] at hx
      refine works_setup hpins hrange h (fun config attach ho => ?_) hothers hx
      subst ho
      exact hfresh config attach _ _ rfl

theorem works_start {pending : K → List PendingCode} :
    Works hw (registered · []) (isUp · []) (driverStart pending) where
  inv := inv_start
  fit _ := ⟨fun _ hp => (by cases hp), fun hup => (by cases hup)⟩

/-- Run lemma, by induction on the run; what was registered and who is up are
read off the steps so far. -/
theorem works_run {pending : K → List PendingCode} {v : (K → Device) × World K}
    (hpins : ∀ j k, (hw j).pinIrq = (hw k).pinIrq → j = k)
    (hrange : ∀ k, (hw k).pinIrq.toNat < tableLength) (hF : Forgiving Fails)
    (h : Run (DriverStep X hw Fails) (driverStart pending) xs v)
    (hfresh : ∀ x ∈ xs, x.InitsFresh) : Works hw (registered · xs) (isUp · xs) v := by
  induction h with
  | nil => exact works_start
  | snoc h hs ih =>
      have hall := List.forall_mem_append.mp hfresh
      exact works_step hpins hrange hF hs (hall.2 _ (List.mem_singleton_self _)) (ih hall.1)

theorem attends_step {ys : List (DriverRec K)} {x : DriverRec K}
    (hpins : ∀ j k, (hw j).pinIrq = (hw k).pinIrq → j = k)
    (hrange : ∀ k, (hw k).pinIrq.toNat < tableLength) (hF : Forgiving Fails)
    (hs : DriverStep X hw Fails x.pre x.label x.post) (hfresh : x.InitsFresh)
    (h : Works hw (registered · ys) (isUp · ys) x.pre) : Attends hw ys x := by
  have hpost := works_step hpins hrange hF hs hfresh h
  have hserve : ∀ o tr, x.label.2 = .serve o tr → Exec (busyServe hw Fails x.label.1)
      (serveProgram o) (x.pre.1 x.label.1) x.pre.2 tr () (x.post.1 x.label.1) x.post.2 := by
    intro o tr hl
    have hown := hs.own
    rw [hl] at hown
    cases hown with
    | serve hx => exact hx
  refine ⟨hpost.inv.clean, fun o tr hl callback userReference r hr => ?_,
    fun k hup => h.flagged hrange hup, fun hup ha tr hl => ?_⟩
  · have hx := hserve o tr hl
    cases hd : (x.pre.1 x.label.1).userDriverData with
    | none =>
        obtain ⟨rfl, -⟩ := serve_nothing hd _ _ _ _ hx
        cases hr
    | some p => exact serve_called hrange hd ((h.fit x.label.1).watched p hd) hx hr
  · obtain ⟨p, hp⟩ := Option.ne_none_iff_exists'.mp ((h.fit x.label.1).holds hup)
    have hwatched := (h.fit x.label.1).watched p hp
    rw [hup] at hwatched
    exact serve_queries hrange hp hwatched ha (hserve _ tr hl)

/-- In every run of any number of controllers on different IRQ pins of the
table, from any state they were left in, in which no device is initialised
that still holds a context and no query fails with INT low and the flag
clear: every access to the table and the contexts is in order, a callback is
only called as its own device last registered it, and no device that is up
loses its interrupt. -/
theorem driver_attends {pending : K → List PendingCode} {v : (K → Device) × World K}
    (hpins : ∀ j k, (hw j).pinIrq = (hw k).pinIrq → j = k)
    (hrange : ∀ k, (hw k).pinIrq.toNat < tableLength)
    (hF : ∀ c, Fails c → c.asserted = true → c.irqPending = true)
    (h : Run (DriverStep X hw Fails) (driverStart pending) xs v)
    (hfresh : ∀ x ∈ xs, x.InitsFresh) :
    (∀ ys x zs, xs = ys ++ x :: zs → Attends hw ys x)
      ∧ ∀ k, isUp k xs = true → (v.2.line hw k).Flagged := by
  refine ⟨?_, fun k hup => (works_run hpins hrange hF h hfresh).flagged hrange hup⟩
  rintro ys x zs rfl
  obtain ⟨hys, hrest⟩ := List.forall_mem_append.mp hfresh
  obtain ⟨w₁, hrun, htail⟩ := h.split
  obtain ⟨rfl, hs, -⟩ := htail.head
  exact attends_step hpins hrange hF hs (hrest x (List.mem_cons_self ..))
    (works_run hpins hrange hF hrun hys)

end Runs

/-! ## Two controllers on the bench -/

/-- Pins 9 and 4. -/
def benchBoth (k : Bool) : Hw := benchHw (if k then 9 else 4)

/-- Two contexts fit the heap, and all else is as in `benchSystem`. -/
def benchSetup (k : Bool) (w : World Bool) : (i : InitCall) → InitAnswer i × World Bool
  | .malloc =>
    let rubbish : DriverCtx := ⟨benchHw 0, benchConfig 0, true, none, none⟩
    let p := if (w.sys.heap 0).isNone then 0 else 1
    if (w.sys.heap p).isNone then
      (some p, { w with sys := { w.sys with heap := Function.update w.sys.heap p (some rubbish) } })
    else (none, w)
  | .initMcp251xfd _ => (errOk, { w with pending := Function.update w.pending k [] })
  | i => let (r, sys) := benchSystem w.sys i; (r, { w with sys })

/-- Every query succeeds, FIFO 1 is not empty and clearing the events of the
receive FIFO clears all. -/
def benchServe (k : Bool) (w : World Bool) : (i : ServeCall) → ServeAnswer i × World Bool
  | .readIrqPending p => (((w.sys.heap p).map (·.irqPending)).getD false, w.touch p id)
  | .writeIrqPending p value => ((), w.touch p ({ · with irqPending := value }))
  | .readRx p => (((w.sys.heap p).map (·.rx)).getD ⟨none, 0⟩, w.touch p id)
  | .writeRx p rx => ((), w.touch p (·.setRx rx))
  | .device .irqPending => (false, w)
  | .device (.setIrqPending _) => ((), w)
  | .device .getCurrentInterruptEvent =>
    ((errOk, ((w.line benchBoth k).pending.head?.map Subtype.val).getD .noInterrupt), w)
  | .device .getTransmitReceiveErrorStatus | .device .getActualOperationMode => ((errOk, 0), w)
  | .device (.clearInterruptEvents _) => (errOk, w.become benchBoth k [])
  | .device .getTxqStatus => ((errOk, ⟨false⟩), w)
  | .device .resetTxq | .device (.clearFifoEvents ..) => (errOk, w)
  | .device (.getFifoStatus _) => ((errOk, ⟨true⟩), w)
  | .device (.rxCb ..) => ((), w)

theorem lift_interrupts {w : World Bool} {sys : System} (h : ReflTransGen Interrupt w.sys sys) :
    ReflTransGen (World.Moves benchBoth) w { w with sys } := by
  let toWorld (sys : System) : World Bool := { w with sys }
  refine h.lift toWorld fun sys sys' hi => ?_
  obtain ⟨gpio, events, rfl⟩ := hi
  exact .gpio gpio events

theorem benchSetup_answers (k : Bool) : Answers (benchSetup k) (busySetup benchBoth k) := by
  intro w i
  cases i with
  | malloc =>
      refine interleave_of ?_
      simp only [benchSetup]
      generalize (if (w.sys.heap 0).isNone then 0 else 1) = p
      split
      · rename_i hfree
        exact ⟨.inr ⟨p, _, rfl, by simpa using hfree, rfl⟩, rfl⟩
      · exact ⟨.inl ⟨rfl, rfl⟩, rfl⟩
  | initMcp251xfd config => exact interleave_of ⟨rfl, .inl rfl⟩
  | _ =>
      obtain ⟨sys, hm, hx⟩ := benchSystem_answers w.sys _
      exact ⟨{ w with sys }, lift_interrupts hm, hx, rfl⟩

theorem benchServe_answers (k : Bool) :
    Answers (benchServe k) (busyServe benchBoth (fun _ => False) k) := by
  intro w i
  cases i with
  | readIrqPending p => exact interleave_of ⟨fun ctx hctx => by simp [benchServe, hctx], rfl⟩
  | readRx p => exact interleave_of ⟨fun ctx hctx => by simp [benchServe, hctx], rfl⟩
  | writeIrqPending | writeRx => exact interleave_of rfl
  | device i =>
      cases i with
      | getCurrentInterruptEvent =>
          refine interleave_of ⟨rfl, .inr ⟨rfl, ?_⟩⟩
          show (w.line benchBoth k).Finds _
          cases hp : (w.line benchBoth k).pending with
          | nil => exact .inr ⟨by simp [benchServe, hp], hp⟩
          | cons code codes => exact .inl (by simp [benchServe, hp])
      | clearInterruptEvents => exact interleave_of (.single (.bus k []))
      | _ => exact interleave_of .refl

theorem fifo1Interrupt_ne : InterruptFlagCode.fifo1Interrupt ≠ .noInterrupt := by decide

inductive BenchOp where
  /-- FIFO 1 has received something. -/
  | receive
  | setup (o : DeviceOp)
  | serve (o : Op)

def benchOp (k : Bool) (d : Device) (w : World Bool) :
    BenchOp → Option (DriverLabel × Device × World Bool)
  | .receive => some (.tick, d, w.become benchBoth k [⟨.fifo1Interrupt, fifo1Interrupt_ne⟩])
  | .setup o =>
    ((deviceProgram benchErrors (benchBoth k) o).eval (benchSetup k) 4 (d, w)).map
      fun (tr, r, x) => (.setup o tr r, x)
  | .serve o =>
    ((serveProgram o).eval (benchServe k) 4 (d, w)).map fun (tr, _, x) => (.serve o tr, x)

theorem benchOp_step {k : Bool} {o : BenchOp} {d d' : Device} {w w' : World Bool} {l : DriverLabel}
    (h : benchOp k d w o = some (l, d', w')) :
    DriverStep.One benchErrors benchBoth (fun _ => False) k (d, w) l (d', w') := by
  cases o with
  | receive =>
      cases h
      exact .tick (.bus k _)
  | setup o =>
      rw [benchOp, Option.map_eq_some_iff] at h
      obtain ⟨⟨tr, r, x⟩, heval, heq⟩ := h
      cases heq
      exact .setup (Prog.eval_exec (benchSetup_answers k) heval)
  | serve o =>
      rw [benchOp, Option.map_eq_some_iff] at h
      obtain ⟨⟨tr, r, x⟩, heval, heq⟩ := h
      cases heq
      exact .serve (Prog.eval_exec (benchServe_answers k) heval)

def benchDriver : List (Bool × BenchOp) → (Bool → Device) × World Bool →
    Option (List (DriverRec Bool) × (Bool → Device) × World Bool)
  | [], v => some ([], v)
  | (k, o) :: os, v =>
    match benchOp k (v.1 k) v.2 o with
    | none => none
    | some (l, d, w) =>
      (benchDriver os (Function.update v.1 k d, w)).map fun (xs, v') =>
        (⟨v, (k, l), (Function.update v.1 k d, w)⟩ :: xs, v')

theorem benchDriver_run : ∀ {os : List (Bool × BenchOp)} {v v' : (Bool → Device) × World Bool}
    {xs : List (DriverRec Bool)}, benchDriver os v = some (xs, v') →
      Run (DriverStep benchErrors benchBoth fun _ => False) v xs v'
  | [], _, _, _, heq => by
      cases heq
      exact .nil
  | (k, o) :: os, v, v', xs, heq => by
      rw [benchDriver] at heq
      split at heq
      · cases heq
      · rename_i hop
        rw [Option.map_eq_some_iff] at heq
        obtain ⟨⟨xs', v''⟩, heq, hx⟩ := heq
        cases hx
        exact .cons (shared_update (benchOp_step hop)) (benchDriver_run heq)

/-- The callbacks that were called, by which device's task. -/
def calledBack (x : DriverRec Bool) : List (Bool × RxCb × UserReference) :=
  match x.label.2 with
  | .serve _ tr => tr.filterMap fun e => match e.1 with
    | .device (.rxCb callback userReference) => some (x.label.1, callback, userReference)
    | _ => none
  | _ => []

def DriverRec.initsFresh (x : DriverRec Bool) : Bool :=
  match x.label.2 with
  | .setup (.init ..) _ _ => (x.pre.1 x.label.1).userDriverData.isNone
  | _ => true

theorem driverInitsFresh_of {x : DriverRec Bool} (h : x.initsFresh = true) : x.InitsFresh := by
  intro config attach tr r hl
  simpa [DriverRec.initsFresh, hl] using h

/-- Both come up, a frame arrives at the first, and each task runs. -/
def bothServe : List (Bool × BenchOp) :=
  [(true, .setup (.init (benchConfig 1) true)), (false, .setup (.init (benchConfig 1) false)),
    (true, .serve (.setRxHandler false (some 7) 3)),
    (false, .serve (.setRxHandler false (some 8) 0)), (true, .receive),
    (false, .serve (.task false)), (true, .serve (.task false))]

/-- Two controllers come up, a frame arrives at the first, and only its
callback is called, with the reference it was registered with. -/
theorem driver_attends_both : ∃ xs v,
    Run (DriverStep benchErrors benchBoth fun _ => False) (driverStart fun _ => []) xs v
      ∧ (∀ ys x zs, xs = ys ++ x :: zs → Attends benchBoth ys x)
      ∧ (isUp true xs && isUp false xs) = true
      ∧ xs.flatMap calledBack = [(true, 7, 3)] := by
  have heval : (match benchDriver bothServe (driverStart fun _ => []) with
      | none => false
      | some (xs, _) => xs.all DriverRec.initsFresh && (isUp true xs && isUp false xs)
        && xs.flatMap calledBack == [(true, 7, 3)]) = true := by decide +kernel
  split at heval
  · cases heval
  · rename_i xs v heq
    simp only [Bool.and_eq_true, List.all_eq_true, beq_iff_eq] at heval
    obtain ⟨⟨hfresh, hup⟩, hcalled⟩ := heval
    have hrun := benchDriver_run heq
    have hattends := driver_attends (by decide) (by decide) (fun c hc => hc.elim) hrun
      fun x hx => driverInitsFresh_of (hfresh x hx)
    exact ⟨xs, v, hrun, hattends.1, by simpa using hup, hcalled⟩

end Mcp251xfd

end LeosSdk
