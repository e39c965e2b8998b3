import LeosSdk.CanTask

/-!
# MCP251XFD: no CAN interrupt is lost

The INT line is low exactly while an enabled event is pending, and only its
falling edge runs `leos_mcp251xfd_irq_handler`. `Flagged` says that the line
and `irq_pending` agree; events and interrupts keep it at any time, the task
suspends it from clearing the flag to the end of its loop and has to restore
it on the way out.

The loop has two exits. One has seen that nothing is pending. The other is a
failed `MCP251XFD_GetCurrentInterruptEvent`, after which the events it did not
see are still pending, the line stays low and no further edge can come
(`failed_query_loses_irq`). So the interrupts are safe exactly when that call
never fails with the line asserted and the flag clear.

Which queries fail is a parameter of the environment: a predicate `Fails` on
its state. That makes the condition one about the controller, not about the
code, and the equivalence goes over all runs. Sufficiency is an invariant over
the run, and in the loop only its exits matter: whatever the branches do, the
events may change anyhow between two calls (`loop_flagged`). For necessity a
run is built to any state in which a query may fail (`failed_query_run`): the
bus raises the events, the task clears the flag, and its first query fails.
-/

namespace LeosSdk

namespace Mcp251xfd

/-! ## The interrupt handler -/

/-- `GPIO_IRQ_EDGE_FALL`. -/
def gpioIrqEdgeFall : UInt32 := 0x4

/-- `leos_mcp251xfd_irq_handler`, as far as one device's flag goes;
`ctxByGpio` says which entries of `s_ctx_by_gpio` hold its context. -/
def irqHandler (ctxByGpio : Fin 48 → Bool) (gpio : Nat) (events : UInt32)
    (irqPending : Bool) : Bool :=
  if events &&& gpioIrqEdgeFall = 0 then irqPending
  else if h : gpio < 48 then
    if ctxByGpio ⟨gpio, h⟩ then true else irqPending
  else irqPending

/-- The wiring `leos_mcp251xfd_init` leaves. -/
structure Board where
  pinIrq : Fin 48
  ctxByGpio : Fin 48 → Bool
  registered : ctxByGpio pinIrq = true

theorem irqHandler_own (b : Board) (irqPending : Bool) :
    irqHandler b.ctxByGpio b.pinIrq gpioIrqEdgeFall irqPending = true := by
  have h : ¬gpioIrqEdgeFall &&& gpioIrqEdgeFall = 0 := by decide
  rw [irqHandler, if_neg h, dif_pos b.pinIrq.isLt]
  exact if_pos b.registered

/-- No GPIO interrupt clears the flag. -/
theorem irqHandler_keeps {ctxByGpio : Fin 48 → Bool} {gpio : Nat} {events : UInt32}
    {irqPending : Bool} (h : irqPending = true) :
    irqHandler ctxByGpio gpio events irqPending = true := by
  subst h
  rw [irqHandler]
  split
  · rfl
  · split
    · exact ite_self true
    · rfl

/-! ## The line -/

/-- An enabled event of the controller. -/
abbrev PendingCode := { code : InterruptFlagCode // code ≠ .noInterrupt }

structure Line where
  irqPending : Bool
  pending : List PendingCode

/-- INT is low. -/
def Line.asserted (c : Line) : Bool := !c.pending.isEmpty

/-- The pending events change, with the interrupt if INT falls. An event that
comes while INT is low makes no edge. -/
def Line.become (b : Board) (c : Line) (pending : List PendingCode) : Line where
  pending := pending
  irqPending :=
    if !c.asserted && !pending.isEmpty then
      irqHandler b.ctxByGpio b.pinIrq gpioIrqEdgeFall c.irqPending
    else c.irqPending

/-- What happens beside the task: events of the bus, and other interrupts
of the shared GPIO handler. -/
inductive Line.Moves (b : Board) (c : Line) : Line → Prop
  | bus (pending : List PendingCode) : Moves b c (c.become b pending)
  | gpio (gpio : Nat) (events : UInt32) :
      Moves b c { c with irqPending := irqHandler b.ctxByGpio gpio events c.irqPending }

/-- `code` is what a successful query finds. -/
def Line.Finds (c : Line) (code : InterruptFlagCode) : Prop :=
  code ∈ c.pending.map Subtype.val ∨ code = .noInterrupt ∧ c.pending = []

/-- The controller over SPI. A query may fail in the states `Fails` allows;
every other call answers anything, and the events change meanwhile, cleared
ones among them. -/
def lineEnv (b : Board) (Fails : Line → Prop) : Env Line Call Answer
  | c, .irqPending, r, c' => r = c.irqPending ∧ c' = c
  | c, .setIrqPending v, _, c' => c' = { c with irqPending := v }
  | c, .getCurrentInterruptEvent, a, c' =>
    c' = c ∧ (Prod.fst a ≠ errOk ∧ Fails c ∨ Prod.fst a = errOk ∧ c.Finds (Prod.snd a))
  | c, _, _, c' => Relation.ReflTransGen (Line.Moves b) c c'

/-- Events and interrupts fall between any two calls. -/
abbrev busyLine (b : Board) (Fails : Line → Prop) : Env Line Call Answer :=
  interleave (Line.Moves b) (lineEnv b Fails)

/-- After `leos_mcp251xfd_init`, before any event. -/
def Line.idle : Line := ⟨false, []⟩

abbrev CanStep (b : Board) (Fails : Line → Prop) :=
  Session program (busyLine b Fails) (Line.Moves b)

variable {b : Board} {Fails : Line → Prop} {c c' : Line} {s : Option TaskCtx}

/-! ## Line and flag -/

/-- INT asserted implies that the next task call runs. -/
def Line.Flagged (c : Line) : Prop := c.asserted = true → c.irqPending = true

theorem flagged_moves (h : c.Moves b c') (hf : c.Flagged) : c'.Flagged := by
  cases h with
  | bus pending =>
      intro ha
      have ha : (!pending.isEmpty) = true := ha
      cases hc : c.asserted with
      | false => simpa [Line.become, hc, ha] using irqHandler_own b c.irqPending
      | true => simpa [Line.become, hc] using hf hc
  | gpio gpio events => exact fun ha => irqHandler_keeps (hf ha)

theorem irqPending_moves (h : c.Moves b c') (hp : c.irqPending = true) :
    c'.irqPending = true := by
  cases h with
  | bus pending =>
      simp only [Line.become]
      split
      · exact irqHandler_own b _
      · exact hp
  | gpio gpio events => exact irqHandler_keeps hp

/-- A query that finds nothing has found INT high. -/
theorem finds_noInterrupt (h : c.Finds .noInterrupt) : c.asserted = false := by
  rcases h with h | ⟨-, h⟩
  · obtain ⟨⟨_, hne⟩, _, rfl⟩ := List.mem_map.mp h
    exact absurd rfl hne
  · simp [Line.asserted, h]

/-! ## The task -/

/-- Failures only where the flag is not needed. -/
def Forgiving (Fails : Line → Prop) : Prop := ∀ c, Fails c → c.Flagged

/-- The loop leaves line and flag in agreement by either exit: with nothing
pending there is nothing to agree on, and a failure is allowed only where they
agree. -/
theorem loop_flagged (hF : Forgiving Fails) :
    Ensures (busyLine b Fails) (Prog.iter serviceLoop ()) (fun _ _ _ c' => c'.Flagged)
      s c := by
  refine ensures_iter (fun _ _ _ _ => True) ?_ trivial
  intro _ _ s c _
  rw [serviceLoop, ensures_bind, ensures_ask]
  rintro ⟨err, code⟩ c' ⟨c₁, -, rfl, hans⟩
  rcases hans with ⟨herr, hfail⟩ | ⟨herr, hfinds⟩
  · dsimp only
    rw [if_pos herr, ensures_pure]
    exact ⟨by simp, fun _ _ => hF _ hfail⟩
  · obtain rfl : err = errOk := herr
    simp only [ne_eq, not_true_eq_false, if_false]
    split
    · rename_i hcode
      subst hcode
      rw [ensures_pure]
      exact ⟨by simp, fun _ _ ha => by simp [finds_noInterrupt hfinds] at ha⟩
    · rw [ensures_bind]
      intro _ _ _ _ _
      rw [ensures_pure]
      exact ⟨fun _ _ => trivial, by simp⟩

theorem task_flagged (hF : Forgiving Fails) {devNull : Bool} (hf : c.Flagged) :
    Ensures (busyLine b Fails) (task devNull) (fun _ _ _ c' => c'.Flagged) s c := by
  rw [task, ensures_ite]
  refine ⟨fun _ => ensures_pure.mpr hf, fun _ => ?_⟩
  rw [ensures_bind, ensures_read, ensures_ite]
  refine ⟨fun _ => ensures_pure.mpr hf, fun _ => ?_⟩
  rw [ensures_bind, ensures_ask]
  intro pending c' h
  rcases h with ⟨c₁, ht, rfl, rfl⟩
  have hf₁ : c'.Flagged :=
    ticks_preserve (J := Line.Flagged) (fun _ _ => flagged_moves) ht hf
  rw [ensures_ite]
  refine ⟨fun _ => ensures_pure.mpr hf₁, fun _ => ?_⟩
  rw [ensures_bind]
  intro _ _ s₂ c₂ _
  exact loop_flagged hF

/-- A task call that finds INT asserted, or finds the flag set, queries the
controller. The flag stays set until the task itself clears it. -/
theorem task_queries {ctx : TaskCtx} (hp : c.irqPending = true) :
    Ensures (busyLine b Fails) (task false)
      (fun tr _ _ _ => ∃ a, (⟨.getCurrentInterruptEvent, a⟩ : Event Call Answer) ∈ tr)
      (some ctx) c := by
  simp only [task, ensures_bind, ensures_read, ensures_ask, Bool.false_eq_true,
    if_false, Option.isNone_some]
  intro pending c' h
  rcases h with ⟨c₁, ht, rfl, rfl⟩
  have hp₁ : c'.irqPending = true := ticks_preserve (J := fun c => c.irqPending = true)
    (fun _ _ => irqPending_moves) ht hp
  simp only [hp₁, Bool.not_true, Bool.false_eq_true, if_false, ensures_bind, ensures_ask]
  rintro _ c₂ _
  suffices h : Ensures (busyLine b Fails) (Prog.iter serviceLoop ())
      (fun tr _ _ _ => ∃ a, (⟨.getCurrentInterruptEvent, a⟩ : Event Call Answer) ∈ tr)
      (some ctx) c₂ by
    refine h.mono ?_
    intro tr _ _ _ h
    rcases h with ⟨a, ha⟩
    exact ⟨a, by simp [ha]⟩
  refine ensures_iter (fun _ _ _ _ => True) ?_ trivial
  intro _ _ s c _
  rw [serviceLoop, ensures_bind, ensures_ask]
  rintro a c' _
  refine fun tr r s' c'' _ => ⟨fun _ _ => trivial, fun _ _ => ⟨a, by simp⟩⟩

theorem setRxHandler_flagged {devNull : Bool} {callback : Option RxCb}
    {userReference : UserReference} (hf : c.Flagged) :
    Ensures (busyLine b Fails) (setRxHandler devNull callback userReference)
      (fun _ _ _ c' => c'.Flagged) s c := by
  simp only [setRxHandler, ensures_ite, ensures_bind, ensures_read, ensures_pure,
    ensures_modify]
  exact ⟨fun _ => hf, fun _ => ⟨fun _ => hf, fun _ => hf⟩⟩

/-! ## Runs -/

theorem flagged_step (hF : Forgiving Fails)
    {x : Rec (Option TaskCtx × Line) (Label Op (fun _ => Unit) Call Answer)}
    (hs : CanStep b Fails x.pre x.label x.post) (hf : x.pre.2.Flagged) :
    x.post.2.Flagged := by
  obtain ⟨⟨s, c⟩, l, ⟨s', c'⟩⟩ := x
  cases hs with
  | tick h => exact flagged_moves h hf
  | @op o _ _ _ _ _ _ h =>
      cases o with
      | task devNull => exact task_flagged hF hf _ _ _ _ h
      | setRxHandler devNull callback userReference =>
          exact setRxHandler_flagged hf _ _ _ _ h

/-- A task call on an initialised device with INT asserted gets to the
controller. -/
def Served (x : Rec (Option TaskCtx × Line) (Label Op (fun _ => Unit) Call Answer)) :
    Prop :=
  x.pre.2.asserted = true → x.pre.1.isSome → ∀ tr r, x.label = .op (.task false) tr r →
    ∃ a, (⟨.getCurrentInterruptEvent, a⟩ : Event Call Answer) ∈ tr

theorem served_of_flagged
    {x : Rec (Option TaskCtx × Line) (Label Op (fun _ => Unit) Call Answer)}
    (hs : CanStep b Fails x.pre x.label x.post) (hf : x.pre.2.Flagged) : Served x := by
  obtain ⟨⟨s, c⟩, l, w'⟩ := x
  rintro ha hctx tr r ⟨⟩
  obtain ⟨ctx, rfl⟩ := Option.isSome_iff_exists.mp hctx
  cases hs with
  | op h => exact task_queries (hf ha) _ _ _ _ h

/-- The bus raises the events of `c`, the task clears the flag and its first
query fails. So any state with INT asserted and the flag clear in which a
query may fail is the end of a run. -/
theorem failed_query_run (ctx : TaskCtx) (hfail : Fails c) (ha : c.asserted = true)
    (hp : c.irqPending = false) :
    ∃ xs, Run (CanStep b Fails) (some ctx, .idle) xs (some ctx, c) := by
  obtain ⟨irqPending, pending⟩ := c
  obtain rfl : irqPending = false := hp
  have ha : (!pending.isEmpty) = true := ha
  have hraise : Line.idle.become b pending = ⟨true, pending⟩ := by
    simp [Line.become, Line.idle, Line.asserted, ha, irqHandler_own]
  have hquery : lineEnv b Fails ⟨false, pending⟩ .getCurrentInterruptEvent
      ((1, .noInterrupt) : ErrorResult × InterruptFlagCode) ⟨false, pending⟩ :=
    ⟨rfl, .inl ⟨by decide, hfail⟩⟩
  have hclear : lineEnv b Fails ⟨true, pending⟩ (.setIrqPending false) ()
      ⟨false, pending⟩ := rfl
  have hbody : ∃ tr, Exec (busyLine b Fails) (serviceLoop ()) (some ctx)
      ⟨false, pending⟩ tr (.inr ()) (some ctx) ⟨false, pending⟩ :=
    ⟨_, exec_bind.mpr
      ⟨_, _, _, _, _, .call (interleave_of hquery) .ret, .ret, rfl⟩⟩
  obtain ⟨tr, hbody⟩ := hbody
  have hx : Exec (busyLine b Fails) (task false) (some ctx) ⟨true, pending⟩
      (⟨.irqPending, true⟩ :: ⟨.setIrqPending false, ()⟩ :: (tr ++ [])) ()
      (some ctx) ⟨false, pending⟩ := by
    refine .get (.call (interleave_of ⟨rfl, rfl⟩) ?_)
    exact .call (interleave_of hclear) (.done hbody .ret)
  have htick : CanStep b Fails (some ctx, .idle) .tick (some ctx, ⟨true, pending⟩) :=
    .tick (hraise ▸ .bus pending)
  have hop : CanStep b Fails (some ctx, ⟨true, pending⟩) (.op (.task false) _ ())
      (some ctx, ⟨false, pending⟩) := .op hx
  exact ⟨_, .snoc (.snoc .nil htick) hop⟩

/-- After `leos_mcp251xfd_init`, INT asserted between two operations implies
`irq_pending`, and the next task call services it: in all runs if and only if
no query fails with INT asserted and the flag clear. One direction is the
invariant, the other the run of `failed_query_run`. -/
theorem int_asserted_flagged_iff (b : Board) (Fails : Line → Prop) :
    (∀ s xs w, Run (CanStep b Fails) (s, .idle) xs w →
        w.2.Flagged ∧ ∀ x ∈ xs, Served x)
      ↔ ∀ c, Fails c → c.asserted = true → c.irqPending = true := by
  constructor
  · intro h c hfail ha
    by_contra hp
    rw [Bool.not_eq_true] at hp
    obtain ⟨xs, hrun⟩ := failed_query_run (b := b) ⟨none, 0⟩ hfail ha hp
    have := (h _ _ _ hrun).1 ha
    rw [hp] at this
    cases this
  · intro hF s xs w hrun
    have hidle : Line.idle.Flagged := fun ha => by cases ha
    obtain ⟨hw, hxs⟩ := hrun.invariant (fun w => w.2.Flagged) (fun _ => True) hidle
      (fun x hs _ => flagged_step hF hs) fun _ _ => trivial
    exact ⟨hw, fun x hx => served_of_flagged (hxs x hx).1 (hxs x hx).2.1⟩

/-- A frame arrives, the first query of the task fails: INT stays asserted
and the flag is clear. -/
theorem failed_query_loses_irq :
    ∃ (b : Board) (s : Option TaskCtx)
      (xs : List (Rec (Option TaskCtx × Line) (Label Op (fun _ => Unit) Call Answer)))
      (w : Option TaskCtx × Line),
      Run (CanStep b fun _ => True) (s, .idle) xs w
        ∧ w.2.asserted = true ∧ w.2.irqPending = false := by
  let b : Board := ⟨0, fun _ => true, rfl⟩
  let c : Line := ⟨false, [⟨.fifo1Interrupt, by decide⟩]⟩
  have hrun : ∃ xs, Run (CanStep b fun _ => True) (some ⟨none, 0⟩, .idle) xs
      (some ⟨none, 0⟩, c) := failed_query_run _ trivial rfl rfl
  obtain ⟨xs, hrun⟩ := hrun
  exact ⟨b, _, xs, _, hrun, rfl, rfl⟩

end Mcp251xfd

end LeosSdk
