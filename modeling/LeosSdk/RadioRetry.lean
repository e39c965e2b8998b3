import LeosSdk.RadioFault

/-!
# SX126x: a failed poll forgets the interrupt

`leos_sx126x_service_deferred_irq` clears `irq_pending` before
`sx1262_irq_handler` has read the chip's status. When the handler fails the
status is still set, so DIO1 stays high and no edge ever sets `irq_pending`
again: the chip is deaf. No later `leos_sx126x_poll` asks the driver about it,
whether the driver works again or not.

Two states of the chip carry this. Before the `poll` the line is high and the
latched interrupts are in the status (`Held`), which radio events only add to.
After the handler has failed they still are, but the flag is clear (`Deaf`). A
radio event leaves a deaf chip deaf: it sets further status bits, and a line
that is already high has no edge (`deaf_raise`). A `poll` of a deaf chip asks
for the flag, finds it clear and never gets to the handler (`poll_deaf`). So
deafness is an invariant of every run of polls and radio events, and nothing
is delivered in it.
-/

namespace LeosSdk

namespace Sx126x

variable {c c' : Chip} {s s' : Ctx} {latched : IrqMask}

/-! ## Held and forgotten interrupts -/

/-- The line is high and the latched interrupts are in the status. -/
structure Held (latched : IrqMask) (c : Chip) : Prop where
  high : c.dio1 = true
  kept : ∀ q, latched q = true → c.status q = true

/-- The line is still high with the latched interrupts in the status, and the
flag is clear, so nothing will say so. -/
structure Deaf (latched : IrqMask) (c : Chip) : Prop extends Held latched c where
  forgotten : c.latch.irqPending = false

theorem held_raise (c c' : Chip) (h : Raise Any c c') (hi : Held latched c) :
    Held latched c' := by
  obtain ⟨q, nowMs, -, -, rfl⟩ := h
  refine ⟨?_, fun q' hq' => ?_⟩
  · rw [edge_dio1, dio1_iff]
    obtain ⟨q', hst, hen⟩ := dio1_iff.mp hi.high
    exact ⟨q', by simp [Chip.raise, hst], hen⟩
  · rw [edge_status]
    simp [Chip.raise, hi.kept q' hq']

/-- A line that is high has no edge. -/
theorem deaf_raise (c c' : Chip) (h : Raise Any c c') (hi : Deaf latched c) :
    Deaf latched c' := by
  refine ⟨held_raise c c' h hi.toHeld, ?_⟩
  obtain ⟨q, nowMs, -, -, rfl⟩ := h
  unfold Chip.edge
  rw [hi.high]
  exact hi.forgotten

/-! ## poll -/

/-- The handler fails with the status as it was. -/
theorem serviceDeferredIrq_held (hi : Held latched c) :
    Ensures faultyChip serviceDeferredIrq
      (fun _ r _ c' => r ≠ .ok → Deaf latched c') s c := by
  refine ensures_serviceDeferredIrq.mpr fun pending c₁ h₁ => ?_
  refine ⟨fun _ hr => (hr rfl).elim, fun _ c₂ h₂ a c₃ h₃ => ?_⟩
  have hi₁ : Held latched c₁ := silent_faulty held_raise c _ pending c₁ .irqPending hi h₁
  obtain ⟨d, ht, h₂ | ⟨hf, -⟩⟩ := h₂
  · have hd := ticks_preserve held_raise ht hi₁
    have hi₂ : Deaf latched c₂ := by
      obtain rfl := h₂
      exact ⟨⟨hd.high, hd.kept⟩, rfl⟩
    obtain ⟨d', ht', h₃⟩ := h₃
    have hi₃ : Deaf latched d' := ticks_preserve deaf_raise ht' hi₂
    intro tr _ s' c' hx hr
    rcases h₃ with ⟨hrc, -⟩ | ⟨-, rfl⟩
    · exact (hr (mapStatus_ok.mpr hrc)).elim
    · exact ((silent_deliver a.1).keeps (silent_faulty deaf_raise) hi₃ _ _ _ _ hx)
  · exact hf.elim

theorem poll_held (hi : Held latched c) :
    Ensures faultyChip poll (fun tr r _ c' => tr ≠ [] → r ≠ .ok → Deaf latched c') s c := by
  refine ensures_poll.mpr ⟨fun _ htr => (htr rfl).elim, fun _ => ?_⟩
  refine (serviceDeferredIrq_held hi).mono ?_
  intro tr status s₁ c₁ h
  refine ⟨fun hr _ _ => h hr, fun _ => ?_⟩
  intro tr' r s₂ c₂ hx _ hr
  exact (hr (pollTx_spec _ _ _ _ hx).1).elim

/-- Nothing is pending, so nothing is serviced. -/
theorem poll_deaf (hi : Deaf latched c) :
    Ensures faultyChip poll (fun tr _ _ c' => Deaf latched c' ∧ reportsOf tr = []) s c := by
  refine ensures_poll.mpr ⟨fun _ => ⟨hi, rfl⟩, fun _ => ensures_serviceDeferredIrq.mpr
    fun pending c₁ h₁ => ?_⟩
  obtain ⟨rfl, hi₁⟩ : pending = false ∧ Deaf latched c₁ := by
    obtain ⟨d, ht, ⟨hp, rfl⟩ | ⟨hf, -⟩⟩ := h₁
    · have hd : Deaf latched c₁ := ticks_preserve deaf_raise ht hi
      exact ⟨hp.trans hd.forgotten, hd⟩
    · exact hf.elim
  refine ⟨fun _ => ⟨fun hr => (hr rfl).elim, fun _ => ?_⟩, fun hp => (Bool.false_ne_true hp).elim⟩
  intro tr r s₂ c₂ hx
  obtain ⟨-, hp⟩ := pollTx_spec _ _ _ _ hx
  refine ⟨silent_pollTx.keeps (silent_faulty deaf_raise) hi₁ _ _ _ _ hx, ?_⟩
  simp only [reportsOf_append, hp.reportsOf, List.append_nil]
  rfl

/-! ## Runs of polls -/

/-- A `poll`, or a radio event. -/
def PollsOnly : RadioLabel → Prop
  | .tick => True
  | .op .poll _ _ => True
  | _ => False

/-- What the driver delivered in a step. -/
def delivered : RadioLabel → List Report
  | .tick => []
  | .op _ tr _ => reportsOf tr

theorem deaf_step {x : Rec (Ctx × Chip) RadioLabel} (h : FaultyStep x.pre x.label x.post)
    (hpoll : PollsOnly x.label) (hi : Deaf latched x.pre.2) :
    Deaf latched x.post.2 ∧ delivered x.label = [] := by
  obtain ⟨⟨s, c⟩, l, ⟨s', c'⟩⟩ := x
  cases h with
  | tick ht => exact ⟨deaf_raise c c' ht hi, rfl⟩
  | @op o _ _ tr r _ _ hx =>
      cases o with
      | poll => exact poll_deaf hi _ _ _ _ hx
      | _ => exact hpoll.elim

/-- A `poll` in which the handler fails, leaving DIO1 high, never keeps
`irq_pending`; and in no run of polls after it, whether the driver works or
not, is anything delivered, though every latched interrupt stays in the chip's
status. The failed `poll` leaves the chip deaf (`poll_held`), and `deaf_step`
is the induction's step. -/
theorem failed_poll_deafens {tr : List (Event Call Answer)} {r : RadioStatus}
    {reports : List Report} {rc : UInt8} {xs : List (Rec (Ctx × Chip) RadioLabel)}
    {w : Ctx × Chip} (hhigh : c.dio1 = true)
    (hx : Exec faultyChip poll s c tr r s' c')
    (hcall : (⟨.irqHandler, (reports, rc)⟩ : Event Call Answer) ∈ tr) (hrc : rc ≠ 0)
    (hrun : Run FaultyStep (s', c') xs w) (hpolls : ∀ x ∈ xs, PollsOnly x.label) :
    c'.latch.irqPending = false
      ∧ (∀ x ∈ xs, delivered x.label = [] ∧ x.post.2.latch.irqPending = false)
      ∧ ∀ q, c.status q = true → w.2.status q = true := by
  have hi : Held c.status c := ⟨hhigh, fun _ => id⟩
  have hi' : Deaf c.status c' := by
    obtain ⟨-, hr⟩ := (poll_spec _ _ _ _ hx).handlerAnswer hcall
    refine poll_held hi _ _ _ _ hx (List.ne_nil_of_mem hcall) ?_
    rw [hr]
    exact fun h => hrc (mapStatus_ok.mp h)
  have hinv := hrun.invariant (fun w => Deaf c.status w.2) (fun x => PollsOnly x.label) hi'
    (fun x hs hp hi => (deaf_step hs hp hi).1) hpolls
  refine ⟨hi'.forgotten, fun x hx => ?_, hinv.1.kept⟩
  obtain ⟨hs, hpre, hpost⟩ := hinv.2 x hx
  exact ⟨(deaf_step hs (hpolls x hx) hpre).2, hpost.forgotten⟩

/-! ## One failed transfer on the bench -/

/-- Only the transfer of the handler fails. -/
def handlerFails (_ : Chip) : Call → Bool
  | .irqHandler => true
  | _ => false

/-- A packet arrives at a receiving radio and its interrupt is latched; one
`poll` fails in the handler, the next succeeds. -/
theorem bench_failed_poll : ∃ (xs ys : _) (w₀ w₁ w₂ : Ctx × Chip) (tr : _) (r : _),
    Run FaultyStep (readyCtx, readyChip) xs w₀
      ∧ w₀.2.latch.irqPending = true ∧ w₀.2.dio1 = true ∧ w₀.2.status .rxDone = true
      ∧ Exec faultyChip poll w₀.1 w₀.2 tr r w₁.1 w₁.2 ∧ r ≠ .ok
      ∧ (⟨.irqHandler, ([], 1)⟩ : Event Call Answer) ∈ tr
      ∧ w₁.2.latch.irqPending = false ∧ Run FaultyStep w₁ ys w₂
      ∧ ∃ tr', ys.map (·.label) = [.op .poll tr' .ok] ∧ reportsOf tr' = [] := by
  have hanswers : Answers (faultyBench (fun _ _ => none) handlerFails) faultyChip :=
    faultyBench_answers never_raises
  have heval : ∃ tr₀ w tr r w₁ tr' w₂,
      (program .startRx).eval (faultyBench (fun _ _ => none) handlerFails) 1
        (readyCtx, readyChip) = some (tr₀, .ok, w)
      ∧ w.2.op = .rx ∧ (w.2.edge (w.2.raise .rxDone) 0).latch.irqPending = true
      ∧ (w.2.edge (w.2.raise .rxDone) 0).dio1 = true
      ∧ (w.2.edge (w.2.raise .rxDone) 0).status .rxDone = true
      ∧ poll.eval (faultyBench (fun _ _ => none) handlerFails) 1
        (w.1, w.2.edge (w.2.raise .rxDone) 0) = some (tr, r, w₁)
      ∧ r ≠ .ok ∧ (⟨.irqHandler, ([], 1)⟩ : Event Call Answer) ∈ tr
      ∧ w₁.2.latch.irqPending = false
      ∧ poll.eval (faultyBench (fun _ _ => none) handlerFails) 1 w₁ = some (tr', .ok, w₂)
      ∧ reportsOf tr' = [] :=
    ⟨_, _, _, _, _, _, _, rfl, rfl, rfl, rfl, rfl, rfl, by decide,
      .tail _ (.tail _ (.head _)), rfl, rfl, rfl⟩
  obtain ⟨tr₀, w, tr, r, w₁, tr', w₂, h₀, hop, hpend, hhigh, hst, h₁, hr, hmem, hdeaf, h₂,
    hnone⟩ := heval
  have hraise : Raise Any w.2 (w.2.edge (w.2.raise .rxDone) 0) :=
    ⟨.rxDone, 0, by rw [hop]; rfl, trivial, rfl⟩
  have hrun₀ : Run FaultyStep (readyCtx, readyChip) _
      (w.1, w.2.edge (w.2.raise .rxDone) 0) :=
    .cons (.op (o := .startRx) (Prog.eval_exec hanswers h₀)) (.cons (.tick hraise) .nil)
  exact ⟨_, _, _, w₁, w₂, tr, r, hrun₀, hpend, hhigh, hst, Prog.eval_exec hanswers h₁, hr,
    hmem, hdeaf, .cons (.op (o := .poll) (Prog.eval_exec hanswers h₂)) .nil, tr', rfl, hnone⟩

/-- A receiver with a packet waiting, whose driver fails in the handler: the
next poll succeeds and delivers nothing, and RX_DONE stays raised. -/
theorem failed_poll_deafens_receiver : ∃ (w₀ w₁ w : Ctx × Chip) (ys : _),
    w₀.2.latch.irqPending = true ∧ w₁.2.latch.irqPending = false
      ∧ Run FaultyStep w₁ ys w ∧ (∀ y ∈ ys, delivered y.label = [])
      ∧ w.2.status .rxDone = true := by
  obtain ⟨xs, ys, w₀, w₁, w₂, tr, r, -, hpend, hhigh, hst, hx, -, hmem, -, hrun, tr', hys, -⟩ :=
    bench_failed_poll
  have hpolls : ∀ y ∈ ys, PollsOnly y.label := by
    obtain ⟨y, rfl, hy⟩ := List.map_eq_singleton_iff.mp hys
    intro y' hy'
    obtain rfl := List.mem_singleton.mp hy'
    rw [hy]
    trivial
  obtain ⟨hforgot, hnone, hkept⟩ :=
    failed_poll_deafens hhigh hx hmem (by decide) hrun hpolls
  exact ⟨w₀, w₁, w₂, ys, hpend, hforgot, hrun, fun y hy => (hnone y hy).1, hkept _ hst⟩

/-- The packet's interrupt was latched when `poll` failed, and the poll that
succeeds delivers nothing. -/
theorem latched_packet_forgotten : ∃ (xs ys : _) (w₀ w₁ w₂ : Ctx × Chip) (tr : _) (r : _),
    Run FaultyStep (readyCtx, readyChip) xs w₀
      ∧ w₀.2.latch.irqPending = true ∧ w₀.2.status .rxDone = true
      ∧ Exec faultyChip poll w₀.1 w₀.2 tr r w₁.1 w₁.2 ∧ r ≠ .ok
      ∧ w₁.2.latch.irqPending = false ∧ Run FaultyStep w₁ ys w₂
      ∧ ∃ tr', ys.map (·.label) = [.op .poll tr' .ok] ∧ reportsOf tr' = [] := by
  obtain ⟨xs, ys, w₀, w₁, w₂, tr, r, hrun₀, hpend, -, hst, hx, hr, -, hdeaf, hrun, hys⟩ :=
    bench_failed_poll
  exact ⟨xs, ys, w₀, w₁, w₂, tr, r, hrun₀, hpend, hst, hx, hr, hdeaf, hrun, hys⟩

end Sx126x

end LeosSdk
