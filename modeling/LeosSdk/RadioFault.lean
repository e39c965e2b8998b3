import LeosSdk.RadioShadow

/-!
# SX126x: driver calls that fail

The chip behind a driver whose calls may fail: a call that fails leaves the
chip as it was, one that succeeds takes effect (`chipEnv`).

`leos_sx126x_start_tx` reprograms the interrupt sources, clears the status and
forces standby before it first writes `mode`. A failure of `sx1262_set_tx` is
repaired (STANDBY is what the chip is in), a failure of the very first call
has changed nothing; at every step in between a radio that was receiving goes
on reporting RX with its receive interrupts off (`Torn`).

A start function is a chain of commands, and the first that fails is the last
of the trace (`failedCmd`). So the postcondition of a chain has one part for
each command that may have failed, and `failsWith_thenOk` proves one step of
it: the command fails with the chip as it was, or the chain goes on in the
chip it left. What holds of the chip in between is an invariant that radio
events keep, `Truthful` up to the first effective command and `Midway` after
it; the theorem for every failing command at once is then the list of these
states, from which the mode is true or not by whether the radio was receiving.
-/

namespace LeosSdk

namespace Sx126x

variable {c c' : Chip} {s s' : Ctx}

/-! ## The driver -/

/-- The driver reports a failure. -/
def Call.Fails : (i : Call) → Answer i → Prop
  | .cmd _, rc => rc ≠ (0 : UInt8)
  | .timeoutConvertToRegister _, a => Prod.fst a ≠ (0 : UInt8)
  | .frequencyConvertToRegister _, a => Prod.fst a ≠ (0 : UInt8)
  | .getTxModulation, a => Prod.fst a ≠ (0 : UInt8)
  | .getTxClampConfig, a => Prod.fst a ≠ (0 : UInt8)
  | .irqHandler, a => Prod.snd a ≠ (0 : UInt8)
  | .getLoraPacketStatus, a => Prod.fst a ≠ (0 : UInt8)
  | .platformNowMs, _ => False
  | .irqPending, _ => False
  | .setIrqPending _, _ => False
  | .setIrqLatchedAtMs _, _ => False

/-- Any driver call may fail, and leaves the chip unchanged when it does. -/
def faultyEnv : Env Chip Call Answer := fun c i r c' =>
  chipEnv c i r c' ∨ i.Fails r ∧ c' = c

/-- Driver calls with radio events before each of them. -/
abbrev faultyChip : Env Chip Call Answer := interleave (Raise Any) faultyEnv

abbrev FaultyStep : Ctx × Chip → RadioLabel → Ctx × Chip → Prop :=
  Session program faultyChip (Raise Any)

/-- What radio events keep, silent calls keep, failing or not. -/
theorem silent_faulty {J : Chip → Prop} (hJ : ∀ c c', Raise Any c c' → J c → J c')
    (c : Chip) (i : Call) (r : Answer i) (c' : Chip) (hi : i.Silent) (h0 : J c)
    (h : faultyChip c i r c') : J c' := by
  obtain ⟨c₁, ht, h | ⟨-, rfl⟩⟩ := h
  · exact silent_step hJ c i r c' hi h0 ⟨c₁, ht, h⟩
  · exact ticks_preserve hJ ht h0

/-! ## The reported mode -/

/-- The mode is true to the chip: RX means that it receives with the receive
sources on DIO1, STANDBY that it neither receives nor transmits. -/
structure Truthful (s : Ctx) (c : Chip) : Prop where
  rx : s.mode = .rx → c.op = .rx ∧ ∀ q, irqMaskRx q = true → c.enabled q = true
  standby : s.mode = .standby → c.op = .standby

/-- The failed command that ended a call of the API, if one did. -/
def failedCmd (tr : List (Event Call Answer)) : Option Cmd :=
  match tr.getLast? with
  | some ⟨.cmd cmd, rc⟩ => if rc = (0 : UInt8) then none else some cmd
  | _ => none

theorem failedCmd_cons (cmd : Cmd) (tr : List (Event Call Answer)) :
    failedCmd (⟨.cmd cmd, (0 : UInt8)⟩ :: tr) = failedCmd tr := by
  cases tr with
  | nil => rfl
  | cons ev tr => simp only [failedCmd, List.getLast?_cons_cons]

theorem failedCmd_single {cmd : Cmd} {rc : UInt8} :
    failedCmd [⟨.cmd cmd, rc⟩] = if rc = 0 then none else some cmd := rfl

/-! ## A chain of fallible calls -/

/-- What holds of the call that failed, if one did. -/
abbrev FailsWith (P : Cmd → Ctx → Chip → Prop) : Post Ctx Chip Call Answer RadioStatus :=
  fun tr _ s' c' => ∀ cmd ∈ failedCmd tr, P cmd s' c'

variable {P : Cmd → Ctx → Chip → Prop} {q : Api RadioStatus}

theorem failsWith_nil {r : RadioStatus} : FailsWith P [] r s c := by
  intro cmd hcmd
  cases hcmd

/-- One step of a chain: either it fails with the chip as it was, or the
chain goes on. -/
theorem failsWith_thenOk {J : Chip → Prop} (hJ : ∀ c c', Raise Any c c' → J c → J c')
    {cmd : Cmd} (h0 : J c) (hfail : ∀ c', J c' → P cmd s c')
    (hok : ∀ c₁ c', J c₁ → chipEnv c₁ (.cmd cmd) (0 : UInt8) c' →
      Ensures faultyChip q (FailsWith P) s c') :
    Ensures faultyChip (thenOk (driver cmd) q) (FailsWith P) s c := by
  rw [ensures_thenOk, ensures_driver]
  intro rc c' hrc
  obtain ⟨c₁, ht, hrc⟩ := hrc
  have h₁ : J c₁ := ticks_preserve hJ ht h0
  refine ⟨fun hr => ?_, fun hr cmd' hcmd => ?_⟩
  · obtain rfl := mapStatus_ok.mp hr
    rcases hrc with hrc | ⟨hrc, -⟩
    · refine (hok c₁ c' h₁ hrc).mono ?_
      intro tr _ s' c' hq cmd' hcmd
      rw [List.singleton_append, failedCmd_cons] at hcmd
      exact hq cmd' hcmd
    · exact (hrc rfl).elim
  · rw [failedCmd_single] at hcmd
    obtain rfl : cmd = cmd' := by
      split at hcmd
      · cases hcmd
      · exact Option.some.inj hcmd
    rcases hrc with hrc | ⟨-, rfl⟩
    · have hok : radioChip Any c₁ (.cmd cmd) rc c' := interleave_of hrc
      exact (hr (mapStatus_ok.mpr (chip_cmd hok))).elim
    · exact hfail _ h₁

/-! ## start_rx -/

theorem truthful_raise (s : Ctx) (c c' : Chip) (h : Raise Any c c')
    (ht : Truthful s c) : Truthful s c' := by
  refine ⟨fun hrx => ?_, fun hsb => ?_⟩
  · obtain ⟨hop, hsrc⟩ := ht.rx hrx
    refine ⟨(still_raise c c' h ⟨hop, by decide⟩).op, ?_⟩
    obtain ⟨q, nowMs, -, -, rfl⟩ := h
    rw [edge_enabled]
    exact hsrc
  · exact (still_raise c c' h ⟨ht.standby hsb, by decide⟩).op

/-- A failed `start_rx` has left the receiver, or the chip at rest, as it
was. -/
theorem startRx_fails (ht : Truthful s c) :
    Ensures faultyChip startRx (FailsWith fun _ s' c' => Truthful s' c') s c := by
  refine ensures_startRx (fun _ _ => failsWith_nil) fun _ _ => ?_
  have hkeep := truthful_raise s
  refine failsWith_thenOk hkeep ht (fun _ h => h) fun c₁ c₂ h₁ h => ?_
  obtain ⟨-, nowMs, rfl⟩ := h
  have h₂ : Truthful s (c₁.edge { c₁ with enabled := fun q => irqMaskRx q && irqMaskRx q }
      nowMs) :=
    ⟨fun hrx => ⟨by rw [edge_op]; exact (h₁.rx hrx).1, fun q hq => by simp [hq]⟩,
      fun hsb => by rw [edge_op]; exact h₁.standby hsb⟩
  refine failsWith_thenOk hkeep h₂ (fun _ h => h) fun c₃ c₄ h₃ h => ?_
  obtain ⟨-, rfl⟩ := h
  rw [ensures_thenOk_applyPacketParams]
  refine failsWith_thenOk hkeep ⟨h₃.rx, h₃.standby⟩ (fun _ h => h) fun c₅ c₆ h₅ h => ?_
  obtain ⟨-, rfl⟩ := h
  refine failsWith_thenOk hkeep h₅ (fun _ h => h) fun c₇ c₈ _ _ => ?_
  simp only [enterRx, ensures_bind, ensures_ask, ensures_modify, ensures_pure]
  intro _ _ _ cmd hcmd
  cases hcmd

/-! ## start_tx -/

/-- Between `sx1262_set_dio_irq_params` and `sx1262_set_tx`: the receive
sources are off. -/
structure Midway (s : Ctx) (c : Chip) : Prop where
  sources : c.enabled = irqMaskTx
  rest : s.mode = .standby → c.op = .standby

theorem midway_raise (s : Ctx) (c c' : Chip) (h : Raise Any c c') (hi : Midway s c) :
    Midway s c' := by
  refine ⟨?_, fun hsb => (still_raise c c' h ⟨hi.rest hsb, by decide⟩).op⟩
  obtain ⟨q, nowMs, -, -, rfl⟩ := h
  rw [edge_enabled]
  exact hi.sources

theorem truthful_midway (hi : Midway s c) : Truthful s c ↔ s.mode ≠ .rx := by
  refine ⟨fun ht hrx => ?_, fun hrx => ⟨fun h => (hrx h).elim, hi.rest⟩⟩
  have hsrc := (ht.rx hrx).2 .rxDone rfl
  rw [hi.sources] at hsrc
  cases hsrc

/-- A failure of the command leaves no trace of the attempt: nothing has
been done yet, or `start_tx` writes STANDBY itself. -/
def Cmd.Traceless : Cmd → Prop
  | .setDioIrqParams .. => True
  | .setTx _ => True
  | _ => False

theorem midwayStill_raise (s : Ctx) (c c' : Chip) (h : Raise Any c c')
    (hi : Midway s c ∧ Still .standby c) : Midway s c' ∧ Still .standby c' :=
  ⟨midway_raise s c c' h hi.1, still_raise c c' h hi.2⟩

/-- Only commands move a chip that does not transmit. -/
theorem still_call {m : ChipMode} {i : Call} {r : Answer i} (hi : ∀ cmd, i ≠ .cmd cmd)
    (h : faultyChip c i r c') (hs : Still m c) : Still m c' := by
  obtain ⟨c₁, ht, h⟩ := h
  have h₁ : Still m c₁ := ticks_preserve still_raise ht hs
  rcases h with h | ⟨-, rfl⟩
  · cases i with
    | cmd cmd => exact (hi cmd rfl).elim
    | irqHandler =>
        obtain ⟨-, -, rfl⟩ := h
        exact ⟨h₁.op, h₁.notTx⟩
    | setIrqPending | setIrqLatchedAtMs | platformNowMs =>
        obtain rfl := h
        exact ⟨h₁.op, h₁.notTx⟩
    | _ =>
        obtain ⟨-, rfl⟩ := h
        exact h₁
  · exact h₁

/-- `sx1262_set_tx` fails on a chip in standby, and STANDBY is written. -/
theorem armTx_fails (hi : Still .standby c) :
    Ensures faultyChip armTx
      (FailsWith fun cmd s' c' => Truthful s' c' ∧ cmd.Traceless) s c := by
  refine ensures_armTx fun c₁ h₁ c₂ h₂ nowMs c₃ h₃ rc c₄ h₄ tr htr => ?_
  subst htr
  have hi₃ : Still .standby c₃ := still_call (by simp) h₃
    (still_call (by simp) h₂ (still_call (by simp) h₁ hi))
  obtain ⟨c₅, ht, h₄⟩ := h₄
  have hi₅ : Still .standby c₅ := ticks_preserve still_raise ht hi₃
  refine ⟨fun hr cmd hcmd => ?_, fun hr cmd hcmd => ?_⟩
  · obtain rfl : cmd = .setTx (s.config.txTimeoutMs * 1000) := by
      have hcmd : (if rc = 0 then none else some _) = some cmd := hcmd
      rw [if_neg fun h => hr (mapStatus_ok.mpr h)] at hcmd
      exact (Option.some.inj hcmd).symm
    rcases h₄ with ⟨rfl, -⟩ | ⟨-, rfl⟩
    · exact (hr rfl).elim
    · refine ⟨⟨fun hrx => ?_, fun _ => hi₅.op⟩, trivial⟩
      cases hrx
  · obtain rfl := mapStatus_ok.mp hr
    cases hcmd

theorem startTx_fails (ht : Truthful s c) (data : Option Buf) (len : Nat) :
    Ensures faultyChip (startTx data len)
      (FailsWith fun cmd s' c' => Truthful s' c' ↔ (s.mode = .rx → cmd.Traceless)) s c := by
  refine ensures_startTx (fun _ _ => failsWith_nil) fun _ _ => ?_
  refine failsWith_thenOk (truthful_raise s) ht ?_ fun c₁ c₂ h₁ h => ?_
  · exact fun c' h => ⟨fun _ _ => trivial, fun _ => h⟩
  obtain ⟨-, nowMs, rfl⟩ := h
  have hmid : ∀ c', Midway s c' → ∀ cmd : Cmd, ¬cmd.Traceless →
      (Truthful s c' ↔ (s.mode = .rx → cmd.Traceless)) := by
    intro c' h cmd hcmd
    rw [truthful_midway h]
    exact ⟨fun hrx hm => (hrx hm).elim, fun hrx hm => hcmd (hrx hm)⟩
  have h₂ : Midway s (c₁.edge { c₁ with
      enabled := fun q => irqMaskTx q && irqMaskTx q } nowMs) :=
    ⟨by simp, fun hsb => by rw [edge_op]; exact h₁.standby hsb⟩
  refine failsWith_thenOk (midway_raise s) h₂ (fun c' h => hmid c' h _ id)
    fun c₃ c₄ h₃ h => ?_
  obtain ⟨-, rfl⟩ := h
  refine failsWith_thenOk (midway_raise s) ⟨h₃.sources, h₃.rest⟩
    (fun c' h => hmid c' h _ id) fun c₅ c₆ h₅ h => ?_
  obtain ⟨-, rfl⟩ := h
  rw [ensures_thenOk_applyPacketParams]
  refine failsWith_thenOk (midwayStill_raise s)
    ⟨⟨h₅.sources, fun _ => rfl⟩, rfl, by decide⟩
    (fun c' h => hmid c' h.1 _ id) fun c₇ c₈ h₇ h => ?_
  obtain ⟨-, rfl⟩ := h
  refine failsWith_thenOk (midwayStill_raise s) h₇
    (fun c' h => hmid c' h.1 _ id) fun c₉ c₁₀ h₉ h => ?_
  obtain ⟨-, rfl⟩ := h
  refine (armTx_fails h₉.2).mono ?_
  intro tr _ s' c' h cmd hcmd
  obtain ⟨htruth, hless⟩ := h cmd hcmd
  exact ⟨fun _ _ => hless, fun _ => htruth⟩

/-! ## A driver that fails on the bench -/

/-- What failing looks like. -/
def failingAnswer : (i : Call) → Option (Answer i)
  | .cmd _ => some (1 : UInt8)
  | .irqHandler => some ([], 1)
  | _ => none

/-- The bench chip, with the failures `fails` picks. -/
def faultyBench (event : Chip → Call → Option Irq) (fails : Chip → Call → Bool) (c : Chip)
    (i : Call) : Answer i × Chip :=
  match fails c i, failingAnswer i with
  | true, some r => (r, c)
  | _, _ => benchChip event c i

theorem failingAnswer_fails {i : Call} {r : Answer i} (h : failingAnswer i = some r) :
    i.Fails r := by
  cases i with
  | cmd cmd =>
      obtain rfl := Option.some.inj h
      exact (by decide : (1 : UInt8) ≠ 0)
  | irqHandler =>
      obtain rfl := Option.some.inj h
      exact (by decide : (1 : UInt8) ≠ 0)
  | _ => cases h

theorem faultyBench_answers {event : Chip → Call → Option Irq} {fails : Chip → Call → Bool}
    (hevent : ∀ c i q, event c i = some q → c.op.raises q = true) :
    Answers (faultyBench event fails) faultyChip := by
  intro c i
  unfold faultyBench
  split
  · rename_i r _ hr
    exact interleave_of (.inr ⟨failingAnswer_fails hr, rfl⟩)
  · have hbench : Answers (benchChip event) (radioChip Any) :=
      benchChip_answers fun c i q hq => ⟨hevent c i q hq, trivial⟩
    obtain ⟨c₁, ht, h⟩ := hbench c i
    exact ⟨c₁, ht, .inl h⟩

/-! ## Starting -/

def Op.isStart : Op → Bool
  | .startTx .. | .startRx => true
  | _ => false

/-- `start_tx` gives up half way on a radio that was receiving. -/
def Torn (o : Op) (s : Ctx) (cmd : Cmd) : Prop :=
  match o with
  | .startTx .. => s.mode = .rx ∧ ¬cmd.Traceless
  | _ => False

/-- A `start_tx` or `start_rx` that ends at a failed driver call leaves the
mode true to the chip, exactly if it does not give up half way through
`start_tx` on a radio that was receiving. The two functions are gone through
command by command in `startTx_fails` and `startRx_fails`. -/
theorem failed_start_truthful_iff {o : Op} (ho : o.isStart = true)
    {tr : List (Event Call Answer)} {r : o.Ret} {cmd : Cmd} (ht : Truthful s c)
    (hx : Exec faultyChip (program o) s c tr r s' c') (hfail : failedCmd tr = some cmd) :
    Truthful s' c' ↔ ¬Torn o s cmd := by
  cases o with
  | startTx data len =>
      refine (startTx_fails ht data len _ _ _ _ hx cmd hfail : _ ↔ _).trans ?_
      simp only [Torn, not_and, not_not]
  | startRx => exact ⟨fun _ => id, fun _ => startRx_fails ht _ _ _ _ hx cmd hfail⟩
  | _ => cases ho

/-- `sx1262_write_buffer` fails. -/
def bufferFails (_ : Chip) : Call → Bool
  | .cmd (.writeBuffer ..) => true
  | _ => false

/-- `sx1262_clear_irq_status` fails while the chip receives with the
transmit sources on. -/
def statusFails (c : Chip) : Call → Bool
  | .cmd (.clearIrqStatus _) => c.op == .rx && c.enabled .txDone
  | _ => false

theorem ready_truthful : Truthful readyCtx readyChip where
  rx := fun h => by cases h
  standby := fun _ => rfl

theorem never_raises (c : Chip) (i : Call) (q : Irq)
    (h : (fun _ _ => none : Chip → Call → Option Irq) c i = some q) :
    c.op.raises q = true := by
  cases h

/-- The buffer cannot be written from standby, and STANDBY stays true. -/
theorem failed_start_truthful_iff_buffer : ∃ (tr : _) (r : _) (w : Ctx × Chip) (cmd : _),
    Exec faultyChip (program hello) readyCtx readyChip tr r w.1 w.2
      ∧ failedCmd tr = some cmd ∧ Truthful w.1 w.2 := by
  have heval : ∃ tr r w cmd, (program hello).eval
      (faultyBench (fun _ _ => none) bufferFails) 1 (readyCtx, readyChip) = some (tr, r, w)
      ∧ failedCmd tr = some cmd := ⟨_, _, _, _, rfl, rfl⟩
  obtain ⟨tr, r, w, cmd, heval, hcmd⟩ := heval
  have hx := Prog.eval_exec (faultyBench_answers never_raises) heval
  exact ⟨tr, r, w, cmd, hx, hcmd,
    (failed_start_truthful_iff rfl ready_truthful hx hcmd).mpr fun h => by cases h.1⟩

/-- The radio receives, `start_tx` fails to clear the status, and RX is
still reported with RX_DONE off. -/
theorem failed_start_tx_reports_rx :
    ∃ (tr₀ tr : _) (r : _) (w w' : Ctx × Chip) (cmd : _),
      Exec faultyChip (program .startRx) readyCtx readyChip tr₀ .ok w.1 w.2
        ∧ Truthful w.1 w.2 ∧ Exec faultyChip (program hello) w.1 w.2 tr r w'.1 w'.2
        ∧ failedCmd tr = some cmd ∧ w'.1.mode = .rx ∧ ¬Truthful w'.1 w'.2 := by
  have heval : ∃ tr₀ w tr r w' cmd,
      (program .startRx).eval (faultyBench (fun _ _ => none) statusFails) 1
        (readyCtx, readyChip) = some (tr₀, .ok, w)
      ∧ w.1.mode = .rx ∧ w.2.op = .rx ∧ w.2.enabled = (fun q => irqMaskRx q && irqMaskRx q)
      ∧ (program hello).eval (faultyBench (fun _ _ => none) statusFails) 1 w
        = some (tr, r, w')
      ∧ failedCmd tr = some cmd ∧ w'.1.mode = .rx ∧ w'.2.enabled .rxDone = false :=
    ⟨_, _, _, _, _, _, rfl, rfl, rfl, rfl, rfl, rfl, rfl, rfl⟩
  obtain ⟨tr₀, w, tr, r, w', cmd, heval₀, hrx, hop, hsrc, heval, hcmd, hrx', hoff⟩ := heval
  have hanswers : Answers (faultyBench (fun _ _ => none) statusFails) faultyChip :=
    faultyBench_answers never_raises
  refine ⟨tr₀, tr, r, w, w', cmd, Prog.eval_exec hanswers heval₀, ?_,
    Prog.eval_exec hanswers heval, hcmd, hrx', fun ht => ?_⟩
  · refine ⟨fun _ => ⟨hop, fun q hq => ?_⟩, fun h => ?_⟩
    · simp [hsrc, hq]
    · rw [hrx] at h
      cases h
  · have hon := (ht.rx hrx').2 .rxDone rfl
    rw [hoff] at hon
    cases hon

end Sx126x

end LeosSdk
