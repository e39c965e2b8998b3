import LeosSdk.RadioChip

/-!
# SX126x: what crc_ok says

A corrupted packet raises RX_DONE and CRC_ERR, which one call of
`sx1262_irq_handler` reports in two callback invocations. Only the first of
them reaches the receive slot: `latch_rx` stores `crc_ok = true` whatever
else is reported, and the CRC_ERR case looks at the mode only. So reads
tell the truth about packets exactly as long as no handler call that
reports CRC_ERR brings a packet to a free slot (`crc_ok_truthful`).

`verdict` keeps, beside a run, whether the unread packet failed its CRC. It
looks at the reports alone: those of one handler call are about one packet,
and it is the unread one if there was none before. `CrcInv` is what the code
has to say about it, which is always the same: a packet that is unread has
`crc_ok` set. So a state's reads lie exactly if the verdict on its unread
packet is that it failed (`readsTruly_iff`), and the verdict becomes that
in the very steps the condition names (`verdictStep_failed`). The driver is
arbitrary.
-/

namespace LeosSdk

namespace Sx126x

variable {ε : Type} {E : Env ε Call Answer} {tick : ε → ε → Prop} {s s' : Ctx}

/-! ## The verdict on the unread packet -/

/-- Whether the unread packet, if there is one, failed its CRC: reports of
one handler call are about one packet, which is stored if none is unread. -/
def verdictStep (failed : Option Bool) : RadioLabel → Option Bool
  | .op .poll tr _ =>
    if failed = none ∧ bringsPacket (reportsOf tr) = true then
      some (reported (reportsOf tr) .crcErr)
    else failed
  | .op (.read ..) _ r => if r.status = .ok then none else failed
  | _ => failed

def verdict (xs : List (Rec (Ctx × ε) RadioLabel)) : Option Bool :=
  xs.foldl (fun failed x => verdictStep failed x.label) none

theorem verdict_snoc (xs : List (Rec (Ctx × ε) RadioLabel)) (x : Rec (Ctx × ε) RadioLabel) :
    verdict (xs ++ [x]) = verdictStep (verdict xs) x.label := by
  rw [verdict, List.foldl_append]
  rfl

/-- Every read that succeeds now returns the unread packet with `crc_ok`
saying whether it passed. -/
def ReadsTruly (E : Env ε Call Answer) (w : Ctx × ε) (failed : Option Bool) : Prop :=
  ∀ bufNull bufSize outLenNull infoNull tr r s' e' info,
    Exec E (read bufNull bufSize outLenNull infoNull) w.1 w.2 tr r s' e' →
      r.info = some info → failed = some !info.crcOk

/-- If there is an unread packet, a read with room for it returns, and with
the packet's metadata. -/
def ReadsUnread (E : Env ε Call Answer) (w : Ctx × ε) (failed : Option Bool) : Prop :=
  failed.isSome = true → ∀ bufSize, w.1.rxLen ≤ bufSize →
    Total E (read false bufSize false false)
      (fun _ r _ _ => r.status = .ok ∧ r.info = some w.1.rxInfo) w.1 w.2

/-- A handler call that reports CRC_ERR brings a packet to a free slot. -/
def StoresFailed (x : Rec (Ctx × ε) RadioLabel) : Prop :=
  ∃ tr r, x.label = .op .poll tr r ∧ x.pre.1.rxPending = false
    ∧ bringsPacket (reportsOf tr) = true ∧ reported (reportsOf tr) .crcErr = true

/-! ## The slot always says OK -/

/-- A stored packet is unread, and the slot calls it good. -/
structure CrcInv (s : Ctx) (failed : Option Bool) : Prop where
  initialized : s.initialized = true
  pending : s.rxPending = failed.isSome
  good : s.rxPending = true → s.rxInfo.crcOk = true

theorem packetInfo_crcOk (rc : UInt8) (st : PacketStatus) :
    (packetInfo rc st).crcOk = true := by
  unfold packetInfo
  split <;> rfl

theorem delivered_good {sl sl' : RxSlot} {reports : List Report}
    {tr : List (Event Call Answer)} (h : Delivered sl reports tr sl')
    (hgood : sl.pending = true → sl.info.crcOk = true) :
    sl'.pending = (sl.pending || bringsPacket reports)
      ∧ (sl'.pending = true → sl'.info.crcOk = true) := by
  induction h with
  | nil => exact ⟨by simp [bringsPacket], hgood⟩
  | cons hr _ ih =>
      cases hr with
      | ignored hn =>
          obtain ⟨hpend, hcrc⟩ := ih hgood
          exact ⟨by simp [hpend, bringsPacket, hn], hcrc⟩
      | overrun hp hfull =>
          obtain ⟨hpend, hcrc⟩ := ih hgood
          exact ⟨by simp [hpend, hfull], hcrc⟩
      | latched hp hfree rc st =>
          obtain ⟨hpend, hcrc⟩ := ih fun _ => packetInfo_crcOk rc st
          exact ⟨by simp [hpend, bringsPacket, hp, RxSlot.latch], hcrc⟩

theorem crcInv_same {failed : Option Bool} (hi : CrcInv s failed)
    (hinit : s'.initialized = s.initialized) (hslot : s'.slot = s.slot) :
    CrcInv s' failed where
  initialized := hinit.trans hi.initialized
  pending := (congrArg RxSlot.pending hslot).trans hi.pending
  good h := (congrArg (fun sl => sl.info.crcOk) hslot).trans
    (hi.good ((congrArg RxSlot.pending hslot).symm.trans h))

theorem crcInv_poll {failed : Option Bool} {tr : List (Event Call Answer)}
    {r : RadioStatus} (hi : CrcInv s failed) (h : Poll s tr r s') :
    CrcInv s' (verdictStep failed (.op .poll tr r)) := by
  obtain ⟨tr₁, hd, -⟩ := poll_delivered h
  obtain ⟨hpend, hgood⟩ := delivered_good hd hi.good
  refine ⟨(poll_initialized h).trans hi.initialized, hpend.trans ?_, hgood⟩
  rw [show s.slot.pending = failed.isSome from hi.pending]
  cases failed with
  | some b => simp [verdictStep]
  | none => cases hb : bringsPacket (reportsOf tr) <;> simp [verdictStep, hb]

theorem crcInv_op {failed : Option Bool} {o : Op} {tr : List (Event Call Answer)}
    {r : o.Ret} (hi : CrcInv s failed) (h : OpStep s o tr r s') :
    CrcInv s' (verdictStep failed (.op o tr r)) := by
  cases o with
  | init =>
      cases h with
      | refused => exact hi
      | failed hi' | done hi' => cases hi.initialized.symm.trans hi'
  | startTx => cases h <;> exact crcInv_same hi rfl rfl
  | startRx => cases h <;> exact crcInv_same hi rfl rfl
  | standby => cases h <;> exact crcInv_same hi rfl rfl
  | read bufNull bufSize outLenNull infoNull =>
      cases h with
      | @refused r hr =>
          have hr' : (ReadResult.failed r).status ≠ .ok := hr
          simpa only [verdictStep, hr', if_false] using hi
      | taken => exact ⟨hi.initialized, rfl, fun h => by cases h⟩
  | poll => exact crcInv_poll hi h

theorem crcInv_step {w w' : Ctx × ε} {l : RadioLabel} {failed : Option Bool}
    (h : Session program E tick w l w') (hi : CrcInv w.1 failed) :
    CrcInv w'.1 (verdictStep failed l) := by
  cases h with
  | tick => exact hi
  | @op o s e tr r s' e' hx => exact crcInv_op hi (program_spec o _ _ _ _ hx)

/-! ## Reading truly -/

theorem readsUnread {e : ε} {failed : Option Bool} (hi : CrcInv s failed) :
    ReadsUnread E (s, e) failed := by
  intro hunread bufSize hroom
  have hp : s.rxPending = true := hi.pending.trans hunread
  have hfits : ¬bufSize < s.rxLen := Nat.not_lt.mpr hroom
  simp only [read, Bool.or_self, Bool.false_eq_true, if_false]
  refine total_bind (total_read ?_)
  simp only [hi.initialized, hp, hfits, Bool.not_true, Bool.false_eq_true, if_false]
  exact total_bind (.put (.ret (total_pure ⟨rfl, rfl⟩)))

theorem readsTruly_iff {e : ε} {failed : Option Bool} (hi : CrcInv s failed) :
    ReadsTruly E (s, e) failed ↔ failed ≠ some true := by
  constructor
  · rintro h rfl
    have hp : s.rxPending = true := hi.pending
    have hreads : ReadsUnread E (s, e) (some true) := readsUnread hi
    obtain ⟨tr, r, s', e', hx, -, hinfo⟩ := (hreads rfl s.rxLen (Nat.le_refl _)).exec
    have := h _ _ _ _ _ _ _ _ _ hx hinfo
    rw [hi.good hp] at this
    cases this
  · intro hne bufNull bufSize outLenNull infoNull tr r s' e' info hx hinfo
    have hr := read_spec bufNull bufSize outLenNull infoNull _ _ _ _ hx
    cases hr with
    | refused => cases hinfo
    | taken _ hp _ =>
        obtain ⟨b, rfl⟩ := Option.isSome_iff_exists.mp (hi.pending.symm.trans hp)
        cases b with
        | true => exact absurd rfl hne
        | false =>
            cases infoNull with
            | true => cases hinfo
            | false =>
                obtain rfl := Option.some.inj hinfo
                rw [hi.good hp]
                rfl

/-- A step makes the verdict on the unread packet a failed one just if it
stores a failed packet. -/
theorem verdictStep_failed {x : Rec (Ctx × ε) RadioLabel} {failed : Option Bool}
    (hi : CrcInv x.pre.1 failed) (hne : failed ≠ some true) :
    verdictStep failed x.label = some true ↔ StoresFailed x := by
  have hpend := hi.pending
  constructor
  · intro h
    unfold verdictStep at h
    split at h
    · rename_i tr r hl
      split at h
      · rename_i hnew
        refine ⟨tr, r, hl, ?_, hnew.2, Option.some.inj h⟩
        rw [hpend, hnew.1]
        rfl
      · exact absurd h hne
    · split at h
      · cases h
      · exact absurd h hne
    · exact absurd h hne
  · intro h
    rcases h with ⟨tr, r, hl, hfree, hbrings, hcrc⟩
    rw [hfree] at hpend
    have hnone : failed = none := by simpa using hpend.symm
    rw [hl]
    simp only [verdictStep, hnone, hbrings, hcrc, and_self, if_true]

/-! ## Over runs -/

section Run

variable {w₀ w : Ctx × ε} {xs : List (Rec (Ctx × ε) RadioLabel)}

theorem crcInv_run (h : Run (Session program E tick) w₀ xs w) (h0 : CrcInv w₀.1 none) :
    CrcInv w.1 (verdict xs) := by
  induction h with
  | nil => exact h0
  | snoc _ hs ih =>
      rw [verdict_snoc]
      exact crcInv_step hs ih

theorem crcInv_init {e : ε} {hwCfg : Option RadioHwConfig} {cfg : Option RadioConfig}
    {tr : List (Event Call Answer)} (h : Exec E (init hwCfg cfg) s e tr .ok w₀.1 w₀.2) :
    CrcInv w₀.1 none := by
  have hinit := init_spec hwCfg cfg _ _ _ _ h
  generalize w₀.1 = s₀ at hinit
  cases hinit with
  | refused hr | failed _ hr => exact (hr rfl).elim
  | done => exact ⟨rfl, rfl, fun h => by cases h⟩

/-- Reads tell the truth in every state of a run whose start has the slot
free, exactly if no step of it stores a failed packet: the slot calls every
packet good, so the reads of a state lie just if its verdict is a failed
one, and the first state of that kind comes after such a step. -/
theorem readsTruly_run (hinit : CrcInv w₀.1 none) (h : Run (Session program E tick) w₀ xs w) :
    (∀ ys w', ys <+: xs → Run (Session program E tick) w₀ ys w' →
      ReadsTruly E w' (verdict ys)) ↔ ∀ x ∈ xs, ¬StoresFailed x := by
  have htruly : ∀ ys w', Run (Session program E tick) w₀ ys w' →
      (ReadsTruly E w' (verdict ys) ↔ verdict ys ≠ some true) :=
    fun ys w' h => readsTruly_iff (crcInv_run h hinit)
  induction h with
  | nil =>
      refine ⟨fun _ x hx => (List.not_mem_nil hx).elim, fun _ ys w' hys h => ?_⟩
      obtain rfl := List.prefix_nil.mp hys
      exact (htruly [] w' h).mpr (by simp [verdict])
  | @snoc xs w l w' h hs ih =>
      have hi := crcInv_run h hinit
      have hstep : verdict xs ≠ some true →
          (verdict (xs ++ [⟨w, l, w'⟩]) = some true ↔ StoresFailed ⟨w, l, w'⟩) := by
        rw [verdict_snoc]
        exact verdictStep_failed hi
      constructor
      · intro hall x hx
        rcases List.mem_append.mp hx with hx | hx
        · exact ih.mp (fun ys w' hys => hall ys w' (hys.trans (List.prefix_append ..))) x hx
        · obtain rfl := List.mem_singleton.mp hx
          have hw := (htruly _ _ h).mp (hall xs w (List.prefix_append ..) h)
          have hw' := (htruly _ _ (h.snoc hs)).mp (hall _ w' (List.prefix_refl _) (h.snoc hs))
          exact fun hf => hw' ((hstep hw).mpr hf)
      · intro hgood ys w'' hys hrun
        have hxs : ∀ x ∈ xs, ¬StoresFailed x :=
          fun x hx => hgood x (List.mem_append_left _ hx)
        rcases List.prefix_concat_iff.mp hys with rfl | hys
        · have hw := (htruly _ _ h).mp (ih.mpr hxs xs w (List.prefix_refl _) h)
          refine (htruly _ _ hrun).mpr fun hf => ?_
          exact hgood ⟨w, l, w'⟩ (by simp) ((hstep hw).mp hf)
        · exact ih.mpr hxs ys w'' hys hrun

/-- In every run after `init`: in every state reached reads tell the truth
about the unread packet, exactly when no handler call that reports CRC_ERR
brings a packet to a free slot; and a read with room for that packet
succeeds in any case. -/
theorem crc_ok_truthful {e : ε} {hwCfg : Option RadioHwConfig} {cfg : Option RadioConfig}
    {tr₀ : List (Event Call Answer)} (h0 : Exec E (init hwCfg cfg) s e tr₀ .ok w₀.1 w₀.2)
    (h : Run (Session program E tick) w₀ xs w) :
    ((∀ ys w', ys <+: xs → Run (Session program E tick) w₀ ys w' →
        ReadsTruly E w' (verdict ys)) ↔ ∀ x ∈ xs, ¬StoresFailed x)
      ∧ ∀ ys w', ys <+: xs → Run (Session program E tick) w₀ ys w' →
        ReadsUnread E w' (verdict ys) :=
  ⟨readsTruly_run (crcInv_init h0) h,
    fun _ _ _ h => readsUnread (crcInv_run h (crcInv_init h0))⟩

end Run

/-! ## Concrete runs -/

/-- A driver with an interrupt pending at every poll that reports `qs`, as
far as they are enabled. -/
def reportingDriver (qs : List Irq) : Driver → (i : Call) → Answer i × Driver
  | d, .irqHandler => (((qs.filter d.enabled).map benchReport, 0), d)
  | d, i => eagerDriver d i

theorem reportingDriver_answers (qs : List Irq) : Answers (reportingDriver qs) radioEnv := by
  intro d i
  cases i with
  | irqHandler =>
      refine interleave_of ⟨fun rep hrep => ?_, rfl⟩
      obtain ⟨q, hq, rfl⟩ := List.mem_map.mp hrep
      exact (List.mem_filter.mp hq).2
  | _ => exact eagerDriver_answers d _

/-- The radio after `init` with the default configuration. -/
def benchReady : Ctx × Driver := (readyCtx, (bench .sx1262).2)

theorem bench_init (qs : List Irq) :
    ∃ tr, Exec radioEnv (init (some (Ctx.powerOn .sx1262).hwConfig)
      (some (getDefaultConfig .sx1262))) (Ctx.powerOn .sx1262) (bench .sx1262).2 tr .ok
      benchReady.1 benchReady.2 :=
  ⟨_, Prog.eval_exec (reportingDriver_answers qs)
    (show (init (some (Ctx.powerOn .sx1262).hwConfig)
      (some (getDefaultConfig .sx1262))).eval (reportingDriver qs) 1 (bench .sx1262)
        = some (_, .ok, benchReady) from rfl)⟩

/-- Receiving one packet and reading it. -/
def receiveOne : List Op := [.startRx, .poll, .read false 255 false false]

/-- What a run's reads said about the packets they returned. -/
def readVerdicts (xs : List (Rec (Ctx × Driver) RadioLabel)) : List Bool :=
  xs.filterMap fun x =>
    match x.label with
    | .op (.read ..) _ r => r.info.map (·.crcOk)
    | _ => none

def reportsCrcErr : RadioLabel → Bool
  | .op _ tr _ => reported (reportsOf tr) .crcErr
  | .tick => false

/-- A packet is received and read, and no event names a CRC error: the read
says that it is good, and it is. -/
theorem crc_ok_truthful_good :
    ∃ (xs : List (Rec (Ctx × Driver) RadioLabel)) (w : Ctx × Driver),
      Run RadioStep benchReady xs w ∧ readVerdicts xs = [true]
        ∧ ∀ ys w', ys <+: xs → Run RadioStep benchReady ys w' →
          ReadsTruly radioEnv w' (verdict ys) := by
  obtain ⟨tr, h0⟩ := bench_init [.rxDone]
  obtain ⟨xs, w, hrun, hw⟩ := evalsTo_run dio1Irq (reportingDriver_answers [.rxDone])
    (show evalsTo program (reportingDriver [.rxDone]) 1 receiveOne benchReady
      (fun xs _ => readVerdicts xs == [true] && xs.all fun x => !reportsCrcErr x.label)
        = true by decide +kernel)
  simp only [Bool.and_eq_true, beq_iff_eq, List.all_eq_true] at hw
  refine ⟨xs, w, hrun, hw.1, (crc_ok_truthful h0 hrun).1.mpr fun x hx hf => ?_⟩
  obtain ⟨tr, r, hl, -, -, hcrc⟩ := hf
  have := hw.2 x hx
  simp [hl, reportsCrcErr, hcrc] at this

/-- In either order of the two reports a corrupted packet is read with
`crc_ok` set. -/
theorem corrupted_read :
    ∀ qs ∈ [[Irq.rxDone, .crcErr], [.crcErr, .rxDone]],
      ∃ (xs ys : List (Rec (Ctx × Driver) RadioLabel)) (w w' : Ctx × Driver),
        Run RadioStep benchReady xs w ∧ readVerdicts xs = [true]
          ∧ ys <+: xs ∧ Run RadioStep benchReady ys w'
          ∧ verdict ys = some true ∧ ¬ReadsTruly radioEnv w' (verdict ys) := by
  intro qs hqs
  have heval : ∀ qs ∈ [[Irq.rxDone, .crcErr], [.crcErr, .rxDone]],
      evalsTo program (reportingDriver qs) 1 receiveOne benchReady
        (fun xs _ => readVerdicts xs == [true] && verdict (xs.take 2) == some true)
          = true := by decide +kernel
  obtain ⟨tr, h0⟩ := bench_init qs
  obtain ⟨xs, w, hrun, hw⟩ := evalsTo_run dio1Irq (reportingDriver_answers qs) (heval qs hqs)
  simp only [Bool.and_eq_true, beq_iff_eq] at hw
  have hsplit : Run RadioStep benchReady (xs.take 2 ++ xs.drop 2) w := by
    rwa [List.take_append_drop]
  obtain ⟨w', hrun', -⟩ := hsplit.split
  refine ⟨xs, xs.take 2, w, w', hrun, hw.1, List.take_prefix .., hrun', hw.2, ?_⟩
  exact fun h => (readsTruly_iff (crcInv_run hrun' (crcInv_init h0))).mp h hw.2

/-- The same with a packet that came with a CRC error: the read says that it
is good. -/
theorem corrupted_read_as_good :
    ∃ (xs ys : List (Rec (Ctx × Driver) RadioLabel)) (w w' : Ctx × Driver),
      Run RadioStep benchReady xs w ∧ readVerdicts xs = [true]
        ∧ ys <+: xs ∧ Run RadioStep benchReady ys w'
        ∧ verdict ys = some true ∧ ¬ReadsTruly radioEnv w' (verdict ys) :=
  corrupted_read [.rxDone, .crcErr] (List.mem_cons_self ..)

end Sx126x

end LeosSdk
