import LeosSdk.RadioTx

/-!
# SX126x: a busy radio comes back

When `start_tx` and `start_rx` refuse at once with `LEOS_RADIO_ERR_BUSY`, with
any driver and any clock. A transmission is over at the first `poll` that
fails, is told TX_DONE or TIMEOUT, or reads the clock at or after the deadline
(`Ends`), and the radio is busy from an accepted `start_tx` to there and no
longer (`busy_iff_unfinished`). So no order of calls and no fault of the
driver takes a radio away for good: polling past the deadline gives it back.
Whatever else `start_tx` and `start_rx` return is the result of their last
driver call.

Two things are shown of a step. It makes `tx_in_flight` fall exactly if it is
a `poll` of the kind above (`falls_iff_ends`), where the clock is the one
`poll` itself reads: it does so once, and only with a transmission in flight.
And a transmission that stays in flight keeps its start and its timeout
(`op_sameDeadline`), so the deadline of a later `poll` is that of the
acceptance, however many calls lie between. Along a run the two give that a
transmission is in flight exactly if the last accepted `start_tx` has not
ended (`Unfinished`).

That a refusal is `LEOS_RADIO_ERR_BUSY` for this reason only is read off the
trace: a refusal asks the driver nothing, while every other result is that of
a call in the trace (`FromDriver`), which then is not empty.
-/

namespace LeosSdk

namespace Sx126x

variable {ε : Type} {E : Env ε Call Answer} {tick : ε → ε → Prop} {s s' : Ctx} {e : ε}

/-! ## The end of a transmission -/

/-- A `poll` that ends the transmission whose start and timeout `s` has. -/
def Ends (s : Ctx) (l : RadioLabel) : Prop :=
  ∃ tr r, l = .op .poll tr r
    ∧ (r ≠ .ok ∨ reported (reportsOf tr) .txDone = true ∨ reported (reportsOf tr) .timeout = true
      ∨ ∃ nowMs, (⟨.platformNowMs, nowMs⟩ : Event Call Answer) ∈ tr ∧ s.pastDeadline nowMs)

def SameDeadline (s s' : Ctx) : Prop :=
  s'.txStartedAtMs = s.txStartedAtMs ∧ s'.config.txTimeoutMs = s.config.txTimeoutMs

theorem SameDeadline.trans {s₁ s₂ s₃ : Ctx} (h : SameDeadline s₁ s₂) (h' : SameDeadline s₂ s₃) :
    SameDeadline s₁ s₃ := ⟨h'.1.trans h.1, h'.2.trans h.2⟩

theorem SameDeadline.ends_iff {l : RadioLabel} (h : SameDeadline s s') :
    Ends s' l ↔ Ends s l := by
  simp only [Ends, Ctx.pastDeadline, h.1, h.2]

theorem Serviced.reads_no_clock {tr : List (Event Call Answer)} {r : RadioStatus}
    (h : Serviced s tr r s') (nowMs : UInt64) :
    (⟨.platformNowMs, nowMs⟩ : Event Call Answer) ∉ tr := by
  cases h with
  | idle => simp
  | handled reports rc h =>
      intro hmem
      simp only [List.mem_cons, reduceCtorEq, Event.mk.injEq, false_and, false_or] at hmem
      obtain ⟨_, _, heq⟩ := h.asks _ hmem
      cases heq

/-- With a transmission in flight the rest of `poll` reads the clock, once,
and does not let it live past its deadline. -/
theorem pollTx_reads : Ensures E pollTx (fun tr _ s' _ => s.txInFlight = true →
    ∃ nowMs, tr = [⟨.platformNowMs, nowMs⟩]
      ∧ (s'.txInFlight = true → ¬s.pastDeadline nowMs)) s e := by
  simp only [pollTx, ensures_bind, ensures_read, ensures_ask, ensures_ite, ensures_pure,
    ensures_modify]
  refine ⟨fun hidle hf => by simp [hf] at hidle, fun _ nowMs e₁ _ => ?_⟩
  refine ⟨fun _ _ => ⟨nowMs, rfl, fun hf => by cases hf⟩,
    fun _ => ⟨fun _ _ => ⟨nowMs, rfl, fun hf => by cases hf⟩, fun hwait _ => ⟨nowMs, rfl, ?_⟩⟩⟩
  simp only [Bool.or_eq_true, decide_eq_true_eq, not_or] at hwait
  exact fun _ => hwait.2

theorem poll_reads : Ensures E poll (fun tr r s' _ => s.txInFlight = true → r = .ok →
    ∃ nowMs, (∀ m, (⟨.platformNowMs, m⟩ : Event Call Answer) ∈ tr ↔ m = nowMs)
      ∧ (s'.txInFlight = true → ¬s.pastDeadline nowMs)) s e := by
  refine ensures_poll.mpr ⟨fun _ _ h => (by decide : RadioStatus.errState ≠ .ok) h |>.elim,
    fun _ => serviceDeferredIrq_spec.mono fun tr status s₁ e₁ hs => ?_⟩
  refine ⟨fun hr _ hok => (hr hok).elim, fun _ => pollTx_reads.mono ?_⟩
  intro tr' r s' e' h hf _
  obtain ⟨sl, rfl⟩ := hs.noted
  obtain ⟨nowMs, rfl, hlate⟩ := h (by simpa using hf)
  refine ⟨nowMs, fun m => ?_, fun hf' => ?_⟩
  · simp [hs.reads_no_clock m]
  · rw [← noted_pastDeadline]
    exact hlate hf'

/-- A `poll` of a radio with a transmission in flight ends it exactly if it
is one that does. -/
theorem poll_falls_iff {tr : List (Event Call Answer)} {r : RadioStatus} {e' : ε}
    (hi : TxInv s) (hf : s.txInFlight = true) (hx : Exec E poll s e tr r s' e') :
    s'.txInFlight = false ↔ Ends s (.op .poll tr r) := by
  have hreads := poll_reads _ _ _ _ hx hf
  have hout := (poll_spec _ _ _ _ hx).outcome
  constructor
  · intro hf'
    refine ⟨tr, r, rfl, ?_⟩
    cases hout with
    | refused => exact .inl (by decide)
    | quiet _ hidle => cases hf.symm.trans hidle
    | failed _ _ hr => exact .inl hr
    | done _ _ hd => exact .inr (.inl (by simpa [hi.notDone hf] using hd))
    | timedOut nowMs _ _ hnow _ ht =>
        rcases ht with ht | ht
        · exact .inr (.inr (.inl (by simpa [hi.notTimeout hf] using ht)))
        · exact .inr (.inr (.inr ⟨nowMs, hnow, ht⟩))
    | waiting => simp [hf] at hf'
  · rintro ⟨tr', r', heq, hends⟩
    cases heq
    cases hout with
    | refused hinit => cases (hi.live hf).symm.trans hinit
    | quiet _ hidle => cases hf.symm.trans hidle
    | failed | done | timedOut => rfl
    | waiting _ _ hd ht =>
        exfalso
        simp only [noted_txDone, noted_timeout, Bool.or_eq_false_iff] at hd ht
        obtain ⟨nowMs, hnow, hlate⟩ := hreads rfl
        rcases hends with hr | hdone | htimeout | ⟨m, hm, hpast⟩
        · exact hr rfl
        · cases hdone.symm.trans hd.2
        · cases htimeout.symm.trans ht.2
        · rw [(hnow m).mp hm] at hpast
          exact hlate (by simpa using hf) hpast

theorem falls_iff_ends {w w' : Ctx × ε} {l : RadioLabel} (h : Session program E tick w l w')
    (hi : TxInv w.1) (hf : w.1.txInFlight = true) : w'.1.txInFlight = false ↔ Ends w.1 l := by
  cases h with
  | tick =>
      constructor
      · intro hf'
        cases hf.symm.trans hf'
      · rintro ⟨_, _, hl, _⟩
        cases hl
  | @op o s e tr r s' e' hx =>
      by_cases ho : o = .poll
      · subst ho
        exact poll_falls_iff hi hf hx
      · have hnot : ¬Ends s (.op o tr r) := by
          rintro ⟨_, _, hl, _⟩
          cases hl
          exact ho rfl
        have hchange := (txChange_op hi (program_spec o _ _ _ _ hx)).1
        refine ⟨fun hf' => ?_, fun hends => (hnot hends).elim⟩
        generalize hl : (Label.op o tr r : RadioLabel) = l at hchange
        cases hchange with
        | accepted h0 => cases hf.symm.trans h0
        | ended =>
            cases hl
            exact (ho rfl).elim
        | kept _ hsame => cases hf.symm.trans (hsame.symm.trans hf')

/-- A transmission that stays in flight keeps its start and its timeout. -/
theorem op_sameDeadline {o : Op} {tr : List (Event Call Answer)} {r : o.Ret}
    (h : OpStep s o tr r s') (hf : s.txInFlight = true) (hf' : s'.txInFlight = true) :
    SameDeadline s s' := by
  have hnoted (reports : List Report) (sl : RxSlot) : SameDeadline s (s.noted reports sl) := by
    rw [Ctx.noted, noteReports_eq]
    exact ⟨rfl, rfl⟩
  cases o with
  | init hwCfg cfg =>
      cases h with
      | refused => exact ⟨rfl, rfl⟩
      | failed | done => cases hf'
  | startTx data len =>
      cases h with
      | refused => exact ⟨rfl, rfl⟩
      | failed hready | armed hready => cases hf.symm.trans hready.idle
  | startRx | read | standby => cases h <;> exact ⟨rfl, rfl⟩
  | poll =>
      have hout := Poll.outcome h
      cases hout with
      | refused => exact ⟨rfl, rfl⟩
      | quiet _ hidle => cases hf.symm.trans hidle
      | failed | done | timedOut => cases hf'
      | waiting => exact hnoted ..

theorem step_sameDeadline {w w' : Ctx × ε} {l : RadioLabel} (h : Session program E tick w l w')
    (hf : w.1.txInFlight = true) (hf' : w'.1.txInFlight = true) : SameDeadline w.1 w'.1 := by
  cases l with
  | tick => exact h.ticked.1 ▸ ⟨rfl, rfl⟩
  | op o tr r => exact op_sameDeadline (op_step h rfl) hf hf'

/-! ## What a refusal tells -/

/-- `mode` is TX only with a transmission in flight. -/
theorem op_modeTx {o : Op} {tr : List (Event Call Answer)} {r : o.Ret}
    (h : OpStep s o tr r s') (hm : s.mode = .tx → s.txInFlight = true) :
    s'.mode = .tx → s'.txInFlight = true := by
  cases o with
  | init hwCfg cfg =>
      cases h with
      | refused => exact hm
      | failed | done => exact fun hmode => by cases hmode
  | startTx data len =>
      cases h with
      | refused => exact hm
      | failed => exact fun hmode => by cases hmode
      | armed => exact fun _ => rfl
  | startRx =>
      cases h with
      | refused => exact hm
      | entered => exact fun hmode => by cases hmode
  | read => cases h <;> exact hm
  | standby =>
      cases h with
      | refused => exact hm
      | done => exact fun hmode => by cases hmode
  | poll =>
      have hout := Poll.outcome h
      cases hout with
      | refused => exact hm
      | quiet _ hidle =>
          intro hmode
          rw [noted_mode] at hmode
          have hne : s.mode ≠ .tx := by
            intro htx
            cases (hm htx).symm.trans hidle
          exact absurd hmode (reportedMode_ne_tx hne)
      | failed | done | timedOut => exact fun hmode => by cases hmode
      | waiting _ hf => exact fun _ => by simpa using hf

/-- The result of the driver call that failed, if any did. -/
def FromDriver (tr : List (Event Call Answer)) (r : RadioStatus) : Prop :=
  r = .ok ∨ ∃ c rc, (⟨.cmd c, rc⟩ : Event Call Answer) ∈ tr ∧ rc ≠ 0 ∧ r = mapStatus rc

theorem FromDriver.append {tr : List (Event Call Answer)} {r : RadioStatus}
    (h : FromDriver tr r) (tr₀ : List (Event Call Answer)) : FromDriver (tr₀ ++ tr) r := by
  rcases h with hok | ⟨c, rc, hmem, hrest⟩
  · exact .inl hok
  · exact .inr ⟨c, rc, List.mem_append_right _ hmem, hrest⟩

/-- A refusal comes before any driver call. -/
theorem FromDriver.not_nil {r : RadioStatus} (h : FromDriver [] r) : r = .ok := by
  rcases h with hok | ⟨_, _, hmem, _⟩
  · exact hok
  · exact (List.not_mem_nil hmem).elim

theorem driver_fromDriver (c : Cmd) :
    Ensures E (driver c) (fun tr r _ _ => FromDriver tr r) s e := by
  refine ensures_driver.mpr fun rc _ _ => ?_
  by_cases hrc : rc = 0
  · exact .inl (mapStatus_ok.mpr hrc)
  · exact .inr ⟨c, rc, List.mem_singleton.mpr rfl, hrc, rfl⟩

theorem thenOk_fromDriver {p q : Api RadioStatus}
    (hp : Ensures E p (fun tr r _ _ => FromDriver tr r) s e)
    (hq : ∀ s e, Ensures E q (fun tr r _ _ => FromDriver tr r) s e) :
    Ensures E (thenOk p q) (fun tr r _ _ => FromDriver tr r) s e :=
  ensures_thenOk.mpr <| hp.mono fun tr _ s' e' h =>
    ⟨fun _ => (hq s' e').mono fun _ _ _ _ h' => h'.append tr, fun _ => h⟩

theorem applyPacketParams_fromDriver (n : UInt8) :
    Ensures E (applyPacketParams n) (fun tr r _ _ => FromDriver tr r) s e := by
  simp only [applyPacketParams, ensures_bind, ensures_read, List.nil_append]
  exact driver_fromDriver _

theorem armTx_fromDriver : Ensures E armTx (fun tr r _ _ => FromDriver tr r) s e := by
  refine ensures_armTx fun e₁ _ e₂ _ nowMs e₃ _ rc e₄ _ tr htr => ⟨fun hr => ?_, fun _ => .inl rfl⟩
  exact .inr ⟨_, rc, by simp [htr], fun h => hr (mapStatus_ok.mpr h), rfl⟩

theorem enterRx_fromDriver : Ensures E enterRx (fun tr r _ _ => FromDriver tr r) s e := by
  simp only [enterRx, ensures_bind, ensures_ask, ensures_modify, ensures_pure]
  exact fun _ _ _ => .inl rfl

/-- `start_tx` with a payload it takes, on an initialised radio. -/
theorem startTx_answer {data : Buf} {len : Nat} (hlen : len ≠ 0 ∧ len ≤ maxPayloadLen)
    (hinit : s.initialized = true) :
    Ensures E (startTx (some data) len) (fun tr r _ _ =>
      (s.txInFlight = true ∨ s.mode = .tx) ∧ tr = [] ∧ r = .errBusy
      ∨ ¬(s.txInFlight = true ∨ s.mode = .tx) ∧ FromDriver tr r) s e := by
  simp only [startTx, ensures_ite, ensures_bind, ensures_read, ensures_pure, List.nil_append]
  refine ⟨fun hbad => ?_, fun _ => ⟨fun hun => by simp [hinit] at hun, fun _ =>
    ⟨fun hbusy => .inl ⟨by simpa using hbusy, trivial, trivial⟩, fun hfree => ?_⟩⟩⟩
  · rcases hbad with hzero | hlong
    · exact (hlen.1 hzero).elim
    · exact (Nat.not_lt.mpr hlen.2 hlong).elim
  · have hfree' : ¬(s.txInFlight = true ∨ s.mode = .tx) := by simpa using hfree
    refine Ensures.mono ?_ fun _ _ _ _ h => .inr ⟨hfree', h⟩
    refine thenOk_fromDriver (driver_fromDriver _) fun _ _ => ?_
    refine thenOk_fromDriver (driver_fromDriver _) fun _ _ => ?_
    refine thenOk_fromDriver (driver_fromDriver _) fun _ _ => ?_
    refine thenOk_fromDriver (applyPacketParams_fromDriver _) fun _ _ => ?_
    exact thenOk_fromDriver (driver_fromDriver _) fun _ _ => armTx_fromDriver

theorem startRx_answer (hinit : s.initialized = true) :
    Ensures E startRx (fun tr r _ _ =>
      s.mode = .tx ∧ tr = [] ∧ r = .errBusy ∨ s.mode ≠ .tx ∧ FromDriver tr r) s e := by
  simp only [startRx, ensures_ite, ensures_bind, ensures_read, ensures_pure, List.nil_append]
  refine ⟨fun hun => by simp [hinit] at hun, fun _ =>
    ⟨fun hm => .inl ⟨hm, trivial, trivial⟩, fun hm => ?_⟩⟩
  refine Ensures.mono ?_ fun _ _ _ _ h => .inr ⟨hm, h⟩
  refine thenOk_fromDriver (driver_fromDriver _) fun _ _ => ?_
  refine thenOk_fromDriver (driver_fromDriver _) fun _ _ => ?_
  refine thenOk_fromDriver (applyPacketParams_fromDriver _) fun _ _ => ?_
  exact thenOk_fromDriver (driver_fromDriver _) fun _ _ => enterRx_fromDriver

/-! ## Along a run -/

section Run

variable {w₀ w : Ctx × ε} {xs ys zs : List (Rec (Ctx × ε) RadioLabel)}

/-- The last accepted `start_tx` has not ended. -/
def Unfinished (ys : List (Rec (Ctx × ε) RadioLabel)) : Prop :=
  ∃ us a vs, ys = us ++ a :: vs ∧ accepts a = true ∧ ∀ v ∈ vs, ¬Ends a.post.1 v.label

theorem unfinished_inFlight (h : Run (Session program E tick) w₀ ys w) (h0 : TxInv w₀.1)
    (hun : Unfinished ys) : w.1.txInFlight = true := by
  obtain ⟨us, a, vs, rfl, ha, hvs⟩ := hun
  obtain ⟨hi, hc, hrest⟩ := tx_run_at h h0
  have hf : a.post.1.txInFlight = true := by
    have := (hc.of_accepts ha).2
    simpa [inFlight] using this
  have hstep : ∀ z : Rec (Ctx × ε) RadioLabel,
      Session program E tick z.pre z.label z.post → ¬Ends a.post.1 z.label →
      TxInv z.pre.1 ∧ z.pre.1.txInFlight = true ∧ SameDeadline a.post.1 z.pre.1 →
      TxInv z.post.1 ∧ z.post.1.txInFlight = true ∧ SameDeadline a.post.1 z.post.1 := by
    intro z hs hgood hz
    obtain ⟨hi', hf', hsame⟩ := hz
    have hstays : z.post.1.txInFlight = true := by
      refine (Bool.not_eq_false _).mp fun hfalls => ?_
      exact hgood (hsame.ends_iff.mp ((falls_iff_ends hs hi' hf').mp hfalls))
    exact ⟨(tx_step hs hi').2, hstays, hsame.trans (step_sameDeadline hs hf' hstays)⟩
  exact (hrest.invariant (fun w => TxInv w.1 ∧ w.1.txInFlight = true ∧ SameDeadline a.post.1 w.1)
    _ ⟨hi, hf, rfl, rfl⟩ hstep hvs).1.2.1

theorem inFlight_unfinished (h : Run (Session program E tick) w₀ ys w) (h0 : TxInv w₀.1)
    (hidle : w₀.1.txInFlight = false) (hf : w.1.txInFlight = true) : Unfinished ys := by
  have hsince := h.since (P := fun w => w.1.txInFlight = true) (by simp [hidle]) hf
  obtain ⟨us, a, vs, rfl, hpre, hpost, hvs⟩ := hsince
  obtain ⟨hi, hc, hrest⟩ := tx_run_at h h0
  have ha : accepts a = true := by
    obtain ⟨w₁, l, w₂⟩ := a
    cases hc with
    | accepted => rfl
    | ended hf₁ => exact (hpre hf₁).elim
    | kept _ hsame => exact (hpre (hsame.symm.trans hpost)).elim
  have hstep : ∀ z : Rec (Ctx × ε) RadioLabel,
      Session program E tick z.pre z.label z.post →
      z.pre.1.txInFlight = true ∧ z.post.1.txInFlight = true →
      TxInv z.pre.1 ∧ SameDeadline a.post.1 z.pre.1 →
      TxInv z.post.1 ∧ SameDeadline a.post.1 z.post.1 :=
    fun z hs hgood hz => ⟨(tx_step hs hz.1).2, hz.2.trans (step_sameDeadline hs hgood.1 hgood.2)⟩
  obtain ⟨-, hall⟩ := hrest.invariant (fun w => TxInv w.1 ∧ SameDeadline a.post.1 w.1) _
    ⟨hi, rfl, rfl⟩ hstep hvs
  refine ⟨us, a, vs, rfl, ha, fun v hv hends => ?_⟩
  obtain ⟨hs, ⟨hi', hsame⟩, -⟩ := hall v hv
  have hfalls := (falls_iff_ends hs hi' (hvs v hv).1).mpr (hsame.ends_iff.mpr hends)
  cases (hvs v hv).2.symm.trans hfalls

theorem modeTx_run (h : Run (Session program E tick) w₀ xs w)
    (h0 : w₀.1.mode = .tx → w₀.1.txInFlight = true) :
    w.1.mode = .tx → w.1.txInFlight = true := by
  refine (h.invariant (fun w => w.1.mode = .tx → w.1.txInFlight = true) (fun _ => True) h0
    (fun x hs _ hm => ?_) fun _ _ => trivial).1
  obtain ⟨w₁, l, w₂⟩ := x
  cases l with
  | tick => rw [hs.ticked.1]; exact hm
  | op o tr r => exact op_modeTx (op_step hs rfl) hm

/-- When a radio is busy, and what it answers when it is not. -/
structure ComesBack (xs : List (Rec (Ctx × ε) RadioLabel)) : Prop where
  startTx : ∀ ys x zs data len tr r, xs = ys ++ x :: zs →
    x.label = .op (.startTx (some data) len) tr r → len ≠ 0 ∧ len ≤ maxPayloadLen →
    x.pre.1.initialized = true →
    (tr = [] ∧ r = .errBusy ↔ Unfinished ys) ∧ (Unfinished ys ∨ FromDriver tr r)
  startRx : ∀ ys x zs tr r, xs = ys ++ x :: zs → x.label = .op .startRx tr r →
    x.pre.1.initialized = true →
    tr = [] ∧ r = .errBusy ∧ Unfinished ys ∨ FromDriver tr r
  /-- A `poll` meanwhile fails or reads the clock, so past the deadline it
  ends the transmission. -/
  poll : ∀ ys x zs tr r, xs = ys ++ x :: zs → x.label = .op .poll tr r → Unfinished ys →
    r ≠ .ok ∨ ∃ nowMs, (⟨.platformNowMs, nowMs⟩ : Event Call Answer) ∈ tr

/-- At every moment of a run from power-on. The state an operation starts from
has a transmission in flight exactly if the run up to there leaves one
unfinished; what the operation answers then is `startTx_answer`,
`startRx_answer` or `poll_reads`. -/
theorem busy_iff_unfinished {radio : Radio} (h0 : w₀.1 = Ctx.powerOn radio)
    (h : Run (Session program E tick) w₀ xs w) : ComesBack xs := by
  have hidle : w₀.1.txInFlight = false := by rw [h0]; rfl
  have hinv : TxInv w₀.1 := txInv_idle hidle
  have hmode : w₀.1.mode = .tx → w₀.1.txInFlight = true := by
    rw [h0]
    exact fun hm => by cases hm
  -- the state an operation of the run starts from
  have hat : ∀ ys x zs, xs = ys ++ x :: zs →
      (x.pre.1.txInFlight = true ↔ Unfinished ys) ∧ (x.pre.1.mode = .tx → x.pre.1.txInFlight = true)
        ∧ Session program E tick x.pre x.label x.post := by
    intro ys x zs heq
    subst heq
    obtain ⟨w₁, hys, hrest⟩ := h.split
    obtain ⟨rfl, hs, -⟩ := hrest.head
    exact ⟨⟨inFlight_unfinished hys hinv hidle, unfinished_inFlight hys hinv⟩,
      modeTx_run hys hmode, hs⟩
  constructor
  · intro ys x zs data len tr r heq hl hlen hinit
    obtain ⟨hiff, htx, hs⟩ := hat ys x zs heq
    rw [hl] at hs
    have hbusy : x.pre.1.txInFlight = true ∨ x.pre.1.mode = .tx ↔ Unfinished ys :=
      ⟨fun hb => hiff.mp (hb.elim id htx), fun hun => .inl (hiff.mpr hun)⟩
    rcases startTx_answer hlen hinit _ _ _ _ hs.exec with ⟨hb, rfl, rfl⟩ | ⟨hfree, hdriver⟩
    · exact ⟨⟨fun _ => hbusy.mp hb, fun _ => ⟨rfl, rfl⟩⟩, .inl (hbusy.mp hb)⟩
    · refine ⟨⟨fun hrefused => ?_, fun hun => (hfree (hbusy.mpr hun)).elim⟩, .inr hdriver⟩
      obtain ⟨rfl, rfl⟩ := hrefused
      exact absurd hdriver.not_nil (by decide)
  · intro ys x zs tr r heq hl hinit
    obtain ⟨hiff, htx, hs⟩ := hat ys x zs heq
    rw [hl] at hs
    rcases startRx_answer hinit _ _ _ _ hs.exec with ⟨hm, rfl, rfl⟩ | ⟨-, hdriver⟩
    · exact .inl ⟨rfl, rfl, hiff.mp (htx hm)⟩
    · exact .inr hdriver
  · intro ys x zs tr r heq hl hun
    obtain ⟨hiff, -, hs⟩ := hat ys x zs heq
    rw [hl] at hs
    by_cases hr : r = .ok
    · obtain ⟨nowMs, hnow, -⟩ := poll_reads _ _ _ _ hs.exec (hiff.mpr hun) hr
      exact .inr ⟨nowMs, (hnow nowMs).mpr rfl⟩
    · exact .inl hr

end Run

def startTxResult (x : Rec (Ctx × Driver) RadioLabel) : Option RadioStatus :=
  match x.label with
  | .op (.startTx _ _) _ r => some r
  | _ => none

/-- Refused while it transmits, accepted after the `poll` that is told the
end. -/
theorem busy_iff_unfinished_twice : ∃ xs w, Run RadioStep (bench .sx1262) xs w ∧ ComesBack xs
    ∧ xs.filterMap startTxResult = [.ok, .errBusy, .ok] := by
  obtain ⟨xs, w, hrun, hw⟩ := evalsTo_run dio1Irq eagerDriver_answers
    (show evalsTo program eagerDriver 1 [bringUp, hello, hello, .poll, hello]
      (bench .sx1262) (fun xs _ => xs.filterMap startTxResult == [.ok, .errBusy, .ok]) = true
      from rfl)
  exact ⟨xs, w, hrun, busy_iff_unfinished rfl hrun, by simpa using hw⟩

end Sx126x

end LeosSdk
