import LeosSdk.RadioMode

/-!
# SX126x: one outcome for each transmission

A transmission begins with a `start_tx` that returns OK and ends when
`tx_in_flight` falls. The environment is arbitrary here: nothing is assumed of
the driver beyond what `RadioApi` builds in (its `tx_done` and `timeout` flags
change only with what its handler reports).

What makes outcomes sharp is that an idle radio with a transmission in flight
has both flags clear (`TxInv`): `start_tx` clears them before it arms, and a
`poll` that sees one of them set ends the transmission. So the flag that
decides an outcome was reported in the very `poll` that records it
(`TxChange`).

`TxChange` sorts every step by what it does to the transmission in flight: it
accepts one, it ends one and records how, or it leaves that part of the
context as it was. The step lemma (`tx_step`) puts each operation into one of
these cases. The rest is counting along a run. Accepted less ended is what is
in flight, which is none or one (`balance`), so between two acceptances there
is exactly one end (`falls_between`); the status recorded at an end stays
until the next acceptance, for no other step writes it (`status_kept`); and
TX_DONE, once reported, ends the transmission in that same `poll`
(`done_at_end`), so a transmission that was reported done is never recorded as
timed out.
-/

namespace LeosSdk

namespace Sx126x

variable {ε : Type} {E : Env ε Call Answer} {tick : ε → ε → Prop}

/-! ## What a step does to the transmission in flight -/

/-- Carried from operation to operation: with a transmission in flight the
driver's flags are clear, so whatever a `poll` finds in them was reported to
it. -/
structure TxInv (s : Ctx) : Prop where
  live : s.txInFlight = true → s.initialized = true
  notDone : s.txInFlight = true → s.handle.txDone = false
  notTimeout : s.txInFlight = true → s.handle.timeout = false

theorem txInv_idle {s : Ctx} (hf : s.txInFlight = false) : TxInv s :=
  ⟨by simp [hf], by simp [hf], by simp [hf]⟩

def RadioLabel.acceptsTx : RadioLabel → Bool
  | .op (.startTx _ _) _ r => r == .ok
  | _ => false

def RadioLabel.callsStartTx : RadioLabel → Bool
  | .op (.startTx _ _) _ _ => true
  | _ => false

/-- `TX_DONE` was reported by a handler call that succeeded. -/
def ReportsTxDone (l : RadioLabel) : Prop :=
  ∃ tr r reports, l = .op .poll tr r
    ∧ (⟨.irqHandler, (reports, 0)⟩ : Event Call Answer) ∈ tr
    ∧ reported reports .txDone = true

/-- The terminal status of the transmission a `poll` ends: the handler's
failure, else OK if it reported TX_DONE, else a timeout. -/
def terminalStatus (tr : List (Event Call Answer)) (r : RadioStatus) : RadioStatus :=
  if r ≠ .ok then r
  else if reported (reportsOf tr) .txDone then .ok
  else .errTimeout

/-- A step, by what it does to the transmission in flight. -/
inductive TxChange (s : Ctx) : RadioLabel → Ctx → Prop
  | accepted {data : Option Buf} {len : Nat} {tr : List (Event Call Answer)} {s' : Ctx}
      (h0 : s.txInFlight = false) (h1 : s'.txInFlight = true) :
      TxChange s (.op (.startTx data len) tr .ok) s'
  | ended {tr : List (Event Call Answer)} {r : RadioStatus} {s' : Ctx}
      (h0 : s.txInFlight = true) (h1 : s'.txInFlight = false)
      (hi : s'.initialized = true) (hl : s'.lastTxStatus = terminalStatus tr r)
      (hdone : ReportsTxDone (.op .poll tr r) → terminalStatus tr r = .ok) :
      TxChange s (.op .poll tr r) s'
  | kept {l : RadioLabel} {s' : Ctx} (hacc : RadioLabel.acceptsTx l = false)
      (hf : s'.txInFlight = s.txInFlight)
      (hl : s.initialized = true → RadioLabel.callsStartTx l = false →
        s'.initialized = true ∧ s'.lastTxStatus = s.lastTxStatus)
      (hdone : s.txInFlight = true → ¬ReportsTxDone l) : TxChange s l s'

theorem txChange_poll {s s' : Ctx} {tr : List (Event Call Answer)} {r : RadioStatus}
    (hi : TxInv s) (h : Poll s tr r s') : TxChange s (.op .poll tr r) s' := by
  have hdone : ReportsTxDone (.op .poll tr r) →
      r = .ok ∧ reported (reportsOf tr) .txDone = true := by
    intro h
    rcases h with ⟨tr', r', reports, heq, hmem, hrep⟩
    cases heq
    obtain ⟨hreports, hr⟩ := h.handlerAnswer hmem
    exact ⟨hr, by rw [hreports]; exact hrep⟩
  have hterm : ReportsTxDone (.op .poll tr r) → terminalStatus tr r = .ok := by
    intro hrep
    obtain ⟨hr, hd⟩ := hdone hrep
    simp [terminalStatus, hr, hd]
  have hout := h.outcome
  cases hout with
  | refused hinit htr =>
      subst htr
      refine .kept rfl rfl (fun _ _ => ⟨‹_›, rfl⟩) fun hf => ?_
      rw [hi.live hf] at hinit
      cases hinit
  | quiet hinit hf =>
      refine .kept rfl (by simp) (fun _ _ => ⟨by simpa using hinit, by simp⟩) fun hf' => ?_
      rw [hf] at hf'
      cases hf'
  | failed hinit hf hr =>
      exact .ended hf rfl (by simpa [Ctx.endTx] using hinit)
        (by simp [Ctx.endTx, terminalStatus, hr]) hterm
  | done hinit hf hd =>
      have hd' : reported (reportsOf tr) .txDone = true := by
        simpa [hi.notDone hf] using hd
      exact .ended hf rfl (by simpa [Ctx.endTx] using hinit)
        (by simp [Ctx.endTx, terminalStatus, hd']) hterm
  | timedOut nowMs hinit hf hnow hd ht =>
      have hd' : reported (reportsOf tr) .txDone = false := by
        simpa [hi.notDone hf] using hd
      exact .ended hf rfl (by simpa [Ctx.endTx] using hinit)
        (by simp [Ctx.endTx, terminalStatus, hd']) hterm
  | waiting hinit hf hd ht =>
      refine .kept rfl (by simp) (fun _ _ => ⟨by simpa using hinit, by simp⟩)
        fun _ hrep => ?_
      rw [noted_txDone, (hdone hrep).2, Bool.or_true] at hd
      cases hd

/-- A step across which the transmission stays in flight reports no
TX_DONE. -/
theorem TxChange.still {s s' : Ctx} {l : RadioLabel} (h : TxChange s l s')
    (h0 : s.txInFlight = true) (h1 : s'.txInFlight = true) : ¬ReportsTxDone l := by
  cases h with
  | accepted h0' => rw [h0] at h0'; cases h0'
  | ended _ h1' => rw [h1] at h1'; cases h1'
  | kept _ _ _ hdone => exact hdone h0

/-- A step without a `start_tx` call leaves an idle radio's record alone. -/
theorem TxChange.settled {s s' : Ctx} {l : RadioLabel} (h : TxChange s l s')
    (hf : s.txInFlight = false) (hi : s.initialized = true)
    (hl : RadioLabel.callsStartTx l = false) :
    s'.txInFlight = false ∧ s'.initialized = true ∧ s'.lastTxStatus = s.lastTxStatus := by
  cases h with
  | accepted => cases hl
  | ended h0 => rw [hf] at h0; cases h0
  | kept _ hsame hkeep => exact ⟨hsame.trans hf, hkeep hi hl⟩

theorem ReportsTxDone.isPoll {o : Op} {tr : List (Event Call Answer)} {r : o.Ret}
    (h : ReportsTxDone (.op o tr r)) : o = .poll := by
  obtain ⟨_, _, _, heq, _⟩ := h
  cases heq
  rfl

/-- A call other than `poll` that leaves the transmission's part of the
context alone. -/
theorem txChange_aside {s s' : Ctx} {o : Op} {tr : List (Event Call Answer)} {r : o.Ret}
    (hi : TxInv s) (ho : o ≠ .poll) (hacc : RadioLabel.acceptsTx (.op o tr r) = false)
    (hinit : s'.initialized = s.initialized) (hf : s'.txInFlight = s.txInFlight)
    (hl : s'.lastTxStatus = s.lastTxStatus) (hhandle : s'.handle = s.handle) :
    TxChange s (.op o tr r) s' ∧ TxInv s' := by
  refine ⟨.kept hacc hf (fun h _ => ⟨hinit.trans h, hl⟩) fun _ h => ho h.isPoll, ?_, ?_, ?_⟩
  · rw [hf, hinit]
    exact hi.live
  · rw [hf, hhandle]
    exact hi.notDone
  · rw [hf, hhandle]
    exact hi.notTimeout

theorem txChange_op {s s' : Ctx} {o : Op} {tr : List (Event Call Answer)} {r : o.Ret}
    (hi : TxInv s) (h : OpStep s o tr r s') :
    TxChange s (.op o tr r) s' ∧ TxInv s' := by
  cases o with
  | init hwCfg cfg =>
      cases h with
      | refused => exact txChange_aside hi (by simp) rfl rfl rfl rfl rfl
      | failed hinit | done hinit =>
          have hf : s.txInFlight = false :=
            Bool.eq_false_iff.mpr fun hf => by rw [hi.live hf] at hinit; cases hinit
          refine ⟨.kept rfl hf.symm (fun h _ => ?_) (fun _ h => by cases h.isPoll),
            txInv_idle rfl⟩
          rw [hinit] at h
          cases h
  | startTx data len =>
      cases h with
      | refused hr =>
          have hacc : RadioLabel.acceptsTx (.op (.startTx data len) tr r) = false := by
            simpa [RadioLabel.acceptsTx] using hr
          exact txChange_aside hi (by simp) hacc rfl rfl rfl rfl
      | failed hready nowMs hr =>
          exact ⟨.kept (by simpa [RadioLabel.acceptsTx] using hr) hready.idle.symm
            (fun _ h => by cases h) (fun _ h => by cases h.isPoll), txInv_idle rfl⟩
      | armed hready nowMs =>
          exact ⟨.accepted hready.idle rfl,
            fun _ => hready.initialized, fun _ => rfl, fun _ => rfl⟩
  | startRx => cases h <;> exact txChange_aside hi (by simp) rfl rfl rfl rfl rfl
  | read => cases h <;> exact txChange_aside hi (by simp) rfl rfl rfl rfl rfl
  | standby => cases h <;> exact txChange_aside hi (by simp) rfl rfl rfl rfl rfl
  | poll =>
      refine ⟨txChange_poll hi h, ?_⟩
      have hout := Poll.outcome h
      cases hout with
      | refused => exact hi
      | quiet _ hf => exact txInv_idle (by simpa using hf)
      | failed | done | timedOut => exact txInv_idle rfl
      | waiting hinit _ hd ht =>
          exact ⟨fun _ => by simpa using hinit, fun _ => hd, fun _ => ht⟩

/-- The step lemma: what a step does to the transmission in flight, and
that the invariant survives it. -/
theorem tx_step {w w' : Ctx × ε} {l : RadioLabel} (h : Session program E tick w l w')
    (hi : TxInv w.1) : TxChange w.1 l w'.1 ∧ TxInv w'.1 := by
  cases l with
  | tick =>
      cases h
      refine ⟨.kept rfl rfl (fun hinit _ => ⟨hinit, rfl⟩) fun _ hrep => ?_, hi⟩
      obtain ⟨_, _, _, hl, _⟩ := hrep
      cases hl
  | op o tr r => exact txChange_op hi (op_step h rfl)

/-! ## Along a run -/

section Run

variable {w₀ w : Ctx × ε} {xs ys zs us : List (Rec (Ctx × ε) RadioLabel)}
  {x a b : Rec (Ctx × ε) RadioLabel}

def accepts (x : Rec (Ctx × ε) RadioLabel) : Bool := RadioLabel.acceptsTx x.label

def callsStartTx (x : Rec (Ctx × ε) RadioLabel) : Bool := RadioLabel.callsStartTx x.label

/-- `tx_in_flight` goes from true to false. -/
def falls (x : Rec (Ctx × ε) RadioLabel) : Bool :=
  x.pre.1.txInFlight && !x.post.1.txInFlight

def inFlight (w : Ctx × ε) : Nat := if w.1.txInFlight then 1 else 0

/-- The invariant and the change of every step. -/
theorem tx_run (h : Run (Session program E tick) w₀ xs w) (h0 : TxInv w₀.1) :
    TxInv w.1 ∧ ∀ x ∈ xs, TxInv x.pre.1 ∧ TxChange x.pre.1 x.label x.post.1 := by
  obtain ⟨hw, hxs⟩ := h.invariant (fun w => TxInv w.1) (fun _ => True) h0
    (fun _ hs _ hi => (tx_step hs hi).2) fun _ _ => trivial
  exact ⟨hw, fun x hx =>
    ⟨(hxs x hx).2.1, (tx_step (hxs x hx).1 (hxs x hx).2.1).1⟩⟩

/-- One step keeps the books. -/
theorem balance_step {w w' : Ctx × ε} {l : RadioLabel} (h : TxChange w.1 l w'.1) :
    [(⟨w, l, w'⟩ : Rec (Ctx × ε) RadioLabel)].countP accepts + inFlight w =
      [(⟨w, l, w'⟩ : Rec (Ctx × ε) RadioLabel)].countP falls + inFlight w' := by
  obtain ⟨s, e⟩ := w
  obtain ⟨s', e'⟩ := w'
  cases h with
  | accepted h0 h1 =>
      simp_all [accepts, falls, inFlight, RadioLabel.acceptsTx]
  | ended h0 h1 =>
      simp_all [accepts, falls, inFlight, RadioLabel.acceptsTx]
  | kept hacc hf =>
      simp_all [accepts, falls, inFlight]

theorem balance (h : Run (Session program E tick) w₀ xs w) (h0 : TxInv w₀.1) :
    xs.countP accepts + inFlight w₀ = xs.countP falls + inFlight w := by
  induction h with
  | nil => simp
  | snoc h hs ih =>
      have hi := (tx_run h h0).1
      have := balance_step (tx_step hs hi).1
      rw [List.countP_append, List.countP_append]
      omega

theorem TxChange.of_accepts (h : TxChange x.pre.1 x.label x.post.1)
    (hx : accepts x = true) : inFlight x.pre = 0 ∧ inFlight x.post = 1 := by
  obtain ⟨⟨s, e⟩, l, ⟨s', e'⟩⟩ := x
  cases h with
  | accepted h0 h1 => simp_all [inFlight]
  | ended => simp [accepts, RadioLabel.acceptsTx] at hx
  | kept hacc => simp [accepts, hacc] at hx

theorem TxChange.of_falls (h : TxChange x.pre.1 x.label x.post.1)
    (hx : falls x = true) :
    x.post.1.initialized = true ∧ x.post.1.txInFlight = false
      ∧ (ReportsTxDone x.label → x.post.1.lastTxStatus = .ok)
      ∧ ∃ tr r, x.label = .op .poll tr r
        ∧ x.post.1.lastTxStatus = terminalStatus tr r := by
  obtain ⟨⟨s, e⟩, l, ⟨s', e'⟩⟩ := x
  cases h with
  | accepted h0 h1 => simp_all [falls]
  | @ended tr r _ h0 h1 hi hl hdone =>
      exact ⟨hi, h1, fun hrep => hl.trans (hdone hrep), tr, r, rfl, hl⟩
  | kept hacc hf =>
      simp only [falls] at hx hf
      simp [hf] at hx

/-- The step `x` of a run, and the run from there on. -/
theorem tx_run_at (h : Run (Session program E tick) w₀ (ys ++ x :: zs) w)
    (h0 : TxInv w₀.1) :
    TxInv x.post.1 ∧ TxChange x.pre.1 x.label x.post.1
      ∧ Run (Session program E tick) x.post zs w := by
  obtain ⟨w₁, h₁, h₂⟩ := h.split
  obtain ⟨rfl, hs, hrest⟩ := h₂.head
  obtain ⟨hc, hi⟩ := tx_step hs (tx_run h₁ h0).1
  exact ⟨hi, hc, hrest⟩

/-- Between two acceptances with none in between there is one fall: both times
one transmission is in flight, and the books of the steps between must
balance. -/
theorem falls_between
    (h : Run (Session program E tick) w₀ (ys ++ a :: (zs ++ b :: us)) w)
    (h0 : TxInv w₀.1) (ha : accepts a = true) (hb : accepts b = true)
    (hzs : ∀ z ∈ zs, accepts z = false) : zs.countP falls = 1 := by
  obtain ⟨hi, hca, hrest⟩ := tx_run_at h h0
  obtain ⟨w₁, hz, hbu⟩ := hrest.split
  obtain ⟨rfl, hsb, _⟩ := hbu.head
  have hcb := (tx_step hsb (tx_run hz hi).1).1
  have hbal := balance hz hi
  have hnone : zs.countP accepts = 0 :=
    List.countP_eq_zero.mpr fun z hz => by simp [hzs z hz]
  have := (hca.of_accepts ha).2
  have := (hcb.of_accepts hb).1
  omega

/-- Until the next `start_tx` the recorded status stays. -/
theorem status_kept
    (h : Run (Session program E tick) w₀ (ys ++ x :: (zs ++ us)) w)
    (h0 : TxInv w₀.1) (hx : falls x = true)
    (hzs : ∀ z ∈ zs, callsStartTx z = false) :
    ∀ z ∈ zs, z.post.1.lastTxStatus = x.post.1.lastTxStatus := by
  obtain ⟨hi, hc, hrest⟩ := tx_run_at h h0
  obtain ⟨hinit, hf, _⟩ := hc.of_falls hx
  obtain ⟨w₁, hz, _⟩ := hrest.split
  refine fun z hmem => ((hz.invariant
    (fun w => TxInv w.1 ∧ w.1.txInFlight = false ∧ w.1.initialized = true
      ∧ w.1.lastTxStatus = x.post.1.lastTxStatus)
    (fun z => callsStartTx z = false) ⟨hi, hf, hinit, rfl⟩ ?_ hzs).2 z
    hmem).2.2.2.2.2
  intro y hs hgood h
  rcases h with ⟨hi', hf', hinit', hlast⟩
  obtain ⟨hc', hpost⟩ := tx_step hs hi'
  obtain ⟨hf'', hinit'', hlast'⟩ := hc'.settled hf' hinit' hgood
  exact ⟨hpost, hf'', hinit'', hlast'.trans hlast⟩

/-- A successful handler call that reports TX_DONE ends the transmission in
flight, so up to its end there is none but the last. A step across which the
transmission stays in flight reports no TX_DONE. -/
theorem done_at_end
    (h : Run (Session program E tick) w₀ (ys ++ a :: (zs ++ x :: us)) w)
    (h0 : TxInv w₀.1) (ha : accepts a = true) (hzs : ∀ z ∈ zs, falls z = false)
    {y : Rec (Ctx × ε) RadioLabel} (hy : y ∈ zs) : ¬ReportsTxDone y.label := by
  obtain ⟨hi, hca, hrest⟩ := tx_run_at h h0
  obtain ⟨w₁, hz, _⟩ := hrest.split
  have hstep : ∀ z : Rec (Ctx × ε) RadioLabel,
      Session program E tick z.pre z.label z.post → falls z = false →
      TxInv z.pre.1 ∧ z.pre.1.txInFlight = true →
      TxInv z.post.1 ∧ z.post.1.txInFlight = true := by
    intro z hs hgood ⟨hi', hf'⟩
    exact ⟨(tx_step hs hi').2, by simpa [falls, hf'] using hgood⟩
  have hstart : TxInv a.post.1 ∧ a.post.1.txInFlight = true := by
    refine ⟨hi, ?_⟩
    have := (hca.of_accepts ha).2
    simpa [inFlight] using this
  obtain ⟨hs, ⟨hi', hf'⟩, _, hf''⟩ := (hz.invariant
    (fun w => TxInv w.1 ∧ w.1.txInFlight = true) (fun z => falls z = false) hstart hstep
    hzs).2 y hy
  exact (tx_step hs hi').1.still hf' hf''

/-- Every accepted transmission has one outcome: one end for each acceptance
but the last if that is still in flight, recorded at that end, kept until the
next acceptance, and in accordance with what was reported. -/
structure OneOutcome (xs : List (Rec (Ctx × ε) RadioLabel)) (w : Ctx × ε) : Prop where
  /-- One fall for each accepted `start_tx`, but for the one in flight. -/
  balance : xs.countP accepts = xs.countP falls + inFlight w
  accepted : ∀ x ∈ xs, accepts x = true →
    x.pre.1.txInFlight = false ∧ x.post.1.txInFlight = true
  between : ∀ ys a zs b us, xs = ys ++ a :: (zs ++ b :: us) → accepts a = true →
    accepts b = true → (∀ z ∈ zs, accepts z = false) → zs.countP falls = 1
  /-- Only `poll` ends a transmission, and records its terminal status. -/
  ended : ∀ x ∈ xs, falls x = true → ∃ tr r, x.label = .op .poll tr r
    ∧ x.post.1.lastTxStatus = terminalStatus tr r
  kept : ∀ ys x zs us, xs = ys ++ x :: (zs ++ us) → falls x = true →
    (∀ z ∈ zs, callsStartTx z = false) →
    ∀ z ∈ zs, z.post.1.lastTxStatus = x.post.1.lastTxStatus
  /-- OK means that the ending `poll` itself was told TX_DONE. -/
  okReported : ∀ x ∈ xs, falls x = true → x.post.1.lastTxStatus = .ok →
    ∃ tr r, x.label = .op .poll tr r ∧ reported (reportsOf tr) .txDone = true
  notTimeout : ∀ ys a zs x us, xs = ys ++ a :: (zs ++ x :: us) → accepts a = true →
    (∀ z ∈ zs, falls z = false) → falls x = true →
    (∃ y ∈ zs ++ [x], ReportsTxDone y.label) → x.post.1.lastTxStatus ≠ .errTimeout

theorem terminalStatus_ok {tr : List (Event Call Answer)} {r : RadioStatus}
    (h : terminalStatus tr r = .ok) : reported (reportsOf tr) .txDone = true := by
  unfold terminalStatus at h
  split at h
  · exact (‹r ≠ .ok› h).elim
  · split at h
    · assumption
    · cases h

/-- Whatever the driver and the clock do, from power-on. Each field follows
from the changes of the steps (`tx_run`) by one of the counting lemmas above. -/
theorem each_transmission_one_outcome {radio : Radio} (h0 : w₀.1 = Ctx.powerOn radio)
    (h : Run (Session program E tick) w₀ xs w) : OneOutcome xs w := by
  have hinv : TxInv w₀.1 := by
    rw [h0]
    exact txInv_idle rfl
  have hidle : inFlight w₀ = 0 := by simp [inFlight, h0, Ctx.powerOn]
  have hxs := (tx_run h hinv).2
  exact
    { balance := by
        have := balance h hinv
        omega
      accepted := fun x hx hacc => by
        have := (hxs x hx).2.of_accepts hacc
        simpa [inFlight] using this
      between := fun ys a zs b us heq ha hb hzs =>
        falls_between (heq ▸ h) hinv ha hb hzs
      ended := fun x hx hf => ((hxs x hx).2.of_falls hf).2.2.2
      kept := fun ys x zs us heq hf hzs => status_kept (heq ▸ h) hinv hf hzs
      okReported := fun x hx hf hok => by
        obtain ⟨tr, r, hl, hlast⟩ := ((hxs x hx).2.of_falls hf).2.2.2
        exact ⟨tr, r, hl, terminalStatus_ok (hlast.symm.trans hok)⟩
      notTimeout := by
        intro ys a zs x us heq ha hzs hf ⟨y, hy, hrep⟩
        rcases List.mem_append.mp hy with hy | hy
        · exact (done_at_end (heq ▸ h) hinv ha hzs hy hrep).elim
        · obtain rfl := List.mem_singleton.mp hy
          have hx : y ∈ xs := by simp [heq]
          rw [((hxs y hx).2.of_falls hf).2.2.1 hrep]
          decide }

end Run

/-- A driver that interrupts before every look at the latch and reports what
its enabled sources allow: the end of a transmission, or a packet. -/
def eagerDriver : Driver → (i : Call) → Answer i × Driver
  | d, .irqPending => (true, { d with latch := { irqPending := true, irqLatchedAtMs := 0 } })
  | d, .irqHandler =>
    ((if d.enabled .txDone then [⟨.txDone, none, 0⟩]
      else if d.enabled .rxDone then [⟨.rxDone, some fun _ => 0x68, 5⟩]
      else [], 0), d)
  | d, i => plainDriver d i

theorem eagerDriver_answers : Answers eagerDriver radioEnv := by
  intro d i
  cases i with
  | irqPending => exact ⟨_, .single ⟨true, 0, rfl⟩, rfl, rfl⟩
  | irqHandler =>
      refine interleave_of ⟨fun rep hrep => ?_, rfl⟩
      simp only [eagerDriver] at hrep
      split at hrep
      · obtain rfl := List.mem_singleton.mp hrep
        assumption
      · split at hrep
        · obtain rfl := List.mem_singleton.mp hrep
          assumption
        · cases hrep
  | _ => exact plainDriver_answers d _

/-- Two packets sent and polled one after the other: two transmissions end. -/
theorem each_transmission_one_outcome_twice :
    ∃ xs w, Run RadioStep (bench .sx1262) xs w ∧ OneOutcome xs w
      ∧ xs.countP falls = 2 ∧ w.1.lastTxStatus = .ok := by
  obtain ⟨xs, w, hrun, hw⟩ := evalsTo_run dio1Irq eagerDriver_answers
    (show evalsTo program eagerDriver 1 [bringUp, hello, .poll, hello, .poll]
      (bench .sx1262)
      (fun xs w => xs.countP falls == 2 && w.1.lastTxStatus == .ok) = true from rfl)
  simp only [Bool.and_eq_true, beq_iff_eq] at hw
  exact ⟨xs, w, hrun, each_transmission_one_outcome rfl hrun, hw⟩

end Sx126x

end LeosSdk
