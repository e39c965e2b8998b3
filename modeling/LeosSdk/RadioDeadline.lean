import LeosSdk.RadioChip
import LeosSdk.RadioPort

/-!
# SX126x: the two timeouts of a transmission

`tx_timeout_ms` bounds a transmission twice. `leos_sx126x_poll` compares it
with a 64-bit difference of two readings of `leos_sx126x_platform_now_ms`; the
Pico port's readings are 32 bits wide, so a start and a poll on either side of
a wrap are far apart for it (`ExactOn`). `leos_sx126x_start_tx` hands
`tx_timeout_ms * 1000` to `sx1262_set_tx`, which has 24 bits for it and none
for zero.

Time is an instant in nanoseconds that passes between any two calls, and a
port's clock is a function of the instant, modulo its period
(`platformNowMs_toNat`). With that, the comparison in `poll` for a given start
and a given poll is arithmetic of remainders, which `omega` decides for each
port (`expired_iff_exact`).

What remains is that a run reaches this comparison with the right start.
`Timed` says that the recorded reading is that of the instant the transmission
began: `start_tx` reads the clock right before `sx1262_set_tx`, no other call
moves the start, and no other operation begins a transmission
(`op_stillInFlight`). For the chip's own timeout the program is followed over
every start of a run in the same way, and its field is the product reduced
twice, modulo `2^32` and modulo `2^24` (`chipAgrees_iff`).
-/

namespace LeosSdk

namespace Sx126x

/-! ## Clocks -/

inductive Platform where
  | pico | linux
deriving DecidableEq, Repr

/-- The millisecond count of the monotonic clock, at an instant in
nanoseconds. -/
def millis (t : Nat) : Nat := t / 1000000

/-- `to_ms_since_boot(get_absolute_time())`, of the Pico SDK. -/
def toMsSinceBoot (t : Nat) : UInt32 := .ofNat (millis t)

/-- What `clock_gettime(CLOCK_MONOTONIC, &ts)` stores, cast to `uint64_t`. -/
structure Timespec where
  tvSec : UInt64
  tvNsec : UInt64

def clockGettime (t : Nat) : Timespec :=
  { tvSec := .ofNat (t / 1000000000), tvNsec := .ofNat (t % 1000000000) }

/-- `leos_sx126x_platform_now_ms` of either port, at an instant. -/
def platformNowMs : Platform → Nat → UInt64
  | .pico, t => (toMsSinceBoot t).toUInt64
  | .linux, t => (clockGettime t).tvSec * 1000 + (clockGettime t).tvNsec / 1000000

/-- How many readings there are. -/
def Platform.period : Platform → Nat
  | .pico => 4294967296
  | .linux => 18446744073709551616

theorem platformNowMs_toNat (p : Platform) (t : Nat) :
    (platformNowMs p t).toNat = millis t % p.period := by
  cases p with
  | pico =>
      simp only [platformNowMs, toMsSinceBoot, UInt32.toNat_toUInt64, UInt32.toNat_ofNat',
        Platform.period]
  | linux =>
      simp only [platformNowMs, clockGettime, UInt64.toNat_add, UInt64.toNat_mul,
        UInt64.toNat_div, UInt64.toNat_ofNat', UInt64.reduceToNat, Platform.period, millis]
      omega

/-- Whole milliseconds from one instant to a later one. -/
def elapsed (start now : Nat) : Nat := millis now - millis start

/-- `tx_timeout_ms <= now_ms - tx_started_at_ms`, as `poll` computes it. -/
def expired (p : Platform) (timeoutMs : UInt32) (start now : Nat) : Prop :=
  timeoutMs.toUInt64 ≤ platformNowMs p now - platformNowMs p start

/-- The port's readings tell the deadline of a transmission started and
polled at these instants. On the Pico both lie in one turn of the 32-bit
count; or the deadline has passed, and the count after its turns does not
read less than the timeout past the start's. On Linux the 64-bit difference
has not come round to less than the timeout. -/
def ExactOn : Platform → UInt32 → Nat → Nat → Prop
  | .pico, timeoutMs, start, now =>
    let first := millis start % Platform.pico.period
    let last := millis now % Platform.pico.period
    millis start / Platform.pico.period = millis now / Platform.pico.period
      ∨ timeoutMs.toNat ≤ elapsed start now ∧ ¬(first ≤ last ∧ last < first + timeoutMs.toNat)
  | .linux, timeoutMs, start, now =>
    elapsed start now < timeoutMs.toNat
      ∨ timeoutMs.toNat ≤ elapsed start now % Platform.linux.period

/-- The comparison of `poll` is exact for these two instants just if `ExactOn`
says so. Both clocks count modulo their period, and what is left is
arithmetic. -/
theorem expired_iff_exact (p : Platform) (timeoutMs : UInt32) {start now : Nat}
    (h : start ≤ now) :
    (expired p timeoutMs start now ↔ timeoutMs.toNat ≤ elapsed start now) ↔
      ExactOn p timeoutMs start now := by
  have hle : millis start ≤ millis now := Nat.div_le_div_right h
  have hT : timeoutMs.toNat < 4294967296 := timeoutMs.toNat_lt
  have hsub : expired p timeoutMs start now ↔ timeoutMs.toNat ≤
      (18446744073709551616 - millis start % p.period + millis now % p.period)
        % 18446744073709551616 := by
    rw [expired, UInt64.le_iff_toNat_le, UInt64.toNat_sub, platformNowMs_toNat,
      platformNowMs_toNat, UInt32.toNat_toUInt64]
  rw [hsub]
  cases p with
  | pico =>
      simp only [ExactOn, elapsed, Platform.period]
      omega
  | linux =>
      simp only [ExactOn, elapsed, Platform.period]
      omega

/-! ## Radios on a clock -/

/-- The clock, the instant of the last reading and of the last one before
`sx1262_set_tx`. The two instants are kept to state what the readings should
say. -/
structure Clock where
  now : Nat
  readAt : Nat
  startedAt : Nat

/-- Time passes. -/
def Passes (k k' : Clock) : Prop := ∃ now, k.now ≤ now ∧ k' = { k with now := now }

/-- Nothing is assumed of the driver. -/
def clockedEnv (p : Platform) : Env Clock Call Answer
  | k, .platformNowMs, r, k' => r = platformNowMs p k.now ∧ k' = { k with readAt := k.now }
  | k, .cmd (.setTx _), _, k' => k' = { k with startedAt := k.readAt }
  | k, _, _, k' => k' = k

abbrev onClock (p : Platform) : Env Clock Call Answer := interleave Passes (clockedEnv p)

abbrev ClockedStep (p : Platform) : Ctx × Clock → RadioLabel → Ctx × Clock → Prop :=
  Session program (onClock p) Passes

variable {p : Platform} {s s' : Ctx} {k k' : Clock}

/-- The instants lie in the past. -/
structure Past (k : Clock) : Prop where
  readAt : k.readAt ≤ k.now
  startedAt : k.startedAt ≤ k.now

theorem past_passes (k k' : Clock) (h : Passes k k') (hi : Past k) : Past k' := by
  obtain ⟨now, hle, rfl⟩ := h
  exact ⟨Nat.le_trans hi.readAt hle, Nat.le_trans hi.startedAt hle⟩

theorem past_call (k : Clock) (i : Call) (r : Answer i) (k' : Clock) (hi : Past k)
    (h : onClock p k i r k') : Past k' := by
  obtain ⟨k₁, ht, h⟩ := h
  have h₁ : Past k₁ := ticks_preserve past_passes ht hi
  cases i with
  | platformNowMs =>
      obtain ⟨-, rfl⟩ := h
      exact ⟨Nat.le_refl _, h₁.startedAt⟩
  | cmd cmd =>
      cases cmd with
      | setTx timeout =>
          obtain rfl := h
          exact ⟨h₁.readAt, h₁.readAt⟩
      | _ =>
          obtain rfl := h
          exact h₁
  | _ =>
      obtain rfl := h
      exact h₁

/-- Which calls move the start of a transmission. -/
def Call.SetsTx : Call → Prop
  | .cmd (.setTx _) => True
  | _ => False

theorem startedAt_call {t : Nat} (k : Clock) (i : Call) (r : Answer i) (k' : Clock)
    (hi : ¬i.SetsTx) (h0 : k.startedAt = t) (h : onClock p k i r k') : k'.startedAt = t := by
  obtain ⟨k₁, ht, h⟩ := h
  have h₁ : k₁.startedAt = t :=
    ticks_preserve (J := fun k => k.startedAt = t)
      (fun k k' h h0 => by obtain ⟨now, -, rfl⟩ := h; exact h0) ht h0
  cases i with
  | platformNowMs =>
      obtain ⟨-, rfl⟩ := h
      exact h₁
  | cmd cmd =>
      cases cmd with
      | setTx timeout => exact (hi trivial).elim
      | _ =>
          obtain rfl := h
          exact h₁
  | _ =>
      obtain rfl := h
      exact h₁

/-! ## The recorded start -/

/-- A transmission in flight has the reading at its start recorded. -/
structure Timed (p : Platform) (s : Ctx) (k : Clock) : Prop extends Past k where
  started : s.txInFlight = true → s.txStartedAtMs = platformNowMs p k.startedAt

/-- No clock is read between `start_tx`'s reading and `sx1262_set_tx`, so what
is recorded is the reading at the start, however long the calls take. -/
theorem armTx_started :
    Ensures (onClock p) armTx
      (fun _ r s' k' => r = .ok → s'.txStartedAtMs = platformNowMs p k'.startedAt) s k := by
  refine ensures_armTx fun k₁ _ k₂ _ nowMs k₃ h₃ rc k₄ h₄ _ _ => ?_
  refine ⟨fun hr hok => (hr hok).elim, fun _ _ => ?_⟩
  obtain ⟨d, -, rfl, rfl⟩ := h₃
  obtain ⟨d', ht, rfl⟩ := h₄
  have hread : d'.readAt = d.now :=
    ticks_preserve (J := fun k => k.readAt = d.now)
      (fun k k' h h0 => by obtain ⟨now, -, rfl⟩ := h; exact h0) ht rfl
  rw [hread]
  rfl

theorem startTx_started (data : Option Buf) (len : Nat) :
    Ensures (onClock p) (startTx data len)
      (fun _ r s' k' => r = .ok → s'.txStartedAtMs = platformNowMs p k'.startedAt) s k :=
  ensures_startTx_arm (fun _ _ hr hok => (hr hok).elim) fun _ _ => armTx_started

theorem startTx_timed (hi : Timed p s k) (data : Option Buf) (len : Nat) :
    Ensures (onClock p) (startTx data len) (fun _ _ s' k' => Timed p s' k') s k := by
  intro tr r s' k' hx
  refine ⟨ensures_keeps past_call _ hi.toPast _ _ _ _ hx, fun hf' => ?_⟩
  cases hf : s.txInFlight with
  | true =>
      obtain ⟨-, rfl, rfl⟩ := startTx_busy hf data len _ _ _ _ hx
      exact hi.started hf
  | false =>
      have hok : r = .ok := by
        cases startTx_spec data len _ _ _ _ hx with
        | refused => rw [hf] at hf'; cases hf'
        | failed => cases hf'
        | armed => rfl
      exact startTx_started data len _ _ _ _ hx hok

/-- No other operation starts a transmission or moves its start. -/
theorem op_stillInFlight {o : Op} {tr : List (Event Call Answer)} {r : o.Ret}
    (h : OpStep s o tr r s') (ho : ∀ data len, o ≠ .startTx data len)
    (hf : s'.txInFlight = true) :
    s.txInFlight = true ∧ s'.txStartedAtMs = s.txStartedAtMs := by
  have hnoted : ∀ reports sl, (s.noted reports sl).txStartedAtMs = s.txStartedAtMs :=
    fun reports sl => by rw [Ctx.noted, noteReports_eq]; rfl
  cases o with
  | startTx data len => exact (ho data len rfl).elim
  | init =>
      cases h with
      | refused => exact ⟨hf, rfl⟩
      | failed | done => cases hf
  | poll =>
      have hp := Poll.outcome h
      cases hp with
      | refused => exact ⟨hf, rfl⟩
      | quiet _ hf' =>
          rw [noted_txInFlight, hf'] at hf
          cases hf
      | waiting _ hf' => exact ⟨hf', hnoted ..⟩
      | failed | done | timedOut => cases hf
  | startRx | read | standby => cases h <;> exact ⟨hf, rfl⟩

theorem callsOnly_startRx : startRx.CallsOnly fun i => ¬i.SetsTx := by
  refine Prog.callsOnly_bind (fun _ => trivial) fun ctx => ?_
  split
  · trivial
  · split
    · trivial
    · exact callsOnly_thenOk (callsOnly_driver id) <|
        callsOnly_thenOk (callsOnly_driver id) <|
        callsOnly_thenOk (callsOnly_applyPacketParams fun _ _ _ _ => id) <|
        callsOnly_thenOk (callsOnly_driver id) <|
        Prog.callsOnly_bind ⟨id, fun _ => trivial⟩ fun _ =>
          Prog.callsOnly_bind trivial fun _ => trivial

/-- The other operations leave the start where it is. -/
theorem startedAt_program {o : Op} (hs : ∀ data len, o ≠ .startTx data len)
    (hi : s.initialized = true) :
    Ensures (onClock p) (program o) (fun _ _ _ k' => k'.startedAt = k.startedAt) s k := by
  have hkeep : ∀ {α : Type} {q : Api α}, q.CallsOnly (fun i => ¬i.SetsTx) →
      Ensures (onClock p) q (fun _ _ _ k' => k'.startedAt = k.startedAt) s k :=
    fun hq => hq.keeps startedAt_call rfl
  cases o with
  | startTx data len => exact (hs data len rfl).elim
  | init hwCfg cfg =>
      refine (init_initialized hi hwCfg cfg).mono ?_
      rintro _ _ _ _ ⟨-, -, rfl⟩
      rfl
  | startRx => exact hkeep callsOnly_startRx
  | read bufNull bufSize outLenNull infoNull =>
      exact hkeep ((callsOnly_read ..).mono fun _ h => h.elim)
  | standby => exact hkeep (callsOnly_standby.mono fun _ h => h ▸ id)
  | poll => exact hkeep (callsOnly_poll.mono fun _ h => by cases h <;> exact id)

/-! ## Runs -/

/-- Carried from operation to operation. -/
structure TimedIdle (p : Platform) (s : Ctx) (k : Clock) : Prop extends Timed p s k where
  clean : TxInv s

/-- Step lemma. A `start_tx` records its reading, and every other operation
leaves both the record and the start where they are, or ends the transmission.
-/
theorem timed_step {x : Rec (Ctx × Clock) RadioLabel}
    (h : ClockedStep p x.pre x.label x.post) (hi : TimedIdle p x.pre.1 x.pre.2) :
    TimedIdle p x.post.1 x.post.2 := by
  refine ⟨?_, (tx_step h hi.clean).2⟩
  obtain ⟨⟨s, k⟩, l, ⟨s', k'⟩⟩ := x
  cases h with
  | tick ht =>
      refine ⟨past_passes k k' ht hi.toPast, fun hf => ?_⟩
      obtain ⟨now, -, rfl⟩ := ht
      exact hi.started hf
  | @op o _ _ tr r _ _ hx =>
      by_cases ho : ∃ data len, o = .startTx data len
      · obtain ⟨data, len, rfl⟩ := ho
        exact startTx_timed hi.toTimed data len _ _ _ _ hx
      · have ho' : ∀ data len, o ≠ .startTx data len := fun data len h => ho ⟨data, len, h⟩
        refine ⟨ensures_keeps past_call _ hi.toPast _ _ _ _ hx, fun hf => ?_⟩
        obtain ⟨hf₀, hat⟩ := op_stillInFlight (program_spec o _ _ _ _ hx) ho' hf
        have hk := startedAt_program ho' (hi.clean.live hf₀) _ _ _ _ hx
        rw [hat, hi.started hf₀, hk]

/-- `poll` ended the transmission with `LEOS_RADIO_ERR_TIMEOUT`. -/
def TimedOut (s : Ctx) : Prop := s.txInFlight = false ∧ s.lastTxStatus = .errTimeout

theorem pollTx_reading (hi : Past k) (hf : s.txInFlight = true)
    (hd : s.handle.txDone = false) (ht : s.handle.timeout = false) :
    Ensures (onClock p) pollTx (fun _ _ s' k' => k'.startedAt ≤ k'.readAt
      ∧ (TimedOut s' ↔ s.pastDeadline (platformNowMs p k'.readAt))) s k := by
  simp only [pollTx, ensures_bind, ensures_read, ensures_ask, ensures_ite, ensures_pure,
    ensures_modify]
  refine ⟨fun h => by simp [hf] at h, fun _ nowMs k₁ h₁ => ?_⟩
  obtain ⟨d, hp, rfl, rfl⟩ := h₁
  have hle : d.startedAt ≤ d.now := (ticks_preserve past_passes hp hi).startedAt
  refine ⟨fun h => by simp [hd] at h, fun _ => ⟨fun hpast => ?_, fun hpast => ?_⟩⟩
  · have hpast' : s.pastDeadline (platformNowMs p d.now) := by
      simpa [ht, Ctx.pastDeadline] using hpast
    exact ⟨hle, fun _ => hpast', fun _ => ⟨rfl, rfl⟩⟩
  · have hpast' : ¬s.pastDeadline (platformNowMs p d.now) := by
      simpa [ht, Ctx.pastDeadline] using hpast
    refine ⟨hle, fun h => ?_, fun h => (hpast' h).elim⟩
    have hf' : s.txInFlight = false := h.1
    rw [hf] at hf'
    cases hf'

/-- Where the driver reports nothing, `poll` goes by its reading of the clock:
it ends the transmission just if that reading is past the deadline. -/
theorem poll_reading (hi : TimedIdle p s k) (hf : s.txInFlight = true) :
    Ensures (onClock p) poll (fun tr r s' k' => r = .ok →
      reported (reportsOf tr) .txDone = false → reported (reportsOf tr) .timeout = false →
      k'.startedAt ≤ k'.readAt
        ∧ (TimedOut s' ↔ s.pastDeadline (platformNowMs p k'.readAt))) s k := by
  refine ensures_poll.mpr ⟨fun _ hr => absurd hr (by decide), fun _ => ?_⟩
  refine (serviceDeferredIrq_spec.and (ensures_keeps past_call _ hi.toPast)).mono ?_
  intro tr status s₁ k₁ h
  obtain ⟨hs, hpast⟩ := h
  refine ⟨fun hr hok => (hr hok).elim, fun _ => ?_⟩
  obtain ⟨sl, rfl⟩ := hs.noted
  intro tr' r s₂ k₂ hx _ hdone htimeout
  have hrep : reportsOf (tr ++ tr') = reportsOf tr := by
    rw [reportsOf_append, (pollTx_spec _ _ _ _ hx).2.reportsOf, List.append_nil]
  rw [hrep] at hdone htimeout
  obtain ⟨hle, hreading⟩ := pollTx_reading hpast (by simpa using hf)
    (by simp [hi.clean.notDone hf, hdone]) (by simp [hi.clean.notTimeout hf, htimeout])
    _ _ _ _ hx
  exact ⟨hle, hreading.trans (noted_pastDeadline ..)⟩

/-! ## A transmission on the bench -/

/-- A driver that reports nothing. -/
def benchClocked (p : Platform) (k : Clock) : (i : Call) → Answer i × Clock
  | .platformNowMs => (platformNowMs p k.now, { k with readAt := k.now })
  | .cmd (.setTx _) => ((0 : UInt8), { k with startedAt := k.readAt })
  | i => (plainAnswer i, k)

theorem benchClocked_answers (p : Platform) : Answers (benchClocked p) (onClock p) := by
  intro k i
  refine interleave_of ?_
  cases i with
  | platformNowMs => exact ⟨rfl, rfl⟩
  | cmd cmd => cases cmd <;> rfl
  | _ => rfl

/-- `P` of a transmission started at one instant and polled at another. -/
def sentThenPolled (p : Platform) (start now : Nat)
    (P : Ctx × Clock → List (Event Call Answer) → RadioStatus → Ctx × Clock → Bool) : Bool :=
  match (program hello).eval (benchClocked p) 1 (readyCtx, ⟨start, start, start⟩) with
  | none => false
  | some (_, _, w) =>
    match poll.eval (benchClocked p) 1 (w.1, { w.2 with now := now }) with
    | none => false
    | some (tr, r, w') => w.2.now ≤ now && P (w.1, { w.2 with now := now }) tr r w'

theorem sentThenPolled_run {start now : Nat}
    {P : Ctx × Clock → List (Event Call Answer) → RadioStatus → Ctx × Clock → Bool}
    (h : sentThenPolled p start now P = true) :
    ∃ (xs : _) (w w' : Ctx × Clock) (tr : _) (r : _),
      Run (ClockedStep p) (readyCtx, ⟨start, start, start⟩) xs w
        ∧ Exec (onClock p) poll w.1 w.2 tr r w'.1 w'.2 ∧ P w tr r w' = true := by
  unfold sentThenPolled at h
  split at h
  · cases h
  · rename_i tr₀ r₀ w h₀
    split at h
    · cases h
    · rename_i tr r w' h₁
      rw [Bool.and_eq_true, decide_eq_true_eq] at h
      exact ⟨_, _, w', tr, r,
        .cons (.op (o := hello) (Prog.eval_exec (benchClocked_answers p) h₀))
          (.cons (.tick ⟨now, h.1, rfl⟩) .nil),
        Prog.eval_exec (benchClocked_answers p) h₁, h.2⟩

/-- In any run, a `poll` of a transmission in flight for which the driver
reports neither TX_DONE nor TIMEOUT nor a failure ends it with
`LEOS_RADIO_ERR_TIMEOUT` if and only if `tx_timeout_ms` whole milliseconds
have passed since its start, exactly if the port's readings tell the deadline.
The run gives that the recorded start is the reading at the start, the rest is
the comparison. -/
theorem tx_deadline_exact_iff {w₀ w : Ctx × Clock} {xs : List (Rec (Ctx × Clock) RadioLabel)}
    {tr : List (Event Call Answer)} (h0 : w₀.1.txInFlight = false) (hk : Past w₀.2)
    (hrun : Run (ClockedStep p) w₀ xs w) (hf : w.1.txInFlight = true)
    (hx : Exec (onClock p) poll w.1 w.2 tr .ok s' k')
    (hdone : reported (reportsOf tr) .txDone = false)
    (htimeout : reported (reportsOf tr) .timeout = false) :
    (TimedOut s' ↔ w.1.config.txTimeoutMs.toNat ≤ elapsed w.2.startedAt k'.readAt) ↔
      ExactOn p w.1.config.txTimeoutMs w.2.startedAt k'.readAt := by
  have hstart : TimedIdle p w₀.1 w₀.2 :=
    { readAt := hk.readAt, startedAt := hk.startedAt, clean := txInv_idle h0
      started := fun hf => by rw [h0] at hf; cases hf }
  have hi : TimedIdle p w.1 w.2 :=
    (hrun.invariant (fun w => TimedIdle p w.1 w.2) (fun _ => True) hstart
      (fun x hs _ hi => timed_step hs hi) fun _ _ => trivial).1
  have hkept : k'.startedAt = w.2.startedAt :=
    startedAt_program (o := .poll) (fun _ _ h => by cases h) (hi.clean.live hf) _ _ _ _ hx
  obtain ⟨hle, hreading⟩ := poll_reading hi hf _ _ _ _ hx rfl hdone htimeout
  rw [hkept] at hle
  rw [← expired_iff_exact p w.1.config.txTimeoutMs hle, hreading, Ctx.pastDeadline,
    hi.started hf]
  rfl

/-- Where the driver reports nothing and the readings are at the two
instants. -/
def nothingReported (start now : Nat) (w : Ctx × Clock) (tr : List (Event Call Answer))
    (r : RadioStatus) (w' : Ctx × Clock) : Bool :=
  w.1.txInFlight && w.1.config.txTimeoutMs == 200 && r == .ok
    && !reported (reportsOf tr) .txDone && !reported (reportsOf tr) .timeout
    && w.2.startedAt == start && w'.2.readAt == now

/-- Polled on Linux when its 200 ms are over. -/
theorem tx_deadline_exact_iff_linux : ∃ (xs : _) (w w' : Ctx × Clock),
    Run (ClockedStep .linux) (readyCtx, ⟨0, 0, 0⟩) xs w
      ∧ elapsed w.2.startedAt w'.2.readAt = 200
      ∧ w.1.config.txTimeoutMs = 200 ∧ TimedOut w'.1 := by
  obtain ⟨xs, w, w', tr, r, hrun, hx, hP⟩ := sentThenPolled_run
    (show sentThenPolled .linux 0 200000000 (nothingReported 0 200000000) = true
      by decide +kernel)
  simp only [nothingReported, Bool.and_eq_true, beq_iff_eq, Bool.not_eq_true'] at hP
  obtain ⟨⟨⟨⟨⟨⟨hf, hT⟩, rfl⟩, hdone⟩, htimeout⟩, hstart⟩, hnow⟩ := hP
  have hpast : Past ⟨0, 0, 0⟩ := ⟨Nat.le_refl _, Nat.le_refl _⟩
  have hexact := tx_deadline_exact_iff rfl hpast hrun hf hx hdone htimeout
  rw [hT, hstart, hnow] at hexact
  refine ⟨xs, w, w', hrun, by rw [hstart, hnow]; decide, hT, ?_⟩
  exact (hexact.mpr (.inr (by decide))).mpr (by decide)

/-- On the Pico the 32-bit count wraps one millisecond into a transmission
that may take 200, and the next `poll` gives it up. -/
theorem pico_deadline_at_wrap : ∃ (xs : _) (w w' : Ctx × Clock) (tr : _),
    Run (ClockedStep .pico)
        (readyCtx, ⟨4294967295000000, 4294967295000000, 4294967295000000⟩) xs w
      ∧ Exec (onClock .pico) poll w.1 w.2 tr .ok w'.1 w'.2 ∧ w.1.txInFlight = true
      ∧ w.1.config.txTimeoutMs = 200
      ∧ reported (reportsOf tr) .txDone = false ∧ reported (reportsOf tr) .timeout = false
      ∧ elapsed w.2.startedAt w'.2.readAt = 1 ∧ TimedOut w'.1 := by
  obtain ⟨xs, w, w', tr, r, hrun, hx, hP⟩ := sentThenPolled_run
    (show sentThenPolled .pico 4294967295000000 4294967296000000
      (fun w tr r w' => nothingReported 4294967295000000 4294967296000000 w tr r w'
        && !w'.1.txInFlight && w'.1.lastTxStatus == .errTimeout) = true by decide +kernel)
  simp only [nothingReported, Bool.and_eq_true, beq_iff_eq, Bool.not_eq_true'] at hP
  obtain ⟨⟨⟨⟨⟨⟨⟨⟨hf, hT⟩, rfl⟩, hdone⟩, htimeout⟩, hstart⟩, hnow⟩, hended⟩, hlast⟩ := hP
  exact ⟨xs, w, w', tr, hrun, hx, hf, hT, hdone, htimeout, by rw [hstart, hnow]; decide,
    hended, hlast⟩

/-! ## The chip's own timeout -/

/-- What `sx1262_set_tx` sends of its argument. -/
def timeoutField (timeout : UInt32) : Nat := timeout.toNat % 16777216

/-- The chip counts what was configured, and counts at all: for it zero is
no timeout. -/
structure ChipAgrees (timeoutMs timeout : UInt32) : Prop where
  exact : timeoutField timeout = timeoutMs.toNat * 1000
  bounded : timeoutField timeout ≠ 0

theorem chipAgrees_iff (timeoutMs : UInt32) :
    ChipAgrees timeoutMs (timeoutMs * 1000) ↔
      1 ≤ timeoutMs.toNat ∧ timeoutMs.toNat ≤ 16777 := by
  have hfield : timeoutField (timeoutMs * 1000) =
      timeoutMs.toNat * 1000 % 4294967296 % 16777216 := by
    rw [timeoutField, UInt32.toNat_mul]
    rfl
  constructor
  · intro h
    have hexact := h.exact
    have hbounded := h.bounded
    rw [hfield] at hexact hbounded
    omega
  · intro h
    exact ⟨by rw [hfield]; omega, by rw [hfield]; omega⟩

section AnyDriver

variable {ε : Type} {E : Env ε Call Answer} {e : ε} {tick : ε → ε → Prop}

/-- What is true of a command, and of all that a chain does after it. -/
theorem ensures_thenOk_events {P : Event Call Answer → Prop} {cmd : Cmd} {q : Api RadioStatus}
    (hcmd : ∀ rc, P ⟨.cmd cmd, rc⟩)
    (hq : ∀ e, Ensures E q (fun tr _ _ _ => ∀ ev ∈ tr, P ev) s e) :
    Ensures E (thenOk (driver cmd) q) (fun tr _ _ _ => ∀ ev ∈ tr, P ev) s e := by
  rw [ensures_thenOk, ensures_driver]
  intro rc e' _
  refine ⟨fun _ => (hq e').mono ?_, fun _ => List.forall_mem_singleton.mpr (hcmd rc)⟩
  intro tr _ _ _ h
  exact List.forall_mem_append.mpr ⟨List.forall_mem_singleton.mpr (hcmd rc), h⟩

/-- `sx1262_set_tx` is called with the configured timeout. -/
def SetsConfigured (s : Ctx) (ev : Event Call Answer) : Prop :=
  ∀ timeout, ev.call = .cmd (.setTx timeout) → timeout = s.config.txTimeoutMs * 1000

theorem armTx_sets :
    Ensures E armTx (fun tr _ _ _ => ∀ ev ∈ tr, SetsConfigured s ev) s e := by
  refine ensures_armTx fun _ _ _ _ nowMs _ _ rc _ _ tr htr => ?_
  have hall : ∀ ev ∈ tr, SetsConfigured s ev := by
    intro ev hev timeout h
    simp only [htr, List.mem_cons, List.not_mem_nil, or_false] at hev
    rcases hev with rfl | rfl | rfl | rfl
    · cases h
    · cases h
    · cases h
    · cases h
      rfl
  exact ⟨fun _ => hall, fun _ => hall⟩

theorem startTx_sets (data : Option Buf) (len : Nat) :
    Ensures E (startTx data len) (fun tr _ _ _ => ∀ ev ∈ tr, SetsConfigured s ev) s e := by
  refine ensures_startTx (fun _ _ => List.forall_mem_nil _) fun _ _ => ?_
  have hother : ∀ {cmd : Cmd}, (∀ timeout, cmd ≠ .setTx timeout) → ∀ rc : UInt8,
      SetsConfigured s ⟨.cmd cmd, rc⟩ :=
    fun hne _ timeout h => (hne timeout (Call.cmd.inj h)).elim
  refine ensures_thenOk_events (hother (by simp)) fun _ => ?_
  refine ensures_thenOk_events (hother (by simp)) fun _ => ?_
  refine ensures_thenOk_events (hother (by simp)) fun _ => ?_
  rw [ensures_thenOk_applyPacketParams]
  refine ensures_thenOk_events (hother (by simp)) fun _ => ?_
  exact ensures_thenOk_events (hother (by simp)) fun _ => armTx_sets

theorem init_config (hwCfg : RadioHwConfig) (cfg : RadioConfig) :
    Ensures E (init (some hwCfg) (some cfg))
      (fun _ r s' _ => r = .ok → s'.config = cfg ∧ s'.initialized = true) s e := by
  cases hi : s.initialized with
  | true => simp [init, hi, ensures_ite]
  | false =>
      simp only [init, hi, ensures_bind, ensures_read, ensures_ite, ensures_pure,
        ensures_modify, ensures_ask, ensures_driver, Bool.false_eq_true, false_implies,
        not_false_eq_true, true_implies, true_and]
      intro _ e₁ _ _ e₂ _ rc e₃ _
      refine ⟨fun hr hok => (hr hok).elim, fun _ tr status s₄ e₄ hx => ?_⟩
      obtain rfl := Prog.ReadOnly.exec hx readOnly_applyConfig
      exact ⟨fun hr _ _ _ hok => (hr hok).elim, fun _ => ⟨rfl, rfl⟩⟩

/-- An initialised radio keeps its configuration. -/
theorem config_step {x : Rec (Ctx × ε) RadioLabel} {cfg : RadioConfig}
    (h : Session program E tick x.pre x.label x.post)
    (hi : x.pre.1.config = cfg ∧ x.pre.1.initialized = true) :
    x.post.1.config = cfg ∧ x.post.1.initialized = true := by
  obtain ⟨⟨s, e⟩, l, ⟨s', e'⟩⟩ := x
  cases h with
  | tick => exact hi
  | @op o _ _ tr r _ _ hx =>
      cases ho : o.isInit with
      | true =>
          cases o with
          | init hwCfg cfg =>
              obtain ⟨-, rfl, -⟩ := init_initialized hi.2 hwCfg cfg _ _ _ _ hx
              exact hi
          | _ => cases ho
      | false =>
          have hsame := sameConfigs_op (program_spec o _ _ _ _ hx) ho
          exact ⟨hsame.config.trans hi.1, hsame.initialized.trans hi.2⟩

/-- In any run of a radio initialised with a configuration, every
`sx1262_set_tx` gives the chip the deadline that `poll` applies, exactly if
the configured timeout is between 1 and 16777 ms. -/
theorem chip_timeout_agrees_iff {hwCfg : RadioHwConfig} {cfg : RadioConfig} {s₀ : Ctx} {e₀ : ε}
    {w₀ w : Ctx × ε} {tr₀ tr : List (Event Call Answer)}
    {xs : List (Rec (Ctx × ε) RadioLabel)} {x : Rec (Ctx × ε) RadioLabel}
    {data : Option Buf} {len : Nat} {r : RadioStatus} {timeout : UInt32} {rc : UInt8}
    (hinit : Exec E (init (some hwCfg) (some cfg)) s₀ e₀ tr₀ .ok w₀.1 w₀.2)
    (hrun : Run (Session program E tick) w₀ xs w) (hx : x ∈ xs)
    (hl : x.label = .op (.startTx data len) tr r)
    (hset : (⟨.cmd (.setTx timeout), rc⟩ : Event Call Answer) ∈ tr) :
    ChipAgrees x.post.1.config.txTimeoutMs timeout ↔
      1 ≤ cfg.txTimeoutMs.toNat ∧ cfg.txTimeoutMs.toNat ≤ 16777 := by
  have hinv := hrun.invariant
    (fun w => w.1.config = cfg ∧ w.1.initialized = true) (fun _ => True)
    (init_config hwCfg cfg _ _ _ _ hinit rfl) (fun _ hs _ hi => config_step hs hi)
    fun _ _ => trivial
  obtain ⟨hs, hpre, hpost⟩ := hinv.2 x hx
  rw [hl] at hs
  obtain rfl := startTx_sets data len _ _ _ _ hs.exec _ hset timeout rfl
  rw [hpost.1, hpre.1]
  exact chipAgrees_iff cfg.txTimeoutMs

end AnyDriver

/-- A driver that may answer anything. -/
def anyAnswer : Env Unit Call Answer := fun _ _ _ _ => True

/-- The default configuration with a timeout of its own. -/
def configFor (timeoutMs : UInt32) : RadioConfig :=
  { getDefaultConfig .sx1262 with txTimeoutMs := timeoutMs }

/-- `init` accepts any timeout. -/
theorem bench_send (timeoutMs : UInt32) :
    ∃ (tr₀ tr : _) (r : _) (w₀ w : Ctx × Unit) (rc : UInt8),
      Exec anyAnswer (init (some (Ctx.powerOn .sx1262).hwConfig) (some (configFor timeoutMs)))
          (Ctx.powerOn .sx1262) () tr₀ .ok w₀.1 w₀.2
        ∧ Exec anyAnswer (program hello) w₀.1 w₀.2 tr r w.1 w.2
        ∧ (⟨.cmd (.setTx (timeoutMs * 1000)), rc⟩ : Event Call Answer) ∈ tr
        ∧ w.1.config.txTimeoutMs = timeoutMs := by
  have hanswers : Answers (fun e i => (plainAnswer i, e)) anyAnswer := fun _ _ => trivial
  have heval : ∃ tr₀ tr r w₀ w rc,
      (init (some (Ctx.powerOn .sx1262).hwConfig) (some (configFor timeoutMs))).eval
        (fun e i => (plainAnswer i, e)) 1 (Ctx.powerOn .sx1262, ()) = some (tr₀, .ok, w₀)
      ∧ (program hello).eval (fun e i => (plainAnswer i, e)) 1 w₀ = some (tr, r, w)
      ∧ tr[8]? = some (⟨.cmd (.setTx (timeoutMs * 1000)), rc⟩ : Event Call Answer)
      ∧ w.1.config.txTimeoutMs = timeoutMs :=
    ⟨_, _, _, _, _, _, rfl, rfl, rfl, rfl⟩
  obtain ⟨tr₀, tr, r, w₀, w, rc, h₀, h, hset, hT⟩ := heval
  exact ⟨tr₀, tr, r, w₀, w, rc, Prog.eval_exec hanswers h₀, Prog.eval_exec hanswers h,
    List.mem_of_getElem? hset, hT⟩

/-- The 200 ms of the default configuration are within the 24 bits. -/
theorem chip_timeout_agrees_iff_default : ∃ (w : Ctx × Unit) (tr : List (Event Call Answer))
    (timeout : UInt32) (rc : UInt8), (⟨.cmd (.setTx timeout), rc⟩ : Event Call Answer) ∈ tr
      ∧ w.1.config.txTimeoutMs = 200 ∧ ChipAgrees w.1.config.txTimeoutMs timeout := by
  obtain ⟨tr₀, tr, r, w₀, w, rc, hinit, hsend, hset, hT⟩ := bench_send 200
  have hrun : Run (Session program anyAnswer fun _ _ => False) w₀
      [⟨w₀, .op hello tr r, w⟩] w := .cons (.op (o := hello) hsend) .nil
  exact ⟨w, tr, _, rc, hset, hT, (chip_timeout_agrees_iff hinit hrun (List.mem_singleton.mpr rfl)
    rfl hset).mpr (by decide)⟩

/-- Twenty seconds are asked for and 3222784 are sent. -/
theorem chip_timeout_truncated : ∃ (tr₀ tr : _) (r : _) (w₀ w : Ctx × Unit) (timeout : UInt32)
    (rc : UInt8),
    Exec anyAnswer (init (some (Ctx.powerOn .sx1262).hwConfig) (some (configFor 20000)))
        (Ctx.powerOn .sx1262) () tr₀ .ok w₀.1 w₀.2
      ∧ Exec anyAnswer (program hello) w₀.1 w₀.2 tr r w.1 w.2
      ∧ (⟨.cmd (.setTx timeout), rc⟩ : Event Call Answer) ∈ tr
      ∧ timeoutField timeout = 3222784
      ∧ ¬ChipAgrees w.1.config.txTimeoutMs timeout := by
  obtain ⟨tr₀, tr, r, w₀, w, rc, hinit, hsend, hset, hT⟩ := bench_send 20000
  have hfield : timeoutField (20000 * 1000) = 3222784 := by decide
  refine ⟨tr₀, tr, r, w₀, w, _, rc, hinit, hsend, hset, hfield, fun h => ?_⟩
  have hexact := h.exact
  rw [hfield, hT] at hexact
  exact absurd hexact (by decide)

end Sx126x

end LeosSdk
