import LeosSdk.RadioApi

/-!
# SX126x: what each operation can do

One inversion lemma per API function, for any environment: how a completed
call can have changed the context, and what its trace shows of the answers
that decided it. Every invariant of a radio is derived from these; no later
proof looks inside an API function for its effect on the context.

Each lemma has an inductive type of its own for its outcomes (`StartTx`,
`StartRx`, `Standby`, `Read`, `Init`, `Poll`), with one constructor per way
through the function. `OpStep` puts them together by operation, and `op_step`
reads one off any step of a session, so an invariant is proved by cases on the
operation and then on its outcome. The inversion lemmas themselves are proved
by the rules of `ProgLogic`, one call after the other.

A reported interrupt acts on two separate parts of the context: the mode and
the driver's flags (`Ctx.noteReport`, a pure function) and the receive slot
(`Received`, which also depends on what the driver says about the packet). The
two commute (`noteReports_withSlot`), so a whole delivery is the pure function
on the one and `Delivered` on the other, and a proof about modes never meets
the slot.

Where only the outcome for the transmission matters `Polled` says it shorter
than `Poll`: its cases are the ways a transmission in flight goes on or ends.
-/

namespace LeosSdk

namespace Sx126x

open Prog (modify)

variable {ε : Type} {E : Env ε Call Answer} {s : Ctx} {e : ε}

/-! ## Rules for the embedding's helpers -/

theorem mapStatus_ok {rc : UInt8} : mapStatus rc = .ok ↔ rc = 0 := by
  unfold mapStatus
  split
  · simp_all
  · split
    · simp_all
    · split <;> simp_all

@[simp] theorem ensures_driver {c : Cmd} {Q : Post Ctx ε Call Answer RadioStatus} :
    Ensures E (driver c) Q s e ↔
      ∀ rc e', E e (.cmd c) rc e' → Q [⟨.cmd c, rc⟩] (mapStatus rc) s e' := by
  simp [driver]

theorem ensures_thenOk {p q : Api RadioStatus}
    {Q : Post Ctx ε Call Answer RadioStatus} :
    Ensures E (thenOk p q) Q s e ↔
      Ensures E p (fun tr status s' e' =>
        (status = .ok → Ensures E q (fun tr' => Q (tr ++ tr')) s' e')
          ∧ (status ≠ .ok → Q tr status s' e')) s e := by
  simp only [thenOk, ensures_bind, ensures_ite, ensures_pure, List.append_nil,
    and_comm, ne_eq, not_not]

/-- The effect of a chain whose steps leave the context alone: a failing step
stops the chain with the context as it was. Guards and configuration all go
through this rule. -/
theorem ensures_thenOk_failing {p q : Api RadioStatus} {Q : RadioStatus → Ctx → ε → Prop}
    (hp : p.ReadOnly) (hfail : ∀ r e', r ≠ .ok → Q r s e')
    (hq : ∀ e, Ensures E q (fun _ => Q) s e) : Ensures E (thenOk p q) (fun _ => Q) s e := by
  rw [ensures_thenOk]
  intro tr status s' e' hx
  obtain rfl := Prog.ReadOnly.exec hx hp
  exact ⟨fun _ => hq e', hfail status e'⟩

/-- `apply_packet_params` is one command. -/
theorem ensures_thenOk_applyPacketParams {n : UInt8} {q : Api RadioStatus}
    {Q : Post Ctx ε Call Answer RadioStatus} :
    Ensures E (thenOk (applyPacketParams n) q) Q s e ↔
      Ensures E (thenOk (driver (.setLoraPacketParamsExplicit s.config.preambleLenSymbols n
        s.config.crcEnabled s.config.iqInverted)) q) Q s e := by
  simp only [ensures_thenOk, applyPacketParams, ensures_bind, ensures_read, List.nil_append]

theorem readOnly_driver (c : Cmd) : (driver c).ReadOnly :=
  Prog.readOnly_bind (fun _ => trivial) fun _ => trivial

theorem readOnly_thenOk {p q : Api RadioStatus} (hp : p.ReadOnly)
    (hq : q.ReadOnly) : (thenOk p q).ReadOnly := by
  refine Prog.readOnly_bind hp fun status => ?_
  split
  · trivial
  · exact hq

theorem readOnly_applyPacketParams (n : UInt8) : (applyPacketParams n).ReadOnly :=
  Prog.readOnly_bind (fun _ => trivial) fun _ => readOnly_driver _

theorem readOnly_applyTcxo (cfg : RadioConfig) : (applyTcxo cfg).ReadOnly := by
  unfold applyTcxo
  split
  · split
    · trivial
    · refine Prog.readOnly_bind (fun _ => trivial) fun a => ?_
      dsimp only
      split
      · trivial
      · exact readOnly_driver _
  · trivial

theorem readOnly_applyRfSwitch (cfg : RadioConfig) :
    (applyRfSwitch cfg).ReadOnly := by
  unfold applyRfSwitch
  split
  · exact readOnly_driver _
  · trivial

/-- A register read, checked, and written back. -/
theorem readOnly_readThen {i : Call} {rc : Answer i → UInt8}
    {c : Answer i → Cmd} :
    (do
      let a ← call i
      if mapStatus (rc a) ≠ .ok then return mapStatus (rc a)
      driver (c a) : Api RadioStatus).ReadOnly := by
  refine Prog.readOnly_bind (fun _ => trivial) fun a => ?_
  split
  · trivial
  · exact readOnly_driver _

theorem readOnly_applyConfig : applyConfig.ReadOnly := by
  refine Prog.readOnly_bind (fun _ => trivial) fun ctx => ?_
  dsimp only
  split
  · repeat' first
      | exact readOnly_driver _
      | exact readOnly_applyTcxo _
      | exact readOnly_applyRfSwitch _
      | exact readOnly_applyPacketParams _
      | exact readOnly_readThen
      | refine readOnly_thenOk ?_ ?_
  · trivial

/-! ## start_tx, start_rx, standby -/

def Ctx.clearFlags (s : Ctx) : Ctx :=
  { s with handle := { txDone := false, timeout := false } }

/-- `start_tx`'s guards. -/
structure Ctx.Ready (s : Ctx) : Prop where
  initialized : s.initialized = true
  idle : s.txInFlight = false
  notTx : s.mode ≠ .tx

/-- `start_tx` refuses before it asks the driver anything, or is past its
guards. -/
theorem ensures_startTx {data : Option Buf} {len : Nat}
    {Q : Post Ctx ε Call Answer RadioStatus} (hrefused : ∀ r, r ≠ .ok → Q [] r s e)
    (hready : ∀ bytes : List UInt8, s.Ready → Ensures E
      (thenOk (driver (.setDioIrqParams irqMaskTx irqMaskTx irqMaskNone irqMaskNone)) <|
        thenOk (driver (.clearIrqStatus irqMaskAll)) <|
        thenOk (driver (.setStandby .xtal32Mhz)) <|
        thenOk (applyPacketParams len.toUInt8) <|
        thenOk (driver (.writeBuffer 0 bytes)) armTx) Q s e) :
    Ensures E (startTx data len) Q s e := by
  cases data with
  | none =>
      rw [startTx, ensures_pure]
      exact hrefused _ (by decide)
  | some data =>
      simp only [startTx, ensures_ite, ensures_bind, ensures_read, ensures_pure,
        List.nil_append]
      refine ⟨fun _ => hrefused _ (by decide), fun _ => ⟨fun _ => hrefused _ (by decide),
        fun hinit => ⟨fun _ => hrefused _ (by decide), fun hbusy => hready _ ?_⟩⟩⟩
      simp only [Bool.or_eq_true, beq_iff_eq, not_or, Bool.not_eq_true,
        Bool.not_eq_eq_eq_not, Bool.not_true, Bool.not_eq_false] at hinit hbusy
      exact ⟨hinit, hbusy.1, hbusy.2⟩

/-- What comes before `arm_tx` leaves the context alone. -/
theorem ensures_startTx_arm {data : Option Buf} {len : Nat} {Q : RadioStatus → Ctx → ε → Prop}
    (hfail : ∀ r e', r ≠ .ok → Q r s e')
    (harm : s.Ready → ∀ e, Ensures E armTx (fun _ => Q) s e) :
    Ensures E (startTx data len) (fun _ => Q) s e := by
  refine ensures_startTx (fun r => hfail r e) fun _ hready => ?_
  refine ensures_thenOk_failing (readOnly_driver _) hfail fun _ => ?_
  refine ensures_thenOk_failing (readOnly_driver _) hfail fun _ => ?_
  refine ensures_thenOk_failing (readOnly_driver _) hfail fun _ => ?_
  refine ensures_thenOk_failing (readOnly_applyPacketParams _) hfail fun _ => ?_
  exact ensures_thenOk_failing (readOnly_driver _) hfail (harm hready)

/-- What `start_tx` can do: fail with the context as it was, fail to arm,
or arm a transmission. -/
inductive StartTx (s : Ctx) : RadioStatus → Ctx → Prop
  | refused {r : RadioStatus} (hr : r ≠ .ok) : StartTx s r s
  | failed {r : RadioStatus} (hs : s.Ready) (nowMs : UInt64) (hr : r ≠ .ok) :
      StartTx s r ((s.clearFlags.arm nowMs).endTx r)
  | armed (hs : s.Ready) (nowMs : UInt64) :
      StartTx s .ok (s.clearFlags.arm nowMs)

/-- The calls of `arm_tx`, and the two ways the last one can end. -/
theorem ensures_armTx {Q : Post Ctx ε Call Answer RadioStatus}
    (h : ∀ e₁, E e (.setIrqPending false) () e₁ → ∀ e₂, E e₁ (.setIrqLatchedAtMs 0) () e₂ →
      ∀ nowMs e₃, E e₂ .platformNowMs nowMs e₃ →
      ∀ rc e₄, E e₃ (.cmd (.setTx (s.config.txTimeoutMs * 1000))) rc e₄ →
      ∀ tr, tr = [⟨.setIrqPending false, ()⟩, ⟨.setIrqLatchedAtMs 0, ()⟩, ⟨.platformNowMs, nowMs⟩,
          ⟨.cmd (.setTx (s.config.txTimeoutMs * 1000)), rc⟩] →
        (mapStatus rc ≠ .ok →
          Q tr (mapStatus rc) ((s.clearFlags.arm nowMs).endTx (mapStatus rc)) e₄)
        ∧ (mapStatus rc = .ok → Q tr .ok (s.clearFlags.arm nowMs) e₄)) :
    Ensures E armTx Q s e := by
  simp only [armTx, ensures_bind, ensures_modify, ensures_ask, ensures_read,
    ensures_driver, ensures_ite, ensures_pure, not_not]
  intro _ e₁ h₁ _ e₂ h₂ nowMs e₃ h₃ rc e₄ h₄
  exact h e₁ h₁ e₂ h₂ nowMs e₃ h₃ rc e₄ h₄ _ rfl

theorem armTx_spec (hs : s.Ready) :
    Ensures E armTx (fun _ r s' _ => StartTx s r s') s e := by
  refine ensures_armTx fun e₁ _ e₂ _ nowMs e₃ _ rc e₄ _ tr _ => ?_
  exact ⟨fun hr => .failed hs nowMs hr, fun _ => .armed hs nowMs⟩

theorem startTx_spec (data : Option Buf) (len : Nat) :
    Ensures E (startTx data len) (fun _ r s' _ => StartTx s r s') s e :=
  ensures_startTx_arm (fun _ _ => .refused) fun hs _ => armTx_spec hs

/-- `start_rx` refuses before it asks the driver anything, or is past its
guards. -/
theorem ensures_startRx {Q : Post Ctx ε Call Answer RadioStatus}
    (hrefused : ∀ r, r ≠ .ok → Q [] r s e)
    (hready : s.initialized = true → s.mode ≠ .tx → Ensures E
      (thenOk (driver (.setDioIrqParams irqMaskRx irqMaskRx irqMaskNone irqMaskNone)) <|
        thenOk (driver (.clearIrqStatus irqMaskAll)) <|
        thenOk (applyPacketParams maxPayloadLen.toUInt8) <|
        thenOk (driver .continuousReceive) enterRx) Q s e) :
    Ensures E startRx Q s e := by
  simp only [startRx, ensures_ite, ensures_bind, ensures_read, ensures_pure, List.nil_append]
  exact ⟨fun _ => hrefused _ (by decide), fun hinit => ⟨fun _ => hrefused _ (by decide),
    fun hm => hready (by simpa using hinit) hm⟩⟩

/-- What `start_rx` can do. -/
inductive StartRx (s : Ctx) : RadioStatus → Ctx → Prop
  | refused {r : RadioStatus} (hr : r ≠ .ok) : StartRx s r s
  | entered (hi : s.initialized = true) (hm : s.mode ≠ .tx) :
      StartRx s .ok { s with mode := .rx }

theorem startRx_spec :
    Ensures E startRx (fun _ r s' _ => StartRx s r s') s e := by
  refine ensures_startRx (fun _ => .refused) fun hinit hm => ?_
  have hfail : ∀ (r : RadioStatus) (_ : ε), r ≠ .ok → StartRx s r s := fun _ _ => .refused
  refine ensures_thenOk_failing (readOnly_driver _) hfail fun _ => ?_
  refine ensures_thenOk_failing (readOnly_driver _) hfail fun _ => ?_
  refine ensures_thenOk_failing (readOnly_applyPacketParams _) hfail fun _ => ?_
  refine ensures_thenOk_failing (readOnly_driver _) hfail fun _ => ?_
  simp only [enterRx, ensures_bind, ensures_ask, ensures_modify, ensures_pure]
  intro _ _ _
  exact .entered hinit hm

/-- The driver's answer to `standby`'s command. -/
abbrev setStandbyEvent (rc : UInt8) : Event Call Answer :=
  ⟨.cmd (.setStandby .xtal32Mhz), rc⟩

/-- What `standby` can do, and what the driver answered it. -/
inductive Standby (s : Ctx) : List (Event Call Answer) → RadioStatus → Ctx → Prop
  | refused {tr : List (Event Call Answer)} {r : RadioStatus} (hr : r ≠ .ok) :
      Standby s tr r s
  | done (hi : s.initialized = true) :
      Standby s [setStandbyEvent 0] .ok { s with mode := .standby }

theorem standby_spec :
    Ensures E standby (fun tr r s' _ => Standby s tr r s') s e := by
  simp only [standby, ensures_ite, ensures_bind, ensures_read, ensures_pure,
    ensures_driver, ensures_modify]
  refine ⟨fun _ => .refused (by decide), fun hinit rc e' _ =>
    ⟨fun hr => .refused hr, fun hr => ?_⟩⟩
  obtain rfl : rc = 0 := mapStatus_ok.mp (not_not.mp hr)
  exact .done (by simpa using hinit)

/-! ## read -/

/-- What `read` can do. -/
inductive Read (s : Ctx) (bufSize : Nat) (infoNull : Bool) : ReadResult → Ctx → Prop
  | refused {r : RadioStatus} (hr : r ≠ .ok) :
      Read s bufSize infoNull (.failed r) s
  | taken (hi : s.initialized = true) (hp : s.rxPending = true)
      (hlen : s.rxLen ≤ bufSize) :
      Read s bufSize infoNull
        { status := .ok, written := s.rxBytes, outLen := some s.rxLen
          info := if infoNull then none else some s.rxInfo }
        { s with rxPending := false, rxLen := 0 }

theorem read_spec (bufNull : Bool) (bufSize : Nat) (outLenNull infoNull : Bool) :
    Ensures E (read bufNull bufSize outLenNull infoNull)
      (fun _ r s' _ => Read s bufSize infoNull r s') s e := by
  simp only [read, ensures_ite, ensures_bind, ensures_read, ensures_pure,
    ensures_modify]
  refine ⟨fun _ => .refused (by decide), fun _ => ⟨fun _ => .refused (by decide),
    fun hinit => ⟨fun _ => .refused (by decide), fun hp => ⟨fun _ => .refused (by decide),
      fun hlen => ?_⟩⟩⟩⟩
  exact .taken (by simpa using hinit) (by simpa using hp) (Nat.not_lt.mp hlen)

/-! ## init -/

/-- What `init` can do: nothing, fail having reset the context, or leave it
reset and initialised. -/
inductive Init (s : Ctx) : RadioStatus → Ctx → Prop
  | refused {r : RadioStatus} (hr : r ≠ .ok) : Init s r s
  | failed {r : RadioStatus} {hwCfg : RadioHwConfig} {cfg : RadioConfig}
      (hi : s.initialized = false) (hr : r ≠ .ok) :
      Init s r (s.reset hwCfg cfg)
  | done {hwCfg : RadioHwConfig} {cfg : RadioConfig} (hi : s.initialized = false) :
      Init s .ok { s.reset hwCfg cfg with initialized := true, mode := .standby }

theorem init_spec (hwCfg : Option RadioHwConfig) (cfg : Option RadioConfig) :
    Ensures E (init hwCfg cfg) (fun _ r s' _ => Init s r s') s e := by
  rcases hwCfg with _ | hwCfg
  · simp only [init, ensures_pure]
    exact .refused (by decide)
  rcases cfg with _ | cfg
  · simp only [init, ensures_pure]
    exact .refused (by decide)
  · simp only [init, ensures_bind, ensures_read, ensures_ite, ensures_pure,
      ensures_modify, ensures_ask, ensures_driver]
    refine ⟨fun _ => .refused (by decide), fun hi _ e₁ _ _ e₂ _ rc e₃ _ =>
      ⟨fun hr => .failed (by simpa using hi) hr, fun _ => ?_⟩⟩
    intro tr status s₄ e₄ hx
    obtain rfl := Prog.ReadOnly.exec hx readOnly_applyConfig
    have hi' : s.initialized = false := by simpa using hi
    refine ⟨fun hr _ e₅ _ => ?_, fun _ => .done hi'⟩
    have heq : ({ s.reset hwCfg cfg with initialized := false, mode := .uninit } : Ctx)
        = s.reset hwCfg cfg := by
      simp [Ctx.reset, hi']
    show Init s status { s.reset hwCfg cfg with initialized := false, mode := .uninit }
    rw [heq]
    exact .failed hi' hr

/-! ## The receive slot -/

structure RxSlot where
  pending : Bool
  overrun : Bool
  buf : Fin maxPayloadLen → UInt8
  len : Nat
  info : RadioPacketInfo

def Ctx.slot (s : Ctx) : RxSlot :=
  ⟨s.rxPending, s.rxOverrun, s.rxBuf, s.rxLen, s.rxInfo⟩

def Ctx.withSlot (s : Ctx) (sl : RxSlot) : Ctx :=
  { s with rxPending := sl.pending, rxOverrun := sl.overrun, rxBuf := sl.buf
           rxLen := sl.len, rxInfo := sl.info }

@[simp] theorem withSlot_withSlot (s : Ctx) (sl sl' : RxSlot) :
    (s.withSlot sl).withSlot sl' = s.withSlot sl' := rfl

/-- `LEOS_SX126X_MAX_PAYLOAD_LEN` clamps the reported length. -/
def clampLen (len : UInt16) : Nat :=
  if maxPayloadLen < len.toNat then maxPayloadLen else len.toNat

/-- The metadata latched with a packet. -/
def packetInfo (rc : UInt8) (st : PacketStatus) : RadioPacketInfo :=
  if rc = 0 then { rssiDbm := st.rssiPkt, snrDb := st.snrPkt, crcOk := true }
  else { rssiDbm := 0, snrDb := 0, crcOk := true }

def RxSlot.latch (sl : RxSlot) (buf : Buf) (len : UInt16) (rc : UInt8)
    (st : PacketStatus) : RxSlot :=
  { pending := true, overrun := sl.overrun, buf := memcpyRx sl.buf buf (clampLen len)
    len := clampLen len, info := packetInfo rc st }

/-- The packet a callback invocation brings, if it brings one. -/
def Report.packet (rep : Report) : Option (Buf × UInt16) :=
  match rep.type, rep.buf with
  | .rxDone, some buf => some (buf, rep.len)
  | _, _ => none

/-- The driver's answer to `latch_rx`. -/
abbrev packetStatusEvent (rc : UInt8) (st : PacketStatus) : Event Call Answer :=
  ⟨.getLoraPacketStatus, (rc, st)⟩

/-- What one callback invocation can do to the slot: it brings no packet, or
the packet finds the slot full and is dropped, or it is latched with what the
driver says about it. -/
inductive Received (sl : RxSlot) (rep : Report) : List (Event Call Answer) → RxSlot → Prop
  | ignored (h : rep.packet = none) : Received sl rep [] sl
  | overrun {p : Buf × UInt16} (h : rep.packet = some p) (hp : sl.pending = true) :
      Received sl rep [] { sl with overrun := true }
  | latched {buf : Buf} {len : UInt16} (h : rep.packet = some (buf, len))
      (hp : sl.pending = false) (rc : UInt8) (st : PacketStatus) :
      Received sl rep [packetStatusEvent rc st] (sl.latch buf len rc st)

theorem latchRx_spec (buf : Option Buf) (len : UInt16) :
    Ensures E (latchRx buf len)
      (fun tr _ s' _ => ∃ sl, Received s.slot ⟨.rxDone, buf, len⟩ tr sl
        ∧ s' = s.withSlot sl) s e := by
  cases buf with
  | none =>
      simp only [latchRx, ensures_bind, ensures_read, ensures_pure]
      exact ⟨_, .ignored rfl, rfl⟩
  | some buf =>
      simp only [latchRx, ensures_bind, ensures_read, ensures_ite,
        ensures_modify, ensures_ask]
      refine ⟨fun hp => ⟨_, .overrun rfl hp, rfl⟩, fun hp r e' _ => ?_⟩
      have hp' : s.slot.pending = false := Bool.eq_false_iff.mpr hp
      refine ⟨fun hrc => ⟨_, .latched rfl hp' r.1 r.2, ?_⟩,
        fun hrc => ⟨_, .latched rfl hp' r.1 r.2, ?_⟩⟩
      · simp only [RxSlot.latch, packetInfo, hrc, if_pos]
        rfl
      · simp only [RxSlot.latch, packetInfo, hrc, if_false]
        rfl

/-! ## Reported interrupts -/

/-- The mode bookkeeping of one callback invocation. -/
def Ctx.noteMode (s : Ctx) (type : Irq) : Ctx :=
  match type with
  | .txDone => { s with mode := .standby }
  | .crcErr | .timeout => if s.mode = .tx then { s with mode := .standby } else s
  | _ => s

theorem receiveCallbackImpl_spec (rep : Report) :
    Ensures E (receiveCallbackImpl rep.type rep.buf rep.len)
      (fun tr _ s' _ => ∃ sl, Received s.slot rep tr sl
        ∧ s' = (s.noteMode rep.type).withSlot sl) s e := by
  obtain ⟨type, buf, len⟩ := rep
  cases type with
  | rxDone => exact latchRx_spec buf len
  | txDone | preambleDetected | syncWordValid | headerValid | headerErr
  | cadDone | cadDetected =>
      simp only [receiveCallbackImpl, ensures_modify, ensures_pure]
      exact ⟨_, .ignored rfl, rfl⟩
  | crcErr | timeout =>
      simp only [receiveCallbackImpl, ensures_modify]
      refine ⟨_, .ignored rfl, ?_⟩
      simp only [Ctx.noteMode]
      split <;> rfl

/-- The vendor handler's flag and the callback's mode bookkeeping. -/
def Ctx.noteReport (s : Ctx) (type : Irq) : Ctx :=
  { s with handle := s.handle.note type }.noteMode type

def Ctx.noteReports (s : Ctx) (reports : List Report) : Ctx :=
  reports.foldl (fun s rep => s.noteReport rep.type) s

theorem noteReport_withSlot (s : Ctx) (sl : RxSlot) (type : Irq) :
    (s.withSlot sl).noteReport type = (s.noteReport type).withSlot sl := by
  cases type with
  | crcErr | timeout =>
      by_cases h : s.mode = .tx <;> simp [Ctx.noteReport, Ctx.noteMode, Ctx.withSlot, h]
  | _ => rfl

theorem noteReports_withSlot (s : Ctx) (sl : RxSlot) (reports : List Report) :
    (s.withSlot sl).noteReports reports = (s.noteReports reports).withSlot sl := by
  induction reports generalizing s with
  | nil => rfl
  | cons rep reports ih =>
      simp only [Ctx.noteReports, List.foldl_cons, noteReport_withSlot] at ih ⊢
      exact ih _

/-- Whether some report has type `q`. -/
def reported (reports : List Report) (q : Irq) : Bool :=
  reports.any (·.type == q)

@[simp] theorem reported_nil (q : Irq) : reported [] q = false := rfl

theorem reported_cons (rep : Report) (reports : List Report) (q : Irq) :
    reported (rep :: reports) q = (rep.type == q || reported reports q) := rfl

theorem reported_iff {reports : List Report} {q : Irq} :
    reported reports q = true ↔ ∃ rep ∈ reports, rep.type = q := by
  simp [reported]

/-- The mode after a sequence of reports. -/
def reportedMode (reports : List Report) (m : RadioMode) : RadioMode :=
  if reported reports .txDone ||
      (m == .tx && (reported reports .crcErr || reported reports .timeout)) then
    .standby
  else m

/-- What a sequence of reports does to the context, the slot aside. -/
theorem noteReports_eq (s : Ctx) (reports : List Report) :
    s.noteReports reports =
      { s with
        handle := {
          txDone := s.handle.txDone || reported reports .txDone
          timeout := s.handle.timeout || reported reports .timeout }
        mode := reportedMode reports s.mode } := by
  induction reports generalizing s with
  | nil => simp [Ctx.noteReports, reportedMode]
  | cons rep reports ih =>
      rw [Ctx.noteReports, List.foldl_cons, ← Ctx.noteReports, ih]
      obtain ⟨type, buf, len⟩ := rep
      cases type with
      | crcErr | timeout =>
          by_cases h : s.mode = .tx <;>
            simp [Ctx.noteReport, Ctx.noteMode, Handle.note, reportedMode,
              reported_cons, Bool.or_assoc, h]
      | _ =>
          simp [Ctx.noteReport, Ctx.noteMode, Handle.note, reportedMode,
            reported_cons, Bool.or_assoc]

/-- The software deadline of the transmission in flight. -/
def Ctx.pastDeadline (s : Ctx) (nowMs : UInt64) : Prop :=
  s.config.txTimeoutMs.toUInt64 ≤ nowMs - s.txStartedAtMs

/-- The context after a sequence of reports that left the slot at `sl`. -/
def Ctx.noted (s : Ctx) (reports : List Report) (sl : RxSlot) : Ctx :=
  (s.noteReports reports).withSlot sl

section Noted

variable (reports : List Report) (sl : RxSlot)

@[simp] theorem noted_slot : (s.noted reports sl).slot = sl := rfl

@[simp] theorem noted_initialized :
    (s.noted reports sl).initialized = s.initialized := by
  rw [Ctx.noted, noteReports_eq]; rfl

@[simp] theorem noted_txInFlight :
    (s.noted reports sl).txInFlight = s.txInFlight := by
  rw [Ctx.noted, noteReports_eq]; rfl

@[simp] theorem noted_lastTxStatus :
    (s.noted reports sl).lastTxStatus = s.lastTxStatus := by
  rw [Ctx.noted, noteReports_eq]; rfl

@[simp] theorem noted_mode :
    (s.noted reports sl).mode = reportedMode reports s.mode := by
  rw [Ctx.noted, noteReports_eq]; rfl

@[simp] theorem noted_txDone : (s.noted reports sl).handle.txDone =
    (s.handle.txDone || reported reports .txDone) := by
  rw [Ctx.noted, noteReports_eq]; rfl

@[simp] theorem noted_timeout : (s.noted reports sl).handle.timeout =
    (s.handle.timeout || reported reports .timeout) := by
  rw [Ctx.noted, noteReports_eq]; rfl

theorem noted_pastDeadline {nowMs : UInt64} :
    (s.noted reports sl).pastDeadline nowMs ↔ s.pastDeadline nowMs := by
  rw [Ctx.noted, noteReports_eq]; rfl

end Noted

/-- What a sequence of callback invocations can do to the slot. -/
inductive Delivered : RxSlot → List Report → List (Event Call Answer) → RxSlot → Prop
  | nil {sl : RxSlot} : Delivered sl [] [] sl
  | cons {sl sl₁ sl' : RxSlot} {rep : Report} {reports : List Report}
      {tr tr' : List (Event Call Answer)} (h : Received sl rep tr sl₁)
      (hs : Delivered sl₁ reports tr' sl') :
      Delivered sl (rep :: reports) (tr ++ tr') sl'

/-- Servicing reports only asks the driver about packets. -/
theorem Delivered.asks {sl sl' : RxSlot} {reports : List Report}
    {tr : List (Event Call Answer)} (h : Delivered sl reports tr sl') :
    ∀ ev ∈ tr, ∃ rc st, ev = packetStatusEvent rc st := by
  induction h with
  | nil => simp
  | cons h _ ih =>
      refine List.forall_mem_append.mpr ⟨?_, ih⟩
      cases h with
      | ignored | overrun => simp
      | latched _ _ rc st => exact List.forall_mem_singleton.mpr ⟨rc, st, rfl⟩

theorem deliver_spec (reports : List Report) :
    Ensures E (deliver reports)
      (fun tr _ s' _ => ∃ sl, Delivered s.slot reports tr sl
        ∧ s' = s.noted reports sl) s e := by
  induction reports generalizing s e with
  | nil =>
      simp only [deliver, ensures_pure]
      exact ⟨_, .nil, rfl⟩
  | cons rep reports ih =>
      simp only [deliver, ensures_bind, ensures_modify]
      refine (receiveCallbackImpl_spec rep).mono ?_
      intro tr _ _ e₁ h
      rcases h with ⟨sl₁, hrec, rfl⟩
      refine ih.mono ?_
      intro tr' _ _ e₂ h
      rcases h with ⟨sl, hdel, rfl⟩
      refine ⟨sl, ?_, ?_⟩
      · rw [List.nil_append]
        exact .cons hrec hdel
      · rw [Ctx.noted, noteReports_withSlot, withSlot_withSlot]
        rfl

/-! ## poll -/

/-- `service_deferred_irq` calls the handler where the latch was set, having
cleared it. -/
theorem ensures_serviceDeferredIrq {Q : Post Ctx ε Call Answer RadioStatus} :
    Ensures E serviceDeferredIrq Q s e ↔ ∀ pending e₁, E e .irqPending pending e₁ →
      (pending = false → Q [⟨.irqPending, false⟩] .ok s e₁)
      ∧ (pending = true → ∀ e₂, E e₁ (.setIrqPending false) () e₂ →
        ∀ a e₃, E e₂ .irqHandler a e₃ → Ensures E (deliver a.1) (fun tr _ s' e' =>
          Q (⟨.irqPending, true⟩ :: ⟨.setIrqPending false, ()⟩ :: ⟨.irqHandler, a⟩ :: tr)
            (mapStatus a.2) s' e') s e₃) := by
  simp only [serviceDeferredIrq, sx1262IrqHandler, ensures_bind, ensures_ask, ensures_ite,
    ensures_pure, List.append_nil, List.singleton_append, Bool.not_eq_true', Bool.not_eq_false]
  refine forall_congr' fun pending => forall_congr' fun e₁ => imp_congr_right fun _ => ?_
  refine and_congr (forall_congr' fun hp => ?_) (forall_congr' fun hp => ?_)
  · rw [hp]
  · rw [hp]
    exact ⟨fun h => h (), fun h _ => h⟩

/-- What `service_deferred_irq` can do. -/
inductive Serviced (s : Ctx) : List (Event Call Answer) → RadioStatus → Ctx → Prop
  | idle : Serviced s [⟨.irqPending, false⟩] .ok s
  | handled (reports : List Report) (rc : UInt8) {tr : List (Event Call Answer)}
      {sl : RxSlot} (h : Delivered s.slot reports tr sl) :
      Serviced s
        (⟨.irqPending, true⟩ :: ⟨.setIrqPending false, ()⟩ ::
          ⟨.irqHandler, (reports, rc)⟩ :: tr)
        (mapStatus rc) (s.noted reports sl)

theorem serviceDeferredIrq_spec :
    Ensures E serviceDeferredIrq (fun tr r s' _ => Serviced s tr r s') s e := by
  rw [ensures_serviceDeferredIrq]
  refine fun pending e₁ _ => ⟨fun _ => .idle, fun _ e₂ _ a e₃ _ => (deliver_spec a.1).mono ?_⟩
  intro tr _ s' e' h
  obtain ⟨sl, hdel, rfl⟩ := h
  exact .handled a.1 a.2 hdel

/-- What the rest of `poll` can do. -/
inductive PollTx (s : Ctx) : List (Event Call Answer) → Ctx → Prop
  | idle (hf : s.txInFlight = false) : PollTx s [] s
  | done (nowMs : UInt64) (hf : s.txInFlight = true) (hd : s.handle.txDone = true) :
      PollTx s [⟨.platformNowMs, nowMs⟩] (s.endTx .ok)
  | timedOut (nowMs : UInt64) (hf : s.txInFlight = true)
      (hd : s.handle.txDone = false)
      (ht : s.handle.timeout = true ∨ s.pastDeadline nowMs) :
      PollTx s [⟨.platformNowMs, nowMs⟩] (s.endTx .errTimeout)
  | waiting (nowMs : UInt64) (hf : s.txInFlight = true)
      (hd : s.handle.txDone = false) (ht : s.handle.timeout = false) :
      PollTx s [⟨.platformNowMs, nowMs⟩] s

theorem pollTx_spec :
    Ensures E pollTx (fun tr r s' _ => r = .ok ∧ PollTx s tr s') s e := by
  simp only [pollTx, ensures_bind, ensures_read, ensures_ask, ensures_ite,
    ensures_pure, ensures_modify, true_and]
  refine ⟨fun hf => .idle (by simpa using hf), fun hf nowMs e₁ _ => ?_⟩
  have hf' : s.txInFlight = true := by simpa using hf
  refine ⟨fun hd => .done nowMs hf' hd, fun hd => ?_⟩
  have hd' : s.handle.txDone = false := Bool.eq_false_iff.mpr hd
  refine ⟨fun ht => .timedOut nowMs hf' hd' ?_,
    fun ht => .waiting nowMs hf' hd' ?_⟩
  · simpa [Ctx.pastDeadline] using ht
  · simp only [Bool.or_eq_true, not_or, Bool.not_eq_true] at ht
    exact ht.1

/-- What `poll` can do: refuse, fail in servicing the interrupt, which ends a
transmission in flight with that status, or service it and then look after the
transmission. -/
inductive Poll (s : Ctx) : List (Event Call Answer) → RadioStatus → Ctx → Prop
  | refused (hi : s.initialized = false) : Poll s [] .errState s
  | failed {tr : List (Event Call Answer)} {r : RadioStatus} {s₁ : Ctx}
      (hi : s.initialized = true) (hs : Serviced s tr r s₁) (hr : r ≠ .ok) :
      Poll s tr r (if s₁.txInFlight then s₁.endTx r else s₁)
  | polled {tr tr' : List (Event Call Answer)} {s₁ s₂ : Ctx}
      (hi : s.initialized = true) (hs : Serviced s tr .ok s₁)
      (hp : PollTx s₁ tr' s₂) : Poll s (tr ++ tr') .ok s₂

/-- `poll` services the interrupt and, unless that fails, looks after a
transmission. -/
theorem ensures_poll {Q : Post Ctx ε Call Answer RadioStatus} :
    Ensures E poll Q s e ↔ (s.initialized = false → Q [] .errState s e)
      ∧ (s.initialized = true → Ensures E serviceDeferredIrq (fun tr status s₁ e₁ =>
        (status ≠ .ok → Q tr status (if s₁.txInFlight then s₁.endTx status else s₁) e₁)
          ∧ (status = .ok → Ensures E pollTx (fun tr' => Q (tr ++ tr')) s₁ e₁)) s e) := by
  simp only [poll, ensures_bind, ensures_read, ensures_ite, ensures_pure, ensures_modify,
    List.nil_append, List.append_nil, not_not, Bool.not_eq_true', Bool.not_eq_false]

theorem poll_spec : Ensures E poll (fun tr r s' _ => Poll s tr r s') s e := by
  rw [ensures_poll]
  refine ⟨fun hi => .refused hi, fun hi => serviceDeferredIrq_spec.mono ?_⟩
  intro tr status s₁ e₁ hs
  refine ⟨fun hr => .failed hi hs hr, fun hr => ?_⟩
  subst hr
  refine pollTx_spec.mono ?_
  intro tr' r s₂ e₂ h
  obtain ⟨rfl, hp⟩ := h
  exact .polled hi hs hp

/-! ## poll by what its trace reports -/

/-- The callback invocations an event reports. -/
def eventReports : Event Call Answer → List Report
  | ⟨.irqHandler, a⟩ => a.1
  | _ => []

/-- The callback invocations of a trace, in order. -/
def reportsOf (tr : List (Event Call Answer)) : List Report :=
  tr.flatMap eventReports

theorem reportsOf_append (tr tr' : List (Event Call Answer)) :
    reportsOf (tr ++ tr') = reportsOf tr ++ reportsOf tr' :=
  List.flatMap_append

theorem Delivered.reportsOf {sl sl' : RxSlot} {reports : List Report}
    {tr : List (Event Call Answer)} (h : Delivered sl reports tr sl') :
    reportsOf tr = [] := by
  refine List.flatMap_eq_nil_iff.mpr fun ev hev => ?_
  obtain ⟨rc, st, rfl⟩ := h.asks ev hev
  rfl

theorem PollTx.reportsOf {s' : Ctx} {tr : List (Event Call Answer)}
    (h : PollTx s tr s') : reportsOf tr = [] := by
  cases h <;> rfl

/-- `poll`, one case per outcome for the transmission in flight. The context
of each case is the one its reports left, with the transmission ended where
the case says so. -/
inductive Polled (s : Ctx) (tr : List (Event Call Answer)) : RadioStatus → Ctx → Prop
  | refused (hi : s.initialized = false) (htr : tr = []) : Polled s tr .errState s
  | quiet {r : RadioStatus} {sl : RxSlot} (hi : s.initialized = true)
      (hf : s.txInFlight = false) : Polled s tr r (s.noted (reportsOf tr) sl)
  | failed {r : RadioStatus} {sl : RxSlot} (hi : s.initialized = true)
      (hf : s.txInFlight = true) (hr : r ≠ .ok) :
      Polled s tr r ((s.noted (reportsOf tr) sl).endTx r)
  | done {sl : RxSlot} (hi : s.initialized = true) (hf : s.txInFlight = true)
      (hd : (s.noted (reportsOf tr) sl).handle.txDone = true) :
      Polled s tr .ok ((s.noted (reportsOf tr) sl).endTx .ok)
  | timedOut {sl : RxSlot} (nowMs : UInt64) (hi : s.initialized = true)
      (hf : s.txInFlight = true) (hnow : (⟨.platformNowMs, nowMs⟩ : Event _ Answer) ∈ tr)
      (hd : (s.noted (reportsOf tr) sl).handle.txDone = false)
      (ht : (s.noted (reportsOf tr) sl).handle.timeout = true ∨ s.pastDeadline nowMs) :
      Polled s tr .ok ((s.noted (reportsOf tr) sl).endTx .errTimeout)
  | waiting {sl : RxSlot} (hi : s.initialized = true) (hf : s.txInFlight = true)
      (hd : (s.noted (reportsOf tr) sl).handle.txDone = false)
      (ht : (s.noted (reportsOf tr) sl).handle.timeout = false) :
      Polled s tr .ok (s.noted (reportsOf tr) sl)

theorem Serviced.noted {tr : List (Event Call Answer)} {r : RadioStatus} {s₁ : Ctx}
    (h : Serviced s tr r s₁) : ∃ sl, s₁ = s.noted (reportsOf tr) sl := by
  cases h with
  | idle => exact ⟨s.slot, rfl⟩
  | handled reports rc h =>
      rename_i tr sl
      refine ⟨sl, ?_⟩
      have : reportsOf (⟨.irqPending, true⟩ :: ⟨.setIrqPending false, ()⟩ ::
          ⟨.irqHandler, (reports, rc)⟩ :: tr) = reports ++ reportsOf tr := rfl
      rw [this, h.reportsOf, List.append_nil]

theorem Poll.outcome {tr : List (Event Call Answer)} {r : RadioStatus} {s' : Ctx}
    (h : Poll s tr r s') : Polled s tr r s' := by
  cases h with
  | refused hi => exact .refused hi rfl
  | failed hi hs hr =>
      obtain ⟨sl, rfl⟩ := hs.noted
      cases hf : s.txInFlight with
      | false => simpa [hf] using Polled.quiet hi hf
      | true => simpa [hf] using Polled.failed hi hf hr
  | @polled tr tr' s₁ _ hi hs hp =>
      obtain ⟨sl, rfl⟩ := hs.noted
      have heq : s.noted (reportsOf tr) sl = s.noted (reportsOf (tr ++ tr')) sl := by
        rw [reportsOf_append, hp.reportsOf, List.append_nil]
      rw [heq] at hp
      cases hp with
      | idle hf => exact .quiet hi (by simpa using hf)
      | done nowMs hf hd => exact .done hi (by simpa using hf) hd
      | timedOut nowMs hf hd ht =>
          exact .timedOut nowMs hi (by simpa using hf) (by simp) hd
            (by rwa [noted_pastDeadline] at ht)
      | waiting nowMs hf hd ht => exact .waiting hi (by simpa using hf) hd ht

/-- What the driver's handler answered in a `poll`. -/
theorem Poll.handlerAnswer {tr : List (Event Call Answer)} {r : RadioStatus} {s' : Ctx}
    {reports : List Report} {rc : UInt8} (h : Poll s tr r s')
    (hmem : (⟨.irqHandler, (reports, rc)⟩ : Event Call Answer) ∈ tr) :
    reportsOf tr = reports ∧ r = mapStatus rc := by
  have hserviced : ∀ {tr r s₁}, Serviced s tr r s₁ →
      (⟨.irqHandler, (reports, rc)⟩ : Event Call Answer) ∈ tr →
      reportsOf tr = reports ∧ r = mapStatus rc := by
    intro tr r s₁ hs hmem
    cases hs with
    | idle => simp at hmem
    | handled reports' rc' h =>
        rename_i tr sl
        have hnot : (⟨.irqHandler, (reports, rc)⟩ : Event Call Answer) ∉ tr := by
          intro hmem
          obtain ⟨_, _, heq⟩ := h.asks _ hmem
          cases heq
        obtain ⟨rfl, rfl⟩ : reports = reports' ∧ rc = rc' := by simpa [hnot] using hmem
        exact ⟨(congrArg (reports ++ ·) h.reportsOf).trans (List.append_nil _), rfl⟩
  cases h with
  | refused => exact (List.not_mem_nil hmem).elim
  | failed _ hs _ => exact hserviced hs hmem
  | @polled tr tr' s₁ _ _ hs hp =>
      have hnot : (⟨.irqHandler, (reports, rc)⟩ : Event Call Answer) ∉ tr' := by
        cases hp <;> simp
      obtain ⟨hrep, hr⟩ := hserviced hs (by simpa [hnot] using hmem)
      exact ⟨by rw [reportsOf_append, hp.reportsOf, List.append_nil, hrep], hr⟩

/-! ## Which calls an operation makes -/

theorem callsOnly_driver {P : Call → Prop} {c : Cmd} (h : P (.cmd c)) :
    (driver c).CallsOnly P :=
  Prog.callsOnly_bind ⟨h, fun _ => trivial⟩ fun _ => trivial

theorem callsOnly_thenOk {P : Call → Prop} {p q : Api RadioStatus}
    (hp : p.CallsOnly P) (hq : q.CallsOnly P) : (thenOk p q).CallsOnly P := by
  refine Prog.callsOnly_bind hp fun status => ?_
  split
  · trivial
  · exact hq

theorem callsOnly_applyPacketParams {P : Call → Prop} {n : UInt8}
    (h : ∀ preamble len crc iq,
      P (.cmd (.setLoraPacketParamsExplicit preamble len crc iq))) :
    (applyPacketParams n).CallsOnly P :=
  Prog.callsOnly_bind (fun _ => trivial) fun _ => callsOnly_driver (h ..)

theorem callsOnly_read (bufNull : Bool) (bufSize : Nat) (outLenNull infoNull : Bool) :
    (read bufNull bufSize outLenNull infoNull).CallsOnly fun _ => False := by
  simp only [read]
  split
  · trivial
  · refine Prog.callsOnly_bind (fun _ => trivial) fun ctx => ?_
    split
    · trivial
    · split
      · trivial
      · split
        · trivial
        · exact Prog.callsOnly_bind trivial fun _ => trivial

theorem callsOnly_standby :
    standby.CallsOnly (· = .cmd (.setStandby .xtal32Mhz)) := by
  refine Prog.callsOnly_bind (fun _ => trivial) fun ctx => ?_
  split
  · trivial
  · refine Prog.callsOnly_bind (callsOnly_driver rfl) fun status => ?_
    split
    · trivial
    · exact Prog.callsOnly_bind trivial fun _ => trivial

theorem callsOnly_latchRx (buf : Option Buf) (len : UInt16) :
    (latchRx buf len).CallsOnly (· = .getLoraPacketStatus) := by
  refine Prog.callsOnly_bind (fun _ => trivial) fun ctx => ?_
  split
  · trivial
  · split
    · trivial
    · refine Prog.callsOnly_bind trivial fun _ => ?_
      refine Prog.callsOnly_bind ⟨rfl, fun _ => trivial⟩ fun a => ?_
      dsimp only
      split <;> exact Prog.callsOnly_bind trivial fun _ => trivial

theorem callsOnly_receiveCallbackImpl (type : Irq) (buf : Option Buf) (len : UInt16) :
    (receiveCallbackImpl type buf len).CallsOnly (· = .getLoraPacketStatus) := by
  cases type with
  | rxDone => exact callsOnly_latchRx buf len
  | _ => trivial

theorem callsOnly_deliver (reports : List Report) :
    (deliver reports).CallsOnly (· = .getLoraPacketStatus) := by
  induction reports with
  | nil => trivial
  | cons rep reports ih =>
      refine Prog.callsOnly_bind trivial fun _ => ?_
      exact Prog.callsOnly_bind (callsOnly_receiveCallbackImpl ..) fun _ => ih

theorem callsOnly_pollTx : pollTx.CallsOnly (· = .platformNowMs) := by
  refine Prog.callsOnly_bind (fun _ => trivial) fun ctx => ?_
  split
  · trivial
  · refine Prog.callsOnly_bind ⟨rfl, fun _ => trivial⟩ fun nowMs => ?_
    split
    · exact Prog.callsOnly_bind trivial fun _ => trivial
    · split
      · exact Prog.callsOnly_bind trivial fun _ => trivial
      · trivial

/-- The calls of `poll`. -/
inductive Call.OfPoll : Call → Prop
  | irqPending : OfPoll .irqPending
  | setIrqPending : OfPoll (.setIrqPending false)
  | irqHandler : OfPoll .irqHandler
  | getLoraPacketStatus : OfPoll .getLoraPacketStatus
  | platformNowMs : OfPoll .platformNowMs

theorem callsOnly_serviceDeferredIrq : serviceDeferredIrq.CallsOnly Call.OfPoll := by
  refine Prog.callsOnly_bind ⟨.irqPending, fun _ => trivial⟩ fun pending => ?_
  split
  · trivial
  · refine Prog.callsOnly_bind ⟨.setIrqPending, fun _ => trivial⟩ fun _ => ?_
    refine Prog.callsOnly_bind ?_ fun _ => trivial
    refine Prog.callsOnly_bind ⟨.irqHandler, fun _ => trivial⟩ fun a => ?_
    refine Prog.callsOnly_bind ?_ fun _ => trivial
    refine (callsOnly_deliver _).mono ?_
    rintro _ rfl
    exact .getLoraPacketStatus

theorem callsOnly_poll : poll.CallsOnly Call.OfPoll := by
  refine Prog.callsOnly_bind (fun _ => trivial) fun ctx => ?_
  split
  · trivial
  · refine Prog.callsOnly_bind callsOnly_serviceDeferredIrq fun status => ?_
    split
    · exact Prog.callsOnly_bind trivial fun _ => trivial
    · refine callsOnly_pollTx.mono ?_
      rintro _ rfl
      exact .platformNowMs

/-! ## Calls that return at once -/

theorem init_initialized (hi : s.initialized = true) (hwCfg : Option RadioHwConfig)
    (cfg : Option RadioConfig) :
    Ensures E (init hwCfg cfg) (fun _ r s' e' => r ≠ .ok ∧ s' = s ∧ e' = e) s e := by
  rcases hwCfg with _ | hwCfg <;> rcases cfg with _ | cfg <;>
    simp [init, ensures_ite, hi]

theorem startRx_busy (hm : s.mode = .tx) :
    Ensures E startRx (fun _ r s' e' => r ≠ .ok ∧ s' = s ∧ e' = e) s e :=
  ensures_startRx (fun _ hr => ⟨hr, rfl, rfl⟩) fun _ hne => (hne hm).elim

theorem startTx_busy (hf : s.txInFlight = true) (data : Option Buf) (len : Nat) :
    Ensures E (startTx data len) (fun _ r s' e' => r ≠ .ok ∧ s' = s ∧ e' = e) s e := by
  refine ensures_startTx (fun _ hr => ⟨hr, rfl, rfl⟩) fun _ hready => ?_
  cases hf.symm.trans hready.idle

/-! ## The operations together -/

/-- The API calls that can change a radio. -/
inductive Op where
  | init (hwCfg : Option RadioHwConfig) (cfg : Option RadioConfig)
  | startTx (data : Option Buf) (len : Nat)
  | startRx
  | read (bufNull : Bool) (bufSize : Nat) (outLenNull infoNull : Bool)
  | standby
  | poll

abbrev Op.Ret : Op → Type
  | .read .. => ReadResult
  | _ => RadioStatus

def program : (o : Op) → Api o.Ret
  | .init hwCfg cfg => init hwCfg cfg
  | .startTx data len => startTx data len
  | .startRx => startRx
  | .read bufNull bufSize outLenNull infoNull => read bufNull bufSize outLenNull infoNull
  | .standby => standby
  | .poll => poll

/-- What an operation can do to the context, by its trace. This is all that
the invariants of later modules know of the program. -/
def OpStep (s : Ctx) : (o : Op) → List (Event Call Answer) → o.Ret → Ctx → Prop
  | .init .., _, r, s' => Init s r s'
  | .startTx .., _, r, s' => StartTx s r s'
  | .startRx, _, r, s' => StartRx s r s'
  | .read _ bufSize _ infoNull, _, r, s' => Read s bufSize infoNull r s'
  | .standby, tr, r, s' => Standby s tr r s'
  | .poll, tr, r, s' => Poll s tr r s'

theorem program_spec (o : Op) :
    Ensures E (program o) (fun tr r s' _ => OpStep s o tr r s') s e := by
  cases o with
  | init hwCfg cfg => exact init_spec hwCfg cfg
  | startTx data len => exact startTx_spec data len
  | startRx => exact startRx_spec
  | read bufNull bufSize outLenNull infoNull =>
      exact read_spec bufNull bufSize outLenNull infoNull
  | standby => exact standby_spec
  | poll => exact poll_spec

/-- An operation's step, whatever happens around it. -/
theorem op_step {tick : ε → ε → Prop} {w w' : Ctx × ε}
    {l : Label Op Op.Ret Call Answer} (h : Session program E tick w l w') {o : Op}
    {tr : List (Event Call Answer)} {r : o.Ret} (hl : l = .op o tr r) :
    OpStep w.1 o tr r w'.1 := by
  subst hl
  cases h with
  | op h => exact program_spec o _ _ _ _ h

end Sx126x

end LeosSdk
