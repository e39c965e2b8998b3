import LeosSdk.CanInit
import LeosSdk.CyphalRx

/-!
# Cyphal node: the timestamps libcanard gets

`leos_mcp251xfd_init` starts the controller's 32-bit time base with one tick
per 40 SYSCLK cycles, whatever SYSCLK the configuration gives, and
`canard_mcp_rx_process` passes a frame's 32-bit stamp on as libcanard's 64-bit
microseconds. That is the time of reception up to a constant exactly as long
as SYSCLK is 40 MHz and the counter does not wrap, which it does after 2^32
microseconds.

Time is counted in cycles of SYSCLK, and a frame is remembered with the cycle
in which it was received; nothing in the code sees it. That a stamp stays with
its frame is an invariant of the drain (`Stamped`), with one frame that may be
out of the FIFO and not yet handed over, and frames may arrive at any time
meanwhile. So in every run the timestamps are the stamps of the frames in the
order of reception, and whether they tell the time is arithmetic: at 40 MHz a
tick is a microsecond, and one offset for all frames means one period of the
counter (`truthful_iff`). At any other clock the stamps of two frames received
forty seconds apart show that they do not (`other_clock_lies`).
-/

namespace LeosSdk

namespace Cyphal

open Mcp251xfd (ErrorResult errOk InitCall InitAnswer McpConfig mcpConfig Errors Hw Config
  Device configure)

/-! ## The time base -/

/-- The SYSCLK frequencies the library accepts a configuration with. -/
structure ClockLib where
  accepts : McpConfig → UInt32 → Prop
  pos : ∀ cfg hz, accepts cfg hz → 0 < hz.toNat

/-- What `init` has set up of the controller's clock so far. -/
structure Clock where
  sysclkHz : Option UInt32
  prescaler : Option UInt16

/-- The time base counts one tick per `prescaler` cycles of SYSCLK. -/
structure TimeBase where
  sysclkHz : UInt32
  prescaler : UInt16

def Clock.timeBase (c : Clock) : Option TimeBase :=
  c.sysclkHz.bind fun sysclkHz => c.prescaler.map fun prescaler => ⟨sysclkHz, prescaler⟩

/-- The library's calls as far as the clock goes. -/
def clockEnv (C : ClockLib) : Env Clock InitCall InitAnswer
  | c, .initMcp251xfd cfg, r, c' => r ≠ errOk ∧ c' = c
      ∨ r = errOk ∧ ∃ hz, C.accepts cfg hz ∧ c' = { c with sysclkHz := some hz }
  | c, .configureTimeStamp enable _ prescaler _, r, c' => r ≠ errOk ∧ c' = c
      ∨ r = errOk ∧ c' = { c with prescaler := if enable then some prescaler else none }
  | c, _, _, c' => c' = c

/-- The counter after that many ticks. -/
def TimeBase.ticks (tb : TimeBase) (cycle : Nat) : Nat := cycle / tb.prescaler.toNat

/-- The 32-bit stamp of a frame whose start is at that cycle of SYSCLK. -/
def TimeBase.stamp (tb : TimeBase) (cycle : Nat) : UInt32 := UInt32.ofNat (tb.ticks cycle)

/-- Microseconds since the time base started. -/
def TimeBase.micros (tb : TimeBase) (cycle : Nat) : Nat :=
  cycle * 1000000 / tb.sysclkHz.toNat

section Configured

variable {C : ClockLib} {X : Errors} {hw : Hw} {config : Config} {attach : Bool} {d : Device}
  {c : Clock}

/-- An accepted clock and one tick per 40 cycles. -/
def Started (C : ClockLib) (config : Config) (c : Clock) : Prop :=
  ∃ tb, c.timeBase = some tb ∧ C.accepts (mcpConfig config) tb.sysclkHz ∧ tb.prescaler = 40

theorem configure_started : Ensures (clockEnv C) (configure X config)
    (fun _ r _ c' => r = errOk → Started C config c') d c := by
  simp only [configure, ensures_bind, ensures_ask, ensures_ite, ensures_pure]
  intro _ c₁ _ r₂ c₂ h₂
  refine ⟨fun _ hok => absurd hok X.frequencyError_ne, fun _ => ⟨fun h hok => absurd hok h, ?_⟩⟩
  intro hr₂ r₃ c₃ h₃
  refine ⟨fun h hok => absurd hok h, fun hr₃ => ?_⟩
  rcases h₂ with ⟨hne, -⟩ | ⟨-, hz, hacc, rfl⟩
  · exact absurd hne hr₂
  rcases h₃ with ⟨hne, -⟩ | ⟨-, rfl⟩
  · exact absurd hne hr₃
  rintro r₄ c₄ rfl
  refine ⟨fun h hok => absurd hok h, fun _ => ?_⟩
  rintro r₅ c₅ rfl
  refine ⟨fun h hok => absurd hok h, fun _ => ?_⟩
  rintro r₆ c₆ rfl -
  exact ⟨⟨hz, 40⟩, rfl, hacc, rfl⟩

/-- A successful `leos_mcp251xfd_init` leaves the time base running. -/
theorem init_started : Ensures (clockEnv C) (Mcp251xfd.init X hw config attach)
    (fun _ r _ c' => r = errOk → Started C config c') d c := by
  simp only [Mcp251xfd.init, ensures_bind, ensures_modify, ensures_ask]
  intro ctx c₁ _
  cases ctx with
  | none => exact ensures_pure.mpr fun hok => absurd hok X.outOfMemory_ne
  | some ctx =>
      simp only [ensures_bind, ensures_modify, ensures_ask, ensures_ite, ensures_pure]
      intro _ c₂ _ _ _ _ c₃ _
      refine ⟨fun _ hok => absurd hok X.outOfRange_ne, fun _ _ c₄ _ => configure_started⟩

end Configured

/-! ## Frames on their way to libcanard -/

/-- A received frame and when, in cycles of SYSCLK. -/
structure TimedFrame where
  cycle : Nat
  msg : Message

/-- The controller's FIFO, oldest frame first, the time, the frame last
taken out of the FIFO, and what `canardRxAccept` got so far: when the frame
was received and the timestamp it was given. -/
structure Receiver where
  cycles : Nat
  fifo : List TimedFrame
  popped : Option Nat
  accepted : List (Nat × UInt64)

/-- Time passes; a frame arrives and is stamped. -/
inductive Receiver.Moves (tb : TimeBase) (w : Receiver) : Receiver → Prop
  | wait (n : Nat) : Moves tb w { w with cycles := w.cycles + n }
  | frame (msg : Message) : Moves tb w { w with
      fifo := w.fifo ++ [⟨w.cycles, { msg with timestampUs := tb.stamp w.cycles }⟩] }

/-- The MCP251XFD library and libcanard, which takes a 64-bit timestamp. -/
def receiverEnv : Env Receiver RxCall RxAnswer
  | w, .receiveMessageFromFifo _ _, a, w' => Prod.fst a ≠ errOk ∧ w' = w
      ∨ Prod.fst a = errOk ∧ ∃ f rest, w.fifo = f :: rest ∧ Prod.snd a = f.msg
        ∧ w' = { w with fifo := rest, popped := some f.cycle }
  | w, .canardRxAccept timestampUs _ _, _, w' => w' = { w with
      accepted := w.accepted ++ (w.popped.map (·, timestampUs.toUInt64)).toList }
  | w, _, _, w' => w' = w

abbrev busyReceiver (tb : TimeBase) : Env Receiver RxCall RxAnswer :=
  interleave (Receiver.Moves tb) receiverEnv

abbrev RxOp.Ret : Unit → Type := fun _ => UInt32

/-- Calls of `canard_mcp_rx_process`, with frames arriving at any time. -/
abbrev ReceiverStep (T : RxTarget) (tb : TimeBase) :
    Unit × Receiver → Label Unit RxOp.Ret RxCall RxAnswer → Unit × Receiver → Prop :=
  Session (fun _ => rxProcess T) (busyReceiver tb) (Receiver.Moves tb)

def receiverStart : Unit × Receiver := ((), ⟨0, [], none, []⟩)

/-! ## Every timestamp is its frame's stamp -/

/-- When the frames handed over, the frame held in between and the waiting
frames were received. -/
def Receiver.order (held : Option Nat) (w : Receiver) : List Nat :=
  w.accepted.map (·.1) ++ (held.toList ++ w.fifo.map (·.cycle))

/-- While `held` is out of the FIFO and not yet handed over: every timestamp
given to libcanard is its frame's stamp, and the frames are in the order of
reception. -/
structure Stamped (tb : TimeBase) (held : Option Nat) (w : Receiver) : Prop where
  fifo : ∀ f ∈ w.fifo, f.msg.timestampUs = tb.stamp f.cycle
  accepted : ∀ a ∈ w.accepted, a.2 = (tb.stamp a.1).toUInt64
  sorted : (w.order held).Pairwise (· ≤ ·)
  past : ∀ c ∈ w.order held, c ≤ w.cycles
  popped : ∀ c, held = some c → w.popped = some c

section Stamped

variable {T : RxTarget} {tb : TimeBase} {held : Option Nat} {w w' : Receiver}

theorem stamped_moves (h : Stamped tb held w) (hm : w.Moves tb w') : Stamped tb held w' := by
  cases hm with
  | wait n =>
      exact ⟨h.fifo, h.accepted, h.sorted, fun c hc => Nat.le_add_right_of_le (h.past c hc),
        h.popped⟩
  | frame msg =>
      have horder : Receiver.order held { w with
          fifo := w.fifo ++ [⟨w.cycles, { msg with timestampUs := tb.stamp w.cycles }⟩] }
          = w.order held ++ [w.cycles] := by
        simp [Receiver.order]
      refine ⟨?_, h.accepted, ?_, ?_, h.popped⟩
      · exact List.forall_mem_append.mpr ⟨h.fifo, by simp⟩
      · rw [horder]
        exact List.pairwise_append.mpr ⟨h.sorted, by simp, by simpa using h.past⟩
      · rw [horder]
        exact List.forall_mem_append.mpr ⟨h.past, by simp⟩

theorem stamped_ticks (h : Stamped tb held w)
    (hm : Relation.ReflTransGen (Receiver.Moves tb) w w') : Stamped tb held w' :=
  ticks_preserve (J := Stamped tb held) (fun _ _ hm h => stamped_moves h hm) hm h

theorem stamped_receive {size : PayloadSize} {fifo : Mcp251xfd.Fifo}
    {a : ErrorResult × Message} (h : Stamped tb none w)
    (hx : busyReceiver tb w (.receiveMessageFromFifo size fifo) a w') :
    a.1 ≠ errOk ∧ Stamped tb none w'
      ∨ a.1 = errOk ∧ ∃ c, a.2.timestampUs = tb.stamp c ∧ Stamped tb (some c) w' := by
  obtain ⟨w₁, ht, hx⟩ := hx
  have h₁ := stamped_ticks h ht
  rcases hx with ⟨herr, rfl⟩ | ⟨hok, f, rest, hfifo, hmsg, rfl⟩
  · exact .inl ⟨herr, h₁⟩
  · have horder : Receiver.order (some f.cycle) { w₁ with
        fifo := rest, popped := some f.cycle } = w₁.order none := by
      simp [Receiver.order, hfifo]
    refine .inr ⟨hok, f.cycle, ?_, fun g hg => ?_, h₁.accepted, ?_, ?_, fun c hc => hc⟩
    · rw [show a.2 = f.msg from hmsg]
      exact h₁.fifo f (by simp [hfifo])
    · exact h₁.fifo g (by simp [hfifo, show g ∈ rest from hg])
    · rw [horder]
      exact h₁.sorted
    · rw [horder]
      exact h₁.past

theorem stamped_accept {c : Nat} {frame : Frame} {i : UInt8} {a : RxAccepted}
    (h : Stamped tb (some c) w)
    (hx : busyReceiver tb w (.canardRxAccept (tb.stamp c) frame i) a w') :
    Stamped tb none w' := by
  obtain ⟨w₁, ht, rfl⟩ := hx
  have h₁ := stamped_ticks h ht
  rw [h₁.popped c rfl]
  have horder : Receiver.order none { w₁ with
      accepted := w₁.accepted ++ [(c, (tb.stamp c).toUInt64)] } = w₁.order (some c) := by
    simp [Receiver.order]
  refine ⟨h₁.fifo, ?_, ?_, ?_, fun c hc => by cases hc⟩
  · exact List.forall_mem_append.mpr ⟨h₁.accepted, by simp⟩
  · show (Receiver.order none { w₁ with accepted := w₁.accepted ++ [_] }).Pairwise _
    rw [horder]
    exact h₁.sorted
  · show ∀ c' ∈ Receiver.order none { w₁ with accepted := w₁.accepted ++ [_] }, _
    rw [horder]
    exact h₁.past

/-- The other calls of `canard_mcp_rx_process`. -/
theorem stamped_other {i : RxCall} {a : RxAnswer i} (h : Stamped tb held w)
    (hx : busyReceiver tb w i a w') (hi : ∀ size fifo, i ≠ .receiveMessageFromFifo size fifo)
    (hi' : ∀ ts frame k, i ≠ .canardRxAccept ts frame k) : Stamped tb held w' := by
  obtain ⟨w₁, ht, hx⟩ := hx
  cases i with
  | receiveMessageFromFifo size fifo => exact absurd rfl (hi size fifo)
  | canardRxAccept ts frame k => exact absurd rfl (hi' ts frame k)
  | _ =>
      obtain rfl := hx
      exact stamped_ticks h ht

theorem stamped_checkMore {n : UInt32} (h : Stamped tb none w) :
    Ensures (busyReceiver tb) (checkMore n) (fun _ _ _ w' => Stamped tb none w') () w := by
  refine ensures_checkMore fun result st w₁ hx => ?_
  exact stamped_other h hx (by simp) (by simp)

/-- Step lemma: an iteration takes a frame and hands it over with its own
stamp, or takes none. -/
theorem stamped_rxLoop {n : UInt32} (h : Stamped tb none w) :
    Ensures (busyReceiver tb) (rxLoop T n) (fun _ _ _ w' => Stamped tb none w') () w := by
  refine ensures_rxLoop (fun result msg w₁ herr hx₁ => ?_) fun msg w₁ a w₂ hx₁ hx₂ _ _ => ?_
  · rcases stamped_receive h hx₁ with ⟨-, h₁⟩ | ⟨hok, -⟩
    · exact h₁
    · exact absurd hok herr
  · rcases stamped_receive h hx₁ with ⟨herr, -⟩ | ⟨-, c, hts, h₁⟩
    · exact absurd rfl herr
    · have hts' : msg.timestampUs = tb.stamp c := hts
      rw [hts'] at hx₂
      have h₂ := stamped_accept h₁ hx₂
      refine ⟨fun _ w₃ hx₃ w₄ hx₄ => ?_, fun _ _ => h₂, fun _ _ => stamped_checkMore h₂⟩
      have h₃ := stamped_other h₂ hx₃ (by simp) (by simp)
      exact stamped_checkMore (stamped_other h₃ hx₄ (by simp) (by simp))

theorem stamped_rxProcess (h : Stamped tb none w) :
    Ensures (busyReceiver tb) (rxProcess T) (fun _ _ _ w' => Stamped tb none w') () w := by
  refine ensures_rxProcess fun result st w₁ hx => ?_
  have h₁ := stamped_other h hx (by simp) (by simp)
  refine ⟨h₁, ?_⟩
  refine ensures_iter (fun _ _ _ w => Stamped tb none w) ?_ h₁
  intro n tr _ w h
  exact (stamped_rxLoop h).mono fun _ _ _ _ h' => ⟨fun _ _ => h', fun _ _ => h'⟩

/-- In every run every frame is handed over with its own stamp, in the order
of reception. The run lemma. -/
theorem stamped_run {xs : List (Rec (Unit × Receiver) (Label Unit RxOp.Ret RxCall RxAnswer))}
    {v : Unit × Receiver} (h : Run (ReceiverStep T tb) receiverStart xs v) :
    Stamped tb none v.2 := by
  have hstart : Stamped tb none receiverStart.2 :=
    ⟨by simp [receiverStart], by simp [receiverStart],
      by simp [receiverStart, Receiver.order], by simp [receiverStart, Receiver.order], by simp⟩
  refine (h.invariant (fun v => Stamped tb none v.2) (fun _ => True) hstart
    (fun x hs _ hx => ?_) fun _ _ => trivial).1
  generalize x.pre = v at hs hx
  generalize x.post = v' at hs
  generalize x.label = l at hs
  cases hs with
  | tick hm => exact stamped_moves hx hm
  | op hop => exact stamped_rxProcess hx _ _ _ _ hop

end Stamped

/-! ## What libcanard expects of its timestamps -/

/-- The timestamps never go back, and each is its frame's time of reception
in microseconds up to one offset. -/
structure Truthful (tb : TimeBase) (w : Receiver) : Prop where
  monotone : (w.accepted.map (·.2)).Pairwise (· ≤ ·)
  offset : ∃ d : Int, ∀ a ∈ w.accepted, (a.2.toNat : Int) = tb.micros a.1 + d

/-- All frames were received while the counter counted through its range of
2^32 ticks once. -/
def OnePeriod (tb : TimeBase) (w : Receiver) : Prop :=
  ∃ k, ∀ a ∈ w.accepted, tb.ticks a.1 / 4294967296 = k

/-- The clock of the comment in `leos_mcp251xfd_init`. -/
def sysclk40Mhz : UInt32 := 40000000

section Truth

variable {tb : TimeBase} {w : Receiver}

theorem Stamped.timestamp (h : Stamped tb none w) {a : Nat × UInt64} (ha : a ∈ w.accepted) :
    a.2.toNat = tb.ticks a.1 % 4294967296 := by
  rw [h.accepted a ha]
  simp [TimeBase.stamp]

theorem micros_40Mhz (hp : tb.prescaler = 40) (hz : tb.sysclkHz = sysclk40Mhz) (cycle : Nat) :
    tb.micros cycle = tb.ticks cycle := by
  have h40 : (40 : UInt16).toNat = 40 := rfl
  have hhz : sysclk40Mhz.toNat = 40000000 := rfl
  rw [TimeBase.micros, TimeBase.ticks, hp, hz, h40, hhz]
  omega

theorem ticks_mono {c c' : Nat} (h : c ≤ c') : tb.ticks c ≤ tb.ticks c' :=
  Nat.div_le_div_right h

/-- At 40 MHz the timestamps are right just if all frames were received in one
period: a stamp is the ticks without the periods, and the offset is the same
for all. -/
theorem truthful_iff (h : Stamped tb none w) (hp : tb.prescaler = 40)
    (hz : tb.sysclkHz = sysclk40Mhz) : Truthful tb w ↔ OnePeriod tb w := by
  constructor
  · rintro ⟨-, d, hd⟩
    refine ⟨(-d / 4294967296).toNat, fun a ha => ?_⟩
    have hts := h.timestamp ha
    have hoff := hd a ha
    rw [micros_40Mhz hp hz] at hoff
    omega
  · rintro ⟨k, hk⟩
    have hoff : ∀ a ∈ w.accepted, a.2.toNat + 4294967296 * k = tb.ticks a.1 := by
      intro a ha
      have hts := h.timestamp ha
      have hper := hk a ha
      omega
    constructor
    · have hsorted : (w.accepted.map (·.1)).Pairwise (· ≤ ·) :=
        (List.pairwise_append.mp h.sorted).1
      rw [List.pairwise_map] at hsorted ⊢
      refine hsorted.imp_of_mem fun {a b} ha hb hab => ?_
      have hmono : tb.ticks a.1 ≤ tb.ticks b.1 := ticks_mono hab
      have hoffa := hoff a ha
      have hoffb := hoff b hb
      rw [UInt64.le_iff_toNat_le]
      omega
    · refine ⟨-(4294967296 * k : Nat), fun a ha => ?_⟩
      have := hoff a ha
      rw [micros_40Mhz hp hz]
      omega

end Truth

/-! ## Two frames -/

section TwoFrames

variable (T : RxTarget) (tb : TimeBase)

/-- Nothing fails, and every frame completes a transfer. -/
def benchReceiver (w : Receiver) : (i : RxCall) → RxAnswer i × Receiver
  | .getFifoStatus _ => ((errOk, ⟨!w.fifo.isEmpty⟩), w)
  | .receiveMessageFromFifo _ _ => match w.fifo with
    | [] => (((1 : UInt32), default), w)
    | f :: rest => ((errOk, f.msg), { w with fifo := rest, popped := some f.cycle })
  | .canardRxAccept timestampUs _ _ => (⟨1, default, none⟩, { w with
      accepted := w.accepted ++ (w.popped.map (·, timestampUs.toUInt64)).toList })
  | .subscriptionDispatch _ _ => ((), w)
  | .deallocate _ _ => ((), w)

theorem benchReceiver_answers : Answers benchReceiver (busyReceiver tb) := by
  intro w i
  refine interleave_of ?_
  cases i with
  | receiveMessageFromFifo =>
      simp only [benchReceiver]
      split
      · exact .inl ⟨(by decide : (1 : UInt32) ≠ errOk), rfl⟩
      · rename_i f rest hfifo
        exact .inr ⟨rfl, f, rest, hfifo, rfl, rfl⟩
  | _ => rfl

/-- A frame that arrives at a cycle and what the world is then. -/
def Receiver.arrive (w : Receiver) (n : Nat) : Receiver :=
  { w with
    cycles := w.cycles + n
    fifo := w.fifo ++ [⟨w.cycles + n, { (default : Message) with
      timestampUs := tb.stamp (w.cycles + n) }⟩] }

theorem arrive_run {xs : List (Rec (Unit × Receiver) (Label Unit RxOp.Ret RxCall RxAnswer))}
    {v v' : Unit × Receiver} (n : Nat)
    (h : Run (ReceiverStep T tb) ((), v.2.arrive tb n) xs v') :
    ∃ ys, Run (ReceiverStep T tb) v ys v' :=
  ⟨_, .cons (.tick (.wait n)) (.cons (.tick (.frame default)) h)⟩

/-- Frames received at two times come to libcanard with their two stamps. -/
theorem twoFrames_run (c n : Nat) : ∃ xs v, Run (ReceiverStep T tb) receiverStart xs v
    ∧ v.2.accepted = [(c, (tb.stamp c).toUInt64),
        (c + n, (tb.stamp (c + n)).toUInt64)] := by
  have heval : ∃ tr r v, (rxProcess T).eval benchReceiver 2
      ((), ((receiverStart.2.arrive tb c).arrive tb n)) = some (tr, r, v)
      ∧ v.2.accepted = [(0 + c, (tb.stamp (0 + c)).toUInt64),
        (0 + c + n, (tb.stamp (0 + c + n)).toUInt64)] := ⟨_, _, _, rfl, rfl⟩
  obtain ⟨tr, r, v, heval, hacc⟩ := heval
  obtain ⟨ys, hys⟩ := arrive_run T tb (v := ((), receiverStart.2.arrive tb c)) n
    (.cons (.op (o := ()) (Prog.eval_exec (benchReceiver_answers tb) heval)) .nil)
  obtain ⟨zs, hzs⟩ := arrive_run T tb (v := receiverStart) c hys
  rw [Nat.zero_add] at hacc
  exact ⟨zs, v, hzs, hacc⟩

end TwoFrames

/-! ## After a successful init -/

section AfterInit

variable {C : ClockLib} {X : Errors} {hw : Hw} {config : Config} {attach : Bool} {d d' : Device}
  {c c' : Clock} {tr : List (Event InitCall InitAnswer)}

/-- Two frames received forty seconds apart. Their stamps differ by as many
ticks as SYSCLK has Hz, which is forty seconds in microseconds at 40 MHz and
at no other clock. -/
theorem other_clock_lies (T : RxTarget) {tb : TimeBase} (hp : tb.prescaler = 40)
    (hpos : 0 < tb.sysclkHz.toNat) (hz : tb.sysclkHz ≠ sysclk40Mhz) :
    ∃ xs v, Run (ReceiverStep T tb) receiverStart xs v ∧ OnePeriod tb v.2
      ∧ ¬Truthful tb v.2 := by
  have h40 : tb.prescaler.toNat = 40 := by rw [hp]; rfl
  have hlt := tb.sysclkHz.toNat_lt
  have hticks : tb.ticks (0 + 40 * tb.sysclkHz.toNat) = tb.sysclkHz.toNat := by
    rw [TimeBase.ticks, h40]
    omega
  have hticks₀ : tb.ticks 0 = 0 := Nat.zero_div _
  obtain ⟨xs, v, hrun, hacc⟩ := twoFrames_run T tb 0 (40 * tb.sysclkHz.toNat)
  refine ⟨xs, v, hrun, ⟨0, fun a ha => ?_⟩, fun htrue => hz ?_⟩
  · rw [hacc] at ha
    rcases List.mem_cons.mp ha with rfl | ha
    · simp only [hticks₀, Nat.zero_div]
    · obtain rfl := List.mem_singleton.mp ha
      rw [hticks]
      omega
  · obtain ⟨off, hoff⟩ := htrue.offset
    have hfirst := hoff (0, (tb.stamp 0).toUInt64) (by simp [hacc])
    have hsecond := hoff _ (by rw [hacc]; exact List.mem_cons_of_mem _ (List.mem_singleton_self _))
    have hmicros : tb.micros (0 + 40 * tb.sysclkHz.toNat) = 40000000 := by
      rw [TimeBase.micros, Nat.zero_add, Nat.mul_right_comm, Nat.mul_div_cancel _ hpos]
    have hmicros₀ : tb.micros 0 = 0 := by simp [TimeBase.micros]
    rw [hmicros] at hsecond
    rw [hmicros₀] at hfirst
    simp only [TimeBase.stamp, hticks, hticks₀, UInt32.toNat_toUInt64,
      UInt32.toNat_ofNat', Nat.zero_mod] at hfirst hsecond
    refine UInt32.toNat_inj.mp ?_
    rw [show sysclk40Mhz.toNat = 40000000 from rfl]
    omega

/-- After any successful `leos_mcp251xfd_init`: at 40 MHz SYSCLK the
timestamps of a run are right exactly if all its frames were received within
one period of the counter, and at every other accepted SYSCLK some run within
one period has wrong ones. The first by the invariant, the second by a run of
two frames. -/
theorem timestamps_truthful_iff (T : RxTarget)
    (hinit : Exec (clockEnv C) (Mcp251xfd.init X hw config attach) d c tr errOk d' c') :
    ∃ tb, c'.timeBase = some tb ∧ C.accepts (mcpConfig config) tb.sysclkHz
      ∧ (tb.sysclkHz = sysclk40Mhz → ∀ xs v, Run (ReceiverStep T tb) receiverStart xs v →
          (Truthful tb v.2 ↔ OnePeriod tb v.2))
      ∧ (tb.sysclkHz ≠ sysclk40Mhz → ∃ xs v, Run (ReceiverStep T tb) receiverStart xs v
          ∧ OnePeriod tb v.2 ∧ ¬Truthful tb v.2) := by
  obtain ⟨tb, htb, hacc, hp⟩ := init_started _ _ _ _ hinit rfl
  exact ⟨tb, htb, hacc, fun hz _ _ hrun => truthful_iff (stamped_run hrun) hp hz,
    fun hz => other_clock_lies T hp (C.pos _ _ hacc) hz⟩

end AfterInit

/-! ## On the bench -/

def benchTarget : RxTarget := ⟨fun dlc _ => dlc.toNat, true⟩

/-- A library that takes any configuration to 40 MHz. -/
def benchClockLib : ClockLib where
  accepts _ hz := hz = sysclk40Mhz
  pos _ hz h := by
    rw [h]
    decide

def benchClock (c : Clock) : (i : InitCall) → InitAnswer i × Clock
  | .initMcp251xfd _ => (errOk, { c with sysclkHz := some sysclk40Mhz })
  | .configureTimeStamp enable _ prescaler _ =>
    (errOk, { c with prescaler := if enable then some prescaler else none })
  | .malloc => (some 0, c)
  | .readPinIrq _ => (5, c)
  | .configureFifoList .. | .configureFilterList .. | .requestOperationMode .. => (errOk, c)
  | .writeCtx .. | .free _ | .writeTable .. | .gpioInit _ | .gpioSetDirIn _ | .gpioPullUp _
  | .gpioSetIrqCallback | .irqSetEnabled _ | .gpioSetIrqEnabled .. | .sleepMs _ => ((), c)

theorem benchClock_answers : Answers benchClock (clockEnv benchClockLib) := by
  intro c i
  cases i with
  | initMcp251xfd => exact .inr ⟨rfl, _, rfl, rfl⟩
  | configureTimeStamp => exact .inr ⟨rfl, rfl⟩
  | _ => rfl

def benchControllerInit : Mcp251xfd.Init ErrorResult :=
  Mcp251xfd.init Mcp251xfd.benchErrors (Mcp251xfd.benchHw 5) (Mcp251xfd.benchConfig 1) true

theorem benchControllerInit_exec : ∃ d c' tr,
    Exec (clockEnv benchClockLib) benchControllerInit .zero ⟨none, none⟩ tr errOk d c'
      ∧ c'.timeBase = some ⟨sysclk40Mhz, 40⟩ := by
  have heval : ∃ tr d c', benchControllerInit.eval benchClock 1 (.zero, ⟨none, none⟩)
      = some (tr, errOk, (d, c')) ∧ c'.timeBase = some ⟨sysclk40Mhz, 40⟩ :=
    ⟨_, _, _, rfl, rfl⟩
  obtain ⟨tr, d, c', heval, hc⟩ := heval
  exact ⟨d, c', tr, Prog.eval_exec benchClock_answers heval, hc⟩

/-- Two frames 25 ms apart on a controller initialised for 40 MHz. -/
theorem timestamps_truthful_iff_early : ∃ xs v,
    Run (ReceiverStep benchTarget ⟨sysclk40Mhz, 40⟩) receiverStart xs v
      ∧ v.2.accepted = [(4000, 100), (1004000, 25100)]
      ∧ Truthful ⟨sysclk40Mhz, 40⟩ v.2 := by
  obtain ⟨d, c', tr, hinit, hc⟩ := benchControllerInit_exec
  obtain ⟨tb, htb, -, htrue, -⟩ := timestamps_truthful_iff benchTarget hinit
  rw [hc] at htb
  obtain rfl := Option.some.inj htb
  obtain ⟨xs, v, hrun, hacc⟩ := twoFrames_run benchTarget ⟨sysclk40Mhz, 40⟩ 4000 1000000
  refine ⟨xs, v, hrun, hacc, (htrue rfl xs v hrun).mpr ⟨0, fun a ha => ?_⟩⟩
  rw [hacc] at ha
  rcases List.mem_cons.mp ha with rfl | ha
  · decide
  · obtain rfl := List.mem_singleton.mp ha
    decide

/-- Two frames one tick apart, at 40 MHz, seventy-two minutes after `init`:
the timestamps go back to zero. -/
theorem counter_wraps : ∃ d c' tr xs v,
    Exec (clockEnv benchClockLib) benchControllerInit .zero ⟨none, none⟩ tr errOk d c'
      ∧ c'.timeBase = some ⟨sysclk40Mhz, 40⟩
      ∧ Run (ReceiverStep benchTarget ⟨sysclk40Mhz, 40⟩) receiverStart xs v
      ∧ v.2.accepted.map (·.2) = [4294967295, 0] ∧ ¬Truthful ⟨sysclk40Mhz, 40⟩ v.2 := by
  obtain ⟨d, c', tr, hinit, hc⟩ := benchControllerInit_exec
  obtain ⟨xs, v, hrun, hacc⟩ :=
    twoFrames_run benchTarget ⟨sysclk40Mhz, 40⟩ (40 * 4294967295) 40
  have hstamps : v.2.accepted.map (·.2) = [4294967295, 0] := by
    rw [hacc]
    decide
  refine ⟨d, c', tr, xs, v, hinit, hc, hrun, hstamps, fun htrue => ?_⟩
  have hmono := htrue.monotone
  rw [hstamps] at hmono
  exact absurd hmono (by decide)

end Cyphal

end LeosSdk
