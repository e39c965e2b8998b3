import LeosSdk.CyphalAtomic
import LeosSdk.CyphalRx

/-!
# Cyphal node: stopping at a libcanard error

The results of `canardRxAccept` go through a variable of the enumeration
`eERRORRESULT`. Where the compiler gives it an unsigned type, `result < 0`
never holds and `canard_mcp_rx_process` goes on after an out-of-memory. It
then stops at the frame that failed only when the driver stops it there.

With an unsigned result a drain is a sequence of rounds, each a frame with
what libcanard made of it and a check that found more, and an ending in which
the driver stopped it (`rxLoops_drained`). An error leaves no other mark on
the trace than its value. So both properties can be counted on the frames:
stopping at the first error means that no frame but the last one failed
(`stopsAtErrors_iff`), and the driver having stopped at every error means the
same (`stoppedAnyway_rounds`), since it stops once, after the last frame.

The condition speaks of the driver's answers and of where they stand after an
error. It does not mention how many frames were taken or what the call
returned.
-/

namespace LeosSdk

namespace Cyphal

open Mcp251xfd (ErrorResult errOk FifoStatus)

variable {L : Canard} {T : RxTarget} {w w₀ w' : World} {n : UInt32}
  {tr tr' : List (Event RxCall RxAnswer)}

/-! ## What a drain does, frame by frame -/

/-- A frame taken from the FIFO and what `canardRxAccept` made of it. -/
structure Taken where
  msg : Message
  accepted : RxAccepted

abbrev receiveEvent (result : ErrorResult) (msg : Message) : Event RxCall RxAnswer :=
  ⟨.receiveMessageFromFifo .payload64Byte .fifo1, (result, msg)⟩

abbrev acceptEvent (T : RxTarget) (f : Taken) : Event RxCall RxAnswer :=
  ⟨.canardRxAccept f.msg.timestampUs (T.rxFrame f.msg) 0, f.accepted⟩

abbrev statusEvent (result : ErrorResult) (st : FifoStatus) : Event RxCall RxAnswer :=
  ⟨.getFifoStatus .fifo1, (result, st)⟩

/-- A completed transfer is dispatched and freed. -/
def Taken.handed (f : Taken) : List (Event RxCall RxAnswer) :=
  if f.accepted.result = 1 then
    [⟨.subscriptionDispatch f.accepted.transfer f.accepted.subscription, ()⟩,
      ⟨.deallocate f.accepted.transfer.payload.allocatedSize
        f.accepted.transfer.payload.data, ()⟩]
  else []

def Taken.events (T : RxTarget) (f : Taken) : List (Event RxCall RxAnswer) :=
  receiveEvent errOk f.msg :: acceptEvent T f :: f.handed

/-- The check after the frame finds more. -/
def Taken.round (T : RxTarget) (f : Taken) : List (Event RxCall RxAnswer) :=
  f.events T ++ [statusEvent errOk ⟨true⟩]

/-- How a drain ends, with the frame it ends at if there is one. -/
inductive Ending (T : RxTarget) : List (Event RxCall RxAnswer) → List Taken → Prop
  | receiveFails {result : ErrorResult} {msg : Message} (h : result ≠ errOk) :
      Ending T [receiveEvent result msg] []
  | checked {f : Taken} {result : ErrorResult} {st : FifoStatus}
      (h : result ≠ errOk ∨ st.rxFifoNotEmpty = false) :
      Ending T (f.events T ++ [statusEvent result st]) [f]

/-- `fs` were taken from `w` on, leaving `w'`. -/
structure Took (w : World) (fs : List Taken) (n : UInt32) (w' : World) : Prop where
  fifo : w.fifo = fs.map (·.msg) ++ w'.fifo
  count : n = UInt32.ofNat fs.length

theorem took_nil : Took w [] 0 w := ⟨rfl, rfl⟩

theorem Took.snoc {fs : List Taken} {f : Taken} (h : Took w₀ fs n w)
    (hf : w.fifo = f.msg :: w'.fifo) : Took w₀ (fs ++ [f]) (n + 1) w' := by
  refine ⟨?_, ?_⟩
  · rw [h.fifo, hf, List.map_append, List.append_assoc]
    rfl
  · rw [h.count, List.length_append, List.length_singleton, UInt32.ofNat_add]
    rfl

/-- With an unsigned result no branch of the loop looks at an error. -/
theorem negative_unsigned (hT : T.signedResult = false) (result : ErrorResult) :
    T.negative result = false := by
  rw [RxTarget.negative, hT, Bool.false_and]

/-- One iteration: a failed receive, or a frame and the check after it. -/
def Iteration (T : RxTarget) (w : World) (n : UInt32) :
    Post Unit World RxCall RxAnswer (UInt32 ⊕ UInt32) := fun tr r _ w' =>
  (r = .inr n ∧ w'.fifo = w.fifo ∧ Ending T tr [])
  ∨ ∃ f : Taken, w.fifo = f.msg :: w'.fifo
    ∧ (r = .inl (n + 1) ∧ tr = f.round T ∨ r = .inr (n + 1) ∧ Ending T tr [f])

/-- The check after a frame. -/
theorem checkMore_iteration {f : Taken} {w₁ : World} (hf : w.fifo = f.msg :: w₁.fifo) :
    Ensures (rxEnv L) (checkMore (n + 1))
      (fun tr => Iteration T w n (f.events T ++ tr)) () w₁ := by
  refine ensures_checkMore fun result st w₂ hw₂ => ?_
  obtain rfl : w₂ = w₁ := hw₂.1
  split
  · rename_i hmore
    obtain ⟨more⟩ := st
    obtain ⟨rfl, rfl⟩ : result = errOk ∧ more = true := hmore
    exact .inr ⟨f, hf, .inl ⟨rfl, rfl⟩⟩
  · rename_i hends
    refine .inr ⟨f, hf, .inr ⟨rfl, .checked ?_⟩⟩
    by_cases hr : result = errOk
    · exact .inr (Bool.eq_false_iff.mpr fun hmore => hends ⟨hr, hmore⟩)
    · exact .inl hr

theorem rxLoop_iteration (hT : T.signedResult = false) :
    Ensures (rxEnv L) (rxLoop T n) (Iteration T w n) () w := by
  refine ensures_rxLoop (fun result msg w₁ hr h => ?_) fun msg w₁ a w₂ h ha tr htr => ?_
  · rcases h with ⟨-, rfl⟩ | ⟨hok, -⟩
    · exact .inl ⟨rfl, rfl, .receiveFails hr⟩
    · exact (hr hok).elim
  · have hfifo : w.fifo = msg :: w₁.fifo := by
      rcases h with ⟨hne, -⟩ | ⟨-, hfifo, -⟩
      · exact (hne rfl).elim
      · exact hfifo
    obtain rfl : w₂ = w₁ := ha.1
    subst htr
    refine ⟨fun hone w₃ hw₃ w₄ hw₄ => ?_, fun _ hneg => ?_, fun hone _ => ?_⟩
    · obtain rfl : w₄ = w₃ := hw₄
      have hcheck := checkMore_iteration (L := L) (T := T) (n := n) (f := ⟨msg, a⟩)
        (hfifo.trans (by rw [hw₃.1]))
      simpa only [Taken.events, Taken.handed, if_pos hone, List.cons_append, List.nil_append]
        using hcheck
    · rw [negative_unsigned hT] at hneg
      cases hneg
    · have hcheck := checkMore_iteration (L := L) (T := T) (n := n) (f := ⟨msg, a⟩) hfifo
      simpa only [Taken.events, Taken.handed, if_neg hone, List.cons_append, List.nil_append]
        using hcheck

/-- A drain past its first check: rounds, and how it ended. -/
def Drained (T : RxTarget) (w : World) : Post Unit World RxCall RxAnswer UInt32 :=
  fun tr n _ w' => ∃ (fs last : List Taken) (ending : List (Event RxCall RxAnswer)),
    tr = fs.flatMap (Taken.round T) ++ ending ∧ Ending T ending last
      ∧ Took w (fs ++ last) n w'

/-- A drain past its first check: rounds, and how it ended. By the loop rule,
with the rounds so far as the invariant. -/
theorem rxLoops_drained (hT : T.signedResult = false) :
    Ensures (rxEnv L) (Prog.iter (rxLoop T) 0) (Drained T w) () w := by
  refine ensures_iter (fun n tr _ w₁ => ∃ fs : List Taken,
    tr = fs.flatMap (Taken.round T) ∧ Took w fs n w₁) ?_ ⟨[], rfl, took_nil⟩
  intro n tr _ w₁ hI
  obtain ⟨fs, rfl, htook⟩ := hI
  refine (rxLoop_iteration hT).mono ?_
  intro tr' r _ w' h
  rcases h with ⟨rfl, hfifo, hend⟩ | ⟨f, hfifo, ⟨rfl, rfl⟩ | ⟨rfl, hend⟩⟩
  · refine ⟨by simp, fun m hm => ?_⟩
    cases hm
    exact ⟨fs, [], tr', rfl, hend, by rw [List.append_nil]; exact ⟨hfifo ▸ htook.fifo, htook.count⟩⟩
  · refine ⟨fun m hm => ?_, by simp⟩
    cases hm
    exact ⟨fs ++ [f], by simp, htook.snoc hfifo⟩
  · refine ⟨by simp, fun m hm => ?_⟩
    cases hm
    exact ⟨fs, [f], tr', rfl, hend, htook.snoc hfifo⟩

/-- The whole call: its first check, then nothing or a drain. -/
theorem rxProcess_drained (hT : T.signedResult = false) :
    Ensures (rxEnv L) (rxProcess T) (fun tr n s w' => ∃ result st tr',
      tr = statusEvent result st :: tr'
        ∧ (tr' = [] ∧ n = 0 ∧ w'.fifo = w.fifo ∨ Drained T w tr' n s w')) () w := by
  refine ensures_rxProcess fun result st w₁ hw₁ => ?_
  obtain rfl : w₁ = w := hw₁.1
  refine ⟨⟨result, st, [], rfl, .inl ⟨rfl, rfl, rfl⟩⟩, (rxLoops_drained hT).mono ?_⟩
  intro tr n s w' h
  exact ⟨result, st, tr, rfl, .inr h⟩

/-! ## Stopping at an error -/

def acceptResult : Event RxCall RxAnswer → Option Int8
  | ⟨.canardRxAccept .., a⟩ => some a.result
  | _ => none

/-- A frame was taken from the FIFO. -/
def isPop : Event RxCall RxAnswer → Bool
  | ⟨.receiveMessageFromFifo .., a⟩ => Prod.fst a == errOk
  | _ => false

/-- libcanard took a frame without an error. -/
def isSuccess : Event RxCall RxAnswer → Bool
  | ⟨.canardRxAccept .., a⟩ => a.result == 0 || a.result == 1
  | ⟨.subscriptionDispatch .., _⟩ => true
  | ⟨.deallocate .., _⟩ => true
  | _ => false

/-- The call returns at the first error of `canardRxAccept`, with the frames
after it in the FIFO and the others counted (in 32 bits), and never right
after a success. -/
structure StopsAtErrors (tr : List (Event RxCall RxAnswer)) (frameCount : UInt32)
    (w w' : World) : Prop where
  stops : ∀ k result, (tr.filterMap acceptResult)[k]? = some result → result < 0 →
    frameCount = UInt32.ofNat (k + 1) ∧ tr.countP isPop = k + 1
      ∧ w'.fifo = w.fifo.drop (k + 1)
  goesOn : ∀ ev ∈ tr.getLast?, isSuccess ev = false

def isError : Event RxCall RxAnswer → Bool
  | ⟨.canardRxAccept .., a⟩ => decide (a.result < 0)
  | _ => false

/-- A receive that fails. -/
def receiveFails : List (Event RxCall RxAnswer) → Bool
  | ⟨.receiveMessageFromFifo .., a⟩ :: _ => Prod.fst a != errOk
  | _ => false

/-- The driver ends the drain: the next status cannot be read or finds the
FIFO empty, or the next receive fails. -/
def driverStops : List (Event RxCall RxAnswer) → Bool
  | ⟨.getFifoStatus _, a⟩ :: tr =>
    Prod.fst a != errOk || !(Prod.snd a).rxFifoNotEmpty || receiveFails tr
  | _ => false

/-- At every error of `canardRxAccept` the driver ends the drain. -/
def stoppedAnyway : List (Event RxCall RxAnswer) → Bool
  | [] => true
  | ev :: tr => (!isError ev || driverStops tr) && stoppedAnyway tr

section Rounds

variable {fs last : List Taken} {ending : List (Event RxCall RxAnswer)}

theorem filterMap_events (f : Taken) :
    (f.events T).filterMap acceptResult = [f.accepted.result] := by
  simp only [Taken.events, Taken.handed]
  split <;> rfl

theorem countP_events (f : Taken) : (f.events T).countP isPop = 1 := by
  simp only [Taken.events, Taken.handed]
  split <;> rfl

theorem filterMap_rounds (fs : List Taken) :
    (fs.flatMap (Taken.round T)).filterMap acceptResult = fs.map (·.accepted.result) := by
  induction fs with
  | nil => rfl
  | cons f fs ih =>
      rw [List.flatMap_cons, List.filterMap_append, ih, Taken.round, List.filterMap_append,
        filterMap_events]
      rfl

theorem countP_rounds (fs : List Taken) :
    (fs.flatMap (Taken.round T)).countP isPop = fs.length := by
  induction fs with
  | nil => rfl
  | cons f fs ih =>
      rw [List.flatMap_cons, List.countP_append, ih, Taken.round, List.countP_append,
        countP_events, List.length_cons]
      simp [isPop, Nat.add_comm]

theorem Ending.results (h : Ending T ending last) :
    ending.filterMap acceptResult = last.map (·.accepted.result) := by
  cases h with
  | receiveFails => rfl
  | checked =>
      rw [List.filterMap_append, filterMap_events]
      rfl

theorem Ending.pops (h : Ending T ending last) : ending.countP isPop = last.length := by
  cases h with
  | receiveFails h => simp [isPop, h]
  | checked =>
      rw [List.countP_append, countP_events]
      rfl

/-- No ending is a success. -/
theorem Ending.goesOn (h : Ending T ending last) (tr : List (Event RxCall RxAnswer)) :
    ∀ ev ∈ (tr ++ ending).getLast?, isSuccess ev = false := by
  intro ev hev
  cases h with
  | receiveFails =>
      rw [List.getLast?_concat, Option.mem_some_iff] at hev
      rw [← hev]
      rfl
  | checked =>
      rw [← List.append_assoc, List.getLast?_concat, Option.mem_some_iff] at hev
      rw [← hev]
      rfl

/-- After a round the driver ends the drain only at a receive that fails. -/
theorem driverStops_rounds (h : Ending T ending last) :
    driverStops (statusEvent errOk ⟨true⟩ :: (fs.flatMap (Taken.round T) ++ ending))
      = (fs ++ last).isEmpty := by
  cases fs with
  | nil =>
      cases h with
      | receiveFails h => simp [driverStops, receiveFails, h]
      | checked => simp [driverStops, receiveFails, Taken.events]
  | cons f fs => simp [driverStops, receiveFails, Taken.round, Taken.events]

theorem stoppedAnyway_events (f : Taken) (tr : List (Event RxCall RxAnswer)) :
    stoppedAnyway (f.events T ++ tr)
      = ((!decide (f.accepted.result < 0) || driverStops tr) && stoppedAnyway tr) := by
  by_cases hone : f.accepted.result = 1
  · have hpos : ¬f.accepted.result < 0 := by rw [hone]; decide
    simp [Taken.events, Taken.handed, hone, stoppedAnyway, isError]
  · simp [Taken.events, Taken.handed, hone, stoppedAnyway, isError]

/-- The frames whose errors a drain passes over are all but the last, since
after a round the driver goes on. -/
theorem stoppedAnyway_rounds (h : Ending T ending last) :
    stoppedAnyway (fs.flatMap (Taken.round T) ++ ending) = true ↔
      ∀ f ∈ (fs ++ last).dropLast, ¬f.accepted.result < 0 := by
  induction fs with
  | nil =>
      cases h with
      | receiveFails => simp [stoppedAnyway, isError]
      | @checked f result st h =>
          rw [List.flatMap_nil, List.nil_append, stoppedAnyway_events]
          have hstops : driverStops [statusEvent result st] = true := by
            simpa [driverStops, receiveFails] using h
          simp [hstops, stoppedAnyway, isError]
  | cons f fs ih =>
      rw [List.flatMap_cons, Taken.round, List.append_assoc, List.append_assoc,
        stoppedAnyway_events, List.singleton_append, driverStops_rounds h, stoppedAnyway]
      simp only [isError, Bool.not_false, Bool.true_or, Bool.true_and, Bool.and_eq_true, ih]
      cases hrest : fs ++ last with
      | nil => simp [hrest]
      | cons g gs =>
          rw [List.cons_append, hrest, List.dropLast_cons_cons]
          simp [Int8.not_lt]

end Rounds

/-- Stopping at the first error is failing at the last frame only: what is
counted and what is left in the FIFO are then as they should be. -/
theorem stopsAtErrors_iff {hs : List Taken} (hresults :
    tr.filterMap acceptResult = hs.map (·.accepted.result))
    (hpops : tr.countP isPop = hs.length) (htook : Took w hs n w')
    (hgoes : ∀ ev ∈ tr.getLast?, isSuccess ev = false) :
    StopsAtErrors tr n w w' ↔ ∀ f ∈ hs.dropLast, ¬f.accepted.result < 0 := by
  constructor
  · intro h f hf hlt
    obtain ⟨k, hk⟩ := List.mem_iff_getElem?.mp hf
    rw [List.getElem?_dropLast] at hk
    split at hk
    · rename_i hlast
      have hres : (tr.filterMap acceptResult)[k]? = some f.accepted.result := by
        rw [hresults, List.getElem?_map, hk]
        rfl
      have hcount := (h.stops k _ hres hlt).2.1
      omega
    · cases hk
  · intro h
    refine ⟨fun k result hres hlt => ?_, hgoes⟩
    rw [hresults, List.getElem?_map, Option.map_eq_some_iff] at hres
    obtain ⟨f, hk, rfl⟩ := hres
    have hlen : k + 1 = hs.length := by
      have hlt' : k < hs.length := (List.getElem?_eq_some_iff.mp hk).1
      by_contra hne
      refine h f (List.mem_iff_getElem?.mpr ⟨k, ?_⟩) hlt
      rw [List.getElem?_dropLast, if_pos (by omega), hk]
    rw [hlen]
    refine ⟨htook.count, hpops, ?_⟩
    rw [htook.fifo, List.drop_left' (List.length_map ..)]

/-- With an unsigned result, `canard_mcp_rx_process` stops at the errors of
`canardRxAccept`, exactly if at each of them the driver ends the drain: the
next status cannot be read or finds the FIFO empty, or the next receive fails.
Both sides say that all frames but the last were taken without an error. -/
theorem rx_stops_at_errors_iff (hT : T.signedResult = false)
    (hx : Exec (rxEnv L) (rxProcess T) () w tr n () w') :
    StopsAtErrors tr n w w' ↔ stoppedAnyway tr = true := by
  obtain ⟨result, st, tr', rfl, ⟨rfl, rfl, hfifo⟩ | ⟨fs, last, ending, rfl, hend, htook⟩⟩ :=
    rxProcess_drained hT _ _ _ _ hx
  · have htook : Took w [] 0 w' := ⟨hfifo.symm, rfl⟩
    rw [stopsAtErrors_iff rfl rfl htook (by simp [isSuccess])]
    simp [stoppedAnyway, isError]
  · have hresults : (statusEvent result st ::
        (fs.flatMap (Taken.round T) ++ ending)).filterMap acceptResult
          = (fs ++ last).map (·.accepted.result) := by
      rw [List.filterMap_cons_none rfl, List.filterMap_append, filterMap_rounds, hend.results,
        List.map_append]
    have hpops : (statusEvent result st ::
        (fs.flatMap (Taken.round T) ++ ending)).countP isPop = (fs ++ last).length := by
      rw [List.countP_cons_of_neg (by simp [isPop]), List.countP_append, countP_rounds,
        hend.pops, List.length_append]
    rw [stopsAtErrors_iff hresults hpops htook
      (hend.goesOn (statusEvent result st :: fs.flatMap (Taken.round T))),
      ← stoppedAnyway_rounds hend]
    simp [stoppedAnyway, isError]

/-! ## A full heap on the bench -/

/-- `-CANARD_ERROR_OUT_OF_MEMORY` for the frames picked. -/
def outOfMemory (picked : UInt32 → Bool) (frame : Frame) : Int8 :=
  if picked frame.extendedCanId then -3 else 0

/-- Only libcanard fails. -/
def benchRx (picked : UInt32 → Bool) (w : World) : (i : RxCall) → RxAnswer i × World
  | .getFifoStatus _ => ((errOk, ⟨!w.fifo.isEmpty⟩), w)
  | .receiveMessageFromFifo _ _ =>
    match w.fifo with
    | [] => ((1, default), w)
    | msg :: msgs => ((errOk, msg), { w with fifo := msgs })
  | .canardRxAccept _ frame _ => (⟨outOfMemory picked frame, default, none⟩, w)
  | .subscriptionDispatch _ _ => ((), w)
  | .deallocate _ _ => ((), w)

theorem benchRx_answers (picked : UInt32 → Bool) : Answers (benchRx picked) (rxEnv L) := by
  intro w i
  cases i with
  | getFifoStatus => exact ⟨rfl, .inr rfl⟩
  | receiveMessageFromFifo =>
      simp only [benchRx]
      split
      · exact .inl ⟨(by decide : (1 : ErrorResult) ≠ errOk), rfl⟩
      · rename_i h
        exact .inr ⟨rfl, h, rfl⟩
  | canardRxAccept ts frame iface =>
      refine ⟨rfl, ?_⟩
      simp only [benchRx, outOfMemory]
      split
      · exact .inr (.inl (by decide))
      · exact .inl rfl
  | subscriptionDispatch transfer subscription => exact dispatch_answers ..
  | deallocate => rfl

def unsignedTarget : RxTarget := { dlcToByte := fun dlc _ => dlc.toNat, signedResult := false }

def benchFrames : World where
  fifo := [⟨1, 8, [], 0⟩, ⟨2, 8, [], 0⟩]
  node := benchNode

/-- The second of two frames finds no memory, and the FIFO is empty. -/
theorem rx_stops_at_errors_iff_last : ∃ (tr : _) (n : _) (w' : World),
    (tr.filterMap acceptResult)[1]? = some (-3 : Int8) ∧ StopsAtErrors tr n benchFrames w' := by
  have heval : ∃ tr n w', (rxProcess unsignedTarget).eval (benchRx (· == 2)) 3 ((), benchFrames)
      = some (tr, n, ((), w')) ∧ (tr.filterMap acceptResult)[1]? = some (-3 : Int8)
      ∧ stoppedAnyway tr = true := ⟨_, _, _, rfl, rfl, rfl⟩
  obtain ⟨tr, n, w', heval, hres, hstop⟩ := heval
  have hx : Exec (rxEnv benchCanard) (rxProcess unsignedTarget) () benchFrames tr n () w' :=
    Prog.eval_exec (benchRx_answers _) heval
  exact ⟨tr, n, w', hres, (rx_stops_at_errors_iff rfl hx).mpr hstop⟩

/-- The first of two frames finds no memory, and the second is taken too. -/
theorem out_of_memory_passed_over : ∃ (tr : _) (w' : World),
    Exec (rxEnv benchCanard) (rxProcess unsignedTarget) () benchFrames tr 2 () w'
      ∧ (tr.filterMap acceptResult)[0]? = some (-3 : Int8) ∧ w'.fifo = []
      ∧ ¬StopsAtErrors tr 2 benchFrames w' := by
  have heval : ∃ tr w', (rxProcess unsignedTarget).eval (benchRx (· == 1)) 3 ((), benchFrames)
      = some (tr, 2, ((), w')) ∧ (tr.filterMap acceptResult)[0]? = some (-3 : Int8)
      ∧ w'.fifo = [] := ⟨_, _, rfl, rfl, rfl⟩
  obtain ⟨tr, w', heval, hres, hempty⟩ := heval
  refine ⟨tr, w', Prog.eval_exec (benchRx_answers _) heval, hres, hempty, fun h => ?_⟩
  exact absurd (h.stops 0 _ hres (by decide)).1 (by decide)

end Cyphal

end LeosSdk
