import LeosSdk.CyphalHeap

/-!
# Cyphal node: heartbeats

`leos_cyphal_task`, `leos_cyphal_publish_heartbeat` and `leos_cyphal_push` of
`cyphal.c`. Heartbeats are handed over more than `HEARTBEAT_INTERVAL_MS` apart
with consecutive transfer-IDs, whatever becomes of them. Their uptime, which
`uavcan.node.Heartbeat.1.0` wants in seconds, is the millisecond count modulo
2^32: right in the first millisecond after boot and when the two counts happen
to differ by a multiple of 2^32.

The clock, libcanard's queue and the code generated from the message's
definition are not part of this repository. The clock never goes back and
stays below 2^32 seconds. Logging is left out.

The world keeps every heartbeat handed over, with the instants at which its
uptime was read and at which it was handed over. What a call of the task does
is said once: it hands over one heartbeat or none, and the next one is due an
interval after this one (`task_spec`). The invariant `Beats` has the history
and how the node's timer and counter stand to it, so one more heartbeat
extends it. Below the bound the clock's 64 bits hold every instant and every
timeout, and the claim about the uptime is arithmetic of the two counts at the
instant of each heartbeat.
-/

namespace LeosSdk

namespace Cyphal

def Result.serializationError : Result := -3

namespace Heartbeat

open Prog (modify)

/-! ## The program -/

def intervalMs : UInt32 := 1000

/-- `enum CanardPriority`. -/
inductive Priority where
  | exceptional | immediate | fast | high | nominal | low | slow | optional
deriving DecidableEq, Repr

/-- `struct CanardTransferMetadata`; no node-ID is `CANARD_NODE_ID_UNSET`. -/
structure TransferMetadata where
  portId : PortId
  priority : Priority
  transferId : UInt8
  transferKind : TransferKind
  remoteNodeId : Option UInt8
deriving DecidableEq, Repr

/-- `uavcan_node_Heartbeat_1_0`. -/
structure Msg where
  uptime : UInt32
  health : UInt8
  mode : UInt8
  vendorSpecificStatusCode : UInt8
deriving DecidableEq, Repr

/-- What is generated from the message's definition: its constants, the
serializer, and the uptime a receiver reads in a payload. -/
structure Dsdl where
  fixedPortId : PortId
  healthNominal : UInt8
  modeInitialization : UInt8
  serialize : Msg → Option (List UInt8)
  uptime : List UInt8 → UInt32
  uptime_serialize : ∀ msg buf, serialize msg = some buf → uptime buf = msg.uptime

/-- The node as far as heartbeats go. -/
structure Node where
  health : UInt8
  mode : UInt8
  nextHeartbeat : UInt64
  heartbeatTid : UInt8
deriving DecidableEq, Repr

/-- `leos_cyphal_init`: the rest is zeroed. -/
def init (G : Dsdl) : Node where
  health := G.healthNominal
  mode := G.modeInitialization
  nextHeartbeat := 0
  heartbeatTid := 0

/-- Times are in microseconds since boot. -/
inductive Call where
  | getAbsoluteTime
  | makeTimeoutTimeMs (ms : UInt32)
  | canardTxPoll (nowUsec : UInt64)
  | canardTxPush (deadlineUsec : UInt64) (metadata : TransferMetadata) (payload : List UInt8)
      (nowUsec : UInt64)

abbrev Answer : Call → Type
  | .getAbsoluteTime => UInt64
  | .makeTimeoutTimeMs _ => UInt64
  | .canardTxPoll _ => Int32
  | .canardTxPush .. => Int32

abbrev Api := Prog Node Call Answer

abbrev call (i : Call) : Api (Answer i) := Prog.ask i

def toMsSinceBoot (t : UInt64) : UInt32 := (t / 1000).toUInt32

/-- `leos_cyphal_push`. -/
def push (metadata : TransferMetadata) (payload : List UInt8) : Api Result := do
  let deadline ← call (.makeTimeoutTimeMs 500)
  let r ← call (.canardTxPush deadline metadata payload 0)
  return Cyphal.push r.toInt

/-- The transfer a heartbeat goes out as. -/
def metadata (G : Dsdl) (transferId : UInt8) : TransferMetadata where
  portId := G.fixedPortId
  priority := .nominal
  transferId := transferId
  transferKind := .message
  remoteNodeId := none

def publishHeartbeat (G : Dsdl) : Api Result := do
  let now ← call .getAbsoluteTime
  let node ← Prog.read
  match G.serialize ⟨toMsSinceBoot now, node.health, node.mode, 0⟩ with
  | none => return .serializationError
  | some buf =>
    modify fun node => { node with heartbeatTid := node.heartbeatTid + 1 }
    push (metadata G node.heartbeatTid) buf

/-- `leos_cyphal_task`; it does nothing with the results but to log them. -/
def task (G : Dsdl) : Api Unit := do
  let now ← call .getAbsoluteTime
  let _ ← call (.canardTxPoll now)
  let now ← call .getAbsoluteTime
  let node ← Prog.read
  if now > node.nextHeartbeat then
    let _ ← publishHeartbeat G
    let next ← call (.makeTimeoutTimeMs intervalMs)
    modify fun node => { node with nextHeartbeat := next }

/-! ## The clock and the queue -/

/-- A heartbeat handed over: when its uptime was read, when it was handed
over, and as what. -/
structure Beat where
  readAt : Nat
  pushedAt : Nat
  metadata : TransferMetadata
  payload : List UInt8

/-- The microseconds since boot, when the clock was last read, and the
heartbeats handed over so far, oldest first. -/
structure World where
  now : Nat
  readAt : Nat
  beats : List Beat

/-- 2^32 seconds. -/
def maxUptime : Nat := 4294967296 * 1000000

/-- Time passes. -/
def World.Passes (w w' : World) : Prop :=
  ∃ now, w.now ≤ now ∧ now < maxUptime ∧ w' = { w with now := now }

/-- A transfer may be queued or refused. -/
def worldEnv : Env World Call Answer
  | w, .getAbsoluteTime, t, w' => t = UInt64.ofNat w.now ∧ w' = { w with readAt := w.now }
  | w, .makeTimeoutTimeMs ms, t, w' => t = UInt64.ofNat (w.now + 1000 * ms.toNat) ∧ w' = w
  | w, .canardTxPoll _, _, w' => w' = w
  | w, .canardTxPush _ metadata payload _, _, w' =>
    w' = { w with beats := w.beats ++ [⟨w.readAt, w.now, metadata, payload⟩] }

abbrev busyWorld : Env World Call Answer := interleave World.Passes worldEnv

abbrev TaskOp.Ret : Unit → Type := fun _ => Unit

/-- Calls of `leos_cyphal_task`, at any time. -/
abbrev TaskStep (G : Dsdl) :
    Node × World → Label Unit TaskOp.Ret Call Answer → Node × World → Prop :=
  Session (fun _ => task G) busyWorld World.Passes

/-! ## What each function can do -/

variable {G : Dsdl} {s s' : Node} {w w' : World}

theorem passes_many (h : Relation.ReflTransGen World.Passes w w') (h0 : w.now < maxUptime) :
    w.Passes w' := by
  induction h with
  | refl => exact ⟨w.now, le_rfl, h0, rfl⟩
  | tail _ hp ih =>
      obtain ⟨n, hn, -, rfl⟩ := ih
      obtain ⟨n', hn', hmax, rfl⟩ := hp
      exact ⟨n', hn.trans hn', hmax, rfl⟩

/-- A call is answered at some later time. -/
theorem busy_call {i : Call} {a : Answer i} (h0 : w.now < maxUptime) (h : busyWorld w i a w') :
    ∃ n, w.now ≤ n ∧ n < maxUptime ∧ worldEnv { w with now := n } i a w' := by
  obtain ⟨w₁, hp, h⟩ := h
  obtain ⟨n, hn, hmax, rfl⟩ := passes_many hp h0
  exact ⟨n, hn, hmax, h⟩

theorem push_spec {metadata : TransferMetadata} {payload : List UInt8}
    (h0 : w.now < maxUptime) :
    Ensures busyWorld (push metadata payload) (fun _ _ s' w' => s' = s
      ∧ ∃ n, w.now ≤ n ∧ n < maxUptime ∧ w' = { w with
          now := n, beats := w.beats ++ [⟨w.readAt, n, metadata, payload⟩] }) s w := by
  simp only [push, ensures_bind, ensures_ask, ensures_pure, true_and]
  intro _ w₁ h₁ _ w₂ h₂
  obtain ⟨n₁, hn₁, hmax₁, -, rfl⟩ := busy_call h0 h₁
  obtain ⟨n₂, hn₂, hmax₂, rfl⟩ := busy_call hmax₁ h₂
  exact ⟨n₂, hn₁.trans hn₂, hmax₂, rfl⟩

/-- No heartbeat, or one with the next transfer-ID and the milliseconds at
which the clock was read. -/
def Publishes (G : Dsdl) (s : Node) (w : World) (s' : Node) (w' : World) : Prop :=
  ∃ readAt n, w.now ≤ readAt ∧ readAt ≤ n ∧ n < maxUptime
    ∧ (s' = s ∧ w' = { w with now := n, readAt := readAt }
      ∨ s' = { s with heartbeatTid := s.heartbeatTid + 1 }
        ∧ ∃ payload, G.uptime payload = toMsSinceBoot (UInt64.ofNat readAt)
          ∧ w' = {
              now := n
              readAt := readAt
              beats := w.beats ++ [⟨readAt, n, metadata G s.heartbeatTid, payload⟩] })

theorem publishHeartbeat_spec (h0 : w.now < maxUptime) :
    Ensures busyWorld (publishHeartbeat G) (fun _ _ s' w' => Publishes G s w s' w') s w := by
  simp only [publishHeartbeat, ensures_bind, ensures_ask, ensures_read]
  intro now w₁ h₁
  obtain ⟨n₁, hn₁, hmax₁, rfl, rfl⟩ := busy_call h0 h₁
  split
  · exact ensures_pure.mpr ⟨n₁, n₁, hn₁, le_rfl, hmax₁, .inl ⟨rfl, rfl⟩⟩
  · rename_i buf hbuf
    simp only [ensures_bind, ensures_modify]
    refine (push_spec hmax₁).mono ?_
    intro _ _ s' w' h
    rcases h with ⟨rfl, n₂, hn₂, hmax₂, rfl⟩
    exact ⟨n₁, n₂, hn₁, hn₂, hmax₂, .inr ⟨rfl, buf, G.uptime_serialize _ _ hbuf, rfl⟩⟩

/-- `b` is handed over, and the next heartbeat is due an interval later. The
timer had run out when the clock was read for it. -/
structure Sends (G : Dsdl) (b : Beat) (s : Node) (w : World) (s' : Node) (w' : World) :
    Prop where
  due : s.nextHeartbeat.toNat < b.readAt
  readAt : w.now ≤ b.readAt
  pushedAt : b.readAt ≤ b.pushedAt
  transferId : b.metadata.transferId = s.heartbeatTid
  uptime : G.uptime b.payload = toMsSinceBoot (UInt64.ofNat b.readAt)
  next : b.pushedAt + 1000 * intervalMs.toNat ≤ s'.nextHeartbeat.toNat
  now : b.pushedAt ≤ w'.now
  tid : s'.heartbeatTid = s.heartbeatTid + 1
  beats : w'.beats = w.beats ++ [b]

/-- What a call of the task does: it hands over one heartbeat or none. -/
def TaskDoes (G : Dsdl) (s : Node) (w : World) (s' : Node) (w' : World) : Prop :=
  w.now ≤ w'.now ∧ w'.now < maxUptime
    ∧ (s'.heartbeatTid = s.heartbeatTid ∧ s.nextHeartbeat.toNat ≤ s'.nextHeartbeat.toNat
        ∧ w'.beats = w.beats
      ∨ ∃ b, Sends G b s w s' w')

/-- The clock's 64 bits hold every instant and the timeouts set at it. -/
theorem toNat_timeout {n ms : Nat} (h : n < maxUptime) (hms : ms ≤ 1000) :
    (UInt64.ofNat (n + 1000 * ms)).toNat = n + 1000 * ms := by
  rw [UInt64.toNat_ofNat']
  simp only [maxUptime] at h
  omega

theorem toNat_instant {n : Nat} (h : n < maxUptime) : (UInt64.ofNat n).toNat = n :=
  toNat_timeout h (Nat.zero_le _)

/-- What a call of the task does, whatever time its calls take and whatever
the queue answers: the timer is set after the heartbeat is handed over. -/
theorem task_spec (h0 : w.now < maxUptime) :
    Ensures busyWorld (task G) (fun _ _ s' w' => TaskDoes G s w s' w') s w := by
  simp only [task, ensures_bind, ensures_ask, ensures_read, ensures_ite, ensures_pure,
    ensures_modify]
  intro _ w₁ h₁ _ w₂ h₂ now w₃ h₃
  obtain ⟨n₁, hn₁, hmax₁, -, rfl⟩ := busy_call h0 h₁
  obtain ⟨n₂, hn₂, hmax₂, rfl⟩ := busy_call hmax₁ h₂
  obtain ⟨n₃, hn₃, hmax₃, rfl, rfl⟩ := busy_call hmax₂ h₃
  have hlater : w.now ≤ n₃ := (hn₁.trans hn₂).trans hn₃
  refine ⟨fun hdue => ?_, fun _ => ⟨hlater, hmax₃, .inl ⟨rfl, le_rfl, rfl⟩⟩⟩
  have hdue : s.nextHeartbeat.toNat < n₃ := by
    rw [← toNat_instant hmax₃]
    exact UInt64.lt_iff_toNat_lt.mp hdue
  refine (publishHeartbeat_spec hmax₃).mono ?_
  intro _ _ s₄ w₄ h₄ next w₅ h₅
  obtain ⟨readAt, n₄, hread, hpushed, hmax₄, h₄⟩ := h₄
  rcases h₄ with ⟨rfl, rfl⟩ | ⟨rfl, payload, huptime, rfl⟩
  all_goals
    obtain ⟨n₅, hn₅, hmax₅, rfl, rfl⟩ := busy_call hmax₄ h₅
    have hnext : (UInt64.ofNat (n₅ + 1000 * intervalMs.toNat)).toNat
        = n₅ + 1000 * intervalMs.toNat := toNat_timeout hmax₅ le_rfl
    have hnow : n₃ ≤ n₅ := (hread.trans hpushed).trans hn₅
  · refine ⟨hlater.trans hnow, hmax₅, .inl ⟨rfl, ?_, rfl⟩⟩
    rw [hnext]
    exact (hdue.le.trans hnow).trans (Nat.le_add_right ..)
  · refine ⟨hlater.trans hnow, hmax₅, .inr ⟨_, ?_, ?_, hpushed, rfl, huptime, ?_, hn₅, rfl, rfl⟩⟩
    · exact hdue.trans_le hread
    · exact hlater.trans hread
    · rw [hnext]
      exact Nat.add_le_add_right hn₅ _

/-! ## Runs -/

/-- The heartbeats handed over: an interval from each to the clock reading
for any later one, transfer-IDs counted from zero, the milliseconds of their
time as uptime, and the node's counter and timer ahead of them all. -/
structure Beats (G : Dsdl) (m : Node × World) : Prop where
  time : m.2.now < maxUptime
  past : ∀ b ∈ m.2.beats, b.readAt ≤ b.pushedAt ∧ b.pushedAt ≤ m.2.now
  next : ∀ b ∈ m.2.beats, b.pushedAt + 1000 * intervalMs.toNat ≤ m.1.nextHeartbeat.toNat
  apart : m.2.beats.Pairwise fun a b => a.pushedAt + 1000 * intervalMs.toNat ≤ b.readAt
  tid : m.1.heartbeatTid = UInt8.ofNat m.2.beats.length
  transferId : ∀ i b, m.2.beats[i]? = some b → b.metadata.transferId = UInt8.ofNat i
  uptime : ∀ b ∈ m.2.beats, G.uptime b.payload = toMsSinceBoot (UInt64.ofNat b.readAt)

theorem beats_init (h0 : w.now < maxUptime) (hw : w.beats = []) : Beats G (init G, w) where
  time := h0
  past := by simp [hw]
  next := by simp [hw]
  apart := by simp [hw]
  tid := by simp [hw, init]
  transferId := by simp [hw]
  uptime := by simp [hw]

/-- No heartbeat is handed over. -/
theorem beats_same (hi : Beats G (s, w)) (hnow : w.now ≤ w'.now) (hmax : w'.now < maxUptime)
    (htid : s'.heartbeatTid = s.heartbeatTid)
    (hnext : s.nextHeartbeat.toNat ≤ s'.nextHeartbeat.toNat) (hbeats : w'.beats = w.beats) :
    Beats G (s', w') where
  time := hmax
  past b hb := (hi.past b (hbeats ▸ hb)).imp_right fun h => h.trans hnow
  next b hb := (hi.next b (hbeats ▸ hb)).trans hnext
  apart := hbeats ▸ hi.apart
  tid := by rw [htid, hbeats]; exact hi.tid
  transferId := hbeats ▸ hi.transferId
  uptime := hbeats ▸ hi.uptime

/-- What holds of the elements and their places holds when one is added. -/
theorem forall_getElem_snoc {α : Type} {P : Nat → α → Prop} {xs : List α} {x : α}
    (h : ∀ i a, xs[i]? = some a → P i a) (hx : P xs.length x) :
    ∀ i a, (xs ++ [x])[i]? = some a → P i a := by
  intro i a ha
  by_cases hlt : i < xs.length
  · rw [List.getElem?_append_left hlt] at ha
    exact h i a ha
  · rw [List.getElem?_append_right (Nat.le_of_not_lt hlt)] at ha
    obtain ⟨hlen, rfl⟩ := List.getElem?_eq_some_iff.mp ha
    have heq : i = xs.length := by
      simp only [List.length_singleton] at hlen
      omega
    rw [List.getElem_singleton, heq]
    exact hx

/-- `b` is handed over: an interval after the last one, with the transfer-ID
that is next. -/
theorem beats_sends {b : Beat} (hi : Beats G (s, w)) (hmax : w'.now < maxUptime)
    (h : Sends G b s w s' w') : Beats G (s', w') := by
  obtain ⟨hdue, hread, hpushed, htid, huptime, hnext, hnow, htid', hbeats⟩ := h
  have hlater : w.now ≤ w'.now := by omega
  have hmoved : s.nextHeartbeat.toNat ≤ s'.nextHeartbeat.toNat := by omega
  have hlast : ∀ {P : Beat → Prop}, (∀ a ∈ w.beats, P a) → P b → ∀ a ∈ w'.beats, P a := by
    intro P hold hb
    rw [hbeats]
    exact List.forall_mem_append.mpr ⟨hold, by simpa using hb⟩
  have hpair : ∀ {R : Beat → Beat → Prop}, w.beats.Pairwise R → (∀ a ∈ w.beats, R a b) →
      w'.beats.Pairwise R := by
    intro R hold hb
    rw [hbeats]
    exact List.pairwise_append.mpr ⟨hold, List.pairwise_singleton .., by simpa using hb⟩
  refine ⟨hmax, ?_, ?_, ?_, ?_, ?_, ?_⟩
  · exact hlast (fun a ha => (hi.past a ha).imp_right fun h => h.trans hlater) ⟨hpushed, hnow⟩
  · exact hlast (fun a ha => (hi.next a ha).trans hmoved) hnext
  · exact hpair hi.apart fun a ha => (hi.next a ha).trans hdue.le
  · rw [htid', hbeats, List.length_append, show s.heartbeatTid = _ from hi.tid]
    exact (UInt8.ofNat_add ..).symm
  · rw [hbeats]
    exact forall_getElem_snoc hi.transferId (htid.trans hi.tid)
  · exact hlast hi.uptime huptime

/-- Step lemma: a call hands over one heartbeat or none. -/
theorem beats_step (x : Rec (Node × World) (Label Unit TaskOp.Ret Call Answer))
    (h : TaskStep G x.pre x.label x.post) (hi : Beats G x.pre) : Beats G x.post := by
  obtain ⟨⟨s, w⟩, l, ⟨s', w'⟩⟩ := x
  cases h with
  | tick h =>
      obtain ⟨n, hn, hmax, rfl⟩ := h
      exact beats_same hi hn hmax rfl le_rfl rfl
  | op h =>
      obtain ⟨hnow, hmax, hdoes⟩ := task_spec hi.time _ _ _ _ h
      rcases hdoes with ⟨htid, hnext, hbeats⟩ | ⟨b, hb⟩
      · exact beats_same hi hnow hmax htid hnext hbeats
      · exact beats_sends hi hmax hb

/-- An interval from handing over a heartbeat to reading the clock for any
later one, and libcanard's transfer-IDs one after the other. -/
structure Regular (w : World) : Prop where
  apart : w.beats.Pairwise fun a b => a.pushedAt + 1000 * intervalMs.toNat ≤ b.readAt
  consecutive : ∀ i a b, w.beats[i]? = some a → w.beats[i + 1]? = some b →
    b.metadata.transferId.toNat % 32 = (a.metadata.transferId.toNat % 32 + 1) % 32

theorem Beats.regular {m : Node × World} (hi : Beats G m) : Regular m.2 where
  apart := hi.apart
  consecutive i a b ha hb := by
    rw [hi.transferId i a ha, hi.transferId (i + 1) b hb, UInt8.toNat_ofNat', UInt8.toNat_ofNat']
    omega

/-- Every uptime is the whole seconds at the time it was read, so none is
less than an earlier one. -/
structure TellsUptime (G : Dsdl) (w : World) : Prop where
  seconds : ∀ b ∈ w.beats, (G.uptime b.payload).toNat = b.readAt / 1000000
  nondecreasing : w.beats.Pairwise fun a b => G.uptime a.payload ≤ G.uptime b.payload

/-- The milliseconds are ahead of the seconds by a multiple of 2^32. -/
def Coincides (t : Nat) : Prop := 4294967296 ∣ t / 1000 - t / 1000000

instance (t : Nat) : Decidable (Coincides t) := inferInstanceAs (Decidable (_ ∣ _))

theorem toNat_toMsSinceBoot {t : Nat} (h : t < maxUptime) :
    (toMsSinceBoot (UInt64.ofNat t)).toNat = t / 1000 % 4294967296 := by
  rw [toMsSinceBoot, UInt64.toNat_toUInt32, UInt64.toNat_div, toNat_instant h]
  rfl

theorem coincides_iff {t : Nat} (h : t < maxUptime) :
    t / 1000 % 4294967296 = t / 1000000 ↔ Coincides t := by
  simp only [maxUptime] at h
  simp only [Coincides]
  omega

/-- The uptimes are the whole seconds just if each was read at an instant
where the two counts coincide. -/
theorem Beats.tellsUptime {m : Node × World} (hi : Beats G m) :
    TellsUptime G m.2 ↔ ∀ b ∈ m.2.beats, Coincides b.readAt := by
  have hbeat : ∀ b ∈ m.2.beats,
      (G.uptime b.payload).toNat = b.readAt / 1000000 ↔ Coincides b.readAt := by
    intro b hb
    have hpast := hi.past b hb
    have hmax : b.readAt < maxUptime := (hpast.1.trans hpast.2).trans_lt hi.time
    rw [hi.uptime b hb, toNat_toMsSinceBoot hmax]
    exact coincides_iff hmax
  constructor
  · intro h b hb
    exact (hbeat b hb).mp (h.seconds b hb)
  · intro h
    have hseconds : ∀ b ∈ m.2.beats, (G.uptime b.payload).toNat = b.readAt / 1000000 :=
      fun b hb => (hbeat b hb).mpr (h b hb)
    refine ⟨hseconds, hi.apart.imp_of_mem ?_⟩
    intro a b ha hb hab
    have hread : a.readAt ≤ b.readAt :=
      ((hi.past a ha).1.trans (Nat.le_add_right ..)).trans hab
    rw [UInt32.le_iff_toNat_le, hseconds a ha, hseconds b hb]
    exact Nat.div_le_div_right hread

/-- In every run of `leos_cyphal_task` on an initialised node the heartbeats
handed over are regular; they tell the uptime exactly when each of them is
sent while the millisecond count is ahead of the seconds by a multiple of
2^32. Both are read off the invariant. -/
theorem heartbeats_tell_uptime {m : Node × World}
    {xs : List (Rec (Node × World) (Label Unit TaskOp.Ret Call Answer))}
    (h0 : w.now < maxUptime) (hw : w.beats = [])
    (h : Run (TaskStep G) (init G, w) xs m) :
    Regular m.2 ∧ (TellsUptime G m.2 ↔ ∀ b ∈ m.2.beats, Coincides b.readAt) := by
  have hi : Beats G m := (h.invariant (Beats G) (fun _ => True) (beats_init h0 hw)
    (fun x hs _ hi => beats_step x hs hi) fun _ _ => trivial).1
  exact ⟨hi.regular, hi.tellsUptime⟩

/-! ## A node on the bench -/

/-- The message's bytes: the uptime little-endian, then a byte each. -/
def benchDsdl : Dsdl where
  fixedPortId := 7509
  healthNominal := 0
  modeInitialization := 1
  serialize msg := some
    [UInt8.ofNat msg.uptime.toNat, UInt8.ofNat (msg.uptime.toNat / 256),
      UInt8.ofNat (msg.uptime.toNat / 65536), UInt8.ofNat (msg.uptime.toNat / 16777216),
      msg.health, msg.mode, msg.vendorSpecificStatusCode]
  uptime
    | b₀ :: b₁ :: b₂ :: b₃ :: _ =>
      UInt32.ofNat (b₀.toNat + 256 * b₁.toNat + 65536 * b₂.toNat + 16777216 * b₃.toNat)
    | _ => 0
  uptime_serialize := by
    rintro msg _ ⟨rfl⟩
    have hlt : msg.uptime.toNat < 4294967296 := msg.uptime.toNat_lt
    rw [← UInt32.toNat_inj, UInt32.toNat_ofNat']
    simp only [UInt8.toNat_ofNat']
    omega

/-- The clock is `d` microseconds on, if it can be. -/
def World.advance (d : Nat) (w : World) : World :=
  if w.now + d < maxUptime then { w with now := w.now + d } else w

/-- Each reading of the clock finds it `d` microseconds on; the queue is
full. -/
def benchWorld (d : Nat) (w : World) : (i : Call) → Answer i × World
  | .getAbsoluteTime =>
    let w := w.advance d
    (UInt64.ofNat w.now, { w with readAt := w.now })
  | .makeTimeoutTimeMs ms => (UInt64.ofNat (w.now + 1000 * ms.toNat), w)
  | .canardTxPoll _ => (0, w)
  | .canardTxPush _ metadata payload _ =>
    (-1, { w with beats := w.beats ++ [⟨w.readAt, w.now, metadata, payload⟩] })

theorem benchWorld_answers (d : Nat) : Answers (benchWorld d) busyWorld := by
  intro w i
  cases i with
  | getAbsoluteTime =>
      refine ⟨w.advance d, ?_, rfl, rfl⟩
      unfold World.advance
      split
      · rename_i hlt
        exact .single ⟨w.now + d, Nat.le_add_right .., hlt, rfl⟩
      · exact .refl
  | makeTimeoutTimeMs ms => exact interleave_of ⟨rfl, rfl⟩
  | canardTxPoll | canardTxPush => exact interleave_of rfl

/-- The seconds at which the heartbeats' uptime was read, and their uptime. -/
def Beat.told (b : Beat) : Nat × UInt32 := (b.readAt / 1000000, benchDsdl.uptime b.payload)

/-- Millisecond 4299266562 is in second 4299266, 2^32 less. -/
theorem heartbeats_tell_uptime_after_wrap :
    ∃ xs m, Run (TaskStep benchDsdl) (init benchDsdl, ⟨4299266561700, 0, []⟩) xs m
      ∧ TellsUptime benchDsdl m.2 ∧ m.2.beats.map Beat.told = [(4299266, 4299266)] := by
  obtain ⟨xs, m, hrun, hm⟩ := evalsTo_run World.Passes (benchWorld_answers 100)
    (show evalsTo (fun _ => task benchDsdl) (benchWorld 100) 1 [(), ()]
      (init benchDsdl, ⟨4299266561700, 0, []⟩)
      (fun _ m => m.2.beats.all (fun b => b.readAt == 4299266562000)
        && m.2.beats.map Beat.told == [(4299266, 4299266)]) = true
      by decide +kernel)
  simp only [Bool.and_eq_true, List.all_eq_true, beq_iff_eq] at hm
  refine ⟨xs, m, hrun, ?_, hm.2⟩
  refine (heartbeats_tell_uptime (by decide) rfl hrun).2.mpr fun b hb => ?_
  rw [hm.1 b hb]
  decide

/-- Heartbeats 3000000 and 6000000 seconds after boot. -/
theorem uptime_counts_milliseconds :
    ∃ xs m, Run (TaskStep benchDsdl) (init benchDsdl, ⟨0, 0, []⟩) xs m
      ∧ m.2.beats.map Beat.told = [(3000000, 3000000000), (6000000, 1705032704)]
      ∧ ¬TellsUptime benchDsdl m.2 := by
  obtain ⟨xs, m, hrun, hm⟩ := evalsTo_run World.Passes (benchWorld_answers 1000000000000)
    (show evalsTo (fun _ => task benchDsdl) (benchWorld 1000000000000) 1 [(), ()]
      (init benchDsdl, ⟨0, 0, []⟩)
      (fun _ m => m.2.beats.map Beat.told == [(3000000, 3000000000), (6000000, 1705032704)])
        = true
      by decide +kernel)
  rw [beq_iff_eq] at hm
  refine ⟨xs, m, hrun, hm, fun h => ?_⟩
  have htold : ∀ p ∈ m.2.beats.map Beat.told, p.2.toNat = p.1 :=
    List.forall_mem_map.mpr h.seconds
  rw [hm] at htold
  exact absurd (htold (3000000, 3000000000) (by simp)) (by decide)

end Heartbeat

end Cyphal

end LeosSdk
