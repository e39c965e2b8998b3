import Mathlib.Data.List.Forall2
import LeosSdk.CyphalRx

/-!
# Cyphal node: from the bus to libcanard

What is on the bus is an identifier of 11 or 29 bits, a classic or a CAN FD
frame, a 4-bit DLC and the data bytes; a classic frame may also be a remote
frame, which has a DLC and no data. `MCP251XFD_ReceiveMessageFromFIFO`
reports all this in `ControlFlags`, which the transmit path sets and
`canard_mcp_rx_process` never reads: it takes every identifier for one of
29 bits and every DLC for that of a CAN FD data frame. A classic frame with
a DLC above 8 has 8 data bytes and a remote frame has none, so libcanard is
given bytes of the receive buffer that were there before.

`BusMessage` is every message the controller can deliver: its fields say how
long an identifier of each width is and how many data bytes belong to a DLC
in each format. Whether the drain is faithful to a message is then a matter
of two lengths. The frame has `canFdLength` of the DLC, the message
`dataLength`, and the buffer begins with the data; the frame is the message
exactly if the two lengths agree (`payload_eq_iff`), and otherwise it is
longer than what was on the bus.
-/

namespace LeosSdk

namespace Cyphal

open Mcp251xfd (errOk)

/-! ## Messages on the bus -/

/-- The data length of a CAN FD frame. -/
def canFdLength : Nat → Nat
  | 9 => 12
  | 10 => 16
  | 11 => 20
  | 12 => 24
  | 13 => 32
  | 14 => 48
  | 15 => 64
  | dlc => dlc

/-- The data bytes a DLC stands for in each format. -/
def dlcLength (fd : Bool) (dlc : UInt8) : Nat :=
  if fd then canFdLength dlc.toNat else min dlc.toNat 8

/-- The DLC of a remote frame says how many bytes it asks for. -/
def dataLength (remote fd : Bool) (dlc : UInt8) : Nat :=
  if remote then 0 else dlcLength fd dlc

/-- A data frame of either format, or a remote frame, which only classic CAN
has. -/
structure BusMessage where
  extended : Bool
  id : UInt32
  remote : Bool
  fd : Bool
  dlc : UInt8
  data : List UInt8
  id_lt : id.toNat < if extended then 536870912 else 2048
  classic_of_remote : remote = true → fd = false
  dlc_lt : dlc.toNat < 16
  length_data : data.length = dataLength remote fd dlc

/-- A message the controller delivers, and what was in `payload[64]`. -/
structure Delivery where
  bus : BusMessage
  timestampUs : UInt32
  residue : List UInt8
  length_residue : residue.length = 64

/-- `MCP251XFD_ReceiveMessageFromFIFO` copies the data bytes and no more. -/
def Delivery.message (d : Delivery) : Message where
  messageId := d.bus.id
  dlc := d.bus.dlc
  payloadData := d.bus.data ++ d.residue.drop d.bus.data.length
  timestampUs := d.timestampUs

/-- What libcanard reads of a frame. -/
def Frame.payload (frame : Frame) : List UInt8 := frame.payloadData.take frame.payloadSize

/-- The frame is the message: 29 bits of identifier, and the data bytes
that were on the bus. -/
structure Faithful (m : BusMessage) (frame : Frame) : Prop where
  extended : m.extended = true
  id : frame.extendedCanId = m.id
  payload : frame.payload = m.data

/-- The DLC stands for the data bytes of the message when read as that of a
CAN FD data frame: a remote frame asks for none, and the DLC means the same
in both formats or the format is CAN FD. -/
def BusMessage.ReadsAsFd (m : BusMessage) : Prop :=
  (m.remote = true → m.dlc = 0) ∧ (m.fd = true ∨ m.dlc.toNat ≤ 8)

/-- The messages that are what `canard_mcp_rx_process` takes every message
for. -/
def BusMessage.Suited (m : BusMessage) : Prop := m.extended = true ∧ m.ReadsAsFd

theorem canFdLength_le {dlc : Nat} (h : dlc ≤ 8) : canFdLength dlc = dlc := by
  unfold canFdLength
  split <;> omega

theorem canFdLength_lt {dlc : Nat} (h : 8 < dlc) (hlt : dlc < 16) :
    8 < canFdLength dlc ∧ canFdLength dlc ≤ 64 := by
  unfold canFdLength
  split <;> omega

theorem canFdLength_le_64 {dlc : Nat} (hlt : dlc < 16) : canFdLength dlc ≤ 64 := by
  rcases Nat.lt_or_ge 8 dlc with h | h
  · exact (canFdLength_lt h hlt).2
  · rw [canFdLength_le h]
    omega

/-- No message has more data than the CAN FD length of its DLC, and it has as
much exactly if it may be read as a CAN FD data frame. -/
theorem length_data_le (m : BusMessage) : m.data.length ≤ canFdLength m.dlc.toNat := by
  rw [m.length_data, dataLength, dlcLength]
  split
  · exact Nat.zero_le _
  split
  · exact Nat.le_refl _
  · rcases Nat.lt_or_ge 8 m.dlc.toNat with h | h
    · exact Nat.le_trans (Nat.min_le_right ..) (canFdLength_lt h m.dlc_lt).1.le
    · rw [canFdLength_le h]
      exact Nat.min_le_left ..

theorem length_data_eq_iff (m : BusMessage) :
    m.data.length = canFdLength m.dlc.toNat ↔ m.ReadsAsFd := by
  have hzero : canFdLength m.dlc.toNat = 0 ↔ m.dlc = 0 := by
    refine ⟨fun h => ?_, fun h => by rw [h]; rfl⟩
    rcases Nat.lt_or_ge 8 m.dlc.toNat with h8 | h8
    · have := (canFdLength_lt h8 m.dlc_lt).1
      omega
    · rw [canFdLength_le h8] at h
      exact UInt8.toNat_inj.mp h
  rw [m.length_data, dataLength, dlcLength, BusMessage.ReadsAsFd]
  cases hremote : m.remote with
  | true =>
      -- a remote frame is a classic one without data
      rw [m.classic_of_remote hremote, if_pos rfl, eq_comm, hzero]
      exact ⟨fun h => ⟨fun _ => h, .inr (by rw [h]; decide)⟩, fun h => h.1 rfl⟩
  | false =>
      simp only [Bool.false_eq_true, if_false, false_implies, true_and]
      cases m.fd with
      | true => simp
      | false =>
          rcases Nat.lt_or_ge 8 m.dlc.toNat with h8 | h8
          · have := canFdLength_lt h8 m.dlc_lt
            simp
            omega
          · simp [canFdLength_le h8, h8]

theorem length_payloadData (d : Delivery) : d.message.payloadData.length = 64 := by
  have hle := Nat.le_trans (length_data_le d.bus) (canFdLength_le_64 d.bus.dlc_lt)
  rw [Delivery.message, List.length_append, List.length_drop, d.length_residue]
  omega

section Target

variable {T : RxTarget}

/-- What libcanard reads is as long as `MCP251XFD_DLCToByte` says, and the
data bytes are at the front of the buffer. -/
theorem payload_eq_iff (d : Delivery) (hdlc : T.dlcToByte d.bus.dlc true =
    canFdLength d.bus.dlc.toNat) :
    (T.rxFrame d.message).payload = d.bus.data ↔ d.bus.ReadsAsFd := by
  have hpayload : (T.rxFrame d.message).payload =
      d.message.payloadData.take (canFdLength d.bus.dlc.toNat) := by
    rw [Frame.payload, RxTarget.rxFrame, ← hdlc]
    rfl
  rw [hpayload, ← length_data_eq_iff]
  constructor
  · intro h
    have hlength := congrArg List.length h
    rw [List.length_take, length_payloadData,
      Nat.min_eq_left (canFdLength_le_64 d.bus.dlc_lt)] at hlength
    exact hlength.symm
  · intro h
    rw [← h, Delivery.message, List.take_left]

theorem faithful_iff (d : Delivery)
    (hdlc : T.dlcToByte d.bus.dlc true = canFdLength d.bus.dlc.toNat) :
    Faithful d.bus (T.rxFrame d.message) ↔ d.bus.Suited := by
  have hpayload := payload_eq_iff d hdlc
  exact ⟨fun h => ⟨h.extended, hpayload.mp h.payload⟩,
    fun h => ⟨h.1, rfl, hpayload.mpr h.2⟩⟩

/-! ## Draining -/

/-- What is yet to be delivered, oldest first; any call may fail, and the
FIFO may be found empty while messages are on their way. -/
def busEnv : Env (List Delivery) RxCall RxAnswer
  | ds, .receiveMessageFromFifo _ _, a, ds' =>
    Prod.fst a ≠ errOk ∧ ds' = ds ∨ ∃ d, ds = d :: ds' ∧ a = (errOk, d.message)
  | ds, _, _, ds' => ds' = ds

/-- A frame handed to `canardRxAccept`. -/
def handedFrame : Event RxCall RxAnswer → Option Frame
  | ⟨.canardRxAccept _ frame _, _⟩ => some frame
  | _ => none

variable {ds ds' : List Delivery} {n : UInt32} {tr : List (Event RxCall RxAnswer)}

theorem checkMore_hands : Ensures busEnv (checkMore n)
    (fun tr _ _ ds' => ds' = ds ∧ tr.filterMap handedFrame = []) () ds := by
  refine ensures_checkMore fun result st _ he => ?_
  exact ⟨he, rfl⟩

/-- An iteration takes no message, or one and hands it over as a frame. -/
theorem rxLoop_hands : Ensures busEnv (rxLoop T n) (fun tr _ _ ds' =>
    ds' = ds ∧ tr.filterMap handedFrame = []
      ∨ ∃ d, ds = d :: ds' ∧ tr.filterMap handedFrame = [T.rxFrame d.message]) () ds := by
  refine ensures_rxLoop (fun result msg ds₁ hne h => ?_) fun msg ds₁ a ds₂ h ha tr htr => ?_
  · rcases h with ⟨-, rfl⟩ | ⟨d, -, heq⟩
    · exact .inl ⟨rfl, rfl⟩
    · exact absurd (Prod.mk.inj heq).1 hne
  · rcases h with ⟨hne, -⟩ | ⟨d, rfl, heq⟩
    · exact absurd rfl hne
    obtain ⟨-, rfl⟩ := Prod.mk.inj heq
    obtain rfl : ds₂ = ds₁ := ha
    have hone : tr.filterMap handedFrame = [T.rxFrame d.message] := by rw [htr]; rfl
    refine ⟨?_, fun _ _ => .inr ⟨d, rfl, hone⟩, fun _ _ => checkMore_hands.mono ?_⟩
    · rintro - _ rfl _ rfl
      refine checkMore_hands.mono ?_
      rintro tr' _ _ _ ⟨rfl, hnone⟩
      refine .inr ⟨d, rfl, ?_⟩
      rw [List.filterMap_append, hone, List.filterMap_cons_none rfl,
        List.filterMap_cons_none rfl, hnone, List.append_nil]
    · rintro tr' _ _ _ ⟨rfl, hnone⟩
      exact .inr ⟨d, rfl, by rw [List.filterMap_append, hone, hnone, List.append_nil]⟩

/-- Some messages were taken, and handed over in order. -/
def Hands (T : RxTarget) (ds : List Delivery) (tr : List (Event RxCall RxAnswer))
    (ds' : List Delivery) : Prop :=
  ∃ taken, ds = taken ++ ds'
    ∧ tr.filterMap handedFrame = taken.map fun d => T.rxFrame d.message

theorem rxLoops_hands : Ensures busEnv (Prog.iter (rxLoop T) 0)
    (fun tr _ _ ds' => Hands T ds tr ds') () ds := by
  refine ensures_iter (fun _ tr _ ds₁ => Hands T ds tr ds₁) ?_ ⟨[], rfl, rfl⟩
  intro n tr _ ds₁ hI
  obtain ⟨taken, rfl, htr⟩ := hI
  refine rxLoop_hands.mono ?_
  intro tr' r _ ds' h
  have hands : Hands T (taken ++ ds₁) (tr ++ tr') ds' := by
    rcases h with ⟨rfl, hnone⟩ | ⟨d, rfl, hone⟩
    · exact ⟨taken, rfl, by rw [List.filterMap_append, hnone, htr, List.append_nil]⟩
    · refine ⟨taken ++ [d], by simp, ?_⟩
      rw [List.filterMap_append, hone, htr, List.map_append]
      rfl
  exact ⟨fun _ _ => hands, fun _ _ => hands⟩

theorem rxProcess_hands : Ensures busEnv (rxProcess T)
    (fun tr _ _ ds' => Hands T ds tr ds') () ds := by
  refine ensures_rxProcess fun result st ds₁ he => ?_
  obtain rfl : ds₁ = ds := he
  exact ⟨⟨[], rfl, rfl⟩, rxLoops_hands⟩

/-- The messages taken from the controller and the frames handed to
`canardRxAccept` correspond one to one, and each frame is its message,
exactly if each message has a 29-bit identifier, is a CAN FD frame or has a
DLC of at most 8, and is no remote frame with a DLC other than 0. The
correspondence is `rxProcess_hands`; given it, the two sides agree message
by message. -/
theorem frames_faithful_iff (hdlc : ∀ dlc : UInt8, dlc.toNat < 16 →
      T.dlcToByte dlc true = canFdLength dlc.toNat)
    (hx : Exec busEnv (rxProcess T) () ds tr n () ds') :
    ∃ taken, ds = taken ++ ds'
      ∧ (List.Forall₂ (fun d frame => Faithful d.bus frame) taken (tr.filterMap handedFrame)
        ↔ ∀ d ∈ taken, d.bus.Suited) := by
  obtain ⟨taken, hds, htr⟩ := rxProcess_hands _ _ _ _ hx
  refine ⟨taken, hds, ?_⟩
  rw [htr, List.forall₂_map_right_iff, List.forall₂_same]
  exact forall₂_congr fun d _ => faithful_iff d (hdlc d.bus.dlc d.bus.dlc_lt)

end Target

/-! ## Frames of other nodes on the bench -/

def benchBus (ds : List Delivery) : (i : RxCall) → RxAnswer i × List Delivery
  | .getFifoStatus _ => ((errOk, ⟨!ds.isEmpty⟩), ds)
  | .receiveMessageFromFifo _ _ =>
    match ds with
    | [] => ((1, default), [])
    | d :: ds => ((errOk, d.message), ds)
  | .canardRxAccept _ _ _ => (⟨0, default, none⟩, ds)
  | .subscriptionDispatch _ _ => ((), ds)
  | .deallocate _ _ => ((), ds)

theorem benchBus_answers : Answers benchBus busEnv := by
  intro ds i
  cases i with
  | receiveMessageFromFifo =>
      cases ds with
      | nil => exact .inl ⟨(by decide : (1 : Mcp251xfd.ErrorResult) ≠ errOk), rfl⟩
      | cons d ds => exact .inr ⟨d, rfl, rfl⟩
  | _ => rfl

/-- `MCP251XFD_DLCToByte`. -/
def benchDlc : RxTarget where
  dlcToByte dlc isCanFd := dlcLength isCanFd dlc
  signedResult := false

/-- A message into a buffer of `0xAA`. -/
def BusMessage.deliver (m : BusMessage) : Delivery where
  bus := m
  timestampUs := 0
  residue := List.replicate 64 0xAA
  length_residue := rfl

def canFdFrame : BusMessage where
  extended := true
  id := 0x1234567
  remote := false
  fd := true
  dlc := 9
  data := List.replicate 12 7
  id_lt := by decide
  classic_of_remote h := by cases h
  dlc_lt := by decide
  length_data := by decide

/-- Eight bytes with a DLC of 9. -/
def classicFrame : BusMessage where
  extended := true
  id := 0x1234567
  remote := false
  fd := false
  dlc := 9
  data := List.replicate 8 7
  id_lt := by decide
  classic_of_remote h := by cases h
  dlc_lt := by decide
  length_data := by decide

/-- A request for four bytes. -/
def remoteFrame : BusMessage where
  extended := true
  id := 0x1234567
  remote := true
  fd := false
  dlc := 4
  data := []
  id_lt := by decide
  classic_of_remote _ := rfl
  dlc_lt := by decide
  length_data := by decide

def baseFrame : BusMessage where
  extended := false
  id := 0x123
  remote := false
  fd := true
  dlc := 8
  data := List.replicate 8 7
  id_lt := by decide
  classic_of_remote h := by cases h
  dlc_lt := by decide
  length_data := by decide

/-- A CAN FD frame drained from a FIFO that holds nothing else is handed on as
it was on the bus. -/
theorem frames_faithful_iff_canFd : ∃ (tr : _) (n : _),
    Exec busEnv (rxProcess benchDlc) () [canFdFrame.deliver] tr n () []
      ∧ List.Forall₂ (fun d frame => Faithful d.bus frame) [canFdFrame.deliver]
        (tr.filterMap handedFrame) := by
  have heval : ∃ tr n, (rxProcess benchDlc).eval benchBus 2 ((), [canFdFrame.deliver])
      = some (tr, n, ((), [])) := ⟨_, _, rfl⟩
  obtain ⟨tr, n, heval⟩ := heval
  have hx := Prog.eval_exec benchBus_answers heval
  obtain ⟨taken, htaken, hiff⟩ := frames_faithful_iff (fun _ _ => rfl) hx
  rw [List.append_nil] at htaken
  subst htaken
  refine ⟨tr, n, hx, hiff.mpr fun d hd => ?_⟩
  obtain rfl := List.mem_singleton.mp hd
  exact ⟨rfl, ⟨fun h => (by cases h), .inl rfl⟩⟩

/-- A classic frame, a remote frame and a frame with an 11-bit identifier:
the first comes with four bytes of the buffer, the second is four bytes of
it, and the third comes as a 29-bit identifier. -/
theorem unsuited_frames_handed : ∃ (tr : _) (n : _) (frame frame' frame'' : Frame),
    Exec busEnv (rxProcess benchDlc) ()
        [classicFrame.deliver, remoteFrame.deliver, baseFrame.deliver] tr n () []
      ∧ tr.filterMap handedFrame = [frame, frame', frame'']
      ∧ frame.payload = List.replicate 8 7 ++ List.replicate 4 0xAA
      ∧ frame'.payload = List.replicate 4 0xAA
      ∧ ¬Faithful classicFrame frame ∧ ¬Faithful remoteFrame frame'
      ∧ ¬Faithful baseFrame frame'' := by
  have heval : ∃ tr n frame frame' frame'', (rxProcess benchDlc).eval benchBus 4
      ((), [classicFrame.deliver, remoteFrame.deliver, baseFrame.deliver]) = some (tr, n, ((), []))
      ∧ tr.filterMap handedFrame = [frame, frame', frame'']
      ∧ frame.payload = List.replicate 8 7 ++ List.replicate 4 0xAA
      ∧ frame'.payload = List.replicate 4 0xAA :=
    ⟨_, _, _, _, _, rfl, rfl, by decide, by decide⟩
  obtain ⟨tr, n, frame, frame', frame'', heval, hframes, hpayload, hpayload'⟩ := heval
  refine ⟨tr, n, frame, frame', frame'', Prog.eval_exec benchBus_answers heval, hframes,
    hpayload, hpayload', fun h => ?_, fun h => ?_, fun h => by cases h.extended⟩
  · have hdata := h.payload
    rw [hpayload] at hdata
    exact absurd hdata (by decide)
  · have hdata := h.payload
    rw [hpayload'] at hdata
    exact absurd hdata (by decide)

end Cyphal

end LeosSdk
