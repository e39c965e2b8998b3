import LeosSdk.Medium
import LeosSdk.RadioChip
import LeosSdk.RadioPort

/-!
# SX126x: the data buffer and the air

Any number of stations on one frequency. A chip has one data buffer of 256
bytes for both directions: `leos_sx126x_start_tx` loads a packet at the
transmit base, which `leos_sx126x_apply_config` sets to 0, and a packet
received meanwhile may be stored anywhere, over what was loaded. A driver call
that fails may have taken effect or not, the air may lose packets but does not
alter them, and radio events and other stations' transmissions fall between
any two calls.

A station's chip (`Modem`) carries what the station knows of the air: the
history so far and how far its receiver got. Packets of the others are
appended by events, so a station can be studied alone, and `RadioLink` puts
the stations together again by giving them one history.

`Books` are kept of what a station has sent and what its driver has handed
over: what it sent is its part of the air, what was handed over is a
subsequence of the others' part up to a position, and the packet in the
buffer, if RX_DONE stands for one, lies behind that position. Every call but
loading and sending the buffer keeps them (`Books.call`), by cases on the
call; the run of a program follows by the trace rule of `ProgLogic`
(`Books.exec`). The transmit base has an invariant of its own: nothing moves
it after `apply_config`.
-/

namespace LeosSdk

namespace Sx126x

open Medium (sentBy sentByOthers sentBy_own sentBy_other sentByOthers_snoc sentByOthers_take_mono)

/-! ## The data buffer -/

abbrev Memory := Fin 256 → UInt8

/-- Bytes written from `start` on. Addresses wrap at the end of the buffer. -/
def Memory.store (mem : Memory) (start : UInt8) (data : List UInt8) : Memory :=
  fun i => (data[(i.val + 256 - start.toNat) % 256]?).getD (mem i)

def Memory.load (mem : Memory) (start : UInt8) : Buf :=
  fun i => mem (Fin.ofNat 256 (start.toNat + i))

theorem load_store (mem : Memory) (start : UInt8) {data : List UInt8} {i : Nat}
    (hi : i < data.length) (hlen : data.length ≤ 256) :
    (mem.store start data).load start i = data[i] := by
  have hstart : start.toNat < 256 := start.toNat_lt
  have hindex : ((start.toNat + i) % 256 + 256 - start.toNat) % 256 = i := by omega
  simp [Memory.load, Memory.store, Fin.ofNat, hindex, hi]

theorem range_load_store (mem : Memory) (start : UInt8) {data : List UInt8}
    (hlen : data.length ≤ 256) :
    (List.range data.length).map ((mem.store start data).load start) = data := by
  refine List.ext_getElem (by simp) fun i h₁ h₂ => ?_
  rw [List.getElem_map, List.getElem_range, load_store mem start h₂ hlen]

/-- Every packet sent, with its station, oldest first. -/
abbrev Air (K : Type) := Medium K (List UInt8)

/-! ## A station's chip -/

/-- `air` is what the station knows of the air, `heard` how far its receiver
got. -/
structure Modem (K : Type) where
  latch : Dio1Latch
  op : ChipMode
  enabled : IrqMask
  /-- The RX_DONE status bit. -/
  rxDone : Bool
  memory : Memory
  txBase : UInt8
  payloadLen : UInt8
  rxStart : UInt8
  rxLen : UInt8
  heard : Nat
  air : Air K

/-- What `sx1262_set_tx` sends. -/
def Modem.outgoing {K : Type} (m : Modem K) : List UInt8 :=
  (List.range m.payloadLen.toNat).map (m.memory.load m.txBase)

/-- What the driver reads of the last packet received. -/
def Modem.incoming {K : Type} (m : Modem K) : Buf × UInt16 :=
  (m.memory.load m.rxStart, m.rxLen.toUInt16)

/-- The packet that is, as `leos_sx126x_latch_rx` keeps it. -/
def Modem.received {K : Type} (m : Modem K) : List UInt8 := payload m.incoming.1 m.incoming.2

variable {K : Type}

/-- A packet is received: stored at some address, whoever reads or wrote
there. -/
def Modem.receive (m : Modem K) (i : Nat) (start : UInt8) (p : List UInt8) : Modem K :=
  { m with
    memory := m.memory.store start p
    rxStart := start
    rxLen := p.length.toUInt8
    heard := i + 1
    rxDone := m.rxDone || m.enabled .rxDone }

/-- What is read back of a packet just received is the packet, wherever the
chip put it. -/
theorem receive_received (m : Modem K) (i : Nat) (start : UInt8) {p : List UInt8}
    (hlen : p.length < 256) : (m.receive i start p).received = p := by
  have hclamp : min p.length.toUInt8.toUInt16.toNat maxPayloadLen = p.length := by
    simp [maxPayloadLen]
    omega
  show payload ((m.memory.store start p).load start) p.length.toUInt8.toUInt16 = p
  rw [payload, hclamp]
  exact range_load_store m.memory start (by omega)

inductive RadioEvent (k : K) (m : Modem K) : Modem K → Prop
  | interrupt (nowMs : UInt64) :
      RadioEvent k m { m with latch := handleDio1Irq true nowMs m.latch }
  | aired {j : K} (hj : j ≠ k) (p : List UInt8) : RadioEvent k m { m with air := m.air ++ [(j, p)] }
  | received {i : Nat} {j : K} {p : List UInt8} (start : UInt8) (hop : m.op = .rx)
      (hi : m.heard ≤ i) (hp : m.air[i]? = some (j, p)) (hj : j ≠ k) (hlen : p.length < 256) :
      RadioEvent k m (m.receive i start p)
  | txEnded (hop : m.op = .tx) : RadioEvent k m { m with op := .standby }

/-- The driver of station `k`. Resetting the chip leaves it in standby with
nothing received. -/
def stationEnv (k : K) : Env (Modem K) Call Answer
  | m, .irqPending, r, m' => r = m.latch.irqPending ∧ m' = m
  | m, .setIrqPending b, _, m' => m' = { m with latch := { m.latch with irqPending := b } }
  | m, .setIrqLatchedAtMs ms, _, m' =>
    m' = { m with latch := { m.latch with irqLatchedAtMs := ms } }
  | m, .cmd (.setDioIrqParams irqMask _ _ _), rc, m' =>
    m' = { m with enabled := irqMask } ∨ rc ≠ (0 : UInt8) ∧ m' = m
  | m, .cmd (.clearIrqStatus mask), rc, m' =>
    m' = { m with rxDone := m.rxDone && !mask .rxDone } ∨ rc ≠ (0 : UInt8) ∧ m' = m
  | m, .cmd (.setStandby _), rc, m' =>
    m' = { m with op := .standby } ∨ rc ≠ (0 : UInt8) ∧ m' = m
  | m, .cmd .continuousReceive, rc, m' => m' = { m with op := .rx } ∨ rc ≠ (0 : UInt8) ∧ m' = m
  | m, .cmd (.setBufferBaseAddress tx _), rc, m' =>
    m' = { m with txBase := tx } ∨ rc ≠ (0 : UInt8) ∧ m' = m
  | m, .cmd (.setLoraPacketParamsExplicit _ n _ _), rc, m' =>
    m' = { m with payloadLen := n } ∨ rc ≠ (0 : UInt8) ∧ m' = m
  | m, .cmd (.writeBuffer offset data), rc, m' =>
    m' = { m with memory := m.memory.store offset data }
      ∨ rc ≠ (0 : UInt8) ∧ ∃ memory, m' = { m with memory := memory }
  | m, .cmd (.setTx _), rc, m' =>
    m' = { m with op := .tx, air := m.air ++ [(k, m.outgoing)] } ∨ rc ≠ (0 : UInt8) ∧ m' = m
  | m, .cmd .init, _, m' | m, .cmd .deinit, _, m' =>
    ∃ enabled memory txBase payloadLen, m' = { m with
      op := .standby, rxDone := false, enabled := enabled, memory := memory
      txBase := txBase, payloadLen := payloadLen }
  | m, .irqHandler, a, m' =>
    a.1.filterMap Report.packet = [] ∧ (m' = m ∨ m' = { m with rxDone := false })
      ∨ m.rxDone = true ∧ a.1.filterMap Report.packet = [m.incoming]
        ∧ m' = { m with rxDone := false }
  | m, _, _, m' => m' = m

abbrev onAir (k : K) : Env (Modem K) Call Answer := interleave (RadioEvent k) (stationEnv k)

abbrev StationStep (k : K) : Ctx × Modem K → RadioLabel → Ctx × Modem K → Prop :=
  Session program (onAir k) (RadioEvent k)

/-! ## The transmit base -/

variable {k : K} {m m' : Modem K}

/-- Calls that leave the transmit base alone. -/
def Call.KeepsBase : Call → Prop
  | .cmd (.setBufferBaseAddress ..) | .cmd .init | .cmd .deinit => False
  | _ => True

theorem RadioEvent.txBase (he : RadioEvent k m m') : m'.txBase = m.txBase := by
  cases he <;> rfl

theorem base_call {i : Call} {r : Answer i} {base : UInt8} (hi : i.KeepsBase)
    (hm : m.txBase = base) (hc : onAir k m i r m') : m'.txBase = base := by
  obtain ⟨m₁, ht, hc⟩ := hc
  have h₁ : m₁.txBase = base :=
    ticks_preserve (J := (·.txBase = base)) (fun _ _ he h => he.txBase.trans h) ht hm
  cases i with
  | cmd c =>
      cases c with
      | setBufferBaseAddress | init | deinit => exact hi.elim
      | writeBuffer => rcases hc with rfl | ⟨-, _, rfl⟩ <;> exact h₁
      | setDioIrqParams | clearIrqStatus | setStandby | continuousReceive
      | setLoraPacketParamsExplicit | setTx => rcases hc with rfl | ⟨-, rfl⟩ <;> exact h₁
      | _ =>
          obtain rfl : m' = m₁ := hc
          exact h₁
  | irqHandler => rcases hc with ⟨-, rfl | rfl⟩ | ⟨-, -, rfl⟩ <;> exact h₁
  | irqPending =>
      obtain ⟨-, rfl⟩ := hc
      exact h₁
  | setIrqPending | setIrqLatchedAtMs =>
      obtain rfl := hc
      exact h₁
  | _ =>
      obtain rfl : m' = m₁ := hc
      exact h₁

theorem base_exec {α : Type} {p : Api α} {s s' : Ctx} {tr : List (Event Call Answer)} {a : α}
    (hp : p.CallsOnly Call.KeepsBase) (hx : Exec (onAir k) p s m tr a s' m') :
    m'.txBase = m.txBase :=
  hp.keeps (J := (·.txBase = m.txBase)) (fun _ _ _ _ hi hm hr => base_call hi hm hr) rfl _ _ _ _ hx

/-- What the rest of a chain establishes by success, the chain does. -/
theorem ensures_thenOk_rest {ε : Type} {E : Env ε Call Answer} {p q : Api RadioStatus}
    {J : ε → Prop} {s : Ctx} {e : ε}
    (hq : ∀ s e, Ensures E q (fun _ r _ e' => r = .ok → J e') s e) :
    Ensures E (thenOk p q) (fun _ r _ e' => r = .ok → J e') s e := by
  rw [ensures_thenOk]
  exact fun _ _ s' e' _ => ⟨fun _ => hq s' e', fun hr hok => (hr hok).elim⟩

/-- A register read, checked, and written back. -/
theorem callsOnly_readThen {P : Call → Prop} {i : Call} {rc : Answer i → UInt8}
    {c : Answer i → Cmd} (hi : P i) (hc : ∀ r, P (.cmd (c r))) :
    (call i >>= fun r =>
      if mapStatus (rc r) ≠ .ok then pure (mapStatus (rc r)) else driver (c r)).CallsOnly P := by
  refine Prog.callsOnly_bind ⟨hi, fun _ => trivial⟩ fun r => ?_
  split
  · trivial
  · exact callsOnly_driver (hc r)

theorem callsOnly_applyTcxo {P : Call → Prop} {cfg : RadioConfig}
    (ht : ∀ us, P (.timeoutConvertToRegister us))
    (hc : ∀ voltage delay, P (.cmd (.setDio3AsTcxoCtrl voltage delay))) :
    (applyTcxo cfg).CallsOnly P := by
  unfold applyTcxo
  split
  · split
    · trivial
    · refine Prog.callsOnly_bind ⟨ht _, fun _ => trivial⟩ fun r => ?_
      dsimp only
      split
      · trivial
      · exact callsOnly_driver (hc ..)
  · trivial

theorem callsOnly_applyRfSwitch {P : Call → Prop} {cfg : RadioConfig}
    (h : P (.cmd (.setDio2AsRfSwitchCtrl true))) : (applyRfSwitch cfg).CallsOnly P := by
  unfold applyRfSwitch
  split
  · exact callsOnly_driver h
  · trivial

/-- After `sx1262_set_buffer_base_address` nothing moves the base. -/
theorem applyConfig_base {s : Ctx} :
    Ensures (onAir k) applyConfig (fun _ r _ m' => r = .ok → m'.txBase = 0) s m := by
  simp only [applyConfig, ensures_bind, ensures_read]
  split
  · iterate 13 refine ensures_thenOk_rest fun _ _ => ?_
    rw [ensures_thenOk, ensures_driver]
    intro rc m₁ hrc
    refine ⟨fun hok => ?_, fun hr hok => (hr hok).elim⟩
    obtain ⟨m₀, -, rfl | ⟨hne, -⟩⟩ := hrc
    · refine (Prog.CallsOnly.keeps (P := Call.KeepsBase) (J := (·.txBase = 0))
        (fun _ _ _ _ hi hm hr => base_call hi hm hr) ?_ rfl).mono fun _ _ _ _ h _ => h
      repeat' first
        | exact callsOnly_driver trivial
        | exact callsOnly_applyPacketParams fun _ _ _ _ => trivial
        | exact callsOnly_readThen trivial fun _ => trivial
        | refine callsOnly_thenOk ?_ ?_
    · exact (hne (mapStatus_ok.mp hok)).elim
  · rw [ensures_pure]
    intro h
    cases h

theorem init_base {s : Ctx} (hwCfg : Option RadioHwConfig) (cfg : Option RadioConfig)
    (hbase : s.initialized = true → m.txBase = 0) :
    Ensures (onAir k) (init hwCfg cfg) (fun _ _ s' m' => s'.initialized = true → m'.txBase = 0)
      s m := by
  rcases hwCfg with _ | hwCfg
  · simpa [init] using hbase
  rcases cfg with _ | cfg
  · simpa [init] using hbase
  simp only [init, ensures_bind, ensures_read, ensures_ite, ensures_pure, ensures_modify,
    ensures_ask, ensures_driver, not_not]
  refine ⟨fun _ => hbase, fun hi _ m₁ _ _ m₂ _ rc m₃ _ => ⟨fun _ hinit => ?_, fun _ => ?_⟩⟩
  · exact absurd hinit (by simpa [Ctx.reset] using hi)
  · refine applyConfig_base.mono fun tr status s₄ m₄ hok => ?_
    exact ⟨fun _ _ m₅ _ hinit => Bool.noConfusion hinit, fun hstatus _ => hok hstatus⟩

/-! ## The books of a station -/

/-- The packets of some callback invocations. -/
def packetsOf (reports : List Report) : List (List UInt8) :=
  (reports.filterMap Report.packet).map fun p => payload p.1 p.2

theorem packetsOf_append (reports reports' : List Report) :
    packetsOf (reports ++ reports') = packetsOf reports ++ packetsOf reports' := by
  simp [packetsOf]

/-- The receiver's status stands for packet `i` of the air, which is in the
buffer. -/
structure Received.Latest (k : K) (m : Modem K) (i : Nat) (j : K) : Prop where
  heard : m.heard = i + 1
  aired : m.air[i]? = some (j, m.received)
  other : j ≠ k

/-- What the station has put on the air, and what its driver has handed
over: packets of the others among the first `n`, in order. -/
structure Books [DecidableEq K] (k : K) (sent got : List (List UInt8)) (m : Modem K) : Prop where
  own : sentBy k m.air = sent
  heard_le : m.heard ≤ m.air.length
  ledger : ∃ n, n ≤ m.heard ∧ got.Sublist (sentByOthers k (m.air.take n))
    ∧ (m.rxDone = true → ∃ i j, n ≤ i ∧ Received.Latest k m i j)

variable [DecidableEq K] {sent got : List (List UInt8)}

/-- What was heard stays where it is on an air that grows. -/
theorem Books.grow (h : Books k sent got m) (x : K × List UInt8) :
    Books k (sentBy k (m.air ++ [x])) got { m with air := m.air ++ [x] } := by
  obtain ⟨-, hle, n, hn, hgot, hdone⟩ := h
  refine ⟨rfl, by simp; omega, n, hn, ?_, fun hrx => ?_⟩
  · rw [List.take_append_of_le_length (by omega)]
    exact hgot
  · obtain ⟨i, j, hi, hheard, haired, hother⟩ := hdone hrx
    have hlt : i < m.air.length := by omega
    exact ⟨i, j, hi, hheard, (List.getElem?_append_left hlt).trans haired, hother⟩

theorem Books.aired {j : K} (h : Books k sent got m) (hj : j ≠ k) (p : List UInt8) :
    Books k sent got { m with air := m.air ++ [(j, p)] } := by
  have := h.grow (j, p)
  rwa [sentBy_other hj, h.own] at this

theorem Books.receive {i : Nat} {j : K} {p : List UInt8} (h : Books k sent got m)
    (start : UInt8) (hi : m.heard ≤ i) (hp : m.air[i]? = some (j, p)) (hj : j ≠ k)
    (hlen : p.length < 256) : Books k sent got (m.receive i start p) := by
  obtain ⟨hown, hle, n, hn, hgot, -⟩ := h
  have hlt : i < m.air.length := (List.getElem?_eq_some_iff.mp hp).1
  refine ⟨hown, hlt, n, Nat.le_trans hn (Nat.le_succ_of_le hi), hgot, fun _ => ?_⟩
  exact ⟨i, j, Nat.le_trans hn hi, rfl, by rw [receive_received m i start hlen]; exact hp, hj⟩

/-- The books only speak of the air, the receiver's position, and the packet
RX_DONE stands for. What leaves these alone keeps the books. -/
theorem Books.same (h : Books k sent got m) (hair : m'.air = m.air) (hheard : m'.heard = m.heard)
    (hdone : m'.rxDone = true → m.rxDone = true ∧ m'.received = m.received) :
    Books k sent got m' := by
  obtain ⟨hown, hle, n, hn, hgot, hlatest⟩ := h
  refine ⟨hair ▸ hown, by rw [hair, hheard]; exact hle, n, hheard ▸ hn, hair ▸ hgot, ?_⟩
  intro hrx
  obtain ⟨hrx₀, hin⟩ := hdone hrx
  obtain ⟨i, j, hi, hheard₀, haired, hother⟩ := hlatest hrx₀
  exact ⟨i, j, hi, hheard.trans hheard₀, by rw [hair, hin]; exact haired, hother⟩

theorem Books.event (h : Books k sent got m) (he : RadioEvent k m m') : Books k sent got m' := by
  cases he with
  | interrupt nowMs => exact h.same rfl rfl fun hrx => ⟨hrx, rfl⟩
  | aired hj p => exact h.aired hj p
  | received start hop hi hp hj hlen => exact h.receive start hi hp hj hlen
  | txEnded hop => exact h.same rfl rfl fun hrx => ⟨hrx, rfl⟩

theorem Books.send (h : Books k sent got m) (p : List UInt8) :
    Books k (sent ++ [p]) got { m with op := .tx, air := m.air ++ [(k, p)] } := by
  have := h.grow (k, p)
  rw [sentBy_own, h.own] at this
  exact this.same rfl rfl fun hrx => ⟨hrx, rfl⟩

/-- The driver hands over the packet the status stands for. It lies behind
everything handed over before, so the order is kept and none is handed over
twice. -/
theorem Books.hand (h : Books k sent got m) (hrx : m.rxDone = true) :
    Books k sent (got ++ [m.received]) { m with rxDone := false } := by
  obtain ⟨hown, hle, n, hn, hgot, hlatest⟩ := h
  obtain ⟨i, j, hi, hheard, haired, hother⟩ := hlatest hrx
  refine ⟨hown, hle, m.heard, Nat.le_refl _, ?_, fun hrx => by cases hrx⟩
  show (got ++ _).Sublist (sentByOthers k (m.air.take m.heard))
  rw [hheard, sentByOthers_snoc haired hother]
  exact (hgot.trans (sentByOthers_take_mono hi)).append (List.Sublist.refl _)

/-- Calls that neither load the buffer nor send it. -/
def Call.KeepsBuffer : Call → Prop
  | .cmd (.writeBuffer ..) | .cmd (.setTx _) => False
  | _ => True

/-- Step lemma: one call, with the radio events before it, keeps the books and
adds to what was handed over just the packets it reports. -/
theorem Books.call {i : Call} {r : Answer i} (h : Books k sent got m) (hi : i.KeepsBuffer)
    (hc : onAir k m i r m') : Books k sent (got ++ packetsOf (eventReports ⟨i, r⟩)) m' := by
  obtain ⟨m₁, ht, hc⟩ := hc
  have h₁ : Books k sent got m₁ :=
    ticks_preserve (J := Books k sent got) (fun _ _ he h => h.event he) ht h
  have hsilent : eventReports ⟨i, r⟩ = [] → Books k sent got m' →
      Books k sent (got ++ packetsOf (eventReports ⟨i, r⟩)) m' := by
    intro hnone h'
    rw [hnone]
    simpa [packetsOf] using h'
  cases i with
  | cmd c =>
      refine hsilent rfl ?_
      cases c with
      | writeBuffer | setTx => exact hi.elim
      | init | deinit =>
          obtain ⟨_, _, _, _, rfl⟩ := hc
          exact h₁.same rfl rfl fun hrx => by cases hrx
      | clearIrqStatus mask =>
          rcases hc with rfl | ⟨-, rfl⟩
          · refine h₁.same rfl rfl fun hrx => ⟨?_, rfl⟩
            exact (Bool.and_eq_true_iff.mp hrx).1
          · exact h₁
      | setDioIrqParams | setStandby | continuousReceive | setBufferBaseAddress
      | setLoraPacketParamsExplicit =>
          rcases hc with rfl | ⟨-, rfl⟩
          · exact h₁.same rfl rfl fun hrx => ⟨hrx, rfl⟩
          · exact h₁
      | _ =>
          obtain rfl : m' = m₁ := hc
          exact h₁
  | irqHandler =>
      have hreports : packetsOf (eventReports ⟨.irqHandler, r⟩) =
          (r.1.filterMap Report.packet).map fun p => payload p.1 p.2 := rfl
      rcases hc with ⟨hnone, rfl | rfl⟩ | ⟨hrx, hone, rfl⟩
      · rw [hreports, hnone]
        simpa using h₁
      · rw [hreports, hnone]
        have : Books k sent got { m₁ with rxDone := false } :=
          h₁.same rfl rfl fun hrx => by cases hrx
        simpa using this
      · rw [hreports, hone]
        exact h₁.hand hrx
  | irqPending =>
      obtain ⟨-, rfl⟩ := hc
      exact hsilent rfl h₁
  | setIrqPending | setIrqLatchedAtMs =>
      obtain rfl := hc
      exact hsilent rfl (h₁.same rfl rfl fun hrx => ⟨hrx, rfl⟩)
  | _ =>
      obtain rfl : m' = m₁ := hc
      exact hsilent rfl h₁

/-- A program without such calls: by the trace rule, with the books of what
was handed over so far as the assertion. -/
theorem Books.exec {α : Type} {p : Api α} {s s' : Ctx} {tr : List (Event Call Answer)} {a : α}
    (h : Books k sent got m) (hp : p.CallsOnly Call.KeepsBuffer)
    (hx : Exec (onAir k) p s m tr a s' m') : Books k sent (got ++ packetsOf (reportsOf tr)) m' := by
  have hstart : Books k sent (got ++ packetsOf (reportsOf ([] : List (Event Call Answer)))) m := by
    simpa [reportsOf, packetsOf] using h
  have := Prog.CallsOnly.traced (J := fun tr m => Books k sent (got ++ packetsOf (reportsOf tr)) m)
    (fun tr e i r e' hi h hr => ?_) hx hp hstart
  · simpa using this
  · have := h.call hi hr
    rw [reportsOf_append, packetsOf_append, ← List.append_assoc]
    simpa [reportsOf] using this

theorem keepsBuffer_applyConfig : applyConfig.CallsOnly Call.KeepsBuffer := by
  refine Prog.callsOnly_bind (fun _ => trivial) fun ctx => ?_
  dsimp only
  split
  · repeat' first
      | exact callsOnly_driver trivial
      | exact callsOnly_applyPacketParams fun _ _ _ _ => trivial
      | exact callsOnly_readThen trivial fun _ => trivial
      | refine callsOnly_thenOk ?_ ?_
    · exact callsOnly_applyTcxo (fun _ => trivial) fun _ _ => trivial
    · exact callsOnly_applyRfSwitch trivial
  · trivial

theorem keepsBuffer_init (hwCfg : Option RadioHwConfig) (cfg : Option RadioConfig) :
    (init hwCfg cfg).CallsOnly Call.KeepsBuffer := by
  rcases hwCfg with _ | hwCfg
  · trivial
  rcases cfg with _ | cfg
  · trivial
  refine Prog.callsOnly_bind (fun _ => trivial) fun ctx => ?_
  split
  · trivial
  refine Prog.callsOnly_bind trivial fun _ => ?_
  refine Prog.callsOnly_bind ⟨trivial, fun _ => trivial⟩ fun _ => ?_
  refine Prog.callsOnly_bind ⟨trivial, fun _ => trivial⟩ fun _ => ?_
  refine Prog.callsOnly_bind (callsOnly_driver trivial) fun status => ?_
  split
  · trivial
  refine Prog.callsOnly_bind trivial fun _ => ?_
  refine Prog.callsOnly_bind keepsBuffer_applyConfig fun status => ?_
  split
  · exact Prog.callsOnly_bind ⟨trivial, fun _ => trivial⟩ fun _ =>
      Prog.callsOnly_bind trivial fun _ => trivial
  · exact Prog.callsOnly_bind trivial fun _ => trivial

/-- The calls of the operations that send nothing and set nothing up. -/
def Call.Routine (i : Call) : Prop := i.KeepsBuffer ∧ i.KeepsBase

theorem routine_startRx : startRx.CallsOnly Call.Routine := by
  refine Prog.callsOnly_bind (fun _ => trivial) fun ctx => ?_
  split
  · trivial
  split
  · trivial
  refine callsOnly_thenOk (callsOnly_driver ⟨trivial, trivial⟩) ?_
  refine callsOnly_thenOk (callsOnly_driver ⟨trivial, trivial⟩) ?_
  refine callsOnly_thenOk (callsOnly_applyPacketParams fun _ _ _ _ => ⟨trivial, trivial⟩) ?_
  refine callsOnly_thenOk (callsOnly_driver ⟨trivial, trivial⟩) ?_
  refine Prog.callsOnly_bind ⟨⟨trivial, trivial⟩, fun _ => trivial⟩ fun _ => ?_
  exact Prog.callsOnly_bind trivial fun _ => trivial

def Op.isStartTx : Op → Bool
  | .startTx .. => true
  | _ => false

theorem routine_program (o : Op) (hi : o.isInit = false) (ht : o.isStartTx = false) :
    (program o).CallsOnly Call.Routine := by
  cases o with
  | init => cases hi
  | startTx => cases ht
  | startRx => exact routine_startRx
  | read => exact (callsOnly_read ..).mono fun _ h => h.elim
  | standby => exact callsOnly_standby.mono fun _ h => h ▸ ⟨trivial, trivial⟩
  | poll =>
      refine callsOnly_poll.mono fun i hi => ?_
      cases hi <;> exact ⟨trivial, trivial⟩

end Sx126x

end LeosSdk
