import LeosSdk.RadioAir

/-!
# SX126x: what is put on the air and what is read

`start_tx` puts the chip into standby before it loads the buffer, so what goes
on the air is what it was given. It silences the receiver and clears its
status before that, so what the driver hands over later is what another
station put on the air. The stations meet in the history of the air alone:
each one's run sees the others' packets appear between its own calls.

The sending side follows `start_tx` call by call. After the first call the
receiver is muted, after the second nothing received is waiting, after the
third nothing moves the chip (`Modem.Quiet`, `Modem.AtRest`); only then is the
buffer written, and no event can write over it before `sx1262_set_tx`
(`Loaded`). A call that fails ends the chain with the books as they were, or
with the packet sent and the failure reported after it, which is why what is
on the air lies between the packets accepted and the packets given.

The receiving side follows a packet from a report through the slot to `read`
(`taken_unread`): what is returned or unread after a step was unread before,
or has been reported in it. `StationInv` joins the two, `station_step` is its
step lemma and `station_run` the run lemma. For several stations nothing is
left to prove about runs, only about one history seen from several places.
-/

namespace LeosSdk

namespace Sx126x

open Medium (sentBy sentByOthers sentByOthers_take_sublist exists_sentBy_of_mem
  sentByOthers_two)

variable {K : Type} [DecidableEq K] {k : K} {m m' : Modem K} {sent got : List (List UInt8)}

/-! ## Sending -/

/-- The receiver's interrupt is off and nothing received is waiting. -/
structure Modem.Quiet (m : Modem K) : Prop where
  muted : m.enabled .rxDone = false
  clear : m.rxDone = false

/-- In standby the buffer stays as it is. -/
structure Modem.AtRest (n : UInt8) (mem : Memory) (m : Modem K) : Prop extends m.Quiet where
  op : m.op = .standby
  payloadLen : m.payloadLen = n
  memory : m.memory = mem

omit [DecidableEq K] in
theorem muted_event (m m' : Modem K) (he : RadioEvent k m m') (h : m.enabled .rxDone = false) :
    m'.enabled .rxDone = false := by
  cases he <;> exact h

omit [DecidableEq K] in
theorem quiet_event (m m' : Modem K) (he : RadioEvent k m m') (h : m.Quiet) : m'.Quiet := by
  cases he with
  | received => exact ⟨h.muted, by simp [Modem.receive, h.muted, h.clear]⟩
  | _ => exact ⟨h.muted, h.clear⟩

omit [DecidableEq K] in
theorem atRest_event {n : UInt8} {mem : Memory} (m m' : Modem K) (he : RadioEvent k m m')
    (h : m.AtRest n mem) : m'.AtRest n mem := by
  have hq := quiet_event m m' he h.toQuiet
  cases he with
  | received _ hop =>
      rw [h.op] at hop
      cases hop
  | txEnded => exact ⟨hq, rfl, h.payloadLen, h.memory⟩
  | _ => exact ⟨hq, h.op, h.payloadLen, h.memory⟩

/-- The books of a station whose transmit base is set. -/
structure Sound (k : K) (sent got : List (List UInt8)) (m : Modem K) : Prop
    extends Books k sent got m where
  base : m.txBase = 0

theorem Sound.event (m m' : Modem K) (he : RadioEvent k m m') (h : Sound k sent got m) :
    Sound k sent got m' := ⟨h.toBooks.event he, he.txBase.trans h.base⟩

theorem Sound.cmd {c : Cmd} {rc : UInt8} (h : Sound k sent got m) (hi : Call.Routine (.cmd c))
    (hc : onAir k m (.cmd c) rc m') : Sound k sent got m' := by
  refine ⟨?_, base_call hi.2 h.base hc⟩
  have := h.toBooks.call hi.1 hc
  simpa [packetsOf, eventReports] using this

/-- One command of a chain. -/
theorem ensures_thenOk_sound {c : Cmd} {q : Api RadioStatus} {s : Ctx}
    {Q : RadioStatus → Modem K → Prop} (h : Sound k sent got m) (hi : Call.Routine (.cmd c))
    (hfail : ∀ r m', r ≠ .ok → Sound k sent got m' → Q r m')
    (hok : ∀ m', Sound k sent got m' → onAir k m (.cmd c) (0 : UInt8) m' →
      Ensures (onAir k) q (fun _ r _ m' => Q r m') s m') :
    Ensures (onAir k) (thenOk (driver c) q) (fun _ r _ m' => Q r m') s m := by
  rw [ensures_thenOk, ensures_driver]
  intro rc m₁ hrc
  have h₁ := h.cmd hi hrc
  refine ⟨fun hst => ?_, fun hr => hfail _ _ hr h₁⟩
  obtain rfl := mapStatus_ok.mp hst
  exact hok m₁ h₁ hrc

/-- The packet a `start_tx` call is given. -/
def givenTo (data : Option Buf) (len : Nat) : List (List UInt8) :=
  (data.map fun buf => (List.range len).map buf).toList

/-- What a `start_tx` call does to the books: nothing unless it succeeds, or
it sends what it was given. -/
def Airs (k : K) (sent got now : List (List UInt8)) (r : RadioStatus) (m : Modem K) : Prop :=
  r ≠ .ok ∧ Sound k sent got m ∨ Sound k (sent ++ now) got m

/-- The buffer holds the packet `sx1262_set_tx` is to send, in a chip that no
event can move or write to. -/
structure Loaded (k : K) (sent got : List (List UInt8)) (p : List UInt8) (m : Modem K) : Prop
    extends Sound k sent got m where
  rest : m.AtRest p.length.toUInt8 m.memory
  fits : p.length < 256
  loaded : (List.range p.length).map (m.memory.load 0) = p

theorem Loaded.event {p : List UInt8} (m m' : Modem K) (he : RadioEvent k m m')
    (h : Loaded k sent got p m) : Loaded k sent got p m' := by
  have hrest := atRest_event m m' he h.rest
  have hmem := hrest.memory
  exact ⟨Sound.event m m' he h.toSound, hmem ▸ hrest, h.fits, hmem ▸ h.loaded⟩

/-- Radio events and a change of the shared fields. -/
theorem Loaded.latch {p : List UInt8} {m₀ : Modem K} (h : Loaded k sent got p m)
    (ht : Relation.ReflTransGen (RadioEvent k) m m₀) (latch : Dio1Latch) :
    Loaded k sent got p { m₀ with latch := latch } := by
  obtain ⟨hsound, hrest, hfits, hload⟩ := ticks_preserve Loaded.event ht h
  refine ⟨⟨hsound.toBooks.same rfl rfl fun hrx => ⟨hrx, rfl⟩, hsound.base⟩, ?_, hfits, hload⟩
  exact ⟨⟨hrest.muted, hrest.clear⟩, hrest.op, hrest.payloadLen, rfl⟩

theorem Loaded.outgoing {p : List UInt8} (h : Loaded k sent got p m) : m.outgoing = p := by
  have hlen : p.length.toUInt8.toNat = p.length := by
    have := h.fits
    simp
    omega
  rw [Modem.outgoing, h.rest.payloadLen, h.base, hlen, h.loaded]

theorem Loaded.setTx {p : List UInt8} {timeout : UInt32} {rc : UInt8}
    (h : Loaded k sent got p m) (hc : onAir k m (.cmd (.setTx timeout)) rc m') :
    Airs k sent got [p] (mapStatus rc) m' := by
  obtain ⟨m₁, ht, rfl | ⟨hne, rfl⟩⟩ := hc
  · have h₁ := ticks_preserve Loaded.event ht h
    rw [h₁.outgoing]
    exact .inr ⟨h₁.toBooks.send p, h₁.base⟩
  · exact .inl ⟨fun hok => hne (mapStatus_ok.mp hok), (ticks_preserve Loaded.event ht h).toSound⟩

theorem armTx_sends {s : Ctx} {p : List UInt8} (h : Loaded k sent got p m) :
    Ensures (onAir k) armTx (fun _ r _ m' => Airs k sent got [p] r m') s m := by
  refine ensures_armTx ?_
  rintro _ ⟨m₁, ht₁, rfl⟩ _ ⟨m₂, ht₂, rfl⟩ nowMs m₃ ⟨_, ht₃, rfl⟩ rc m₄ h₄ tr -
  have h₃ := ticks_preserve Loaded.event ht₃ ((h.latch ht₁ _).latch ht₂ _)
  have hsends := h₃.setTx h₄
  exact ⟨fun _ => hsends, fun hok => hok ▸ hsends⟩

/-- `start_tx` refuses before it asks the driver anything, or loads what it
was given. -/
theorem ensures_startTx_load {ε : Type} {E : Env ε Call Answer} {s : Ctx} {e : ε}
    {data : Option Buf} {len : Nat} {Q : Post Ctx ε Call Answer RadioStatus}
    (hrefused : ∀ r, r ≠ .ok → Q [] r s e)
    (hload : ∀ p : List UInt8, givenTo data len = [p] → p.length = len → len < 256 →
      s.initialized = true → Ensures E
      (thenOk (driver (.setDioIrqParams irqMaskTx irqMaskTx irqMaskNone irqMaskNone)) <|
        thenOk (driver (.clearIrqStatus irqMaskAll)) <|
        thenOk (driver (.setStandby .xtal32Mhz)) <|
        thenOk (applyPacketParams len.toUInt8) <|
        thenOk (driver (.writeBuffer 0 p)) armTx) Q s e) :
    Ensures E (startTx data len) Q s e := by
  cases data with
  | none =>
      rw [startTx, ensures_pure]
      exact hrefused _ (by decide)
  | some data =>
      simp only [startTx, ensures_ite, ensures_bind, ensures_read, ensures_pure,
        List.nil_append]
      refine ⟨fun _ => hrefused _ (by decide), fun hlen => ⟨fun _ => hrefused _ (by decide),
        fun hinit => ⟨fun _ => hrefused _ (by decide), fun _ => ?_⟩⟩⟩
      refine hload _ rfl (by simp) ?_ (by simpa using hinit)
      simp only [maxPayloadLen] at hlen
      omega

/-- What a `start_tx` sends is what it was given. The chain is followed call
by call: muted, cleared, at rest, loaded. -/
theorem startTx_sends {s : Ctx} (h : Sound k sent got m) (data : Option Buf) (len : Nat) :
    Ensures (onAir k) (startTx data len)
      (fun _ r _ m' => Airs k sent got (givenTo data len) r m') s m := by
  refine ensures_startTx_load (fun r hr => .inl ⟨hr, h⟩) fun p hp hplen hlen _ => ?_
  rw [hp]
  subst hplen
  have hfail : ∀ r m', r ≠ .ok → Sound k sent got m' → Airs k sent got [p] r m' :=
    fun _ _ hr h => .inl ⟨hr, h⟩
  refine ensures_thenOk_sound h ⟨trivial, trivial⟩ hfail fun m₁ h₁ hc₁ => ?_
  have hmuted : m₁.enabled .rxDone = false := by
    obtain ⟨m₀, -, rfl | ⟨hne, -⟩⟩ := hc₁
    · rfl
    · exact absurd rfl hne
  refine ensures_thenOk_sound h₁ ⟨trivial, trivial⟩ hfail fun m₂ h₂ hc₂ => ?_
  have hquiet : m₂.Quiet := by
    obtain ⟨m₀, ht, rfl | ⟨hne, -⟩⟩ := hc₂
    · have := ticks_preserve (J := fun m : Modem K => m.enabled .rxDone = false)
        muted_event ht hmuted
      exact ⟨this, by simp [irqMaskAll]⟩
    · exact absurd rfl hne
  refine ensures_thenOk_sound h₂ ⟨trivial, trivial⟩ hfail fun m₃ h₃ hc₃ => ?_
  have hrest₃ : m₃.AtRest m₃.payloadLen m₃.memory := by
    obtain ⟨m₀, ht, rfl | ⟨hne, -⟩⟩ := hc₃
    · have := ticks_preserve quiet_event ht hquiet
      exact ⟨⟨this.muted, this.clear⟩, rfl, rfl, rfl⟩
    · exact absurd rfl hne
  rw [ensures_thenOk_applyPacketParams]
  refine ensures_thenOk_sound h₃ ⟨trivial, trivial⟩ hfail fun m₄ h₄ hc₄ => ?_
  have hrest₄ : m₄.AtRest p.length.toUInt8 m₃.memory := by
    obtain ⟨m₀, ht, rfl | ⟨hne, -⟩⟩ := hc₄
    · have := ticks_preserve atRest_event ht hrest₃
      exact ⟨⟨this.muted, this.clear⟩, this.op, rfl, this.memory⟩
    · exact absurd rfl hne
  rw [ensures_thenOk, ensures_driver]
  rintro rc m₅ ⟨m₀, ht, hc₅⟩
  have h₀ : Sound k sent got m₀ := ticks_preserve Sound.event ht h₄
  have hrest₀ : m₀.AtRest p.length.toUInt8 m₃.memory := ticks_preserve atRest_event ht hrest₄
  -- no packet is waiting in the buffer that is written over
  have hwritten : ∀ memory, Sound k sent got { m₀ with memory := memory } := fun memory =>
    ⟨h₀.toBooks.same rfl rfl fun hrx => Bool.noConfusion (hrest₀.clear.symm.trans hrx), h₀.base⟩
  rcases hc₅ with rfl | ⟨hne, memory, rfl⟩
  · refine ⟨fun _ => ?_, fun hr => hfail _ _ hr (hwritten _)⟩
    refine armTx_sends ⟨hwritten _, ?_, hlen, range_load_store m₀.memory 0 (by omega)⟩
    exact ⟨⟨hrest₀.muted, hrest₀.clear⟩, hrest₀.op, hrest₀.payloadLen, rfl⟩
  · exact ⟨fun hok => absurd (mapStatus_ok.mp hok) hne, fun hr => hfail _ _ hr (hwritten _)⟩

/-! ## Reading -/

/-- The packet in the receive slot. -/
def unread (s : Ctx) : List (List UInt8) := if s.rxPending then [s.rxBytes] else []

/-- The packet a step's `read` returned. -/
def taken : RadioLabel → List (List UInt8)
  | .op (.read ..) _ r => if r.status = .ok then [r.written] else []
  | _ => []

/-- The packet a step's `start_tx` was given. -/
def given : RadioLabel → List (List UInt8)
  | .op (.startTx data len) _ _ => givenTo data len
  | _ => []

def RadioLabel.acceptedPacket : RadioLabel → List (List UInt8)
  | .op (.startTx data len) _ r => if r = .ok then givenTo data len else []
  | _ => []

/-- What a slot holds unread. -/
def RxSlot.unread (sl : RxSlot) : List (List UInt8) := if sl.pending then [sl.bytes] else []

theorem received_unread {sl sl' : RxSlot} {rep : Report} {tr : List (Event Call Answer)}
    (h : Received sl rep tr sl') : sl'.unread.Sublist (sl.unread ++ packetsOf [rep]) := by
  cases h with
  | ignored => exact List.sublist_append_left ..
  | overrun => exact List.sublist_append_left ..
  | @latched buf len hp hempty rc st =>
      have hone : packetsOf [rep] = [payload buf len] := by simp [packetsOf, hp]
      have hnew : (sl.latch buf len rc st).unread = [payload buf len] := by
        rw [← latch_bytes sl buf len rc st]
        rfl
      rw [hone, hnew]
      exact List.sublist_append_right ..

/-- A delivery leaves in the slot what was there or one of the reported
packets, by induction on the reports. -/
theorem delivered_unread {sl sl' : RxSlot} {reports : List Report}
    {tr : List (Event Call Answer)} (h : Delivered sl reports tr sl') :
    sl'.unread.Sublist (sl.unread ++ packetsOf reports) := by
  induction h with
  | nil => exact List.sublist_append_left ..
  | @cons sl sl₁ sl' rep reports _ _ h _ ih =>
      have hstep := (received_unread h).append (List.Sublist.refl (packetsOf reports))
      rw [List.append_assoc, ← packetsOf_append] at hstep
      exact ih.trans hstep

/-- What is returned or unread after a step was unread before or has been
reported in it, in this order. Only `poll` fills the slot, and only `read` and
`init` empty it. -/
theorem taken_unread {s s' : Ctx} {o : Op} {tr : List (Event Call Answer)} {r : o.Ret}
    (h : OpStep s o tr r s') :
    (taken (.op o tr r) ++ unread s').Sublist (unread s ++ packetsOf (reportsOf tr)) := by
  have hsame : unread s' = unread s →
      (unread s').Sublist (unread s ++ packetsOf (reportsOf tr)) := by
    intro heq
    rw [heq]
    exact List.sublist_append_left ..
  cases o with
  | init =>
      cases h with
      | refused => exact hsame rfl
      | failed | done => exact List.nil_sublist _
  | startTx => cases h <;> exact hsame rfl
  | startRx => cases h <;> exact hsame rfl
  | standby => cases h <;> exact hsame rfl
  | read =>
      cases h with
      | refused hr => simp [taken, unread, ReadResult.failed, hr]
      | taken _ hp => simp [taken, unread, hp]
  | poll =>
      obtain ⟨tr₁, hd, -⟩ := poll_delivered h
      exact delivered_unread hd

/-! ## One step -/

/-- The books of a station together with its receive slot: what was read and
what is unread has been handed over by the driver, in order. -/
structure StationInv (k : K) (sent read : List (List UInt8)) (s : Ctx) (m : Modem K) : Prop where
  base : s.initialized = true → m.txBase = 0
  books : ∃ got, Books k sent got m ∧ (read ++ unread s).Sublist got

/-- A `start_tx` sends what it was given, or does not succeed. -/
theorem station_startTx {s s' : Ctx} {data : Option Buf} {len : Nat}
    {tr : List (Event Call Answer)} {r : RadioStatus} {read : List (List UInt8)}
    (hi : StationInv k sent read s m) (hx : Exec (onAir k) (startTx data len) s m tr r s' m') :
    ∃ now, (now = RadioLabel.acceptedPacket (.op (.startTx data len) tr r) ∨ now = givenTo data len)
      ∧ StationInv k (sent ++ now) read s' m' := by
  obtain ⟨got, hbooks, hread⟩ := hi.books
  have hspec := startTx_spec data len _ _ _ _ hx
  have hslot : unread s' = unread s ∧ s'.initialized = s.initialized := by
    cases hspec <;> exact ⟨rfl, rfl⟩
  rw [← hslot.1] at hread
  cases hinit : s.initialized with
  | false =>
      obtain rfl : m' = m := uninitialised_op (o := .startTx data len) hinit rfl _ _ _ _ hx
      have hr : r ≠ .ok := by
        rintro rfl
        cases hspec with
        | refused hr => exact hr rfl
        | failed _ _ hr => exact hr rfl
        | armed hready => cases hinit.symm.trans hready.initialized
      refine ⟨[], .inl (by simp [RadioLabel.acceptedPacket, hr]), ?_, got, ?_, hread⟩
      · exact fun h => Bool.noConfusion ((hslot.2.trans hinit).symm.trans h)
      · simpa using hbooks
  | true =>
      rcases startTx_sends ⟨hbooks, hi.base hinit⟩ data len _ _ _ _ hx with ⟨hr, hs⟩ | hs
      · refine ⟨[], .inl (by simp [RadioLabel.acceptedPacket, hr]), fun _ => hs.base, got,
          ?_, hread⟩
        simpa using hs.toBooks
      · exact ⟨_, .inr rfl, fun _ => hs.base, got, hs.toBooks, hread⟩

/-- The step lemma: a step adds its own packet to the air or nothing, and what
its `read` returned to what was read. -/
theorem station_step {w w' : Ctx × Modem K} {l : RadioLabel} {read : List (List UInt8)}
    (h : StationStep k w l w') (hi : StationInv k sent read w.1 w.2) :
    ∃ now, (now = l.acceptedPacket ∨ now = given l)
      ∧ StationInv k (sent ++ now) (read ++ taken l) w'.1 w'.2 := by
  cases h with
  | @tick s m m' he =>
      obtain ⟨hbase, got, hbooks, hread⟩ := hi
      refine ⟨[], .inl rfl, fun hinit => he.txBase.trans (hbase hinit), got, ?_, ?_⟩
      · simpa using hbooks.event he
      · simpa [taken] using hread
  | @op o s m tr r s' m' hx =>
      have hspec := program_spec o _ _ _ _ hx
      cases hstart : o.isStartTx with
      | true =>
          cases o with
          | startTx data len =>
              obtain ⟨now, hnow, hinv⟩ := station_startTx hi hx
              exact ⟨now, hnow, by simpa [taken] using hinv⟩
          | _ => cases hstart
      | false =>
          obtain ⟨hbase, got, hbooks, hread⟩ := hi
          have hnone : RadioLabel.acceptedPacket (.op o tr r) = [] := by
            cases o with
            | startTx => cases hstart
            | _ => rfl
          have hcalls : (program o).CallsOnly Call.KeepsBuffer := by
            cases hinit : o.isInit with
            | true =>
                cases o with
                | init hwCfg cfg => exact keepsBuffer_init hwCfg cfg
                | _ => cases hinit
            | false => exact (routine_program o hinit hstart).mono fun _ h => h.1
          have hbase' : s'.initialized = true → m'.txBase = 0 := by
            cases hinit : o.isInit with
            | true =>
                cases o with
                | init hwCfg cfg => exact init_base hwCfg cfg hbase _ _ _ _ hx
                | _ => cases hinit
            | false =>
                intro h
                have hcalls := (routine_program o hinit hstart).mono fun _ h => h.2
                rw [base_exec hcalls hx]
                exact hbase ((sameConfigs_op hspec hinit).initialized.symm.trans h)
          refine ⟨[], .inl hnone.symm, hbase', got ++ packetsOf (reportsOf tr), ?_, ?_⟩
          · simpa using hbooks.exec hcalls hx
          · rw [List.append_assoc]
            refine ((List.Sublist.refl read).append (taken_unread hspec)).trans ?_
            rw [← List.append_assoc]
            exact hread.append (List.Sublist.refl _)

/-! ## Runs -/

section Run

variable {w₀ w : Ctx × Modem K} {xs : List (Rec (Ctx × Modem K) RadioLabel)}

def acceptedIn (xs : List (Rec (Ctx × Modem K) RadioLabel)) : List (List UInt8) :=
  xs.flatMap fun x => x.label.acceptedPacket

def givenIn (xs : List (Rec (Ctx × Modem K) RadioLabel)) : List (List UInt8) :=
  xs.flatMap fun x => given x.label

def takenIn (xs : List (Rec (Ctx × Modem K) RadioLabel)) : List (List UInt8) :=
  xs.flatMap fun x => taken x.label

/-- A station at power-on, on an air nothing was sent on. -/
structure PoweredOn (w : Ctx × Modem K) : Prop where
  ctx : ∃ radio, w.1 = Ctx.powerOn radio
  rxDone : w.2.rxDone = false
  heard : w.2.heard = 0
  air : w.2.air = []

theorem PoweredOn.inv (h : PoweredOn w) : StationInv k [] [] w.1 w.2 := by
  obtain ⟨⟨radio, hctx⟩, hrx, hheard, hair⟩ := h
  rw [hctx]
  refine ⟨fun hinit => Bool.noConfusion hinit, [], ⟨?_, ?_, 0, ?_, ?_, fun hdone => ?_⟩, ?_⟩
  · simp [hair, sentBy]
  · simp [hheard]
  · simp
  · simp
  · cases hrx.symm.trans hdone
  · simp [unread, Ctx.powerOn]

omit [DecidableEq K] in
theorem acceptedPacket_sublist (l : RadioLabel) : l.acceptedPacket.Sublist (given l) := by
  cases l with
  | tick => exact List.Sublist.refl _
  | op o tr r =>
      cases o with
      | startTx =>
          simp only [RadioLabel.acceptedPacket, given]
          split
          · exact List.Sublist.refl _
          · exact List.nil_sublist _
      | _ => exact List.Sublist.refl _

/-- The run lemma, by induction on the run. What was sent lies between the
packets that `start_tx` accepted and those it was given. -/
theorem station_run (h : Run (StationStep k) w₀ xs w) (h0 : PoweredOn w₀) :
    ∃ sent, (acceptedIn xs).Sublist sent ∧ sent.Sublist (givenIn xs)
      ∧ StationInv k sent (takenIn xs) w.1 w.2 := by
  induction h with
  | nil => exact ⟨[], List.Sublist.refl _, List.Sublist.refl _, h0.inv⟩
  | @snoc xs w l w' _ hs ih =>
      obtain ⟨sent, hacc, hgiven, hinv⟩ := ih
      obtain ⟨now, hnow, hinv'⟩ := station_step hs hinv
      have hbetween : l.acceptedPacket.Sublist now ∧ now.Sublist (given l) := by
        rcases hnow with rfl | rfl
        · exact ⟨List.Sublist.refl _, acceptedPacket_sublist l⟩
        · exact ⟨acceptedPacket_sublist l, List.Sublist.refl _⟩
      refine ⟨sent ++ now, ?_, ?_, ?_⟩
      · simpa [acceptedIn] using hacc.append hbetween.1
      · simpa [givenIn] using hgiven.append hbetween.2
      · simpa [takenIn] using hinv'

/-- What a station has sent and read, against the air. -/
structure OnAir (k : K) (xs : List (Rec (Ctx × Modem K) RadioLabel)) (air : Air K) : Prop where
  /-- Its own packets are those its `start_tx` calls were given, in order and
  unaltered, all of those that succeeded among them. -/
  accepted : (acceptedIn xs).Sublist (sentBy k air)
  aired : (sentBy k air).Sublist (givenIn xs)
  /-- It reads packets of the others, in order, unaltered and each once. -/
  read : (takenIn xs).Sublist (sentByOthers k air)

theorem onAir_run (h : Run (StationStep k) w₀ xs w) (h0 : PoweredOn w₀) :
    OnAir k xs w.2.air := by
  obtain ⟨sent, hacc, hgiven, hinv⟩ := station_run h h0
  obtain ⟨got, hbooks, hread⟩ := hinv.books
  obtain ⟨n, -, hgot, -⟩ := hbooks.ledger
  refine ⟨hbooks.own ▸ hacc, hbooks.own ▸ hgiven, ?_⟩
  refine ((List.sublist_append_left ..).trans hread).trans (hgot.trans ?_)
  exact sentByOthers_take_sublist n

/-- A step adds its own packet to the air, or nothing. -/
def AddsOwn (k : K) (x : Rec (Ctx × Modem K) RadioLabel) : Prop :=
  ∃ now, (now = x.label.acceptedPacket ∨ now = given x.label)
    ∧ sentBy k x.post.2.air = sentBy k x.pre.2.air ++ now

/-- From power-on, whatever the driver answers and whoever else sends: what
the station has sent and read is as `OnAir` says, and each step adds its own
packet to the air or nothing. -/
theorem station_on_air (h : Run (StationStep k) w₀ xs w) (h0 : PoweredOn w₀) :
    OnAir k xs w.2.air ∧ ∀ x ∈ xs, AddsOwn k x := by
  refine ⟨onAir_run h h0, fun x hx => ?_⟩
  obtain ⟨hs, ⟨sent, read, hinv⟩, -⟩ := (h.invariant
    (fun w => ∃ sent read, StationInv k sent read w.1 w.2) (fun _ => True) ⟨[], [], h0.inv⟩
    (fun x hs _ hi => by
      obtain ⟨sent, read, hinv⟩ := hi
      obtain ⟨now, -, hinv'⟩ := station_step hs hinv
      exact ⟨_, _, hinv'⟩) fun _ _ => trivial).2 x hx
  obtain ⟨now, hnow, hinv'⟩ := station_step hs hinv
  obtain ⟨_, hpre, -⟩ := hinv.books
  obtain ⟨_, hpost, -⟩ := hinv'.books
  exact ⟨now, hnow, by rw [hpost.own, hpre.own]⟩

end Run

/-! ## Stations on one air -/

/-- What the stations of one air exchange. -/
structure Exchange (xs : K → List (Rec (Ctx × Modem K) RadioLabel)) : Prop where
  /-- Every packet read was given to another station's `start_tx`. -/
  origin : ∀ b, ∀ p ∈ takenIn (xs b), ∃ a, a ≠ b ∧ p ∈ givenIn (xs a)
  /-- Of two stations one reads what the other was given, in order and each
  packet once. -/
  pair : ∀ a b, (∀ k, k ≠ b ↔ k = a) → (takenIn (xs b)).Sublist (givenIn (xs a))

/-- Stations with one history of the air exchange what they were given,
whatever the interleaving: their runs only have that history in common, so
what one reads lies in another's part of it. -/
theorem stations_exchange {w₀ w : K → Ctx × Modem K}
    {xs : K → List (Rec (Ctx × Modem K) RadioLabel)} {air : Air K}
    (h0 : ∀ k, PoweredOn (w₀ k)) (h : ∀ k, Run (StationStep k) (w₀ k) (xs k) (w k))
    (hair : ∀ k, (w k).2.air = air) : Exchange xs := by
  have hon : ∀ k, OnAir k (xs k) air := fun k => hair k ▸ onAir_run (h k) (h0 k)
  refine ⟨fun b p hp => ?_, fun a b hab => ?_⟩
  · obtain ⟨a, hne, hmem⟩ := exists_sentBy_of_mem ((hon b).read.subset hp)
    exact ⟨a, hne, (hon a).aired.subset hmem⟩
  · have := (hon b).read
    rw [sentByOthers_two hab] at this
    exact this.trans (hon a).aired

/-! ## Two stations on the bench -/

/-- Station `false` is heard by a receiver whose air is still empty. -/
def Modem.hear (m : Modem Bool) (p : List UInt8) : Modem Bool :=
  if m.op = .rx ∧ m.air = [] ∧ m.heard = 0 then
    { ({ m with air := [(false, p)] } : Modem Bool).receive 0 0 p with
      latch := handleDio1Irq true 0 m.latch }
  else m

/-- A driver whose calls all work; the packet `p` arrives before a look at
the latch. -/
def benchStation (k : Bool) (p : List UInt8) (m : Modem Bool) : (i : Call) → Answer i × Modem Bool
  | .irqPending =>
    let m := if k then m.hear p else m
    (m.latch.irqPending, m)
  | .setIrqPending b => ((), { m with latch := { m.latch with irqPending := b } })
  | .setIrqLatchedAtMs ms => ((), { m with latch := { m.latch with irqLatchedAtMs := ms } })
  | .cmd (.setDioIrqParams irqMask _ _ _) => ((0 : UInt8), { m with enabled := irqMask })
  | .cmd (.clearIrqStatus mask) => ((0 : UInt8), { m with rxDone := m.rxDone && !mask .rxDone })
  | .cmd (.setStandby _) => ((0 : UInt8), { m with op := .standby })
  | .cmd .continuousReceive => ((0 : UInt8), { m with op := .rx })
  | .cmd (.setBufferBaseAddress tx _) => ((0 : UInt8), { m with txBase := tx })
  | .cmd (.setLoraPacketParamsExplicit _ n _ _) => ((0 : UInt8), { m with payloadLen := n })
  | .cmd (.writeBuffer offset data) =>
    ((0 : UInt8), { m with memory := m.memory.store offset data })
  | .cmd (.setTx _) => ((0 : UInt8), { m with op := .tx, air := m.air ++ [(k, m.outgoing)] })
  | .cmd .init | .cmd .deinit => ((0 : UInt8), { m with op := .standby, rxDone := false })
  | .irqHandler =>
    if m.rxDone then
      (([⟨.rxDone, some m.incoming.1, m.incoming.2⟩], 0), { m with rxDone := false })
    else (([], 0), m)
  | i => (plainAnswer i, m)

theorem benchStation_answers (k : Bool) {p : List UInt8} (hp : p.length < 256) :
    Answers (benchStation k p) (onAir k) := by
  intro m i
  cases i with
  | irqPending =>
      cases k with
      | false => exact interleave_of ⟨rfl, rfl⟩
      | true =>
          refine ⟨m.hear p, ?_, rfl, rfl⟩
          unfold Modem.hear
          split
          · rename_i h
            obtain ⟨hop, hair, hheard⟩ := h
            have h₁ : RadioEvent true m { m with air := [(false, p)] } := by
              have := RadioEvent.aired (k := true) (m := m) (j := false) (by decide) p
              rwa [hair] at this
            have h₂ := RadioEvent.received (k := true) (m := { m with air := [(false, p)] })
              (i := 0) (j := false) 0 hop (by simp [hheard]) rfl (by decide) hp
            exact .tail (.tail (.single h₁) h₂) (.interrupt 0)
          · exact .refl
  | irqHandler =>
      refine interleave_of ?_
      cases hrx : m.rxDone with
      | false =>
          simp only [benchStation, hrx]
          exact .inl ⟨rfl, .inl rfl⟩
      | true =>
          simp only [benchStation, hrx]
          exact .inr ⟨hrx, rfl, rfl⟩
  | cmd c =>
      refine interleave_of ?_
      cases c with
      | init | deinit => exact ⟨m.enabled, m.memory, m.txBase, m.payloadLen, rfl⟩
      | setDioIrqParams | clearIrqStatus | setStandby | continuousReceive | setBufferBaseAddress
      | setLoraPacketParamsExplicit | writeBuffer | setTx => exact .inl rfl
      | _ => rfl
  | setIrqPending | setIrqLatchedAtMs => exact interleave_of rfl
  | _ => exact interleave_of rfl

def benchModem : Modem Bool where
  latch := { irqPending := false, irqLatchedAtMs := 0 }
  op := .standby
  enabled := irqMaskNone
  rxDone := false
  memory := fun _ => 0
  txBase := 0
  payloadLen := 0
  rxStart := 0
  rxLen := 0
  heard := 0
  air := []

def benchStart : Ctx × Modem Bool := (Ctx.powerOn .sx1262, benchModem)

theorem benchStart_poweredOn : PoweredOn benchStart := ⟨⟨.sx1262, rfl⟩, rfl, rfl, rfl⟩

def helloBytes : List UInt8 := List.replicate 5 0x68

theorem bench_exchange : ∃ (xs : Bool → List (Rec (Ctx × Modem Bool) RadioLabel))
    (w : Bool → Ctx × Modem Bool),
    (∀ k, Run (StationStep k) benchStart (xs k) (w k)) ∧ (∀ k, (w k).2.air = [(false, helloBytes)])
      ∧ takenIn (xs true) = [helloBytes] ∧ acceptedIn (xs false) = [helloBytes] := by
  obtain ⟨xs, w, hrun, hw⟩ := evalsTo_run (RadioEvent false)
    (benchStation_answers false (p := helloBytes) (by decide))
    (show evalsTo program (benchStation false helloBytes) 1 [bringUp, hello] benchStart
      (fun xs w => decide (w.2.air = [(false, helloBytes)])
        && decide (acceptedIn xs = [helloBytes])) = true by decide +kernel)
  obtain ⟨xs', w', hrun', hw'⟩ := evalsTo_run (RadioEvent true)
    (benchStation_answers true (p := helloBytes) (by decide))
    (show evalsTo program (benchStation true helloBytes) 1
      [bringUp, .startRx, .poll, .read false 255 false false] benchStart
      (fun xs w => decide (w.2.air = [(false, helloBytes)])
        && decide (takenIn xs = [helloBytes])) = true by decide +kernel)
  simp only [Bool.and_eq_true, decide_eq_true_eq] at hw hw'
  refine ⟨fun k => if k then xs' else xs, fun k => if k then w' else w, ?_, ?_, hw'.2, hw.2⟩
  · intro k
    cases k
    · exact hrun
    · exact hrun'
  · intro k
    cases k
    · exact hw.1
    · exact hw'.1

theorem station_on_air_hello : ∃ (xs : _) (w : _), Run (StationStep true) benchStart xs w
    ∧ takenIn xs = [helloBytes] ∧ OnAir true xs w.2.air := by
  obtain ⟨xs, w, hrun, -, htaken, -⟩ := bench_exchange
  exact ⟨xs true, w true, hrun true, htaken,
    (station_on_air (hrun true) benchStart_poweredOn).1⟩

theorem stations_exchange_hello : ∃ xs : Bool → List (Rec (Ctx × Modem Bool) RadioLabel),
    takenIn (xs true) = [helloBytes] ∧ acceptedIn (xs false) = [helloBytes] ∧ Exchange xs := by
  obtain ⟨xs, w, hrun, hair, htaken, hacc⟩ := bench_exchange
  exact ⟨xs, htaken, hacc, stations_exchange (fun _ => benchStart_poweredOn) hrun hair⟩

end Sx126x

end LeosSdk
