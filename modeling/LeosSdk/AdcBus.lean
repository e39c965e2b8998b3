import LeosSdk.Adc

/-!
# MCP342x: any number of handles on shared buses

`mcp342x_init`, the setters and the reads of any number of `mcp342x_dev_t`,
with a chip at every address of every bus. Between two operations anything may
happen to the chips: a reset, a brown-out, another master. A handle may be
initialised at any time, also anew and for another chip, and two handles may
name the same one.

No read tells the driver what its chip's register holds, yet from whatever
state one acknowledged write of its own brings the shadow back in step, since
every write sends all of it. There it stays exactly as long as nothing of the
following happens: its chip changes by itself, an `mcp342x_init` assumes a
reset that was none, a setter fails with a new value, another handle stores
something else in its chip (`shadow_resyncs`).

A register is determined, `RDY` apart, by the trace: it holds what was last
stored at its place, or what it held (`exec_stores`, by induction on the
execution). So of each operation one only has to say what it stores and what
it leaves of the shadow (`Sent`), and that a failed transfer stores nothing is
in `stored`. With that a step of the handle itself, of another handle and of
the world is an equivalence each (`bus_step`), without looking into a function
again.
-/

namespace LeosSdk

namespace Mcp342x

/-! ## The buses -/

/-- Where a chip is. -/
abbrev Place := I2c × UInt8

def Dev.place (s : Dev) : Place := (s.i2c, s.address)

abbrev Registers := Place → UInt8

/-- What an acknowledged write to that place stores; one that fails stores
nothing. -/
def stored (q : Place) : Event Call Answer → Option UInt8
  | ⟨.i2cWriteBlocking i2c address data, ret⟩ =>
    if (i2c, address) = q ∧ ¬(ret : Int32) < 0 then some data else none
  | _ => none

def lastStored (q : Place) (tr : List (Event Call Answer)) : Option UInt8 :=
  (tr.filterMap (stored q)).getLast?

/-- All registers, `RDY` apart. -/
def busEnv : Env Registers Call Answer :=
  fun g i r g' => ∀ q, SameConfig (g' q) ((stored q ⟨i, r⟩).getD (g q))

/-! ## The handles -/

inductive HandleOp where
  | init (devNull : Bool) (block : I2c) (sda scl : UInt32) (addr : UInt8)
  | use (o : Op)

abbrev HandleOp.Ret : HandleOp → Type
  | .init .. => Int32
  | .use o => o.Ret

def handleProgram : (o : HandleOp) → Api o.Ret
  | .init devNull block sda scl addr => init devNull block sda scl addr
  | .use o => program o

abbrev HandleLabel := Label HandleOp HandleOp.Ret Call Answer

/-- Anything may happen to the chips between two operations. -/
abbrev BusStep (K : Type) :
    (K → Dev) × Registers → K × HandleLabel → (K → Dev) × Registers → Prop :=
  Shared fun _ => Session handleProgram busEnv fun _ _ => True

abbrev BusRec (K : Type) := Rec ((K → Dev) × Registers) (K × HandleLabel)

/-- The handle's shadow agrees with the register of its chip. -/
def Agrees (s : Dev) (g : Registers) : Prop := SameConfig s.config (g s.place)

/-- The handle had a write of its own acknowledged. -/
def Syncs {K : Type} (k : K) (x : BusRec K) : Prop :=
  ∃ o tr ret, x.label = (k, .op (.use o) tr ret) ∧ (lastStored (x.pre.1 k).place tr).isSome = true

/-- An operation of its own does a handle that agrees no harm: `init` finds
its chip in the reset configuration, and if a setter fails the field held the
value already. -/
def OwnSpares (s : Dev) (g : Registers) : (o : HandleOp) → List (Event Call Answer) → o.Ret → Prop
  | .init devNull block _ _ addr, _, _ =>
    devNull = true ∨ SameConfig (g (block, addr)) defaultConfig
  | .use o, tr, ret =>
    ∀ f value, AdcLabel.failed (.op o tr ret) = some (f, value) → f.Holds s.config value

/-- A step does no harm to a handle that agrees. -/
def Spares {K : Type} (k : K) (z : BusRec K) : Prop :=
  match z.label with
  | (_, .tick) => SameConfig (z.post.2 (z.pre.1 k).place) (z.pre.2 (z.pre.1 k).place)
  | (j, .op o tr ret) =>
    (j = k → OwnSpares (z.pre.1 k) z.pre.2 o tr ret)
      ∧ (j ≠ k → ∀ data, lastStored (z.pre.1 k).place tr = some data →
        SameConfig data (z.pre.1 k).config)

/-! ## What a trace stores -/

variable {f : Field} {value : UInt32} {s s' : Dev} {g g' : Registers}

theorem lastStored_append (q : Place) (tr tr' : List (Event Call Answer)) :
    lastStored q (tr ++ tr') = (lastStored q tr').or (lastStored q tr) := by
  rw [lastStored, List.filterMap_append, List.getLast?_append]
  rfl

theorem lastStored_singleton (q : Place) (ev : Event Call Answer) :
    lastStored q [ev] = stored q ev := by
  cases h : stored q ev <;> simp [lastStored, h]

/-- A register holds what was stored there last, or what it held. -/
def Stores (tr : List (Event Call Answer)) (g g' : Registers) : Prop :=
  ∀ q, SameConfig (g' q) ((lastStored q tr).getD (g q))

/-- A register holds what was stored there last, or what it held: call by
call, for any program. -/
theorem exec_stores {α : Type} {p : Api α} {tr : List (Event Call Answer)} {a : α}
    (h : Exec busEnv p s g tr a s' g') : Stores tr g g' := by
  have hnil : Stores [] g g := fun _ => rfl
  refine Prog.CallsOnly.traced (J := fun tr g' => Stores tr g g') ?_ h p.callsOnly_any hnil
  intro tr g₁ i r g₂ _ hJ hcall q
  rw [lastStored_append, lastStored_singleton]
  have hcall := hcall q
  cases hlast : stored q ⟨i, r⟩ with
  | none =>
      rw [hlast] at hcall
      exact hcall.trans (hJ q)
  | some data =>
      rw [hlast] at hcall
      exact hcall

/-- A call that writes nothing. -/
def Call.Silent : Call → Prop
  | .i2cWriteBlocking .. => False
  | _ => True

/-- A program without writes stores nothing anywhere. -/
theorem lastStored_silent {α : Type} {p : Api α} (hp : p.CallsOnly Call.Silent)
    {tr : List (Event Call Answer)} {a : α} (h : Exec busEnv p s g tr a s' g') (q : Place) :
    lastStored q tr = none := by
  have hevents := (Prog.CallsOnly.events (J := fun _ => True) (R := fun ev => stored q ev = none)
    (fun _ i r _ hi _ _ => ⟨trivial, ?_⟩) h hp trivial).2
  · rw [lastStored, List.filterMap_eq_nil_iff.mpr hevents]
    rfl
  · cases i with
    | i2cWriteBlocking => exact hi.elim
    | _ => rfl

theorem silent_init (block : I2c) (sda scl : UInt32) (addr : UInt8) :
    (init false block sda scl addr).CallsOnly Call.Silent :=
  Prog.callsOnly_bind trivial fun _ => ⟨trivial, fun _ => ⟨trivial, fun _ => ⟨trivial,
    fun _ => ⟨trivial, fun _ => ⟨trivial, fun _ => trivial⟩⟩⟩⟩⟩

theorem silent_readRaw (readyNull : Bool) : (readRaw readyNull).CallsOnly Call.Silent := by
  simp [readRaw, Prog.callsOnly_read_bind, Prog.callsOnly_ask_bind, Prog.callsOnly_ite,
    Prog.callsOnly_pure, Call.Silent]

theorem silent_polling (v : Option Int32) : (Prog.iter pollReady v).CallsOnly Call.Silent := by
  refine ⟨fun v => Prog.callsOnly_bind (silent_readRaw false) fun raw => ?_, fun _ => trivial⟩
  simp [Prog.callsOnly_ask_bind, Prog.callsOnly_ite, Prog.callsOnly_pure, Call.Silent]

theorem readOnly_readRaw (readyNull : Bool) : (readRaw readyNull).ReadOnly := by
  intro s r
  by_cases hret : r.1 < 0 <;> simp [hret, Prog.ReadOnly, pure, Prog.bind]

theorem readOnly_polling (v : Option Int32) : (Prog.iter pollReady v).ReadOnly := by
  refine ⟨fun v => Prog.readOnly_bind (readOnly_readRaw false) fun raw => ?_, fun _ => trivial⟩
  split
  · trivial
  · split
    · trivial
    · exact fun _ => trivial

/-! ## What each operation does -/

/-- What an operation of its own leaves of a handle: the shadow is what was
stored last in its chip, and if nothing was, it differs from before by the
field of a failed setter. -/
structure Sent (s s' : Dev) (tr : List (Event Call Answer)) (failed : Option (Field × UInt32)) :
    Prop where
  place : s'.place = s.place
  stored : ∀ data, lastStored s.place tr = some data → SameConfig data s'.config ∧ failed = none
  unstored : lastStored s.place tr = none →
    s'.config = failed.elim s.config fun a => a.1.put s.config a.2

theorem setField_sent :
    Ensures busEnv (setField f value) (fun tr ret s' _ =>
      Sent s s' tr (if ret < 0 then some (f, value) else none)) s g := by
  simp only [setField, ensures_bind, ensures_modify, ensures_read, ensures_ask]
  intro ret g' _
  refine ⟨rfl, fun data hdata => ?_, fun hnone => ?_⟩
  · rw [List.nil_append, List.nil_append, List.nil_append, lastStored_singleton] at hdata
    by_cases hret : ret < 0
    · simp [stored, hret] at hdata
    · simp only [stored, hret, Dev.place, not_false_iff, and_self, if_true, Option.some.injEq]
        at hdata
      exact ⟨hdata ▸ rfl, if_neg hret⟩
  · rw [List.nil_append, List.nil_append, List.nil_append, lastStored_singleton] at hnone
    by_cases hret : ret < 0
    · rw [if_pos hret]
      rfl
    · simp [stored, hret, Dev.place] at hnone

theorem sent_of_same {tr : List (Event Call Answer)}
    (h : ∀ data, lastStored s.place tr = some data → SameConfig data s.config) :
    Sent s s tr none :=
  ⟨rfl, fun data hdata => ⟨h data hdata, rfl⟩, fun _ => rfl⟩

theorem readRaw_sent (readyNull : Bool) :
    Ensures busEnv (readRaw readyNull) (fun tr _ s' _ => Sent s s' tr none) s g := by
  intro tr raw s' g' h
  obtain rfl := (readOnly_readRaw readyNull).exec h
  refine sent_of_same fun data hdata => ?_
  rw [lastStored_silent (silent_readRaw readyNull) h] at hdata
  cases hdata

/-- The trigger stores what the shadow says. -/
theorem readBlocking_sent :
    Ensures busEnv readBlocking (fun tr _ s' _ => Sent s s' tr none) s g := by
  have hpoll : ∀ tr g₁, (∀ data, lastStored s.place tr = some data → SameConfig data s.config) →
      Ensures busEnv (Prog.iter pollReady none)
        (fun tr' _ s' _ => Sent s s' (tr ++ tr') none) s g₁ := by
    intro tr g₁ htr tr' a s' g' h
    obtain rfl := (readOnly_polling none).exec h
    refine sent_of_same fun data hdata => htr data ?_
    rwa [lastStored_append, lastStored_silent (silent_polling none) h, Option.none_or] at hdata
  simp only [readBlocking, ensures_bind, ensures_read, ensures_ite, ensures_ask, ensures_pure]
  refine ⟨fun _ ret g₁ h => ?_, fun _ => hpoll [] g fun data hdata => by cases hdata⟩
  have htrigger : ∀ data, lastStored s.place [⟨.i2cWriteBlocking s.i2c s.address
      (s.config ||| cfgRdy), ret⟩] = some data → SameConfig data s.config := by
    intro data hdata
    rw [lastStored_singleton, stored, Option.ite_none_right_eq_some] at hdata
    obtain ⟨-, hdata⟩ := hdata
    cases hdata
    exact sameConfig_rdy s.config
  exact ⟨fun _ => sent_of_same htrigger, fun _ => hpoll _ g₁ htrigger⟩

/-- The setters change their field whether it is sent or not; the reads leave
the shadow alone, and the trigger stores what it says. -/
theorem program_sent {o : Op} {tr : List (Event Call Answer)} {ret : o.Ret}
    (h : Exec busEnv (program o) s g tr ret s' g') :
    Sent s s' tr (AdcLabel.failed (.op o tr ret)) := by
  cases o with
  | setChannel | setGain | setResolution | setMode => exact setField_sent _ _ _ _ h
  | readRaw readyNull => exact readRaw_sent readyNull _ _ _ _ h
  | readBlocking => exact readBlocking_sent _ _ _ _ h

theorem init_aims {block : I2c} {sda scl : UInt32} {addr : UInt8} {tr : List (Event Call Answer)}
    {ret : Int32} (h : Exec busEnv (init false block sda scl addr) s g tr ret s' g') :
    s' = ⟨block, addr, defaultConfig⟩ ∧ ∀ q, lastStored q tr = none := by
  refine ⟨?_, lastStored_silent (silent_init ..) h⟩
  have hspec : Ensures busEnv (init false block sda scl addr)
      (fun _ _ s' _ => s' = ⟨block, addr, defaultConfig⟩) s g := by
    simp [init]
  exact hspec _ _ _ _ h

/-! ## Runs -/

/-- An operation of its own keeps a handle in step just if no setter failed
with a new value. If it stored something the shadow is that; if not, only the
field of a failed setter can differ. -/
theorem agrees_program {o : Op} {tr : List (Event Call Answer)} {ret : o.Ret}
    (h : Exec busEnv (program o) s g tr ret s' g') (ha : Agrees s g) :
    Agrees s' g' ↔ OwnSpares s g (.use o) tr ret := by
  have hsent := program_sent h
  have hstores := exec_stores h s.place
  rw [Agrees, hsent.place, OwnSpares]
  cases hlast : lastStored s.place tr with
  | some data =>
      rw [hlast] at hstores
      obtain ⟨hdata, hfailed⟩ := hsent.stored data hlast
      rw [hfailed]
      exact ⟨fun _ _ _ heq => (by cases heq), fun _ => (hstores.trans hdata).symm⟩
  | none =>
      rw [hlast] at hstores
      have hshadow := hsent.unstored hlast
      have hkept : SameConfig s.config (g' s.place) := SameConfig.trans ha hstores.symm
      cases hfailed : AdcLabel.failed (.op o tr ret) with
      | none =>
          rw [hfailed] at hshadow
          rw [hshadow]
          exact ⟨fun _ _ _ heq => (by cases heq), fun _ => hkept⟩
      | some a =>
          obtain ⟨f, value⟩ := a
          rw [hfailed] at hshadow
          rw [hshadow]
          constructor
          · intro hput f' value' heq
            cases heq
            exact sameConfig_put.mp (SameConfig.trans hput hkept.symm)
          · intro hspares
            show SameConfig (f.put s.config value) _
            rw [put_eq_iff.mpr (hspares f value rfl)]
            exact hkept

/-- `mcp342x_init` writes the reset configuration into the shadow and nothing
into the chip, so it keeps a handle in step just if it finds its chip reset,
or was given `NULL` and returned. -/
theorem agrees_init {devNull : Bool} {block : I2c} {sda scl : UInt32} {addr : UInt8}
    {tr : List (Event Call Answer)} {ret : Int32}
    (h : Exec busEnv (init devNull block sda scl addr) s g tr ret s' g') (ha : Agrees s g) :
    Agrees s' g' ↔ OwnSpares s g (.init devNull block sda scl addr) tr ret := by
  cases devNull with
  | true =>
      obtain ⟨-, -, rfl, rfl⟩ := exec_ret.mp h
      exact ⟨fun _ => .inl rfl, fun _ => ha⟩
  | false =>
      obtain ⟨rfl, hlast⟩ := init_aims h
      have hstores := exec_stores h (block, addr)
      rw [hlast] at hstores
      constructor
      · exact fun hagree => .inr (SameConfig.trans hstores.symm (SameConfig.symm hagree))
      · rintro (hnull | hreset)
        · cases hnull
        · exact (SameConfig.trans hstores hreset).symm

/-- Another handle keeps a handle in step just if what it stores in the same
chip is what the shadow says. -/
theorem agrees_other {α : Type} {t t' : Dev} {p : Api α} {tr : List (Event Call Answer)} {a : α}
    (h : Exec busEnv p t g tr a t' g') (ha : Agrees s g) :
    Agrees s g' ↔ ∀ data, lastStored s.place tr = some data → SameConfig data s.config := by
  have hstores := exec_stores h s.place
  cases hlast : lastStored s.place tr with
  | none =>
      rw [hlast] at hstores
      exact ⟨fun _ _ heq => (by cases heq), fun _ => SameConfig.trans ha hstores.symm⟩
  | some data =>
      rw [hlast] at hstores
      constructor
      · intro hagree _ heq
        cases heq
        exact (SameConfig.trans hagree hstores).symm
      · exact fun hspares => (SameConfig.trans hstores (hspares data rfl)).symm

/-- Step lemma: from agreement, a step keeps a handle and its chip together
exactly if it spares it, whether the step is the handle's own, another's or
nobody's. -/
theorem bus_step {K : Type} {k : K} {z : BusRec K} (h : BusStep K z.pre z.label z.post)
    (ha : Agrees (z.pre.1 k) z.pre.2) : Agrees (z.post.1 k) z.post.2 ↔ Spares k z := by
  obtain ⟨⟨m, g⟩, ⟨j, l⟩, ⟨m', g'⟩⟩ := z
  have hstill : j ≠ k → m' k = m k := fun hne => h.others k fun heq => hne heq.symm
  cases l with
  | tick =>
      have hsame : m' k = m k := by
        by_cases hjk : j = k
        · subst hjk
          exact h.own.ticked.1
        · exact hstill hjk
      show Agrees (m' k) g' ↔ SameConfig (g' (m k).place) (g (m k).place)
      rw [hsame]
      exact ⟨fun hagree => SameConfig.trans (SameConfig.symm hagree) ha,
        fun hkept => SameConfig.trans ha hkept.symm⟩
  | op o tr ret =>
      by_cases hjk : j = k
      · subst hjk
        have hown : Agrees (m' j) g' ↔ OwnSpares (m j) g o tr ret := by
          cases o with
          | init devNull block sda scl addr => exact agrees_init h.own.exec ha
          | use o => exact agrees_program h.own.exec ha
        exact hown.trans ⟨fun hs => ⟨fun _ => hs, fun hne => (hne rfl).elim⟩, fun hs => hs.1 rfl⟩
      · have hother := agrees_other h.own.exec ha
        show Agrees (m' k) g' ↔ _
        rw [hstill hjk]
        exact hother.trans ⟨fun hs => ⟨fun heq => (hjk heq).elim, fun _ => hs⟩, fun hs => hs.2 hjk⟩

/-- From whatever state, an acknowledged write of its own brings a handle in
step, since every write sends all of the shadow. -/
theorem syncs_agrees {K : Type} {k : K} {x : BusRec K} (h : BusStep K x.pre x.label x.post)
    (hx : Syncs k x) : Agrees (x.post.1 k) x.post.2 := by
  obtain ⟨⟨m, g⟩, l, ⟨m', g'⟩⟩ := x
  obtain ⟨o, tr, ret, rfl, hlast⟩ := hx
  have hexec := h.own.exec
  have hsent := program_sent hexec
  obtain ⟨data, hlast⟩ := Option.isSome_iff_exists.mp hlast
  have hstores := exec_stores hexec (m k).place
  rw [hlast] at hstores
  show SameConfig (m' k).config (g' (m' k).place)
  rw [hsent.place]
  exact (SameConfig.trans hstores (hsent.stored data hlast).1).symm

/-- In every run of any number of handles on shared buses, from any shadows
and registers: after an acknowledged write of its own a handle agrees with its
chip, and goes on agreeing exactly as long as every step spares it. By
induction on what follows the write. -/
theorem shadow_resyncs {K : Type} {k : K} {w₀ w : (K → Dev) × Registers} {ys zs : List (BusRec K)}
    {x : BusRec K} (h : Run (BusStep K) w₀ (ys ++ x :: zs) w) (hx : Syncs k x) :
    Agrees (x.post.1 k) x.post.2
      ∧ ((∀ z ∈ zs, Agrees (z.post.1 k) z.post.2) ↔ ∀ z ∈ zs, Spares k z) := by
  obtain ⟨w₁, -, h⟩ := h.split
  obtain ⟨hpre, hstep, h⟩ := h.head
  have hagree : Agrees (x.post.1 k) x.post.2 := syncs_agrees (hpre ▸ hstep) hx
  exact ⟨hagree, h.forall_iff (fun w => Agrees (w.1 k) w.2) _ _ hagree
    (fun _ hs ha => bus_step hs ha) fun _ _ hpost _ => hpost⟩

/-! ## Two converters on the bench -/

/-- Chips that acknowledge everything and always have a sample ready. -/
def benchChips (g : Registers) : (i : Call) → Answer i × Registers
  | .i2cWriteBlocking i2c address data => (1, Function.update g (i2c, address) data)
  | .i2cReadBlocking i2c address => ((3, ⟨0x12, 0x34, g (i2c, address) &&& 0x7F⟩), g)
  | .i2cInit _ _ => ((), g)
  | .gpioSetFunctionI2c _ => ((), g)
  | .gpioPullUp _ => ((), g)
  | .sleepUs _ => ((), g)

theorem benchChips_answers : Answers benchChips busEnv := by
  intro g i q
  cases i with
  | i2cWriteBlocking i2c address data =>
      by_cases hq : (i2c, address) = q
      · subst hq
        simp [benchChips, stored, SameConfig]
      · simp [benchChips, stored, hq, Function.update_of_ne (Ne.symm hq), SameConfig]
  | _ => rfl

theorem bench_run {K : Type} [DecidableEq K] {os : List (K × HandleOp)}
    {w w' : (K → Dev) × Registers} {xs : List (BusRec K)}
    (heval : evalShared (fun _ => handleProgram) (fun _ _ _ => benchChips) 1 os w = some (xs, w')) :
    Run (BusStep K) w xs w' :=
  evalShared_run (E := fun _ _ _ => busEnv) (fun _ _ _ _ _ => benchChips_answers) heval

/-- Two handles after a brown-out of the first one's chip. -/
def brownOut : (Bool → Dev) × Registers :=
  (fun k => ⟨0, if k then 0x69 else 0x68, 0x1C⟩,
    Function.update (fun _ => 0x1C) (0, 0x68) defaultConfig)

/-- The first handle sets its chip to one-shot mode after the brown-out; the
whole shadow goes with it, and the second handle on the bus spares it. -/
theorem shadow_resyncs_brown_out :
    ¬Agrees (brownOut.1 false) brownOut.2 ∧
      ∃ x z z' w, Run (BusStep Bool) brownOut ([] ++ [x, z, z']) w ∧ Agrees (w.1 false) w.2
        ∧ w.1 false = ⟨0, 0x68, 0x0C⟩ ∧ w.2 (0, 0x68) = 0x8C := by
  have hrun := bench_run (show evalShared (fun _ : Bool => handleProgram) (fun _ _ _ => benchChips)
    1 [(false, .use (.setMode 0)), (true, .use (.setGain 2)), (false, .use .readBlocking)] brownOut
    = some ([_, _, _], _) from rfl)
  have hagrees := shadow_resyncs (k := false) (show Run _ _ ([] ++ _ :: _) _ from hrun)
    ⟨_, _, _, rfl, rfl⟩
  refine ⟨(by decide : ¬SameConfig 0x1C defaultConfig), _, _, _, _, hrun,
    hagrees.2.mpr (List.forall_mem_cons.mpr ⟨?_, List.forall_mem_singleton.mpr ?_⟩) _
      (List.mem_cons_of_mem _ (List.mem_singleton_self _)), rfl, rfl⟩
  · exact ⟨fun heq => (by cases heq), fun _ data hdata => (by cases hdata)⟩
  · exact ⟨fun _ f value hf => (by cases hf), fun hne => (hne rfl).elim⟩

end Mcp342x

end LeosSdk
