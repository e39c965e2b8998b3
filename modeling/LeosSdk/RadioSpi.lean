import LeosSdk.RadioLinux

/-!
# SX126x: which SPI bus a radio's traffic takes

On Linux `leos_sx126x_spi_write_read_ctx` opens its transfer on the descriptor
behind the context's own `platform_spi`. On the Pico it uses `g_spi_port`, a
global that `leos_sx126x_link_handle` overwrites with the bus of whichever
radio is being initialised, before that initialisation is known to succeed. So
on the Pico a radio's traffic follows the radio that was linked last.

A transfer is recorded with the radio it is for and the `platform_spi` it went
through: the `spi_inst_t *` on the Pico, the `int *` on Linux. The vendor
driver may make any transfers in any of its calls, so what is said of a step
is said of whatever it made.

On Linux nothing has to be assumed, and each step is right by itself. On the
Pico the invariant is that the port is on the bus of every initialised radio
(`Routes`). A step either rides on the bus the port is on (`Rides`) or is an
`init` that switches the port to its own bus, whatever comes of it afterwards
(`pico_step`). The first keeps the invariant; the second does just if the bus
is also the one of any other initialised radio, which is `LinksSameBus`. If it
is not, the port is taken from that radio in the same step, so the step that
breaks the rule is also the one where routing fails.
-/

namespace LeosSdk

namespace Sx126x

/-! ## Transfers -/

/-- One `spi_write_read` request of the vendor driver: whether there are
bytes to write and to read, whether the port's own calls before the (second)
transfer work, and the descriptors the caller's `int`s hold. -/
structure SpiRequest where
  write : Bool
  read : Bool
  works : Bool
  fds : Nat → Int32

/-- A port and the transfers made so far. -/
structure Routed (P : Type) where
  port : P
  transfers : List (Radio × Option Nat)

def Routed.transfer {P : Type} (b : Routed P) (radio : Radio) (buses : List (Option Nat)) :
    Routed P :=
  { b with transfers := b.transfers ++ buses.map (radio, ·) }

/-- Calls that stay on the microcontroller. -/
def Call.isLocal : Call → Bool
  | .platformNowMs | .irqPending | .setIrqPending _ | .setIrqLatchedAtMs _ => true
  | _ => false

/-! ## The Pico port -/

/-- The globals of `sx126x_port_pico.c`. -/
structure PicoPort where
  spiInitialized : Bool
  spiPort : Option Nat
  spiBaudHz : UInt32
  spiPinSck : UInt32
  spiPinMosi : UInt32
  spiPinMiso : UInt32

/-- The globals `leos_sx126x_link_handle` sets. -/
def picoLinkHandle (hw : RadioHwConfig) (p : PicoPort) : PicoPort :=
  { p with
    spiPort := hw.platformSpi
    spiBaudHz := hw.spiBaudHz
    spiPinSck := hw.pinSck
    spiPinMosi := hw.pinMosi
    spiPinMiso := hw.pinMiso }

def picoSpiHwInit (p : PicoPort) : UInt8 × PicoPort :=
  if p.spiInitialized then (0, p)
  else match p.spiPort with
    | none => (1, p)
    | some _ => (0, { p with spiInitialized := true })

/-- The buses `leos_sx126x_spi_write_read_ctx` transfers on. -/
def picoSpiWriteRead (p : PicoPort) (q : SpiRequest) : List (Option Nat) :=
  (if q.write then [p.spiPort] else []) ++
  (if q.read && (!q.write || q.works) then [p.spiPort] else [])

/-- The driver of `radio` on the Pico. `leos_sx126x_link_handle` runs right
before `sx1262_init`, which may or may not reach `spi_hw_init`. -/
def picoEnv (radio : Radio) (hw : RadioHwConfig) : Env (Routed PicoPort) Call Answer :=
  fun b i _ b' =>
    match i with
    | .cmd .init => ∃ p, (p = picoLinkHandle hw b.port
          ∨ p = (picoSpiHwInit (picoLinkHandle hw b.port)).2)
        ∧ ∃ qs : List SpiRequest,
          b' = ({ b with port := p } : Routed PicoPort).transfer radio
            (qs.flatMap (picoSpiWriteRead p))
    | i => ∃ qs : List SpiRequest, (i.isLocal = true → qs = [])
        ∧ b' = b.transfer radio (qs.flatMap (picoSpiWriteRead b.port))

/-! ## The Linux port -/

def linuxSpiFd (fds : Nat → Int32) (hw : RadioHwConfig) : Int32 :=
  match hw.platformSpi with
  | none => -1
  | some p => fds p

def linuxSpiWriteRead (radio : Radio) (hw : RadioHwConfig) (p : LinuxPort)
    (q : SpiRequest) : List (Option Nat) :=
  if !(p.gpio radio).nssReq then []
  else if linuxSpiFd q.fds hw < 0 then []
  else if !q.write && !q.read then []
  else if !q.works then []
  else [hw.platformSpi]

/-- The driver of `radio` on Linux. `sx1262_init` may reach `reset_gpio_init`
and give the lines back, `sx1262_deinit` may give them back. -/
def linuxSpiEnv (radio : Radio) (hw : RadioHwConfig) : Env (Routed LinuxPort) Call Answer :=
  fun b i _ b' => ∃ p p' : LinuxPort, ∃ qs : List SpiRequest,
    (p = b.port ∨ i = .cmd .init ∧ ∃ g, p = (gpioInitCtx g radio hw b.port).2)
    ∧ (p' = p ∨ (i = .cmd .init ∨ i = .cmd .deinit) ∧ p' = gpioDeinitCtx radio p)
    ∧ (i.isLocal = true → qs = [])
    ∧ b' = { b.transfer radio (qs.flatMap (linuxSpiWriteRead radio hw p)) with port := p' }

/-! ## The two properties -/

section Properties

variable {P : Type}

/-- Only transfers for `radio` over `bus` were added. -/
def Grown (radio : Radio) (bus : Option Nat) (b b' : Routed P) : Prop :=
  ∃ buses : List (Option Nat),
    b'.transfers = b.transfers ++ buses.map (radio, ·) ∧ ∀ c ∈ buses, c = bus

/-- What the step transferred was for its own radio and over the bus that
radio's `hw_config` names; in the records of the step this is the difference
of the two transfer lists. -/
def OwnBus (x : Rec (Pair (Routed P)) PairLabel) : Prop :=
  Grown x.label.1 (x.post.1 x.label.1).hwConfig.platformSpi x.pre.2 x.post.2

/-- The step leaves the bus any other initialised radio uses: `bus` says
which one the port takes for a configuration. -/
def BusKept (bus : P → RadioHwConfig → Option Nat)
    (x : Rec (Pair (Routed P)) PairLabel) : Prop :=
  ∀ radio, radio ≠ x.label.1 → (x.pre.1 radio).initialized = true →
    bus x.post.2.port (x.post.1 radio).hwConfig = bus x.pre.2.port (x.pre.1 radio).hwConfig

/-- The `hw_config` an `init` past its guards links the handle with. -/
def links (s : Ctx) : RadioLabel → Option RadioHwConfig
  | .op (.init (some hwCfg) (some _)) _ _ => if s.initialized then none else some hwCfg
  | _ => none

/-- An `init` that links beside an initialised radio names that radio's bus. -/
def LinksSameBus (x : Rec (Pair (Routed P)) PairLabel) : Prop :=
  ∀ hwCfg, links (x.pre.1 x.label.1) x.label.2 = some hwCfg →
    ∀ radio, radio ≠ x.label.1 → (x.pre.1 radio).initialized = true →
      hwCfg.platformSpi = (x.pre.1 radio).hwConfig.platformSpi

variable {radio : Radio} {bus : Option Nat} {b b' b'' : Routed P}

theorem grown_refl : Grown radio bus b b := ⟨[], by simp, by simp⟩

theorem Grown.trans (h : Grown radio bus b b') (h' : Grown radio bus b' b'') :
    Grown radio bus b b'' := by
  obtain ⟨buses, heq, hall⟩ := h
  obtain ⟨buses', heq', hall'⟩ := h'
  exact ⟨buses ++ buses', by simp [heq, heq'], List.forall_mem_append.mpr ⟨hall, hall'⟩⟩

theorem grown_flatMap {f : SpiRequest → List (Option Nat)} {qs : List SpiRequest}
    (hf : ∀ q, ∀ c ∈ f q, c = bus) : ∀ c ∈ qs.flatMap f, c = bus := by
  intro c hc
  obtain ⟨q, -, hq⟩ := List.mem_flatMap.mp hc
  exact hf q c hq

end Properties

/-! ## Linux: every step -/

theorem linuxSpiWriteRead_own {radio : Radio} {hw : RadioHwConfig} {p : LinuxPort}
    (q : SpiRequest) : ∀ c ∈ linuxSpiWriteRead radio hw p q, c = hw.platformSpi := by
  unfold linuxSpiWriteRead
  split_ifs <;> simp

theorem grown_linuxSpiEnv {radio : Radio} {hw : RadioHwConfig} {b b' : Routed LinuxPort}
    {i : Call} {r : Answer i} (h : linuxSpiEnv radio hw b i r b') :
    Grown radio hw.platformSpi b b' := by
  obtain ⟨p, p', qs, -, -, -, rfl⟩ := h
  exact ⟨_, rfl, grown_flatMap linuxSpiWriteRead_own⟩

abbrev LinuxSpiStep : Pair (Routed LinuxPort) → PairLabel → Pair (Routed LinuxPort) → Prop :=
  PairStep linuxSpiEnv

def linuxBus (_ : LinuxPort) (hw : RadioHwConfig) : Option Nat := hw.platformSpi

theorem linux_ownBus {x : Rec (Pair (Routed LinuxPort)) PairLabel}
    (h : LinuxSpiStep x.pre x.label x.post) : OwnBus x := by
  have hhw := step_hwConfig h.own
  have hown := h.own
  obtain ⟨⟨ctx, b⟩, ⟨radio, l⟩, ctx', b'⟩ := x
  unfold OwnBus
  dsimp only at hown hhw ⊢
  rw [hhw]
  generalize labelHw (ctx radio) l = hw at hown ⊢
  generalize ctx radio = s at hown
  generalize ctx' radio = s' at hown
  cases hown with
  | tick ht => exact ht.elim
  | @op o s e tr r s' e' hx =>
      exact ensures_keeps (J := Grown radio hw.platformSpi b)
        (fun _ _ _ _ hgrown hr => hgrown.trans (grown_linuxSpiEnv hr)) _ grown_refl _ _ _ _ hx

theorem linux_busKept {x : Rec (Pair (Routed LinuxPort)) PairLabel}
    (h : LinuxSpiStep x.pre x.label x.post) : BusKept linuxBus x := by
  intro radio hr _
  rw [h.others radio hr]
  rfl

/-! ## Pico: what a step does to the port -/

section Pico

variable {radio : Radio} {hw : RadioHwConfig} {s s' : Ctx} {b b' b'' : Routed PicoPort}

theorem picoSpiHwInit_spiPort (p : PicoPort) : (picoSpiHwInit p).2.spiPort = p.spiPort := by
  unfold picoSpiHwInit
  split
  · rfl
  · split <;> rfl

theorem picoSpiWriteRead_own (p : PicoPort) (q : SpiRequest) :
    ∀ c ∈ picoSpiWriteRead p q, c = p.spiPort := by
  unfold picoSpiWriteRead
  split_ifs <;> simp

/-- The port stays and only transfers over its current bus are added. Every
driver call other than bringing the driver up is of this sort. -/
structure Rides (radio : Radio) (b b' : Routed PicoPort) : Prop where
  port : b'.port = b.port
  grown : Grown radio b.port.spiPort b b'

theorem rides_refl : Rides radio b b := ⟨rfl, grown_refl⟩

theorem Rides.trans (h : Rides radio b b') (h' : Rides radio b' b'') : Rides radio b b'' where
  port := h'.port.trans h.port
  grown := h.grown.trans (h.port ▸ h'.grown)

theorem rides_picoEnv {i : Call} {r : Answer i} (hi : i ≠ .cmd .init)
    (h : picoEnv radio hw b i r b') : Rides radio b b' := by
  unfold picoEnv at h
  split at h
  · exact absurd rfl hi
  · obtain ⟨qs, -, rfl⟩ := h
    exact ⟨rfl, _, rfl, grown_flatMap (picoSpiWriteRead_own b.port)⟩

theorem picoEnv_local {i : Call} {r : Answer i} (hi : i.isLocal = true)
    (h : picoEnv radio hw b i r b') : b' = b := by
  unfold picoEnv at h
  split at h
  · cases hi
  · obtain ⟨qs, hqs, rfl⟩ := h
    rw [hqs hi]
    simp [Routed.transfer]

/-- Bringing the driver up switches the port to the configuration's bus,
whatever comes of it. -/
theorem linked_picoEnv {rc : UInt8} (h : picoEnv radio hw b (.cmd .init) rc b') :
    b'.port.spiPort = hw.platformSpi ∧ Grown radio hw.platformSpi b b' := by
  obtain ⟨p, hp, qs, rfl⟩ := h
  have hspi : p.spiPort = hw.platformSpi := by
    rcases hp with rfl | rfl
    · rfl
    · exact picoSpiHwInit_spiPort _
  exact ⟨hspi, _, rfl, hspi ▸ grown_flatMap (picoSpiWriteRead_own p)⟩

theorem rides_program {α : Type} {p : Api α} (hp : p.CallsOnly Call.Plain) :
    Ensures (picoEnv radio hw) p (fun _ _ _ b' => Rides radio b b') s b := by
  refine hp.keeps (J := Rides radio b) (fun _ _ _ _ hi hrides hr => ?_) rides_refl
  refine hrides.trans (rides_picoEnv ?_ hr)
  rintro rfl
  exact hi

/-- An `init` past its guards leaves the port on its own bus, and that is
where all its transfers went, also if it fails afterwards. -/
theorem init_pico {hwCfg : RadioHwConfig} {cfg : RadioConfig} (hi : s.initialized = false) :
    Ensures (picoEnv radio hw) (init (some hwCfg) (some cfg)) (fun _ _ _ b' =>
      b'.port.spiPort = hw.platformSpi ∧ Grown radio hw.platformSpi b b') s b := by
  simp only [init, ensures_bind, ensures_read, ensures_ite, ensures_pure,
    ensures_modify, ensures_ask, ensures_driver, hi, Bool.false_eq_true, false_implies,
    not_false_eq_true, true_implies, true_and]
  intro _ b₁ h₁ _ b₂ h₂ rc b₃ hinit
  obtain rfl : b₁ = b := picoEnv_local rfl h₁
  obtain rfl : b₂ = b₁ := picoEnv_local rfl h₂
  obtain ⟨hspi, hgrown⟩ := linked_picoEnv hinit
  refine ⟨fun _ => ⟨hspi, hgrown⟩, fun _ => ?_⟩
  refine (rides_program plain_applyConfig).mono fun _ status s₄ b₄ hr => ?_
  have hafter : ∀ b₅, Rides radio b₃ b₅ →
      b₅.port.spiPort = hw.platformSpi ∧ Grown radio hw.platformSpi b₂ b₅ := by
    intro b₅ hr'
    rw [hr'.port]
    exact ⟨hspi, hgrown.trans (hspi ▸ hr'.grown)⟩
  exact ⟨fun _ _ b₅ hdeinit => hafter b₅ (hr.trans (rides_picoEnv (by simp) hdeinit)),
    fun _ => hafter b₄ hr⟩

theorem init_refused {ε : Type} {E : Env ε Call Answer} {e : ε} {hwCfg : Option RadioHwConfig}
    {cfg : Option RadioConfig} (h : hwCfg = none ∨ cfg = none ∨ s.initialized = true) :
    Ensures E (init hwCfg cfg) (fun _ _ s' e' => s' = s ∧ e' = e) s e := by
  rcases hwCfg with _ | hwCfg
  · simp [init]
  rcases cfg with _ | cfg
  · simp [init]
  have hi : s.initialized = true := by simpa using h
  simp [init, ensures_ite, hi]

end Pico

abbrev PicoStep : Pair (Routed PicoPort) → PairLabel → Pair (Routed PicoPort) → Prop :=
  PairStep picoEnv

def picoBus (p : PicoPort) (_ : RadioHwConfig) : Option Nat := p.spiPort

/-- A step of `radio` makes its transfers over the bus the port is on and
leaves everything else, or it is an `init` that switches the port to its own
bus. -/
inductive PicoEffect (radio : Radio) (l : RadioLabel) (w w' : Ctx × Routed PicoPort) : Prop
  | rode (hl : links w.1 l = none) (hsame : SameConfigs w.1 w'.1)
      (hr : Rides radio w.2 w'.2) (hu : w.1.initialized = false → w'.2 = w.2)
  | linked {hwCfg : RadioHwConfig} (hl : links w.1 l = some hwCfg)
      (hhw : w'.1.hwConfig = hwCfg) (hspi : w'.2.port.spiPort = hwCfg.platformSpi)
      (hg : Grown radio hwCfg.platformSpi w.2 w'.2)

theorem links_none {s : Ctx} {hwCfg : Option RadioHwConfig} {cfg : Option RadioConfig}
    {tr : List (Event Call Answer)} {r : RadioStatus}
    (h : hwCfg = none ∨ cfg = none ∨ s.initialized = true) :
    links s (.op (.init hwCfg cfg) tr r) = none := by
  rcases hwCfg with _ | hwCfg
  · rfl
  rcases cfg with _ | cfg
  · rfl
  have hi : s.initialized = true := by simpa using h
  simp [links, hi]

theorem pico_step {radio : Radio} {l : RadioLabel} {w w' : Ctx × Routed PicoPort}
    (h : Session program (picoEnv radio (labelHw w.1 l)) (fun _ _ => False) w l w') :
    PicoEffect radio l w w' := by
  have hhw := step_hwConfig h
  cases h with
  | tick ht => exact ht.elim
  | @op o s e tr r s' e' hx =>
      cases ho : o.isInit with
      | true =>
          cases o with
          | init hwCfg cfg =>
              by_cases href : hwCfg = none ∨ cfg = none ∨ s.initialized = true
              · obtain ⟨rfl, rfl⟩ := init_refused href _ _ _ _ hx
                exact .rode (links_none href) ⟨rfl, rfl, rfl⟩ rides_refl fun _ => rfl
              · rcases hwCfg with _ | hwCfg
                · simp at href
                rcases cfg with _ | cfg
                · simp at href
                have hi : s.initialized = false := by simpa using href
                have heq : labelHw s (.op (.init (some hwCfg) (some cfg)) tr r) = hwCfg := by
                  simp [labelHw, linkedHw, hi]
                rw [heq] at hx hhw
                obtain ⟨hspi, hg⟩ := init_pico hi _ _ _ _ hx
                exact .linked (by simp [links, hi]) hhw hspi hg
          | _ => cases ho
      | false =>
          have hl : links s (.op o tr r) = none := by
            cases o with
            | init => cases ho
            | _ => rfl
          exact .rode hl (sameConfigs_op (program_spec o _ _ _ _ hx) ho)
            (rides_program (plain_program o ho) _ _ _ _ hx)
            fun hi => uninitialised_op hi ho _ _ _ _ hx

/-! ## Runs -/

/-- The port is on the bus of every initialised radio. -/
def Routes (w : Pair (Routed PicoPort)) : Prop :=
  ∀ radio, (w.1 radio).initialized = true →
    w.2.port.spiPort = (w.1 radio).hwConfig.platformSpi

variable {x : Rec (Pair (Routed PicoPort)) PairLabel}

theorem routes_step (h : PicoStep x.pre x.label x.post) (hw : Routes x.pre)
    (hk : BusKept picoBus x) : Routes x.post := by
  intro radio hi
  by_cases hr : radio = x.label.1
  · subst hr
    cases pico_step h.own with
    | rode _ hsame hr _ =>
        rw [hr.port, hsame.hwConfig]
        exact hw _ (hsame.initialized ▸ hi)
    | linked _ hhw hspi => rw [hspi, hhw]
  · have hpre := h.others radio hr
    rw [hpre] at hi ⊢
    exact (hk radio hr hi).trans (hw radio hi)

/-- A step that leaves the bus of the other initialised radios linked no other
bus. -/
theorem linksSameBus_of_kept (h : PicoStep x.pre x.label x.post) (hw : Routes x.pre)
    (hk : BusKept picoBus x) : LinksSameBus x := by
  intro hwCfg hl radio hr hi
  have hkept : x.post.2.port.spiPort = x.pre.2.port.spiPort := hk radio hr hi
  cases pico_step h.own with
  | rode hl' => rw [hl] at hl'; cases hl'
  | linked hl' _ hspi =>
      obtain rfl : hwCfg = _ := Option.some.inj (hl.symm.trans hl')
      rw [← hspi, hkept, hw radio hi]

/-- And one that links no other bus leaves theirs, and makes its transfers
over its own. -/
theorem kept_of_linksSameBus (h : PicoStep x.pre x.label x.post) (hw : Routes x.pre)
    (hs : LinksSameBus x) : OwnBus x ∧ BusKept picoBus x := by
  cases pico_step h.own with
  | rode _ hsame hr hu =>
      refine ⟨?_, fun _ _ _ => congrArg PicoPort.spiPort hr.port⟩
      unfold OwnBus
      rw [hsame.hwConfig]
      cases hi : (x.pre.1 x.label.1).initialized with
      | true => exact hw _ hi ▸ hr.grown
      | false =>
          have hsame : x.post.2 = x.pre.2 := hu hi
          rw [hsame]
          exact grown_refl
  | @linked hwCfg hl hhw hspi hg =>
      refine ⟨?_, fun radio hr hi => ?_⟩
      · unfold OwnBus
        rw [hhw]
        exact hg
      · show x.post.2.port.spiPort = x.pre.2.port.spiPort
        have hsame := hs hwCfg hl radio hr hi
        calc x.post.2.port.spiPort = hwCfg.platformSpi := hspi
          _ = (x.pre.1 radio).hwConfig.platformSpi := hsame
          _ = x.pre.2.port.spiPort := (hw radio hi).symm

/-- In every run on Linux each transfer takes its own radio's bus and no step
moves another radio's. On the Pico that holds in a run exactly if every
`leos_sx126x_init` that links its handle beside an initialised radio, also one
that then fails, names the `platform_spi` of that radio. The two directions
are those of one step, under `Routes`. -/
theorem ports_route_alike_iff {pl : Routed LinuxPort}
    {ys : List (Rec (Pair (Routed LinuxPort)) PairLabel)} {wl : Pair (Routed LinuxPort)}
    (hl : Run LinuxSpiStep (pairStart pl) ys wl)
    {pp : Routed PicoPort} {xs : List (Rec (Pair (Routed PicoPort)) PairLabel)}
    {wp : Pair (Routed PicoPort)} (hp : Run PicoStep (pairStart pp) xs wp) :
    (∀ y ∈ ys, OwnBus y ∧ BusKept linuxBus y)
      ∧ ((∀ x ∈ xs, OwnBus x ∧ BusKept picoBus x) ↔ ∀ x ∈ xs, LinksSameBus x) := by
  constructor
  · intro y hy
    have hstep := hl.step_of_mem hy
    exact ⟨linux_ownBus hstep, linux_busKept hstep⟩
  · have hstart : Routes (pairStart pp) := fun _ hi => by cases hi
    refine hp.forall_iff Routes (fun x => OwnBus x ∧ BusKept picoBus x) LinksSameBus hstart
      (fun x hs hw => ?_) fun x hs hkept hw => routes_step hs hw hkept.2
    exact ⟨fun hkept => linksSameBus_of_kept hs hw hkept.2, kept_of_linksSameBus hs hw⟩

/-! ## Two buses on the bench -/

def benchRequest : SpiRequest := ⟨true, false, true, fun _ => 3⟩

/-- Everything works, and every driver call writes once. -/
def picoBench (radio : Radio) (hw : RadioHwConfig) (b : Routed PicoPort) :
    (i : Call) → Answer i × Routed PicoPort
  | .cmd .init =>
    let up := picoSpiHwInit (picoLinkHandle hw b.port)
    (up.1, ({ b with port := up.2 } : Routed PicoPort).transfer radio
      (picoSpiWriteRead up.2 benchRequest))
  | i => (plainAnswer i,
    if i.isLocal then b else b.transfer radio (picoSpiWriteRead b.port benchRequest))

theorem picoBench_answers (radio : Radio) (hw : RadioHwConfig) :
    Answers (picoBench radio hw) (picoEnv radio hw) := by
  intro b i
  have hquiet : picoEnv radio hw b i (plainAnswer i)
      (if i.isLocal then b else b.transfer radio (picoSpiWriteRead b.port benchRequest))
      ∨ i = .cmd .init := by
    unfold picoEnv
    split
    · exact .inr rfl
    · refine .inl ?_
      split
      · exact ⟨[], fun _ => rfl, by simp [Routed.transfer]⟩
      · rename_i hl
        exact ⟨[benchRequest], fun hl' => absurd hl' hl, by simp⟩
  unfold picoBench
  split
  · exact ⟨_, .inr rfl, [benchRequest], by simp⟩
  · exact hquiet.resolve_right (by assumption)

def linuxSpiBench (radio : Radio) (hw : RadioHwConfig) (b : Routed LinuxPort) :
    (i : Call) → Answer i × Routed LinuxPort
  | .cmd .init =>
    let up := gpioInitCtx .granted radio hw b.port
    (up.1, ({ b with port := up.2 } : Routed LinuxPort).transfer radio
      (linuxSpiWriteRead radio hw up.2 benchRequest))
  | i => (plainAnswer i, if i.isLocal then b
    else b.transfer radio (linuxSpiWriteRead radio hw b.port benchRequest))

theorem linuxSpiBench_answers (radio : Radio) (hw : RadioHwConfig) :
    Answers (linuxSpiBench radio hw) (linuxSpiEnv radio hw) := by
  intro b i
  unfold linuxSpiBench
  split
  · exact ⟨_, _, [benchRequest], .inr ⟨rfl, .granted, rfl⟩, .inl rfl, fun h => (by cases h),
      by simp [Routed.transfer]⟩
  · split
    · exact ⟨_, _, [], .inl rfl, .inl rfl, fun _ => rfl, by simp [Routed.transfer]⟩
    · rename_i hl
      exact ⟨_, _, [benchRequest], .inl rfl, .inl rfl, fun hl' => absurd hl' hl,
        by simp [Routed.transfer]⟩

def picoPowerOn : Routed PicoPort := ⟨⟨false, none, 0, 0, 0, 0⟩, []⟩

/-- `LinksSameBus` and `OwnBus`, computed. -/
def linksSameBus (x : Rec (Pair (Routed PicoPort)) PairLabel) : Bool :=
  match links (x.pre.1 x.label.1) x.label.2 with
  | none => true
  | some hwCfg => [Radio.sx1262, .sx1268].all fun radio =>
      radio == x.label.1 || !(x.pre.1 radio).initialized
        || hwCfg.platformSpi == (x.pre.1 radio).hwConfig.platformSpi

def ownBus (x : Rec (Pair (Routed PicoPort)) PairLabel) : Bool :=
  (x.post.2.transfers.drop x.pre.2.transfers.length).all
    (· == (x.label.1, (x.post.1 x.label.1).hwConfig.platformSpi))

theorem linksSameBus_iff (h : linksSameBus x = true) : LinksSameBus x := by
  intro hwCfg hl radio hr hi
  have hradio : radio ∈ [Radio.sx1262, .sx1268] := by cases radio <;> simp
  rw [linksSameBus, hl] at h
  have := List.all_eq_true.mp h radio hradio
  simpa [hr, hi] using this

theorem OwnBus.computed (h : OwnBus x) : ownBus x = true := by
  obtain ⟨buses, heq, hall⟩ := h
  unfold ownBus
  rw [heq, List.drop_left, List.all_eq_true]
  intro t ht
  obtain ⟨c, hc, rfl⟩ := List.mem_map.mp ht
  rw [hall c hc]
  exact beq_self_eq_true _

/-- Two buses on Linux, one on the Pico. -/
theorem ports_route_alike_iff_shared : ∃ ys wl xs wp,
    Run LinuxSpiStep (pairStart ⟨linuxPowerOn.port, []⟩) ys wl
      ∧ Run PicoStep (pairStart picoPowerOn) xs wp
      ∧ wl.2.transfers ≠ [] ∧ wp.2.transfers ≠ []
      ∧ (∀ y ∈ ys, OwnBus y ∧ BusKept linuxBus y)
      ∧ ∀ x ∈ xs, OwnBus x ∧ BusKept picoBus x := by
  obtain ⟨ys, wl, hlinux, hsent⟩ := pairEvalsTo_run linuxSpiBench_answers
    (show pairEvalsTo linuxSpiBench [bringUpOn .sx1262 0 5, bringUpOn .sx1268 1 5,
        (.sx1262, .startRx)] ⟨linuxPowerOn.port, []⟩
      (fun _ w => !w.2.transfers.isEmpty) = true from by decide +kernel)
  obtain ⟨xs, wp, hpico, hw⟩ := pairEvalsTo_run picoBench_answers
    (show pairEvalsTo picoBench [bringUpOn .sx1262 0 5, bringUpOn .sx1268 0 6,
        (.sx1262, .startRx)] picoPowerOn
      (fun xs w => !w.2.transfers.isEmpty && xs.all linksSameBus) = true
      from by decide +kernel)
  rw [Bool.and_eq_true, List.all_eq_true] at hw
  have hboth := ports_route_alike_iff hlinux hpico
  exact ⟨ys, wl, xs, wp, hlinux, hpico, by simpa using hsent, by simpa using hw.1, hboth.1,
    hboth.2.mpr fun x hx => linksSameBus_iff (hw.2 x hx)⟩

/-- An `init` of the second radio that fails, for a spreading factor that
does not exist. -/
def failsOn (radio : Radio) (spi : Nat) : Radio × Op :=
  (radio, .init (some { (Ctx.powerOn radio).hwConfig with platformSpi := some spi })
    (some { getDefaultConfig radio with spreadingFactor := .other 13 }))

/-- After the failed `init` of the other radio on another bus, the first
radio's commands go out over that bus. -/
theorem failed_init_redirects : ∃ xs w,
    Run PicoStep (pairStart picoPowerOn) xs w ∧ (w.1 .sx1268).initialized = false
      ∧ ∃ x ∈ xs, x.label.1 = .sx1262 ∧ ¬OwnBus x := by
  obtain ⟨xs, w, hrun, hw⟩ := pairEvalsTo_run picoBench_answers
    (show pairEvalsTo picoBench [bringUpOn .sx1262 0 5, failsOn .sx1268 1,
        (.sx1262, .startRx)] picoPowerOn
      (fun xs w => !(w.1 .sx1268).initialized
        && xs.any fun x => x.label.1 == .sx1262 && !ownBus x) = true from by decide +kernel)
  simp only [Bool.and_eq_true, Bool.not_eq_true', List.any_eq_true, beq_iff_eq] at hw
  obtain ⟨hi, x, hx, hradio, hbus⟩ := hw
  exact ⟨xs, w, hrun, hi, x, hx, hradio, fun h => by simp [h.computed] at hbus⟩

end Sx126x

end LeosSdk
