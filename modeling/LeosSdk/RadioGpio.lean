import Mathlib.Data.List.Nodup
import LeosSdk.RadioLinux

/-!
# SX126x on Linux: acquiring the GPIO lines

`leos_sx126x_gpio_init_ctx` asks libgpiod for the shared reset line, then NSS,
then BUSY. Each request needs three objects that may fail to be allocated, and
every error path frees by hand what it has so far.

`RadioLinux` has this function over which pointers are `NULL`; here every
object and request is a handle, so that what is freed and what stays requested
can be counted. That both say the same is `gpioInitCtx_refines`: forgetting
the handles of a run of this function gives a run of that one. The BUSY block
gives NSS back when its line is refused but not when an allocation fails: the
line then stays requested, `requested` stays false, and every later init is
refused NSS.

libgpiod is an environment that may fail any allocation and refuse any line;
its state carries the proof that no line is requested twice. What asking for
one line comes to is said once (`Requested`), with the objects freed as often
as created, and the three blocks are built from it. A radio has neither line
(`Idle`) or both (`Acquired`); an init from the first ends in one of the two
or loses NSS (`Acquisition`), and it leaves the other radio's lines alone
(`Apart`). So both radios stay settled as long as no init loses NSS, and that
makes the step's equivalence one about runs.
-/

namespace LeosSdk

namespace Sx126x

namespace Lines

/-! ## The port -/

/-- What a pointer of libgpiod points to. -/
abbrev Handle := Nat

/-- The lines the port asks for, by what it uses them for. -/
inductive Line
  | reset
  | nss (radio : Radio)
  | busy (radio : Radio)
  deriving DecidableEq

/-- `gpiod_line_settings`, `gpiod_line_config` and `gpiod_request_config`. -/
inductive Object
  | settings
  | lineConfig
  | requestConfig
  deriving DecidableEq

/-- `leos_sx126x_linux_gpio_t`. -/
structure RadioLines where
  nssReq : Option Handle
  busyReq : Option Handle
  nssOffset : UInt32
  busyOffset : UInt32
  requested : Bool

/-- `g_gpio_chip`, `g_reset_req`, `g_reset_offset`, and `g_sx1262_gpio` and
`g_sx1268_gpio`. -/
structure Port where
  gpioChip : Bool
  resetReq : Option Handle
  resetOffset : UInt32
  gpio : Radio → RadioLines

def Port.withGpio (p : Port) (radio : Radio) (f : RadioLines → RadioLines) : Port :=
  { p with gpio := Function.update p.gpio radio (f (p.gpio radio)) }

@[simp] theorem withGpio_self (p : Port) (radio : Radio) (f : RadioLines → RadioLines) :
    (p.withGpio radio f).gpio radio = f (p.gpio radio) :=
  Function.update_self ..

theorem withGpio_other (p : Port) {radio k : Radio} (f : RadioLines → RadioLines)
    (hk : k ≠ radio) : (p.withGpio radio f).gpio k = p.gpio k :=
  Function.update_of_ne hk ..

theorem withGpio_withGpio (p : Port) (radio : Radio) (f g : RadioLines → RadioLines) :
    (p.withGpio radio f).withGpio radio g = p.withGpio radio fun r => g (f r) := by
  simp [Port.withGpio]

/-- The calls into libgpiod. -/
inductive GpiodCall
  | chipOpen
  | new (o : Object)
  | free (o : Object) (h : Handle)
  | requestLines (line : Line) (offset : UInt32)
  | release (req : Option Handle)

abbrev GpiodAnswer : GpiodCall → Type
  | .chipOpen => Bool
  | .new _ | .requestLines .. => Option Handle
  | .free .. | .release _ => Unit

abbrev Gpio := Prog Port GpiodCall GpiodAnswer

abbrev GpioEvent := Event GpiodCall GpiodAnswer

def gpiod (i : GpiodCall) : Gpio (GpiodAnswer i) := Prog.ask i

def gpioChipOpen : Gpio UInt8 := do
  let p ← Prog.read
  if p.gpioChip then return 0
  let chip ← gpiod .chipOpen
  Prog.modify ({ · with gpioChip := chip })
  return if chip then 0 else 1

/-- What the source writes out for each of its three lines: `none` where an
allocation failed, `some none` where the line was refused. The objects are
freed in the source's order. -/
def requestLine (line : Line) (offset : UInt32) : Gpio (Option (Option Handle)) := do
  match ← gpiod (.new .settings) with
  | none => return none
  | some settings =>
    match ← gpiod (.new .lineConfig) with
    | none =>
      gpiod (.free .settings settings)
      return none
    | some lineCfg =>
      gpiod (.free .settings settings)
      match ← gpiod (.new .requestConfig) with
      | none =>
        gpiod (.free .lineConfig lineCfg)
        return none
      | some reqCfg =>
        let req ← gpiod (.requestLines line offset)
        gpiod (.free .requestConfig reqCfg)
        gpiod (.free .lineConfig lineCfg)
        return some req

def resetGpioEnsure (resetOffset : UInt32) : Gpio UInt8 := do
  let p ← Prog.read
  if p.resetReq.isSome then
    return if p.resetOffset ≠ resetOffset then 1 else 0
  match ← requestLine .reset resetOffset with
  | none => return 1
  | some req =>
    Prog.modify ({ · with resetReq := req })
    if req.isNone then return 1
    Prog.modify ({ · with resetOffset := resetOffset })
    return 0

/-- The NSS block of `leos_sx126x_gpio_init_ctx`. -/
def requestNss (radio : Radio) : Gpio UInt8 := do
  let p ← Prog.read
  match ← requestLine (.nss radio) (p.gpio radio).nssOffset with
  | none => return 1
  | some req =>
    Prog.modify (·.withGpio radio ({ · with nssReq := req }))
    return if req.isNone then 1 else 0

/-- The BUSY block. Where an allocation fails it returns with NSS requested. -/
def requestBusy (radio : Radio) : Gpio UInt8 := do
  let p ← Prog.read
  match ← requestLine (.busy radio) (p.gpio radio).busyOffset with
  | none => return 1
  | some req =>
    Prog.modify (·.withGpio radio ({ · with busyReq := req }))
    if req.isNone then
      gpiod (.release (p.gpio radio).nssReq)
      Prog.modify (·.withGpio radio ({ · with nssReq := none }))
      return 1
    Prog.modify (·.withGpio radio ({ · with requested := true }))
    return 0

def gpioInitCtx (radio : Radio) (hw : RadioHwConfig) : Gpio UInt8 := do
  if (← gpioChipOpen) ≠ 0 then return 1
  let p ← Prog.read
  if (p.gpio radio).requested then return 0
  Prog.modify (·.withGpio radio
    ({ · with nssOffset := hw.pinNss, busyOffset := hw.pinBusy }))
  if (← resetGpioEnsure hw.pinReset) ≠ 0 then return 1
  if (← requestNss radio) ≠ 0 then return 1
  requestBusy radio

def gpioDeinitCtx (radio : Radio) : Gpio UInt8 := do
  let p ← Prog.read
  if (p.gpio radio).busyReq.isSome then
    gpiod (.release (p.gpio radio).busyReq)
    Prog.modify (·.withGpio radio ({ · with busyReq := none }))
  if (p.gpio radio).nssReq.isSome then
    gpiod (.release (p.gpio radio).nssReq)
    Prog.modify (·.withGpio radio ({ · with nssReq := none }))
  Prog.modify (·.withGpio radio ({ · with requested := false }))
  return 0

/-! ## libgpiod -/

structure LineRequest where
  handle : Handle
  line : Line
  offset : UInt32
  deriving DecidableEq

/-- The lines requested: no line twice, and no two requests of one handle. -/
structure Libgpiod where
  requests : List LineRequest
  handles : (requests.map LineRequest.handle).Nodup
  offsets : (requests.map LineRequest.offset).Nodup

def Libgpiod.of (e : Libgpiod) (line : Line) : List LineRequest :=
  e.requests.filter (·.line = line)

/-- Any allocation may fail and any line may be refused. A line already
requested is refused, as no `Libgpiod` has it twice. -/
def libgpiod : Env Libgpiod GpiodCall GpiodAnswer
  | e, .requestLines line offset, some h, e' => e'.requests = ⟨h, line, offset⟩ :: e.requests
  | e, .release (some h), _, e' => e'.requests = e.requests.filter (·.handle ≠ h)
  | e, _, _, e' => e' = e

section Calls

variable {e e' : Libgpiod}

@[simp] theorem libgpiod_chipOpen {chip : Bool} : libgpiod e .chipOpen chip e' ↔ e' = e := .rfl

@[simp] theorem libgpiod_new {o : Object} {h : Option Handle} :
    libgpiod e (.new o) h e' ↔ e' = e := .rfl

@[simp] theorem libgpiod_free {o : Object} {h : Handle} {r : Unit} :
    libgpiod e (.free o h) r e' ↔ e' = e := .rfl

/-- A line granted is requested once more, and no other is. -/
theorem of_granted {line : Line} {offset : UInt32} {h : Handle}
    (he : e'.requests = ⟨h, line, offset⟩ :: e.requests) :
    e'.of line = ⟨h, line, offset⟩ :: e.of line := by
  simp [Libgpiod.of, he]

theorem of_granted_other {line l : Line} {offset : UInt32} {h : Handle}
    (he : e'.requests = ⟨h, line, offset⟩ :: e.requests) (hl : l ≠ line) :
    e'.of l = e.of l := by
  simp [Libgpiod.of, he, hl.symm]

theorem of_released {h : Handle} {line : Line} {r : LineRequest}
    (he : e'.requests = e.requests.filter (·.handle ≠ h)) (hr : e.of line = [r])
    (hh : r.handle = h) : e'.of line = [] := by
  rw [Libgpiod.of] at hr ⊢
  rw [he, List.filter_comm, hr]
  simp [hh]

/-- A request given back is no other line's, as no other has its handle. -/
theorem of_released_other {h : Handle} {line l : Line} {r : LineRequest}
    (he : e'.requests = e.requests.filter (·.handle ≠ h)) (hr : e.of line = [r])
    (hh : r.handle = h) (hl : l ≠ line) : e'.of l = e.of l := by
  have hmem : r ∈ e.of line := by simp [hr]
  obtain ⟨hrin, hrline⟩ := List.mem_filter.mp hmem
  rw [Libgpiod.of, he, List.filter_comm]
  refine List.filter_eq_self.mpr fun x hx => ?_
  obtain ⟨hxin, hxline⟩ := List.mem_filter.mp hx
  rw [decide_eq_true_eq] at hrline hxline ⊢
  intro hxh
  have hxr : x = r := List.inj_on_of_nodup_map e.handles hxin hrin (hxh.trans hh.symm)
  exact hl (by rw [← hxline, ← hrline, hxr])

end Calls

/-! ## What a call did -/

def GpioEvent.created : GpioEvent → List (Object × Handle)
  | ⟨.new o, some h⟩ => [(o, h)]
  | _ => []

def GpioEvent.freed : GpioEvent → List (Object × Handle)
  | ⟨.free o h, _⟩ => [(o, h)]
  | _ => []

/-- The objects freed are the ones created, each as often. -/
def Balanced (tr : List GpioEvent) : Prop :=
  (tr.flatMap GpioEvent.freed).Perm (tr.flatMap GpioEvent.created)

def GpioEvent.allocFails : GpioEvent → Bool
  | ⟨.new _, none⟩ => true
  | _ => false

def GpioEvent.grants (line : Line) : GpioEvent → Bool
  | ⟨.requestLines l _, some _⟩ => l = line
  | _ => false

/-- libgpiod fails a call, and not because the line is one of `held`. -/
def GpioEvent.fails (held : List UInt32) : GpioEvent → Bool
  | ⟨.chipOpen, false⟩ => true
  | ⟨.new _, none⟩ => true
  | ⟨.requestLines _ offset, none⟩ => offset ∉ held
  | _ => false

/-- An allocation fails after the radio's NSS line was granted. -/
def LosesNss (radio : Radio) (tr : List GpioEvent) : Bool :=
  (tr.dropWhile fun ev => !ev.grants (.nss radio)).any GpioEvent.allocFails

theorem balanced_append {tr tr' : List GpioEvent} (h : Balanced tr) (h' : Balanced tr') :
    Balanced (tr ++ tr') := by
  unfold Balanced at h h' ⊢
  rw [List.flatMap_append, List.flatMap_append]
  exact h.append h'

/-- What asking for one line came to. -/
inductive Requested (line : Line) (offset : UInt32) (e : Libgpiod) :
    List GpioEvent → Option (Option Handle) → Libgpiod → Prop
  | failed {tr} (hfail : tr.any GpioEvent.allocFails = true)
      (hgrant : tr.any (GpioEvent.grants line) = false) :
      Requested line offset e tr none e
  | refused {tr} (hno : tr.any GpioEvent.allocFails = false)
      (hgrant : tr.any (GpioEvent.grants line) = false)
      (hrefused : ⟨.requestLines line offset, none⟩ ∈ tr) :
      Requested line offset e tr (some none) e
  | granted {tr h e'} (hno : tr.any GpioEvent.allocFails = false)
      (hgrant : tr.any (GpioEvent.grants line) = true)
      (he : e'.requests = ⟨h, line, offset⟩ :: e.requests) :
      Requested line offset e tr (some (some h)) e'

section Specs

variable {line : Line} {offset : UInt32} {radio : Radio} {p : Port} {e : Libgpiod}

/-- One request, over every way its allocations can go: the context is as it
was, what was created is freed, and no line but this one is granted. -/
theorem ensures_requestLine : Ensures libgpiod (requestLine line offset)
    (fun tr req p' e' => p' = p ∧ Requested line offset e tr req e' ∧ Balanced tr
      ∧ ∀ l, l ≠ line → tr.any (GpioEvent.grants l) = false) p e := by
  simp only [requestLine, gpiod, ensures_bind, ensures_ask, libgpiod_new, forall_eq]
  intro settings
  cases settings with
  | none =>
      rw [ensures_pure]
      exact ⟨rfl, .failed rfl rfl, .refl _, fun _ _ => rfl⟩
  | some settings =>
      simp only [ensures_bind, ensures_ask, libgpiod_new, forall_eq]
      intro lineCfg
      cases lineCfg with
      | none =>
          simp only [ensures_bind, ensures_ask, libgpiod_free, forall_eq, ensures_pure]
          intro _
          exact ⟨trivial, .failed rfl rfl, .refl _, fun _ _ => rfl⟩
      | some lineCfg =>
          simp only [ensures_bind, ensures_ask, libgpiod_new, libgpiod_free, forall_eq]
          intro _ reqCfg
          cases reqCfg with
          | none =>
              simp only [ensures_bind, ensures_ask, libgpiod_free, forall_eq, ensures_pure]
              intro _
              exact ⟨trivial, .failed rfl rfl, .refl _, fun _ _ => rfl⟩
          | some reqCfg =>
              simp only [ensures_bind, ensures_ask, libgpiod_free, forall_eq, ensures_pure]
              intro req e' hreq _ _
              -- the settings are freed first, the other two in reverse order
              refine ⟨trivial, ?_, (List.Perm.swap ..).cons _, fun l hl => ?_⟩
              · cases req with
                | none =>
                    obtain rfl : e = e' := Eq.symm hreq
                    exact .refused rfl rfl (by simp)
                | some h => exact .granted rfl (by simp [GpioEvent.grants]) hreq
              · cases req with
                | none => rfl
                | some h => simp [GpioEvent.grants, Ne.symm hl]

theorem fails_of_allocFails {held : List UInt32} {tr : List GpioEvent}
    (h : tr.any GpioEvent.allocFails = true) : tr.any (GpioEvent.fails held) = true := by
  obtain ⟨ev, hev, hf⟩ := List.any_eq_true.mp h
  refine List.any_eq_true.mpr ⟨ev, hev, ?_⟩
  unfold GpioEvent.allocFails at hf
  split at hf
  · rfl
  · cases hf

theorem fails_of_refused {tr : List GpioEvent}
    (h : (⟨.requestLines line offset, none⟩ : GpioEvent) ∈ tr) :
    tr.any (GpioEvent.fails []) = true :=
  List.any_eq_true.mpr ⟨_, h, rfl⟩

theorem ensures_resetGpioEnsure : Ensures libgpiod (resetGpioEnsure offset)
    (fun tr rc p' e' => Balanced tr ∧ (∀ l, l ≠ .reset → tr.any (GpioEvent.grants l) = false)
      ∧ p'.gpioChip = p.gpioChip ∧ p'.gpio = p.gpio ∧ (∀ l, l ≠ .reset → e'.of l = e.of l)
      ∧ (rc ≠ 0 → p.resetReq.isSome = true ∧ p.resetOffset ≠ offset
        ∨ tr.any (GpioEvent.fails []) = true)) p e := by
  rw [resetGpioEnsure, ensures_bind, ensures_read, ensures_ite]
  refine ⟨fun hreq => ?_, fun hreq => ?_⟩
  · rw [ensures_pure]
    refine ⟨.refl _, fun _ _ => rfl, rfl, rfl, fun _ _ => rfl, fun hrc => .inl ⟨hreq, ?_⟩⟩
    intro heq
    simp [heq] at hrc
  · rw [ensures_bind]
    refine ensures_requestLine.mono fun tr req p' e' h => ?_
    obtain ⟨rfl, hreq, hbal, hgrants⟩ := h
    cases hreq with
    | failed hfail hno =>
        simp only [ensures_pure, List.append_nil]
        exact ⟨hbal, hgrants, trivial, trivial, fun _ _ => trivial,
          fun _ => .inr (fails_of_allocFails hfail)⟩
    | refused hno hnss hrefused =>
        simp only [ensures_bind, ensures_modify, Option.isNone_none, if_true, ensures_pure,
          List.append_nil]
        exact ⟨hbal, hgrants, trivial, trivial, fun _ _ => trivial,
          fun _ => .inr (fails_of_refused hrefused)⟩
    | granted hno hgrant he =>
        simp only [ensures_bind, ensures_modify, Option.isNone_some, Bool.false_eq_true,
          if_false, ensures_pure, List.append_nil]
        exact ⟨hbal, hgrants, trivial, trivial, fun l hl => of_granted_other he hl,
          fun hrc => absurd rfl hrc⟩

/-- From a radio that holds no NSS request. -/
theorem ensures_requestNss (hnss : (p.gpio radio).nssReq = none) :
    Ensures libgpiod (requestNss radio) (fun tr rc p' e' => Balanced tr
      ∧ ((∃ h, rc = 0 ∧ p' = p.withGpio radio ({ · with nssReq := some h })
          ∧ e'.requests = ⟨h, .nss radio, (p.gpio radio).nssOffset⟩ :: e.requests
          ∧ tr.any GpioEvent.allocFails = false ∧ tr.any (GpioEvent.grants (.nss radio)) = true)
        ∨ rc = 1 ∧ p' = p ∧ e' = e ∧ tr.any (GpioEvent.grants (.nss radio)) = false
          ∧ tr.any (GpioEvent.fails []) = true)) p e := by
  have hkept : p.withGpio radio ({ · with nssReq := none }) = p := by
    simp [Port.withGpio, ← hnss]
  simp only [requestNss, ensures_bind, ensures_read]
  refine ensures_requestLine.mono fun tr req p' e' h => ?_
  obtain ⟨rfl, hreq, hbal, -⟩ := h
  cases hreq with
  | failed hfail hgrant =>
      simp only [ensures_pure, List.append_nil, List.nil_append]
      exact ⟨hbal, .inr ⟨trivial, trivial, trivial, hgrant, fails_of_allocFails hfail⟩⟩
  | refused hno hgrant hrefused =>
      simp only [ensures_bind, ensures_modify, hkept, Option.isNone_none, if_true, ensures_pure,
        List.append_nil, List.nil_append]
      exact ⟨hbal, .inr ⟨trivial, trivial, trivial, hgrant, fails_of_refused hrefused⟩⟩
  | granted hno hgrant he =>
      simp only [ensures_bind, ensures_modify, Option.isNone_some, Bool.false_eq_true,
        if_false, ensures_pure, List.append_nil, List.nil_append]
      exact ⟨hbal, .inl ⟨_, trivial, rfl, he, hno, hgrant⟩⟩

/-- What the BUSY block comes to. Only a refused line gives NSS back; after a
failed allocation NSS is still requested. -/
inductive BusyOutcome (radio : Radio) (p : Port) (e : Libgpiod) :
    List GpioEvent → UInt8 → Port → Libgpiod → Prop
  | granted {tr h e'} (hno : tr.any GpioEvent.allocFails = false)
      (he : e'.requests = ⟨h, .busy radio, (p.gpio radio).busyOffset⟩ :: e.requests) :
      BusyOutcome radio p e tr 0
        (p.withGpio radio ({ · with busyReq := some h, requested := true })) e'
  | refused {tr e'} (hno : tr.any GpioEvent.allocFails = false)
      (hfail : tr.any (GpioEvent.fails []) = true)
      (he : ∀ h, (p.gpio radio).nssReq = some h →
        e'.requests = e.requests.filter (·.handle ≠ h)) :
      BusyOutcome radio p e tr 1
        (p.withGpio radio ({ · with busyReq := none, nssReq := none })) e'
  | failed {tr} (hfail : tr.any GpioEvent.allocFails = true) :
      BusyOutcome radio p e tr 1 p e

theorem ensures_requestBusy : Ensures libgpiod (requestBusy radio)
    (fun tr rc p' e' => Balanced tr ∧ BusyOutcome radio p e tr rc p' e') p e := by
  simp only [requestBusy, ensures_bind, ensures_read]
  refine ensures_requestLine.mono fun tr req p' e' h => ?_
  obtain ⟨rfl, hreq, hbal, -⟩ := h
  cases hreq with
  | failed hfail hgrant =>
      simp only [ensures_pure, List.append_nil, List.nil_append]
      exact ⟨hbal, .failed hfail⟩
  | refused hno hgrant hrefused =>
      simp only [gpiod, ensures_bind, ensures_modify, Option.isNone_none, if_true, ensures_ask,
        ensures_pure, List.append_nil, List.nil_append]
      intro _ e' he
      rw [withGpio_withGpio]
      refine ⟨balanced_append hbal (.refl _), .refused ?_ ?_ fun h hh => ?_⟩
      · rw [List.any_append, hno]
        rfl
      · rw [List.any_append, fails_of_refused hrefused]
        rfl
      · rw [hh] at he
        exact he
  | granted hno hgrant he =>
      simp only [ensures_bind, ensures_modify, Option.isNone_some, Bool.false_eq_true,
        if_false, ensures_pure, List.append_nil, List.nil_append, withGpio_withGpio]
      exact ⟨hbal, .granted hno he⟩

theorem ensures_gpioChipOpen : Ensures libgpiod gpioChipOpen
    (fun tr rc p' e' => Balanced tr ∧ (∀ l, tr.any (GpioEvent.grants l) = false) ∧ e' = e
      ∧ (rc = 0 ∧ p' = { p with gpioChip := true }
        ∨ rc = 1 ∧ p' = p ∧ p.gpioChip = false ∧ tr.any (GpioEvent.fails []) = true)) p e := by
  simp only [gpioChipOpen, ensures_bind, ensures_read, ensures_ite]
  refine ⟨fun hchip => ?_, fun hchip => ?_⟩
  · rw [ensures_pure]
    exact ⟨.refl _, fun _ => rfl, rfl, .inl ⟨rfl, by rw [← hchip]⟩⟩
  · simp only [gpiod, ensures_ask, libgpiod_chipOpen, forall_eq, ensures_modify, ensures_pure]
    intro chip
    cases chip with
    | false =>
        have hclosed : p.gpioChip = false := by simpa using hchip
        exact ⟨.refl _, fun _ => rfl, trivial, .inr ⟨rfl, by rw [← hclosed], hclosed, rfl⟩⟩
    | true => exact ⟨.refl _, fun _ => rfl, trivial, .inl ⟨rfl, rfl⟩⟩

end Specs

/-! ## Which pointers are `NULL` -/

def RadioLines.erase (r : RadioLines) : LinuxGpio where
  nssReq := r.nssReq.isSome
  busyReq := r.busyReq.isSome
  nssOffset := r.nssOffset
  busyOffset := r.busyOffset
  requested := r.requested

def Port.erase (p : Port) : LinuxPort where
  gpioChip := p.gpioChip
  resetReq := p.resetReq.isSome
  resetOffset := p.resetOffset
  gpio radio := (p.gpio radio).erase

section Erase

variable {line : Line} {offset : UInt32} {radio : Radio} {hw : RadioHwConfig} {p : Port}
  {e : Libgpiod}

theorem erase_withGpio (f : RadioLines → RadioLines) (g : LinuxGpio → LinuxGpio)
    (hfg : (f (p.gpio radio)).erase = g (p.gpio radio).erase) :
    (p.withGpio radio f).erase = p.erase.withGpio radio g := by
  simp only [Port.erase, Port.withGpio, LinuxPort.withGpio, LinuxPort.mk.injEq, true_and]
  funext k
  by_cases hk : k = radio
  · subst hk
    simp [hfg]
  · simp [hk]

/-- Answers that come to what asking for a line returned. -/
def lineAnswers : Option (Option Handle) → LineAnswers
  | none => { settings := false, lineConfig := false, requestConfig := false, lines := false }
  | some req => { settings := true, lineConfig := true, requestConfig := true, lines := req.isSome }

theorem resetGpioEnsure_refines : Ensures libgpiod (resetGpioEnsure offset)
    (fun _ rc p' _ => ∃ a, Sx126x.resetGpioEnsure a offset p.erase = (rc, p'.erase)) p e := by
  rw [resetGpioEnsure, ensures_bind, ensures_read, ensures_ite]
  refine ⟨fun hreq => ?_, fun hreq => ?_⟩
  · rw [ensures_pure]
    refine ⟨lineAnswers none, ?_⟩
    by_cases hoff : p.resetOffset = offset <;>
      simp [Sx126x.resetGpioEnsure, Port.erase, hreq, hoff]
  · rw [ensures_bind]
    refine ensures_requestLine.mono fun tr req p' e' h => ?_
    obtain ⟨rfl, -⟩ := h
    rw [Option.not_isSome_iff_eq_none] at hreq
    rcases req with _ | _ | req
    · rw [ensures_pure]
      exact ⟨lineAnswers none, by simp [Sx126x.resetGpioEnsure, Port.erase, hreq, lineAnswers]⟩
    · simp only [ensures_bind, ensures_modify, ensures_ite, ensures_pure]
      refine ⟨fun _ => ⟨lineAnswers (some none), ?_⟩, fun h => absurd rfl h⟩
      simp [Sx126x.resetGpioEnsure, Port.erase, hreq, lineAnswers]
    · simp only [ensures_bind, ensures_modify, ensures_ite, ensures_pure]
      refine ⟨fun h => absurd h (by simp), fun _ => ⟨lineAnswers (some (some req)), ?_⟩⟩
      simp [Sx126x.resetGpioEnsure, Port.erase, hreq, lineAnswers]

theorem requestNss_refines : Ensures libgpiod (requestNss radio)
    (fun _ rc p' _ => ∃ a, Sx126x.requestNss a radio p.erase = (rc, p'.erase)) p e := by
  simp only [requestNss, ensures_bind, ensures_read]
  refine ensures_requestLine.mono fun tr req p' e' h => ?_
  obtain ⟨rfl, -⟩ := h
  cases req with
  | none =>
      rw [ensures_pure]
      exact ⟨lineAnswers none, by simp [Sx126x.requestNss, lineAnswers]⟩
  | some req =>
      simp only [ensures_bind, ensures_modify, ensures_pure]
      refine ⟨lineAnswers (some req), ?_⟩
      rw [erase_withGpio _ ({ · with nssReq := req.isSome }) rfl]
      cases req <;> simp [Sx126x.requestNss, lineAnswers]

theorem requestBusy_refines : Ensures libgpiod (requestBusy radio)
    (fun _ rc p' _ => ∃ a, Sx126x.requestBusy a radio p.erase = (rc, p'.erase)) p e := by
  simp only [requestBusy, ensures_bind, ensures_read]
  refine ensures_requestLine.mono fun tr req p' e' h => ?_
  obtain ⟨rfl, -⟩ := h
  rcases req with _ | _ | req
  · rw [ensures_pure]
    exact ⟨lineAnswers none, by simp [Sx126x.requestBusy, lineAnswers]⟩
  · simp only [gpiod, ensures_bind, ensures_modify, Option.isNone_none, if_true, ensures_ask,
      ensures_pure, withGpio_withGpio]
    intro _ e₁ _
    refine ⟨lineAnswers (some none), ?_⟩
    rw [erase_withGpio _ ({ · with busyReq := false, nssReq := false }) rfl]
    simp [Sx126x.requestBusy, lineAnswers]
  · simp only [ensures_bind, ensures_modify, Option.isNone_some, Bool.false_eq_true, if_false,
      ensures_pure, withGpio_withGpio]
    refine ⟨lineAnswers (some (some req)), ?_⟩
    rw [erase_withGpio _ ({ · with busyReq := true, requested := true }) rfl]
    simp [Sx126x.requestBusy, lineAnswers]

theorem gpioChipOpen_refines : Ensures libgpiod gpioChipOpen
    (fun _ rc p' _ => ∃ chip, ∀ g : Gpiod, g.chip = chip →
      Sx126x.gpioChipOpen g p.erase = (rc, p'.erase)) p e := by
  refine ensures_gpioChipOpen.mono fun tr rc p' e' h => ?_
  obtain ⟨-, -, -, ⟨rfl, rfl⟩ | ⟨rfl, rfl, hchip, -⟩⟩ := h
  · refine ⟨true, fun g hg => ?_⟩
    cases hchip : p.gpioChip <;> simp [Sx126x.gpioChipOpen, Port.erase, hchip, hg]
  · exact ⟨false, fun g hg => by simp [Sx126x.gpioChipOpen, Port.erase, hchip, hg]⟩

/-- What the handles do to the pointers is what `RadioLinux` says, for some
answers of libgpiod. Each block is matched with its counterpart. -/
theorem gpioInitCtx_refines : Ensures libgpiod (gpioInitCtx radio hw)
    (fun _ rc p' _ => ∃ g, Sx126x.gpioInitCtx g radio hw p.erase = (rc, p'.erase)) p e := by
  have hline := lineAnswers none
  rw [gpioInitCtx, ensures_bind]
  refine gpioChipOpen_refines.mono fun _ rc p₁ e₁ h => ?_
  obtain ⟨chip, hC⟩ := h
  by_cases hrc : rc = 0
  · subst hrc
    simp only [ne_eq, not_true_eq_false, if_false, ensures_bind, ensures_read]
    by_cases hreq : (p₁.gpio radio).requested = true
    · rw [if_pos hreq, ensures_pure]
      refine ⟨⟨chip, hline, hline, hline⟩, ?_⟩
      have hreq' : (p₁.erase.gpio radio).requested = true := hreq
      simp [Sx126x.gpioInitCtx, hC, hreq']
    · have hreq' : (p₁.erase.gpio radio).requested = false := Bool.eq_false_iff.mpr hreq
      simp only [if_neg hreq, ensures_bind, ensures_modify]
      refine resetGpioEnsure_refines.mono fun _ rc p₂ e₂ h => ?_
      obtain ⟨r, hR⟩ := h
      rw [erase_withGpio _ ({ · with nssOffset := hw.pinNss, busyOffset := hw.pinBusy })
        rfl] at hR
      by_cases hrc : rc = 0
      · subst hrc
        simp only [not_true_eq_false, if_false, ensures_bind]
        refine requestNss_refines.mono fun _ rc p₃ e₃ h => ?_
        obtain ⟨n, hN⟩ := h
        by_cases hrc : rc = 0
        · subst hrc
          simp only [not_true_eq_false, if_false]
          refine requestBusy_refines.mono fun _ rc p₄ e₄ h => ?_
          obtain ⟨b, hB⟩ := h
          exact ⟨⟨chip, r, n, b⟩, by simp [Sx126x.gpioInitCtx, hC, hreq', hR, hN, hB]⟩
        · rw [if_pos hrc, ensures_pure]
          exact ⟨⟨chip, r, n, hline⟩, by simp [Sx126x.gpioInitCtx, hC, hreq', hR, hN, hrc]⟩
      · rw [if_pos hrc, ensures_pure]
        exact ⟨⟨chip, r, hline, hline⟩, by simp [Sx126x.gpioInitCtx, hC, hreq', hR, hrc]⟩
  · rw [if_pos hrc, ensures_pure]
    exact ⟨⟨chip, hline, hline, hline⟩, by simp [Sx126x.gpioInitCtx, hC, hrc]⟩

theorem gpioDeinitCtx_refines : Ensures libgpiod (gpioDeinitCtx radio)
    (fun _ _ p' _ => p'.erase = Sx126x.gpioDeinitCtx radio p.erase) p e := by
  simp only [gpioDeinitCtx, gpiod, ensures_bind, ensures_read, ensures_ite, ensures_ask,
    ensures_modify, ensures_pure]
  rw [Sx126x.gpioDeinitCtx]
  refine ⟨fun hbusy _ e₁ _ => ⟨fun hnss _ e₂ _ => ?_, fun hnss => ?_⟩,
    fun hbusy => ⟨fun hnss _ e₂ _ => ?_, fun hnss => ?_⟩⟩
  · rw [withGpio_withGpio, withGpio_withGpio]
    exact erase_withGpio _ _ rfl
  · rw [withGpio_withGpio]
    exact erase_withGpio _ _ (by simp [RadioLines.erase, hnss])
  · rw [withGpio_withGpio]
    exact erase_withGpio _ _ (by simp [RadioLines.erase, hbusy])
  · exact erase_withGpio _ _ (by simp [RadioLines.erase, hnss, hbusy])

end Erase

/-! ## All or nothing -/

/-- The radio has neither line. -/
structure Idle (radio : Radio) (w : Port × Libgpiod) : Prop where
  nssReq : (w.1.gpio radio).nssReq = none
  busyReq : (w.1.gpio radio).busyReq = none
  requested : (w.1.gpio radio).requested = false
  nss : w.2.of (.nss radio) = []
  busy : w.2.of (.busy radio) = []

/-- The radio has each line once, by the request its pointer has. -/
structure Acquired (radio : Radio) (w : Port × Libgpiod) : Prop where
  chip : w.1.gpioChip = true
  requested : (w.1.gpio radio).requested = true
  nss : ∃ h, (w.1.gpio radio).nssReq = some h
    ∧ w.2.of (.nss radio) = [⟨h, .nss radio, (w.1.gpio radio).nssOffset⟩]
  busy : ∃ h, (w.1.gpio radio).busyReq = some h
    ∧ w.2.of (.busy radio) = [⟨h, .busy radio, (w.1.gpio radio).busyOffset⟩]

/-- Between the two blocks: NSS is there and BUSY is not. -/
structure Halfway (radio : Radio) (nss : Handle) (w : Port × Libgpiod) : Prop where
  chip : w.1.gpioChip = true
  nssReq : (w.1.gpio radio).nssReq = some nss
  busyReq : (w.1.gpio radio).busyReq = none
  requested : (w.1.gpio radio).requested = false
  nss : w.2.of (.nss radio) = [⟨nss, .nss radio, (w.1.gpio radio).nssOffset⟩]
  busy : w.2.of (.busy radio) = []

/-- What a call for one radio leaves to the other. -/
structure Apart (radio : Radio) (w w' : Port × Libgpiod) : Prop where
  chip : w.1.gpioChip = true → w'.1.gpioChip = true
  gpio : ∀ k, k ≠ radio → w'.1.gpio k = w.1.gpio k
  nss : ∀ k, k ≠ radio → w'.2.of (.nss k) = w.2.of (.nss k)
  busy : ∀ k, k ≠ radio → w'.2.of (.busy k) = w.2.of (.busy k)

/-- What asking for both lines comes to for a radio without them; `mismatch`
is what can fail before libgpiod is asked. -/
inductive Acquisition (radio : Radio) (mismatch : Prop) (tr : List GpioEvent) :
    UInt8 → Port × Libgpiod → Prop
  | acquired {w'} (h : Acquired radio w') (hkept : LosesNss radio tr = false) :
      Acquisition radio mismatch tr 0 w'
  | failed {w'} (h : Idle radio w') (hkept : LosesNss radio tr = false)
      (hfail : mismatch ∨ tr.any (GpioEvent.fails []) = true) :
      Acquisition radio mismatch tr 1 w'
  | lost {w' r} (h : w'.2.of (.nss radio) = [r]) (hlost : LosesNss radio tr = true)
      (hfail : tr.any (GpioEvent.fails []) = true) : Acquisition radio mismatch tr 1 w'

section Acquisitions

variable {radio : Radio} {hw : RadioHwConfig} {w w' w'' : Port × Libgpiod}
  {tr tr' : List GpioEvent}

theorem apart_refl : Apart radio w w := ⟨id, fun _ _ => rfl, fun _ _ => rfl, fun _ _ => rfl⟩

theorem Apart.trans (h : Apart radio w w') (h' : Apart radio w' w'') : Apart radio w w'' where
  chip hc := h'.chip (h.chip hc)
  gpio k hk := (h'.gpio k hk).trans (h.gpio k hk)
  nss k hk := (h'.nss k hk).trans (h.nss k hk)
  busy k hk := (h'.busy k hk).trans (h.busy k hk)

/-- A radio's own pointers changed and requests of lines that are not the
other's came or went. -/
theorem apart_withGpio {p : Port} {e e' : Libgpiod} (f : RadioLines → RadioLines)
    (hnss : ∀ k, k ≠ radio → e'.of (.nss k) = e.of (.nss k))
    (hbusy : ∀ k, k ≠ radio → e'.of (.busy k) = e.of (.busy k)) :
    Apart radio (p, e) (p.withGpio radio f, e') :=
  ⟨id, fun _ hk => withGpio_other p f hk, hnss, hbusy⟩

theorem losesNss_append (h : tr.any (GpioEvent.grants (.nss radio)) = false) :
    LosesNss radio (tr ++ tr') = LosesNss radio tr' := by
  unfold LosesNss
  rw [List.dropWhile_append_of_pos]
  intro ev hev
  simpa using List.any_eq_false.mp h ev hev

theorem losesNss_granted (hgrant : tr.any (GpioEvent.grants (.nss radio)) = true)
    (hno : tr.any GpioEvent.allocFails = false) :
    LosesNss radio (tr ++ tr') = tr'.any GpioEvent.allocFails := by
  unfold LosesNss
  induction tr with
  | nil => cases hgrant
  | cons ev tr ih =>
      rw [List.any_cons, Bool.or_eq_false_iff] at hno
      rw [List.any_cons] at hgrant
      cases hev : ev.grants (.nss radio) with
      | true => simp [hev, hno.1, hno.2]
      | false =>
          rw [hev, Bool.false_or] at hgrant
          simpa [hev] using ih hgrant hno.2

theorem losesNss_ungranted (h : tr.any (GpioEvent.grants (.nss radio)) = false) :
    LosesNss radio tr = false := by
  have hnil : LosesNss radio (tr ++ []) = false := losesNss_append h
  rwa [List.append_nil] at hnil

/-- What came before asked for no NSS line. -/
theorem Acquisition.prepend {m m' : Prop} {rc : UInt8} (h : Acquisition radio m tr' rc w)
    (hgrant : tr.any (GpioEvent.grants (.nss radio)) = false) (hm : m → m') :
    Acquisition radio m' (tr ++ tr') rc w := by
  cases h with
  | acquired h hkept => exact .acquired h (by rwa [losesNss_append hgrant])
  | failed h hkept hfail =>
      refine .failed h (by rwa [losesNss_append hgrant]) (hfail.imp hm fun hf => ?_)
      rw [List.any_append, hf, Bool.or_true]
  | lost h hlost hfail =>
      refine .lost h (by rwa [losesNss_append hgrant]) ?_
      rw [List.any_append, hfail, Bool.or_true]

theorem halfway_granted {p : Port} {e e' : Libgpiod} {n : Handle} (hidle : Idle radio (p, e))
    (hchip : p.gpioChip = true)
    (he : e'.requests = ⟨n, .nss radio, (p.gpio radio).nssOffset⟩ :: e.requests) :
    Halfway radio n (p.withGpio radio ({ · with nssReq := some n }), e') where
  chip := hchip
  nssReq := by simp
  busyReq := by simpa using hidle.busyReq
  requested := by simpa using hidle.requested
  nss := by simpa [hidle.nss] using of_granted he
  busy := (of_granted_other he (by simp)).trans hidle.busy

theorem apart_granted {p : Port} {e e' : Libgpiod} {h : Handle} {line : Line} {offset : UInt32}
    (f : RadioLines → RadioLines) (he : e'.requests = ⟨h, line, offset⟩ :: e.requests)
    (hline : line = .nss radio ∨ line = .busy radio) :
    Apart radio (p, e) (p.withGpio radio f, e') := by
  refine apart_withGpio f (fun k hk => of_granted_other he ?_)
    fun k hk => of_granted_other he ?_ <;>
  · rcases hline with rfl | rfl <;> simp [hk]

theorem apart_released {p : Port} {e e' : Libgpiod} {h : Handle} {line : Line}
    {r : LineRequest} (f : RadioLines → RadioLines)
    (he : e'.requests = e.requests.filter (·.handle ≠ h)) (hr : e.of line = [r])
    (hh : r.handle = h) (hline : line = .nss radio ∨ line = .busy radio) :
    Apart radio (p, e) (p.withGpio radio f, e') := by
  refine apart_withGpio f (fun k hk => of_released_other he hr hh ?_)
    fun k hk => of_released_other he hr hh ?_ <;>
  · rcases hline with rfl | rfl <;> simp [hk]

/-- The BUSY block completes the acquisition, undoes it or loses NSS. -/
theorem acquisition_of_busy {p p' : Port} {e e' : Libgpiod} {n : Handle} {rc : UInt8}
    (hhalf : Halfway radio n (p, e)) (hgrant : tr.any (GpioEvent.grants (.nss radio)) = true)
    (hno : tr.any GpioEvent.allocFails = false) (hbusy : BusyOutcome radio p e tr' rc p' e') :
    Apart radio (p, e) (p', e') ∧ Acquisition radio False (tr ++ tr') rc (p', e') := by
  cases hbusy with
  | @granted h _ hno' he =>
      have hbusy := of_granted he
      rw [hhalf.busy] at hbusy
      refine ⟨apart_granted _ he (.inr rfl), .acquired ?_ ?_⟩
      · exact ⟨hhalf.chip, by simp,
          ⟨n, by simpa using hhalf.nssReq, by
            simpa using (of_granted_other he (by simp)).trans hhalf.nss⟩,
          ⟨h, by simp, by simpa using hbusy⟩⟩
      · rw [losesNss_granted hgrant hno, hno']
  | refused hno' hfail he =>
      specialize he n hhalf.nssReq
      refine ⟨apart_released _ he hhalf.nss rfl (.inl rfl), .failed ?_ ?_ (.inr ?_)⟩
      · exact ⟨by simp, by simp, by simpa using hhalf.requested,
          of_released he hhalf.nss rfl,
          (of_released_other he hhalf.nss rfl (by simp)).trans hhalf.busy⟩
      · rw [losesNss_granted hgrant hno, hno']
      · rw [List.any_append, hfail, Bool.or_true]
  | failed hfail =>
      refine ⟨apart_refl, .lost hhalf.nss ?_ ?_⟩
      · rw [losesNss_granted hgrant hno, hfail]
      · rw [List.any_append, fails_of_allocFails hfail, Bool.or_true]

/-- The two blocks one after the other. -/
theorem ensures_requestBoth {p : Port} {e : Libgpiod} (hidle : Idle radio (p, e))
    (hchip : p.gpioChip = true) :
    Ensures libgpiod (do
        if (← requestNss radio) ≠ 0 then return 1
        requestBusy radio)
      (fun tr rc p' e' => Balanced tr ∧ Apart radio (p, e) (p', e')
        ∧ Acquisition radio False tr rc (p', e')) p e := by
  rw [ensures_bind]
  refine (ensures_requestNss hidle.nssReq).mono fun trN rc p₁ e₁ h => ?_
  obtain ⟨hbalN, ⟨n, rfl, rfl, he₁, hno, hgrant⟩ | ⟨rfl, rfl, rfl, hgrant, hfail⟩⟩ := h
  · simp only [ne_eq, not_true_eq_false, if_false]
    refine ensures_requestBusy.mono fun trB rc p' e' h => ?_
    obtain ⟨hbalB, hbusy⟩ := h
    obtain ⟨hapart, hacq⟩ := acquisition_of_busy (halfway_granted hidle hchip he₁) hgrant hno hbusy
    exact ⟨balanced_append hbalN hbalB, (apart_granted _ he₁ (.inl rfl)).trans hapart, hacq⟩
  · rw [if_pos (by decide), ensures_pure, List.append_nil]
    exact ⟨hbalN, apart_refl, .failed hidle (losesNss_ungranted hgrant) (.inr hfail)⟩

theorem ensures_gpioInitCtx_idle (hidle : Idle radio w) :
    Ensures libgpiod (gpioInitCtx radio hw) (fun tr rc p' e' => Balanced tr
      ∧ Apart radio w (p', e') ∧ Acquisition radio
        (w.1.resetReq.isSome = true ∧ w.1.resetOffset ≠ hw.pinReset) tr rc (p', e'))
      w.1 w.2 := by
  rw [gpioInitCtx, ensures_bind]
  refine ensures_gpioChipOpen.mono fun trC rc p₁ e₁ h => ?_
  obtain ⟨hbalC, hgrantsC, rfl, ⟨rfl, rfl⟩ | ⟨rfl, rfl, -, hfail⟩⟩ := h
  · simp only [ne_eq, not_true_eq_false, if_false, ensures_bind, ensures_read, hidle.requested,
      Bool.false_eq_true, ensures_modify]
    refine ensures_resetGpioEnsure.mono fun trR rc p₂ e₂ h => ?_
    obtain ⟨hbalR, hgrantsR, hchip, hgpio, hlines, hfail⟩ := h
    have hidle₂ : Idle radio (p₂, e₂) := by
      refine ⟨?_, ?_, ?_, (hlines _ (by simp)).trans hidle.nss,
        (hlines _ (by simp)).trans hidle.busy⟩
      · simpa [hgpio] using hidle.nssReq
      · simpa [hgpio] using hidle.busyReq
      · simpa [hgpio] using hidle.requested
    have hapart : Apart radio w (p₂, e₂) := by
      refine ⟨fun _ => hchip, fun k hk => ?_, fun k _ => hlines _ (by simp),
        fun k _ => hlines _ (by simp)⟩
      rw [hgpio, withGpio_other _ _ hk]
    have hgrants : (trC ++ trR).any (GpioEvent.grants (.nss radio)) = false := by
      rw [List.any_append, hgrantsC, hgrantsR _ (by simp), Bool.or_false]
    simp only [List.nil_append, ensures_ite, ensures_pure, List.append_nil]
    refine ⟨fun hrc => ?_, fun _ => ?_⟩
    · refine ⟨balanced_append hbalC hbalR, hapart,
        .failed hidle₂ (losesNss_ungranted hgrants) ((hfail hrc).imp_right fun hf => ?_)⟩
      rw [List.any_append, hf, Bool.or_true]
    · refine (ensures_requestBoth hidle₂ hchip).mono fun tr rc p' e' h => ?_
      obtain ⟨hbal, hapart', hacq⟩ := h
      refine ⟨balanced_append hbalC (balanced_append hbalR hbal), hapart.trans hapart', ?_⟩
      rw [← List.append_assoc]
      exact hacq.prepend hgrants False.elim
  · rw [if_pos (by decide), ensures_pure, List.append_nil]
    exact ⟨hbalC, apart_refl, .failed hidle (losesNss_ungranted (hgrantsC _)) (.inr hfail)⟩

theorem ensures_gpioInitCtx_acquired (h : Acquired radio w) :
    Ensures libgpiod (gpioInitCtx radio hw) (fun tr rc p' e' =>
      tr = [] ∧ rc = 0 ∧ p' = w.1 ∧ e' = w.2) w.1 w.2 := by
  simp only [gpioInitCtx, gpioChipOpen, ensures_bind, ensures_read, h.chip, if_true,
    ensures_pure, ne_eq, not_true_eq_false, if_false, h.requested]
  exact ⟨rfl, trivial, trivial, trivial⟩

theorem ensures_gpioDeinitCtx (h : Idle radio w ∨ Acquired radio w) :
    Ensures libgpiod (gpioDeinitCtx radio)
      (fun _ _ p' e' => Idle radio (p', e') ∧ Apart radio w (p', e')) w.1 w.2 := by
  rcases h with h | h
  · simp only [gpioDeinitCtx, ensures_bind, ensures_read, h.nssReq, h.busyReq,
      Option.isSome_none, Bool.false_eq_true, if_false, ensures_pure, ensures_modify]
    refine ⟨⟨?_, ?_, ?_, h.nss, h.busy⟩, apart_withGpio _ (fun _ _ => rfl) fun _ _ => rfl⟩
    · simpa using h.nssReq
    · simpa using h.busyReq
    · simp
  · obtain ⟨n, hnssReq, hnss⟩ := h.nss
    obtain ⟨b, hbusyReq, hbusy⟩ := h.busy
    simp only [gpioDeinitCtx, gpiod, ensures_bind, ensures_read, hnssReq, hbusyReq,
      Option.isSome_some, if_true, ensures_pure, ensures_ask, ensures_modify]
    intro _ e₁ he₁ _ e₂ he₂
    rw [hbusyReq] at he₁
    rw [hnssReq] at he₂
    have hnss₁ := (of_released_other (l := .nss radio) he₁ hbusy rfl (by simp)).trans hnss
    have hbusy₂ := of_released_other (l := .busy radio) he₂ hnss₁ rfl (by simp)
    refine ⟨⟨by simp, by simp, by simp, of_released he₂ hnss₁ rfl,
      hbusy₂.trans (of_released he₁ hbusy rfl)⟩, ?_⟩
    rw [withGpio_withGpio]
    exact (apart_released _ he₁ hbusy rfl (.inr rfl)).trans
      (apart_released _ he₂ hnss₁ rfl (.inl rfl))

end Acquisitions

/-! ## Runs -/

inductive GpioOp
  | init (radio : Radio) (hw : RadioHwConfig)
  | deinit (radio : Radio)

def gpioProgram : GpioOp → Gpio UInt8
  | .init radio hw => gpioInitCtx radio hw
  | .deinit radio => gpioDeinitCtx radio

abbrev GpioLabel := Label GpioOp (fun _ => UInt8) GpiodCall GpiodAnswer

/-- The two radios' calls in any order. -/
abbrev GpioStep : Port × Libgpiod → GpioLabel → Port × Libgpiod → Prop :=
  Session gpioProgram libgpiod fun _ _ => False

/-- The globals of a program that starts. -/
def Port.zero : Port where
  gpioChip := false
  resetReq := none
  resetOffset := 0
  gpio _ := { nssReq := none, busyReq := none, nssOffset := 0, busyOffset := 0, requested := false }

def gpioStart : Port × Libgpiod := (.zero, ⟨[], .nil, .nil⟩)

/-- Nothing fails in an init: no call of libgpiod's, unless for a line this
radio's own requests hold, and a reset line there is the one asked for. -/
structure NothingFails (radio : Radio) (hw : RadioHwConfig) (w : Port × Libgpiod)
    (tr : List GpioEvent) : Prop where
  reset : w.1.resetReq.isSome = true → w.1.resetOffset = hw.pinReset
  calls : tr.any (GpioEvent.fails ((w.2.of (.nss radio) ++ w.2.of (.busy radio)).map
    LineRequest.offset)) = false

structure AllOrNothing (radio : Radio) (hw : RadioHwConfig) (w : Port × Libgpiod)
    (tr : List GpioEvent) (rc : UInt8) (w' : Port × Libgpiod) : Prop where
  all : rc = 0 →
    (w'.2.of (.nss radio)).map LineRequest.offset = [(w'.1.gpio radio).nssOffset]
      ∧ (w'.2.of (.busy radio)).map LineRequest.offset = [(w'.1.gpio radio).busyOffset]
  nothing : rc ≠ 0 → w'.2.of (.nss radio) = [] ∧ w'.2.of (.busy radio) = [] ∧ Balanced tr
  succeeds : NothingFails radio hw w tr → rc = 0

/-- Every init of the step is all or nothing. -/
def Whole (x : Rec (Port × Libgpiod) GpioLabel) : Prop :=
  ∀ radio hw tr rc, x.label = .op (.init radio hw) tr rc →
    AllOrNothing radio hw x.pre tr rc x.post

/-- No allocation of the step fails once NSS was granted. -/
def KeepsNss (x : Rec (Port × Libgpiod) GpioLabel) : Bool :=
  match x.label with
  | .op (.init radio _) tr _ => !LosesNss radio tr
  | _ => true

/-- Each radio has both lines or neither. -/
def Settled (w : Port × Libgpiod) : Prop := ∀ radio, Idle radio w ∨ Acquired radio w

section Runs

variable {radio : Radio} {hw : RadioHwConfig} {w w' : Port × Libgpiod}
  {tr : List GpioEvent} {rc : UInt8}

theorem settled_start : Settled gpioStart := fun _ => .inl ⟨rfl, rfl, rfl, rfl, rfl⟩

theorem Apart.settled (h : Apart radio w w') (hown : Idle radio w' ∨ Acquired radio w')
    (hw : Settled w) : Settled w' := by
  intro k
  by_cases hk : k = radio
  · rwa [hk]
  · refine (hw k).imp (fun hi => ?_) fun ha => ?_
    · exact ⟨by rw [h.gpio k hk, hi.nssReq], by rw [h.gpio k hk, hi.busyReq],
        by rw [h.gpio k hk, hi.requested], (h.nss k hk).trans hi.nss, (h.busy k hk).trans hi.busy⟩
    · refine ⟨h.chip ha.chip, by rw [h.gpio k hk, ha.requested], ?_, ?_⟩
      · rw [h.gpio k hk, h.nss k hk]
        exact ha.nss
      · rw [h.gpio k hk, h.busy k hk]
        exact ha.busy

theorem not_nothingFails (hidle : Idle radio w)
    (hfail : w.1.resetReq.isSome = true ∧ w.1.resetOffset ≠ hw.pinReset
      ∨ tr.any (GpioEvent.fails []) = true) : ¬NothingFails radio hw w tr := by
  intro h
  rcases hfail with ⟨hreq, hne⟩ | hfail
  · exact hne (h.reset hreq)
  · have hcalls := h.calls
    rw [hidle.nss, hidle.busy] at hcalls
    exact Bool.false_ne_true (hcalls.symm.trans hfail)

/-- From a settled port an init is all or nothing just if it does not lose
NSS, and an init that does not leaves the port settled. -/
theorem allOrNothing_iff (hset : Settled w)
    (hx : Exec libgpiod (gpioInitCtx radio hw) w.1 w.2 tr rc w'.1 w'.2) :
    (AllOrNothing radio hw w tr rc w' ↔ LosesNss radio tr = false)
      ∧ (LosesNss radio tr = false → Settled w') := by
  rcases hset radio with hidle | hacq
  · obtain ⟨hbal, hapart, hacq⟩ := ensures_gpioInitCtx_idle hidle _ _ _ _ hx
    cases hacq with
    | acquired h hkept =>
        obtain ⟨n, -, hnss⟩ := h.nss
        obtain ⟨b, -, hbusy⟩ := h.busy
        have hall : AllOrNothing radio hw w tr 0 w' :=
          ⟨fun _ => by simp [hnss, hbusy], fun hrc => absurd rfl hrc, fun _ => rfl⟩
        exact ⟨⟨fun _ => hkept, fun _ => hall⟩, fun _ => hapart.settled (.inr h) hset⟩
    | failed h hkept hfail =>
        have hall : AllOrNothing radio hw w tr 1 w' :=
          ⟨fun hrc => absurd hrc (by decide), fun _ => ⟨h.nss, h.busy, hbal⟩,
            fun hno => absurd hno (not_nothingFails hidle hfail)⟩
        exact ⟨⟨fun _ => hkept, fun _ => hall⟩, fun _ => hapart.settled (.inl h) hset⟩
    | lost h hlost hfail =>
        refine ⟨⟨fun hall => ?_, fun hkept => ?_⟩, fun hkept => ?_⟩
        · have hnss := (hall.nothing (by decide)).1
          rw [h] at hnss
          cases hnss
        · cases hkept.symm.trans hlost
        · cases hkept.symm.trans hlost
  · obtain ⟨rfl, rfl, hp, he⟩ := ensures_gpioInitCtx_acquired hacq _ _ _ _ hx
    obtain rfl : w' = w := Prod.ext hp he
    obtain ⟨n, -, hnss⟩ := hacq.nss
    obtain ⟨b, -, hbusy⟩ := hacq.busy
    have hall : AllOrNothing radio hw w' [] 0 w' :=
      ⟨fun _ => by simp [hnss, hbusy], fun hrc => absurd rfl hrc, fun _ => rfl⟩
    exact ⟨⟨fun _ => rfl, fun _ => hall⟩, fun _ => hset⟩

/-- Step lemma: one call of either function on a settled port is all or
nothing just if it keeps NSS, and then leaves the port settled. -/
theorem gpioStep_settled {l : GpioLabel} (hs : GpioStep w l w') (hset : Settled w) :
    (Whole ⟨w, l, w'⟩ ↔ KeepsNss ⟨w, l, w'⟩ = true)
      ∧ (KeepsNss ⟨w, l, w'⟩ = true → Settled w') := by
  cases hs with
  | tick h => exact h.elim
  | @op o s e tr rc s' e' hx =>
      cases o with
      | init radio hw =>
          obtain ⟨hiff, hkept⟩ : (AllOrNothing radio hw (s, e) tr rc (s', e')
              ↔ LosesNss radio tr = false) ∧ (LosesNss radio tr = false → Settled (s', e')) :=
            allOrNothing_iff hset hx
          have hkeeps : KeepsNss ⟨(s, e), .op (.init radio hw) tr rc, (s', e')⟩ = true
              ↔ LosesNss radio tr = false := by simp [KeepsNss]
          rw [hkeeps, ← hiff]
          refine ⟨⟨fun h => h radio hw tr rc rfl, fun h => ?_⟩, fun h => hkept (hiff.mp h)⟩
          intro radio' hw' tr' rc' hl
          cases hl
          exact h
      | deinit radio =>
          obtain ⟨hidle, hapart⟩ := ensures_gpioDeinitCtx (hset radio) _ _ _ _ hx
          refine ⟨⟨fun _ => rfl, fun _ => ?_⟩, fun _ => hapart.settled (.inl hidle) hset⟩
          intro radio' hw' tr' rc' hl
          cases hl

end Runs

/-! ## A bench -/

/-- libgpiod with memory except where `out`; its handles are the offsets. -/
def benchGpiod (out : Libgpiod → Bool) :
    Libgpiod → (i : GpiodCall) → GpiodAnswer i × Libgpiod
  | e, .chipOpen => (true, e)
  | e, .new _ => (if out e then none else some 0, e)
  | e, .free .. => ((), e)
  | e, .requestLines line offset =>
    if h : offset.toNat ∉ e.requests.map LineRequest.handle
        ∧ offset ∉ e.requests.map LineRequest.offset then
      (some offset.toNat, ⟨⟨offset.toNat, line, offset⟩ :: e.requests,
        List.nodup_cons.mpr ⟨h.1, e.handles⟩, List.nodup_cons.mpr ⟨h.2, e.offsets⟩⟩)
    else (none, e)
  | e, .release none => ((), e)
  | e, .release (some h) =>
    ((), ⟨e.requests.filter (·.handle ≠ h),
      e.handles.sublist (List.filter_sublist.map _),
      e.offsets.sublist (List.filter_sublist.map _)⟩)

theorem benchGpiod_answers (out : Libgpiod → Bool) : Answers (benchGpiod out) libgpiod := by
  intro e i
  cases i with
  | chipOpen | new o | free o h => rfl
  | requestLines line offset =>
      rw [benchGpiod]
      split <;> rfl
  | release req => cases req <;> rfl

def benchHw : RadioHwConfig :=
  { (Ctx.powerOn .sx1262).hwConfig with pinNss := 8, pinBusy := 24, pinReset := 17 }

/-- Memory runs out once the radio has NSS. -/
def outAfterNss (e : Libgpiod) : Bool := !(e.of (.nss .sx1262)).isEmpty

/-- In every run of the two functions, for both radios and with any hardware
configurations, all inits are all or nothing exactly when no allocation fails
once the radio's NSS line is granted. In both directions a good step hands a
settled port to the next. -/
theorem inits_whole_iff {xs : List (Rec (Port × Libgpiod) GpioLabel)} {w : Port × Libgpiod}
    (h : Run GpioStep gpioStart xs w) : (∀ x ∈ xs, Whole x) ↔ ∀ x ∈ xs, KeepsNss x = true :=
  h.forall_iff Settled Whole (KeepsNss · = true) settled_start
    (fun _ hs hset => (gpioStep_settled hs hset).1)
    fun _ hs hwhole hset => (gpioStep_settled hs hset).2 ((gpioStep_settled hs hset).1.mp hwhole)

/-- Initialised, given back and initialised again: one NSS line is requested. -/
theorem inits_whole_reacquired : ∃ xs w, Run GpioStep gpioStart xs w
    ∧ (∀ x ∈ xs, Whole x) ∧ (w.2.of (.nss .sx1262)).length = 1 := by
  have heval : evalsTo gpioProgram (benchGpiod fun _ => false) 1
      [.init .sx1262 benchHw, .deinit .sx1262, .init .sx1262 benchHw] gpioStart
      (fun xs w => xs.all KeepsNss && (w.2.of (.nss .sx1262)).length == 1) = true := by
    decide +kernel
  obtain ⟨xs, w, hrun, hP⟩ := evalsTo_run (fun _ _ => False) (benchGpiod_answers _) heval
  rw [Bool.and_eq_true, List.all_eq_true, beq_iff_eq] at hP
  exact ⟨xs, w, hrun, (inits_whole_iff hrun).mpr hP.1, hP.2⟩

/-- With no memory for the BUSY settings the init fails and NSS stays
requested. The next one is refused NSS, though nothing fails in it. -/
theorem busy_failure_leaves_nss : ∃ tr tr' w w',
    Run GpioStep gpioStart [⟨gpioStart, .op (.init .sx1262 benchHw) tr 1, w⟩,
        ⟨w, .op (.init .sx1262 benchHw) tr' 1, w'⟩] w'
      ∧ (w.2.of (.nss .sx1262)).length = 1
      ∧ ¬AllOrNothing .sx1262 benchHw gpioStart tr 1 w
      ∧ NothingFails .sx1262 benchHw w tr' ∧ ¬AllOrNothing .sx1262 benchHw w tr' 1 w' := by
  have heval : ∃ tr tr' w w',
      (gpioInitCtx .sx1262 benchHw).eval (benchGpiod outAfterNss) 1 gpioStart = some (tr, 1, w)
      ∧ (gpioInitCtx .sx1262 benchHw).eval (benchGpiod fun _ => false) 1 w = some (tr', 1, w')
      ∧ (w.2.of (.nss .sx1262)).length = 1 ∧ w.1.resetOffset = benchHw.pinReset
      ∧ tr'.any (GpioEvent.fails ((w.2.of (.nss .sx1262) ++ w.2.of (.busy .sx1262)).map
          LineRequest.offset)) = false :=
    ⟨_, _, _, _, rfl, rfl, rfl, rfl, rfl⟩
  obtain ⟨tr, tr', w, w', h, h', hnss, hreset, hno⟩ := heval
  have hx := Prog.eval_exec (benchGpiod_answers _) h
  have hx' := Prog.eval_exec (benchGpiod_answers _) h'
  have hnothing : NothingFails .sx1262 benchHw w tr' := ⟨fun _ => hreset, hno⟩
  refine ⟨tr, tr', w, w', .cons (.op (o := GpioOp.init .sx1262 benchHw) hx)
    (.cons (.op (o := GpioOp.init .sx1262 benchHw) hx') .nil), hnss, fun hall => ?_, hnothing,
    fun hall => absurd (hall.succeeds hnothing) (by decide)⟩
  have hnone := (hall.nothing (by decide)).1
  rw [hnone] at hnss
  cases hnss

end Lines

end Sx126x

end LeosSdk
