import LeosSdk.PurpleboardHeap

/-!
# Purpleboard: what the results and the readings say

`leos_purpleboard_readings_t` is a flat struct with a flag for each sensor. It
stands for a `Snapshot`: what each sensor delivered, or nothing. `render`
writes one down, `Readings.snapshot` reads it back (`snapshot_render`).

`leos_purpleboard_read` leaves the rendering of what the drivers delivered in
this call and nothing of what was in the struct before; refused calls and the
other functions leave the struct alone. So it always tells of the last call
that was not refused (`readings_tell_last_read`). The results are `PB_OK`
exactly if every sensor began or delivered.

What was delivered is read off the trace of the call, sensor by sensor. Each
sensor's part of the function has one lemma (`Took`), which also says that it
calls on no other driver, so the parts of the trace filter apart again
(`filter_of_onlyAbout`) and the four lemmas compose. The four parts together
write every field of the struct, which is why nothing of it is left
(`putAll_eq`). For `init` the drivers begun and their answers are a list, and
the parts of the function append to it (`Began.append`).
-/

namespace LeosSdk

namespace Purpleboard

variable {F : Type}

/-! ## Snapshots -/

structure BmeReading (F : Type) where
  temperatureC : F
  pressureMb : F
  humidity : F
  altitudeM : F
  gasResistance : UInt32

structure TslReading (F : Type) where
  lux : F
  fullSpectrum : UInt32

structure Snapshot (F : Type) where
  bme : Option (BmeReading F)
  ltr : Option UInt32
  aqi : Option AqiData
  tsl : Option (TslReading F)

def Snapshot.complete (s : Snapshot F) : Bool :=
  s.bme.isSome && s.ltr.isSome && s.aqi.isSome && s.tsl.isSome

def BmeReading.none (ops : FloatOps F) : BmeReading F := ⟨ops.zero, ops.zero, ops.zero, ops.zero, 0⟩

def AqiData.none : AqiData := ⟨0, 0, 0, 0, 0, 0, 0, 0, 0, 0, 0⟩

def TslReading.none (ops : FloatOps F) : TslReading F := ⟨ops.zero, 0⟩

/-! The struct, a sensor at a time. -/

def Readings.putBme (ops : FloatOps F) (d : Readings F) (s : Option (BmeReading F)) : Readings F :=
  let b := s.getD (.none ops)
  { d with
    bme680Valid := s.isSome, temperatureC := b.temperatureC, pressureMb := b.pressureMb,
    humidity := b.humidity, altitudeM := b.altitudeM, gasResistance := b.gasResistance }

def Readings.putLtr (d : Readings F) (s : Option UInt32) : Readings F :=
  { d with ltr390Valid := s.isSome, ltr390Uvs := s.getD 0 }

def Readings.putAqi (d : Readings F) (s : Option AqiData) : Readings F :=
  let a := s.getD .none
  { d with
    pmsa003iValid := s.isSome, pm10Env := a.pm10Env, pm25Env := a.pm25Env,
    pm100Env := a.pm100Env, aqiPm25Us := a.aqiPm25Us, aqiPm100Us := a.aqiPm100Us,
    particles03um := a.particles03um, particles05um := a.particles05um,
    particles10um := a.particles10um, particles25um := a.particles25um,
    particles50um := a.particles50um, particles100um := a.particles100um }

def Readings.putTsl (ops : FloatOps F) (d : Readings F) (s : Option (TslReading F)) : Readings F :=
  let t := s.getD (.none ops)
  { d with
    tsl2591Valid := s.isSome, lux := t.lux, rawFullSpectrum := t.fullSpectrum,
    rawInfrared := (t.fullSpectrum >>> 16).toUInt16,
    rawVisible := (t.fullSpectrum &&& 0xFFFF).toUInt16 }

/-- A snapshot written over a struct; nothing of the struct is left
(`putAll_eq`). -/
def Readings.putAll (ops : FloatOps F) (d : Readings F) (s : Snapshot F) : Readings F :=
  (((d.putBme ops s.bme).putLtr s.ltr).putAqi s.aqi).putTsl ops s.tsl

/-- A snapshot as a struct. -/
def render (ops : FloatOps F) (s : Snapshot F) : Readings F :=
  let b := s.bme.getD (.none ops)
  let a := s.aqi.getD .none
  let t := s.tsl.getD (.none ops)
  { bme680Valid := s.bme.isSome
    temperatureC := b.temperatureC
    pressureMb := b.pressureMb
    humidity := b.humidity
    altitudeM := b.altitudeM
    gasResistance := b.gasResistance
    tsl2591Valid := s.tsl.isSome
    lux := t.lux
    rawVisible := (t.fullSpectrum &&& 0xFFFF).toUInt16
    rawInfrared := (t.fullSpectrum >>> 16).toUInt16
    rawFullSpectrum := t.fullSpectrum
    ltr390Valid := s.ltr.isSome
    ltr390Uvs := s.ltr.getD 0
    pmsa003iValid := s.aqi.isSome
    pm10Env := a.pm10Env
    pm25Env := a.pm25Env
    pm100Env := a.pm100Env
    aqiPm25Us := a.aqiPm25Us
    aqiPm100Us := a.aqiPm100Us
    particles03um := a.particles03um
    particles05um := a.particles05um
    particles10um := a.particles10um
    particles25um := a.particles25um
    particles50um := a.particles50um
    particles100um := a.particles100um }

/-- What a struct says. -/
def Readings.snapshot (d : Readings F) : Snapshot F where
  bme := if d.bme680Valid then
    some ⟨d.temperatureC, d.pressureMb, d.humidity, d.altitudeM, d.gasResistance⟩ else none
  ltr := if d.ltr390Valid then some d.ltr390Uvs else none
  aqi := if d.pmsa003iValid then
    some ⟨d.pm10Env, d.pm25Env, d.pm100Env, d.aqiPm25Us, d.aqiPm100Us, d.particles03um,
      d.particles05um, d.particles10um, d.particles25um, d.particles50um, d.particles100um⟩
    else none
  tsl := if d.tsl2591Valid then some ⟨d.lux, d.rawFullSpectrum⟩ else none

theorem putAll_eq (ops : FloatOps F) (d : Readings F) (s : Snapshot F) :
    d.putAll ops s = render ops s := rfl

theorem snapshot_render (ops : FloatOps F) (s : Snapshot F) : (render ops s).snapshot = s := by
  obtain ⟨bme, ltr, aqi, tsl⟩ := s
  cases bme <;> cases ltr <;> cases aqi <;> cases tsl <;> rfl

/-! ## What a call's trace delivers -/

/-- The kind of driver a call is on. -/
def partOf : Event (Call F) (Answer F) → Option Part
  | ⟨.method m _, _⟩ => some m.part
  | _ => none

def about (part : Part) (ev : Event (Call F) (Answer F)) : Bool := partOf ev == some part

def bmeTaken (ops : FloatOps F) : List (Event (Call F) (Answer F)) → Option (BmeReading F)
  | [⟨.method .performReading _, true⟩, ⟨.method .temperature _, temperature⟩,
      ⟨.method .pressure _, pressure⟩, ⟨.method .humidity _, humidity⟩,
      ⟨.method (.readAltitude _) _, altitude⟩, ⟨.method .gasResistance _, gasResistance⟩] =>
    some ⟨temperature, ops.div100 pressure, humidity, altitude, gasResistance⟩
  | _ => none

def ltrTaken : List (Event (Call F) (Answer F)) → Option UInt32
  | [⟨.method .getMode _, .uvs⟩, ⟨.method .newDataAvailable _, true⟩,
      ⟨.method .readUVS _, uvs⟩] => some uvs
  | _ => none

def aqiTaken : List (Event (Call F) (Answer F)) → Option AqiData
  | [⟨.method .aqiRead _, (true, data)⟩] => some data
  | _ => none

def tslTaken : List (Event (Call F) (Answer F)) → Option (TslReading F)
  | [⟨.method .getEvent _, (true, light)⟩, ⟨.method .getFullLuminosity _, fullSpectrum⟩] =>
    some ⟨light, fullSpectrum⟩
  | _ => none

/-- What the drivers delivered in a call. -/
def taken (ops : FloatOps F) (tr : List (Event (Call F) (Answer F))) : Snapshot F where
  bme := bmeTaken ops (tr.filter (about .bme))
  ltr := ltrTaken (tr.filter (about .ltr))
  aqi := aqiTaken (tr.filter (about .aqi))
  tsl := tslTaken (tr.filter (about .tsl))

/-! ## One sensor at a time -/

/-- No call is on a driver of another kind. -/
def onlyAbout (part : Part) (tr : List (Event (Call F) (Answer F))) : Bool :=
  tr.all fun ev => (partOf ev).all (· == part)

/-- The calls on another driver in the part of one sensor: none. -/
theorem filter_of_onlyAbout {part : Part} {tr : List (Event (Call F) (Answer F))}
    (h : onlyAbout part tr = true) (part' : Part) (hne : part' ≠ part) :
    tr.filter (about part') = [] := by
  rw [List.filter_eq_nil_iff]
  intro ev hev habout
  have hown := List.all_eq_true.mp h ev hev
  rw [beq_iff_eq.mp habout] at hown
  exact hne (beq_iff_eq.mp hown)

section Sensors

variable {ε : Type} {E : Env ε (Call F) (Answer F)} {ops : FloatOps F} {pb : Ptr}
  {result : PbResult} {d : Readings F} {e : ε}

theorem ensures_onBoard {m : Method F} {Q : Post (Readings F) ε (Call F) (Answer F) (m.Ret F)}
    (hQ : ∀ p r e', Q [⟨.load pb m.part, p⟩, ⟨.method m p, r⟩] r d e') :
    Ensures E (onBoard pb m) Q d e := by
  unfold onBoard
  rw [ensures_bind, ensures_ask]
  intro p e₁ _
  rw [ensures_ask]
  intro r e₂ _
  exact hQ p r e₂

/-- What one sensor's part of `read` does: its fields say what the driver
delivered, `result` becomes degraded if that was nothing and stays otherwise,
and no other driver was called. -/
structure Took {α : Type} (part : Part) (takenFrom : List (Event (Call F) (Answer F)) → Option α)
    (put : Readings F → Option α → Readings F) (result : PbResult) (d : Readings F)
    (tr : List (Event (Call F) (Answer F))) (r : PbResult) (d' : Readings F) : Prop where
  readings : d' = put d (takenFrom (tr.filter (about part)))
  result : r = if (takenFrom (tr.filter (about part))).isSome then result else .sensorReadDegraded
  only : onlyAbout part tr = true

theorem ensures_readBme : Ensures E (readBme ops pb result) (fun tr r d' _ =>
    Took .bme (bmeTaken ops) (Readings.putBme ops) result d tr r d') d e := by
  unfold readBme
  rw [ensures_bind]
  refine ensures_onBoard fun p₁ ready e₁ => ?_
  cases ready with
  | false =>
      refine ensures_bind.mpr (ensures_modify.mpr (ensures_pure.mpr ⟨rfl, rfl, rfl⟩))
  | true =>
      refine ensures_bind.mpr (ensures_onBoard fun p₂ temperature e₂ => ?_)
      refine ensures_bind.mpr (ensures_onBoard fun p₃ pressure e₃ => ?_)
      refine ensures_bind.mpr (ensures_onBoard fun p₄ humidity e₄ => ?_)
      refine ensures_bind.mpr (ensures_onBoard fun p₅ altitude e₅ => ?_)
      refine ensures_bind.mpr (ensures_onBoard fun p₆ gasResistance e₆ => ?_)
      refine ensures_bind.mpr (ensures_modify.mpr (ensures_pure.mpr ⟨rfl, rfl, rfl⟩))

theorem ensures_readLtr : Ensures E (readLtr pb result) (fun tr r d' _ =>
    Took .ltr ltrTaken Readings.putLtr result d tr r d') d e := by
  unfold readLtr ltrReady
  rw [ensures_bind, ensures_bind]
  refine ensures_onBoard fun p₁ mode e₁ => ?_
  cases mode with
  | als =>
      refine ensures_pure.mpr (ensures_bind.mpr (ensures_modify.mpr
        (ensures_pure.mpr ⟨rfl, rfl, rfl⟩)))
  | uvs =>
      refine ensures_onBoard fun p₂ ready e₂ => ?_
      cases ready with
      | false =>
          refine ensures_bind.mpr (ensures_modify.mpr (ensures_pure.mpr ⟨rfl, rfl, rfl⟩))
      | true =>
          refine ensures_bind.mpr (ensures_onBoard fun p₃ uvs e₃ => ?_)
          refine ensures_bind.mpr (ensures_modify.mpr (ensures_pure.mpr ⟨rfl, rfl, rfl⟩))

theorem ensures_readAqi : Ensures E (readAqi pb result) (fun tr r d' _ =>
    Took .aqi aqiTaken Readings.putAqi result d tr r d') d e := by
  unfold readAqi
  rw [ensures_bind]
  refine ensures_onBoard fun p₁ answer e₁ => ?_
  obtain ⟨ready, data⟩ := answer
  cases ready with
  | false =>
      refine ensures_bind.mpr (ensures_modify.mpr (ensures_pure.mpr ⟨rfl, rfl, rfl⟩))
  | true =>
      refine ensures_bind.mpr (ensures_modify.mpr (ensures_pure.mpr ⟨rfl, rfl, rfl⟩))

theorem ensures_readTsl : Ensures E (readTsl ops pb result) (fun tr r d' _ =>
    Took .tsl tslTaken (Readings.putTsl ops) result d tr r d') d e := by
  unfold readTsl
  rw [ensures_bind]
  refine ensures_onBoard fun p₁ answer e₁ => ?_
  obtain ⟨ready, light⟩ := answer
  cases ready with
  | false =>
      refine ensures_bind.mpr (ensures_modify.mpr (ensures_pure.mpr ⟨?_, rfl, rfl⟩))
      show _ = Readings.putTsl ops d none
      simp [Readings.putTsl, TslReading.none]
  | true =>
      refine ensures_bind.mpr (ensures_onBoard fun p₂ fullSpectrum e₂ => ?_)
      refine ensures_bind.mpr (ensures_modify.mpr (ensures_pure.mpr ⟨rfl, rfl, rfl⟩))

/-- A call that is not refused: the parts of the four sensors one after the
other, whose traces the filters take apart. -/
theorem ensures_read : Ensures E (read ops (some pb) false) (fun tr r d' _ =>
    d' = render ops (taken ops tr)
      ∧ r = if (taken ops tr).complete then .ok else .sensorReadDegraded) d e := by
  refine ensures_bind.mpr (ensures_readBme.mono ?_)
  rintro tr₁ r₁ d₁ e₁ ⟨hd₁, hr₁, ho₁⟩
  refine ensures_bind.mpr (ensures_readLtr.mono ?_)
  rintro tr₂ r₂ d₂ e₂ ⟨hd₂, hr₂, ho₂⟩
  refine ensures_bind.mpr (ensures_readAqi.mono ?_)
  rintro tr₃ r₃ d₃ e₃ ⟨hd₃, hr₃, ho₃⟩
  refine ensures_readTsl.mono ?_
  rintro tr₄ r₄ d₄ e₄ ⟨hd₄, hr₄, ho₄⟩
  have htaken : taken ops (tr₁ ++ (tr₂ ++ (tr₃ ++ tr₄)))
      = ⟨bmeTaken ops (tr₁.filter (about .bme)), ltrTaken (tr₂.filter (about .ltr)),
        aqiTaken (tr₃.filter (about .aqi)), tslTaken (tr₄.filter (about .tsl))⟩ := by
    simp only [taken, List.filter_append]
    have h₁ := filter_of_onlyAbout ho₁
    have h₂ := filter_of_onlyAbout ho₂
    have h₃ := filter_of_onlyAbout ho₃
    have h₄ := filter_of_onlyAbout ho₄
    rw [h₁ .ltr (by decide), h₁ .aqi (by decide), h₁ .tsl (by decide),
      h₂ .bme (by decide), h₂ .aqi (by decide), h₂ .tsl (by decide),
      h₃ .bme (by decide), h₃ .ltr (by decide), h₃ .tsl (by decide),
      h₄ .bme (by decide), h₄ .ltr (by decide), h₄ .aqi (by decide)]
    simp only [List.nil_append, List.append_nil]
  rw [htaken]
  refine ⟨?_, ?_⟩
  · rw [hd₄, hd₃, hd₂, hd₁]
    exact putAll_eq ops d ⟨_, _, _, _⟩
  · rw [hr₄, hr₃, hr₂, hr₁, Snapshot.complete]
    cases (bmeTaken ops (tr₁.filter (about .bme))).isSome <;>
      cases (ltrTaken (tr₂.filter (about .ltr))).isSome <;>
      cases (aqiTaken (tr₃.filter (about .aqi))).isSome <;>
      cases (tslTaken (tr₄.filter (about .tsl))).isSome <;> rfl

/-! ## Which drivers began -/

/-- A call of `begin` and its answer. -/
def begunOf : Event (Call F) (Answer F) → Option (Part × Bool)
  | ⟨.method (.begin part _) _, begun⟩ => some (part, begun)
  | _ => none

def settingOf : Event (Call F) (Answer F) → Option Setting
  | ⟨.method (.set setting) _, _⟩ => some setting
  | _ => none

def Part.settings : Part → List Setting
  | .bme => [.temperatureOversampling8x, .humidityOversampling2x, .pressureOversampling4x,
      .iirFilterSize3, .gasHeater 320 150]
  | .ltr => [.modeUvs, .resolution16Bit, .gain1]
  | .tsl => [.gainMed, .integrationTime300Ms]
  | _ => []

/-- The drivers of `parts` were begun in this order; those that answered
`true` were set up, and a failure is in the result, though not whose it was. -/
structure Began (parts : List Part) (result : PbResult) (d : Readings F)
    (tr : List (Event (Call F) (Answer F))) (r : PbResult) (d' : Readings F) : Prop where
  readings : d' = d
  order : (tr.filterMap begunOf).map Prod.fst = parts
  settings : tr.filterMap settingOf
    = (tr.filterMap begunOf).flatMap fun (part, begun) => if begun then part.settings else []
  result : r = if (tr.filterMap begunOf).all Prod.snd then result else .sensorNoDetect

theorem ensures_setAll {settings : List Setting} :
    Ensures E (setAll pb settings) (fun tr _ d' _ => d' = d ∧ tr.filterMap begunOf = []
      ∧ tr.filterMap settingOf = settings) d e := by
  induction settings generalizing e with
  | nil => exact ensures_pure.mpr ⟨rfl, rfl, rfl⟩
  | cons setting settings ih =>
      refine ensures_bind.mpr (ensures_onBoard fun p _ e₁ => ih.mono ?_)
      rintro tr _ d' _ ⟨hd, hbegun, hsettings⟩
      exact ⟨hd, hbegun, congrArg (setting :: ·) hsettings⟩

/-- A driver that answered, and what `detect` makes of it. -/
theorem ensures_detect {part : Part} {begun : Bool} {tr₀ : List (Event (Call F) (Answer F))}
    (hbegun₀ : tr₀.filterMap begunOf = [(part, begun)])
    (hsettings₀ : tr₀.filterMap settingOf = []) :
    Ensures E (detect pb begun part.settings result) (fun tr r d' _ =>
      Began [part] result d (tr₀ ++ tr) r d') d e := by
  unfold detect
  cases begun with
  | false =>
      refine ensures_pure.mpr ⟨rfl, ?_, ?_, ?_⟩
      · simp [hbegun₀]
      · simp [hbegun₀, hsettings₀]
      · simp [hbegun₀]
  | true =>
      refine ensures_bind.mpr (ensures_setAll.mono ?_)
      rintro tr _ d' _ ⟨hd, hbegun, hsettings⟩
      refine ensures_pure.mpr ⟨hd, ?_, ?_, ?_⟩
      · simp [hbegun₀, hbegun]
      · simp [hbegun₀, hsettings₀, hbegun, hsettings]
      · simp [hbegun₀, hbegun]

/-- Two parts of `init` one after the other: the drivers begun are those of
both, and the second goes on with the result of the first. -/
theorem Began.append {parts parts' : List Part} {tr tr' : List (Event (Call F) (Answer F))}
    {r r' : PbResult} {d' d'' : Readings F} (h : Began parts .ok d tr r d')
    (h' : Began parts' r d' tr' r' d'') : Began (parts ++ parts') .ok d (tr ++ tr') r' d'' where
  readings := h'.readings.trans h.readings
  order := by rw [List.filterMap_append, List.map_append, h.order, h'.order]
  settings := by
    rw [List.filterMap_append, List.filterMap_append, List.flatMap_append, h.settings, h'.settings]
  result := by
    rw [h'.result, h.result, List.filterMap_append, List.all_append]
    cases (tr.filterMap begunOf).all Prod.snd <;>
      cases (tr'.filterMap begunOf).all Prod.snd <;> rfl

theorem ensures_beginOn (part : Part) (result : PbResult) :
    Ensures E (beginOn pb part >>= fun begun => detect pb begun part.settings result)
      (fun tr r d' _ => Began [part] result d tr r d') d e := by
  rw [ensures_bind]
  unfold beginOn
  rw [ensures_bind, ensures_ask]
  intro p e₁ _
  rw [ensures_bind, ensures_ask]
  intro wire e₂ _
  rw [ensures_ask]
  intro begun e₃ _
  exact ensures_detect rfl rfl

theorem ensures_bind_bind {α β γ : Type} {p : Api F α} {q : α → Api F β} {f : β → Api F γ}
    {Q : Post (Readings F) ε (Call F) (Answer F) γ} :
    Ensures E (p >>= fun a => q a >>= f) Q d e ↔
      Ensures E (p >>= q) (fun tr b d' e' => Ensures E (f b) (fun tr' => Q (tr ++ tr')) d' e')
        d e := by
  simp only [ensures_bind, List.append_assoc]

theorem ensures_beginAll : Ensures E (beginAll pb) (fun tr r d' _ =>
    Began [.bme, .ltr, .aqi, .tsl] .ok d tr r d') d e := by
  unfold beginAll
  have hbme : Ensures E (onBoard pb (.begin .bme none) >>= fun begun : Bool =>
      detect pb begun Part.bme.settings .ok) (fun tr r d' _ => Began [.bme] .ok d tr r d') d e :=
    ensures_bind.mpr (ensures_onBoard fun _ _ _ => ensures_detect rfl rfl)
  refine ensures_bind_bind.mpr (hbme.mono fun tr₁ r₁ d₁ e₁ h₁ => ?_)
  refine ensures_bind_bind.mpr ((ensures_beginOn .ltr r₁).mono fun tr₂ r₂ d₂ e₂ h₂ => ?_)
  refine ensures_bind_bind.mpr ((ensures_beginOn .aqi r₂).mono fun tr₃ r₃ d₃ e₃ h₃ => ?_)
  refine (ensures_beginOn .tsl r₃).mono fun tr₄ r₄ d₄ e₄ h₄ => ?_
  rw [← List.append_assoc, ← List.append_assoc]
  exact ((h₁.append h₂).append h₃).append h₄

theorem began_nil {tr : List (Event (Call F) (Answer F))} (hbegun : tr.filterMap begunOf = [])
    (hsettings : tr.filterMap settingOf = []) : Began [] .ok d tr .ok d :=
  ⟨rfl, by rw [hbegun]; rfl, by rw [hbegun, hsettings]; rfl, by rw [hbegun]; rfl⟩

/-- Constructing a part begins no driver. -/
theorem ensures_constructed (part : Part) (ctor : Ctor) :
    Ensures E (construct pb part ctor) (fun tr _ d' _ => Began [] .ok d tr .ok d') d e := by
  unfold construct
  rw [ensures_bind, ensures_ask]
  intro p e₁ _
  rw [ensures_ask]
  exact fun _ _ _ => began_nil rfl rfl

theorem ensures_initResult {i2c : Ptr} {sda scl : UInt32} :
    Ensures E (init i2c sda scl) (fun tr r d' _ =>
      Began [.bme, .ltr, .aqi, .tsl] .ok d tr r.1 d') d e := by
  unfold init
  rw [ensures_bind, ensures_ask]
  intro pb e₀ _
  refine ensures_bind.mpr ((ensures_constructed .wire _).mono fun tr₁ _ d₁ e₁ h₁ => ?_)
  rw [ensures_bind, ensures_ask]
  intro wire e₂ _
  refine ensures_bind.mpr ((ensures_constructed .bme _).mono fun tr₂ _ d₂ e₃ h₂ => ?_)
  refine ensures_bind.mpr ((ensures_constructed .ltr _).mono fun tr₃ _ d₃ e₄ h₃ => ?_)
  refine ensures_bind.mpr ((ensures_constructed .aqi _).mono fun tr₄ _ d₄ e₅ h₄ => ?_)
  refine ensures_bind.mpr ((ensures_constructed .tsl _).mono fun tr₅ _ d₅ e₆ h₅ => ?_)
  refine ensures_bind.mpr (ensures_beginAll.mono fun tr₆ r d₆ e₇ h₆ => ensures_pure.mpr ?_)
  have hboard : Began [] .ok d [(⟨.new .board, pb⟩ : Event (Call F) (Answer F))] .ok d :=
    began_nil rfl rfl
  have hwire : Began [] .ok d₁ [(⟨.load pb .wire, wire⟩ : Event (Call F) (Answer F))] .ok d₁ :=
    began_nil rfl rfl
  rw [List.append_nil]
  exact hboard.append (h₁.append (hwire.append (h₂.append (h₃.append (h₄.append
    (h₅.append h₆))))))

end Sensors

/-! ## Runs -/

/-- What a step's result and the readings after it say. -/
def Tells {ε : Type} (ops : FloatOps F) (x : Rec (Readings F × ε) (BoardLabel F)) : Prop :=
  match x.label with
  | .tick => x.post.1 = x.pre.1
  | .op (.init ..) tr r => Began [.bme, .ltr, .aqi, .tsl] .ok x.pre.1 tr r.1 x.post.1
  | .op (.read (some _) false) tr r =>
    x.post.1 = render ops (taken ops tr) ∧ x.post.1.snapshot = taken ops tr
      ∧ r = if (taken ops tr).complete then .ok else .sensorReadDegraded
  | .op (.read _ _) tr r => tr = [] ∧ r = .parameterError ∧ x.post.1 = x.pre.1
  | .op (.deinit _) _ _ => x.post.1 = x.pre.1

/-- The calls of the last `read` that was not refused, if any. -/
def lastRead {ε : Type} (xs : List (Rec (Readings F × ε) (BoardLabel F))) :
    Option (List (Event (Call F) (Answer F))) :=
  xs.foldl (fun last x =>
    match x.label with
    | .op (.read (some _) false) tr _ => some tr
    | _ => last) none

section Runs

variable {ε : Type} {E : Env ε (Call F) (Answer F)} {tick : ε → ε → Prop} {ops : FloatOps F}

theorem readOnly_deinit (pb : Option Ptr) : (deinit pb : Api F Unit).ReadOnly := by
  cases pb with
  | none => exact trivial
  | some pb =>
      have hdelete : ∀ part, (deletePart pb part : Api F Unit).ReadOnly := fun _ _ _ => trivial
      exact Prog.readOnly_bind (fun _ _ => trivial) fun _ =>
        Prog.readOnly_bind (hdelete _) fun _ => Prog.readOnly_bind (hdelete _) fun _ =>
        Prog.readOnly_bind (hdelete _) fun _ => Prog.readOnly_bind (hdelete _) fun _ =>
        Prog.readOnly_bind (hdelete _) fun _ _ => trivial

/-- Step lemma: what each of the three functions says in its result and leaves
in the struct. -/
theorem tells_step {x : Rec (Readings F × ε) (BoardLabel F)}
    (h : Session (program ops) E tick x.pre x.label x.post) : Tells ops x := by
  obtain ⟨w, l, w'⟩ := x
  cases h with
  | tick => rfl
  | @op o d e tr r d' e' hx =>
      cases o with
      | init i2c sda scl => exact ensures_initResult _ _ _ _ hx
      | read pb sensorDataNull =>
          cases pb with
          | none =>
              obtain ⟨rfl, rfl, rfl, -⟩ := exec_ret.mp hx
              cases sensorDataNull <;> exact ⟨rfl, rfl, rfl⟩
          | some pb =>
              cases sensorDataNull with
              | true =>
                  obtain ⟨rfl, rfl, rfl, -⟩ := exec_ret.mp hx
                  exact ⟨rfl, rfl, rfl⟩
              | false =>
                  obtain ⟨hd, hr⟩ := ensures_read _ _ _ _ hx
                  exact ⟨hd, hd ▸ snapshot_render ops _, hr⟩
      | deinit pb =>
          exact (readOnly_deinit pb).exec hx

/-- In every run of the three functions, whatever the drivers answer: each
result and each reading is what was delivered in that very call, and the
struct tells of the last `read` that was not refused. The second by induction
on the run, since no other call writes to the struct. -/
theorem readings_tell_last_read {d : Readings F} {e : ε}
    {xs : List (Rec (Readings F × ε) (BoardLabel F))} {w : Readings F × ε}
    (h : Run (Session (program ops) E tick) (d, e) xs w) :
    (∀ x ∈ xs, Tells ops x)
      ∧ w.1 = (lastRead xs).elim d fun tr => render ops (taken ops tr) := by
  refine ⟨fun x hx => tells_step (h.step_of_mem hx), ?_⟩
  induction h with
  | nil => rfl
  | @snoc xs w l w' _ hs ih =>
      have htells : Tells ops ⟨w, l, w'⟩ := tells_step hs
      unfold lastRead at ih ⊢
      rw [List.foldl_append, List.foldl_cons, List.foldl_nil]
      cases l with
      | tick => exact Eq.trans htells ih
      | op o tr r =>
          cases o with
          | init => exact htells.readings.trans ih
          | read pb sensorDataNull =>
              cases pb with
              | none => exact htells.2.2.trans ih
              | some pb =>
                  cases sensorDataNull with
                  | true => exact htells.2.2.trans ih
                  | false => exact htells.1
          | deinit => exact Eq.trans htells ih

end Runs

/-- One board, one of whose drivers neither begins nor delivers. -/
theorem readings_tell_last_read_degraded :
    ∃ (xs : List (BoardRec Nat)) (w : Readings Nat × Heap),
      Run (BoardStep benchOps) (benchReadings, .empty) xs w
        ∧ ((∀ x ∈ xs, Tells benchOps x) ∧ w.1 = (lastRead xs).elim benchReadings fun tr =>
          render benchOps (taken benchOps tr))
        ∧ w.1.bme680Valid = true ∧ w.1.ltr390Uvs = 9 ∧ w.1.tsl2591Valid = false := by
  obtain ⟨xs, w, hrun, hw⟩ := evalsTo_run (fun _ _ => False) benchDrivers_answers
    (show evalsTo (program benchOps) benchDrivers 1
      [.init 5 4 5, .read (some 1) false, .read none false, .deinit (some 1)]
      (benchReadings, .empty) (fun _ w =>
        decide (w.1.bme680Valid = true ∧ w.1.ltr390Uvs = 9 ∧ w.1.tsl2591Valid = false)) = true by
      decide +kernel)
  rw [decide_eq_true_eq] at hw
  exact ⟨xs, w, hrun, readings_tell_last_read hrun, hw⟩

end Purpleboard

end LeosSdk
