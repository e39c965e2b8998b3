import LeosSdk.CanInit

/-!
# MCP251XFD: what a configuration makes of the controller

`leos_mcp251xfd_init` copies a configuration by hand into the library's
`MCP251XFD_Config` and four more calls. A successful run makes exactly the
calls of `configCalls`, and the first call that fails decides the result
(`ensures_init`). Of the thirteen fields twelve arrive where they belong:
`Bandwidth`, the pause between two transmissions, is given the data bitrate,
and the field `bandwidth` is never read.

What a field means to the controller is one parameter of one call
(`parameter`). A configuration has arrived if the parameter of each field's
meaning occurs once and is the field's value (`AsConfigured`); a change has
arrived if the parameter of that field changes and no other does. Both are
read off the calls of any successful run, and by `parameters_configCalls`
these parameters are known, so the two conditions are equations about one
field. That successful runs exist at all, which the directions from the
property to the condition need, is `exists_inits`. How a bitrate is converted
to the library's enumeration is a parameter, since the header that declares it
is not in this repository.
-/

namespace LeosSdk

namespace Mcp251xfd

/-! ## What the controller is given -/

abbrev InitEvent := Event InitCall InitAnswer

/-- The result of a call into the controller library. -/
def InitEvent.result : InitEvent → Option ErrorResult
  | ⟨.initMcp251xfd _, r⟩ => some r
  | ⟨.configureTimeStamp .., r⟩ => some r
  | ⟨.configureFifoList .., r⟩ => some r
  | ⟨.configureFilterList .., r⟩ => some r
  | ⟨.requestOperationMode .., r⟩ => some r
  | _ => none

def results (tr : List InitEvent) : List ErrorResult := tr.filterMap InitEvent.result

/-- The calls into the controller library. -/
def controllerCalls (tr : List InitEvent) : List InitCall :=
  (tr.filter (InitEvent.result · |>.isSome)).map Event.call

/-- The calls of a successful run, with the parameters `mc`. -/
def configCalls (config : Config) (mc : McpConfig) : List InitCall :=
  [.initMcp251xfd mc,
    .configureTimeStamp true .can20SofCanfdSof 40 false,
    .configureFifoList config.fifo config.numFifos,
    .configureFilterList .disable config.filter config.numFilters,
    .requestOperationMode config.initialMode true]

/-- The fields of `leos_mcp251xfd_config_t`. -/
inductive Field
  | xtalHz | oscHz | sysclkConfig | nominalBitrate | dataBitrate | bandwidth | ctrlFlags
  | irqFlags | fifo | numFifos | filter | numFilters | initialMode
  deriving DecidableEq

def Config.value (config : Config) : Field → Nat
  | .xtalHz => config.xtalHz.toNat
  | .oscHz => config.oscHz.toNat
  | .sysclkConfig => config.sysclkConfig
  | .nominalBitrate => config.nominalBitrate.toNat
  | .dataBitrate => config.dataBitrate.toNat
  | .bandwidth => config.bandwidth
  | .ctrlFlags => config.ctrlFlags
  | .irqFlags => config.irqFlags
  | .fifo => config.fifo
  | .numFifos => config.numFifos
  | .filter => config.filter
  | .numFilters => config.numFilters
  | .initialMode => config.initialMode

/-- The parameter of a field's meaning in a call, if the call has one;
`toBandwidth` is the conversion to `eMCP251XFD_Bandwidth`. -/
def parameter (toBandwidth : UInt32 → Nat) : Field → InitCall → Option Nat
  | .xtalHz, .initMcp251xfd mc => some mc.xtalFreq.toNat
  | .oscHz, .initMcp251xfd mc => some mc.oscFreq.toNat
  | .sysclkConfig, .initMcp251xfd mc => some mc.sysclkConfig
  | .nominalBitrate, .initMcp251xfd mc => some mc.nominalBitrate.toNat
  | .dataBitrate, .initMcp251xfd mc => some mc.dataBitrate.toNat
  | .bandwidth, .initMcp251xfd mc => some (toBandwidth mc.bandwidth)
  | .ctrlFlags, .initMcp251xfd mc => some mc.controlFlags
  | .irqFlags, .initMcp251xfd mc => some mc.sysInterruptFlags
  | .fifo, .configureFifoList fifo _ => some fifo
  | .numFifos, .configureFifoList _ numFifos => some numFifos
  | .filter, .configureFilterList _ filter _ => some filter
  | .numFilters, .configureFilterList _ _ numFilters => some numFilters
  | .initialMode, .requestOperationMode mode _ => some mode
  | _, _ => none

/-- All parameters of a field's meaning, in order. -/
def parameters (toBandwidth : UInt32 → Nat) (calls : List InitCall) (f : Field) : List Nat :=
  calls.filterMap (parameter toBandwidth f)

theorem parameters_configCalls (toBandwidth : UInt32 → Nat) (config : Config) (f : Field) :
    parameters toBandwidth (configCalls config (mcpConfig config)) f =
      [if f = .bandwidth then toBandwidth config.dataBitrate else config.value f] := by
  cases f <;> rfl

/-! ## The runs -/

section Runs

variable {ε : Type} {E : Env ε InitCall InitAnswer} {X : Errors} {config : Config}
  {s : Device} {e : ε}

/-- The first failure is returned, and a success has made all calls. Whatever
comes before the controller is spoken to is not part of it. -/
structure Configured (config : Config) (tr : List InitEvent) (rc : ErrorResult) : Prop where
  first : ∀ r, (results tr).find? (· ≠ errOk) = some r → rc = r
  calls : rc = errOk → controllerCalls tr = configCalls config (mcpConfig config)

/-- A call that fails after calls that did not. -/
theorem configured_failed {tr : List InitEvent} {rc : ErrorResult}
    (hfirst : (results tr).find? (· ≠ errOk) = some rc) (hrc : rc ≠ errOk) :
    Configured config tr rc :=
  ⟨fun _ hr => Option.some.inj (hfirst.symm.trans hr), fun hok => absurd hok hrc⟩

/-- Through all five exits: the results before the one that is returned were
all OK. -/
theorem ensures_configure : Ensures E (configure X config)
    (fun tr rc _ _ => Configured config tr rc) s e := by
  simp only [configure, ensures_bind, ensures_ask]
  intro _ e₁ _ result e₂ _
  by_cases hresult : result = errOk
  · subst hresult
    simp only [X.frequencyError_ne.symm, ne_eq, not_true_eq_false, if_false, ensures_bind,
      ensures_ask]
    intro timestampResult e₃ _
    by_cases htimestamp : timestampResult = errOk
    · subst htimestamp
      simp only [not_true_eq_false, if_false, ensures_bind, ensures_ask]
      intro fifoResult e₄ _
      by_cases hfifo : fifoResult = errOk
      · subst hfifo
        simp only [not_true_eq_false, if_false, ensures_bind, ensures_ask]
        intro filterResult e₅ _
        by_cases hfilter : filterResult = errOk
        · subst hfilter
          simp only [not_true_eq_false, if_false, ensures_ask]
          intro rc e₆ _
          refine ⟨fun r hr => ?_, fun _ => rfl⟩
          by_cases hrc : rc = errOk
          · simp [results, InitEvent.result, hrc] at hr
          · simpa [results, InitEvent.result, hrc] using hr
        · rw [if_pos hfilter, ensures_pure]
          exact configured_failed (by simp [results, InitEvent.result, hfilter]) hfilter
      · rw [if_pos hfifo, ensures_pure]
        exact configured_failed (by simp [results, InitEvent.result, hfifo]) hfifo
    · rw [if_pos htimestamp, ensures_pure]
      exact configured_failed (by simp [results, InitEvent.result, htimestamp]) htimestamp
  · have hfailed : Configured config
        ([⟨.sleepMs 3, ()⟩] ++ ([⟨.initMcp251xfd (mcpConfig config), result⟩] ++ [])) result :=
      configured_failed (by simp [results, InitEvent.result, hresult]) hresult
    by_cases hfreq : result = X.frequencyError
    · rw [if_pos hfreq, ensures_pure, ← hfreq]
      exact hfailed
    · rw [if_neg hfreq, if_pos hresult, ensures_pure]
      exact hfailed

/-- What comes before the controller is spoken to. -/
theorem Configured.prepend {tr tr' : List InitEvent} {rc : ErrorResult}
    (h : Configured config tr' rc) (htr : ∀ ev ∈ tr, ev.result = none) :
    Configured config (tr ++ tr') rc where
  first r hr := by
    have hnil : results tr = [] := List.filterMap_eq_nil_iff.mpr htr
    refine h.first r ?_
    rwa [results, List.filterMap_append, ← results, ← results, hnil, List.nil_append] at hr
  calls hok := by
    have hnil : tr.filter (InitEvent.result · |>.isSome) = [] :=
      List.filter_eq_nil_iff.mpr fun ev hev => by simp [htr ev hev]
    rw [controllerCalls, List.filter_append, hnil, List.nil_append]
    exact h.calls hok

theorem ensures_setupIrq {hw : Hw} {attachInterrupt : Bool} :
    Ensures E (setupIrq hw attachInterrupt)
      (fun tr _ _ _ => ∀ ev ∈ tr, InitEvent.result ev = none) s e := by
  cases attachInterrupt <;>
    simp [setupIrq, attachGpioInterrupt, InitEvent.result]

/-- A run that ends before the controller is spoken to. -/
theorem configured_early {tr : List InitEvent} {rc : ErrorResult} (hrc : rc ≠ errOk)
    (htr : ∀ ev ∈ tr, ev.result = none) : Configured config tr rc := by
  have hnone : Configured config ([] : List InitEvent) rc :=
    ⟨fun r hr => absurd hr (by simp [results]), fun hok => absurd hok hrc⟩
  have := hnone.prepend htr
  rwa [List.append_nil] at this

/-- The same of the whole of `init`: what comes before talks to other parts,
or ends the run with an error of its own. -/
theorem ensures_init {hw : Hw} {attachInterrupt : Bool} :
    Ensures E (init X hw config attachInterrupt)
      (fun tr rc _ _ => Configured config tr rc) s e := by
  simp only [init, ensures_bind, ensures_modify, ensures_ask, List.nil_append]
  intro ctx e₁ _
  cases ctx with
  | none =>
      rw [ensures_pure]
      exact configured_early X.outOfMemory_ne (by simp [InitEvent.result])
  | some ctx =>
      simp only [ensures_bind, ensures_modify, ensures_ask, List.nil_append]
      intro _ e₂ _
      refine ensures_setupIrq.mono fun tr _ s' e' htr => ?_
      suffices h : Ensures E _ (fun tr' rc _ _ => Configured config tr' rc) s' e' from
        h.mono fun tr' rc _ _ h => ((h.prepend htr).prepend (by simp [InitEvent.result])).prepend
          (by simp [InitEvent.result])
      rw [ensures_ite]
      refine ⟨fun _ => ?_, fun _ => ?_⟩
      · rw [ensures_pure]
        exact configured_early X.outOfRange_ne (by simp)
      · simp only [ensures_bind, ensures_ask, ensures_modify, List.nil_append]
        intro _ e₃ _
        exact ensures_configure.mono fun tr' rc _ _ h => h.prepend (by simp [InitEvent.result])

end Runs

/-! ## Configurations -/

/-- A controller that may answer anything. -/
def anyController : Env Unit InitCall InitAnswer := fun _ _ _ _ => True

/-- A run of `leos_mcp251xfd_init` with this configuration, on any hardware,
may return `rc` after `tr`. -/
def Inits (X : Errors) (config : Config) (tr : List InitEvent) (rc : ErrorResult) : Prop :=
  ∃ hw attachInterrupt s s',
    Exec anyController (init X hw config attachInterrupt) s () tr rc s' ()

section Configs

variable {X : Errors} {toBandwidth : UInt32 → Nat} {config config' : Config}
  {tr : List InitEvent} {rc : ErrorResult}

theorem Inits.configured (h : Inits X config tr rc) : Configured config tr rc := by
  obtain ⟨hw, attachInterrupt, s, s', hx⟩ := h
  exact ensures_init _ _ _ _ hx

/-- `p` may end with the result `a`. -/
def Ends {α : Type} (p : Init α) (s : Device) (a : α) : Prop :=
  ∃ tr s', Exec anyController p s () tr a s' ()

theorem ends_ask {α : Type} {i : InitCall} {k : InitAnswer i → Init α} {s : Device} {a : α}
    (r : InitAnswer i) (h : Ends (k r) s a) : Ends (initCall i >>= k) s a := by
  obtain ⟨tr, s', hx⟩ := h
  exact ⟨_, s', hx.ask_bind trivial⟩

theorem ends_modify {α : Type} {f : Device → Device} {k : Unit → Init α} {s : Device} {a : α}
    (h : Ends (k ()) (f s) a) : Ends (Prog.modify f >>= k) s a := by
  obtain ⟨tr, s', hx⟩ := h
  exact ⟨tr, s', hx.modify_bind⟩

theorem ends_bind {α β : Type} {p : Init β} {k : β → Init α} {s : Device} {a : α} {b : β}
    (hp : Ends p s b) (hk : ∀ s, Ends (k b) s a) : Ends (p >>= k) s a := by
  obtain ⟨tr, s₁, hx⟩ := hp
  obtain ⟨tr', s', hx'⟩ := hk s₁
  exact ⟨_, s', exec_bind.mpr ⟨tr, b, s₁, (), tr', hx, hx', rfl⟩⟩

theorem ends_setupIrq (hw : Hw) (s : Device) : Ends (setupIrq hw false) s () :=
  ends_ask () (ends_ask () (ends_ask () (ends_ask () ⟨_, s, .call trivial .ret⟩)))

theorem ends_configure (X : Errors) (config : Config) (s : Device) :
    Ends (configure X config) s errOk := by
  refine ends_ask () (ends_ask errOk ?_)
  rw [if_neg X.frequencyError_ne.symm, if_neg (fun h => h rfl)]
  refine ends_ask errOk ?_
  rw [if_neg (fun h => h rfl)]
  refine ends_ask errOk ?_
  rw [if_neg (fun h => h rfl)]
  refine ends_ask errOk ?_
  rw [if_neg (fun h => h rfl)]
  exact ⟨_, s, .call (r := errOk) trivial .ret⟩

/-- Where nothing fails the run succeeds. -/
theorem exists_inits (X : Errors) (config : Config) : ∃ tr, Inits X config tr errOk := by
  suffices h : Ends (init X (benchHw 0) config false) .zero errOk by
    obtain ⟨tr, s', hx⟩ := h
    exact ⟨tr, _, _, _, s', hx⟩
  refine ends_modify (ends_ask (some 0) (ends_ask () (ends_modify ?_)))
  refine ends_bind (ends_setupIrq (benchHw 0) _) fun s => ?_
  rw [if_neg (by decide)]
  exact ends_ask () (ends_modify (ends_configure X config _))

/-! What the code promises. -/

/-- The configured lists and mode are given in order after the parameters,
and every field is where it belongs and nowhere else. -/
structure AsConfigured (toBandwidth : UInt32 → Nat) (config : Config) (calls : List InitCall) :
    Prop where
  order : ∃ mc, calls = configCalls config mc
  fields : ∀ f, parameters toBandwidth calls f = [config.value f]

def InitFaithful (X : Errors) (toBandwidth : UInt32 → Nat) (config : Config) : Prop :=
  ∀ tr, Inits X config tr errOk → AsConfigured toBandwidth config (controllerCalls tr)

def FirstErrorReturned (X : Errors) (config : Config) : Prop :=
  ∀ tr rc r, Inits X config tr rc → (results tr).find? (· ≠ errOk) = some r → rc = r

/-- The configurations differ in the field `f` and in no other. -/
def DifferIn (f : Field) (config config' : Config) : Prop :=
  ∀ g, config.value g ≠ config'.value g ↔ g = f

/-- What the controller is given differs in the parameter of `f` and in no
other. -/
def ChangesOnly (X : Errors) (toBandwidth : UInt32 → Nat) (f : Field)
    (config config' : Config) : Prop :=
  ∀ tr tr', Inits X config tr errOk → Inits X config' tr' errOk → ∀ g,
    parameters toBandwidth (controllerCalls tr) g ≠
      parameters toBandwidth (controllerCalls tr') g ↔ g = f

theorem Inits.parameters (h : Inits X config tr errOk) (f : Field) :
    parameters toBandwidth (controllerCalls tr) f =
      [if f = .bandwidth then toBandwidth config.dataBitrate else config.value f] := by
  rw [h.configured.calls rfl, parameters_configCalls]

/-- The configuration arrives just if the one parameter that is not given its
own field has that field's value all the same. -/
theorem initFaithful_iff :
    InitFaithful X toBandwidth config ↔ toBandwidth config.dataBitrate = config.bandwidth := by
  constructor
  · intro h
    obtain ⟨tr, htr⟩ := exists_inits X config
    have hfield := (h tr htr).fields .bandwidth
    rw [htr.parameters, if_pos rfl] at hfield
    exact (List.cons.inj hfield).1
  · intro heq tr htr
    refine ⟨⟨_, htr.configured.calls rfl⟩, fun f => ?_⟩
    rw [htr.parameters]
    split
    · rename_i hf
      subst hf
      rw [heq]
      rfl
    · rfl

/-- A changed field shows in its own parameter and in no other, unless it is
the data bitrate, which also shows in the bandwidth's, or the bandwidth, which
shows nowhere. -/
theorem changesOnly_iff {f : Field} (hf : DifferIn f config config') :
    ChangesOnly X toBandwidth f config config' ↔ f ≠ .bandwidth
      ∧ (f = .dataBitrate →
        toBandwidth config.dataBitrate = toBandwidth config'.dataBitrate) := by
  -- where the bitrate is the same the bandwidth parameter is
  have hrate (h : f ≠ .dataBitrate) : config.dataBitrate = config'.dataBitrate := by
    by_contra hne
    exact h ((hf .dataBitrate).mp fun heq => hne (UInt32.toNat_inj.mp heq)).symm
  constructor
  · intro h
    obtain ⟨tr, htr⟩ := exists_inits X config
    obtain ⟨tr', htr'⟩ := exists_inits X config'
    have hbandwidth := h tr tr' htr htr' .bandwidth
    rw [htr.parameters, htr'.parameters, if_pos rfl, if_pos rfl] at hbandwidth
    have hsame : f ≠ .bandwidth := by
      rintro rfl
      exact hbandwidth.mpr rfl (by rw [hrate (by decide)])
    refine ⟨hsame, fun _ => ?_⟩
    by_contra hne
    exact hsame (hbandwidth.mp fun heq => hne (List.cons.inj heq).1).symm
  · rintro ⟨hne, hdata⟩ tr tr' htr htr' g
    rw [htr.parameters, htr'.parameters]
    by_cases hg : g = .bandwidth
    · subst hg
      rw [if_pos rfl, if_pos rfl]
      refine ⟨fun h => absurd ?_ h, fun h => absurd h.symm hne⟩
      by_cases hd : f = .dataBitrate
      · rw [hdata hd]
      · rw [hrate hd]
    · rw [if_neg hg, if_neg hg, ← hf g]
      simp

end Configs

/-- The configuration arrives exactly if the data bitrate, taken as a
bandwidth, is the bandwidth asked for. A change of one field shows in its own
parameter alone exactly if the field is not `bandwidth` and, for the data
bitrate, both values are the same bandwidth. The first error is always
returned. -/
theorem init_applies_config_iff (X : Errors) (toBandwidth : UInt32 → Nat) (config : Config) :
    (InitFaithful X toBandwidth config ↔ toBandwidth config.dataBitrate = config.bandwidth)
      ∧ (∀ config' f, DifferIn f config config' →
        (ChangesOnly X toBandwidth f config config' ↔ f ≠ .bandwidth
          ∧ (f = .dataBitrate →
            toBandwidth config.dataBitrate = toBandwidth config'.dataBitrate)))
      ∧ FirstErrorReturned X config :=
  ⟨initFaithful_iff, fun _ _ hf => changesOnly_iff hf, fun _ _ r h hr => h.configured.first r hr⟩

/-- The enumeration in one byte. -/
def shortBandwidth (rate : UInt32) : Nat := rate.toNat % 256

/-- Without a data bitrate and a pause. -/
theorem init_applies_config_iff_classic :
    InitFaithful benchErrors shortBandwidth { benchConfig 1 with dataBitrate := 0 }
      ∧ ChangesOnly benchErrors shortBandwidth .nominalBitrate
        { benchConfig 1 with dataBitrate := 0 }
        { benchConfig 1 with dataBitrate := 0, nominalBitrate := 250000 } := by
  have h := init_applies_config_iff benchErrors shortBandwidth
    { benchConfig 1 with dataBitrate := 0 }
  have hdiffer : DifferIn .nominalBitrate { benchConfig 1 with dataBitrate := 0 }
      { benchConfig 1 with dataBitrate := 0, nominalBitrate := 250000 } := by
    intro g
    cases g <;> decide
  exact ⟨h.1.mpr rfl, (h.2.1 _ _ hdiffer).mpr ⟨by decide, fun hd => absurd hd (by decide)⟩⟩

/-- At 2 Mbit/s and without a pause, `Bandwidth` is given 2000000, which no
byte makes a 0 either; and another pause changes nothing. -/
theorem bandwidth_given_data_bitrate :
    ¬InitFaithful benchErrors UInt32.toNat (benchConfig 1)
      ∧ ¬InitFaithful benchErrors shortBandwidth (benchConfig 1)
      ∧ ¬ChangesOnly benchErrors UInt32.toNat .bandwidth (benchConfig 1)
        { benchConfig 1 with bandwidth := 1 } := by
  have hdiffer : DifferIn .bandwidth (benchConfig 1) { benchConfig 1 with bandwidth := 1 } := by
    intro g
    cases g <;> decide
  refine ⟨fun h => ?_, fun h => ?_, fun h => ?_⟩
  · exact absurd (initFaithful_iff.mp h) (by decide)
  · exact absurd (initFaithful_iff.mp h) (by decide)
  · exact ((changesOnly_iff hdiffer).mp h).1 rfl

end Mcp251xfd

end LeosSdk
