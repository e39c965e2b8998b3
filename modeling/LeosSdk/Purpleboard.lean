import LeosSdk.Run

/-!
# Purpleboard: the model

`leos_purpleboard` keeps four Adafruit drivers and the `TwoWire` they share
on the C++ heap. Its three functions are programs over the caller's
`leos_purpleboard_readings_t` whose calls are the heap's (`new`, `delete`,
reads and writes of the board's pointers) and the drivers' methods, each
with the object it is called on. Nothing is known of a driver beyond what
it answers.

`float` stays abstract: a type, the two constants and the one division the
code uses.
-/

namespace LeosSdk

namespace Purpleboard

abbrev Ptr := Nat

/-! ## Objects -/

inductive Cls
  | board
  | twoWire
  | bme680
  | ltr390
  | pm25aqi
  | tsl2591
deriving DecidableEq

/-- The pointers in a `leos_purpleboard` that are read again. -/
inductive Part
  | wire
  | bme
  | ltr
  | aqi
  | tsl
deriving DecidableEq

def Part.cls : Part → Cls
  | .wire => .twoWire
  | .bme => .bme680
  | .ltr => .ltr390
  | .aqi => .pm25aqi
  | .tsl => .tsl2591

theorem Part.cls_injective : Function.Injective Part.cls := by
  intro p q h
  cases p <;> cases q <;> first | rfl | cases h

/-- What `new` constructs. -/
inductive Ctor
  | board
  | twoWire (i2c : Ptr) (sda scl : UInt32)
  | bme680 (wire : Ptr)
  | ltr390
  | pm25aqi
  | tsl2591

def Ctor.cls : Ctor → Cls
  | .board => .board
  | .twoWire .. => .twoWire
  | .bme680 _ => .bme680
  | .ltr390 => .ltr390
  | .pm25aqi => .pm25aqi
  | .tsl2591 => .tsl2591

/-- The bus a new object keeps a pointer to from its construction on; the
others are given theirs when they begin. -/
def Ctor.bus : Ctor → Option Ptr
  | .bme680 wire => some wire
  | _ => none

/-! ## Drivers -/

/-- The settings `leos_purpleboard_init` makes. -/
inductive Setting
  | temperatureOversampling8x
  | humidityOversampling2x
  | pressureOversampling4x
  | iirFilterSize3
  | gasHeater (heaterTemp heaterTime : Nat)
  | modeUvs
  | resolution16Bit
  | gain1
  | gainMed
  | integrationTime300Ms
deriving DecidableEq

def Setting.part : Setting → Part
  | .temperatureOversampling8x | .humidityOversampling2x | .pressureOversampling4x
  | .iirFilterSize3 | .gasHeater .. => .bme
  | .modeUvs | .resolution16Bit | .gain1 => .ltr
  | .gainMed | .integrationTime300Ms => .tsl

inductive LtrMode
  | als
  | uvs
deriving DecidableEq

/-- The fields of `PM25_AQI_Data` that are read. -/
structure AqiData where
  pm10Env : UInt32
  pm25Env : UInt32
  pm100Env : UInt32
  aqiPm25Us : UInt32
  aqiPm100Us : UInt32
  particles03um : UInt32
  particles05um : UInt32
  particles10um : UInt32
  particles25um : UInt32
  particles50um : UInt32
  particles100um : UInt32
deriving DecidableEq

/-- Calls on a driver, and reads of the fields the BME680's keeps its last
values in. `begin` takes the bus, where the constructor did not. -/
inductive Method (F : Type)
  | begin (part : Part) (wire : Option Ptr)
  | set (setting : Setting)
  | performReading
  | temperature
  | pressure
  | humidity
  | readAltitude (seaLevel : F)
  | gasResistance
  | getMode
  | newDataAvailable
  | readUVS
  | enable (en : Bool)
  | aqiRead
  | getEvent
  | getFullLuminosity

variable {F : Type}

def Method.part : Method F → Part
  | .begin part _ => part
  | .set setting => setting.part
  | .performReading | .temperature | .pressure | .humidity | .readAltitude _
  | .gasResistance => .bme
  | .getMode | .newDataAvailable | .readUVS | .enable _ => .ltr
  | .aqiRead => .aqi
  | .getEvent | .getFullLuminosity => .tsl

/-- `aqiRead` and `getEvent` also answer what they filled in. -/
abbrev Method.Ret (F : Type) : Method F → Type
  | .begin .. | .performReading | .newDataAvailable => Bool
  | .set _ | .enable _ => Unit
  | .temperature | .pressure | .humidity | .readAltitude _ => F
  | .gasResistance | .readUVS | .getFullLuminosity => UInt32
  | .getMode => LtrMode
  | .aqiRead => Bool × AqiData
  | .getEvent => Bool × F

inductive Call (F : Type)
  | new (ctor : Ctor)
  | delete (cls : Cls) (p : Ptr)
  | load (pb : Ptr) (part : Part)
  | store (pb : Ptr) (part : Part) (p : Ptr)
  | method (m : Method F) (p : Ptr)

abbrev Answer (F : Type) : Call F → Type
  | .new _ | .load .. => Ptr
  | .delete .. | .store .. => Unit
  | .method m _ => m.Ret F

/-! ## Readings -/

inductive PbResult
  | ok
  | sensorNoDetect
  | sensorReadDegraded
  | parameterError
deriving DecidableEq

structure Readings (F : Type) where
  bme680Valid : Bool
  temperatureC : F
  pressureMb : F
  humidity : F
  altitudeM : F
  gasResistance : UInt32
  tsl2591Valid : Bool
  lux : F
  rawVisible : UInt16
  rawInfrared : UInt16
  rawFullSpectrum : UInt32
  ltr390Valid : Bool
  ltr390Uvs : UInt32
  pmsa003iValid : Bool
  pm10Env : UInt32
  pm25Env : UInt32
  pm100Env : UInt32
  aqiPm25Us : UInt32
  aqiPm100Us : UInt32
  particles03um : UInt32
  particles05um : UInt32
  particles10um : UInt32
  particles25um : UInt32
  particles50um : UInt32
  particles100um : UInt32
deriving DecidableEq

/-- What the code does with a `float`. -/
structure FloatOps (F : Type) where
  zero : F
  /-- `x / 100.0f` -/
  div100 : F → F
  /-- `1013.25f` -/
  kDefaultSeaLevelPressureHpa : F

abbrev Api (F : Type) := Prog (Readings F) (Call F) (Answer F)

/-- `pb->part->m(...)`: the pointer is read anew for each call, so that a call
through a pointer that does not lead to its driver is seen. -/
def onBoard (pb : Ptr) (m : Method F) : Api F (m.Ret F) := do
  let p ← Prog.ask (.load pb m.part)
  Prog.ask (Call.method m p)

/-! ## leos_purpleboard_init -/

/-- `pb->part = new ...` -/
def construct (pb : Ptr) (part : Part) (ctor : Ctor) : Api F Unit := do
  let p ← Prog.ask (.new ctor)
  Prog.ask (Call.store pb part p)

def setAll (pb : Ptr) : List Setting → Api F Unit
  | [] => return ()
  | setting :: settings => do
    let () ← onBoard pb (.set setting)
    setAll pb settings

/-- A driver that begins is set up; one that does not is left as it is and
makes the result `PB_SENSOR_NO_DETECT`, whatever the others do. -/
def detect (pb : Ptr) (begun : Bool) (settings : List Setting) (result : PbResult) :
    Api F PbResult := do
  if !begun then
    return .sensorNoDetect
  else
    setAll pb settings
    return result

/-- `pb->part->begin(pb->wire)` -/
def beginOn (pb : Ptr) (part : Part) : Api F Bool := do
  let p ← Prog.ask (.load pb part)
  let wire ← Prog.ask (.load pb .wire)
  Prog.ask (Call.method (.begin part (some wire)) p)

/-- The four drivers begin, one after the other. -/
def beginAll (pb : Ptr) : Api F PbResult := do
  let bme : Bool ← onBoard pb (.begin .bme none)
  let result ← detect pb bme [.temperatureOversampling8x, .humidityOversampling2x,
    .pressureOversampling4x, .iirFilterSize3, .gasHeater 320 150] .ok
  let ltr ← beginOn pb .ltr
  let result ← detect pb ltr [.modeUvs, .resolution16Bit, .gain1] result
  let aqi ← beginOn pb .aqi
  let result ← detect pb aqi [] result
  let tsl ← beginOn pb .tsl
  detect pb tsl [.gainMed, .integrationTime300Ms] result

/-- `leos_purpleboard_init`: the result and `*out_pb`. -/
def init (i2c : Ptr) (sda scl : UInt32) : Api F (PbResult × Ptr) := do
  let pb ← Prog.ask (.new .board)
  construct pb .wire (.twoWire i2c sda scl)
  let wire ← Prog.ask (.load pb .wire)
  construct pb .bme (.bme680 wire)
  construct pb .ltr .ltr390
  construct pb .aqi .pm25aqi
  construct pb .tsl .tsl2591
  let result ← beginAll pb
  return (result, pb)

/-! ## leos_purpleboard_read -/

def readBme (ops : FloatOps F) (pb : Ptr) (result : PbResult) : Api F PbResult := do
  let ready : Bool ← onBoard pb .performReading
  if !ready then
    Prog.modify ({ · with
      bme680Valid := false, temperatureC := ops.zero, pressureMb := ops.zero,
      humidity := ops.zero, altitudeM := ops.zero, gasResistance := 0 })
    return .sensorReadDegraded
  else
    let temperature : F ← onBoard pb .temperature
    let pressure : F ← onBoard pb .pressure
    let humidity : F ← onBoard pb .humidity
    let altitude : F ← onBoard pb (.readAltitude ops.kDefaultSeaLevelPressureHpa)
    let gasResistance : UInt32 ← onBoard pb .gasResistance
    Prog.modify ({ · with
      bme680Valid := true, temperatureC := temperature, pressureMb := ops.div100 pressure,
      humidity := humidity, altitudeM := altitude, gasResistance := gasResistance })
    return result

/-- `getMode() == LTR390_MODE_UVS && newDataAvailable()` -/
def ltrReady (pb : Ptr) : Api F Bool := do
  let mode : LtrMode ← onBoard pb .getMode
  if mode = .uvs then onBoard pb .newDataAvailable else return false

def readLtr (pb : Ptr) (result : PbResult) : Api F PbResult := do
  let ready ← ltrReady pb
  if !ready then
    Prog.modify ({ · with ltr390Valid := false, ltr390Uvs := 0 })
    return .sensorReadDegraded
  else
    let uvs : UInt32 ← onBoard pb .readUVS
    Prog.modify ({ · with ltr390Valid := true, ltr390Uvs := uvs })
    return result

def readAqi (pb : Ptr) (result : PbResult) : Api F PbResult := do
  let (ready, data) ← onBoard pb .aqiRead
  if !ready then
    Prog.modify ({ · with
      pmsa003iValid := false, pm10Env := 0, pm25Env := 0, pm100Env := 0, aqiPm25Us := 0,
      aqiPm100Us := 0, particles03um := 0, particles05um := 0, particles10um := 0,
      particles25um := 0, particles50um := 0, particles100um := 0 })
    return .sensorReadDegraded
  else
    Prog.modify ({ · with
      pmsa003iValid := true, pm10Env := data.pm10Env, pm25Env := data.pm25Env,
      pm100Env := data.pm100Env, aqiPm25Us := data.aqiPm25Us, aqiPm100Us := data.aqiPm100Us,
      particles03um := data.particles03um, particles05um := data.particles05um,
      particles10um := data.particles10um, particles25um := data.particles25um,
      particles50um := data.particles50um, particles100um := data.particles100um })
    return result

def readTsl (ops : FloatOps F) (pb : Ptr) (result : PbResult) : Api F PbResult := do
  let (ready, light) ← onBoard pb .getEvent
  if !ready then
    Prog.modify ({ · with
      tsl2591Valid := false, lux := ops.zero, rawVisible := 0, rawInfrared := 0,
      rawFullSpectrum := 0 })
    return .sensorReadDegraded
  else
    let fullSpectrum : UInt32 ← onBoard pb .getFullLuminosity
    Prog.modify ({ · with
      tsl2591Valid := true, lux := light, rawFullSpectrum := fullSpectrum,
      rawInfrared := (fullSpectrum >>> 16).toUInt16,
      rawVisible := (fullSpectrum &&& 0xFFFF).toUInt16 })
    return result

/-- `leos_purpleboard_read`; `sensorDataNull` tells whether the readings
pointer is `NULL`. -/
def read (ops : FloatOps F) (pb : Option Ptr) (sensorDataNull : Bool) : Api F PbResult :=
  match pb with
  | none => return .parameterError
  | some pb => do
    if sensorDataNull then return .parameterError
    let result ← readBme ops pb .ok
    let result ← readLtr pb result
    let result ← readAqi pb result
    readTsl ops pb result

/-! ## leos_purpleboard_deinit -/

/-- `delete pb->part`, with the pointer read just before; it is not cleared
after. -/
def deletePart (pb : Ptr) (part : Part) : Api F Unit := do
  let p ← Prog.ask (.load pb part)
  Prog.ask (Call.delete part.cls p)

def deinit (pb : Option Ptr) : Api F Unit :=
  match pb with
  | none => return ()
  | some pb => do
    let () ← onBoard pb (.enable false)
    deletePart pb .bme
    deletePart pb .ltr
    deletePart pb .aqi
    deletePart pb .tsl
    deletePart pb .wire
    Prog.ask (Call.delete .board pb)

/-! ## The three functions -/

inductive Op
  | init (i2c : Ptr) (sda scl : UInt32)
  | read (pb : Option Ptr) (sensorDataNull : Bool)
  | deinit (pb : Option Ptr)

abbrev Op.Ret : Op → Type
  | .init .. => PbResult × Ptr
  | .read .. => PbResult
  | .deinit _ => Unit

def program (ops : FloatOps F) : (o : Op) → Api F o.Ret
  | .init i2c sda scl => init i2c sda scl
  | .read pb sensorDataNull => read ops pb sensorDataNull
  | .deinit pb => deinit pb

end Purpleboard

end LeosSdk
