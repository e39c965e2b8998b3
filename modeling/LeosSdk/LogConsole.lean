import LeosSdk.Delimited

/-!
# The console log

`console_logger` and `platform_time_ms` of `log.c`, with the name ulog has for
each level (`ulog_level_name`) as a parameter. A message is printed with a
prefix: the level in its colour, the time in seconds and milliseconds.

What is printed can be read back (`readLog`): level, time and text of every
message in order, exactly where no message has a line break in it
(`readLog_eq_iff`). The console does not escape, so one that has reads as
something else.

A line is read field by field, each up to the character that ends it; that one
never occurs in what `console_logger` prints there, so the fields come out as
they went in (`readLine_line`), and numbers read back whatever zeros were put
before them. Lines come apart at the line breaks, by the lemmas on delimited
records. Conversely the text of a message that was read is a piece of a line
(`readLine_msg`), and in a line there is no line break.
-/

namespace LeosSdk

namespace Log

/-! ## Printing -/

/-- `ulog_level_t`, with any value that is none of its severities. -/
inductive UlogLevel where
  | trace
  | debug
  | info
  | warning
  | error
  | critical
  | other (value : Int32)
deriving DecidableEq, Repr

def colReset : List Char := ['\x1b', '[', '0', 'm']

def colTrace : List Char := ['\x1b', '[', '3', '5', 'm']

def colDebug : List Char := ['\x1b', '[', '3', '4', 'm']

def colInfo : List Char := ['\x1b', '[', '3', '7', 'm']

def colWarn : List Char := ['\x1b', '[', '3', '3', 'm']

def colError : List Char := ['\x1b', '[', '3', '1', 'm']

def color : UlogLevel → List Char
  | .trace => colTrace
  | .debug => colDebug
  | .info => colInfo
  | .warning => colWarn
  | .error => colError
  | .critical => colError
  | .other _ => colReset

/-- What the platform's clock says: `ts` on Linux, `to_ms_since_boot` on the
Pico. -/
inductive Clock where
  | linux (tvSec tvNsec : Nat)
  | pico (msSinceBoot : UInt32)
deriving DecidableEq, Repr

def platformTimeMs : Clock → UInt32
  | .linux tvSec tvNsec => UInt32.ofNat (tvSec * 1000 + tvNsec / 1000000)
  | .pico msSinceBoot => msSinceBoot

/-- `%lu`. -/
def lu (n : UInt32) : List Char := Nat.toDigits 10 n.toNat

/-- `%03lu`: zeros in front up to three digits. -/
def lu03 (n : UInt32) : List Char := List.replicate (3 - (lu n).length) '0' ++ lu n

/-- A call of `console_logger`, and when it is made. -/
structure Entry where
  severity : UlogLevel
  clock : Clock
  msg : List Char
deriving DecidableEq, Repr

def Entry.ms (e : Entry) : UInt32 := platformTimeMs e.clock

variable (levelName : UlogLevel → List Char)

/-- The line `console_logger` prints, up to its end. -/
def Entry.line (e : Entry) : List Char :=
  color e.severity ++ '[' :: levelName e.severity ++ ']' :: colReset
    ++ ' ' :: lu (e.ms / 1000) ++ '.' :: lu03 (e.ms % 1000) ++ ':' :: ' ' :: e.msg

def consoleLogger (e : Entry) : List Char := e.line levelName ++ ['\n']

/-! ## Reading -/

/-- What a line tells. -/
structure Told where
  level : List Char
  ms : Nat
  msg : List Char
deriving DecidableEq, Repr

def Entry.told (e : Entry) : Told := ⟨levelName e.severity, e.ms.toNat, e.msg⟩

def expect (c : Char) : List Char → Option (List Char)
  | [] => none
  | x :: xs => if x = c then some xs else none

def readNumber (cs : List Char) : Option Nat :=
  if cs ≠ [] ∧ cs.all Char.isDigit = true then some (Nat.ofDigitChars 10 cs 0) else none

def readLine (line : List Char) : Option Told := do
  let (_, rest) ← cut 'm' line
  let rest ← expect '[' rest
  let (level, rest) ← cut ']' rest
  let (_, rest) ← cut 'm' rest
  let rest ← expect ' ' rest
  let (sec, rest) ← cut '.' rest
  let (msec, rest) ← cut ':' rest
  let msg ← expect ' ' rest
  let sec ← readNumber sec
  let msec ← readNumber msec
  return ⟨level, sec * 1000 + msec, msg⟩

def readLog (text : List Char) : Option (List Told) := do
  (← records '\n' text).mapM readLine

/-! ## Numbers -/

theorem readNumber_digits {cs : List Char} (hne : cs ≠ []) (h : ∀ c ∈ cs, c.isDigit = true) :
    readNumber cs = some (Nat.ofDigitChars 10 cs 0) := if_pos ⟨hne, List.all_eq_true.mpr h⟩

theorem isDigit_lu (n : UInt32) : ∀ c ∈ lu n, c.isDigit = true :=
  fun _ hc => Nat.isDigit_of_mem_toDigits (by decide) (by decide) hc

theorem isDigit_lu03 (n : UInt32) : ∀ c ∈ lu03 n, c.isDigit = true := by
  intro c hc
  rcases List.mem_append.mp hc with hc | hc
  · rw [List.eq_of_mem_replicate hc]
    decide
  · exact isDigit_lu n c hc

theorem readNumber_lu (n : UInt32) : readNumber (lu n) = some n.toNat := by
  have hne : lu n ≠ [] := Nat.toDigits_ne_nil
  rw [readNumber_digits hne (isDigit_lu n), lu, Nat.ofDigitChars_ten_toDigits]

theorem readNumber_lu03 (n : UInt32) : readNumber (lu03 n) = some n.toNat := by
  have hne : lu03 n ≠ [] := by
    rw [lu03]
    exact List.append_ne_nil_of_right_ne_nil _ Nat.toDigits_ne_nil
  rw [readNumber_digits hne (isDigit_lu03 n), lu03, Nat.ofDigitChars_append,
    Nat.ofDigitChars_replicate_zero, Nat.mul_zero, lu, Nat.ofDigitChars_ten_toDigits]

theorem seconds_millis (ms : UInt32) : (ms / 1000).toNat * 1000 + (ms % 1000).toNat = ms.toNat := by
  have hdiv : (ms / 1000).toNat = ms.toNat / 1000 := by simp
  have hmod : (ms % 1000).toNat = ms.toNat % 1000 := by simp
  rw [hdiv, hmod]
  omega

theorem not_mem_digits {cs : List Char} {c : Char} (h : ∀ c ∈ cs, c.isDigit = true)
    (hc : c.isDigit = false) : c ∉ cs := by
  intro hmem
  rw [h c hmem] at hc
  cases hc

/-! ## A line -/

theorem cut_color (s : UlogLevel) (rest : List Char) :
    ∃ code, cut 'm' (color s ++ rest) = some (code, rest) := by
  have hcut (code rest : List Char) (h : 'm' ∉ code) :
      cut 'm' (code ++ 'm' :: rest) = some (code, rest) := cut_append h rest
  cases s with
  | trace => exact ⟨_, hcut ['\x1b', '[', '3', '5'] rest (by decide)⟩
  | debug => exact ⟨_, hcut ['\x1b', '[', '3', '4'] rest (by decide)⟩
  | info => exact ⟨_, hcut ['\x1b', '[', '3', '7'] rest (by decide)⟩
  | warning => exact ⟨_, hcut ['\x1b', '[', '3', '3'] rest (by decide)⟩
  | error | critical => exact ⟨_, hcut ['\x1b', '[', '3', '1'] rest (by decide)⟩
  | other => exact ⟨_, hcut ['\x1b', '[', '0'] rest (by decide)⟩

variable {levelName} {e : Entry}

/-- A line reads back as its message, with any text in it: no delimiter occurs
in the field before it, and the text is the rest of the line. -/
theorem readLine_line (hname : ']' ∉ levelName e.severity) :
    readLine (e.line levelName) = some (e.told levelName) := by
  have hsec : '.' ∉ lu (e.ms / 1000) := not_mem_digits (isDigit_lu _) (by decide)
  have hmsec : ':' ∉ lu03 (e.ms % 1000) := not_mem_digits (isDigit_lu03 _) (by decide)
  have hreset : 'm' ∉ ['\x1b', '[', '0'] := by decide
  have hcolReset (rest : List Char) :
      cut 'm' (colReset ++ rest) = some (['\x1b', '[', '0'], rest) := cut_append hreset rest
  rw [Entry.line]
  simp only [List.append_assoc, List.cons_append]
  obtain ⟨code, hcode⟩ := cut_color e.severity ('[' :: (levelName e.severity ++ ']' :: (colReset
    ++ ' ' :: (lu (e.ms / 1000) ++ '.' :: (lu03 (e.ms % 1000) ++ ':' :: ' ' :: e.msg)))))
  simp only [readLine, hcode, Option.bind_eq_bind, Option.bind_some, expect, if_true,
    cut_append hname, hcolReset, cut_append hsec, cut_append hmsec, readNumber_lu, readNumber_lu03,
    Entry.told, seconds_millis, Option.pure_def]

theorem newline_not_mem_line (hname : '\n' ∉ levelName e.severity) (hmsg : '\n' ∉ e.msg) :
    '\n' ∉ e.line levelName := by
  have hcolor (s : UlogLevel) : '\n' ∉ color s := by
    cases s with
    | other => exact (by decide : '\n' ∉ colReset)
    | _ => decide
  have hsec : '\n' ∉ lu (e.ms / 1000) := not_mem_digits (isDigit_lu _) (by decide)
  have hmsec : '\n' ∉ lu03 (e.ms % 1000) := not_mem_digits (isDigit_lu03 _) (by decide)
  have hreset : '\n' ∉ colReset := by decide
  simp [Entry.line, hcolor e.severity, hname, hreset, hsec, hmsec, hmsg]

theorem expect_suffix {c : Char} {cs rest : List Char} (h : expect c cs = some rest) :
    rest <:+ cs := by
  cases cs with
  | nil => cases h
  | cons x xs =>
      rw [expect] at h
      split at h
      · obtain rfl := Option.some.inj h
        exact List.suffix_cons ..
      · cases h

/-- Whatever line is read, the text of the message is an end of it. -/
theorem readLine_msg {line : List Char} {t : Told} (h : readLine line = some t) :
    t.msg <:+ line := by
  simp only [readLine, Option.bind_eq_bind, Option.bind_eq_some_iff, Option.pure_def] at h
  obtain ⟨⟨_, r₁⟩, h₁, r₂, h₂, ⟨_, r₃⟩, h₃, ⟨_, r₄⟩, h₄, r₅, h₅, ⟨_, r₆⟩, h₆, ⟨_, r₇⟩, h₇,
    msg, hmsg, _, _, _, _, ht⟩ := h
  obtain rfl := Option.some.inj ht
  exact (expect_suffix hmsg).trans <| (cut_suffix h₇).trans <| (cut_suffix h₆).trans <|
    (expect_suffix h₅).trans <| (cut_suffix h₄).trans <| (cut_suffix h₃).trans <|
    (expect_suffix h₂).trans (cut_suffix h₁)

/-! ## A log -/

/-- A message that is read has no line break in it, whatever the text: it is
an end of a line. -/
theorem readLog_msg {text : List Char} {ts : List Told} (h : readLog text = some ts) :
    ∀ t ∈ ts, '\n' ∉ t.msg := by
  obtain ⟨lines, hlines, hread⟩ := Option.bind_eq_some_iff.mp h
  intro t ht hmem
  obtain ⟨line, hline, hreads⟩ := exists_of_mem_mapM hread ht
  exact not_mem_records hlines line hline ((readLine_msg hreads).mem hmem)

/-- A log reads back as the messages that were printed, in order, exactly if
none of them has a line break in it; the names of the levels have none, and no
`]`. -/
theorem readLog_eq_iff {es : List Entry} (hclose : ∀ s, ']' ∉ levelName s)
    (hbreak : ∀ s, '\n' ∉ levelName s) :
    readLog (es.flatMap (consoleLogger levelName)) = some (es.map (Entry.told levelName))
      ↔ ∀ e ∈ es, '\n' ∉ e.msg := by
  constructor
  · intro h e he
    exact readLog_msg h (e.told levelName) (List.mem_map_of_mem he)
  · intro h
    have hlines : ∀ line ∈ es.map (Entry.line levelName), '\n' ∉ line := by
      intro line hline
      obtain ⟨e, he, rfl⟩ := List.mem_map.mp hline
      exact newline_not_mem_line (hbreak _) (h e he)
    have hrecords := records_lines hlines
    rw [List.flatMap_map] at hrecords
    have hread : (es.map (Entry.line levelName)).mapM readLine
        = some (es.map (Entry.told levelName)) :=
      mapM_map fun e _ => readLine_line (hclose e.severity)
    rw [readLog, show es.flatMap (consoleLogger levelName)
      = es.flatMap fun e => e.line levelName ++ ['\n'] from rfl, hrecords]
    exact hread

/-- The names ulog has. -/
def ulogLevelName : UlogLevel → List Char
  | .trace => "TRACE".toList
  | .debug => "DEBUG".toList
  | .info => "INFO".toList
  | .warning => "WARN".toList
  | .error => "ERROR".toList
  | .critical => "FATAL".toList
  | .other _ => "?".toList

def benchEntries : List Entry :=
  [⟨.info, .pico 1237, "up".toList⟩, ⟨.other 9, .linux 4294968 5000000, "] x: ".toList⟩]

/-- Two messages, one of them on Linux with a level of no name and text that
looks like a prefix. -/
theorem readLog_eq_iff_bench : (∀ e ∈ benchEntries, '\n' ∉ e.msg)
    ∧ readLog (benchEntries.flatMap (consoleLogger ulogLevelName))
      = some [⟨"INFO".toList, 1237, "up".toList⟩, ⟨"?".toList, 709, "] x: ".toList⟩] := by
  have hclose (s : UlogLevel) : ']' ∉ ulogLevelName s := by
    cases s with
    | other => exact (by decide : ']' ∉ "?".toList)
    | _ => decide
  have hbreak (s : UlogLevel) : '\n' ∉ ulogLevelName s := by
    cases s with
    | other => exact (by decide : '\n' ∉ "?".toList)
    | _ => decide
  have hmsg : ∀ e ∈ benchEntries, '\n' ∉ e.msg := by decide
  exact ⟨hmsg, (readLog_eq_iff hclose hbreak).mpr hmsg⟩

end Log

end LeosSdk
