import ChatRelay.BinaryRounding
import ChatRelay.CivilCalendar
import ChatRelay.DecimalFields

namespace ChatRelay

/-!
# The texts of time points

What `chrono_io` writes for a time point of the system clock and what it reads
back.  No stream of the server has a `timepunct` facet, so the format is the
default one and the time zone is UTC.

A time point counts nanoseconds.  Its seconds go through a `double`, which is
written with six decimals and read back as a `double`.
-/

namespace ChronoIo

open BinaryFormat (binary64)

/-- The nanoseconds in a second. -/
def perSecond : Int :=
  1000000000

/-- `::tm` -/
structure Tm where
  tm_sec : Int
  tm_min : Int
  tm_hour : Int
  tm_mday : Int
  tm_mon : Int
  tm_year : Int
  deriving Repr, DecidableEq

/-- `::gmtime_r` -/
def gmtime_r (time : Int) : Tm :=
  let date := CivilDate.ofDays (time / 86400)
  let secondOfDay := time % 86400
  { tm_sec := secondOfDay % 60
    tm_min := secondOfDay / 60 % 60
    tm_hour := secondOfDay / 3600
    tm_mday := date.day
    tm_mon := date.month - 1
    tm_year := date.year - 1900 }

/-- `::timegm`, for a month of the year. -/
def timegm (tm : Tm) : Int :=
  CivilDate.toDays ⟨tm.tm_year + 1900, tm.tm_mon + 1, tm.tm_mday⟩ * 86400 +
    tm.tm_hour * 3600 + tm.tm_min * 60 + tm.tm_sec

/-- `system_clock::to_time_t`: the conversion to seconds truncates. -/
def to_time_t (time : Int) : Int :=
  time.tdiv perSecond

/-- `system_clock::from_time_t` -/
def from_time_t (time : Int) : Int :=
  time * perSecond

/-! ### Writing -/

/-- `duration<double>` of a number of nanoseconds. -/
def toSeconds (nanoseconds : Int) : ℚ :=
  binary64.round (binary64.round nanoseconds / 1000000000)

/-- The characters that `time_put` writes for a conversion. -/
def conversion (tm : Tm) : UInt8 → Bytes
  | 0x46 =>
      padded 4 (tm.tm_year + 1900).toNat ++
        0x2D :: (padded 2 (tm.tm_mon + 1).toNat ++
          0x2D :: padded 2 tm.tm_mday.toNat)
  | 0x48 =>
      padded 2 tm.tm_hour.toNat
  | 0x4D =>
      padded 2 tm.tm_min.toNat
  | _ =>
      []

/-- `time_put::put` with a pattern. -/
def time_put (tm : Tm) : Bytes → Bytes
  | 0x25 :: specifier :: pattern =>
      conversion tm specifier ++ time_put tm pattern
  | byte :: pattern =>
      byte :: time_put tm pattern
  | [] =>
      []

/-- A `double` that is written with `ios::fixed` and six decimals. -/
def fixed (value : ℚ) : Bytes :=
  let millionths := (nearestEven (|value| * 1000000)).toNat
  (if value < 0 then [0x2D] else []) ++
    (decimal (millionths / 1000000) ++
      0x2E :: padded 6 (millionths % 1000000))

/-- The `double` that is written behind the minute. -/
def secondsWritten (time : Int) : ℚ :=
  let second := to_time_t time
  toSeconds
    (time - from_time_t second + (gmtime_r second).tm_sec * perSecond)

/-- `operator<<` for a `time_point<system_clock>` -/
def insertion (time : TimePoint) : Bytes :=
  let tm := gmtime_r (to_time_t time)
  let seconds := secondsWritten time
  time_put tm (ascii "%F %H:%M:") ++
    ((if seconds < 10 then [0x30] else []) ++
      (fixed seconds ++ ascii " +0000"))

/-! ### Reading -/

/--
The loop of `time_get::_M_extract_num`: the digits that are still to come, the
number so far, and the rest of the input.  It stops at what is no digit and
where the number cannot get into its range any more.
-/
def numLoop
    (min max : Nat) :
    Nat → Nat → Bytes → Nat × Nat × Bytes
  | 0, value, input =>
      (0, value, input)
  | left + 1, value, [] =>
      (left + 1, value, [])
  | left + 1, value, byte :: input =>
      if isDigit byte then
        let value := value * 10 + (byte.toNat - 48)
        let valuec := value * 10 ^ left
        if max < valuec ∨ valuec + 10 ^ left ≤ min then
          (left + 1, value, byte :: input)
        else
          numLoop min max left value input
      else
        (left + 1, value, byte :: input)

/-- `_M_extract_num`; two digits of a year are marked by subtracting 100. -/
def extract_num
    (min max length : Nat)
    (input : Bytes) :
    Option (Int × Bytes) :=
  match numLoop min max length 0 input with
  | (0, value, rest) =>
      some (value, rest)
  | (left, value, rest) =>
      if length = 4 ∧ left = 2 then
        some (value - 100, rest)
      else
        none

/-- `_M_extract_via_format` for the conversions of the pattern. -/
def extract_via_format
    (tm : Tm)
    (input : Bytes) :
    UInt8 → Option (Tm × Bytes)
  | 0x59 =>
      (extract_num 0 9999 4 input).map fun (mem, rest) =>
        ({ tm with
            tm_year := if mem < 0 then mem + 100 else mem - 1900 },
          rest)
  | 0x6D =>
      (extract_num 1 12 2 input).map fun (mem, rest) =>
        ({ tm with tm_mon := mem - 1 }, rest)
  | 0x64 =>
      (extract_num 1 31 2 input).map fun (mem, rest) =>
        ({ tm with tm_mday := mem }, rest)
  | 0x48 =>
      (extract_num 0 23 2 input).map fun (mem, rest) =>
        ({ tm with tm_hour := mem }, rest)
  | 0x4D =>
      (extract_num 0 59 2 input).map fun (mem, rest) =>
        ({ tm with tm_min := mem }, rest)
  | _ =>
      none

/-- ASCII letters without their case. -/
def tolower (byte : UInt8) : UInt8 :=
  if 0x41 ≤ byte ∧ byte ≤ 0x5A then
    byte + 0x20
  else
    byte

/-- `time_get::get` with a pattern. -/
def time_get (tm : Tm) : Bytes → Bytes → Option (Tm × Bytes)
  | [], input =>
      some (tm, input)
  | _ :: _, [] =>
      none
  | 0x25 :: specifier :: pattern, input =>
      match extract_via_format tm input specifier with
      | none =>
          none
      | some (tm, rest) =>
          time_get tm pattern rest
  | byte :: pattern, next :: input =>
      if isBlank byte then
        time_get tm pattern ((next :: input).dropWhile isBlank)
      else if tolower next = tolower byte then
        time_get tm pattern input
      else
        none

/-- The digits of an exponent that `num_get` accepts, and what follows. -/
def exponentPart (input : Bytes) : Option (Int × Bytes) :=
  match input with
  | 0x65 :: rest | 0x45 :: rest =>
      let (negative, rest) := splitSign rest
      let digits := rest.takeWhile isDigit
      if digits = [] then
        none
      else
        some
          (if negative then -(ofDecimal digits : Int) else ofDecimal digits,
            rest.dropWhile isDigit)
  | rest =>
      some (0, rest)

/-- The digits behind the point, and what follows. -/
def fractionPart : Bytes → Bytes × Bytes
  | 0x2E :: rest =>
      (rest.takeWhile isDigit, rest.dropWhile isDigit)
  | rest =>
      ([], rest)

/--
`operator>>` for a `double`, behind the blanks: the longest text that can begin
a number has to be one that does not overflow.
-/
def extract_double (input : Bytes) : Option (ℚ × Bytes) :=
  let (negative, number) := splitSign input
  let whole := number.takeWhile isDigit
  let (fraction, rest) := fractionPart (number.dropWhile isDigit)
  if whole ++ fraction = [] then
    none
  else
    match exponentPart rest with
    | none =>
        none
    | some (exponent, rest) =>
        let magnitude :=
          binary64.round
            (ofDecimal (whole ++ fraction) *
              10 ^ (exponent - fraction.length))
        if 2 ^ 1024 ≤ magnitude then
          none
        else
          some (if negative then -magnitude else magnitude, rest)

/-- `static_cast` of a `double` to an integer type. -/
def truncate (value : ℚ) : Int :=
  if 0 ≤ value then ⌊value⌋ else ⌈value⌉

/-- `round<microseconds>` of a `duration<double>` -/
def roundMicroseconds (seconds : ℚ) : Int :=
  let d := binary64.round (seconds * 1000000)
  let t0 := truncate d
  let t1 := t0 + 1
  let diff0 := binary64.round (d - binary64.round t0)
  let diff1 := binary64.round (binary64.round t1 - d)
  if diff0 = diff1 then
    if t0 % 2 = 1 then t1 else t0
  else if diff0 < diff1 then
    t0
  else
    t1

/-- The minutes to add for the zone that follows the seconds. -/
def zoneMinutes : Bytes → Option Int
  | 0x20 :: sign :: h1 :: h2 :: m1 :: m2 :: _ =>
      if sign ≠ 0x2B ∧ sign ≠ 0x2D then
        none
      else if [h1, h2, m1, m2].all isDigit = false then
        none
      else
        let value := fun byte : UInt8 => (byte.toNat : Int) - 48
        let minutes :=
          value h1 * 600 + value h2 * 60 + value m1 * 10 + value m2
        some (if sign = 0x2D then minutes else -minutes)
  | _ =>
      none

/-- `operator>>` for a `time_point<system_clock>` -/
def extraction (input : Bytes) : Option TimePoint := do
  let (tm, input) ←
    time_get ⟨0, 0, 0, 0, 0, 0⟩ (ascii "%Y-%m-%d %H:%M:")
      (input.dropWhile isBlank)
  let (seconds, input) ← extract_double (input.dropWhile isBlank)
  let minutes ← zoneMinutes input
  return from_time_t (timegm tm) + minutes * 60 * perSecond +
    roundMicroseconds seconds * 1000

end ChronoIo

end ChatRelay
