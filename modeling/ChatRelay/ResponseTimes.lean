import ChatRelay.JodaTime
import ChatRelay.ResponseFraming

namespace ChatRelay

/-!
# The times of responses

The server writes times with `chrono_io`; the client reads them with the Joda
pattern.  A time is read unless its seconds are not two digits below sixty, and
then a login or a message ends the reader thread of the client.
-/

open ChronoIo (insertion BeforeMinute Carries minuteText minuteStart
  nanosecondsOfMinute microseconds)

/-! ### What Joda reads -/

/-- A time whose seconds are written as two digits below sixty. -/
def ChronoIo.TwoDigits (time : Int) : Prop :=
  ¬ BeforeMinute time ∧ ¬ Carries time

instance (time : Int) : Decidable (ChronoIo.TwoDigits time) :=
  inferInstanceAs (Decidable (_ ∧ _))

/--
Joda reads texts of the pattern.  The seconds have at most two digits, a point
follows them, and they are below sixty.
-/
structure JodaReads
    {DateTime : Type}
    (parseDateTime : Bytes → Option DateTime)
    (getMillis : DateTime → Int) : Prop where
  reads :
    ∀ {minute : Int} {second fraction : Nat},
      (ChronoIo.gmtime_r minute).InRange →
      minute % 60 = 0 →
      second < 60 →
      fraction < 1000000 →
      ∃ time,
        parseDateTime
            (dateTimeText minute second fraction (zoneText 0)) =
          some time ∧
        getMillis time = (minute + second) * 1000 + fraction / 1000
  secondOfMinute :
    ∀ {minute : Int} {second : Nat} (rest : Bytes),
      (ChronoIo.gmtime_r minute).InRange →
      60 ≤ second →
      second < 100 →
      parseDateTime (minuteText minute ++ (padded 2 second ++ rest)) =
        none
  twoDigits :
    ∀ {minute : Int} {second : Nat} {byte : UInt8} (rest : Bytes),
      (ChronoIo.gmtime_r minute).InRange →
      second < 100 →
      byte ≠ 0x2E →
      parseDateTime
          (minuteText minute ++ (padded 2 second ++ byte :: rest)) =
        none
  oneDigit :
    ∀ {minute : Int} {second : Nat} {byte : UInt8} (rest : Bytes),
      (ChronoIo.gmtime_r minute).InRange →
      second < 10 →
      isDigit byte = false →
      byte ≠ 0x2E →
      parseDateTime
          (minuteText minute ++ (padded 1 second ++ byte :: rest)) =
        none

namespace ChronoIo

variable {time : Int}

/-- The text of a time with two digits is one of the pattern. -/
theorem insertion_twoDigits
    (twoDigits : TwoDigits time) :
    insertion time =
        dateTimeText (minuteStart time)
          (microseconds (nanosecondsOfMinute time) / 1000000)
          (microseconds (nanosecondsOfMinute time) % 1000000)
          (zoneText 0) ∧
      microseconds (nanosecondsOfMinute time) < 60000000 := by
  obtain ⟨notBefore, notCarries⟩ := twoDigits
  obtain ⟨isNanoseconds, _⟩ := minute_of_not_beforeMinute notBefore
  have nonneg : 0 ≤ time % 60000000000 := by
    omega
  have inMinute : time % 60000000000 < 60000000000 := by
    omega
  have ten := ten_le_microseconds nonneg inMinute
  have minute := minute_le_microseconds nonneg inMinute
  have below := toSeconds_lt_ten nonneg inMinute
  unfold Carries at notCarries
  have whole :
      wholeSeconds (time % 60000000000) =
        padded 2 (microseconds (time % 60000000000) / 1000000) := by
    unfold wholeSeconds
    rw [decimal_eq (by omega)]
    by_cases small : time % 60000000000 < 10000000000
    · have oneDigit :
          microseconds (time % 60000000000) / 1000000 < 10 := by
        omega
      rw [if_pos (below.mpr small), if_pos oneDigit, padded, padded,
        padded, padded, Nat.pow_one, Nat.pow_zero,
        Nat.div_eq_of_lt oneDigit, Nat.mod_eq_of_lt oneDigit]
      rfl
    · rw [if_neg (mt below.mp small), if_neg (by omega)]
      rfl
  rw [insertion_texts (by omega), isNanoseconds]
  refine ⟨?_, by omega⟩
  unfold secondsText
  rw [whole]
  rfl

/-- The text of another time begins in a way that Joda does not read. -/
theorem insertion_cases
    (notTwoDigits : ¬ TwoDigits time) :
    (∃ rest,
      insertion time =
        minuteText (minuteStart time) ++
          (padded 1 0 ++ 0x2D :: rest)) ∨
    (∃ rest,
      insertion time =
        minuteText (minuteStart time) ++
          (padded 2 1 ++ 0x30 :: rest)) ∨
    ∃ rest,
      insertion time =
        minuteText (minuteStart time) ++ (padded 2 60 ++ rest) := by
  obtain ⟨inMinute, after, negative⟩ := nanosecondsOfMinute_bounds time
  by_cases before : BeforeMinute time
  · left
    have isNegative :=
      toSeconds_neg after (negative.mpr before)
    have seconds :
        secondsWritten time = toSeconds (nanosecondsOfMinute time) :=
      rfl
    unfold insertion
    dsimp only
    rw [seconds, if_pos (by linarith), fixed, if_pos isNegative,
      minuteText_minuteStart]
    exact ⟨_, rfl⟩
  · right
    obtain ⟨isNanoseconds, _⟩ := minute_of_not_beforeMinute before
    have nonneg : 0 ≤ time % 60000000000 := by
      omega
    have inMinute : time % 60000000000 < 60000000000 := by
      omega
    have near := abs_le.mp (microseconds_near nonneg inMinute)
    have ten := ten_le_microseconds nonneg inMinute
    have minute := minute_le_microseconds nonneg inMinute
    have below := toSeconds_lt_ten nonneg inMinute
    have carries : Carries time := by
      by_contra notCarries
      exact notTwoDigits ⟨before, notCarries⟩
    rw [insertion_texts (by omega), isNanoseconds, secondsText,
      wholeSeconds]
    rcases carries with ⟨overTen, underTen⟩ | full
    · left
      have isTen : microseconds (time % 60000000000) / 1000000 = 10 := by
        omega
      rw [if_pos (below.mpr underTen), isTen]
      exact ⟨_, rfl⟩
    · right
      have isSixty :
          microseconds (time % 60000000000) / 1000000 = 60 := by
        omega
      rw [if_neg (mt below.mp (by omega)), isSixty]
      exact ⟨_, rfl⟩

end ChronoIo

section Reads

variable
  {DateTime : Type}
  {parseDateTime : Bytes → Option DateTime}
  {getMillis : DateTime → Int}
  (joda : JodaReads parseDateTime getMillis)
  {time : TimePoint}
  (representable : ChronoIo.Representable time)

include joda representable

/-- A time with two digits is read, to the millisecond. -/
theorem JodaReads.of_twoDigits
    (twoDigits : ChronoIo.TwoDigits time) :
    ∃ read,
      parseDateTime (insertion time) = some read ∧
        getMillis read = ChronoIo.written time / 1000000 := by
  obtain ⟨isText, inMinute⟩ := ChronoIo.insertion_twoDigits twoDigits
  obtain ⟨isNanoseconds, isMinute⟩ :=
    ChronoIo.minute_of_not_beforeMinute twoDigits.1
  obtain ⟨read, reads, millis⟩ :=
    joda.reads (ChronoIo.minute_inRange representable)
      (by rw [isMinute]; omega)
      (show microseconds (nanosecondsOfMinute time) / 1000000 < 60 by
        omega)
      (show microseconds (nanosecondsOfMinute time) % 1000000 <
        1000000 by omega)
  refine ⟨read, by rw [isText, reads], ?_⟩
  rw [millis, ChronoIo.written]
  unfold ChronoIo.from_time_t ChronoIo.perSecond
  push_cast
  omega

/-- Every other time is refused. -/
theorem JodaReads.of_not_twoDigits
    (notTwoDigits : ¬ ChronoIo.TwoDigits time) :
    parseDateTime (insertion time) = none := by
  have inRange := ChronoIo.minute_inRange representable
  rcases ChronoIo.insertion_cases notTwoDigits with
    ⟨rest, isText⟩ | ⟨rest, isText⟩ | ⟨rest, isText⟩
  · rw [isText]
    exact joda.oneDigit rest inRange (by decide) (by decide) (by decide)
  · rw [isText]
    exact joda.twoDigits rest inRange (by decide) (by decide)
  · rw [isText]
    exact joda.secondOfMinute rest inRange (by decide) (by decide)

end Reads

/-! ### The reader thread -/

namespace Response

/-- `dateTime()` -/
def dateTime : Response → TimePoint
  | .login response =>
      response.dateTime
  | .message response =>
      response.dateTime
  | .error response =>
      response.dateTime

/-- The client reads the time of logins and messages only. -/
def Timely : Response → Prop
  | .login response =>
      ChronoIo.TwoDigits response.dateTime
  | .message response =>
      ChronoIo.TwoDigits response.dateTime
  | .error _ =>
      True

instance (response : Response) : Decidable response.Timely :=
  match response with
  | .login response =>
      inferInstanceAs (Decidable (ChronoIo.TwoDigits response.dateTime))
  | .message response =>
      inferInstanceAs (Decidable (ChronoIo.TwoDigits response.dateTime))
  | .error _ =>
      isTrue trivial

/-- A response with Unicode strings, a time of the clock and a known code. -/
structure Sent
    (platform : Platform)
    (response : Response) : Prop where
  textual :
    ∀ field ∈ (response.fields platform).tail, Client.Unicode field.2
  representable : ChronoIo.Representable response.dateTime
  known :
    ∀ error,
      response = .error error →
        ∃ ec : Client.ClientErrorCode,
          ec.CODE = error.code.value.toNat

/-- A call of the visitor with the contents and the instant of a response. -/
def Shows
    {DateTime : Type}
    (client : Client.ClientPlatform DateTime)
    (platform : Platform)
    (getMillis : DateTime → Int)
    (response : Response)
    (callback : Client.ResponseCallback DateTime) : Prop :=
  Client.Announces client platform response callback ∧
    ∀ time,
      client.parseDateTime (platform.printTime response.dateTime) =
          some time →
        getMillis time =
          ChronoIo.written response.dateTime / 1000000

end Response

section Thread

variable
  {DateTime : Type}
  {client : Client.ClientPlatform DateTime}
  {getMillis : DateTime → Int}
  {read_json : Bytes → Option JsonText.Tree}
  {write_json : JsonText.Tree → Bool → Option Bytes}
  {escape : Bytes → Bytes}
  (joda : JodaReads client.parseDateTime getMillis)
  (reader : Client.GsonReader client.fromJson escape)

/-- The time of a response is a Unicode string like its other fields. -/
theorem Response.Sent.isTextual
    {response : Response}
    (sent : response.Sent (Platform.chrono read_json write_json)) :
    Client.Textual (Platform.chrono read_json write_json) response := by
  have fields :
      response.fields (Platform.chrono read_json write_json) =
        (Instance.PROPERTY_DATETIME, insertion response.dateTime) ::
          (response.fields
            (Platform.chrono read_json write_json)).tail := by
    cases response <;> rfl
  have time : Client.Unicode (insertion response.dateTime) :=
    ⟨_, (ascii_ofAscii
      (ChronoIo.isAscii_insertion sent.representable)).symm⟩
  unfold Client.Textual
  rw [fields, List.forall_mem_cons]
  exact ⟨time, sent.textual⟩

include joda in
/-- A sent response is readable exactly if it is timely. -/
theorem Response.Sent.readable_iff
    {response : Response}
    (sent : response.Sent (Platform.chrono read_json write_json)) :
    Client.Readable client (Platform.chrono read_json write_json)
        response ↔
      response.Timely := by
  have parses :
      (client.parseDateTime (insertion response.dateTime)).isSome ↔
        ChronoIo.TwoDigits response.dateTime := by
    by_cases twoDigits : ChronoIo.TwoDigits response.dateTime
    · obtain ⟨read, isRead, _⟩ :=
        joda.of_twoDigits sent.representable twoDigits
      rw [isRead]
      exact iff_of_true rfl twoDigits
    · rw [joda.of_not_twoDigits sent.representable twoDigits]
      exact iff_of_false Bool.false_ne_true twoDigits
  cases response with
  | login response =>
      exact parses
  | message response =>
      exact parses
  | error response =>
      exact iff_of_true (sent.known response rfl) trivial

include joda reader in
/-- What the reader thread makes of one response. -/
theorem Response.Sent.visitContent_cases
    {response : Response}
    (sent : response.Sent (Platform.chrono read_json write_json))
    {content : Bytes}
    (document :
      Client.IsDocument (Platform.chrono read_json write_json) escape
        content response)
    (now : DateTime) :
    if response.Timely then
      ∃ callback,
        Client.visitContent client content now = .ok callback ∧
          response.Shows client (Platform.chrono read_json write_json)
            getMillis callback
    else
      Client.visitContent client content now =
        .error .IllegalArgumentException := by
  split
  · rename_i timely
    obtain ⟨callback, visited, announces⟩ :=
      (Client.visitContent_document reader sent.isTextual document
        now).mpr ((sent.readable_iff joda).mpr timely)
    refine ⟨callback, visited, announces, ?_⟩
    intro time parses
    by_cases twoDigits : ChronoIo.TwoDigits response.dateTime
    · obtain ⟨read, isRead, millis⟩ :=
        joda.of_twoDigits sent.representable twoDigits
      obtain rfl := Option.some.inj (isRead.symm.trans parses)
      exact millis
    · rw [Platform.chrono,
        joda.of_not_twoDigits sent.representable twoDigits] at parses
      cases parses
  · rename_i notTimely
    have parsed := Client.fromJson_document reader sent.isTextual document
    cases response with
    | login response =>
        have refused :=
          joda.of_not_twoDigits sent.representable notTimely
        rw [Client.visitContent_dated parsed rfl now, Platform.chrono]
        dsimp only at refused ⊢
        rw [show insertion response.dateTime =
          insertion (Response.dateTime (.login response)) from rfl,
          refused]
    | message response =>
        have refused :=
          joda.of_not_twoDigits sent.representable notTimely
        rw [Client.visitContent_dated parsed rfl now, Platform.chrono]
        dsimp only at refused ⊢
        rw [show insertion response.dateTime =
          insertion (Response.dateTime (.message response)) from rfl,
          refused]
    | error response =>
        exact absurd trivial notTimely

/-- A read that leaves the thread alive. -/
def Client.ReadOutcome.Alive :
    Client.ReadOutcome DateTime → Prop
  | .data _ _ =>
      True
  | .timeout =>
      True
  | _ =>
      False

/-- A document is not empty. -/
theorem Client.IsDocument.length_pos
    {platform : Platform}
    {content : Bytes}
    {response : Response}
    (document : Client.IsDocument platform escape content response) :
    0 < content.length := by
  obtain ⟨before, after, _, _, rfl⟩ := document
  obtain ⟨rest, shape⟩ :=
    (@Client.value_braces platform escape response).1
  rw [shape]
  simp

include joda reader in
/--
The reader thread shows the responses that arrive, each in one read, with their
instants, up to the first login or message whose seconds are not two digits
below sixty; that one ends the thread with an `IllegalArgumentException`.
-/
theorem Client.run_until_untimely
    {outcomes : List (Client.ReadOutcome DateTime)}
    (alive : ∀ outcome ∈ outcomes, outcome.Alive)
    {responses : List Response}
    (sent :
      ∀ response ∈ responses,
        response.Sent (Platform.chrono read_json write_json))
    (documents :
      List.Forall₂
        (Client.IsDocument (Platform.chrono read_json write_json) escape)
        (Client.contents outcomes) responses) :
    ∃ callbacks,
      Client.run client outcomes =
          (callbacks,
            if ∀ response ∈ responses, response.Timely then
              none
            else
              some .IllegalArgumentException) ∧
        List.Forall₂
          (Response.Shows client (Platform.chrono read_json write_json)
            getMillis)
          (responses.takeWhile fun response => response.Timely)
          callbacks := by
  induction outcomes generalizing responses with
  | nil =>
      cases documents
      exact ⟨[], by simp [Client.run], .nil⟩
  | cons outcome outcomes inductionHypothesis =>
      obtain ⟨aliveFirst, aliveRest⟩ :=
        List.forall_mem_cons.mp alive
      cases outcome with
      | timeout =>
          exact inductionHypothesis aliveRest sent documents
      | data content now =>
          obtain ⟨response, others, document, documentsRest, rfl⟩ :=
            List.forall₂_cons_left_iff.mp documents
          obtain ⟨sentFirst, sentRest⟩ := List.forall_mem_cons.mp sent
          have visit :=
            sentFirst.visitContent_cases joda reader document now
          rw [Client.run, if_pos document.length_pos]
          by_cases timely : response.Timely
          · rw [if_pos timely] at visit
            obtain ⟨callback, visited, shows'⟩ := visit
            obtain ⟨callbacks, ran, shown⟩ :=
              inductionHypothesis aliveRest sentRest documentsRest
            refine ⟨callback :: callbacks, ?_, ?_⟩
            · rw [visited, ran]
              simp [timely]
            · rw [List.takeWhile_cons_of_pos (by simpa using timely)]
              exact .cons shows' shown
          · rw [if_neg timely] at visit
            refine ⟨[], ?_, ?_⟩
            · rw [visit]
              simp [timely]
            · rw [List.takeWhile_cons_of_neg (by simpa using timely)]
              exact .nil
      | endOfStream | failed | killed =>
          exact aliveFirst.elim

end Thread

/-! ### A reader of the pattern -/

/-- Texts of the pattern in UTC, as the milliseconds of their instants. -/
def parsePattern (text : Bytes) : Option Int :=
  match ChronoIo.time_get ⟨0, 0, 0, 0, 0, 0⟩
      (ascii "%Y-%m-%d %H:%M:") (text.dropWhile isBlank) with
  | some (tm, s1 :: s2 :: 0x2E :: rest) =>
      if [s1, s2].all isDigit ∧ ofDecimal [s1, s2] < 60 ∧
          rest.drop 6 = 0x20 :: zoneText 0 then
        some
          ((ChronoIo.timegm tm + ofDecimal [s1, s2]) * 1000 +
            (ofDecimal (rest.take 6) / 1000 : Nat))
      else
        none
  | _ =>
      none

/-- What is read behind the minute. -/
theorem parsePattern_minuteText
    {minute : Int}
    (inRange : (ChronoIo.gmtime_r minute).InRange)
    {s1 s2 : UInt8}
    (rest : Bytes) :
    parsePattern (minuteText minute ++ s1 :: s2 :: 0x2E :: rest) =
      if [s1, s2].all isDigit ∧ ofDecimal [s1, s2] < 60 ∧
          rest.drop 6 = 0x20 :: zoneText 0 then
        some
          ((minute - minute % 60 + ofDecimal [s1, s2]) * 1000 +
            (ofDecimal (rest.take 6) / 1000 : Nat))
      else
        none := by
  have second : (ChronoIo.gmtime_r minute).tm_sec = minute % 60 := by
    unfold ChronoIo.gmtime_r
    dsimp only
    omega
  unfold parsePattern minuteText
  rw [ChronoIo.time_get_time_put inRange, ← second,
    ← ChronoIo.timegm_gmtime_r]
  rfl

theorem parsePattern_noPoint
    {minute : Int}
    (inRange : (ChronoIo.gmtime_r minute).InRange)
    {s1 s2 byte : UInt8}
    (notPoint : byte ≠ 0x2E)
    (rest : Bytes) :
    parsePattern (minuteText minute ++ s1 :: s2 :: byte :: rest) =
      none := by
  unfold parsePattern minuteText
  rw [ChronoIo.time_get_time_put inRange]
  split
  · rename_i shape
    cases shape
    exact absurd rfl notPoint
  · rfl

theorem padded_two
    (number : Nat) :
    padded 2 number = [digit (number / 10), digit (number % 10)] := by
  rw [padded, padded, padded, Nat.pow_one, Nat.pow_zero, Nat.div_one]

/-- The reader reads the pattern as Joda does. -/
theorem parsePattern_reads :
    JodaReads parsePattern id where
  reads := by
    intro minute second fraction inRange isMinute inMinute inSecond
    have twoDigits : second < 10 ^ 2 := by
      omega
    have sixDigits : fraction < 10 ^ 6 := by
      omega
    have areDigits : (padded 2 second).all isDigit = true :=
      List.all_eq_true.mpr (isDigit_padded twoDigits)
    have isSecond := ofDecimal_padded twoDigits
    rw [padded_two] at areDigits isSecond
    refine ⟨_, ?_, rfl⟩
    unfold dateTimeText
    rw [padded_two]
    simp only [List.cons_append, List.nil_append]
    rw [parsePattern_minuteText inRange,
      List.drop_left' (length_padded 6 fraction),
      List.take_left' (length_padded 6 fraction),
      ofDecimal_padded sixDigits, isSecond,
      if_pos ⟨areDigits, inMinute, rfl⟩, isMinute, sub_zero]
    rfl
  secondOfMinute := by
    intro minute second rest inRange atLeast below
    have isSecond :=
      ofDecimal_padded (show second < 10 ^ 2 by omega)
    rw [padded_two] at isSecond ⊢
    simp only [List.cons_append, List.nil_append]
    cases rest with
    | nil =>
        unfold parsePattern minuteText
        rw [ChronoIo.time_get_time_put inRange]
    | cons byte rest =>
        by_cases isPoint : byte = 0x2E
        · rw [isPoint, parsePattern_minuteText inRange, isSecond,
            if_neg (by omega)]
        · exact parsePattern_noPoint inRange isPoint rest
  twoDigits := by
    intro minute second byte rest inRange _ notPoint
    rw [padded_two]
    exact parsePattern_noPoint inRange notPoint rest
  oneDigit := by
    intro minute second byte rest inRange _ notDigit _
    cases rest with
    | nil =>
        unfold parsePattern minuteText
        rw [ChronoIo.time_get_time_put inRange]
        rfl
    | cons other rest =>
        by_cases isPoint : other = 0x2E
        · rw [isPoint]
          refine (parsePattern_minuteText inRange rest).trans
            (if_neg ?_)
          simp [notDigit]
        · exact parsePattern_noPoint inRange isPoint rest

/-- A client over the parser of this development and that of the pattern. -/
def Client.ClientPlatform.joda : Client.ClientPlatform Int where
  fromJson := Client.ClientPlatform.reference.fromJson
  parseDateTime := parsePattern
  otherClass := fun _ => false

/-- A message arrives, and a login half a microsecond before a minute. -/
theorem Client.run_until_untimely_minute :
    let platform :=
      Platform.chrono JsonText.read fun tree _ =>
        some (JsonText.value JsonText.escape tree)
    let message : Response :=
      .message ⟨0, ascii "@server", ascii "ann", ascii "hello"⟩
    let login : Response :=
      .login ⟨59999999500, ascii "@server", ascii "bob"⟩
    ∃ callbacks,
      Client.run Client.ClientPlatform.joda
          [.data (JsonText.value JsonText.escape
              (message.toJson platform)) 0,
            .data (JsonText.value JsonText.escape
              (login.toJson platform)) 0] =
        (callbacks, some .IllegalArgumentException) ∧
        callbacks.length = 1 := by
  intro platform message login
  have document :
      ∀ response : Response,
        Client.IsDocument platform JsonText.escape
          (JsonText.value JsonText.escape (response.toJson platform))
          response := by
    intro response
    exact ⟨[], [], by simp [JsonText.Spaces],
      by simp [JsonText.Spaces], by simp⟩
  have sent :
      ∀ response ∈ [message, login], response.Sent platform := by
    intro response member
    simp only [List.mem_cons, List.not_mem_nil, or_false] at member
    rcases member with rfl | rfl
    · refine ⟨?_, ⟨by decide, by decide⟩, by simp [message]⟩
      intro field inFields
      simp only [message, Response.fields, List.tail_cons, List.mem_cons,
        List.not_mem_nil, or_false] at inFields
      rcases inFields with rfl | rfl | rfl
      · exact ⟨"@server", rfl⟩
      · exact ⟨"ann", rfl⟩
      · exact ⟨"hello", rfl⟩
    · refine ⟨?_, ⟨by decide, by decide⟩, by simp [login]⟩
      intro field inFields
      simp only [login, Response.fields, List.tail_cons, List.mem_cons,
        List.not_mem_nil, or_false] at inFields
      rcases inFields with rfl | rfl
      · exact ⟨"@server", rfl⟩
      · exact ⟨"bob", rfl⟩
  have timely :
      message.Timely ∧ ¬ login.Timely :=
    ⟨by decide, by decide⟩
  obtain ⟨callbacks, ran, shown⟩ :=
    @Client.run_until_untimely Int ClientPlatform.joda id JsonText.read
      (fun tree _ => some (JsonText.value JsonText.escape tree))
      JsonText.escape parsePattern_reads Client.gsonReader
      [.data (JsonText.value JsonText.escape
          (message.toJson platform)) 0,
        .data (JsonText.value JsonText.escape
          (login.toJson platform)) 0]
      (by simp [ReadOutcome.Alive]) [message, login] sent
      (.cons (document message) (.cons (document login) .nil))
  refine ⟨callbacks, ?_, ?_⟩
  · rw [ran]
    simp [timely]
  · have length := shown.length_eq
    simpa [timely] using length.symm

end ChatRelay
