import Mathlib.Data.List.TakeDrop
import Mathlib.Data.List.TakeWhile
import ChatRelay.MessageJson

namespace ChatRelay

/-!
# Decoding what was encoded

The decoders of the response classes, which no part of the server calls but the
response visitor, and what they share with those of the requests: a field is
the data of the first child under its key.  Every message that is encoded is
decoded again; a decoder also accepts objects that no encoder writes, because
nothing looks at the children of a field, at the stream that reads the time or
at the sign of an error code.
-/

open JsonText (Tree)
open Instance

/-! ### Numbers in the text of a field -/

section Extraction

/-- `std::isspace` in the classic locale. -/
def isBlank (byte : UInt8) : Bool :=
  byte == 0x20 || (0x09 ≤ byte && byte ≤ 0x0D)

/-- A decimal digit. -/
def isDigit (byte : UInt8) : Bool :=
  0x30 ≤ byte && byte ≤ 0x39

/-- The optional sign of a number and the text behind it. -/
def splitSign : Bytes → Bool × Bytes
  | 0x2D :: rest =>
      (true, rest)
  | 0x2B :: rest =>
      (false, rest)
  | rest =>
      (false, rest)

/-- The number that a text of digits writes. -/
def ofDecimal (digits : Bytes) : Nat :=
  Nat.ofDigitChars 10
    (digits.map fun byte => Char.ofNat byte.toNat) 0

/--
`get_value<uint16_t>` of a node's data: the stream skips blanks, takes a sign
and digits that fit, and nothing but blanks may follow.  The standard library
negates a number with a minus sign.
-/
def getUInt16 (text : Bytes) : Option UInt16 :=
  let (negative, number) := splitSign (text.dropWhile isBlank)
  let digits := number.takeWhile isDigit
  if digits = [] then
    none
  else if (number.dropWhile isDigit).all isBlank = false then
    none
  else if 65535 < ofDecimal digits then
    none
  else if negative then
    some (0 - UInt16.ofNat (ofDecimal digits))
  else
    some (UInt16.ofNat (ofDecimal digits))

/-- A text of decimal digits whose number is a `uint16_t`. -/
structure DecimalUInt16 (text : Bytes) : Prop where
  nonempty : text ≠ []
  digits : text.all isDigit = true
  fits : ofDecimal text ≤ 65535

/-- A digit is neither a blank nor a sign. -/
theorem isBlank_of_isDigit
    {byte : UInt8}
    (digit : isDigit byte = true) :
    isBlank byte = false ∧ byte ≠ 0x2D ∧ byte ≠ 0x2B := by
  simp only [isDigit, Bool.and_eq_true, decide_eq_true_eq,
    UInt8.le_iff_toNat_le] at digit
  have low : (0x30 : UInt8).toNat = 48 := rfl
  have tab : (0x09 : UInt8).toNat = 9 := rfl
  have ret : (0x0D : UInt8).toNat = 13 := rfl
  refine ⟨?_, ?_, ?_⟩
  · simp only [isBlank, Bool.or_eq_false_iff, beq_eq_false_iff_ne,
      Bool.and_eq_false_iff, decide_eq_false_iff_not,
      UInt8.le_iff_toNat_le]
    refine ⟨?_, Or.inr (by omega)⟩
    rintro rfl
    exact absurd digit.1 (by decide)
  · rintro rfl
    exact absurd digit.1 (by decide)
  · rintro rfl
    exact absurd digit.1 (by decide)

/-- A plain decimal text is read as its number. -/
theorem getUInt16_of_decimal
    {text : Bytes}
    (plain : DecimalUInt16 text) :
    getUInt16 text = some (UInt16.ofNat (ofDecimal text)) := by
  obtain ⟨first, others, rfl⟩ :=
    List.exists_cons_of_ne_nil plain.nonempty
  have everyDigit := List.all_eq_true.mp plain.digits
  obtain ⟨notBlank, notMinus, notPlus⟩ :=
    isBlank_of_isDigit (everyDigit first (List.mem_cons_self ..))
  have noBlanks :
      (first :: others).dropWhile isBlank = first :: others :=
    List.dropWhile_cons_of_neg (by simp [notBlank])
  have noSign :
      splitSign (first :: others) = (false, first :: others) := by
    unfold splitSign
    split
    · rename_i shape
      exact absurd (List.cons.inj shape).1 notMinus
    · rename_i shape
      exact absurd (List.cons.inj shape).1 notPlus
    · rfl
  have whole :
      (first :: others).takeWhile isDigit = first :: others :=
    List.takeWhile_eq_self_iff.mpr everyDigit
  have nothing :
      (first :: others).dropWhile isDigit = [] :=
    List.dropWhile_eq_nil_iff.mpr everyDigit
  unfold getUInt16
  simp only [noBlanks, noSign, whole, nothing]
  rw [if_neg plain.nonempty, if_neg (by simp),
    if_neg (Nat.not_lt.mpr plain.fits)]
  rfl

/-- The digits that the encoder writes are a plain decimal text. -/
theorem decimal_plain
    (value : UInt16) :
    DecimalUInt16 (Response.Error.decimal value) ∧
      ofDecimal (Response.Error.decimal value) = value.toNat := by
  obtain ⟨nonempty, digits, restored⟩ :=
    Response.Error.decimal_digits value
  have number :
      ofDecimal (Response.Error.decimal value) = value.toNat := by
    rw [ofDecimal, restored, Nat.ofDigitChars_ten_toDigits]
  refine ⟨⟨nonempty, ?_, ?_⟩, number⟩
  · refine List.all_eq_true.mpr ?_
    intro byte inBytes
    simp only [isDigit, Bool.and_eq_true, decide_eq_true_eq]
    exact digits byte inBytes
  · rw [number]
    exact Nat.le_of_lt_succ value.toNat_lt

/-- The code that the encoder writes is read back. -/
theorem getUInt16_decimal
    (value : UInt16) :
    getUInt16 (Response.Error.decimal value) = some value := by
  obtain ⟨plain, number⟩ := decimal_plain value
  rw [getUInt16_of_decimal plain, number, UInt16.ofNat_toNat]

end Extraction

/-! ### The decoders of the responses -/

/--
A field that a decoder requires: it is looked up by its key and read as a
`std::string`, which succeeds for every node.
-/
def requiredField
    (json : Tree)
    (key : Bytes)
    (what : String) :
    Except Fault Bytes :=
  match json.find key with
  | none =>
      .error (.runtimeError what)
  | some node =>
      .ok node.data

/-- The error code of an object, by `get_value<uint16_t>`. -/
def requiredCode (json : Tree) : Except Fault ErrorCode :=
  match json.find Response.Error.PROPERTY_CODE with
  | none =>
      .error (.runtimeError "Can not get error code from JSON")
  | some node =>
      match getUInt16 node.data with
      | none =>
          .error
            (.runtimeError "conversion of data to type \"t\" failed")
      | some value =>
          .ok ⟨value⟩

namespace Response

/-- `response::login::fromJson`; the pointer it returns is never null. -/
def Login.fromJson
    (platform : Platform)
    (json : Tree) :
    Except Fault (Option Login) := do
  let (dateTime, sender) ← extractCommonParams platform json
  let joiningUser ←
    requiredField json Login.PROPERTY_JOINING_USERNAME
      "Can not get joining username from JSON"
  return some ⟨dateTime, sender, joiningUser⟩

/-- `response::message::fromJson`; the pointer it returns is never null. -/
def Message.fromJson
    (platform : Platform)
    (json : Tree) :
    Except Fault (Option Message) := do
  let (dateTime, sender) ← extractCommonParams platform json
  let message ←
    requiredField json Message.PROPERTY_CONTENT "Could not get message."
  let originator ←
    requiredField json Message.PROPERTY_ORIGINATOR
      "Could not get originator."
  return some ⟨dateTime, sender, originator, message⟩

/-- `response::error::fromJson`; the pointer it returns is never null. -/
def Error.fromJson
    (platform : Platform)
    (json : Tree) :
    Except Fault (Option Error) := do
  let (dateTime, sender) ← extractCommonParams platform json
  let code ← requiredCode json
  let message ←
    requiredField json Error.PROPERTY_MESSAGE
      "Can not get message from JSON"
  let originator ←
    requiredField json Error.PROPERTY_ORIGINATOR
      "Can not get originator from JSON"
  return some ⟨dateTime, sender, originator, code, message⟩

end Response

/-! ### What a decoder accepts -/

section Acceptance

/--
A decoder that first extracts a value returns an instance exactly if the value
is there and the rest of the decoder returns for it.
-/
theorem bind_decodes_iff
    {Value S : Type}
    {first : Except Fault Value}
    {next : Value → Except Fault (Option S)}
    {rest : Prop}
    (after : ∀ value, (∃ message, next value = .ok (some message)) ↔ rest) :
    (∃ message, first >>= next = .ok (some message)) ↔
      (∃ value, first = .ok value) ∧ rest := by
  cases first with
  | error fault =>
      simp [bind, Except.bind]
  | ok value =>
      simpa [bind, Except.bind] using after value

theorem requiredField_ok_iff
    {json : Tree}
    {key : Bytes}
    {what : String} :
    (∃ text, requiredField json key what = .ok text) ↔
      (json.find key).isSome = true := by
  unfold requiredField
  cases json.find key <;> simp

theorem requiredCode_ok_iff
    {json : Tree} :
    (∃ code, requiredCode json = .ok code) ↔
      ∃ node,
        json.find Response.Error.PROPERTY_CODE = some node ∧
          (getUInt16 node.data).isSome = true := by
  unfold requiredCode
  cases json.find Response.Error.PROPERTY_CODE with
  | none =>
      simp
  | some node =>
      simp only [Option.some.injEq, exists_eq_left']
      cases getUInt16 node.data <;> simp

end Acceptance

/-! ### The five classes -/

/-- What `abstract_instance<S>` and its users know of a subclass `S`. -/
structure Codec (S : Type) where
  TYPE : Bytes
  subToJson : Platform → S → Tree
  fromJson : Platform → Tree → Except Fault (Option S)
  dateTime : S → TimePoint
  /-- The accessors other than `dateTime()` return the same. -/
  SameFields : S → S → Prop
  /-- The keys of the fields that the class requires. -/
  required : List Bytes
  /-- Those of them that are numbers. -/
  numbers : List Bytes

/-- The classes of messages. -/
inductive MessageClass where
  | requestLogin
  | requestMessage
  | responseLogin
  | responseMessage
  | responseError
  deriving Repr, DecidableEq

namespace MessageClass

/-- The objects of a class. -/
abbrev Object : MessageClass → Type
  | .requestLogin => Request.Login
  | .requestMessage => Request.Message
  | .responseLogin => Response.Login
  | .responseMessage => Response.Message
  | .responseError => Response.Error

/-- The codec of a class. -/
def codec : (cls : MessageClass) → Codec cls.Object
  | .requestLogin =>
      { TYPE := Request.Login.TYPE
        subToJson := Request.Login.subToJson
        fromJson := Request.Login.fromJson
        dateTime := Request.Login.dateTime
        SameFields := fun first second =>
          first.sender = second.sender
        required := [PROPERTY_DATETIME, PROPERTY_SENDER]
        numbers := [] }
  | .requestMessage =>
      { TYPE := Request.Message.TYPE
        subToJson := Request.Message.subToJson
        fromJson := Request.Message.fromJson
        dateTime := Request.Message.dateTime
        SameFields := fun first second =>
          first.sender = second.sender ∧
            first.content = second.content
        required :=
          [PROPERTY_DATETIME, PROPERTY_SENDER,
            Request.Message.PROPERTY_CONTENT]
        numbers := [] }
  | .responseLogin =>
      { TYPE := Response.Login.TYPE
        subToJson := Response.Login.subToJson
        fromJson := Response.Login.fromJson
        dateTime := Response.Login.dateTime
        SameFields := fun first second =>
          first.sender = second.sender ∧
            first.joiningUsername = second.joiningUsername
        required :=
          [PROPERTY_DATETIME, PROPERTY_SENDER,
            Response.Login.PROPERTY_JOINING_USERNAME]
        numbers := [] }
  | .responseMessage =>
      { TYPE := Response.Message.TYPE
        subToJson := Response.Message.subToJson
        fromJson := Response.Message.fromJson
        dateTime := Response.Message.dateTime
        SameFields := fun first second =>
          first.sender = second.sender ∧
            first.originator = second.originator ∧
            first.content = second.content
        required :=
          [PROPERTY_DATETIME, PROPERTY_SENDER,
            Response.Message.PROPERTY_CONTENT,
            Response.Message.PROPERTY_ORIGINATOR]
        numbers := [] }
  | .responseError =>
      { TYPE := Response.Error.TYPE
        subToJson := Response.Error.subToJson
        fromJson := Response.Error.fromJson
        dateTime := Response.Error.dateTime
        SameFields := fun first second =>
          first.sender = second.sender ∧
            first.originator = second.originator ∧
            first.code = second.code ∧
            first.message = second.message
        required :=
          [PROPERTY_DATETIME, PROPERTY_SENDER,
            Response.Error.PROPERTY_CODE,
            Response.Error.PROPERTY_MESSAGE,
            Response.Error.PROPERTY_ORIGINATOR]
        numbers := [Response.Error.PROPERTY_CODE] }

end MessageClass

namespace Codec

variable {S : Type}

/-- `abstract_instance<S>::toJson`. -/
def toJson
    (codec : Codec S)
    (platform : Platform)
    (message : S) :
    Tree :=
  Instance.toJson codec.TYPE (codec.subToJson platform message)

/--
An encoded message is taken apart into its tag and its object, and the object
is decoded to a message with the same fields, the same printed time and the
same encoding.
-/
def RoundTrip
    (codec : Codec S)
    (platform : Platform)
    (message : S) : Prop :=
  extractFrom (codec.toJson platform message) =
      some (codec.TYPE, codec.subToJson platform message) ∧
    ∃ decoded,
      codec.fromJson platform (codec.subToJson platform message) =
          .ok (some decoded) ∧
        codec.SameFields decoded message ∧
        platform.printTime (codec.dateTime decoded) =
          platform.printTime (codec.dateTime message) ∧
        codec.toJson platform decoded = codec.toJson platform message

/-- An instance is returned for the object. -/
def Decodes
    (codec : Codec S)
    (platform : Platform)
    (json : Tree) : Prop :=
  ∃ message, codec.fromJson platform json = .ok (some message)

/--
The object is well formed: every required field is a leaf, the text of the time
is accepted, and numbers are decimal texts that fit.
-/
structure WellFormed
    (codec : Codec S)
    (platform : Platform)
    (json : Tree) : Prop where
  leaves :
    ∀ key ∈ codec.required,
      ∃ text, json.find key = some (.leaf text)
  dateTime :
    ∃ text,
      json.find PROPERTY_DATETIME = some (.leaf text) ∧
        (platform.parseTime text).isSome = true
  numbers :
    ∀ key ∈ codec.numbers,
      ∃ text,
        json.find key = some (.leaf text) ∧ DecimalUInt16 text

/-- Every required key has a child, and numbers can be extracted. -/
structure Complete (codec : Codec S) (json : Tree) : Prop where
  found : ∀ key ∈ codec.required, (json.find key).isSome = true
  extracted :
    ∀ key ∈ codec.numbers,
      ∀ node ∈ json.find key, (getUInt16 node.data).isSome = true

/--
The required fields that are there have no children, the time that is there is
accepted, and the numbers that are there have neither a sign nor blanks.
-/
structure Plain
    (codec : Codec S)
    (platform : Platform)
    (json : Tree) : Prop where
  childless :
    ∀ key ∈ codec.required,
      ∀ node ∈ json.find key, node.children = []
  dateTime :
    ∀ node ∈ json.find PROPERTY_DATETIME,
      (platform.parseTime node.data).isSome = true
  numbers :
    ∀ key ∈ codec.numbers,
      ∀ node ∈ json.find key, DecimalUInt16 node.data

/-- An object is well formed exactly if it is complete and plain. -/
theorem wellFormed_iff
    {codec : Codec S}
    {platform : Platform}
    {json : Tree}
    (dated : PROPERTY_DATETIME ∈ codec.required)
    (listed : ∀ key ∈ codec.numbers, key ∈ codec.required) :
    codec.WellFormed platform json ↔
      codec.Complete json ∧ codec.Plain platform json := by
  constructor
  · intro formed
    have leaf :
        ∀ key ∈ codec.required, ∀ node ∈ json.find key,
          node.children = [] := by
      intro key inRequired node found
      obtain ⟨text, shape⟩ := formed.leaves key inRequired
      obtain rfl := Option.some.inj (shape.symm.trans found)
      rfl
    have decimals :
        ∀ key ∈ codec.numbers, ∀ node ∈ json.find key,
          DecimalUInt16 node.data := by
      intro key inNumbers node found
      obtain ⟨text, shape, plain⟩ := formed.numbers key inNumbers
      obtain rfl := Option.some.inj (shape.symm.trans found)
      exact plain
    refine ⟨⟨?_, ?_⟩, ⟨leaf, ?_, decimals⟩⟩
    · intro key inRequired
      obtain ⟨text, shape⟩ := formed.leaves key inRequired
      rw [shape]
      rfl
    · intro key inNumbers node found
      rw [getUInt16_of_decimal (decimals key inNumbers node found)]
      rfl
    · intro node found
      obtain ⟨text, shape, accepted⟩ := formed.dateTime
      obtain rfl := Option.some.inj (shape.symm.trans found)
      exact accepted
  · rintro ⟨complete, plain⟩
    have leaf :
        ∀ key ∈ codec.required,
          ∃ text, json.find key = some (.leaf text) := by
      intro key inRequired
      obtain ⟨⟨data, children⟩, found⟩ :=
        Option.isSome_iff_exists.mp (complete.found key inRequired)
      have none : children = [] :=
        plain.childless key inRequired _ found
      exact ⟨data, by rw [found, none]; rfl⟩
    refine ⟨leaf, ?_, ?_⟩
    · obtain ⟨text, shape⟩ := leaf _ dated
      exact ⟨text, shape, plain.dateTime _ shape⟩
    · intro key inNumbers
      obtain ⟨text, shape⟩ := leaf key (listed key inNumbers)
      exact ⟨text, shape, plain.numbers key inNumbers _ shape⟩

/-- The tag and the object of an encoded message. -/
theorem extractFrom_toJson
    (codec : Codec S)
    (platform : Platform)
    (message : S) :
    extractFrom (codec.toJson platform message) =
      some (codec.TYPE, codec.subToJson platform message) := by
  unfold toJson
  generalize codec.subToJson platform message = obj
  rfl

/-- A message is preserved if its object is decoded to an equal message. -/
theorem RoundTrip.of_decoded
    {codec : Codec S}
    {platform : Platform}
    {message decoded : S}
    (decodes :
      codec.fromJson platform (codec.subToJson platform message) =
        .ok (some decoded))
    (fields : codec.SameFields decoded message)
    (time :
      platform.printTime (codec.dateTime decoded) =
        platform.printTime (codec.dateTime message))
    (object :
      codec.subToJson platform decoded =
        codec.subToJson platform message) :
    codec.RoundTrip platform message := by
  refine ⟨extractFrom_toJson codec platform message, decoded, decodes,
    fields, time, ?_⟩
  unfold toJson
  rw [object]

end Codec

/--
The printed time is read back, as a time that is printed the same; a fraction
that the text does not show may be lost.
-/
def Platform.ReadsBack
    (platform : Platform)
    (time : TimePoint) : Prop :=
  ∃ read,
    platform.parseTime (platform.printTime time) = some read ∧
      platform.printTime read = platform.printTime time

/-- The common parameters that `baseJson` writes are extracted again. -/
theorem Instance.extractCommonParams_printed
    {platform : Platform}
    {time read : TimePoint}
    (json : Tree)
    {sender : Bytes}
    (parsed : platform.parseTime (platform.printTime time) = some read)
    (hasTime :
      json.find PROPERTY_DATETIME =
        some (.leaf (platform.printTime time)))
    (hasSender : json.find PROPERTY_SENDER = some (.leaf sender)) :
    extractCommonParams platform json = .ok (read, sender) := by
  rw [extractCommonParams_of_find platform hasTime hasSender]
  change
    Except.ok
        ((platform.parseTime (platform.printTime time)).getD 0, sender) =
      _
  rw [parsed]
  rfl

/-- The common parameters are written the same for the same printed time. -/
theorem Instance.baseJson_printed
    {platform : Platform}
    {first second : TimePoint}
    (sender : Bytes)
    (printed : platform.printTime first = platform.printTime second) :
    baseJson platform first sender = baseJson platform second sender := by
  unfold baseJson
  rw [printed]

theorem requiredField_leaf
    {json : Tree}
    {key text : Bytes}
    (what : String)
    (found : json.find key = some (.leaf text)) :
    requiredField json key what = .ok text := by
  unfold requiredField
  rw [found]
  rfl

/-- The code that the encoder writes is extracted again. -/
theorem requiredCode_decimal
    {json : Tree}
    {code : ErrorCode}
    (found :
      json.find Response.Error.PROPERTY_CODE =
        some (.leaf (Response.Error.decimal code.value))) :
    requiredCode json = .ok code := by
  unfold requiredCode
  rw [found]
  change
    (match getUInt16 (Response.Error.decimal code.value) with
      | none => _
      | some value => Except.ok (ErrorCode.mk value)) = _
  rw [getUInt16_decimal]

/-- Every class decodes its own encoding. -/
theorem Request.Login.round_trip
    {platform : Platform}
    (message : Request.Login)
    (readsBack : platform.ReadsBack message.dateTime) :
    MessageClass.requestLogin.codec.RoundTrip platform message := by
  obtain ⟨read, parsed, printed⟩ := readsBack
  have params :=
    extractCommonParams_printed
      (message.subToJson platform) parsed rfl rfl
  have decodes :
      fromJson platform (message.subToJson platform) =
        .ok (some ⟨read, message.sender⟩) := by
    unfold fromJson
    rw [params]
  exact .of_decoded decodes rfl printed
    (baseJson_printed message.sender printed)

theorem Request.Message.round_trip
    {platform : Platform}
    (message : Request.Message)
    (readsBack : platform.ReadsBack message.dateTime) :
    MessageClass.requestMessage.codec.RoundTrip platform message := by
  obtain ⟨read, parsed, printed⟩ := readsBack
  have params :=
    extractCommonParams_printed
      (message.subToJson platform) parsed rfl rfl
  have content :
      (message.subToJson platform).find PROPERTY_CONTENT =
        some (.leaf message.content) :=
    rfl
  have decodes :
      fromJson platform (message.subToJson platform) =
        .ok (some ⟨read, message.sender, message.content⟩) := by
    unfold fromJson
    rw [params]
    dsimp only
    rw [content]
    rfl
  exact .of_decoded decodes ⟨rfl, rfl⟩ printed
    (congrArg (fun json : Tree => json.put PROPERTY_CONTENT message.content)
      (baseJson_printed message.sender printed))

/-- The decoded sender is the one that the override of `sender()` wrote. -/
theorem Response.Login.round_trip
    {platform : Platform}
    (message : Response.Login)
    (readsBack : platform.ReadsBack message.dateTime) :
    MessageClass.responseLogin.codec.RoundTrip platform message := by
  obtain ⟨read, parsed, printed⟩ := readsBack
  have params :=
    extractCommonParams_printed
      (message.subToJson platform) parsed rfl rfl
  have joining :=
    requiredField_leaf "Can not get joining username from JSON"
      (show (message.subToJson platform).find
          PROPERTY_JOINING_USERNAME =
        some (.leaf message.joiningUsername) from rfl)
  have decodes :
      fromJson platform (message.subToJson platform) =
        .ok (some ⟨read, SERVER_SENDER, message.joiningUsername⟩) := by
    unfold fromJson
    rw [params, joining]
    rfl
  exact .of_decoded decodes ⟨rfl, rfl⟩ printed
    (congrArg
      (fun json : Tree =>
        json.put PROPERTY_JOINING_USERNAME message.joiningUsername)
      (baseJson_printed SERVER_SENDER printed))

theorem Response.Message.round_trip
    {platform : Platform}
    (message : Response.Message)
    (readsBack : platform.ReadsBack message.dateTime) :
    MessageClass.responseMessage.codec.RoundTrip platform message := by
  obtain ⟨read, parsed, printed⟩ := readsBack
  have params :=
    extractCommonParams_printed
      (message.subToJson platform) parsed rfl rfl
  have content :=
    requiredField_leaf "Could not get message."
      (show (message.subToJson platform).find PROPERTY_CONTENT =
        some (.leaf message.content) from rfl)
  have originator :=
    requiredField_leaf "Could not get originator."
      (show (message.subToJson platform).find PROPERTY_ORIGINATOR =
        some (.leaf message.originator) from rfl)
  have decodes :
      fromJson platform (message.subToJson platform) =
        .ok
          (some
            ⟨read, message.sender, message.originator,
              message.content⟩) := by
    unfold fromJson
    rw [params, content, originator]
    rfl
  exact .of_decoded decodes ⟨rfl, rfl, rfl⟩ printed
    (congrArg
      (fun json : Tree =>
        (json.put PROPERTY_ORIGINATOR message.originator).put
          PROPERTY_CONTENT message.content)
      (baseJson_printed message.sender printed))

theorem Response.Error.round_trip
    {platform : Platform}
    (message : Response.Error)
    (readsBack : platform.ReadsBack message.dateTime) :
    MessageClass.responseError.codec.RoundTrip platform message := by
  obtain ⟨read, parsed, printed⟩ := readsBack
  have params :=
    extractCommonParams_printed
      (message.subToJson platform) parsed rfl rfl
  have code :=
    requiredCode_decimal
      (show (message.subToJson platform).find PROPERTY_CODE =
        some (.leaf (decimal message.code.value)) from rfl)
  have text :=
    requiredField_leaf "Can not get message from JSON"
      (show (message.subToJson platform).find PROPERTY_MESSAGE =
        some (.leaf message.message) from rfl)
  have originator :=
    requiredField_leaf "Can not get originator from JSON"
      (show (message.subToJson platform).find PROPERTY_ORIGINATOR =
        some (.leaf message.originator) from rfl)
  have decodes :
      fromJson platform (message.subToJson platform) =
        .ok
          (some
            ⟨read, message.sender, message.originator, message.code,
              message.message⟩) := by
    unfold fromJson
    rw [params, code, text, originator]
    rfl
  exact .of_decoded decodes ⟨rfl, rfl, rfl, rfl⟩ printed
    (congrArg
      (fun json : Tree =>
        ((json.put PROPERTY_CODE (decimal message.code.value)).put
          PROPERTY_MESSAGE message.message).put
            PROPERTY_ORIGINATOR message.originator)
      (baseJson_printed message.sender printed))

namespace MessageClass

/--
Encoded messages of every class are decoded to the same message, if their
printed time is read back.
-/
theorem codec_round_trip
    (platform : Platform)
    (cls : MessageClass)
    (message : cls.Object)
    (readsBack : platform.ReadsBack (cls.codec.dateTime message)) :
    cls.codec.RoundTrip platform message := by
  cases cls with
  | requestLogin =>
      exact Request.Login.round_trip message readsBack
  | requestMessage =>
      exact Request.Message.round_trip message readsBack
  | responseLogin =>
      exact Response.Login.round_trip message readsBack
  | responseMessage =>
      exact Response.Message.round_trip message readsBack
  | responseError =>
      exact Response.Error.round_trip message readsBack

/-- A time of the epoch is printed and read as the vendored code does. -/
def epochPlatform : Platform :=
  { Platform.reference with
    printTime := fun time =>
      if time = 0 then
        ascii "1970-01-01 00:00:00.000000 +0000"
      else
        ascii (toString time)
    parseTime := fun text =>
      if text = ascii "1970-01-01 00:00:00.000000 +0000" then
        some 0
      else
        none }

theorem codec_round_trip_error :
    MessageClass.responseError.codec.RoundTrip epochPlatform
      ⟨0, ascii "@server", ascii "", ⟨65535⟩, ascii "Username in use."⟩ :=
  codec_round_trip epochPlatform .responseError _ ⟨0, rfl, rfl⟩

end MessageClass

/-! ### What is decoded without being well formed -/

section Leniency

variable (platform : Platform) (json : Tree)

theorem Request.Login.decodes_iff :
    MessageClass.requestLogin.codec.Decodes platform json ↔
      MessageClass.requestLogin.codec.Complete json := by
  refine (fromJson_ok_iff platform json).trans ⟨?_, ?_⟩
  · rintro ⟨hasTime, hasSender⟩
    exact ⟨by simp [MessageClass.codec, hasTime, hasSender],
      by simp [MessageClass.codec]⟩
  · intro complete
    exact ⟨complete.found _ (by simp [MessageClass.codec]),
      complete.found _ (by simp [MessageClass.codec])⟩

theorem Request.Message.decodes_iff :
    MessageClass.requestMessage.codec.Decodes platform json ↔
      MessageClass.requestMessage.codec.Complete json := by
  refine (fromJson_ok_iff platform json).trans ⟨?_, ?_⟩
  · rintro ⟨⟨hasTime, hasSender⟩, hasContent⟩
    exact ⟨by simp [MessageClass.codec, hasTime, hasSender, hasContent],
      by simp [MessageClass.codec]⟩
  · intro complete
    exact ⟨⟨complete.found _ (by simp [MessageClass.codec]),
      complete.found _ (by simp [MessageClass.codec])⟩,
      complete.found _ (by simp [MessageClass.codec])⟩

theorem Response.Login.decodes_iff :
    MessageClass.responseLogin.codec.Decodes platform json ↔
      MessageClass.responseLogin.codec.Complete json := by
  have decodes :
      MessageClass.responseLogin.codec.Decodes platform json ↔
        (∃ params, extractCommonParams platform json = .ok params) ∧
          (∃ text,
            requiredField json PROPERTY_JOINING_USERNAME
              "Can not get joining username from JSON" = .ok text) ∧
          True :=
    bind_decodes_iff fun _ =>
      bind_decodes_iff fun _ =>
        iff_of_true ⟨_, rfl⟩ trivial
  rw [decodes, extractCommonParams_ok_iff, requiredField_ok_iff]
  constructor
  · rintro ⟨⟨hasTime, hasSender⟩, hasName, -⟩
    exact ⟨by simp [MessageClass.codec, hasTime, hasSender, hasName],
      by simp [MessageClass.codec]⟩
  · intro complete
    exact ⟨⟨complete.found _ (by simp [MessageClass.codec]),
      complete.found _ (by simp [MessageClass.codec])⟩,
      complete.found _ (by simp [MessageClass.codec]), trivial⟩

theorem Response.Message.decodes_iff :
    MessageClass.responseMessage.codec.Decodes platform json ↔
      MessageClass.responseMessage.codec.Complete json := by
  have decodes :
      MessageClass.responseMessage.codec.Decodes platform json ↔
        (∃ params, extractCommonParams platform json = .ok params) ∧
          (∃ text,
            requiredField json PROPERTY_CONTENT
              "Could not get message." = .ok text) ∧
          (∃ text,
            requiredField json PROPERTY_ORIGINATOR
              "Could not get originator." = .ok text) ∧
          True :=
    bind_decodes_iff fun _ =>
      bind_decodes_iff fun _ =>
        bind_decodes_iff fun _ =>
          iff_of_true ⟨_, rfl⟩ trivial
  rw [decodes, extractCommonParams_ok_iff, requiredField_ok_iff,
    requiredField_ok_iff]
  constructor
  · rintro ⟨⟨hasTime, hasSender⟩, hasContent, hasOriginator, -⟩
    exact ⟨by
        simp [MessageClass.codec, hasTime, hasSender, hasContent,
          hasOriginator],
      by simp [MessageClass.codec]⟩
  · intro complete
    exact ⟨⟨complete.found _ (by simp [MessageClass.codec]),
      complete.found _ (by simp [MessageClass.codec])⟩,
      complete.found _ (by simp [MessageClass.codec]),
      complete.found _ (by simp [MessageClass.codec]), trivial⟩

theorem Response.Error.decodes_iff :
    MessageClass.responseError.codec.Decodes platform json ↔
      MessageClass.responseError.codec.Complete json := by
  have decodes :
      MessageClass.responseError.codec.Decodes platform json ↔
        (∃ params, extractCommonParams platform json = .ok params) ∧
          (∃ code, requiredCode json = .ok code) ∧
          (∃ text,
            requiredField json PROPERTY_MESSAGE
              "Can not get message from JSON" = .ok text) ∧
          (∃ text,
            requiredField json PROPERTY_ORIGINATOR
              "Can not get originator from JSON" = .ok text) ∧
          True :=
    bind_decodes_iff fun _ =>
      bind_decodes_iff fun _ =>
        bind_decodes_iff fun _ =>
          bind_decodes_iff fun _ =>
            iff_of_true ⟨_, rfl⟩ trivial
  rw [decodes, extractCommonParams_ok_iff, requiredCode_ok_iff,
    requiredField_ok_iff, requiredField_ok_iff]
  constructor
  · rintro ⟨⟨hasTime, hasSender⟩, ⟨node, hasCode, extracted⟩,
      hasMessage, hasOriginator, -⟩
    refine ⟨by
        simp [MessageClass.codec, hasTime, hasSender, hasCode,
          hasMessage, hasOriginator], ?_⟩
    intro key isCode other found
    obtain rfl := List.mem_singleton.mp isCode
    obtain rfl := Option.some.inj (hasCode.symm.trans found)
    exact extracted
  · intro complete
    obtain ⟨node, hasCode⟩ :=
      Option.isSome_iff_exists.mp
        (complete.found PROPERTY_CODE (by simp [MessageClass.codec]))
    have extracted :=
      complete.extracted PROPERTY_CODE (by simp [MessageClass.codec])
        node hasCode
    exact ⟨⟨complete.found _ (by simp [MessageClass.codec]),
      complete.found _ (by simp [MessageClass.codec])⟩,
      ⟨node, hasCode, extracted⟩,
      complete.found _ (by simp [MessageClass.codec]),
      complete.found _ (by simp [MessageClass.codec]), trivial⟩

/-- Every class decodes exactly the complete objects. -/
theorem MessageClass.decodes_iff
    (cls : MessageClass) :
    cls.codec.Decodes platform json ↔ cls.codec.Complete json := by
  cases cls with
  | requestLogin =>
      exact Request.Login.decodes_iff platform json
  | requestMessage =>
      exact Request.Message.decodes_iff platform json
  | responseLogin =>
      exact Response.Login.decodes_iff platform json
  | responseMessage =>
      exact Response.Message.decodes_iff platform json
  | responseError =>
      exact Response.Error.decodes_iff platform json

/--
A decoder accepts exactly the well-formed objects, in the sense that it does so
for an object exactly if the object is plain as soon as it is complete.
-/
theorem MessageClass.decodes_wellFormed_iff
    (cls : MessageClass) :
    (cls.codec.Decodes platform json ↔
        cls.codec.WellFormed platform json) ↔
      (cls.codec.Complete json → cls.codec.Plain platform json) := by
  have dated : PROPERTY_DATETIME ∈ cls.codec.required := by
    cases cls <;> exact List.mem_cons_self ..
  have listed : ∀ key ∈ cls.codec.numbers, key ∈ cls.codec.required := by
    cases cls <;> simp [codec]
  rw [decodes_iff, Codec.wellFormed_iff dated listed]
  constructor
  · intro same complete
    exact (same.mp complete).2
  · intro plain
    exact ⟨fun complete => ⟨complete, plain complete⟩, And.left⟩

/-- A login whose time is no time is decoded with the time of the epoch. -/
theorem Request.Login.decodes_nonsense :
    let json : Tree :=
      .node []
        [(PROPERTY_DATETIME, .leaf (ascii "nonsense")),
          (PROPERTY_SENDER, .leaf (ascii "ann"))]
    fromJson MessageClass.epochPlatform json =
        .ok (some ⟨0, ascii "ann"⟩) ∧
      ¬ (MessageClass.requestLogin.codec.Decodes
            MessageClass.epochPlatform json ↔
          MessageClass.requestLogin.codec.WellFormed
            MessageClass.epochPlatform json) := by
  intro json
  have decoded :
      fromJson MessageClass.epochPlatform json =
        .ok (some ⟨0, ascii "ann"⟩) := by
    decide
  refine ⟨decoded, ?_⟩
  intro same
  obtain ⟨text, found, accepted⟩ := (same.mp ⟨_, decoded⟩).dateTime
  obtain rfl : ascii "nonsense" = text := by
    simpa [json, PropertyTree.find, PropertyTree.lookup,
      PropertyTree.children, PropertyTree.leaf] using found
  exact absurd accepted (by decide)

end Leniency

end ChatRelay
