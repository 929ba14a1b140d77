import Mathlib.Data.List.Basic
import ChatRelay.MessageInstance

namespace ChatRelay.Client

/-!
# The reader thread of the client

`ResponseThread` reads up to 2048 bytes at a time and hands each read to the
visitor as one JSON text.  The visitor knows login and message responses; for
anything else it throws `IllegalStateException`, on which the thread takes the
text apart by hand as a server error.  Any other exception ends the thread.

Java strings are represented by their UTF-8 bytes and a `null` by `none`.
-/

/-- The exceptions that can occur between a read and the visitor's callback. -/
inductive JavaException where
  | ClassCastException : JavaException
  | IllegalArgumentException : JavaException
  | IllegalStateException : JavaException
  | IOException : JavaException
  | JsonSyntaxException : JavaException
  | NullPointerException : JavaException
  | NumberFormatException : JavaException
  | StringIndexOutOfBoundsException : JavaException
  | UnsupportedOperationException : JavaException
  deriving Repr, DecidableEq

/-- Gson's parse tree. -/
inductive JsonElement where
  | JsonNull : JsonElement
  | JsonPrimitive (string : Bytes) : JsonElement
  | JsonArray (elements : List JsonElement) : JsonElement
  | JsonObject (members : List (Bytes × JsonElement)) : JsonElement

/-- The members of a `JsonObject`. -/
abbrev JsonMembers :=
  List (Bytes × JsonElement)

/--
What the client takes from its libraries: the parser, applied to the decoded
bytes of a read, which returns `null` for a blank text; the parser of
`DATETIME_FORMAT`; and which other classes a type tag can name.
-/
structure ClientPlatform (DateTime : Type) where
  fromJson : Bytes → Except JavaException (Option JsonMembers)
  parseDateTime : Bytes → Option DateTime
  otherClass : Bytes → Bool

/-- `ca.uwo.eng.se3313.lab4.network.ErrorCode` -/
inductive ClientErrorCode where
  | INVALID_REQUEST_FROM_CLIENT : ClientErrorCode
  | USER_NAME_IN_USE : ClientErrorCode
  | INVALID_USER_NAME : ClientErrorCode
  | MALFORMED_REQUEST_UNKNWN : ClientErrorCode
  | MALFORMED_REQUEST_NO_TYPE : ClientErrorCode
  | MALFORMED_REQUEST_UNKNOWN_TYPE : ClientErrorCode
  | MALFORMED_REQUEST_BAD_OBJECT_DEF : ClientErrorCode
  | MALFORMED_REQUEST_NO_OBJ : ClientErrorCode
  deriving Repr, DecidableEq

namespace ClientErrorCode

def CODE : ClientErrorCode → Int
  | INVALID_REQUEST_FROM_CLIENT => 50
  | USER_NAME_IN_USE => 1
  | INVALID_USER_NAME => 2
  | MALFORMED_REQUEST_UNKNWN => 200
  | MALFORMED_REQUEST_NO_TYPE => 201
  | MALFORMED_REQUEST_UNKNOWN_TYPE => 202
  | MALFORMED_REQUEST_BAD_OBJECT_DEF => 203
  | MALFORMED_REQUEST_NO_OBJ => 210

def values : List ClientErrorCode :=
  [INVALID_REQUEST_FROM_CLIENT, USER_NAME_IN_USE, INVALID_USER_NAME,
    MALFORMED_REQUEST_UNKNWN, MALFORMED_REQUEST_NO_TYPE,
    MALFORMED_REQUEST_UNKNOWN_TYPE, MALFORMED_REQUEST_BAD_OBJECT_DEF,
    MALFORMED_REQUEST_NO_OBJ]

/-- `ErrorCode.fromCCode` -/
def fromCCode (code : Int) : Except JavaException ClientErrorCode :=
  match values.find? fun ec => ec.CODE == code with
  | none =>
      .error .IllegalArgumentException
  | some ec =>
      .ok ec

/-- A code is found exactly under its own number. -/
theorem fromCCode_eq_ok
    {code : Int}
    {ec : ClientErrorCode} :
    fromCCode code = .ok ec ↔ ec.CODE = code := by
  constructor
  · intro found
    unfold fromCCode at found
    cases search : values.find? fun ec => ec.CODE == code with
    | none =>
        simp [search] at found
    | some other =>
        have matched := List.find?_some search
        simp only [search, Except.ok.injEq] at found
        rw [← found]
        exact eq_of_beq matched
  · rintro rfl
    cases ec <;> rfl

end ClientErrorCode

/-- `LoginResponse`; Gson leaves a field that the text does not have at null. -/
structure LoginResponse (DateTime : Type) where
  mDateTime : Option DateTime
  mSender : Option Bytes
  mJoiningUsername : Option Bytes
  deriving Repr, DecidableEq

/-- `MessageResponse` -/
structure MessageResponse (DateTime : Type) where
  mDateTime : Option DateTime
  mSender : Option Bytes
  mContent : Option Bytes
  mOriginator : Option Bytes
  deriving Repr, DecidableEq

/-- `ServerError` -/
structure ServerError (DateTime : Type) where
  mDateTime : DateTime
  mSender : Bytes
  mCode : ClientErrorCode
  mMessage : Bytes
  deriving Repr, DecidableEq

/-- A call of the response visitor. -/
inductive ResponseCallback (DateTime : Type) where
  | visitLogin :
      LoginResponse DateTime → ResponseCallback DateTime
  | visitMessage :
      MessageResponse DateTime → ResponseCallback DateTime
  | visitError :
      ServerError DateTime → ResponseCallback DateTime
  deriving Repr, DecidableEq

/-- `JsonObject::get`; the keys of an object are distinct. -/
def get
    (members : JsonMembers)
    (name : Bytes) :
    Option JsonElement :=
  (members.find? fun entry => entry.1 == name).map Prod.snd

/-- `JsonElement::getAsString` -/
def JsonElement.getAsString :
    JsonElement → Except JavaException Bytes
  | JsonPrimitive string =>
      .ok string
  | JsonArray [element] =>
      element.getAsString
  | JsonArray _ =>
      .error .IllegalStateException
  | JsonNull =>
      .error .UnsupportedOperationException
  | JsonObject _ =>
      .error .UnsupportedOperationException

/-- `get(name).getAsString()` -/
def getString
    (members : JsonMembers)
    (name : Bytes) :
    Except JavaException Bytes :=
  match get members name with
  | none =>
      .error .NullPointerException
  | some element =>
      element.getAsString

/-- The digits behind the sign, if they are digits and the number fits. -/
def parseDigits
    (sign : Int)
    (digits : Bytes) :
    Except JavaException Int :=
  let value :=
    sign *
      Nat.ofDigitChars 10
        (digits.map fun byte => Char.ofNat byte.toNat) 0
  if digits = [] then
    .error .NumberFormatException
  else if ∃ byte ∈ digits, byte < 0x30 ∨ 0x39 < byte then
    .error .NumberFormatException
  else if value < -2147483648 ∨ 2147483647 < value then
    .error .NumberFormatException
  else
    .ok value

/-- `Integer.parseInt` on a string of ASCII characters. -/
def parseInt : Bytes → Except JavaException Int
  | 0x2D :: digits =>
      parseDigits (-1) digits
  | 0x2B :: digits =>
      parseDigits 1 digits
  | digits =>
      parseDigits 1 digits

/-- The number that the server writes is read back. -/
theorem parseInt_decimal
    (value : UInt16) :
    parseInt (Response.Error.decimal value) = .ok value.toNat := by
  obtain ⟨nonempty, digits, restored⟩ :=
    Response.Error.decimal_digits value
  have inRange :
      ∀ byte ∈ Response.Error.decimal value,
        ¬ (byte < 0x30 ∨ 0x39 < byte) := by
    intro byte inBytes
    rw [not_or, UInt8.not_lt, UInt8.not_lt]
    exact digits byte inBytes
  have parsed :
      parseDigits 1 (Response.Error.decimal value) =
        .ok value.toNat := by
    have small := value.toNat_lt
    unfold parseDigits
    rw [restored, Nat.ofDigitChars_ten_toDigits, if_neg nonempty,
      if_neg, if_neg]
    · simp
    · omega
    · rintro ⟨byte, inBytes, outside⟩
      exact inRange byte inBytes outside
  obtain ⟨first, others, shape⟩ :=
    List.exists_cons_of_ne_nil nonempty
  rw [shape] at parsed inRange ⊢
  have firstInRange := inRange first (List.mem_cons_self ..)
  unfold parseInt
  split
  · rename_i isMinus
    rw [(List.cons.inj isMinus).1] at firstInRange
    exact absurd (Or.inl (by decide)) firstInRange
  · rename_i isPlus
    rw [(List.cons.inj isPlus).1] at firstInRange
    exact absurd (Or.inl (by decide)) firstInRange
  · exact parsed

/-- Gson's adapter of a `String` field. -/
def readString
    (members : JsonMembers)
    (name : Bytes) :
    Except JavaException (Option Bytes) :=
  match get members name with
  | none =>
      .ok none
  | some .JsonNull =>
      .ok none
  | some (.JsonPrimitive string) =>
      .ok (some string)
  | some _ =>
      .error .JsonSyntaxException

section Visitor

variable {DateTime : Type} (platform : ClientPlatform DateTime)

/-- `DateTimeTypeConverter::deserialize` on a field. -/
def readDateTime
    (members : JsonMembers)
    (name : Bytes) :
    Except JavaException (Option DateTime) :=
  match get members name with
  | none =>
      .ok none
  | some .JsonNull =>
      .ok none
  | some element =>
      match element.getAsString with
      | .error .IllegalStateException =>
          .error .JsonSyntaxException
      | .error exception =>
          .error exception
      | .ok dateString =>
          match platform.parseDateTime dateString with
          | none =>
              .error .IllegalArgumentException
          | some dateTime =>
              .ok (some dateTime)

/-- A date that is a string is read by the client's format. -/
theorem readDateTime_primitive
    {members : JsonMembers}
    {name string : Bytes}
    (found : get members name = some (.JsonPrimitive string)) :
    readDateTime platform members name =
      match platform.parseDateTime string with
      | none =>
          .error .IllegalArgumentException
      | some dateTime =>
          .ok (some dateTime) := by
  unfold readDateTime
  rw [found]
  rfl

/-- `mGson.fromJson(jsonObject, LoginResponse.class)` on an object. -/
def readLoginResponse
    (members : JsonMembers) :
    Except JavaException (LoginResponse DateTime) := do
  let mDateTime ← readDateTime platform members (ascii "datetime")
  let mSender ← readString members (ascii "sender")
  let mJoiningUsername ← readString members (ascii "joiningUsername")
  return { mDateTime, mSender, mJoiningUsername }

/-- `mGson.fromJson(jsonObject, MessageResponse.class)` on an object. -/
def readMessageResponse
    (members : JsonMembers) :
    Except JavaException (MessageResponse DateTime) := do
  let mDateTime ← readDateTime platform members (ascii "datetime")
  let mSender ← readString members (ascii "sender")
  let mContent ← readString members (ascii "content")
  let mOriginator ← readString members (ascii "originator")
  return { mDateTime, mSender, mContent, mOriginator }

/-- The members of what Gson turns into an object of a response class. -/
def asObject :
    Option JsonElement → Except JavaException JsonMembers
  | some (.JsonObject members) =>
      .ok members
  | some .JsonNull =>
      .error .NullPointerException
  | none =>
      .error .NullPointerException
  | some _ =>
      .error .JsonSyntaxException

/-- Whether `Class.forName` finds a class. -/
def forName (typeStr : Bytes) : Bool :=
  typeStr == Response.Login.TYPE ||
    typeStr == Response.Message.TYPE ||
    typeStr == Response.Error.TYPE ||
    platform.otherClass typeStr

/--
`AbstractResponseVisitor::visit`.  A visit method that is handed a null throws
`NullPointerException`.
-/
def visit
    (json : Bytes) :
    Except JavaException (ResponseCallback DateTime) := do
  match ← platform.fromJson json with
  | none =>
      throw .NullPointerException
  | some obj =>
      let typeStr ← getString obj (ascii "type")
      if !forName platform typeStr then
        throw .IllegalArgumentException
      else if typeStr = Response.Login.TYPE then
        let members ← asObject (get obj (ascii "object"))
        return .visitLogin (← readLoginResponse platform members)
      else if typeStr = Response.Message.TYPE then
        let members ← asObject (get obj (ascii "object"))
        return .visitMessage (← readMessageResponse platform members)
      else
        throw .IllegalStateException

/-- `result.getAsJsonObject("object")`, dereferenced. -/
def getAsJsonObject
    (members : JsonMembers)
    (name : Bytes) :
    Except JavaException JsonMembers :=
  match get members name with
  | some (.JsonObject inner) =>
      .ok inner
  | none =>
      .error .NullPointerException
  | some _ =>
      .error .ClassCastException

/-- The handler of `IllegalStateException` in `run`. -/
def visitErrorManually
    (content : Bytes)
    (now : DateTime) :
    Except JavaException (ResponseCallback DateTime) := do
  match ← platform.fromJson content with
  | none =>
      throw .NullPointerException
  | some result =>
      let object ← getAsJsonObject result (ascii "object")
      let message ← getString object (ascii "message")
      let code ← parseInt (← getString object (ascii "code"))
      let mCode ← ClientErrorCode.fromCCode code
      return .visitError
        { mDateTime := now
          mSender := ascii "@server"
          mCode := mCode
          mMessage := message }

/-- What `run` does with the text of one read. -/
def visitContent
    (content : Bytes)
    (now : DateTime) :
    Except JavaException (ResponseCallback DateTime) :=
  match visit platform content with
  | .error .IllegalStateException =>
      visitErrorManually platform content now
  | outcome =>
      outcome

end Visitor

/-- One pass of the loop: it ends, or the read returns something. -/
inductive ReadOutcome (DateTime : Type) where
  | data (bytes : Bytes) (now : DateTime) : ReadOutcome DateTime
  | timeout : ReadOutcome DateTime
  | endOfStream : ReadOutcome DateTime
  | failed : ReadOutcome DateTime
  | killed : ReadOutcome DateTime
  deriving Repr, DecidableEq

/--
`ResponseThread::run`: the calls of the visitor and the exception that ended
the thread, if one did.
-/
def run
    {DateTime : Type}
    (platform : ClientPlatform DateTime) :
    List (ReadOutcome DateTime) →
      List (ResponseCallback DateTime) × Option JavaException
  | [] =>
      ([], none)
  | .killed :: _ =>
      ([], none)
  | .timeout :: rest =>
      run platform rest
  | .endOfStream :: _ =>
      ([], some .StringIndexOutOfBoundsException)
  | .failed :: _ =>
      ([], some .IOException)
  | .data content now :: rest =>
      if content.length > 0 then
        match visitContent platform content now with
        | .error exception =>
            ([], some exception)
        | .ok callback =>
            let (callbacks, exception) := run platform rest
            (callback :: callbacks, exception)
      else
        run platform rest

end ChatRelay.Client
