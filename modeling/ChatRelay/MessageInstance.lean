import Mathlib.Data.List.Basic
import ChatRelay.TaggedText

namespace ChatRelay

/-!
# Messages and their trees

The message classes of the server: the two requests it decodes and the three
responses it builds.  Every message is encoded as a tree with a type tag and an
object; the object holds the common parameters `datetime` and `sender` followed
by the fields of the class.

The JSON reader and writer of Boost and the vendored time formatting are
parameters, collected in `Platform`.  A `none` stands for the exception or the
failed stream that the library reports.
-/

open JsonText (Tree)

/-- What escapes from a C++ function instead of a return value. -/
inductive Fault where
  | jsonParserError : Fault
  | runtimeError : String → Fault
  | badPath : String → Fault
  | nullPointer : Fault
  deriving Repr, DecidableEq

/-- A point of the system clock. -/
abbrev TimePoint :=
  Int

/-- The library functions that the message layer calls. -/
structure Platform where
  read_json : Bytes → Option Tree
  write_json : Tree → Bool → Option Bytes
  printTime : TimePoint → Bytes
  parseTime : Bytes → Option TimePoint

/-- `enum class ErrorCode: uint16_t`; a cast may produce any value. -/
structure ErrorCode where
  value : UInt16
  deriving Repr, DecidableEq

namespace ErrorCode

def INVALID_REQUEST_FROM_CLIENT : ErrorCode := ⟨50⟩
def USER_NAME_IN_USE : ErrorCode := ⟨1⟩
def MALFORMED_REQUEST_NO_TYPE : ErrorCode := ⟨201⟩
def MALFORMED_REQUEST_UNKNOWN_TYPE : ErrorCode := ⟨202⟩
def MALFORMED_REQUEST_BAD_OBJECT_DEF : ErrorCode := ⟨203⟩
def MALFORMED_REQUEST_NO_OBJ : ErrorCode := ⟨210⟩

end ErrorCode

namespace Instance

def PROPERTY_TYPE : Bytes := ascii "type"
def PROPERTY_OBJECT : Bytes := ascii "object"
def PROPERTY_SENDER : Bytes := ascii "sender"
def PROPERTY_DATETIME : Bytes := ascii "datetime"
def SERVER_SENDER : Bytes := ascii "@server"
def UNKNOWN_SENDER : Bytes := ascii "@unknown"

/-- `abstract_instance::baseJson`. -/
def baseJson
    (platform : Platform)
    (dateTime : TimePoint)
    (sender : Bytes) :
    Tree :=
  let json : Tree := PropertyTree.empty
  let json := json.put PROPERTY_DATETIME (platform.printTime dateTime)
  json.put PROPERTY_SENDER sender

/-- `abstract_instance::toJson` for a class with a given tag and object. -/
def toJson
    (type : Bytes)
    (subToJson : Tree) :
    Tree :=
  let json : Tree := PropertyTree.empty
  let json := json.put PROPERTY_TYPE type
  json.putChild PROPERTY_OBJECT subToJson

/-- `instance::extractFrom`: the type tag and the object of a tree. -/
def extractFrom (json : Tree) : Option (Bytes × Tree) :=
  let type_prop_it := json.find PROPERTY_TYPE
  let obj_prop_it := json.find PROPERTY_OBJECT
  match type_prop_it with
  | none =>
      none
  | some typeNode =>
      match obj_prop_it with
      | none =>
          none
      | some obj =>
          some (typeNode.data, obj)

/--
The error branches of the decoders: the tree is dumped to `std::cerr`, which
throws by itself when the tree has no JSON text, and then the error is thrown.
-/
def dumpAndThrow
    (platform : Platform)
    (json : Tree)
    (what : String) :
    Fault :=
  match platform.write_json json true with
  | none =>
      .jsonParserError
  | some _ =>
      .runtimeError what

/--
`abstract_instance::extractCommonParams`.  The time is extracted through a
stream whose failure is not looked at: the caller's default-constructed time
point stays as it is.
-/
def extractCommonParams
    (platform : Platform)
    (json : Tree) :
    Except Fault (TimePoint × Bytes) :=
  match json.find PROPERTY_DATETIME with
  | none =>
      .error (dumpAndThrow platform json "Could not get datetime property.")
  | some timeNode =>
      match json.find PROPERTY_SENDER with
      | none =>
          .error (dumpAndThrow platform json "Could not get sender property.")
      | some _ =>
          let time :=
            match platform.parseTime timeNode.data with
            | none =>
                0
            | some parsed =>
                parsed
          match json.get [PROPERTY_SENDER] with
          | none =>
              .error (.badPath "sender")
          | some sender =>
              .ok (time, sender)

/-- The common parameters of a tree that has both keys. -/
theorem extractCommonParams_of_find
    (platform : Platform)
    {json timeNode senderNode : Tree}
    (hasTime : json.find PROPERTY_DATETIME = some timeNode)
    (hasSender : json.find PROPERTY_SENDER = some senderNode) :
    extractCommonParams platform json =
      .ok ((platform.parseTime timeNode.data).getD 0,
        senderNode.data) := by
  unfold extractCommonParams
  rw [PropertyTree.get_singleton, hasTime, hasSender]
  simp only [Option.map_some]
  cases platform.parseTime timeNode.data with
  | none =>
      rfl
  | some parsed =>
      rfl

/-- The common parameters are there exactly if both keys are. -/
theorem extractCommonParams_ok_iff
    (platform : Platform)
    (json : Tree) :
    (∃ params, extractCommonParams platform json = .ok params) ↔
      (json.find PROPERTY_DATETIME).isSome ∧
        (json.find PROPERTY_SENDER).isSome := by
  unfold extractCommonParams
  cases json.find PROPERTY_DATETIME with
  | none =>
      simp
  | some timeNode =>
      rw [PropertyTree.get_singleton]
      cases json.find PROPERTY_SENDER with
      | none =>
          simp
      | some senderNode =>
          simp

end Instance

open Instance

namespace Request

/-- `request::login`. -/
structure Login where
  dateTime : TimePoint
  sender : Bytes
  deriving Repr, DecidableEq

/-- `request::message`. -/
structure Message where
  dateTime : TimePoint
  sender : Bytes
  content : Bytes
  deriving Repr, DecidableEq

namespace Login

def TYPE : Bytes :=
  ascii "ca.uwo.eng.se3313.lab4.network.request.LoginRequest"

/-- `request::login::fromJson`; the pointer it returns is never null. -/
def fromJson
    (platform : Platform)
    (json : Tree) :
    Except Fault (Option Login) :=
  match extractCommonParams platform json with
  | .error fault =>
      .error fault
  | .ok (dateTime, sender) =>
      .ok (some ⟨dateTime, sender⟩)

/-- A login is decoded exactly if it has the common parameters. -/
theorem fromJson_ok_iff
    (platform : Platform)
    (json : Tree) :
    (∃ login, fromJson platform json = .ok (some login)) ↔
      (json.find PROPERTY_DATETIME).isSome ∧
        (json.find PROPERTY_SENDER).isSome := by
  rw [← extractCommonParams_ok_iff platform]
  unfold fromJson
  cases extractCommonParams platform json with
  | error fault =>
      simp
  | ok params =>
      simp

/-- `request::login::subToJson` -/
def subToJson
    (platform : Platform)
    (login : Login) :
    Tree :=
  baseJson platform login.dateTime login.sender

end Login

namespace Message

def TYPE : Bytes :=
  ascii "ca.uwo.eng.se3313.lab4.network.request.MessageRequest"

def PROPERTY_CONTENT : Bytes := ascii "content"

/-- `request::message::fromJson`; the pointer it returns is never null. -/
def fromJson
    (platform : Platform)
    (json : Tree) :
    Except Fault (Option Message) :=
  match extractCommonParams platform json with
  | .error fault =>
      .error fault
  | .ok (dateTime, sender) =>
      match json.find PROPERTY_CONTENT with
      | none =>
          .error (.runtimeError "Could not get message")
      | some contentNode =>
          .ok (some ⟨dateTime, sender, contentNode.data⟩)

/-- A message is decoded exactly if it has a content as well. -/
theorem fromJson_ok_iff
    (platform : Platform)
    (json : Tree) :
    (∃ message, fromJson platform json = .ok (some message)) ↔
      ((json.find PROPERTY_DATETIME).isSome ∧
        (json.find PROPERTY_SENDER).isSome) ∧
        (json.find PROPERTY_CONTENT).isSome := by
  rw [← extractCommonParams_ok_iff platform]
  unfold fromJson
  cases extractCommonParams platform json with
  | error fault =>
      simp
  | ok params =>
      cases json.find PROPERTY_CONTENT with
      | none =>
          simp
      | some contentNode =>
          simp

/-- `request::message::subToJson` -/
def subToJson
    (platform : Platform)
    (message : Message) :
    Tree :=
  (baseJson platform message.dateTime message.sender).put
    PROPERTY_CONTENT message.content

end Message

end Request

/-- A request that a client can make. -/
inductive Request where
  | login : Request.Login → Request
  | message : Request.Message → Request
  deriving Repr, DecidableEq

/-- The tree of a tag and an object with the given fields. -/
def Instance.tagged
    (type : Bytes)
    (fields : List (Bytes × Bytes)) :
    Tree :=
  .node []
    [(PROPERTY_TYPE, .leaf type),
      (PROPERTY_OBJECT,
        .node [] (fields.map fun field => (field.1, .leaf field.2)))]

namespace Request

/-- The static `TYPE` of the object's class. -/
def type : Request → Bytes
  | .login _ => Login.TYPE
  | .message _ => Message.TYPE

/-- The virtual `subToJson`. -/
def subToJson (platform : Platform) : Request → Tree
  | .login request => request.subToJson platform
  | .message request => request.subToJson platform

/-- The virtual `toJson`. -/
def toJson
    (platform : Platform)
    (request : Request) :
    Tree :=
  Instance.toJson request.type (request.subToJson platform)

end Request

namespace Response

/-- `response::login`. -/
structure Login where
  dateTime : TimePoint
  _sender : Bytes
  joiningUsername : Bytes
  deriving Repr, DecidableEq

/-- `response::message`. -/
structure Message where
  dateTime : TimePoint
  sender : Bytes
  originator : Bytes
  content : Bytes
  deriving Repr, DecidableEq

/-- `response::error`. -/
structure Error where
  dateTime : TimePoint
  sender : Bytes
  originator : Bytes
  code : ErrorCode
  message : Bytes
  deriving Repr, DecidableEq

namespace Login

def TYPE : Bytes :=
  ascii "ca.uwo.eng.se3313.lab4.network.response.LoginResponse"

def PROPERTY_JOINING_USERNAME : Bytes := ascii "joiningUsername"

/-- The constructor from a username, with the current time. -/
def ofUsername
    (now : TimePoint)
    (username : Bytes) :
    Login :=
  ⟨now, SERVER_SENDER, username⟩

/-- The override of `sender()`: the stored sender is not used. -/
def sender (_ : Login) : Bytes :=
  SERVER_SENDER

def subToJson
    (platform : Platform)
    (login : Login) :
    Tree :=
  (baseJson platform login.dateTime login.sender).put
    PROPERTY_JOINING_USERNAME login.joiningUsername

end Login

namespace Message

def TYPE : Bytes :=
  ascii "ca.uwo.eng.se3313.lab4.network.response.MessageResponse"

def PROPERTY_CONTENT : Bytes := ascii "content"
def PROPERTY_ORIGINATOR : Bytes := ascii "originator"

/-- The constructor from originator and content, with the current time. -/
def ofContent
    (now : TimePoint)
    (originator content : Bytes) :
    Message :=
  ⟨now, SERVER_SENDER, originator, content⟩

def subToJson
    (platform : Platform)
    (message : Message) :
    Tree :=
  let json := baseJson platform message.dateTime message.sender
  let json := json.put PROPERTY_ORIGINATOR message.originator
  json.put PROPERTY_CONTENT message.content

end Message

namespace Error

def TYPE : Bytes :=
  ascii "ca.uwo.eng.se3313.lab4.network.response.ServerError"

def PROPERTY_CODE : Bytes := ascii "code"
def PROPERTY_MESSAGE : Bytes := ascii "message"
def PROPERTY_ORIGINATOR : Bytes := ascii "originator"

/-- The decimal digits that `put` writes for a `uint16_t`. -/
def decimal (value : UInt16) : Bytes :=
  (Nat.toDigits 10 value.toNat).map Char.toUInt8

/-- A digit is kept by the conversion to a byte and back. -/
theorem digit_byte
    {digit : Char}
    (isDigit : digit.isDigit = true) :
    Char.ofNat digit.toUInt8.toNat = digit ∧
      0x30 ≤ digit.toUInt8 ∧ digit.toUInt8 ≤ 0x39 := by
  obtain ⟨lower, upper⟩ : 48 ≤ digit.toNat ∧ digit.toNat ≤ 57 :=
    Char.isDigit_iff_toNat.mp isDigit
  have same : digit.toUInt8.toNat = digit.toNat :=
    (UInt32.toNat_toUInt8 digit.val).trans
      (Nat.mod_eq_of_lt (show digit.toNat < 2 ^ 8 by omega))
  rw [UInt8.le_iff_toNat_le, UInt8.le_iff_toNat_le, same,
    Char.ofNat_toNat]
  exact ⟨rfl, lower, upper⟩

/-- What is written for a number is a text of digits. -/
theorem decimal_digits
    (value : UInt16) :
    decimal value ≠ [] ∧
      (∀ byte ∈ decimal value, 0x30 ≤ byte ∧ byte ≤ 0x39) ∧
      (decimal value).map (fun byte => Char.ofNat byte.toNat) =
        Nat.toDigits 10 value.toNat := by
  have digit :
      ∀ char ∈ Nat.toDigits 10 value.toNat,
        Char.ofNat char.toUInt8.toNat = char ∧
          0x30 ≤ char.toUInt8 ∧ char.toUInt8 ≤ 0x39 :=
    fun char inDigits =>
      digit_byte
        (Nat.isDigit_of_mem_toDigits (by decide) (by decide) inDigits)
  refine ⟨?_, ?_, ?_⟩
  · simp [decimal, Nat.toDigits_ne_nil]
  · intro byte inBytes
    obtain ⟨char, inDigits, rfl⟩ := List.mem_map.mp inBytes
    exact (digit char inDigits).2
  · rw [decimal, List.map_map]
    exact (List.map_congr_left fun char inDigits =>
      (digit char inDigits).1).trans (List.map_id _)

def subToJson
    (platform : Platform)
    (error : Error) :
    Tree :=
  let json := baseJson platform error.dateTime error.sender
  let json := json.put PROPERTY_CODE (decimal error.code.value)
  let json := json.put PROPERTY_MESSAGE error.message
  json.put PROPERTY_ORIGINATOR error.originator

end Error

end Response

/-- What a `shared_ptr<msg::instance>` built by the server can point to. -/
inductive Response where
  | login : Response.Login → Response
  | message : Response.Message → Response
  | error : Response.Error → Response
  deriving Repr, DecidableEq

namespace Response

/-- The static `TYPE` of the object's class. -/
def type : Response → Bytes
  | .login _ => Login.TYPE
  | .message _ => Message.TYPE
  | .error _ => Error.TYPE

/-- The virtual `subToJson`. -/
def subToJson (platform : Platform) : Response → Tree
  | .login response => response.subToJson platform
  | .message response => response.subToJson platform
  | .error response => response.subToJson platform

/-- The virtual `toJson`. -/
def toJson
    (platform : Platform)
    (response : Response) :
    Tree :=
  Instance.toJson response.type (response.subToJson platform)

/-- The fields of the encoded object. -/
def fields (platform : Platform) : Response → List (Bytes × Bytes)
  | .login response =>
      [(PROPERTY_DATETIME, platform.printTime response.dateTime),
        (PROPERTY_SENDER, response.sender),
        (Login.PROPERTY_JOINING_USERNAME, response.joiningUsername)]
  | .message response =>
      [(PROPERTY_DATETIME, platform.printTime response.dateTime),
        (PROPERTY_SENDER, response.sender),
        (Message.PROPERTY_ORIGINATOR, response.originator),
        (Message.PROPERTY_CONTENT, response.content)]
  | .error response =>
      [(PROPERTY_DATETIME, platform.printTime response.dateTime),
        (PROPERTY_SENDER, response.sender),
        (Error.PROPERTY_CODE, Error.decimal response.code.value),
        (Error.PROPERTY_MESSAGE, response.message),
        (Error.PROPERTY_ORIGINATOR, response.originator)]

theorem toJson_eq_tagged
    (platform : Platform)
    (response : Response) :
    response.toJson platform =
      tagged response.type (response.fields platform) := by
  cases response <;> rfl

/-- The tag under `"type"` is the type of the encoded response. -/
theorem get_type
    (platform : Platform)
    (response : Response) :
    (response.toJson platform).get [PROPERTY_TYPE] =
      some response.type := by
  rw [toJson_eq_tagged]
  rfl

/-- The object of an encoded login response names the joining user. -/
theorem get_joiningUsername
    (platform : Platform)
    (response : Login) :
    ((login response).toJson platform).get
        [PROPERTY_OBJECT, Login.PROPERTY_JOINING_USERNAME] =
      some response.joiningUsername := by
  rw [toJson_eq_tagged]
  rfl

end Response

end ChatRelay
