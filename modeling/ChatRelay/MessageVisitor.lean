import Mathlib.Data.List.Basic
import ChatRelay.MessageJson

namespace ChatRelay

/-!
# The request visitor

`request::abstract_message_visitor::visit` extracts the type tag, looks it up
in the table of known types, decodes the object and calls one of three
callbacks.  It is generic in what the callbacks return; the visitor that merely
names its callback shows which call any other visitor receives.
-/

open JsonText (Tree)

/-- The three callbacks of a request visitor. -/
structure RequestVisitor (Result : Type) where
  visitLogin : Request.Login → Result
  visitMessage : Request.Message → Result
  error : Bytes → ErrorCode → Bytes → Result

/-- A callback together with its arguments. -/
inductive RequestCallback where
  | visitLogin : Request.Login → RequestCallback
  | visitMessage : Request.Message → RequestCallback
  | error : Bytes → ErrorCode → Bytes → RequestCallback
  deriving Repr, DecidableEq

namespace RequestVisitor

variable {Result : Type}

/-- Call one callback. -/
def call
    (visitor : RequestVisitor Result) :
    RequestCallback → Result
  | .visitLogin request =>
      visitor.visitLogin request
  | .visitMessage request =>
      visitor.visitMessage request
  | .error originator code message =>
      visitor.error originator code message

/-- The visitor that returns the callback it receives. -/
def naming : RequestVisitor RequestCallback where
  visitLogin := .visitLogin
  visitMessage := .visitMessage
  error := .error

/-- The `onError` function of the constructor. -/
def onError
    (platform : Platform)
    (visitor : RequestVisitor Result)
    (type : String)
    (json : Tree) :
    Except Fault Result :=
  match MessageJson.«to» platform json false with
  | .error fault =>
      .error fault
  | .ok text =>
      .ok
        (visitor.error Instance.UNKNOWN_SENDER
          ErrorCode.MALFORMED_REQUEST_BAD_OBJECT_DEF
          (ascii "Object was incorrectly defined for " ++
            ascii type ++ ascii ", json=" ++ text))

/-- The table from type tags to decoders that the constructor fills. -/
def propMap
    (platform : Platform)
    (visitor : RequestVisitor Result)
    (type : Bytes) :
    Option (Tree → Except Fault Result) :=
  if type = Request.Login.TYPE then
    some fun json =>
      match Request.Login.fromJson platform json with
      | .error fault =>
          .error fault
      | .ok (some oVal) =>
          .ok (visitor.visitLogin oVal)
      | .ok none =>
          visitor.onError platform "login" json
  else if type = Request.Message.TYPE then
    some fun json =>
      match Request.Message.fromJson platform json with
      | .error fault =>
          .error fault
      | .ok (some oVal) =>
          .ok (visitor.visitMessage oVal)
      | .ok none =>
          visitor.onError platform "message" json
  else
    none

/-- `request::abstract_message_visitor::visit`. -/
def visit
    (platform : Platform)
    (visitor : RequestVisitor Result)
    (json : Tree) :
    Except Fault Result :=
  match Instance.extractFrom json with
  | none =>
      match platform.write_json json false with
      | none =>
          .error .jsonParserError
      | some text =>
          .ok
            (visitor.error Instance.UNKNOWN_SENDER
              ErrorCode.MALFORMED_REQUEST_NO_TYPE
              (ascii "Invalid request specified (json=\"" ++
                text ++ ascii "\")"))
  | some (type, obj) =>
      match propMap platform visitor type with
      | some decoder =>
          decoder obj
      | none =>
          .ok
            (visitor.error Instance.UNKNOWN_SENDER
              ErrorCode.MALFORMED_REQUEST_NO_TYPE
              (ascii "Invalid object type tag specified (type=\"" ++
                type ++ ascii "\")"))

/-- Every visitor is called exactly as the naming visitor says. -/
theorem visit_eq_naming
    (platform : Platform)
    (visitor : RequestVisitor Result)
    (json : Tree) :
    visitor.visit platform json =
      (naming.visit platform json).map visitor.call := by
  unfold visit
  cases Instance.extractFrom json with
  | none =>
      cases platform.write_json json false <;> rfl
  | some parts =>
      rcases parts with ⟨type, obj⟩
      simp only [propMap]
      by_cases isLogin : type = Request.Login.TYPE
      · simp only [if_pos isLogin]
        cases Request.Login.fromJson platform obj with
        | error fault =>
            rfl
        | ok decoded =>
            cases decoded with
            | some request =>
                rfl
            | none =>
                simp only [onError]
                cases MessageJson.«to» platform obj false <;> rfl
      · by_cases isMessage : type = Request.Message.TYPE
        · simp only [if_neg isLogin, if_pos isMessage]
          cases Request.Message.fromJson platform obj with
          | error fault =>
              rfl
          | ok decoded =>
              cases decoded with
              | some request =>
                  rfl
              | none =>
                  simp only [onError]
                  cases MessageJson.«to» platform obj false <;> rfl
        · simp only [if_neg isLogin, if_neg isMessage]
          rfl

end RequestVisitor

/-- What one read of request bytes leads to: parse and visit, in sequence. -/
def visitBytes
    (platform : Platform)
    (contents : Bytes) :
    Except Fault RequestCallback :=
  match MessageJson.«from» platform contents with
  | .error fault =>
      .error fault
  | .ok parsedMsg =>
      RequestVisitor.naming.visit platform parsedMsg

/--
A tree that is a request: it has a known type tag and an object, and the object
has every field that its type requires.
-/
def RequestTree (json : Tree) : Prop :=
  ∃ typeNode,
    json.find Instance.PROPERTY_TYPE = some typeNode ∧
    ∃ obj,
      json.find Instance.PROPERTY_OBJECT = some obj ∧
      ((obj.find Instance.PROPERTY_DATETIME).isSome ∧
        (obj.find Instance.PROPERTY_SENDER).isSome) ∧
      (typeNode.data = Request.Login.TYPE ∨
        typeNode.data = Request.Message.TYPE ∧
          (obj.find Request.Message.PROPERTY_CONTENT).isSome)

/-- A text that parses to a request. -/
def WellFormedRequest
    (platform : Platform)
    (contents : Bytes) : Prop :=
  ∃ json,
    platform.read_json (MessageJson.clean contents) = some json ∧
      RequestTree json

namespace RequestVisitor

/-- The callback of the first type in the table. -/
theorem propMap_login
    (platform : Platform) :
    naming.propMap platform Request.Login.TYPE =
      some fun json =>
        match Request.Login.fromJson platform json with
        | .error fault =>
            .error fault
        | .ok (some oVal) =>
            .ok (.visitLogin oVal)
        | .ok none =>
            naming.onError platform "login" json :=
  if_pos rfl

/-- The callback of the second type in the table. -/
theorem propMap_message
    (platform : Platform) :
    naming.propMap platform Request.Message.TYPE =
      some fun json =>
        match Request.Message.fromJson platform json with
        | .error fault =>
            .error fault
        | .ok (some oVal) =>
            .ok (.visitMessage oVal)
        | .ok none =>
            naming.onError platform "message" json := by
  have different : Request.Message.TYPE ≠ Request.Login.TYPE := by
    decide
  unfold propMap
  rw [if_neg different, if_pos rfl]
  rfl

/-- A decoded login is visited. -/
theorem visit_login
    {platform : Platform}
    {json obj : Tree}
    {login : Request.Login}
    (extracted :
      Instance.extractFrom json = some (Request.Login.TYPE, obj))
    (decoded :
      Request.Login.fromJson platform obj = .ok (some login)) :
    naming.visit platform json = .ok (.visitLogin login) := by
  unfold visit
  simp only [extracted, propMap_login, decoded]

/-- A decoded message is visited. -/
theorem visit_message
    {platform : Platform}
    {json obj : Tree}
    {msg : Request.Message}
    (extracted :
      Instance.extractFrom json = some (Request.Message.TYPE, obj))
    (decoded :
      Request.Message.fromJson platform obj = .ok (some msg)) :
    naming.visit platform json = .ok (.visitMessage msg) := by
  unfold visit
  simp only [extracted, propMap_message, decoded]

/-- The error function never visits a request. -/
theorem onError_request
    (platform : Platform)
    (type : String)
    (json : Tree) :
    (∀ login,
      naming.onError platform type json ≠ .ok (.visitLogin login)) ∧
    ∀ msg,
      naming.onError platform type json ≠ .ok (.visitMessage msg) := by
  unfold onError
  cases MessageJson.«to» platform json false <;> simp [naming]

/-- A request is visited exactly if the tree is one. -/
theorem visit_request_iff
    (platform : Platform)
    (json : Tree) :
    ((∃ login, naming.visit platform json = .ok (.visitLogin login)) ∨
      ∃ msg, naming.visit platform json = .ok (.visitMessage msg)) ↔
      RequestTree json := by
  have different : Request.Message.TYPE ≠ Request.Login.TYPE := by
    decide
  unfold visit Instance.extractFrom RequestTree
  cases json.find Instance.PROPERTY_TYPE with
  | none =>
      cases platform.write_json json false <;> simp [naming]
  | some typeNode =>
      cases json.find Instance.PROPERTY_OBJECT with
      | none =>
          cases platform.write_json json false <;> simp [naming]
      | some obj =>
          simp only [Option.some.injEq, exists_eq_left']
          by_cases isLogin : typeNode.data = Request.Login.TYPE
          · rw [isLogin, propMap_login,
              ← Request.Login.fromJson_ok_iff platform]
            dsimp only
            cases Request.Login.fromJson platform obj with
            | error fault =>
                simp
            | ok decoded =>
                cases decoded with
                | none =>
                    simpa using onError_request platform "login" obj
                | some login =>
                    simp
          · by_cases isMessage : typeNode.data = Request.Message.TYPE
            · rw [isMessage, propMap_message]
              simp only [different, false_or, true_and]
              rw [← Request.Message.fromJson_ok_iff platform]
              cases Request.Message.fromJson platform obj with
              | error fault =>
                  simp
              | ok decoded =>
                  cases decoded with
                  | none =>
                      simpa using
                        onError_request platform "message" obj
                  | some msg =>
                      simp
            · simp [propMap, isLogin, isMessage, naming]

end RequestVisitor

/-- Exactly the well-formed requests lead to a visit of a request. -/
theorem wellFormedRequest_iff
    (platform : Platform)
    (contents : Bytes) :
    ((∃ login,
        visitBytes platform contents = .ok (.visitLogin login)) ∨
      ∃ msg,
        visitBytes platform contents = .ok (.visitMessage msg)) ↔
      WellFormedRequest platform contents := by
  unfold WellFormedRequest visitBytes MessageJson.«from»
  cases platform.read_json (MessageJson.clean contents) with
  | none =>
      simp
  | some json =>
      simp only [Option.some.injEq, exists_eq_left']
      exact RequestVisitor.visit_request_iff platform json

end ChatRelay
