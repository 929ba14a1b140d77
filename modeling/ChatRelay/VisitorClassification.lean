import Mathlib.Data.List.Basic
import ChatRelay.MessageCodec
import ChatRelay.MessageVisitor

namespace ChatRelay

/-!
# How the visitors classify a tree

`request::abstract_message_visitor` and `response::abstract_message_visitor`
are the same code over two tables.  The error codes name four ways in which a
tree can be no message; the visitors report only the missing type tag and an
unknown one, and both with the same code.
-/

open JsonText (Tree)

/-- An entry of a visitor's table: a class, its short name and the callback. -/
structure TableEntry (Result : Type) where
  cls : MessageClass
  name : String
  callback : cls.Object → Result

/-- A visitor of either kind: its table, its error callback and its wording. -/
structure TableVisitor (Result : Type) where
  invalid : String
  entries : List (TableEntry Result)
  error : Bytes → ErrorCode → Bytes → Result

namespace TableVisitor

variable {Result : Type}

/-- The `onError` function of both constructors. -/
def onError
    (platform : Platform)
    (visitor : TableVisitor Result)
    (type : String)
    (json : Tree) :
    Except Fault Result :=
  match MessageJson.«to» platform json false with
  | .error fault =>
      .error fault
  | .ok text =>
      .ok
        (visitor.error Instance.UNKNOWN_SENDER
          ErrorCode.MALFORMED_REQUEST_BAD_OBJECT_DEF
          (ascii "Object was incorrectly defined for " ++
            ascii type ++ ascii ", json=" ++ text))

/-- The function that a constructor stores under the type tag of a class. -/
def decoder
    (platform : Platform)
    (visitor : TableVisitor Result)
    (entry : TableEntry Result)
    (json : Tree) :
    Except Fault Result :=
  match entry.cls.codec.fromJson platform json with
  | .error fault =>
      .error fault
  | .ok (some oVal) =>
      .ok (entry.callback oVal)
  | .ok none =>
      visitor.onError platform entry.name json

/-- The entry under a type tag. -/
def propMap
    (visitor : TableVisitor Result)
    (type : Bytes) :
    Option (TableEntry Result) :=
  visitor.entries.find? fun entry => entry.cls.codec.TYPE = type

/-- `visit` of both visitors. -/
def visit
    (platform : Platform)
    (visitor : TableVisitor Result)
    (json : Tree) :
    Except Fault Result :=
  match Instance.extractFrom json with
  | none =>
      match platform.write_json json false with
      | none =>
          .error .jsonParserError
      | some text =>
          .ok
            (visitor.error Instance.UNKNOWN_SENDER
              ErrorCode.MALFORMED_REQUEST_NO_TYPE
              (ascii visitor.invalid ++ text ++ ascii "\")"))
  | some (type, obj) =>
      match visitor.propMap type with
      | some entry =>
          visitor.decoder platform entry obj
      | none =>
          .ok
            (visitor.error Instance.UNKNOWN_SENDER
              ErrorCode.MALFORMED_REQUEST_NO_TYPE
              (ascii "Invalid object type tag specified (type=\"" ++
                type ++ ascii "\")"))

/-- The visitor whose callbacks are followed by a function. -/
def map
    {Other : Type}
    (follow : Result → Other)
    (visitor : TableVisitor Result) :
    TableVisitor Other where
  invalid := visitor.invalid
  entries :=
    visitor.entries.map fun entry =>
      ⟨entry.cls, entry.name, fun oVal => follow (entry.callback oVal)⟩
  error := fun originator code message =>
    follow (visitor.error originator code message)

/-- A visit calls one callback once and returns what it returns. -/
theorem visit_map
    {Other : Type}
    (platform : Platform)
    (follow : Result → Other)
    (visitor : TableVisitor Result)
    (json : Tree) :
    (visitor.map follow).visit platform json =
      (visitor.visit platform json).map follow := by
  unfold visit
  cases Instance.extractFrom json with
  | none =>
      cases platform.write_json json false <;> rfl
  | some parts =>
      rcases parts with ⟨type, obj⟩
      have found :
          (visitor.map follow).propMap type =
            (visitor.propMap type).map fun entry =>
              ⟨entry.cls, entry.name,
                fun oVal => follow (entry.callback oVal)⟩ := by
        unfold propMap map
        rw [List.find?_map]
        rfl
      dsimp only
      rw [found]
      cases visitor.propMap type with
      | none =>
          rfl
      | some entry =>
          simp only [Option.map_some, decoder]
          cases entry.cls.codec.fromJson platform obj with
          | error fault =>
              rfl
          | ok decoded =>
              cases decoded with
              | some oVal =>
                  rfl
              | none =>
                  simp only [onError]
                  cases MessageJson.«to» platform obj false <;> rfl

end TableVisitor

/-! ### The two visitors -/

namespace RequestVisitor

variable {Result : Type}

/-- The table of the request visitor. -/
def table (visitor : RequestVisitor Result) : TableVisitor Result where
  invalid := "Invalid request specified (json=\""
  entries :=
    [⟨.requestLogin, "login", visitor.visitLogin⟩,
      ⟨.requestMessage, "message", visitor.visitMessage⟩]
  error := visitor.error

/-- The `onError` of the request visitor is the one that both share. -/
theorem onError_table
    (platform : Platform)
    (visitor : RequestVisitor Result)
    (type : String)
    (json : Tree) :
    visitor.table.onError platform type json =
      visitor.onError platform type json := by
  unfold onError TableVisitor.onError
  cases MessageJson.«to» platform json false <;> rfl

/-- The request visitor goes by its table. -/
theorem visit_eq_table
    (platform : Platform)
    (visitor : RequestVisitor Result)
    (json : Tree) :
    visitor.visit platform json = visitor.table.visit platform json := by
  unfold visit TableVisitor.visit
  cases Instance.extractFrom json with
  | none =>
      rfl
  | some parts =>
      rcases parts with ⟨type, obj⟩
      dsimp only
      by_cases isLogin : type = Request.Login.TYPE
      · have found :
            visitor.table.propMap type =
              some ⟨.requestLogin, "login", visitor.visitLogin⟩ := by
          rw [isLogin]
          rfl
        rw [found, propMap, if_pos isLogin]
        dsimp only [TableVisitor.decoder, MessageClass.codec]
        rw [onError_table]
        rcases Request.Login.fromJson platform obj with _ | _ | _ <;> rfl
      · by_cases isMessage : type = Request.Message.TYPE
        · have found :
              visitor.table.propMap type =
                some
                  ⟨.requestMessage, "message", visitor.visitMessage⟩ := by
            rw [isMessage]
            rfl
          rw [found, propMap, if_neg isLogin, if_pos isMessage]
          dsimp only [TableVisitor.decoder, MessageClass.codec]
          rw [onError_table]
          rcases Request.Message.fromJson platform obj with _ | _ | _ <;>
            rfl
        · have found : visitor.table.propMap type = none := by
            refine List.find?_eq_none.mpr ?_
            simp [table, MessageClass.codec, Ne.symm isLogin,
              Ne.symm isMessage]
          rw [found, propMap, if_neg isLogin, if_neg isMessage]
          rfl

end RequestVisitor

/-- The three callbacks of a response visitor. -/
structure ResponseVisitor (Result : Type) where
  visitLogin : Response.Login → Result
  visitMessage : Response.Message → Result
  error : Bytes → ErrorCode → Bytes → Result

namespace ResponseVisitor

variable {Result : Type}

/-- The table of the response visitor, which has no entry for errors. -/
def table (visitor : ResponseVisitor Result) : TableVisitor Result where
  invalid := "Invalid response specified (json=\""
  entries :=
    [⟨.responseLogin, "login", visitor.visitLogin⟩,
      ⟨.responseMessage, "message", visitor.visitMessage⟩]
  error := visitor.error

/-- `response::abstract_message_visitor::visit`. -/
def visit
    (platform : Platform)
    (visitor : ResponseVisitor Result)
    (json : Tree) :
    Except Fault Result :=
  visitor.table.visit platform json

end ResponseVisitor

/-! ### The classes of trees -/

/-- Which callback is called: that of a class, or the one for errors. -/
inductive VisitOutcome where
  | visits : MessageClass → VisitOutcome
  | error : ErrorCode → VisitOutcome
  deriving Repr, DecidableEq

/--
The callback that a tree deserves from a visitor of the given classes, by the
error codes' own names.
-/
inductive Classified
    (classes : List MessageClass)
    (json : Tree) :
    VisitOutcome → Prop where
  | noType :
      json.find Instance.PROPERTY_TYPE = none →
      Classified classes json (.error ErrorCode.MALFORMED_REQUEST_NO_TYPE)
  | noObject {typeNode : Tree} :
      json.find Instance.PROPERTY_TYPE = some typeNode →
      json.find Instance.PROPERTY_OBJECT = none →
      Classified classes json (.error ErrorCode.MALFORMED_REQUEST_NO_OBJ)
  | unknownType {typeNode obj : Tree} :
      json.find Instance.PROPERTY_TYPE = some typeNode →
      json.find Instance.PROPERTY_OBJECT = some obj →
      (∀ cls ∈ classes, cls.codec.TYPE ≠ typeNode.data) →
      Classified classes json
        (.error ErrorCode.MALFORMED_REQUEST_UNKNOWN_TYPE)
  | badObject {typeNode obj : Tree} {cls : MessageClass} :
      json.find Instance.PROPERTY_TYPE = some typeNode →
      json.find Instance.PROPERTY_OBJECT = some obj →
      cls ∈ classes →
      cls.codec.TYPE = typeNode.data →
      ¬ cls.codec.Complete obj →
      Classified classes json
        (.error ErrorCode.MALFORMED_REQUEST_BAD_OBJECT_DEF)
  | defined {typeNode obj : Tree} {cls : MessageClass} :
      json.find Instance.PROPERTY_TYPE = some typeNode →
      json.find Instance.PROPERTY_OBJECT = some obj →
      cls ∈ classes →
      cls.codec.TYPE = typeNode.data →
      cls.codec.Complete obj →
      Classified classes json (.visits cls)

/-- The tree carries a tag of one of the classes and an object that defines it. -/
def DefinesOne (classes : List MessageClass) (json : Tree) : Prop :=
  ∃ typeNode,
    json.find Instance.PROPERTY_TYPE = some typeNode ∧
    ∃ obj,
      json.find Instance.PROPERTY_OBJECT = some obj ∧
      ∃ cls ∈ classes,
        cls.codec.TYPE = typeNode.data ∧ cls.codec.Complete obj

/-- The tree has no type tag, but a text that the error can quote. -/
def UntaggedText (platform : Platform) (json : Tree) : Prop :=
  json.find Instance.PROPERTY_TYPE = none ∧
    (platform.write_json json false).isSome = true

namespace MessageClass

/-- No two classes have the same type tag. -/
theorem TYPE_injective
    {first second : MessageClass}
    (same : first.codec.TYPE = second.codec.TYPE) :
    first = second := by
  cases first <;> cases second <;>
    first
      | rfl
      | exact absurd same (by decide)

/-- A decoder returns no null pointer if its rest returns none. -/
theorem bind_ne_null
    {Value S : Type}
    {first : Except Fault Value}
    {next : Value → Except Fault (Option S)}
    (rest : ∀ value, next value ≠ .ok none) :
    first >>= next ≠ .ok none := by
  cases first with
  | error fault =>
      simp [bind, Except.bind]
  | ok value =>
      exact rest value

/-- The pointers that the decoders return are never null. -/
theorem fromJson_ne_null
    (platform : Platform)
    (cls : MessageClass)
    (json : Tree) :
    cls.codec.fromJson platform json ≠ .ok none := by
  cases cls with
  | requestLogin =>
      change Request.Login.fromJson platform json ≠ .ok none
      unfold Request.Login.fromJson
      split <;> simp
  | requestMessage =>
      change Request.Message.fromJson platform json ≠ .ok none
      unfold Request.Message.fromJson
      split
      · simp
      · split <;> simp
  | responseLogin =>
      change Response.Login.fromJson platform json ≠ .ok none
      exact bind_ne_null fun _ =>
        bind_ne_null fun _ => by simp [pure, Except.pure]
  | responseMessage =>
      change Response.Message.fromJson platform json ≠ .ok none
      exact bind_ne_null fun _ =>
        bind_ne_null fun _ =>
          bind_ne_null fun _ => by simp [pure, Except.pure]
  | responseError =>
      change Response.Error.fromJson platform json ≠ .ok none
      exact bind_ne_null fun _ =>
        bind_ne_null fun _ =>
          bind_ne_null fun _ =>
            bind_ne_null fun _ => by simp [pure, Except.pure]

end MessageClass

namespace Classified

variable
  {classes : List MessageClass}
  {json typeNode obj : Tree}
  {outcome : VisitOutcome}

theorem noType_iff
    (tagged : json.find Instance.PROPERTY_TYPE = none) :
    Classified classes json outcome ↔
      outcome = .error ErrorCode.MALFORMED_REQUEST_NO_TYPE := by
  constructor
  · intro classified
    cases classified <;> simp_all
  · rintro rfl
    exact .noType tagged

theorem noObject_iff
    (tagged : json.find Instance.PROPERTY_TYPE = some typeNode)
    (holds : json.find Instance.PROPERTY_OBJECT = none) :
    Classified classes json outcome ↔
      outcome = .error ErrorCode.MALFORMED_REQUEST_NO_OBJ := by
  constructor
  · intro classified
    cases classified <;> simp_all
  · rintro rfl
    exact .noObject tagged holds

theorem unknownType_iff
    (tagged : json.find Instance.PROPERTY_TYPE = some typeNode)
    (holds : json.find Instance.PROPERTY_OBJECT = some obj)
    (unknown : ∀ cls ∈ classes, cls.codec.TYPE ≠ typeNode.data) :
    Classified classes json outcome ↔
      outcome = .error ErrorCode.MALFORMED_REQUEST_UNKNOWN_TYPE := by
  constructor
  · intro classified
    cases classified <;> simp_all
  · rintro rfl
    exact .unknownType tagged holds unknown

/-- A known tag leaves the object to decide. -/
theorem known_iff
    {cls : MessageClass}
    (tagged : json.find Instance.PROPERTY_TYPE = some typeNode)
    (holds : json.find Instance.PROPERTY_OBJECT = some obj)
    (member : cls ∈ classes)
    (named : cls.codec.TYPE = typeNode.data) :
    Classified classes json outcome ↔
      cls.codec.Complete obj ∧ outcome = .visits cls ∨
        ¬ cls.codec.Complete obj ∧
          outcome =
            .error ErrorCode.MALFORMED_REQUEST_BAD_OBJECT_DEF := by
  constructor
  · intro classified
    cases classified with
    | noType untagged =>
        rw [untagged] at tagged
        contradiction
    | noObject _ missing =>
        rw [missing] at holds
        contradiction
    | unknownType otherTagged _ unknown =>
        obtain rfl := Option.some.inj (tagged.symm.trans otherTagged)
        exact absurd named (unknown cls member)
    | badObject otherTagged otherHolds _ otherNamed bad =>
        obtain rfl := Option.some.inj (tagged.symm.trans otherTagged)
        obtain rfl := Option.some.inj (holds.symm.trans otherHolds)
        obtain rfl :=
          MessageClass.TYPE_injective (named.trans otherNamed.symm)
        exact Or.inr ⟨bad, rfl⟩
    | defined otherTagged otherHolds _ otherNamed complete =>
        obtain rfl := Option.some.inj (tagged.symm.trans otherTagged)
        obtain rfl := Option.some.inj (holds.symm.trans otherHolds)
        obtain rfl :=
          MessageClass.TYPE_injective (named.trans otherNamed.symm)
        exact Or.inl ⟨complete, rfl⟩
  · rintro (⟨complete, rfl⟩ | ⟨bad, rfl⟩)
    · exact .defined tagged holds member named complete
    · exact .badObject tagged holds member named bad

end Classified

namespace TableVisitor

variable
  {Callback : Type}
  {visitor : TableVisitor Callback}
  {platform : Platform}

/-- The classes in the table. -/
def classes (visitor : TableVisitor Callback) : List MessageClass :=
  visitor.entries.map TableEntry.cls

/-- An object that defines no message makes its decoder throw. -/
theorem decoder_throws
    {entry : TableEntry Callback}
    {obj : Tree}
    (bad : ¬ entry.cls.codec.Complete obj)
    (callback : Callback) :
    visitor.decoder platform entry obj ≠ .ok callback := by
  unfold decoder
  cases decoded : entry.cls.codec.fromJson platform obj with
  | error fault =>
      simp
  | ok pointer =>
      cases pointer with
      | none =>
          exact absurd decoded
            (entry.cls.fromJson_ne_null platform obj)
      | some oVal =>
          exact absurd
            ((MessageClass.decodes_iff platform obj entry.cls).mp
              ⟨oVal, decoded⟩) bad

/-- An object that defines a message leads to the callback of its class. -/
theorem decoder_visits
    {entry : TableEntry Callback}
    {obj : Tree}
    (complete : entry.cls.codec.Complete obj) :
    ∃ oVal,
      visitor.decoder platform entry obj = .ok (entry.callback oVal) := by
  obtain ⟨oVal, decoded⟩ :=
    (MessageClass.decodes_iff platform obj entry.cls).mpr complete
  refine ⟨oVal, ?_⟩
  unfold decoder
  rw [decoded]

/--
A visitor calls the callback that a tree deserves exactly if the tree defines a
message of its table, or has no type tag and a text.
-/
theorem classifies_iff
    {kind : Callback → VisitOutcome}
    (callbacks :
      ∀ entry ∈ visitor.entries, ∀ oVal,
        kind (entry.callback oVal) = .visits entry.cls)
    (errors :
      ∀ originator code message,
        kind (visitor.error originator code message) = .error code)
    (json : Tree) :
    (∃ callback,
        visitor.visit platform json = .ok callback ∧
          Classified visitor.classes json (kind callback)) ↔
      DefinesOne visitor.classes json ∨ UntaggedText platform json := by
  unfold visit Instance.extractFrom DefinesOne UntaggedText
  cases tagged : json.find Instance.PROPERTY_TYPE with
  | none =>
      simp only [Classified.noType_iff tagged]
      cases platform.write_json json false <;> simp [errors]
  | some typeNode =>
      cases holds : json.find Instance.PROPERTY_OBJECT with
      | none =>
          simp only [Classified.noObject_iff tagged holds]
          cases platform.write_json json false <;>
            simp [errors, ErrorCode.MALFORMED_REQUEST_NO_TYPE,
              ErrorCode.MALFORMED_REQUEST_NO_OBJ]
      | some obj =>
          simp only [Option.some.injEq, exists_eq_left',
            reduceCtorEq, false_and, or_false]
          cases found : visitor.propMap typeNode.data with
          | none =>
              have unknown :
                  ∀ cls ∈ visitor.classes,
                    cls.codec.TYPE ≠ typeNode.data := by
                intro cls member
                obtain ⟨entry, listed, rfl⟩ := List.mem_map.mp member
                simpa using List.find?_eq_none.mp found entry listed
              simp only [Classified.unknownType_iff tagged holds unknown]
              refine iff_of_false ?_ ?_
              · rintro ⟨callback, visited, deserved⟩
                obtain rfl := Except.ok.inj visited
                rw [errors] at deserved
                exact absurd (VisitOutcome.error.inj deserved) (by decide)
              · rintro ⟨cls, member, named, -⟩
                exact unknown cls member named
          | some entry =>
              have listed : entry ∈ visitor.entries :=
                List.mem_of_find?_eq_some found
              have named : entry.cls.codec.TYPE = typeNode.data := by
                simpa using List.find?_some found
              have member : entry.cls ∈ visitor.classes :=
                List.mem_map_of_mem listed
              simp only [Classified.known_iff tagged holds member named]
              by_cases complete : entry.cls.codec.Complete obj
              · obtain ⟨oVal, visited⟩ :=
                  @decoder_visits _ visitor platform entry obj complete
                refine iff_of_true ?_ ⟨entry.cls, member, named, complete⟩
                exact ⟨_, visited,
                  Or.inl ⟨complete, callbacks entry listed oVal⟩⟩
              · refine iff_of_false ?_ ?_
                · rintro ⟨callback, visited, -⟩
                  exact decoder_throws complete callback visited
                · rintro ⟨cls, _, otherNamed, defines⟩
                  obtain rfl :=
                    MessageClass.TYPE_injective
                      (named.trans otherNamed.symm)
                  exact complete defines

end TableVisitor

/-! ### What each visitor gets right -/

/-- The outcome that a callback of the request visitor stands for. -/
def RequestCallback.outcome : RequestCallback → VisitOutcome
  | .visitLogin _ => .visits .requestLogin
  | .visitMessage _ => .visits .requestMessage
  | .error _ code _ => .error code

/-- A callback of the response visitor together with its arguments. -/
inductive ResponseCallback where
  | visitLogin : Response.Login → ResponseCallback
  | visitMessage : Response.Message → ResponseCallback
  | error : Bytes → ErrorCode → Bytes → ResponseCallback
  deriving Repr, DecidableEq

/-- The outcome that a callback of the response visitor stands for. -/
def ResponseCallback.outcome : ResponseCallback → VisitOutcome
  | .visitLogin _ => .visits .responseLogin
  | .visitMessage _ => .visits .responseMessage
  | .error _ code _ => .error code

namespace RequestVisitor

/-- The naming visitor returns the callback. -/
theorem call_naming
    (callback : RequestCallback) :
    naming.call callback = callback := by
  cases callback <;> rfl

def classes : List MessageClass :=
  [.requestLogin, .requestMessage]

/--
Whatever its callbacks are, the request visitor returns without a throw, and
what it returns comes from one call of the callback that the tree deserves.
-/
def Classifies (platform : Platform) (json : Tree) : Prop :=
  ∃ callback : RequestCallback,
    (∀ (Result : Type) (visitor : RequestVisitor Result),
      visitor.visit platform json = .ok (visitor.call callback)) ∧
      Classified classes json callback.outcome

theorem classifies_iff
    (platform : Platform)
    (json : Tree) :
    Classifies platform json ↔
      DefinesOne classes json ∨ UntaggedText platform json := by
  have exact :=
    @TableVisitor.classifies_iff _ naming.table platform
      RequestCallback.outcome
      (by simp [table, naming, RequestCallback.outcome])
      (fun _ _ _ => rfl) json
  refine Iff.trans ?_ exact
  constructor
  · rintro ⟨callback, visits, deserved⟩
    refine ⟨callback, ?_, deserved⟩
    rw [← visit_eq_table, visits, call_naming]
  · rintro ⟨callback, visits, deserved⟩
    refine ⟨callback, ?_, deserved⟩
    intro Result visitor
    rw [visit_eq_naming, visit_eq_table, visits]
    rfl

end RequestVisitor

namespace ResponseVisitor

variable {Result : Type}

def classes : List MessageClass :=
  [.responseLogin, .responseMessage]

/-- Call one callback. -/
def call
    (visitor : ResponseVisitor Result) :
    ResponseCallback → Result
  | .visitLogin response =>
      visitor.visitLogin response
  | .visitMessage response =>
      visitor.visitMessage response
  | .error originator code message =>
      visitor.error originator code message

/-- The visitor that returns the callback it receives. -/
def naming : ResponseVisitor ResponseCallback where
  visitLogin := .visitLogin
  visitMessage := .visitMessage
  error := .error

/--
Whatever its callbacks are, the response visitor returns without a throw, and
what it returns comes from one call of the callback that the tree deserves.
-/
def Classifies (platform : Platform) (json : Tree) : Prop :=
  ∃ callback : ResponseCallback,
    (∀ (Result : Type) (visitor : ResponseVisitor Result),
      visitor.visit platform json = .ok (visitor.call callback)) ∧
      Classified classes json callback.outcome

theorem classifies_iff
    (platform : Platform)
    (json : Tree) :
    Classifies platform json ↔
      DefinesOne classes json ∨ UntaggedText platform json := by
  have exact :=
    @TableVisitor.classifies_iff _ naming.table platform
      ResponseCallback.outcome
      (by simp [table, naming, ResponseCallback.outcome])
      (fun _ _ _ => rfl) json
  refine Iff.trans ?_ exact
  constructor
  · rintro ⟨callback, visits, deserved⟩
    refine ⟨callback, ?_, deserved⟩
    refine (visits ResponseCallback naming).trans ?_
    cases callback <;> rfl
  · rintro ⟨callback, visits, deserved⟩
    refine ⟨callback, ?_, deserved⟩
    intro Result visitor
    change (naming.table.map visitor.call).visit platform json = _
    rw [TableVisitor.visit_map, visits]
    rfl

end ResponseVisitor

/--
Each of the visitors calls the callback that a tree deserves exactly if the tree
defines a message of its table, or has no type tag and a text.
-/
theorem visitors_classify_iff
    (platform : Platform)
    (json : Tree) :
    (RequestVisitor.Classifies platform json ↔
        DefinesOne RequestVisitor.classes json ∨
          UntaggedText platform json) ∧
      (ResponseVisitor.Classifies platform json ↔
        DefinesOne ResponseVisitor.classes json ∨
          UntaggedText platform json) :=
  ⟨RequestVisitor.classifies_iff platform json,
    ResponseVisitor.classifies_iff platform json⟩

/--
A login without an object is reported as a request without a type, and a login
whose object is empty makes the visitor throw.
-/
theorem login_misclassified :
    let missing : Tree :=
      .node [] [(Instance.PROPERTY_TYPE, .leaf Request.Login.TYPE)]
    let empty : Tree :=
      .node []
        [(Instance.PROPERTY_TYPE, .leaf Request.Login.TYPE),
          (Instance.PROPERTY_OBJECT, .leaf [])]
    (RequestVisitor.naming.visit Platform.reference missing).map
          RequestCallback.outcome =
        .ok (.error ErrorCode.MALFORMED_REQUEST_NO_TYPE) ∧
      ¬ RequestVisitor.Classifies Platform.reference missing ∧
      RequestVisitor.naming.visit Platform.reference empty =
        .error (.runtimeError "Could not get datetime property.") ∧
      ¬ RequestVisitor.Classifies Platform.reference empty := by
  intro missing empty
  have reported :
      (RequestVisitor.naming.visit Platform.reference missing).map
          RequestCallback.outcome =
        .ok (.error ErrorCode.MALFORMED_REQUEST_NO_TYPE) := by
    decide
  have thrown :
      RequestVisitor.naming.visit Platform.reference empty =
        .error (.runtimeError "Could not get datetime property.") := by
    decide
  refine ⟨reported, ?_, thrown, ?_⟩
  · rintro ⟨callback, visits, deserved⟩
    rw [visits RequestCallback RequestVisitor.naming,
      RequestVisitor.call_naming] at reported
    have given := Except.ok.inj reported
    rw [(Classified.noObject_iff rfl rfl).mp deserved] at given
    exact absurd (VisitOutcome.error.inj given) (by decide)
  · rintro ⟨callback, visits, -⟩
    rw [visits RequestCallback RequestVisitor.naming] at thrown
    cases thrown

end ChatRelay
