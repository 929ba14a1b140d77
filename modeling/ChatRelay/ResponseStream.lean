import ChatRelay.ResponseWire
import ChatRelay.TypedRows

namespace ChatRelay

/-!
# Responses as a stream

The responses on their way to a client are the texts that the server has
written, one behind the other.  A read that is visited has found the first of
them whole, and leaves the others.
-/

open JsonText
open LabelledRun (run?)
open Client (Announces ClientPlatform GsonReader IsDocument)
open Client (ResponseCallback Textual Unicode visitContent)

/--
What the writer of one side and the parser of the other have to do with each
other: each parser reads back what the other side writes, with that side's
escapes; the server has a text for every response, to which it may append white
space, and a printed time is a Unicode text.
-/
structure StreamLaws
    {DateTime : Type}
    (platform : Platform)
    (clientPlatform : ClientPlatform DateTime)
    (escapeRequest escapeResponse : Bytes → Bytes)
    (ending : Bytes) : Prop where
  requests : DocumentReader platform.read_json escapeRequest
  responses : GsonReader clientPlatform.fromJson escapeResponse
  spaces : Spaces ending
  writes : platform.WritesCompact escapeResponse ending
  time_unicode : ∀ time, Unicode (platform.printTime time)

/-- The response that a delivery was written for. -/
def Spells : Delivery → Response → Prop
  | .broadcast _ message, response =>
      response = message
  | .reply _, response =>
      ∃ error, response = .error error

/-- The bytes are the texts of what is on its way, behind some white space. -/
def Streamed
    (platform : Platform)
    (escape : Bytes → Bytes)
    (ending : Bytes)
    (deliveries : List Delivery)
    (bytes : Bytes) : Prop :=
  ∃ responses leftover,
    List.Forall₂ Spells deliveries responses ∧
      (∀ response ∈ responses, Textual platform response) ∧
        Spaces leftover ∧
          bytes =
            leftover ++
              (responses.map fun response =>
                value escape (response.toJson platform) ++
                  ending).flatten

section Stream

variable
  {DateTime : Type}
  {platform : Platform}
  {clientPlatform : ClientPlatform DateTime}
  {escapeRequest escapeResponse : Bytes → Bytes}
  {ending : Bytes}

/-- Nothing is on its way. -/
theorem Streamed.nothing :
    Streamed platform escapeResponse ending [] [] :=
  ⟨[], [], .nil, by simp, by simp [Spaces], rfl⟩

variable
  (laws :
    StreamLaws platform clientPlatform escapeRequest escapeResponse
      ending)

include laws

/-- One more text is written. -/
theorem Streamed.write
    {deliveries : List Delivery}
    {bytes text : Bytes}
    (streamed :
      Streamed platform escapeResponse ending deliveries bytes)
    {delivery : Delivery}
    {response : Response}
    (spells : Spells delivery response)
    (textual : Textual platform response)
    (written :
      MessageJson.«to» platform (response.toJson platform) false =
        .ok text) :
    Streamed platform escapeResponse ending (deliveries ++ [delivery])
      (bytes ++ text) := by
  obtain ⟨responses, leftover, spelled, allTextual, spaces, rfl⟩ :=
    streamed
  obtain rfl :
      text =
        value escapeResponse (response.toJson platform) ++ ending := by
    rw [MessageJson.to_response laws.writes] at written
    exact (Except.ok.inj written).symm
  refine ⟨responses ++ [response], leftover,
    List.rel_append spelled (.cons spells .nil), ?_, spaces, ?_⟩
  · intro other isOther
    rcases List.mem_append.mp isOther with before | isLast
    · exact allTextual other before
    · exact List.mem_singleton.mp isLast ▸ textual
  · simp

/-- A read that is visited has found the first response, and nothing else. -/
theorem Streamed.read
    {deliveries : List Delivery}
    {content rest : Bytes}
    (streamed :
      Streamed platform escapeResponse ending deliveries
        (content ++ rest))
    {now : DateTime}
    {callback : ResponseCallback DateTime}
    (visits : visitContent clientPlatform content now = .ok callback) :
    ∃ delivery others response,
      deliveries = delivery :: others ∧
        Spells delivery response ∧
          Announces clientPlatform platform response callback ∧
            Streamed platform escapeResponse ending others rest := by
  obtain ⟨responses, leftover, spelled, allTextual, spaces, delivered⟩ :=
    streamed
  obtain ⟨response, responses, leftover', rfl, _, announces, spacesNext,
      deliveredRest⟩ :=
    Client.first_of_visits laws.responses laws.spaces allTextual spaces
      delivered.symm visits
  cases spelled with
  | @cons delivery _ others _ spells spelled =>
      exact ⟨delivery, others, response, rfl, spells, announces,
        responses, leftover', spelled,
        (List.forall_mem_cons.mp allTextual).2, spacesNext,
        deliveredRest.symm⟩

/-! ### The texts of the server -/

/-- The refusal of a name is a Unicode text. -/
theorem textual_usernameInUse
    (now : TimePoint) :
    Textual platform (Server.usernameInUse now) := by
  intro field inFields
  simp only [Server.usernameInUse, Response.fields, List.mem_cons,
    List.not_mem_nil, or_false] at inFields
  rcases inFields with rfl | rfl | rfl | rfl | rfl
  · exact laws.time_unicode _
  · exact ⟨_, rfl⟩
  · exact ⟨"1", rfl⟩
  · exact ⟨_, rfl⟩
  · exact ⟨_, rfl⟩

/-- The answer to a typed request is a Unicode text. -/
theorem textual_of_answers
    {ClientId : Type}
    [DecidableEq ClientId]
    {labels : List (SystemLabel ClientId DateTime)}
    {visit : Visit}
    (typed : ChatSystem.TypedRequest labels visit.request)
    {origin : SocketRef}
    {message : Response}
    (answers : Answers platform visit (.queued origin message)) :
    Textual platform message := by
  intro field inFields
  cases answers with
  | message socket msg now =>
      obtain ⟨client, mSender, mContent, _, _, sender, content⟩ := typed
      simp only [Server.visitMessage, Response.fields, List.mem_cons,
        List.not_mem_nil, or_false] at inFields
      rcases inFields with rfl | rfl | rfl | rfl
      · exact laws.time_unicode _
      · exact ⟨_, rfl⟩
      · exact ⟨mSender, sender⟩
      · exact ⟨mContent, content⟩
  | login socket login now =>
      obtain ⟨client, mSender, _, sender⟩ := typed
      simp only [Response.fields, List.mem_cons,
        List.not_mem_nil, or_false] at inFields
      rcases inFields with rfl | rfl | rfl
      · exact laws.time_unicode _
      · exact ⟨_, rfl⟩
      · exact ⟨mSender, sender⟩

end Stream

namespace Server

variable {platform : Platform}
variable {state next : Server}

/-- The text that is written is that of the message. -/
def TextWritten (platform : Platform) : SenderPc → Prop
  | .lockSockets message text _ | .writing message text _ _ =>
      MessageJson.«to» platform (message.toJson platform) false =
        .ok text
  | _ =>
      True

theorem TextWritten.step
    {label : ServerLabel}
    (holds : TextWritten platform state.senderPc)
    (step : Step platform state label next) :
    TextWritten platform next.senderPc := by
  cases step with
  | listen step =>
      rw [step.senderPc]
      exact holds
  | send step =>
      cases step with
      | serialise pc written =>
          exact written
      | lockSockets pc free =>
          rw [pc] at holds
          exact holds
      | write pc isOpen =>
          rw [pc] at holds
          exact holds
      | serialiseThrows pc | writeThrows pc =>
          exact holds
      | _ =>
          trivial

theorem textWritten_of_run
    {descriptors : List Nat}
    {labels : List ServerLabel}
    (reached :
      run? (step? platform) (initial descriptors) labels = some state) :
    TextWritten platform state.senderPc := by
  refine @LabelledRun.stateInvariant _ _ _ _
    (fun state : Server => TextWritten platform state.senderPc)
    ?_ ?_ _ _ reached
  · trivial
  · intro state label next holds taken
    exact holds.step (step?_sound taken).2

end Server

end ChatRelay
