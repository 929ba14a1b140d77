import Mathlib.Data.List.Basic
import ChatRelay.RequestFraming
import ChatRelay.ResponseFraming
import ChatRelay.ServerSystem

namespace ChatRelay

/-!
# From one client to another

The two programs have codecs of their own: class names and serialized names on
the side of the client, string constants on the side of the server.  A request
that arrives in one read is answered by a response which, arriving in one read,
leads to one call of the client's visitor with the strings of the request.
-/

open JsonText
open RequestFraming (ClientRequest)
open Client (ClientPlatform ClientErrorCode GsonReader ReadOutcome
  ResponseCallback Unicode)

/--
What the server's writer and the client's parsers have to do with each other at
a time: the writer appends white space to the compact text of a response, which
Gson reads back, and the printed time is a Unicode text in the client's date
format.
-/
structure ServerSpeaks
    {DateTime : Type}
    (platform : Platform)
    (client : ClientPlatform DateTime)
    (escape : Bytes → Bytes)
    (ending : Bytes)
    (now : TimePoint) : Prop where
  reader : GsonReader client.fromJson escape
  spaces : Spaces ending
  writes : platform.WritesCompact escape ending
  time_unicode : Unicode (platform.printTime now)
  time_parses : (client.parseDateTime (platform.printTime now)).isSome

/-- The reader thread calls the visitor once for the text of one read. -/
def CallsOnce
    {DateTime : Type}
    (client : ClientPlatform DateTime)
    (text : Bytes)
    (Call : ResponseCallback DateTime → Prop) : Prop :=
  ∀ arrival rest,
    ∃ callback,
      Client.run client (.data text arrival :: rest) =
          (callback :: (Client.run client rest).1,
            (Client.run client rest).2) ∧
        Call callback

section Codecs

variable
  {DateTime : Type}
  {platform : Platform}
  {client : ClientPlatform DateTime}
  {escape : Bytes → Bytes}
  {ending : Bytes}
  {now : TimePoint}

/-- A text that is visited is visited once, whatever is read behind it. -/
theorem callsOnce_of_visitContent
    {text : Bytes}
    {Call : ResponseCallback DateTime → Prop}
    (nonempty : 0 < text.length)
    (visits :
      ∀ arrival,
        ∃ callback,
          Client.visitContent client text arrival = .ok callback ∧
            Call callback) :
    CallsOnce client text Call := by
  intro arrival rest
  obtain ⟨callback, visited, isCall⟩ := visits arrival
  refine ⟨callback, ?_, isCall⟩
  rw [Client.run, if_pos nonempty, visited]

variable (speaks : ServerSpeaks platform client escape ending now)

include speaks

/-- The text of a response, and what Gson makes of it. -/
theorem ServerSpeaks.text
    {response : Response}
    (textual : Client.Textual platform response) :
    ∃ text,
      MessageJson.«to» platform (response.toJson platform) false =
          .ok text ∧
        0 < text.length ∧
        client.fromJson text =
          .ok (some (Client.parsed platform response)) := by
  refine ⟨value escape (response.toJson platform) ++ ending, ?_, ?_, ?_⟩
  · exact MessageJson.to_response speaks.writes response
  · obtain ⟨rest, shape⟩ :=
      (@Client.value_braces platform escape response).1
    rw [shape]
    exact Nat.succ_pos _
  · exact Client.fromJson_document speaks.reader textual
      ⟨[], ending, by simp [Spaces], speaks.spaces, rfl⟩

/-- A message response is visited with its originator and its content. -/
theorem ServerSpeaks.message
    {response : Response.Message}
    (atNow : response.dateTime = now)
    (originator : Unicode response.originator)
    (content : Unicode response.content)
    (sender : Unicode response.sender) :
    ∃ text,
      MessageJson.«to» platform
          ((Response.message response).toJson platform) false =
          .ok text ∧
        CallsOnce client text fun callback =>
          ∃ message,
            callback = .visitMessage message ∧
              message.mOriginator = some response.originator ∧
              message.mContent = some response.content := by
  have textual : Client.Textual platform (.message response) := by
    intro field inFields
    simp only [Response.fields, List.mem_cons, List.not_mem_nil,
      or_false] at inFields
    rcases inFields with rfl | rfl | rfl | rfl
    · exact atNow ▸ speaks.time_unicode
    · exact sender
    · exact originator
    · exact content
  obtain ⟨text, written, nonempty, parsed⟩ := speaks.text textual
  refine ⟨text, written, callsOnce_of_visitContent nonempty ?_⟩
  intro arrival
  rw [Client.visitContent_dated parsed rfl arrival, atNow]
  obtain ⟨time, parses⟩ :=
    Option.isSome_iff_exists.mp speaks.time_parses
  rw [parses]
  exact ⟨_, rfl, _, rfl, rfl, rfl⟩

/-- A login response is visited with its joining user. -/
theorem ServerSpeaks.login
    {response : Response.Login}
    (atNow : response.dateTime = now)
    (joining : Unicode response.joiningUsername) :
    ∃ text,
      MessageJson.«to» platform
          ((Response.login response).toJson platform) false =
          .ok text ∧
        CallsOnce client text fun callback =>
          ∃ login,
            callback = .visitLogin login ∧
              login.mJoiningUsername = some response.joiningUsername := by
  have textual : Client.Textual platform (.login response) := by
    intro field inFields
    simp only [Response.fields, List.mem_cons, List.not_mem_nil,
      or_false] at inFields
    rcases inFields with rfl | rfl | rfl
    · exact atNow ▸ speaks.time_unicode
    · exact ⟨_, rfl⟩
    · exact joining
  obtain ⟨text, written, nonempty, parsed⟩ := speaks.text textual
  refine ⟨text, written, callsOnce_of_visitContent nonempty ?_⟩
  intro arrival
  rw [Client.visitContent_dated parsed rfl arrival, atNow]
  obtain ⟨time, parses⟩ :=
    Option.isSome_iff_exists.mp speaks.time_parses
  rw [parses]
  exact ⟨_, rfl, _, rfl, rfl⟩

/-- The answer to a refused login is visited by hand, as a server error. -/
theorem ServerSpeaks.refusal :
    ∃ text,
      MessageJson.«to» platform
          ((Server.usernameInUse now).toJson platform) false =
          .ok text ∧
        Client.visit client text = .error .IllegalStateException ∧
        CallsOnce client text fun callback =>
          ∃ error,
            callback = .visitError error ∧
              error.mCode = .USER_NAME_IN_USE ∧
              error.mMessage = ascii "Username in use." := by
  have textual :
      Client.Textual platform (Server.usernameInUse now) := by
    intro field inFields
    simp only [Server.usernameInUse, Response.fields, List.mem_cons,
      List.not_mem_nil, or_false] at inFields
    rcases inFields with rfl | rfl | rfl | rfl | rfl
    · exact speaks.time_unicode
    · exact ⟨_, rfl⟩
    · exact ⟨"1", rfl⟩
    · exact ⟨_, rfl⟩
    · exact ⟨_, rfl⟩
  obtain ⟨text, written, nonempty, parsed⟩ := speaks.text textual
  refine ⟨text, written, ?_, callsOnce_of_visitContent nonempty ?_⟩
  · unfold Client.visit
    rw [parsed]
    rfl
  · intro arrival
    rw [Client.visitContent_error parsed arrival]
    exact ⟨_, rfl, _, rfl, rfl, rfl⟩

end Codecs

/-! ### The relay -/

/-- What the server decides about a login that a client sends. -/
theorem visitLogin_cases
    (state : Server)
    (now : TimePoint)
    (login : Request.Login) :
    state.visitLogin now login = Server.usernameInUse now ∨
      state.visitLogin now login =
        .login (Response.Login.ofUsername now login.sender) := by
  unfold Server.visitLogin
  split
  · exact Or.inl rfl
  · exact Or.inr rfl

/--
A message is relayed with the name of its sender and its content; a login that
the server accepts is announced under its name; and a login that it refuses is
answered by an error with the server's text, on the way of the visitor's
`IllegalStateException`.
-/
theorem relay_fidelity
    {RequestTime ResponseTime : Type}
    {platform : Platform}
    {client : ClientPlatform ResponseTime}
    {DATETIME_FORMAT : RequestTime → String}
    {escapeRequest escapeResponse : Bytes → Bytes}
    {ending : Bytes}
    (reads : DocumentReader platform.read_json escapeRequest)
    {now : TimePoint}
    (speaks : ServerSpeaks platform client escapeResponse ending now)
    (state : Server)
    (mDateTime : RequestTime)
    (username content : String) :
    (∃ msg text,
      visitBytes platform
          ((ClientRequest.MessageRequest mDateTime username
            content).getBytes DATETIME_FORMAT escapeRequest) =
          .ok (.visitMessage msg) ∧
        MessageJson.«to» platform
            ((Server.visitMessage now msg).toJson platform) false =
          .ok text ∧
        CallsOnce client text fun callback =>
          ∃ message,
            callback = .visitMessage message ∧
              message.mOriginator = some (ascii username) ∧
              message.mContent = some (ascii content)) ∧
    ∃ login text,
      visitBytes platform
          ((ClientRequest.LoginRequest mDateTime username).getBytes
            DATETIME_FORMAT escapeRequest) =
          .ok (.visitLogin login) ∧
        MessageJson.«to» platform
            ((state.visitLogin now login).toJson platform) false =
          .ok text ∧
        (∀ accepted,
          state.visitLogin now login = .login accepted →
          CallsOnce client text fun callback =>
            ∃ response,
              callback = .visitLogin response ∧
                response.mJoiningUsername = some (ascii username)) ∧
        ∀ refused,
          state.visitLogin now login = .error refused →
          Client.visit client text = .error .IllegalStateException ∧
            CallsOnce client text fun callback =>
              ∃ error,
                callback = .visitError error ∧
                  error.mCode = .USER_NAME_IN_USE ∧
                  error.mMessage = refused.message := by
  constructor
  · obtain ⟨text, written, calls⟩ :=
      @ServerSpeaks.message ResponseTime platform client escapeResponse
        ending now speaks
        (Response.Message.ofContent now (ascii username) (ascii content))
        rfl ⟨username, rfl⟩ ⟨content, rfl⟩ ⟨"@server", rfl⟩
    exact ⟨_, text, RequestFraming.visitBytes_getBytes reads _,
      written, calls⟩
  · let login : Request.Login :=
      { dateTime :=
          (platform.parseTime (ascii (DATETIME_FORMAT mDateTime))).getD 0
        sender := ascii username }
    have visited :
        visitBytes platform
            ((ClientRequest.LoginRequest mDateTime username).getBytes
              DATETIME_FORMAT escapeRequest) =
          .ok (.visitLogin login) :=
      RequestFraming.visitBytes_getBytes reads _
    rcases visitLogin_cases state now login with refused | accepted
    · obtain ⟨text, written, fallsBack, calls⟩ := speaks.refusal
      refine ⟨login, text, visited, ?_, ?_, ?_⟩
      · rw [refused]
        exact written
      · intro response isLogin
        rw [refused] at isLogin
        contradiction
      · intro error isError
        rw [refused] at isError
        obtain rfl := Response.error.inj isError
        exact ⟨fallsBack, calls⟩
    · obtain ⟨text, written, calls⟩ :=
        @ServerSpeaks.login ResponseTime platform client escapeResponse
          ending now speaks (Response.Login.ofUsername now login.sender)
          rfl ⟨username, rfl⟩
      refine ⟨login, text, visited, ?_, ?_, ?_⟩
      · rw [accepted]
        exact written
      · intro response isLogin
        exact calls
      · intro error isError
        rw [accepted] at isError
        contradiction

/-- The libraries of this development meet what is asked of them. -/
theorem reference_speaks
    (now : TimePoint) :
    ServerSpeaks Platform.reference ClientPlatform.reference escape []
      now where
  reader := Client.gsonReader
  spaces := by
    simp [Spaces]
  writes := Platform.reference_writesCompact
  time_unicode := ⟨toString now, rfl⟩
  time_parses := rfl

theorem relay_fidelity_refused :
    let state : Server :=
      { Server.initial [] with sockets := [(0, ascii "ann")] }
    ∃ login text,
      visitBytes .reference
          ((ClientRequest.LoginRequest "10:00" "ann").getBytes id
            escape) =
          .ok (.visitLogin login) ∧
        MessageJson.«to» .reference
            ((state.visitLogin 5 login).toJson .reference) false =
          .ok text ∧
        (∀ accepted,
          state.visitLogin 5 login = .login accepted →
          CallsOnce ClientPlatform.reference text fun callback =>
            ∃ response,
              callback = .visitLogin response ∧
                response.mJoiningUsername = some (ascii "ann")) ∧
        ∀ refused,
          state.visitLogin 5 login = .error refused →
          Client.visit ClientPlatform.reference text =
              .error .IllegalStateException ∧
            CallsOnce ClientPlatform.reference text fun callback =>
              ∃ error,
                callback = .visitError error ∧
                  error.mCode = .USER_NAME_IN_USE ∧
                  error.mMessage = refused.message := by
  intro state
  exact (relay_fidelity JsonText.reader (reference_speaks 5) state "10:00"
    "ann" "\x7b\"hi\"\x7d").2

end ChatRelay
