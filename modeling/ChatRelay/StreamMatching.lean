import ChatRelay.ResponseStream
import ChatRelay.StreamSystem

namespace ChatRelay

/-!
# The two systems side by side

A system whose connections carry bytes is beside one that carries whole
responses: the processes are in the same states, and the bytes spell the
responses.  A step of the server keeps the two networks alike.
-/

open LabelledRun
open Client (Activity ActivityLabel ClientPlatform Connection ReadThread)
open Client (Row Textual)

/-! ### A reader thread that has ended -/

namespace Client

/-- The reader thread has left its loop. -/
def ReadThread.Over : ReadThread → Prop
  | reporting | ended =>
      True
  | notCreated | running =>
      False

namespace Activity

variable {DateTime Login Chat : Type}
variable {state next : Activity DateTime Login Chat}

/-- The reader of a connection is the same in two states. -/
theorem KeepsWires.readThread
    (kept : KeepsWires state next)
    (connection : Nat) :
    (next.connections connection).readThread =
      (state.connections connection).readThread := by
  have same := congrFun kept.wire connection
  injection same

/-- The fields of a connection change, and its reader does not start again. -/
theorem setConnection_over
    (connection : Nat)
    (fields : Connection)
    (stays :
      (state.connections connection).readThread.Over →
      fields.readThread.Over)
    {query : Nat}
    (isOver : (state.connections query).readThread.Over) :
    ((state.setConnection connection fields).connections
        query).readThread.Over := by
  by_cases isQuery : query = connection
  · subst isQuery
    simp only [setConnection, Function.update_self]
    exact stays isOver
  · simp only [setConnection, Function.update_of_ne isQuery]
    exact isOver

variable [DecidableEq DateTime] [DecidableEq Login] [DecidableEq Chat]

/-- A reader that has left its loop never runs again. -/
theorem over_step
    {label : ActivityLabel DateTime Login Chat}
    (wired : Wired state)
    (taken : step? state label = some next)
    {query : Nat}
    (isOver : (state.connections query).readThread.Over) :
    (next.connections query).readThread.Over := by
  cases label with
  | main task now =>
      obtain ⟨⟨_, first⟩, rfl⟩ := guarded_eq_some.mp taken
      rcases runMain_keepsWires
          { state with mainQueue := state.mainQueue.tail } now task with
        ⟨connection, req, rfl, kept⟩ | ⟨_, kept⟩
      · obtain ⟨_, _, unread⟩ := wired.taken (attempts_main first)
        injection unread with _ _ notCreated
        rw [kept.readThread]
        refine setConnection_over connection
          { state.connections connection with readThread := .running }
          ?_ isOver
        intro created
        rw [notCreated] at created
        exact created.elim
      · rw [kept.readThread]
        exact isOver
  | background task result =>
      obtain ⟨_, rfl⟩ := guarded_eq_some.mp taken
      cases task with
      | socketConnect connection req =>
          exact setConnection_over connection
            { state.connections connection with
              isConnected := result.isOk } id isOver
      | send connection message =>
          exact isOver
      | resend obj =>
          exact isOver
  | join connection =>
      obtain ⟨_, rfl⟩ := guarded_eq_some.mp taken
      exact setConnection_over connection
        { state.connections connection with closed := true } id isOver
  | readFails connection message =>
      obtain ⟨_, rfl⟩ := guarded_eq_some.mp taken
      exact setConnection_over connection
        { state.connections connection with readThread := .reporting }
        (fun _ => trivial) isOver
  | reportLost connection =>
      obtain ⟨_, rfl⟩ := guarded_eq_some.mp taken
      exact setConnection_over connection
        { state.connections connection with readThread := .ended }
        (fun _ => trivial) isOver
  | stopReading connection =>
      obtain ⟨_, rfl⟩ := guarded_eq_some.mp taken
      exact setConnection_over connection
        { state.connections connection with readThread := .ended }
        (fun _ => trivial) isOver
  | _ =>
      obtain ⟨_, rfl⟩ := guarded_eq_some.mp taken
      exact isOver

end Activity

end Client

namespace ChatSystem

variable {ClientId DateTime : Type} [DecidableEq ClientId]

/-- A write changes neither the clients nor the requests. -/
theorem written_frame
    (system : ChatSystem ClientId DateTime)
    (socket : SocketRef)
    (text : Bytes)
    (outcome : WriteOutcome)
    (delivery : Delivery) :
    (system.written socket text outcome delivery).clients =
        system.clients ∧
      (system.written socket text outcome delivery).requests =
        system.requests := by
  unfold written deliver
  split
  · split <;> exact ⟨rfl, rfl⟩
  · exact ⟨rfl, rfl⟩

variable [DecidableEq DateTime]
variable
  {platform : Platform}
  {DATETIME_FORMAT : DateTime → String}
  {escape : Bytes → Bytes}
  {system : ChatSystem ClientId DateTime}

/-- The server moves when the network lets it. -/
theorem server_moves
    {label : ServerLabel}
    {after : Server}
    (permitted : system.PermitsServer label)
    (stepped : system.server.step? platform label = some after) :
    step? platform DATETIME_FORMAT escape system (.server label) =
      some
        { system.afterServer label with
          server := after
          log := system.log ++ [label] } := by
  unfold step?
  dsimp only
  rw [if_pos permitted, stepped]
  rfl

/-- A client moves when the network lets it. -/
theorem client_moves
    {client : ClientId}
    {label : ActivityLabel DateTime Announcement Response.Message}
    {after : ChatClient DateTime}
    (permitted : system.PermitsClient client label)
    (stepped : (system.clients client).step? label = some after) :
    step? platform DATETIME_FORMAT escape system
        (.client client label) =
      some
        { system.afterClient DATETIME_FORMAT escape client label with
          clients := Function.update system.clients client after } := by
  unfold step?
  dsimp only
  rw [if_pos permitted, stepped]
  rfl

end ChatSystem

namespace StreamSystem

variable {ClientId DateTime : Type}

/-! ### The two systems side by side -/

section Objects

variable (platform : Platform) (clientPlatform : ClientPlatform DateTime)

/-- The `Object[]` that a client makes of a login response. -/
def loginObject (login : Announcement) : LoginObject DateTime where
  dateTime :=
    clientPlatform.parseDateTime
      (platform.printTime login.response.dateTime)
  joiningUsername := some login.response.joiningUsername

/-- The `Object[]` that a client makes of a message response. -/
def messageObject
    (response : Response.Message) :
    MessageObject DateTime where
  dateTime :=
    clientPlatform.parseDateTime (platform.printTime response.dateTime)
  originator := some response.originator
  content := some response.content

/-- The activity of a client as its reader threads feed it. -/
def fed
    (activity : ChatClient DateTime) :
    Activity DateTime (LoginObject DateTime) (MessageObject DateTime) :=
  activity.map (loginObject platform clientPlatform)
    (messageObject platform clientPlatform)

/-- The label of a step of the system is one of a step over byte streams. -/
inductive Hears :
    SystemLabel ClientId DateTime →
      StreamLabel ClientId DateTime → Prop where
  | server (label : ServerLabel) :
      Hears (.server label) (.server label)
  | client
      (client : ClientId)
      (own :
        ActivityLabel DateTime Announcement Response.Message) :
      Hears (.client client own)
        (.client client
          (own.map (loginObject platform clientPlatform)
            (messageObject platform clientPlatform)))
  | row
      (client : ClientId)
      (connection : Nat)
      (row : Row Announcement Response.Message)
      (content : Bytes)
      (now : DateTime)
      (message : String) :
      Hears (.client client (.visitRow connection row))
        (.read client connection content now message)
  | error
      (client : ClientId)
      (connection : Nat)
      (content : Bytes)
      (now : DateTime)
      (message : String) :
      Hears (.client client (.visitError connection message))
        (.read client connection content now message)
  | failure
      (client : ClientId)
      (connection : Nat)
      (content : Bytes)
      (now : DateTime)
      (message : String) :
      Hears (.client client (.readFails connection message))
        (.read client connection content now message)

end Objects

/-- A write of the server takes the whole text or fails. -/
def WritesWhole : StreamLabel ClientId DateTime → Prop
  | .server (.listen (.write _ text outcome))
  | .server (.send (.write _ text _ _ _ outcome)) =>
      outcome = .written text.length ∨ outcome = .failed
  | _ =>
      True

instance (label : StreamLabel ClientId DateTime) :
    Decidable (WritesWhole label) := by
  unfold WritesWhole
  split <;> infer_instance

/--
The processes are in the same states, and what is on its way to a client is
spelled by the bytes that are, unless its reader thread is over.
-/
structure Matches
    (platform : Platform)
    (clientPlatform : ClientPlatform DateTime)
    (escapeResponse : Bytes → Bytes)
    (ending : Bytes)
    (stream : StreamSystem ClientId DateTime)
    (system : ChatSystem ClientId DateTime) : Prop where
  server : stream.server = system.server
  clients :
    ∀ client,
      stream.clients client =
        fed platform clientPlatform (system.clients client)
  backlog : stream.backlog = system.backlog
  accepted : stream.accepted = system.accepted
  requests : stream.requests = system.requests
  wired : ∀ client, (system.clients client).Wired
  responses :
    ∀ link,
      ((system.clients link.1).connections link.2).readThread.Over ∨
        Streamed platform escapeResponse ending (system.responses link)
          (stream.responses link)

/-! ### The network -/

section Network

variable
  {platform : Platform}
  {clientPlatform : ClientPlatform DateTime}
  {escapeRequest escapeResponse : Bytes → Bytes}
  {ending : Bytes}
  {stream : StreamSystem ClientId DateTime}
  {system : ChatSystem ClientId DateTime}

theorem Matches.initial
    (descriptors : List Nat) :
    Matches platform clientPlatform escapeResponse ending
      (initial descriptors : StreamSystem ClientId DateTime)
      (.initial descriptors) where
  server := rfl
  clients := fun _ => rfl
  backlog := rfl
  accepted := rfl
  requests := rfl
  wired := fun _ => Activity.onCreate_wired
  responses := fun _ => Or.inr .nothing

variable
  (same :
    Matches platform clientPlatform escapeResponse ending stream system)

include same

theorem Matches.peer?
    (socket : SocketRef) :
    stream.peer? socket = system.peer? socket := by
  rw [StreamSystem.peer?, ChatSystem.peer?, same.accepted]

/-- The network lets the server do the same in both systems. -/
theorem Matches.permits
    {label : ServerLabel}
    (permitted : stream.PermitsServer label) :
    system.PermitsServer label := by
  cases label with
  | send action =>
      trivial
  | listen action =>
      cases action with
      | accept newClient connectionFD =>
          show system.backlog ≠ []
          rw [← same.backlog]
          exact permitted
      | read socket outcome now =>
          cases outcome with
          | data bytes =>
              obtain ⟨link, isPeer, isFront⟩ := permitted
              rw [same.peer?] at isPeer
              rw [same.requests] at isFront
              exact ⟨link, isPeer, isFront⟩
          | closed =>
              obtain ⟨link, isPeer, noBytes, ended⟩ := permitted
              rw [same.peer?] at isPeer
              rw [same.requests] at noBytes
              rw [StreamSystem.Ended, same.clients] at ended
              exact ⟨link, isPeer, noBytes, ended⟩
          | failed =>
              trivial
      | _ =>
          trivial

variable [DecidableEq ClientId]

omit same in
/-- A write changes the responses only. -/
theorem written_frame
    (socket : SocketRef)
    (text : Bytes)
    (outcome : WriteOutcome) :
    (stream.written socket text outcome).clients = stream.clients ∧
      (stream.written socket text outcome).backlog = stream.backlog ∧
        (stream.written socket text outcome).accepted =
            stream.accepted ∧
          (stream.written socket text outcome).requests =
            stream.requests := by
  unfold written
  split
  · split
    · split <;> exact ⟨rfl, rfl, rfl, rfl⟩
    · exact ⟨rfl, rfl, rfl, rfl⟩
  · exact ⟨rfl, rfl, rfl, rfl⟩

/-- A whole text is written in both systems, or in neither. -/
theorem Matches.written
    (laws :
      StreamLaws platform clientPlatform escapeRequest escapeResponse
        ending)
    {socket : SocketRef}
    {text : Bytes}
    {outcome : WriteOutcome}
    (whole : outcome = .written text.length ∨ outcome = .failed)
    {delivery : Delivery}
    {response : Response}
    (spells : Spells delivery response)
    (textual : Textual platform response)
    (isText :
      MessageJson.«to» platform (response.toJson platform) false =
        .ok text)
    {link : Link ClientId}
    (streamed :
      Streamed platform escapeResponse ending (system.responses link)
        (stream.responses link)) :
    Streamed platform escapeResponse ending
      ((system.written socket text outcome delivery).responses link)
      ((stream.written socket text outcome).responses link) := by
  rcases whole with rfl | rfl
  · unfold StreamSystem.written ChatSystem.written ChatSystem.deliver
    dsimp only
    rw [same.server, same.peer?]
    by_cases isOpen : (system.server.heap socket).isOpen = true
    · rw [if_pos isOpen, if_pos ⟨isOpen, rfl⟩]
      cases system.peer? socket with
      | none =>
          exact streamed
      | some target =>
          by_cases isTarget : link = target
          · subst isTarget
            simp only [Function.update_self, List.take_length]
            exact streamed.write laws spells textual isText
          · simp only [Function.update_of_ne isTarget]
            exact streamed
    · rw [if_neg isOpen, if_neg fun both => isOpen both.1]
      exact streamed
  · have nothing :
        system.written socket text .failed delivery = system := by
      simp [ChatSystem.written]
    rw [nothing]
    exact streamed

/-- A step of the server does the same to the rest of both networks. -/
theorem Matches.afterServer
    (label : ServerLabel) :
    (stream.afterServer label).clients = stream.clients ∧
      (stream.afterServer label).backlog =
          (system.afterServer label).backlog ∧
        (stream.afterServer label).accepted =
            (system.afterServer label).accepted ∧
          (stream.afterServer label).requests =
            (system.afterServer label).requests := by
  have quiet :
      stream.clients = stream.clients ∧
        stream.backlog = system.backlog ∧
          stream.accepted = system.accepted ∧
            stream.requests = system.requests :=
    ⟨rfl, same.backlog, same.accepted, same.requests⟩
  have writes (socket : SocketRef) (text : Bytes)
      (outcome : WriteOutcome) (delivery : Delivery) :
      (stream.written socket text outcome).clients = stream.clients ∧
        (stream.written socket text outcome).backlog =
            (system.written socket text outcome delivery).backlog ∧
          (stream.written socket text outcome).accepted =
              (system.written socket text outcome delivery).accepted ∧
            (stream.written socket text outcome).requests =
              (system.written socket text outcome
                delivery).requests := by
    obtain ⟨clients, backlog, accepted, requests⟩ :=
      @written_frame _ _ stream _ socket text outcome
    obtain ⟨otherAccepted, otherBacklog⟩ :=
      system.written_network socket text outcome delivery
    obtain ⟨_, otherRequests⟩ :=
      system.written_frame socket text outcome delivery
    rw [backlog, accepted, requests, otherBacklog, otherAccepted,
      otherRequests]
    exact ⟨clients, quiet.2⟩
  cases label with
  | send action =>
      cases action with
      | write message text socket targets remaining outcome =>
          simp only [StreamSystem.afterServer, ChatSystem.afterServer]
          split
          · obtain ⟨clients, backlog, accepted, requests⟩ :=
              @written_frame _ _ stream _ socket text outcome
            rw [backlog, accepted, requests]
            exact ⟨clients, quiet.2⟩
          · exact writes ..
      | _ =>
          exact quiet
  | listen action =>
      cases action with
      | accept newClient connectionFD =>
          simp only [StreamSystem.afterServer, ChatSystem.afterServer,
            same.backlog, same.accepted, same.requests, and_self]
      | read socket outcome now =>
          cases outcome with
          | data bytes =>
              simp only [StreamSystem.afterServer,
                ChatSystem.afterServer, same.peer?]
              cases system.peer? socket with
              | none =>
                  exact quiet
              | some link =>
                  simp only [same.backlog, same.accepted,
                    same.requests, and_self]
          | _ =>
              exact quiet
      | write socket text outcome =>
          exact writes ..
      | _ =>
          exact quiet

end Network

end StreamSystem

end ChatRelay
