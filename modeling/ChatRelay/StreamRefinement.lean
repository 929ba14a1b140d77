import ChatRelay.StreamMatching

namespace ChatRelay

/-!
# The byte streams refine the system

A system whose connections carry bytes does nothing that the system with whole
responses cannot do: as long as a reader thread lives, every read of it has been
one response.  A read that has found anything else has ended the thread.
-/

open LabelledRun
open Client (Activity ActivityLabel Announces ClientPlatform)
open Client (ResponseCallback Row visitContent)
open ChatSystem (accept answer)
open RequestFraming (ClientRequest)

namespace StreamSystem

variable {ClientId DateTime : Type}

/-! ### The steps of the server -/

section Steps

variable [DecidableEq ClientId] [DecidableEq DateTime]
variable
  {platform : Platform}
  {clientPlatform : ClientPlatform DateTime}
  {DATETIME_FORMAT : DateTime → String}
  {escapeRequest escapeResponse : Bytes → Bytes}
  {ending : Bytes}
  {descriptors : List Nat}
  {past : List (SystemLabel ClientId DateTime)}
  {stream : StreamSystem ClientId DateTime}
  {system : ChatSystem ClientId DateTime}

/-- What a step of the server sends is spelled by the bytes that it writes. -/
theorem Matches.streamed
    (laws :
      StreamLaws platform clientPlatform escapeRequest escapeResponse
        ending)
    (same :
      Matches platform clientPlatform escapeResponse ending stream system)
    (reached :
      run? (ChatSystem.step? platform DATETIME_FORMAT escapeRequest)
        (.initial descriptors) past = some system)
    {label : ServerLabel}
    {after : Server}
    (stepped : system.server.step? platform label = some after)
    (whole :
      WritesWhole (.server label : StreamLabel ClientId DateTime))
    {link : Link ClientId}
    (streamed :
      Streamed platform escapeResponse ending (system.responses link)
        (stream.responses link)) :
    Streamed platform escapeResponse ending
      ((system.afterServer label).responses link)
      ((stream.afterServer label).responses link) := by
  have served := (ChatSystem.keepsAnnouncements reached).served
  obtain ⟨alive, step⟩ := Server.step?_sound stepped
  cases label with
  | send action =>
      cases action with
      | write message text socket targets remaining outcome =>
          have writing :
              system.server.senderPc =
                .writing message text (socket :: targets) remaining := by
            cases step with
            | send step =>
                cases step <;> assumption
          obtain ⟨origin, isNext, visit, isRead, answers⟩ :=
            Server.written_answers served alive writing
          have isText := Server.textWritten_of_run served
          rw [writing] at isText
          have typed :=
            ChatSystem.requests_typed laws.requests reached visit.asked
              isRead
          have spells : Spells (.broadcast origin message) message :=
            rfl
          simp only [StreamSystem.afterServer, ChatSystem.afterServer,
            isNext]
          exact same.written laws whole spells
            (textual_of_answers laws typed answers) isText streamed
      | _ =>
          exact streamed
  | listen action =>
      cases action with
      | write socket text outcome =>
          have writing :
              system.server.listenPc = .write socket text := by
            cases step with
            | listen step =>
                cases step <;> assumption
          obtain ⟨_, pending, _, _, _, answering⟩ :=
            Server.requestsAnswered_of_run served alive
          rw [writing] at answering
          obtain ⟨visit, _, answers⟩ := answering
          cases answers with
          | @refused _ login now _ isText =>
              have spells :
                  Spells (.reply text) (Server.usernameInUse now) :=
                ⟨_, rfl⟩
              exact same.written laws whole spells
                (textual_usernameInUse laws now) isText streamed
      | read socket outcome now =>
          cases outcome with
          | data bytes =>
              simp only [StreamSystem.afterServer,
                ChatSystem.afterServer, same.peer?]
              cases system.peer? socket <;> exact streamed
          | _ =>
              exact streamed
      | _ =>
          exact streamed

/-- The server takes its step in both systems. -/
theorem Matches.server_step
    (laws :
      StreamLaws platform clientPlatform escapeRequest escapeResponse
        ending)
    (same :
      Matches platform clientPlatform escapeResponse ending stream system)
    (reached :
      run? (ChatSystem.step? platform DATETIME_FORMAT escapeRequest)
        (.initial descriptors) past = some system)
    {label : ServerLabel}
    {next : StreamSystem ClientId DateTime}
    (taken :
      step? platform clientPlatform DATETIME_FORMAT escapeRequest stream
          (.server label) =
        some next)
    (whole :
      WritesWhole (.server label : StreamLabel ClientId DateTime)) :
    ∃ after,
      ChatSystem.step? platform DATETIME_FORMAT escapeRequest system
          (.server label) =
        some after ∧
      Matches platform clientPlatform escapeResponse ending next after := by
  obtain ⟨permitted, server, stepped, rfl⟩ := step?_server taken
  rw [same.server] at stepped
  obtain ⟨clients, backlog, accepted, requests⟩ :=
    same.afterServer label
  have sends := @ChatSystem.afterServer_sends _ _ system _ label
  refine ⟨_, ChatSystem.server_moves (same.permits permitted) stepped,
    rfl, ?_, backlog, accepted, requests, ?_, ?_⟩
  · intro client
    dsimp only
    rw [clients, sends.clients]
    exact same.clients client
  · intro client
    dsimp only
    rw [sends.clients]
    exact same.wired client
  · intro link
    dsimp only
    rw [sends.clients]
    exact (same.responses link).imp id
      (same.streamed laws reached stepped whole)

/-! ### The steps of the clients -/

omit [DecidableEq DateTime] in
/-- A label with other rows is a step of a client itself, or both are not. -/
theorem permitsClient_of_isOwn
    {client : ClientId}
    {own : ActivityLabel DateTime Announcement Response.Message}
    (isOwn :
      IsOwn
        (own.map (loginObject platform clientPlatform)
          (messageObject platform clientPlatform))) :
    system.PermitsClient client own ∧
      (system.afterClient DATETIME_FORMAT escapeRequest client own).responses =
        system.responses := by
  cases own with
  | visitRow connection row =>
      exact isOwn.elim
  | visitError connection message =>
      exact isOwn.elim
  | background task result =>
      refine ⟨trivial, ?_⟩
      cases task <;> cases result <;> rfl
  | _ =>
      exact ⟨trivial, rfl⟩

omit [DecidableEq DateTime] in
/-- A step of a client does the same to the rest of both networks. -/
theorem Matches.afterClient
    (same :
      Matches platform clientPlatform escapeResponse ending stream system)
    (client : ClientId)
    (own : ActivityLabel DateTime Announcement Response.Message) :
    let label :=
      own.map (loginObject platform clientPlatform)
        (messageObject platform clientPlatform)
    let before :=
      stream.afterClient DATETIME_FORMAT escapeRequest client label
    let after :=
      system.afterClient DATETIME_FORMAT escapeRequest client own
    before.server = stream.server ∧
      before.backlog = after.backlog ∧
        before.accepted = after.accepted ∧
          before.requests = after.requests ∧
            before.responses = stream.responses := by
  intro label before after
  have quiet :
      stream.server = stream.server ∧
        stream.backlog = system.backlog ∧
          stream.accepted = system.accepted ∧
            stream.requests = system.requests ∧
              stream.responses = stream.responses :=
    ⟨rfl, same.backlog, same.accepted, same.requests, rfl⟩
  cases own with
  | background task result =>
      cases task with
      | socketConnect connection req =>
          cases result with
          | ok done =>
              refine ⟨rfl, ?_, same.accepted, same.requests, rfl⟩
              exact congrArg (· ++ [(client, connection)]) same.backlog
          | error text =>
              exact quiet
      | send connection message =>
          cases result with
          | ok done =>
              refine ⟨rfl, same.backlog, same.accepted, ?_, rfl⟩
              show Function.update stream.requests _ _ = _
              rw [same.requests]
              rfl
          | error text =>
              exact quiet
      | resend obj =>
          cases result <;> exact quiet
  | _ =>
      exact quiet

/-- A client has moved in both systems. -/
theorem Matches.moved
    (same :
      Matches platform clientPlatform escapeResponse ending stream system)
    {client : ClientId}
    {own : ActivityLabel DateTime Announcement Response.Message}
    {after : ChatClient DateTime}
    (stepped : (system.clients client).step? own = some after) :
    (∀ other,
      Function.update stream.clients client
          (fed platform clientPlatform after) other =
        fed platform clientPlatform
          (Function.update system.clients client after other)) ∧
      (∀ other, (Function.update system.clients client after
        other).Wired) ∧
        ∀ link : Link ClientId,
          ((system.clients link.1).connections
              link.2).readThread.Over →
          ((Function.update system.clients client after
              link.1).connections link.2).readThread.Over := by
  refine ⟨?_, ?_, ?_⟩
  · intro other
    by_cases isClient : other = client
    · subst isClient
      rw [Function.update_self, Function.update_self]
    · rw [Function.update_of_ne isClient, Function.update_of_ne isClient]
      exact same.clients other
  · intro other
    by_cases isClient : other = client
    · subst isClient
      rw [Function.update_self]
      exact (same.wired other).step stepped
    · rw [Function.update_of_ne isClient]
      exact same.wired other
  · intro link isOver
    by_cases isClient : link.1 = client
    · subst isClient
      rw [Function.update_self]
      exact Activity.over_step (same.wired link.1) stepped isOver
    · rw [Function.update_of_ne isClient]
      exact isOver

/-- A client takes a step of its own in both systems. -/
theorem Matches.client_step
    (same :
      Matches platform clientPlatform escapeResponse ending stream system)
    {client : ClientId}
    {label : StreamActivityLabel DateTime}
    {next : StreamSystem ClientId DateTime}
    (taken :
      step? platform clientPlatform DATETIME_FORMAT escapeRequest stream
          (.client client label) =
        some next) :
    ∃ own after,
      own.map (loginObject platform clientPlatform)
          (messageObject platform clientPlatform) = label ∧
        ChatSystem.step? platform DATETIME_FORMAT escapeRequest system
            (.client client own) =
          some after ∧
          Matches platform clientPlatform escapeResponse ending next after := by
  obtain ⟨isOwn, fedAfter, stepped, rfl⟩ := step?_client taken
  rw [same.clients] at stepped
  have noRow : ∀ connection row, label ≠ .visitRow connection row := by
    rintro connection row rfl
    exact isOwn
  obtain ⟨own, after, rfl, ownStepped, rfl⟩ :=
    Activity.step?_of_map stepped noRow
  obtain ⟨permitted, responses⟩ :=
    @permitsClient_of_isOwn _ _ _ platform clientPlatform
      DATETIME_FORMAT escapeRequest system client own isOwn
  obtain ⟨server, backlog, accepted, requests, bytes⟩ :=
    @Matches.afterClient _ _ _ _ _ DATETIME_FORMAT _ _ _ _ _ same
      client own
  obtain ⟨clients, wired, isOver⟩ := same.moved ownStepped
  obtain ⟨sameServer, _⟩ :=
    @ChatSystem.afterClient_server _ _ system _ DATETIME_FORMAT
      escapeRequest client own
  refine ⟨own, _, rfl, ChatSystem.client_moves permitted ownStepped,
    ?_, clients, backlog, accepted, requests, wired, ?_⟩
  · dsimp only
    rw [server, sameServer]
    exact same.server
  · intro link
    dsimp only
    rw [responses, bytes]
    exact (same.responses link).imp (isOver link) id

/-- A reader thread has taken the first response of its connection. -/
theorem Matches.received
    (same :
      Matches platform clientPlatform escapeResponse ending stream system)
    {client : ClientId}
    {connection : Nat}
    {own : ActivityLabel DateTime Announcement Response.Message}
    {after : ChatClient DateTime}
    (stepped : (system.clients client).step? own = some after)
    {content rest : Bytes}
    (isFront :
      content ++ rest = stream.responses (client, connection))
    (streamed :
      Streamed platform escapeResponse ending
        (system.responses (client, connection)).tail rest) :
    Matches platform clientPlatform escapeResponse ending
      { stream.afterRead (client, connection) content with
        clients :=
          Function.update stream.clients client
            (fed platform clientPlatform after) }
      { system.received (client, connection) with
        clients := Function.update system.clients client after } := by
  obtain ⟨clients, wired, isOver⟩ := same.moved stepped
  refine ⟨same.server, clients, same.backlog, same.accepted,
    same.requests, wired, ?_⟩
  intro link
  dsimp only [StreamSystem.afterRead, ChatSystem.received]
  by_cases isLink : link = (client, connection)
  · subst isLink
    simp only [Function.update_self, ← isFront, List.drop_left]
    exact Or.inr streamed
  · rw [Function.update_of_ne isLink, Function.update_of_ne isLink]
    exact (same.responses link).imp (isOver link) id

/-- A read that is no response ends the reader thread. -/
theorem Matches.failed
    (same :
      Matches platform clientPlatform escapeResponse ending stream system)
    {client : ClientId}
    {connection : Nat}
    {message : String}
    {after : ChatClient DateTime}
    (stepped :
      (system.clients client).step? (.readFails connection message) =
        some after)
    (content : Bytes) :
    Matches platform clientPlatform escapeResponse ending
      { stream.afterRead (client, connection) content with
        clients :=
          Function.update stream.clients client
            (fed platform clientPlatform after) }
      { system with
        clients := Function.update system.clients client after } := by
  obtain ⟨clients, wired, isOver⟩ := same.moved stepped
  refine ⟨same.server, clients, same.backlog, same.accepted,
    same.requests, wired, ?_⟩
  intro link
  dsimp only [StreamSystem.afterRead]
  by_cases isLink : link = (client, connection)
  · subst isLink
    refine Or.inl ?_
    obtain ⟨_, rfl⟩ := guarded_eq_some.mp stepped
    simp only [Function.update_self, Activity.sendMessage,
      Activity.setConnection]
    trivial
  · rw [Function.update_of_ne isLink]
    exact (same.responses link).imp (isOver link) id

omit [DecidableEq ClientId] [DecidableEq DateTime] in
/-- What a reader thread has read is the first response on its way. -/
theorem Matches.visited
    (laws :
      StreamLaws platform clientPlatform escapeRequest escapeResponse
        ending)
    (same :
      Matches platform clientPlatform escapeResponse ending stream system)
    {client : ClientId}
    {connection : Nat}
    (running :
      ((system.clients client).connections connection).readThread =
        .running)
    {content rest : Bytes}
    (isFront :
      content ++ rest = stream.responses (client, connection))
    {now : DateTime}
    {callback : ResponseCallback DateTime}
    (visits : visitContent clientPlatform content now = .ok callback) :
    ∃ delivery response,
      (system.responses (client, connection)).head? = some delivery ∧
        Spells delivery response ∧
          Announces clientPlatform platform response callback ∧
            Streamed platform escapeResponse ending
              (system.responses (client, connection)).tail rest := by
  rcases same.responses (client, connection) with isOver | streamed
  · rw [running] at isOver
    exact isOver.elim
  · rw [← isFront] at streamed
    obtain ⟨delivery, others, response, isFirst, spells, announces,
        left⟩ :=
      streamed.read laws visits
    rw [isFirst]
    exact ⟨delivery, response, rfl, spells, announces, left⟩

omit [DecidableEq ClientId] [DecidableEq DateTime] in
/-- The row that is posted is made of the row of the response. -/
theorem row_of_announces
    {delivery : Delivery}
    {response : Response}
    (spells : Spells delivery response)
    {callback : ResponseCallback DateTime}
    (announces :
      Announces clientPlatform platform response callback)
    (connection : Nat)
    (message : String) :
    (∃ row,
      delivery.row? = some row ∧
        readerLabel connection message (.ok callback) =
          .visitRow connection
            (row.map (loginObject platform clientPlatform)
              (messageObject platform clientPlatform))) ∨
      delivery.row? = none ∧
        readerLabel connection message
            (.ok callback : Except Client.JavaException _) =
          .visitError connection message := by
  cases callback with
  | visitLogin login =>
      cases response with
      | login response =>
          obtain ⟨⟨time, parses, dateTime⟩, _, joining⟩ := announces
          cases delivery with
          | broadcast origin pushed =>
              obtain rfl := spells
              refine Or.inl ⟨.login ⟨origin, response⟩, rfl, ?_⟩
              simp only [readerLabel, Row.map, loginObject, dateTime,
                joining, parses]
          | reply text =>
              obtain ⟨error, isError⟩ := spells
              contradiction
      | message response | error response =>
          exact announces.elim
  | visitMessage chat =>
      cases response with
      | message response =>
          obtain ⟨⟨time, parses, dateTime⟩, _, content, originator⟩ :=
            announces
          cases delivery with
          | broadcast origin pushed =>
              obtain rfl := spells
              refine Or.inl ⟨.message response, rfl, ?_⟩
              simp only [readerLabel, Row.map, messageObject, dateTime,
                content, originator, parses]
          | reply text =>
              obtain ⟨error, isError⟩ := spells
              contradiction
      | login response | error response =>
          exact announces.elim
  | visitError error =>
      cases response with
      | error response =>
          refine Or.inr ⟨?_, rfl⟩
          cases delivery with
          | broadcast origin pushed =>
              obtain rfl := spells
              rfl
          | reply text =>
              rfl
      | login response | message response =>
          exact announces.elim

/-- A reader thread takes its step in both systems. -/
theorem Matches.read_step
    (laws :
      StreamLaws platform clientPlatform escapeRequest escapeResponse
        ending)
    (same :
      Matches platform clientPlatform escapeResponse ending stream system)
    {client : ClientId}
    {connection : Nat}
    {content : Bytes}
    {now : DateTime}
    {message : String}
    {next : StreamSystem ClientId DateTime}
    (taken :
      step? platform clientPlatform DATETIME_FORMAT escapeRequest stream
          (.read client connection content now message) =
        some next) :
    ∃ label after,
      Hears platform clientPlatform label
          (.read client connection content now message) ∧
        ChatSystem.step? platform DATETIME_FORMAT escapeRequest system label =
          some after ∧
          Matches platform clientPlatform escapeResponse ending next after := by
  obtain ⟨⟨_, _, rest, isFront⟩, _, fedAfter, stepped, rfl⟩ :=
    step?_read taken
  rw [same.clients] at stepped
  cases visits : visitContent clientPlatform content now with
  | error exception =>
      rw [visits] at stepped
      obtain ⟨own, after, isOwn, ownStepped, rfl⟩ :=
        Activity.step?_of_map stepped (fun _ _ => nofun)
      obtain rfl : own = .readFails connection message := by
        cases own <;> cases isOwn
        rfl
      exact ⟨_, _, .failure client connection content now message,
        ChatSystem.client_moves trivial ownStepped,
        same.failed ownStepped content⟩
  | ok callback =>
      have running :
          ((system.clients client).connections connection).readThread =
            .running := by
        rw [visits] at stepped
        cases callback <;>
          exact (guarded_eq_some.mp stepped).1.2
      obtain ⟨delivery, response, isHead, spells, announces, streamed⟩ :=
        same.visited laws running isFront visits
      rw [visits] at stepped
      rcases row_of_announces spells announces connection message with
          ⟨row, isRow, isLabel⟩ | ⟨noRow, isLabel⟩
      · rw [isLabel] at stepped
        obtain ⟨after, ownStepped, rfl⟩ :=
          Activity.step?_visitRow_of_map stepped
        exact ⟨_, _, .row client connection row content now message,
          ChatSystem.client_moves ⟨delivery, isHead, isRow⟩ ownStepped,
          same.received ownStepped isFront streamed⟩
      · rw [isLabel] at stepped
        obtain ⟨own, after, isOwn, ownStepped, rfl⟩ :=
          Activity.step?_of_map stepped (fun _ _ => nofun)
        obtain rfl : own = .visitError connection message := by
          cases own <;> cases isOwn
          rfl
        exact ⟨_, _, .error client connection content now message,
          ChatSystem.client_moves ⟨delivery, isHead, noRow⟩ ownStepped,
          same.received ownStepped isFront streamed⟩

/-! ### The runs -/

variable
  {labels : List (StreamLabel ClientId DateTime)}
  {state : StreamSystem ClientId DateTime}

/-- Every run over byte streams is matched by a run with whole responses. -/
theorem matched_of_run
    (laws :
      StreamLaws platform clientPlatform escapeRequest escapeResponse
        ending)
    (reached :
      run? (step? platform clientPlatform DATETIME_FORMAT escapeRequest)
        (initial descriptors) labels = some state)
    (whole : ∀ label ∈ labels, WritesWhole label) :
    ∃ past system,
      run? (ChatSystem.step? platform DATETIME_FORMAT escapeRequest)
          (.initial descriptors) past =
        some system ∧
        List.Forall₂ (Hears platform clientPlatform) past labels ∧
          Matches platform clientPlatform escapeResponse ending state
            system := by
  revert whole
  refine @LabelledRun.invariant _ _ _ _
    (fun labels state =>
      (∀ label ∈ labels, WritesWhole label) →
      ∃ past system,
        run? (ChatSystem.step? platform DATETIME_FORMAT escapeRequest)
            (.initial descriptors) past =
          some system ∧
          List.Forall₂ (Hears platform clientPlatform) past labels ∧
            Matches platform clientPlatform escapeResponse ending state system)
    ?_ ?_ _ _ reached
  · exact fun _ => ⟨[], _, rfl, .nil, .initial descriptors⟩
  · intro before state label next _ matched taken whole
    obtain ⟨wholeBefore, wholeLast⟩ := List.forall_mem_append.mp whole
    obtain ⟨past, system, reached, hears, same⟩ := matched wholeBefore
    have followed :
        ∃ last after,
          Hears platform clientPlatform last label ∧
            ChatSystem.step? platform DATETIME_FORMAT escapeRequest system
                last =
              some after ∧
              Matches platform clientPlatform escapeResponse ending next
                after := by
      cases label with
      | server label =>
          obtain ⟨after, moved, sameNext⟩ :=
            same.server_step laws reached taken
              (wholeLast _ List.mem_cons_self)
          exact ⟨_, after, .server label, moved, sameNext⟩
      | client client label =>
          obtain ⟨own, after, rfl, moved, sameNext⟩ :=
            same.client_step taken
          exact ⟨_, after, .client client own, moved, sameNext⟩
      | read client connection content now message =>
          exact same.read_step laws taken
    obtain ⟨last, after, hearsLast, moved, sameNext⟩ := followed
    refine ⟨past ++ [last], after, ?_,
      List.rel_append hears (.cons hearsLast .nil), sameNext⟩
    rw [run?_concat, reached]
    exact moved

/--
Every run of the system over byte streams, in which every write of the server
takes a whole text or fails, is a run of the system with whole responses, label
by label: the server is in the same state, and the activity of every client in
the same state but for what its rows carry.  So however the network cuts the
bytes in both directions, a client cannot tell the two systems apart.
-/
theorem streams_refine
    (laws :
      StreamLaws platform clientPlatform escapeRequest escapeResponse
        ending)
    (reached :
      run? (step? platform clientPlatform DATETIME_FORMAT escapeRequest)
        (initial descriptors) labels = some state)
    (whole : ∀ label ∈ labels, WritesWhole label) :
    ∃ past system,
      run? (ChatSystem.step? platform DATETIME_FORMAT escapeRequest)
          (.initial descriptors) past =
        some system ∧
        List.Forall₂ (Hears platform clientPlatform) past labels ∧
          state.server = system.server ∧
            ∀ client,
              state.clients client =
                fed platform clientPlatform (system.clients client) := by
  obtain ⟨past, system, ran, hears, same⟩ :=
    matched_of_run laws reached whole
  exact ⟨past, system, ran, hears, same.server, same.clients⟩

end Steps

/-! ### A client over byte streams -/

/-- What the server has done in a run of the system. -/
def serverLabel? {ClientId DateTime : Type} :
    SystemLabel ClientId DateTime → Option ServerLabel
  | .server label =>
      some label
  | .client _ _ =>
      none

/-- The row that the client posts for the answer. -/
def streamLogInRow : Row (LoginObject Bytes) (MessageObject Bytes) :=
  .login (loginObject .reference .reference ⟨0, answer "ann"⟩)

/--
A client logs in alone; the server reads the request in one piece, and so does
the client the answer, which its room is not ready to show.
-/
def streamLogIn : List (StreamLabel Nat Bytes) :=
  let now := ascii "10:00"
  let req : ClientRequest Bytes := .LoginRequest now "ann"
  let response : Response := .login (answer "ann")
  let text := JsonText.value JsonText.escape (response.toJson .reference)
  [.client 0 (.login now "ann"),
    .client 0 (.background (.socketConnect 0 req) (.ok ()))] ++
  (ServerLabel.connect [] 0 4).map .server ++
  [.client 0 (.main (.connectPostExecute 0 req (.ok ())) now),
    .client 0 (.background (.send 0 req) (.ok ())),
    .client 0 (.main (.sendPostExecute 0 req (.ok ())) now),
    .client 0 (.main (.handleMessage .ExpectingLogin) now)] ++
  ((accept [4] 0 "ann" [0]).filterMap serverLabel?).map .server ++
  [.read 0 0 text now "",
    .client 0 (.main (.handleMessage (.Display ⟨0, streamLogInRow⟩)) now)]

/-- The reference platforms speak with each other. -/
theorem streamLaws :
    StreamLaws .reference ClientPlatform.reference JsonText.escape
      JsonText.escape [] where
  requests := JsonText.reader
  responses := Client.gsonReader
  spaces := by
    simp [JsonText.Spaces]
  writes := Platform.reference_writesCompact
  time_unicode := fun time => ⟨_, rfl⟩

/-- The steps of the system on the reference platforms. -/
abbrev streamStep? :=
  @step? Nat Bytes _ _ .reference .reference (fun _ => "10:00")
    JsonText.escape

theorem streamLogIn_whole :
    ∀ label ∈ streamLogIn, WritesWhole label := by
  decide +kernel

/-- The client that logs in has a run with whole responses. -/
theorem streams_refine_streamLogIn :
    ∃ final,
      run? streamStep? (initial [0, 1, 2, 3]) streamLogIn = some final ∧
        (final.clients 0).loggedIn = true ∧
          ∃ past system,
            run?
                (ChatSystem.step? .reference (fun _ => "10:00")
                  JsonText.escape)
                (.initial [0, 1, 2, 3]) past =
              some system ∧
              List.Forall₂ (Hears .reference .reference) past
                  streamLogIn ∧
                final.server = system.server ∧
                  ∀ client,
                    final.clients client =
                      fed .reference .reference
                        (system.clients client) := by
  have finished :
      (run? streamStep? (initial [0, 1, 2, 3]) streamLogIn).map
          (fun final => (final.clients 0).loggedIn) =
        some true := by
    decide +kernel
  obtain ⟨final, reached, isIn⟩ := Option.map_eq_some_iff.mp finished
  exact ⟨final, reached, isIn,
    streams_refine streamLaws reached streamLogIn_whole⟩

end StreamSystem

end ChatRelay
