import Mathlib.Data.List.Basic
import ChatRelay.ChatSystem
import ChatRelay.ClientDisplayOrder

namespace ChatRelay.ChatSystem

/-!
# Login agreement

Every login response between the server and a client answers a login that the
server has accepted, but not one of that client.  The server writes it to
everybody, and a client that is not logged in takes the first one for the
answer to its own request.
-/

open LabelledRun
open Client (Activity ActivityLabel Row HandlerMessage MainTask)
open Client.Activity
open RequestFraming (ClientRequest)
open Server (AcceptedLogin)

variable {ClientId DateTime : Type}

/-- A socket of the server is the other end of a connection of a client. -/
def Owns
    (system : ChatSystem ClientId DateTime)
    (client : ClientId)
    (socket : SocketRef) : Prop :=
  ∃ entry ∈ system.accepted, entry.1 = socket ∧ entry.2.1 = client

instance
    (system : ChatSystem ClientId DateTime)
    [DecidableEq ClientId]
    (client : ClientId)
    (socket : SocketRef) :
    Decidable (system.Owns client socket) :=
  inferInstanceAs (Decidable (∃ entry ∈ system.accepted, _))

/-- The server has accepted a login under a name from a socket. -/
def AcceptedUnder
    (log : List ServerLabel)
    (socket : SocketRef)
    (username : Bytes) : Prop :=
  ∃ login now response,
    ServerLabel.listen
        (.visitLogin socket login now (.login response)) ∈ log ∧
      login.sender = username

/--
A client that is logged in has been accepted by the server under its current
username and over a connection of its own.
-/
def LoginsAgree (system : ChatSystem ClientId DateTime) : Prop :=
  ∀ client,
    (system.clients client).loggedIn = true →
    ∃ socket,
      system.Owns client socket ∧
        AcceptedUnder system.log socket
          (ascii (system.clients client).username)

/--
A step in which a client takes only its own answers for its own: a
`DisplayLogin` that logs a client in answers a request of that client under its
current username, and the username of a client that is logged in stays.
-/
def TakesOwnAnswer
    (system : ChatSystem ClientId DateTime) :
    SystemLabel ClientId DateTime → Prop
  | .client client
      (.main (.handleMessage (.Display ⟨_, .login login⟩)) _) =>
      (system.clients client).loggedIn = false →
        system.Owns client login.origin ∧
          login.response.joiningUsername =
            ascii (system.clients client).username
  | .client client
      (.main (.sendPostExecute _ (.LoginRequest _ mSender) (.ok ())) _) =>
      (system.clients client).loggedIn = true →
        mSender = (system.clients client).username
  | _ =>
      True

instance
    (system : ChatSystem ClientId DateTime)
    [DecidableEq ClientId]
    (label : SystemLabel ClientId DateTime) :
    Decidable (system.TakesOwnAnswer label) := by
  unfold TakesOwnAnswer
  split <;> infer_instance

/-- A row is no login or one that the server has accepted. -/
def Announced
    (log : List ServerLabel)
    (row : Row Announcement Response.Message) : Prop :=
  ∀ login,
    row = .login login →
    AcceptedLogin log login.origin login.response

theorem Announced.mono
    {before after : List ServerLabel}
    {row : Row Announcement Response.Message}
    (announced : Announced before row)
    (more : before ⊆ after) :
    Announced after row :=
  fun login isLogin => (announced login isLogin).mono more

/-- What keeps the announcements between the server and the clients true. -/
structure KeepsAnnouncements
    (platform : Platform)
    (descriptors : List Nat)
    (system : ChatSystem ClientId DateTime) : Prop where
  served :
    run? (Server.step? platform) (Server.initial descriptors)
      system.log = some system.server
  delivered :
    ∀ link,
      ∀ delivery ∈ system.responses link,
      ∀ row, delivery.row? = some row → Announced system.log row
  pending :
    ∀ client,
      ∀ obj ∈ (system.clients client).waitingRows ++
        (system.clients client).stalledRows,
      Announced system.log obj.row
  roomExists :
    ∀ client, (system.clients client).RoomExists

theorem KeepsAnnouncements.initial
    (platform : Platform)
    (descriptors : List Nat) :
    KeepsAnnouncements platform descriptors
      (initial descriptors : ChatSystem ClientId DateTime) where
  served := rfl
  delivered := by
    intro link delivery inNothing
    contradiction
  pending := by
    intro client obj inNothing
    contradiction
  roomExists := by
    intro client ready
    contradiction

/-! ### The announcements of a run -/

section Steps

variable [DecidableEq ClientId] [DecidableEq DateTime]
variable
  {platform : Platform}
  {DATETIME_FORMAT : DateTime → String}
  {escape : Bytes → Bytes}
  {descriptors : List Nat}
  {system next : ChatSystem ClientId DateTime}

omit [DecidableEq ClientId] [DecidableEq DateTime] in
/-- What the server sends has been announced. -/
theorem KeepsAnnouncements.sent
    {label : ServerLabel}
    {after : Server}
    (keeps : KeepsAnnouncements platform descriptors system)
    (stepped : system.server.step? platform label = some after)
    {delivery : Delivery}
    (isSent : IsSent system.log label delivery)
    {row : Row Announcement Response.Message}
    (isRow : delivery.row? = some row) :
    Announced system.log row := by
  cases isSent with
  | reply text =>
      contradiction
  | @broadcast message pushed text socket origin targets remaining
      outcome next =>
      obtain ⟨_, step⟩ := Server.step?_sound stepped
      have writing :
          system.server.senderPc =
            .writing message text (socket :: targets) remaining := by
        cases step with
        | send step =>
            cases step <;> assumption
      obtain ⟨other, isNext, accepted⟩ :=
        Server.written_push keeps.served writing
      rw [next] at isNext
      obtain ⟨rfl, rfl⟩ := Prod.mk.inj (Option.some.inj isNext)
      rintro login rfl
      cases pushed with
      | login response =>
          cases isRow
          exact accepted response rfl
      | message response =>
          cases isRow
      | error response =>
          cases isRow

theorem KeepsAnnouncements.server
    {label : ServerLabel}
    (keeps : KeepsAnnouncements platform descriptors system)
    (taken :
      step? platform DATETIME_FORMAT escape system (.server label) =
        some next) :
    KeepsAnnouncements platform descriptors next := by
  obtain ⟨after, stepped, rfl⟩ := step?_server taken
  have sends := @afterServer_sends _ _ system _ label
  have more : system.log ⊆ system.log ++ [label] :=
    List.subset_append_left _ _
  refine ⟨?_, ?_, ?_, ?_⟩
  · show run? _ _ (system.log ++ [label]) = some after
    rw [run?_concat, keeps.served]
    exact stepped
  · intro link delivery isDelivery row isRow
    rcases sends.responses link delivery isDelivery with before | isSent
    · exact (keeps.delivered link delivery before row isRow).mono more
    · exact (keeps.sent stepped isSent isRow).mono more
  · intro client obj isPending
    have before :
        obj ∈ (system.clients client).waitingRows ++
          (system.clients client).stalledRows := by
      rw [← sends.clients]
      exact isPending
    exact (keeps.pending client obj before).mono more
  · intro client
    show (((system.afterServer label).clients client).RoomExists)
    rw [sends.clients]
    exact keeps.roomExists client

omit [DecidableEq ClientId] [DecidableEq DateTime] in
/-- What is pending at a client was pending before or has just been read. -/
theorem KeepsAnnouncements.read
    {client : ClientId}
    {label : ActivityLabel DateTime Announcement Response.Message}
    {after : ChatClient DateTime}
    (keeps : KeepsAnnouncements platform descriptors system)
    (permitted : system.PermitsClient client label)
    (step :
      DeferredQueue.Step (system.clients client).queue
        ((system.clients client).queueEvent label) after.queue)
    {obj : Client.Display Announcement Response.Message}
    (isPending : obj ∈ after.waitingRows ++ after.stalledRows) :
    Announced system.log obj.row := by
  rcases step.pending isPending with before | isPost
  · exact keeps.pending client obj before
  · rw [posted?_queueEvent] at isPost
    obtain ⟨row, visited, rfl⟩ := Option.map_eq_some_iff.mp isPost
    cases label with
    | visitRow connection other =>
        cases visited
        obtain ⟨delivery, isHead, isRow⟩ := permitted
        exact keeps.delivered _ delivery (List.mem_of_mem_head? isHead)
          row isRow
    | _ =>
        contradiction

theorem KeepsAnnouncements.client
    {client : ClientId}
    {label : ActivityLabel DateTime Announcement Response.Message}
    (keeps : KeepsAnnouncements platform descriptors system)
    (taken :
      step? platform DATETIME_FORMAT escape system
          (.client client label) =
        some next) :
    KeepsAnnouncements platform descriptors next := by
  obtain ⟨permitted, after, stepped, rfl⟩ := step?_client taken
  have sends :=
    @afterClient_sends _ _ system _ DATETIME_FORMAT escape client label
  obtain ⟨sameServer, sameLog⟩ :=
    @afterClient_server _ _ system _ DATETIME_FORMAT escape client label
  obtain ⟨step, roomExists⟩ :=
    queue_step (keeps.roomExists client) stepped
  refine ⟨?_, ?_, ?_, ?_⟩
  · dsimp only
    rw [sameServer, sameLog]
    exact keeps.served
  · dsimp only
    rw [sameLog]
    intro link delivery isDelivery
    rcases sends.responses link delivery isDelivery with before | sent
    · exact keeps.delivered link delivery before
    · contradiction
  · dsimp only
    rw [sameLog]
    refine (Function.forall_update_iff system.clients
      (p := fun _ activity =>
        ∀ obj ∈ activity.waitingRows ++ activity.stalledRows,
          Announced system.log obj.row)).mpr ⟨?_, ?_⟩
    · intro obj isPending
      exact keeps.read permitted step isPending
    · intro other _
      exact keeps.pending other
  · exact (Function.forall_update_iff system.clients
      (p := fun _ activity => activity.RoomExists)).mpr
        ⟨roomExists, fun other _ => keeps.roomExists other⟩

theorem keepsAnnouncements
    {labels : List (SystemLabel ClientId DateTime)}
    (reached :
      run? (step? platform DATETIME_FORMAT escape)
        (initial descriptors) labels = some system) :
    KeepsAnnouncements platform descriptors system := by
  refine stateInvariant (.initial platform descriptors) ?_ reached
  intro state label next keeps taken
  cases label with
  | server label =>
      exact keeps.server taken
  | client client label =>
      exact keeps.client taken

/-! ### The agreement of a run -/

omit [DecidableEq ClientId] [DecidableEq DateTime] in
/-- A client that stays as it is stays in agreement. -/
theorem LoginsAgree.of_same
    {client : ClientId}
    (agree : LoginsAgree system)
    (accepted : system.accepted ⊆ next.accepted)
    (log : system.log ⊆ next.log)
    (loggedIn :
      (next.clients client).loggedIn = true →
      (system.clients client).loggedIn = true ∧
        (next.clients client).username =
          (system.clients client).username)
    (isIn : (next.clients client).loggedIn = true) :
    ∃ socket,
      next.Owns client socket ∧
        AcceptedUnder next.log socket
          (ascii (next.clients client).username) := by
  obtain ⟨wasIn, sameName⟩ := loggedIn isIn
  obtain ⟨socket, ⟨entry, isEntry, owned⟩, login, now, response,
      visited, named⟩ := agree client wasIn
  rw [sameName]
  exact ⟨socket, ⟨entry, accepted isEntry, owned⟩, login, now,
    response, log visited, named⟩

theorem LoginsAgree.server
    {label : ServerLabel}
    (agree : LoginsAgree system)
    (taken :
      step? platform DATETIME_FORMAT escape system (.server label) =
        some next) :
    LoginsAgree next := by
  obtain ⟨after, _, rfl⟩ := step?_server taken
  have sends := @afterServer_sends _ _ system _ label
  intro client
  refine agree.of_same sends.accepted (List.subset_append_left _ _) ?_
  intro isIn
  have sameClient :
      (system.afterServer label).clients client =
        system.clients client := by
    rw [sends.clients]
  rw [← sameClient]
  exact ⟨isIn, rfl⟩

omit [DecidableEq ClientId] [DecidableEq DateTime] in
/-- A `DisplayLogin` that a client takes as its own answer logs it in as agreed. -/
theorem KeepsAnnouncements.ownAnswer
    {client : ClientId}
    {ref : Nat}
    {login : Announcement}
    (keeps : KeepsAnnouncements platform descriptors system)
    (first :
      (system.clients client).mainQueue.head? =
        some (.handleMessage (.Display ⟨ref, .login login⟩)))
    (owns : system.Owns client login.origin)
    (named :
      login.response.joiningUsername =
        ascii (system.clients client).username) :
    ∃ socket,
      system.Owns client socket ∧
        AcceptedUnder system.log socket
          (ascii (system.clients client).username) := by
  have isPending :
      (⟨ref, .login login⟩ : Client.Display _ Response.Message) ∈
        (system.clients client).waitingRows := by
    rw [waitingRows_cons first]
    exact List.mem_cons_self ..
  obtain ⟨request, now, visited, sameName⟩ :=
    keeps.pending client _ (List.mem_append_left _ isPending)
      login rfl
  exact ⟨login.origin, owns, request, now, login.response, visited,
    sameName.trans named⟩

omit [DecidableEq ClientId] [DecidableEq DateTime] in
/-- What the main thread of a client runs keeps it in agreement. -/
theorem LoginsAgree.main
    {client : ClientId}
    {task : MainTask DateTime Announcement Response.Message}
    {now : DateTime}
    (agree : LoginsAgree system)
    (keeps : KeepsAnnouncements platform descriptors system)
    (takesOwn : system.TakesOwnAnswer (.client client (.main task now)))
    (first : (system.clients client).mainQueue.head? = some task)
    (accepted : system.accepted ⊆ next.accepted)
    (log : system.log ⊆ next.log)
    (sameLogin :
      (next.clients client).loggedIn =
        loggedInAfter (system.clients client).loggedIn task)
    (sameName :
      (next.clients client).username =
        usernameAfter (system.clients client).username task)
    (isIn : (next.clients client).loggedIn = true) :
    ∃ socket,
      next.Owns client socket ∧
        AcceptedUnder next.log socket
          (ascii (next.clients client).username) := by
  have same :
      loggedInAfter (system.clients client).loggedIn task =
        (system.clients client).loggedIn →
      ((system.clients client).loggedIn = true →
        usernameAfter (system.clients client).username task =
          (system.clients client).username) →
      ∃ socket,
        next.Owns client socket ∧
          AcceptedUnder next.log socket
            (ascii (next.clients client).username) := by
    intro stays keepsName
    refine agree.of_same accepted log ?_ isIn
    intro nextIn
    rw [sameLogin, stays] at nextIn
    exact ⟨nextIn, sameName.trans (keepsName nextIn)⟩
  rcases task_cases task with ⟨⟨ref, row⟩, rfl⟩ | rfl | ⟨noRow, notLost⟩
  · cases row with
    | message chat =>
        exact same rfl (fun _ => rfl)
    | login login =>
        cases wasIn : (system.clients client).loggedIn with
        | true =>
            exact same wasIn.symm (fun _ => rfl)
        | false =>
            obtain ⟨owns, named⟩ := takesOwn wasIn
            obtain ⟨socket, ⟨entry, isEntry, owned⟩, request, later,
                response, visited, acceptedName⟩ :=
              keeps.ownAnswer first owns named
            refine ⟨socket, ⟨entry, accepted isEntry, owned⟩, request,
              later, response, log visited, ?_⟩
            rw [sameName]
            exact acceptedName
  · rw [sameLogin] at isIn
    contradiction
  · refine same ?_ ?_
    · unfold loggedInAfter
      split
      · exact (notLost rfl).elim
      · contradiction
      · rfl
    · intro wasIn
      unfold usernameAfter
      split
      · exact (notLost rfl).elim
      · exact takesOwn wasIn
      · rfl

theorem LoginsAgree.client
    {client : ClientId}
    {label : ActivityLabel DateTime Announcement Response.Message}
    (agree : LoginsAgree system)
    (keeps : KeepsAnnouncements platform descriptors system)
    (takesOwn : system.TakesOwnAnswer (.client client label))
    (taken :
      step? platform DATETIME_FORMAT escape system
          (.client client label) =
        some next) :
    LoginsAgree next := by
  obtain ⟨_, after, stepped, isNext⟩ := step?_client taken
  have sends :=
    @afterClient_sends _ _ system _ DATETIME_FORMAT escape client label
  obtain ⟨_, sameLog⟩ :=
    @afterClient_server _ _ system _ DATETIME_FORMAT escape client label
  have accepted : system.accepted ⊆ next.accepted := by
    rw [isNext]
    exact sends.accepted
  have log : system.log ⊆ next.log := by
    rw [isNext]
    dsimp only
    rw [sameLog]
    exact List.Subset.refl _
  have isAfter : next.clients client = after := by
    rw [isNext]
    exact Function.update_self ..
  have others :
      ∀ other,
        other ≠ client →
        next.clients other = system.clients other := by
    intro other different
    rw [isNext]
    exact Function.update_of_ne different ..
  intro other
  by_cases same : other = client
  · subst same
    obtain ⟨sameLogin, sameName, _⟩ := step?_session stepped
    rw [← isAfter] at sameLogin sameName
    cases label with
    | main task now =>
        obtain ⟨⟨_, first⟩, _⟩ := guarded_eq_some.mp stepped
        exact agree.main keeps takesOwn first accepted log sameLogin
          sameName
    | _ =>
        refine agree.of_same accepted log ?_
        intro isIn
        rw [sameLogin] at isIn
        exact ⟨isIn, sameName⟩
  · refine agree.of_same accepted log ?_
    rw [others other same]
    exact fun isIn => ⟨isIn, rfl⟩

end Steps

/--
In every run in which the clients take only their own answers for their own,
every client that is logged in has been accepted by the server, in every state.
-/
theorem logins_agree
    {ClientId DateTime : Type}
    [DecidableEq ClientId]
    [DecidableEq DateTime]
    (platform : Platform)
    (DATETIME_FORMAT : DateTime → String)
    (escape : Bytes → Bytes)
    (descriptors : List Nat)
    (labels : List (SystemLabel ClientId DateTime))
    (takeOwn :
      EveryStep (step? platform DATETIME_FORMAT escape)
        (initial descriptors)
        (fun _ system label => system.TakesOwnAnswer label) labels) :
    Always (step? platform DATETIME_FORMAT escape)
      (initial descriptors) (fun _ system => system.LoginsAgree)
      labels := by
  refine always_of_everyStep ?_ ?_ takeOwn
  · intro client isIn
    contradiction
  · intro past system label next reached agree takesOwn taken
    have keeps := keepsAnnouncements reached
    cases label with
    | server label =>
        exact agree.server taken
    | client client label =>
        exact agree.client keeps takesOwn taken

/-! ### Two clients -/

/-- A client connects over its first connection and asks to log in. -/
def connect
    (client : Nat)
    (watched : List Nat)
    (socket : SocketRef)
    (connectionFD : Nat)
    (mSender : String) :
    List (SystemLabel Nat String) :=
  let req : ClientRequest String := .LoginRequest "10:00" mSender
  [.client client (.login "10:00" mSender),
    .client client (.background (.socketConnect 0 req) (.ok ()))] ++
  (ServerLabel.connect watched socket connectionFD).map .server ++
  [.client client (.main (.connectPostExecute 0 req (.ok ())) ""),
    .client client (.background (.send 0 req) (.ok ())),
    .client client (.main (.sendPostExecute 0 req (.ok ())) ""),
    .client client (.main (.handleMessage .ExpectingLogin) "")]

/-- The answer to a login that is accepted. -/
def answer (mSender : String) : Response.Login :=
  Response.Login.ofUsername 0 (ascii mSender)

/-- The bytes of a login request. -/
def requestBytes (mSender : String) : Bytes :=
  (ClientRequest.LoginRequest "10:00" mSender).getBytes id
    JsonText.escape

/-- The server accepts a login and writes the answer to its connections. -/
def accept
    (watched : List Nat)
    (socket : SocketRef)
    (mSender : String)
    (sockets : List SocketRef) :
    List (SystemLabel Nat String) :=
  let response : Response := .login (answer mSender)
  let text :=
    JsonText.value JsonText.escape (response.toJson .reference)
  let writes : List ServerLabel :=
    sockets.tails.filterMap fun
      | [] =>
          none
      | target :: targets =>
          some (.send
            (.write response text target targets []
              (.written text.length)))
  let labels : List ServerLabel :=
    ServerLabel.logIn watched socket (requestBytes mSender)
        ⟨0, ascii mSender⟩ 0 ++
      [.send .sleep, .send .lockQueue, .send (.serialise response []),
        .send (.lockSockets response text [])] ++
      writes ++
      [.send (.unlockSockets response text []), .send .clear,
        .send .unlockQueue]
  labels.map .server

/-- The server refuses a login and replies that the name is in use. -/
def refuse
    (watched : List Nat)
    (socket : SocketRef)
    (mSender : String) :
    List (SystemLabel Nat String) :=
  let login : Request.Login := ⟨0, ascii mSender⟩
  let response := Server.usernameInUse 0
  let text :=
    JsonText.value JsonText.escape (response.toJson .reference)
  let labels : List ServerLabel :=
    ServerLabel.wait watched (.client socket) ++
      [.listen (.read socket (.data (requestBytes mSender)) 0),
        .listen (.lockNames socket login),
        .listen (.visitLogin socket login 0 response),
        .listen (.write socket text (.written text.length))]
  labels.map .server

/-- A client reads and handles the first row that it is sent. -/
def receive
    (client : Nat)
    (row : Row Announcement Response.Message) :
    List (SystemLabel Nat String) :=
  [.client client (.visitRow 0 row),
    .client client (.main (.handleMessage (.Display ⟨0, row⟩)) "")]

/-- A client that alone logs in. -/
def logInAlone : List (SystemLabel Nat String) :=
  connect 0 [] 0 4 "ann" ++ accept [4] 0 "ann" [0] ++
    receive 0 (.login ⟨0, answer "ann"⟩)

/--
Two clients ask for one name.  The second one reads the answer to the first one
before the server looks at its own request, and is refused afterwards.
-/
def logInTogether : List (SystemLabel Nat String) :=
  connect 0 [] 0 4 "ann" ++ connect 1 [4] 1 5 "ann" ++
    accept [5, 4] 0 "ann" [0, 1] ++
    receive 1 (.login ⟨0, answer "ann"⟩) ++
    refuse [5, 4] 1 "ann" ++
    [.client 1 (.visitError 0 "Username in use."),
      .client 1
        (.main (.handleMessage (.DisplayError "Username in use.")) "")]

/-- The steps of the system on the reference platform. -/
abbrev referenceStep? :=
  @step? Nat String _ _ .reference id JsonText.escape

theorem logins_agree_logInAlone :
    ∃ final,
      run? referenceStep? (initial [0, 1, 2, 3]) logInAlone =
          some final ∧
        (final.clients 0).loggedIn = true ∧
        Always referenceStep? (initial [0, 1, 2, 3])
          (fun _ system => system.LoginsAgree) logInAlone := by
  have finished :
      (run? referenceStep? (initial [0, 1, 2, 3]) logInAlone).map
          (fun final => (final.clients 0).loggedIn) =
        some true := by
    decide +kernel
  obtain ⟨final, reached, isIn⟩ := Option.map_eq_some_iff.mp finished
  have checked :
      checkSteps referenceStep?
          (fun system label => decide (system.TakesOwnAnswer label))
          (initial [0, 1, 2, 3]) logInAlone =
        true := by
    decide +kernel
  refine ⟨final, reached, isIn, logins_agree _ _ _ _ _ ?_⟩
  intro past label future shape system before
  exact of_decide_eq_true
    (EveryStep.of_check checked past label future shape system before)

/-- The sockets from which the server has accepted a login. -/
def acceptedSockets (log : List ServerLabel) : List SocketRef :=
  log.filterMap fun
    | .listen (.visitLogin socket _ _ (.login _)) =>
        some socket
    | _ =>
        none

/-- A client that is logged in without an accepted login is not in agreement. -/
theorem not_loginsAgree
    {system : ChatSystem ClientId DateTime}
    {client : ClientId}
    (isIn : (system.clients client).loggedIn = true)
    (nowhere :
      ∀ socket ∈ acceptedSockets system.log,
        ¬ system.Owns client socket) :
    ¬ system.LoginsAgree := by
  intro agree
  obtain ⟨socket, owns, login, now, response, inLog, _⟩ :=
    agree client isIn
  exact nowhere socket (List.mem_filterMap.mpr ⟨_, inLog, rfl⟩) owns

/--
A client is logged in by the answer to another one and stays so when its own
login is refused.
-/
theorem refused_client_loggedIn :
    ∃ final,
      run? referenceStep? (initial [0, 1, 2, 3]) logInTogether =
          some final ∧
        (final.clients 1).loggedIn = true ∧
        ¬ final.LoginsAgree := by
  have finished :
      (run? referenceStep? (initial [0, 1, 2, 3]) logInTogether).map
          (fun final : ChatSystem Nat String =>
            decide
              ((final.clients 1).loggedIn = true ∧
                ∀ socket ∈ acceptedSockets final.log,
                  ¬ final.Owns 1 socket)) =
        some true := by
    decide +kernel
  obtain ⟨final, reached, outcome⟩ := Option.map_eq_some_iff.mp finished
  obtain ⟨isIn, nowhere⟩ := of_decide_eq_true outcome
  exact ⟨final, reached, isIn, not_loginsAgree isIn nowhere⟩

end ChatRelay.ChatSystem
