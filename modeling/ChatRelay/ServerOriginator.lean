import Mathlib.Data.List.Basic
import ChatRelay.ServerSteps

namespace ChatRelay

/-!
# Who is shown as the author of a message

The originator of a message response is the sender that the request names.  No
step compares it with the username of the connection it was read from, so the
responses name their authors exactly as long as the clients do.
-/

namespace Server

/-- A connection is listed under a name, which is not empty. -/
def LoggedInAs
    (state : Server)
    (socket : SocketRef)
    (username : Bytes) : Prop :=
  username ≠ [] ∧ (socket, username) ∈ state.sockets

/-- The thread is about to push a message response for a connection. -/
def Broadcasts
    (state : Server)
    (socket : SocketRef)
    (message : Response.Message) : Prop :=
  state.listenPc = .lockQueue socket (.message message) ∨
    state.listenPc = .pushBack socket (.message message)

/--
The thread is about to answer a connection, and nobody else, that its request
is not valid now.
-/
def Rejects
    (platform : Platform)
    (state : Server)
    (socket : SocketRef) : Prop :=
  ∃ text error,
    state.listenPc = .write socket text ∧
      error.code = ErrorCode.INVALID_REQUEST_FROM_CLIENT ∧
      MessageJson.«to» platform
        ((Response.error error).toJson platform) false = .ok text

/-- The bytes read from an open socket are a message request. -/
def ReadsMessage
    (platform : Platform)
    (state : Server)
    (socket : SocketRef)
    (bytes : Bytes)
    (msg : Request.Message) : Prop :=
  (state.heap socket).isOpen = true ∧
    visitBytes platform bytes = .ok (.visitMessage msg)

/--
A message response that is pushed names the user of the connection that asked
for it, and a connection that has just named anybody else is refused.
-/
def Authentic
    (platform : Platform)
    (labels : List ServerLabel)
    (state : Server) : Prop :=
  (∀ socket message,
    state.Broadcasts socket message →
    state.LoggedInAs socket message.originator) ∧
  ∀ past socket bytes now msg,
    labels = past ++ [.listen (.read socket (.data bytes) now)] →
    ReadsMessage platform state socket bytes msg →
    ¬ state.LoggedInAs socket msg.sender →
    Rejects platform state socket

/-- A message request that is read names the user of its connection. -/
def NamesItself
    (platform : Platform)
    (state : Server) :
    ServerLabel → Prop
  | .listen (.read socket (.data bytes) _) =>
      ∀ msg,
        ReadsMessage platform state socket bytes msg →
        state.LoggedInAs socket msg.sender
  | _ =>
      True

/-- Only login responses are associated with a connection. -/
def AssociatesLogins (state : Server) : Prop :=
  ∀ socket username response,
    state.listenPc = .lockAssociate socket username response ∨
      state.listenPc = .associate socket username response →
    ∃ login, response = .login login

variable {platform : Platform}
variable {state next : Server}

/-- Only login responses are ever associated with a connection. -/
theorem Step.associatesLogins
    {label : ServerLabel}
    (step : Step platform state label next)
    (logins : state.AssociatesLogins) :
    next.AssociatesLogins := by
  intro socket username response at_
  cases step with
  | listen step =>
      cases step with
      | acceptName =>
          simp only [ListenPc.lockAssociate.injEq, reduceCtorEq,
            or_false] at at_
          exact ⟨_, at_.2.2.symm⟩
      | lockAssociate pc =>
          exact logins socket username response (by simp_all)
      | readClosed | readMessageThrows | readThrows |
        visitLoginThrows | writeThrows | acceptFailed =>
          exact logins socket username response at_
      | _ =>
          simp at at_
  | send step =>
      cases step <;>
        exact logins socket username response at_

/-- What a step has to show for the responses to stay authentic. -/
theorem authentic_concat
    {past : List ServerLabel}
    {label : ServerLabel}
    (named :
      ∀ socket message,
        next.Broadcasts socket message →
        next.LoggedInAs socket message.originator)
    (asked :
      ∀ socket bytes now msg,
        label = .listen (.read socket (.data bytes) now) →
        ReadsMessage platform next socket bytes msg →
        next.LoggedInAs socket msg.sender) :
    Authentic platform (past ++ [label]) next := by
  refine ⟨named, ?_⟩
  intro earlier socket bytes now msg shape reads notNamed
  obtain ⟨_, same⟩ := List.append_inj' shape rfl
  injection same with same
  exact (notNamed (asked socket bytes now msg same reads)).elim

/-- A step that reads nothing keeps the responses authentic. -/
theorem Authentic.quiet
    {past : List ServerLabel}
    {label : ServerLabel}
    (authentic : Authentic platform past state)
    (kept :
      ∀ socket message,
        next.Broadcasts socket message →
        state.Broadcasts socket message ∧
          next.sockets = state.sockets)
    (noRead :
      ∀ socket bytes now,
        label ≠ .listen (.read socket (.data bytes) now)) :
    Authentic platform (past ++ [label]) next := by
  apply authentic_concat
  · intro socket message broadcast
    obtain ⟨before, sockets⟩ := kept socket message broadcast
    rw [LoggedInAs, sockets]
    exact authentic.1 socket message before
  · intro socket bytes now msg same
    exact (noRead socket bytes now same).elim

/-- A read that finds no message broadcasts and refuses nothing. -/
theorem authentic_read_other
    {past : List ServerLabel}
    {socket : SocketRef}
    {outcome : RecvOutcome}
    {now : TimePoint}
    (notPushing :
      ∀ socket message, ¬ next.Broadcasts socket message)
    (noMessage :
      ∀ bytes msg,
        outcome = .data bytes →
        ¬ ReadsMessage platform state socket bytes msg)
    (sameOpen :
      ∀ bytes,
        outcome = .data bytes →
        (next.heap socket).isOpen = (state.heap socket).isOpen) :
    Authentic platform
        (past ++ [.listen (.read socket outcome now)]) next ↔
      NamesItself platform state
        (.listen (.read socket outcome now)) := by
  refine iff_of_true ?_ ?_
  · apply authentic_concat
    · intro socket message broadcast
      exact (notPushing socket message broadcast).elim
    · intro reader bytes later msg same reads
      injection same with same
      injection same with sameSocket sameOutcome _
      subst reader
      rw [ReadsMessage, sameOpen bytes sameOutcome] at reads
      exact (noMessage bytes msg sameOutcome reads).elim
  · cases outcome with
    | data bytes =>
        intro msg reads
        exact (noMessage bytes msg rfl reads).elim
    | closed =>
        trivial
    | failed =>
        trivial

/-- Bytes are read as one message request at most. -/
theorem ReadsMessage.unique
    {socket : SocketRef}
    {bytes : Bytes}
    {msg other : Request.Message}
    (decoded : visitBytes platform bytes = .ok (.visitMessage msg))
    (reads : ReadsMessage platform state socket bytes other) :
    other = msg := by
  have same := reads.2
  rw [decoded] at same
  simpa using same.symm

/-- A message request that is read is a chunk of bytes. -/
theorem data_of_message
    (rejectsEmpty : platform.read_json [] = none)
    {outcome : RecvOutcome}
    {msg : Request.Message}
    (more : outcome ≠ .closed)
    (decoded :
      visitBytes platform outcome.contents = .ok (.visitMessage msg)) :
    ∃ bytes, outcome = .data bytes := by
  have request : WellFormedRequest platform outcome.contents :=
    (wellFormedRequest_iff platform _).mp (Or.inr ⟨msg, decoded⟩)
  obtain ⟨bytes, isData, _⟩ :=
    data_of_wellFormedRequest rejectsEmpty more request
  exact ⟨bytes, isData⟩

/-- A message request that is read is pushed under the name it names. -/
theorem authentic_read_message
    {past : List ServerLabel}
    {socket : SocketRef}
    {bytes : Bytes}
    {now : TimePoint}
    {msg : Request.Message}
    (isOpen : (state.heap socket).isOpen = true)
    (decoded : visitBytes platform bytes = .ok (.visitMessage msg))
    (sockets : next.sockets = state.sockets)
    (sameOpen :
      (next.heap socket).isOpen = (state.heap socket).isOpen)
    (named :
      ∀ other message,
        next.Broadcasts other message →
        other = socket ∧ message.originator = msg.sender)
    (notRejected :
      (∃ message, next.Broadcasts socket message) ∨
        ∀ text, next.listenPc ≠ .write socket text) :
    Authentic platform
        (past ++ [.listen (.read socket (.data bytes) now)]) next ↔
      NamesItself platform state
        (.listen (.read socket (.data bytes) now)) := by
  have sameLogin :
      ∀ username,
        next.LoggedInAs socket username ↔
          state.LoggedInAs socket username := by
    intro username
    rw [LoggedInAs, LoggedInAs, sockets]
  constructor
  · intro authentic other reads
    have sameMsg := reads.unique decoded
    subst other
    by_contra notNamed
    rw [← sameLogin] at notNamed
    rcases notRejected with ⟨message, broadcast⟩ | noAnswer
    · obtain ⟨_, originator⟩ := named socket message broadcast
      rw [← originator] at notNamed
      exact notNamed (authentic.1 socket message broadcast)
    · obtain ⟨text, _, answering, _⟩ :=
        authentic.2 past socket bytes now msg rfl
          ⟨sameOpen.trans isOpen, decoded⟩ notNamed
      exact noAnswer text answering
  · intro names
    have loggedIn := names msg ⟨isOpen, decoded⟩
    rw [← sameLogin] at loggedIn
    apply authentic_concat
    · intro other message broadcast
      obtain ⟨rfl, originator⟩ := named other message broadcast
      rw [originator]
      exact loggedIn
    · intro reader otherBytes later other same reads
      injection same with same
      injection same with sameSocket sameOutcome _
      subst reader
      injection sameOutcome with sameBytes
      subst otherBytes
      have sameMsg := reads.unique decoded
      subst other
      exact loggedIn

/-- A step keeps the responses authentic exactly if it names itself. -/
theorem Step.authentic_iff
    {past : List ServerLabel}
    {label : ServerLabel}
    (rejectsEmpty : platform.read_json [] = none)
    (logins : state.AssociatesLogins)
    (authentic : Authentic platform past state)
    (step : Step platform state label next) :
    Authentic platform (past ++ [label]) next ↔
      NamesItself platform state label := by
  cases step with
  | listen step =>
      cases step with
      | readClosed pc closed =>
          refine authentic_read_other ?_ ?_ (fun _ _ => rfl)
          · simp [Broadcasts, throw, pc]
          · simp [ReadsMessage, closed]
      | readEnded pc isOpen =>
          refine authentic_read_other ?_ ?_ ?_ <;>
            simp [Broadcasts]
      | readLogin pc isOpen more decoded =>
          refine authentic_read_other ?_ ?_ ?_
          · simp [Broadcasts]
          · rintro bytes msg rfl ⟨_, other⟩
            rw [RecvOutcome.contents, other] at decoded
            simp at decoded
          · rintro bytes rfl
            simp [Socket.afterRead, setSocket_self]
      | readThrows pc isOpen more _ notMessage =>
          refine authentic_read_other ?_ ?_ ?_
          · simp [Broadcasts, throw, setSocket, pc]
          · rintro bytes msg rfl ⟨_, other⟩
            exact notMessage msg other
          · rintro bytes rfl
            simp [Socket.afterRead, setSocket_self, throw]
      | @readMessage socket outcome now msg pc isOpen more decoded =>
          obtain ⟨bytes, rfl⟩ :=
            data_of_message rejectsEmpty more decoded
          simp only [Socket.afterRead, setSocket_self]
          refine authentic_read_message isOpen decoded rfl rfl ?_ ?_
          · rintro other message (same | impossible)
            · cases same
              exact ⟨rfl, rfl⟩
            · contradiction
          · exact Or.inl ⟨_, Or.inl rfl⟩
      | readMessageThrows pc isOpen more decoded _ =>
          obtain ⟨bytes, rfl⟩ :=
            data_of_message rejectsEmpty more decoded
          simp only [Socket.afterRead, setSocket_self]
          refine authentic_read_message isOpen decoded rfl rfl ?_ ?_
          · simp [Broadcasts, throw, pc]
          · exact Or.inr (by simp [throw, pc])
      | associate pc =>
          obtain ⟨login, rfl⟩ := logins _ _ _ (Or.inr pc)
          refine iff_of_true (authentic.quiet ?_ (by simp)) trivial
          simp [Broadcasts]
      | lockQueue pc =>
          refine iff_of_true (authentic.quiet ?_ (by simp)) trivial
          simp [Broadcasts, pc]
      | visitLoginThrows | writeThrows | acceptFailed =>
          exact iff_of_true
            (authentic.quiet (fun _ _ same => ⟨same, rfl⟩) (by simp))
            trivial
      | _ =>
          refine iff_of_true (authentic.quiet ?_ (by simp)) trivial
          simp [Broadcasts]
  | send step =>
      refine iff_of_true (authentic.quiet ?_ (by simp)) trivial
      cases step <;> exact fun _ _ same => ⟨same, rfl⟩

/--
In every run, the message responses are authentic and the requests of others
are refused all along exactly if every message request that is read names the
user of the connection it is read from.
-/
theorem authentic_iff_namesItself
    (platform : Platform)
    (rejectsEmpty : platform.read_json [] = none)
    (descriptors : List Nat)
    (labels : List ServerLabel)
    (final : Server)
    (reached :
      LabelledRun.run? (step? platform)
        (initial descriptors) labels = some final) :
    LabelledRun.Always (step? platform) (initial descriptors)
        (Authentic platform) labels ↔
      LabelledRun.EveryStep (step? platform) (initial descriptors)
        (fun _ state label => NamesItself platform state label)
        labels := by
  refine LabelledRun.always_iff_everyStep ?_ ?_ reached
  · refine ⟨?_, ?_⟩
    · simp [Broadcasts, initial]
    · simp
  · intro past state label next before authentic taken
    obtain ⟨_, step⟩ := step?_sound taken
    have logins : state.AssociatesLogins := by
      refine LabelledRun.stateInvariant ?_ ?_ before
      · simp [AssociatesLogins, initial]
      · intro middle label after holds taken
        exact (step?_sound taken).2.associatesLogins holds
    exact step.authentic_iff rejectsEmpty logins authentic

/-- A client that logs in and posts under its own name. -/
theorem authentic_iff_namesItself_post :
    let login : Request.Login := ⟨0, ascii "ann"⟩
    let msg : Request.Message := ⟨0, ascii "ann", ascii "hi"⟩
    let labels :=
      ServerLabel.connect [] 0 4 ++
        (ServerLabel.logIn [4] 0
            ((Request.login login).text .reference JsonText.escape)
            login 0 ++
          ServerLabel.post [4] 0
            ((Request.message msg).text .reference JsonText.escape)
            msg 0)
    ∃ final,
      LabelledRun.run? (step? .reference)
          (initial [0, 1, 2, 3]) labels = some final ∧
        (LabelledRun.Always (step? .reference) (initial [0, 1, 2, 3])
            (Authentic .reference) labels ↔
          LabelledRun.EveryStep (step? .reference)
            (initial [0, 1, 2, 3])
            (fun _ state label => NamesItself .reference state label)
            labels) := by
  intro login msg labels
  have finished :
      (LabelledRun.run? (step? .reference)
        (initial [0, 1, 2, 3]) labels).isSome = true := by
    decide +kernel
  obtain ⟨final, reached⟩ := Option.isSome_iff_exists.mp finished
  exact ⟨final, reached,
    authentic_iff_namesItself .reference (by decide)
      [0, 1, 2, 3] labels final reached⟩

/--
A client that has not logged in posts under a name of its choice, and the
message is queued for everybody under that name.
-/
theorem forged_message_queued :
    let msg : Request.Message := ⟨0, ascii "eve", ascii "hi"⟩
    (LabelledRun.run? (step? .reference) (initial [0, 1, 2, 3])
        (ServerLabel.connect [] 0 4 ++
          ServerLabel.post [4] 0
            ((Request.message msg).text .reference JsonText.escape)
            msg 0)).map
          (fun state => (state.sockets, state.messageQueue)) =
      some
        ([(0, [])],
          [.message ⟨0, ascii "@server", ascii "eve", ascii "hi"⟩]) := by
  decide +kernel

end Server

end ChatRelay
