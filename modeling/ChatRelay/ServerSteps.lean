import Mathlib.Data.List.Basic
import ChatRelay.ServerSystem

namespace ChatRelay

/-!
# What the steps of the server do

One statement for each function that a step calls, so that no later proof has
to look into the functions again: where the handler goes on, and which part of
the state it can have changed.
-/

open LabelledRun (guarded guarded_eq_some)

namespace Server

variable {platform : Platform}
variable {state next : Server}

@[simp] theorem guarded_some
    {enabled : Prop}
    [Decidable enabled]
    {state next : Server} :
    guarded enabled state = some next ↔
      enabled ∧ next = state :=
  guarded_eq_some

theorem loginTag_ne_errorTag :
    Response.Login.TYPE ≠ Response.Error.TYPE := by
  decide

theorem messageTag_ne_errorTag :
    Response.Message.TYPE ≠ Response.Error.TYPE := by
  decide

theorem messageTag_ne_loginTag :
    Response.Message.TYPE ≠ Response.Login.TYPE := by
  decide

/-- A response that the writer has no text for. -/
def Unwritable
    (platform : Platform)
    (response : Response)
    (fault : Fault) : Prop :=
  ∃ pretty,
    MessageJson.«to» platform (response.toJson platform) pretty =
      .error fault

/-- How `onSocket` goes on with a response, unless it throws. -/
theorem answer_some
    (socket : SocketRef)
    (response : Response) :
    (∃ fault,
      Unwritable platform response fault ∧
        state.answer platform socket (some response) =
          state.throw .listen fault) ∨
      match response with
      | .login login =>
          state.answer platform socket (some response) =
            { state with
              listenPc :=
                .lockAssociate socket login.joiningUsername response }
      | .message _ =>
          state.answer platform socket (some response) =
            { state with listenPc := .lockQueue socket response }
      | .error _ =>
          ∃ text,
            MessageJson.«to» platform
                (response.toJson platform) false = .ok text ∧
              state.answer platform socket (some response) =
                { state with listenPc := .write socket text } := by
  simp only [answer, Response.get_type]
  cases printed :
      MessageJson.«to» platform (response.toJson platform) true with
  | error fault =>
      exact Or.inl ⟨fault, ⟨true, printed⟩, rfl⟩
  | ok _ =>
      cases response with
      | login login =>
          refine Or.inr ?_
          have notError :
              (Response.login login).type ≠ Response.Error.TYPE :=
            loginTag_ne_errorTag
          have isLogin :
              (Response.login login).type = Response.Login.TYPE :=
            rfl
          simp only [if_neg notError, if_pos isLogin,
            Response.get_joiningUsername]
      | message message =>
          refine Or.inr ?_
          have notError :
              (Response.message message).type ≠ Response.Error.TYPE :=
            messageTag_ne_errorTag
          have notLogin :
              (Response.message message).type ≠ Response.Login.TYPE :=
            messageTag_ne_loginTag
          simp only [if_neg notError, if_neg notLogin]
      | error error =>
          have isError :
              (Response.error error).type = Response.Error.TYPE :=
            rfl
          simp only [if_pos isError]
          cases written : MessageJson.«to» platform
              ((Response.error error).toJson platform) false with
          | error fault =>
              exact Or.inl ⟨fault, ⟨false, written⟩, rfl⟩
          | ok text =>
              exact Or.inr ⟨text, rfl, rfl⟩

/--
How `onSocket` goes on after the read: it throws, it removes the connection,
or it handles a request.
-/
theorem onSocket_cases
    (socket : SocketRef)
    {outcome : RecvOutcome}
    (wellFormed : outcome.WellFormed)
    (now : TimePoint) :
    let read :=
      state.setSocket socket ((state.heap socket).afterRead outcome)
    ((state.heap socket).isOpen = false ∧
      state.onSocket platform socket outcome now =
        state.throw .listen
          (.runtimeError "Can not read from closed socket.")) ∨
    ((state.heap socket).isOpen = true ∧
      ((outcome = .closed ∧
        state.onSocket platform socket outcome now =
          { read with listenPc := .lockRemove socket }) ∨
      (outcome ≠ .closed ∧
        match visitBytes platform outcome.contents with
        | .error fault =>
            state.onSocket platform socket outcome now =
              read.throw .listen fault
        | .ok (.visitLogin login) =>
            state.onSocket platform socket outcome now =
              { read with listenPc := .lockNames socket login }
        | .ok (.visitMessage msg) =>
            state.onSocket platform socket outcome now =
              read.answer platform socket (some (visitMessage now msg))
        | .ok (.error _ _ _) =>
            state.onSocket platform socket outcome now =
              read.throw .listen .nullPointer))) := by
  intro read
  cases isOpen : (state.heap socket).isOpen with
  | false =>
      refine Or.inl ⟨rfl, ?_⟩
      simp only [onSocket, Socket.read_closed isOpen]
  | true =>
      refine Or.inr ⟨rfl, ?_⟩
      simp only [onSocket, Socket.read_open isOpen,
        RecvOutcome.returned_eq_zero wellFormed]
      by_cases ended : outcome = .closed
      · exact Or.inl ⟨ended, if_pos ended⟩
      · refine Or.inr ⟨ended, ?_⟩
        simp only [if_neg ended]
        cases visitBytes platform outcome.contents with
        | error fault =>
            rfl
        | ok callback =>
            cases callback <;> rfl

/-- Closing a socket closes its own descriptor at most. -/
theorem closeSocket_cases
    (state : Server)
    (ref : SocketRef) :
    ∃ socket openDescriptors,
      socket.fd = (state.heap ref).fd ∧
      (∀ descriptor ∈ state.openDescriptors,
        descriptor = (state.heap ref).fd ∨
          descriptor ∈ openDescriptors) ∧
      state.closeSocket ref =
        { state.setSocket ref socket with
          openDescriptors := openDescriptors } := by
  cases isOpen : (state.heap ref).isOpen with
  | false =>
      refine ⟨state.heap ref, state.openDescriptors, rfl, ?_, ?_⟩
      · intro descriptor member
        exact Or.inr member
      · simp [closeSocket, Socket.close, isOpen, setSocket]
  | true =>
      refine
        ⟨{ state.heap ref with isOpen := false },
          state.openDescriptors.erase (state.heap ref).fd,
          rfl, ?_, ?_⟩
      · intro descriptor member
        by_cases same : descriptor = (state.heap ref).fd
        · exact Or.inl same
        · exact Or.inr ((List.mem_erase_of_ne same).mpr member)
      · simp [closeSocket, Socket.close, isOpen]

/-- Closing sockets changes sockets and descriptors only. -/
theorem closeSockets_frame
    (refs : List SocketRef) :
    ∃ heap openDescriptors,
      refs.foldl closeSocket state =
        { state with
          heap := heap
          openDescriptors := openDescriptors } := by
  induction refs generalizing state with
  | nil =>
      exact ⟨state.heap, state.openDescriptors, rfl⟩
  | cons ref rest inductionHypothesis =>
      obtain ⟨socket, descriptors, _, _, closed⟩ :=
        closeSocket_cases state ref
      obtain ⟨heap, openDescriptors, folded⟩ :=
        @inductionHypothesis (state.closeSocket ref)
      refine ⟨heap, openDescriptors, ?_⟩
      rw [List.foldl_cons, folded, closed]
      rfl

/-- The close branch changes the two lists, sockets and descriptors only. -/
theorem removeEntry_frame
    (socket : SocketRef) :
    ∃ heap openDescriptors sockets _sockets,
      state.removeEntry socket =
        { state with
          heap := heap
          openDescriptors := openDescriptors
          sockets := sockets
          _sockets := _sockets } := by
  unfold removeEntry dropPointer
  split
  · split
    · exact ⟨state.heap, state.openDescriptors, _, _, rfl⟩
    · obtain ⟨after, openDescriptors, _, _, closed⟩ :=
        closeSocket_cases
          { state with
            _sockets := state._sockets.erase socket
            sockets :=
              state.sockets.eraseP (state.sameDescriptor socket) }
          socket
      exact ⟨_, openDescriptors, _, _, closed⟩
  · exact
      ⟨state.heap, state.openDescriptors, state.sockets,
        state._sockets, rfl⟩

/-- A write returns when the socket is open, and throws otherwise. -/
theorem write_cases
    (socket : Socket)
    (outcome : WriteOutcome) :
    (socket.isOpen = true ∧
      socket.write outcome =
        .ok (socket.afterWrite outcome, outcome.returned)) ∨
    (socket.isOpen = false ∧
      socket.write outcome =
        .error (.runtimeError "Can not write to closed socket.")) := by
  cases isOpen : socket.isOpen with
  | true =>
      exact Or.inl ⟨rfl, Socket.write_open isOpen outcome⟩
  | false =>
      exact Or.inr ⟨rfl, Socket.write_closed isOpen outcome⟩

/-- The listening thread runs no handler: it is in its loop or in `wait`. -/
def InWait (state : Server) : Prop :=
  match state.listenPc with
  | .loop | .lockKillEvent _ | .unlockKillEvent _ | .select _ =>
      True
  | _ =>
      False

/--
The steps of the thread that runs `listen`, one constructor for each way in
which a step can end.
-/
inductive ListenStep
    (platform : Platform)
    (state : Server) :
    ListenAction → Server → Prop where
  | leaveLoop :
      state.listenPc = .loop →
      state.killed = true →
      ListenStep platform state .leaveLoop
        { state with listenPc := .returned }
  | enterWait :
      state.listenPc = .loop →
      state.killed = false →
      ListenStep platform state .enterWait
        { state with
          listenPc := .lockKillEvent state.watchedDescriptors }
  | lockKillEvent
      {watched : List Nat} :
      state.listenPc = .lockKillEvent watched →
      state._mut_killEvent = none →
      ListenStep platform state (.lockKillEvent watched)
        { state with
          _mut_killEvent := some .listen
          listenPc := .unlockKillEvent watched }
  | unlockKillEvent
      {watched : List Nat} :
      state.listenPc = .unlockKillEvent watched →
      ListenStep platform state (.unlockKillEvent watched)
        { state with
          _killEvent := some (state._killEvent.getD 0)
          _mut_killEvent := none
          listenPc := .select watched }
  | selectNothing
      {watched : List Nat}
      {ready : Ready}
      {_killEvent : Option Nat} :
      state.listenPc = .select watched →
      ready ≠ .stdin (ascii "exit") →
      ready ≠ .serverSocket →
      (∀ socket, ready ≠ .client socket) →
      ListenStep platform state (.select watched ready)
        { state with listenPc := .loop, _killEvent := _killEvent }
  | selectExit
      {watched : List Nat} :
      state.listenPc = .select watched →
      ListenStep platform state
        (.select watched (.stdin (ascii "exit")))
        { state with listenPc := .lockStop, killed := true }
  | selectServerSocket
      {watched : List Nat} :
      state.listenPc = .select watched →
      ListenStep platform state (.select watched .serverSocket)
        { state with listenPc := .accept }
  | selectClient
      {watched : List Nat}
      {socket : SocketRef} :
      state.listenPc = .select watched →
      socket ∈ state._sockets →
      (state.heap socket).fd ∈ watched →
      ListenStep platform state (.select watched (.client socket))
        { state with listenPc := .read socket }
  | readClosed
      {socket : SocketRef}
      {outcome : RecvOutcome}
      {now : TimePoint} :
      state.listenPc = .read socket →
      (state.heap socket).isOpen = false →
      ListenStep platform state (.read socket outcome now)
        (state.throw .listen
          (.runtimeError "Can not read from closed socket."))
  | readEnded
      {socket : SocketRef}
      {now : TimePoint} :
      state.listenPc = .read socket →
      (state.heap socket).isOpen = true →
      ListenStep platform state (.read socket .closed now)
        { state.setSocket socket
            ((state.heap socket).afterRead .closed) with
          listenPc := .lockRemove socket }
  | readLogin
      {socket : SocketRef}
      {outcome : RecvOutcome}
      {now : TimePoint}
      {login : Request.Login} :
      state.listenPc = .read socket →
      (state.heap socket).isOpen = true →
      outcome ≠ .closed →
      visitBytes platform outcome.contents = .ok (.visitLogin login) →
      ListenStep platform state (.read socket outcome now)
        { state.setSocket socket
            ((state.heap socket).afterRead outcome) with
          listenPc := .lockNames socket login }
  | readMessage
      {socket : SocketRef}
      {outcome : RecvOutcome}
      {now : TimePoint}
      {msg : Request.Message} :
      state.listenPc = .read socket →
      (state.heap socket).isOpen = true →
      outcome ≠ .closed →
      visitBytes platform outcome.contents = .ok (.visitMessage msg) →
      ListenStep platform state (.read socket outcome now)
        { state.setSocket socket
            ((state.heap socket).afterRead outcome) with
          listenPc := .lockQueue socket (visitMessage now msg) }
  | readMessageThrows
      {socket : SocketRef}
      {outcome : RecvOutcome}
      {now : TimePoint}
      {msg : Request.Message}
      {fault : Fault} :
      state.listenPc = .read socket →
      (state.heap socket).isOpen = true →
      outcome ≠ .closed →
      visitBytes platform outcome.contents = .ok (.visitMessage msg) →
      Unwritable platform (visitMessage now msg) fault →
      ListenStep platform state (.read socket outcome now)
        ((state.setSocket socket
          ((state.heap socket).afterRead outcome)).throw .listen fault)
  | readThrows
      {socket : SocketRef}
      {outcome : RecvOutcome}
      {now : TimePoint}
      {fault : Fault} :
      state.listenPc = .read socket →
      (state.heap socket).isOpen = true →
      outcome ≠ .closed →
      (∀ login,
        visitBytes platform outcome.contents ≠
          .ok (.visitLogin login)) →
      (∀ msg,
        visitBytes platform outcome.contents ≠
          .ok (.visitMessage msg)) →
      ListenStep platform state (.read socket outcome now)
        ((state.setSocket socket
          ((state.heap socket).afterRead outcome)).throw .listen fault)
  | lockRemove
      {socket : SocketRef} :
      state.listenPc = .lockRemove socket →
      state.socketsLock = none →
      ListenStep platform state (.lockRemove socket)
        { state with
          socketsLock := some .listen
          listenPc := .remove socket }
  | remove
      {socket : SocketRef} :
      state.listenPc = .remove socket →
      ListenStep platform state (.remove socket)
        { state.removeEntry socket with
          socketsLock := none
          listenPc := .loop }
  | lockNames
      {socket : SocketRef}
      {login : Request.Login} :
      state.listenPc = .lockNames socket login →
      state.socketsLock = none →
      ListenStep platform state (.lockNames socket login)
        { state with
          socketsLock := some .listen
          listenPc := .visitLogin socket login }
  | acceptName
      {socket : SocketRef}
      {login : Request.Login}
      {now : TimePoint} :
      state.listenPc = .visitLogin socket login →
      (∀ entry ∈ state.sockets, entry.2 ≠ login.sender) →
      ListenStep platform state
        (.visitLogin socket login now
          (.login (Response.Login.ofUsername now login.sender)))
        { state with
          socketsLock := none
          listenPc :=
            .lockAssociate socket login.sender
              (.login (Response.Login.ofUsername now login.sender)) }
  | refuseName
      {socket : SocketRef}
      {login : Request.Login}
      {now : TimePoint}
      {text : Bytes} :
      state.listenPc = .visitLogin socket login →
      (∃ entry ∈ state.sockets, entry.2 = login.sender) →
      MessageJson.«to» platform
        ((usernameInUse now).toJson platform) false = .ok text →
      ListenStep platform state
        (.visitLogin socket login now (usernameInUse now))
        { state with
          socketsLock := none
          listenPc := .write socket text }
  | visitLoginThrows
      {socket : SocketRef}
      {login : Request.Login}
      {now : TimePoint}
      {response : Response}
      {fault : Fault} :
      state.listenPc = .visitLogin socket login →
      response = state.visitLogin now login →
      Unwritable platform response fault →
      ListenStep platform state
        (.visitLogin socket login now response)
        ({ state with socketsLock := none }.throw .listen fault)
  | write
      {socket : SocketRef}
      {text : Bytes}
      {outcome : WriteOutcome} :
      state.listenPc = .write socket text →
      (state.heap socket).isOpen = true →
      ListenStep platform state (.write socket text outcome)
        { state.setSocket socket
            ((state.heap socket).afterWrite outcome) with
          listenPc := .loop }
  | writeThrows
      {socket : SocketRef}
      {text : Bytes}
      {outcome : WriteOutcome} :
      state.listenPc = .write socket text →
      (state.heap socket).isOpen = false →
      ListenStep platform state (.write socket text outcome)
        (state.throw .listen
          (.runtimeError "Can not write to closed socket."))
  | lockAssociate
      {socket : SocketRef}
      {username : Bytes}
      {response : Response} :
      state.listenPc = .lockAssociate socket username response →
      state.socketsLock = none →
      ListenStep platform state
        (.lockAssociate socket username response)
        { state with
          socketsLock := some .listen
          listenPc := .associate socket username response }
  | associate
      {socket : SocketRef}
      {username : Bytes}
      {response : Response} :
      state.listenPc = .associate socket username response →
      ListenStep platform state
        (.associate socket username response)
        { state with
          sockets := state.associate socket username
          socketsLock := none
          listenPc := .lockQueue socket response }
  | lockQueue
      {socket : SocketRef}
      {response : Response} :
      state.listenPc = .lockQueue socket response →
      state.messageQueueLock = none →
      ListenStep platform state (.lockQueue socket response)
        { state with
          messageQueueLock := some .listen
          listenPc := .pushBack socket response }
  | pushBack
      {socket : SocketRef}
      {response : Response} :
      state.listenPc = .pushBack socket response →
      ListenStep platform state (.pushBack socket response)
        { state with
          messageQueue := state.messageQueue ++ [response]
          messageQueueLock := none
          listenPc := .loop }
  | accept
      {connectionFD : Nat} :
      state.listenPc = .accept →
      connectionFD ∉ state.openDescriptors →
      ListenStep platform state
        (.accept state.nextSocket connectionFD)
        { state with
          heap :=
            Function.update state.heap state.nextSocket
              (Socket.ofDescriptor connectionFD)
          nextSocket := state.nextSocket + 1
          openDescriptors := connectionFD :: state.openDescriptors
          listenPc := .lockAdd state.nextSocket }
  | acceptFailed
      {errno : Nat}
      {fault : Fault} :
      state.listenPc = .accept →
      ListenStep platform state (.acceptFailed errno)
        (state.throw .listen fault)
  | lockAdd
      {newClient : SocketRef} :
      state.listenPc = .lockAdd newClient →
      state.socketsLock = none →
      ListenStep platform state (.lockAdd newClient)
        { state with
          socketsLock := some .listen
          listenPc := .add newClient }
  | add
      {newClient : SocketRef} :
      state.listenPc = .add newClient →
      ListenStep platform state (.add newClient)
        { state with
          sockets := state.sockets ++ [(newClient, [])]
          _sockets := state._sockets.insert newClient
          socketsLock := none
          listenPc := .loop }
  | lockStop :
      state.listenPc = .lockStop →
      state.socketsLock = none →
      ListenStep platform state .lockStop
        { state with
          socketsLock := some .listen
          listenPc := .closeAll }
  | closeAll :
      state.listenPc = .closeAll →
      ListenStep platform state .closeAll
        { (state.sockets.map Prod.fst).foldl closeSocket state with
          listenPc := .lockKill }
  | lockKill :
      state.listenPc = .lockKill →
      state._mut_killEvent = none →
      ListenStep platform state .lockKill
        { state with
          _mut_killEvent := some .listen
          listenPc := .kill }
  | kill :
      state.listenPc = .kill →
      ListenStep platform state .kill
        { state with
          _killEvent := state._killEvent.map fun signals => signals + 1
          _mut_killEvent := none
          listenPc := .unlockStop }
  | unlockStop :
      state.listenPc = .unlockStop →
      ListenStep platform state .unlockStop
        { state with
          socketsLock := none
          listenPc := .loop }

/-- The steps of `sendMessages`, one constructor for each way to end. -/
inductive SenderStep
    (platform : Platform)
    (state : Server) :
    SenderAction → Server → Prop where
  | leaveLoop :
      state.senderPc = .loop →
      state.killed = true →
      SenderStep platform state .leaveLoop
        { state with senderPc := .returned }
  | sleep :
      state.senderPc = .loop →
      state.killed = false →
      SenderStep platform state .sleep
        { state with senderPc := .lockQueue }
  | lockQueue :
      state.senderPc = .lockQueue →
      state.messageQueueLock = none →
      0 < state.messageQueue.length →
      SenderStep platform state .lockQueue
        { state with
          messageQueueLock := some .sendMessages
          senderPc := .nextMessage state.messageQueue }
  | lockQueueEmpty :
      state.senderPc = .lockQueue →
      state.messageQueueLock = none →
      state.messageQueue = [] →
      SenderStep platform state .lockQueue
        { state with
          messageQueueLock := some .sendMessages
          senderPc := .unlockQueue }
  | serialise
      {message : Response}
      {text : Bytes}
      {remaining : List Response} :
      state.senderPc = .nextMessage (message :: remaining) →
      MessageJson.«to» platform (message.toJson platform) false =
        .ok text →
      SenderStep platform state (.serialise message remaining)
        { state with
          senderPc := .lockSockets message text remaining }
  | serialiseThrows
      {message : Response}
      {remaining : List Response}
      {fault : Fault} :
      state.senderPc = .nextMessage (message :: remaining) →
      Unwritable platform message fault →
      SenderStep platform state (.serialise message remaining)
        (state.throw .sendMessages fault)
  | lockSockets
      {message : Response}
      {text : Bytes}
      {remaining : List Response} :
      state.senderPc = .lockSockets message text remaining →
      state.socketsLock = none →
      SenderStep platform state (.lockSockets message text remaining)
        { state with
          socketsLock := some .sendMessages
          senderPc :=
            .writing message text
              (state.sockets.map Prod.fst) remaining }
  | write
      {message : Response}
      {text : Bytes}
      {socket : SocketRef}
      {targets : List SocketRef}
      {remaining : List Response}
      {outcome : WriteOutcome} :
      state.senderPc =
        .writing message text (socket :: targets) remaining →
      (state.heap socket).isOpen = true →
      SenderStep platform state
        (.write message text socket targets remaining outcome)
        { state.setSocket socket
            ((state.heap socket).afterWrite outcome) with
          senderPc := .writing message text targets remaining }
  | writeThrows
      {message : Response}
      {text : Bytes}
      {socket : SocketRef}
      {targets : List SocketRef}
      {remaining : List Response}
      {outcome : WriteOutcome} :
      state.senderPc =
        .writing message text (socket :: targets) remaining →
      (state.heap socket).isOpen = false →
      SenderStep platform state
        (.write message text socket targets remaining outcome)
        (state.throw .sendMessages
          (.runtimeError "Can not write to closed socket."))
  | unlockSockets
      {message : Response}
      {text : Bytes}
      {remaining : List Response} :
      state.senderPc = .writing message text [] remaining →
      SenderStep platform state
        (.unlockSockets message text remaining)
        { state with
          socketsLock := none
          senderPc := .nextMessage remaining }
  | clear :
      state.senderPc = .nextMessage [] →
      SenderStep platform state .clear
        { state with
          messageQueue := []
          senderPc := .unlockQueue }
  | unlockQueue :
      state.senderPc = .unlockQueue →
      SenderStep platform state .unlockQueue
        { state with
          messageQueueLock := none
          senderPc := .loop }

/-- Every step that `listenStep?` takes is one of `ListenStep`. -/
theorem listenStep?_sound
    {action : ListenAction}
    (taken : state.listenStep? platform action = some next) :
    ListenStep platform state action next := by
  cases action with
  | select watched ready =>
      simp only [listenStep?, guarded_some] at taken
      obtain ⟨⟨pc, reported⟩, rfl⟩ := taken
      cases ready with
      | timeout =>
          exact .selectNothing pc (by simp) (by simp) (by simp)
      | killEvent =>
          exact .selectNothing pc (by simp) (by simp) (by simp)
      | stdin line =>
          by_cases exits : line = ascii "exit"
          · subst line
            simp only [dispatch, if_true]
            exact .selectExit pc
          · simp only [dispatch, if_neg exits]
            exact .selectNothing pc (by simpa using exits)
              (by simp) (by simp)
      | serverSocket =>
          exact .selectServerSocket pc
      | client socket =>
          exact .selectClient pc reported.2.1 reported.2.2
  | read socket outcome now =>
      simp only [listenStep?, guarded_some] at taken
      obtain ⟨⟨pc, wellFormed⟩, rfl⟩ := taken
      rcases @onSocket_cases platform state socket outcome
          wellFormed now with
        ⟨closed, thrown⟩ | ⟨isOpen, ⟨rfl, removing⟩ | ⟨more, handled⟩⟩
      · rw [thrown]
        exact .readClosed pc closed
      · rw [removing]
        exact .readEnded pc isOpen
      · cases decoded : visitBytes platform outcome.contents with
        | error fault =>
            simp only [decoded] at handled
            rw [handled]
            exact .readThrows pc isOpen more
              (by simp [decoded]) (by simp [decoded])
        | ok callback =>
            cases callback with
            | visitLogin login =>
                simp only [decoded] at handled
                rw [handled]
                exact .readLogin pc isOpen more decoded
            | visitMessage msg =>
                simp only [decoded] at handled
                rw [handled]
                rcases @answer_some platform
                    (state.setSocket socket
                      ((state.heap socket).afterRead outcome))
                    socket (visitMessage now msg) with
                  ⟨fault, unwritable, thrown⟩ | answered
                · rw [thrown]
                  exact .readMessageThrows pc isOpen more decoded
                    unwritable
                · simp only [visitMessage] at answered
                  rw [visitMessage, answered]
                  exact .readMessage pc isOpen more decoded
            | error originator code message =>
                simp only [decoded] at handled
                rw [handled]
                exact .readThrows pc isOpen more
                  (by simp [decoded]) (by simp [decoded])
  | visitLogin socket login now response =>
      simp only [listenStep?, guarded_some] at taken
      obtain ⟨⟨pc, rfl⟩, rfl⟩ := taken
      rcases @answer_some platform
          { state with socketsLock := none }
          socket (state.visitLogin now login) with
        ⟨fault, unwritable, thrown⟩ | answered
      · rw [thrown]
        exact .visitLoginThrows pc rfl unwritable
      · by_cases used :
            state.sockets.any
              (fun socket => login.sender == socket.2) = true
        · simp only [visitLogin, if_pos used, usernameInUse]
            at answered ⊢
          obtain ⟨text, written, answered⟩ := answered
          rw [answered]
          refine .refuseName pc ?_ written
          obtain ⟨entry, member, same⟩ := List.any_eq_true.mp used
          exact ⟨entry, member, (beq_iff_eq.mp same).symm⟩
        · simp only [visitLogin, if_neg used] at answered ⊢
          rw [answered]
          refine .acceptName pc ?_
          intro entry member same
          exact used (List.any_eq_true.mpr
            ⟨entry, member, beq_iff_eq.mpr same.symm⟩)
  | write socket text outcome =>
      simp only [listenStep?, guarded_some] at taken
      obtain ⟨pc, rfl⟩ := taken
      rcases write_cases (state.heap socket) outcome with
        ⟨isOpen, written⟩ | ⟨closed, thrown⟩
      · rw [written]
        exact .write pc isOpen
      · rw [thrown]
        exact .writeThrows pc closed
  | accept newClient connectionFD =>
      simp only [listenStep?, guarded_some] at taken
      obtain ⟨⟨pc, rfl, fresh⟩, rfl⟩ := taken
      exact .accept pc fresh
  | leaveLoop | enterWait | lockKillEvent | lockRemove | lockNames |
    lockAssociate | lockQueue | lockAdd | lockStop | lockKill =>
      simp only [listenStep?, guarded_some] at taken
      obtain ⟨⟨pc, free⟩, rfl⟩ := taken
      constructor <;> assumption
  | unlockKillEvent | remove | associate | pushBack | acceptFailed |
    add | closeAll | kill | unlockStop =>
      simp only [listenStep?, guarded_some] at taken
      obtain ⟨pc, rfl⟩ := taken
      constructor
      assumption

/-- Every step that `senderStep?` takes is one of `SenderStep`. -/
theorem senderStep?_sound
    {action : SenderAction}
    (taken : state.senderStep? platform action = some next) :
    SenderStep platform state action next := by
  cases action with
  | lockQueue =>
      simp only [senderStep?, guarded_some] at taken
      obtain ⟨⟨pc, free⟩, rfl⟩ := taken
      by_cases pending : 0 < state.messageQueue.length
      · simp only [if_pos pending]
        exact .lockQueue pc free pending
      · simp only [if_neg pending]
        refine .lockQueueEmpty pc free ?_
        exact List.eq_nil_of_length_eq_zero (by omega)
  | serialise message remaining =>
      simp only [senderStep?, guarded_some] at taken
      obtain ⟨pc, rfl⟩ := taken
      cases written : MessageJson.«to» platform
          (message.toJson platform) false with
      | error fault =>
          exact .serialiseThrows pc ⟨false, written⟩
      | ok text =>
          exact .serialise pc written
  | write message text socket targets remaining outcome =>
      simp only [senderStep?, guarded_some] at taken
      obtain ⟨pc, rfl⟩ := taken
      rcases write_cases (state.heap socket) outcome with
        ⟨isOpen, written⟩ | ⟨closed, thrown⟩
      · rw [written]
        exact .write pc isOpen
      · rw [thrown]
        exact .writeThrows pc closed
  | leaveLoop | sleep | lockSockets =>
      simp only [senderStep?, guarded_some] at taken
      obtain ⟨⟨pc, free⟩, rfl⟩ := taken
      constructor <;> assumption
  | unlockSockets | clear | unlockQueue =>
      simp only [senderStep?, guarded_some] at taken
      obtain ⟨pc, rfl⟩ := taken
      constructor
      assumption

/-- The two kinds of steps of the process. -/
inductive Step
    (platform : Platform)
    (state : Server) :
    ServerLabel → Server → Prop where
  | listen
      {action : ListenAction}
      {next : Server} :
      ListenStep platform state action next →
      Step platform state (.listen action) next
  | send
      {action : SenderAction}
      {next : Server} :
      SenderStep platform state action next →
      Step platform state (.send action) next

/-- A step is taken by a living process and is one of `Step`. -/
theorem step?_sound
    {label : ServerLabel}
    (taken : state.step? platform label = some next) :
    state.fault = none ∧ Step platform state label next := by
  unfold step? at taken
  split at taken
  · rename_i alive
    cases label with
    | listen action =>
        exact ⟨alive, .listen (listenStep?_sound taken)⟩
    | send action =>
        exact ⟨alive, .send (senderStep?_sound taken)⟩
  · contradiction

/-- The sending thread was ended by a write to a closed socket. -/
def WroteToClosed (state : Server) : Prop :=
  state.fault =
    some (.sendMessages,
      .runtimeError "Can not write to closed socket.")

/-- The sockets that the sending thread is still to write to. -/
def targets (state : Server) : List SocketRef :=
  match state.senderPc with
  | .writing _ _ targets _ =>
      targets
  | _ =>
      []

/-- Associating a name keeps the sockets of the list. -/
theorem map_associate
    (socket : SocketRef)
    (username : Bytes) :
    (state.associate socket username).map Prod.fst =
      state.sockets.map Prod.fst := by
  rw [Server.associate, List.map_map]
  apply List.map_congr_left
  intro entry _
  by_cases same : state.sameDescriptor socket entry = true <;>
    simp [same]

/-- Setting a socket to what it was changes nothing. -/
theorem setSocket_self
    (ref : SocketRef) :
    state.setSocket ref (state.heap ref) = state := by
  simp [setSocket]

/-- A failed read leaves no text to parse. -/
theorem not_wellFormedRequest_nil
    (rejectsEmpty : platform.read_json [] = none) :
    ¬ WellFormedRequest platform [] := by
  rintro ⟨json, parsed, _⟩
  have cleaned : MessageJson.clean [] = [] := rfl
  rw [cleaned, rejectsEmpty] at parsed
  contradiction

/-- What is visited as a request was read as data. -/
theorem data_of_wellFormedRequest
    (rejectsEmpty : platform.read_json [] = none)
    {outcome : RecvOutcome}
    (more : outcome ≠ .closed)
    (request : WellFormedRequest platform outcome.contents) :
    ∃ bytes,
      outcome = .data bytes ∧ WellFormedRequest platform bytes := by
  cases outcome with
  | data bytes =>
      exact ⟨bytes, rfl, request⟩
  | closed =>
      contradiction
  | failed =>
      exact (not_wellFormedRequest_nil rejectsEmpty request).elim

/-- A step of `listen` leaves the sending thread where it is. -/
theorem ListenStep.senderPc
    {action : ListenAction}
    (step : ListenStep platform state action next) :
    next.senderPc = state.senderPc := by
  cases step with
  | @remove socket pc =>
      obtain ⟨_, _, _, _, removed⟩ := @removeEntry_frame state socket
      rw [removed]
  | closeAll pc =>
      obtain ⟨_, _, closed⟩ :=
        @closeSockets_frame state (state.sockets.map Prod.fst)
      rw [closed]
  | _ =>
      rfl

/-- A process that was told to end stays so. -/
theorem Step.killed
    {label : ServerLabel}
    (step : Step platform state label next)
    (killed : state.killed = true) :
    next.killed = true := by
  cases step with
  | listen step =>
      cases step with
      | selectExit =>
          rfl
      | @remove socket =>
          obtain ⟨_, _, _, _, removed⟩ :=
            @removeEntry_frame state socket
          rw [removed]
          exact killed
      | closeAll =>
          obtain ⟨_, _, closed⟩ :=
            @closeSockets_frame state (state.sockets.map Prod.fst)
          rw [closed]
          exact killed
      | _ =>
          exact killed
  | send step =>
      cases step <;> exact killed

/-- A process that has not been told to end was not told before. -/
theorem Step.not_killed
    {label : ServerLabel}
    (step : Step platform state label next)
    (running : next.killed = false) :
    state.killed = false := by
  cases killed : state.killed with
  | false =>
      rfl
  | true =>
      rw [step.killed killed] at running
      contradiction

end Server

end ChatRelay
