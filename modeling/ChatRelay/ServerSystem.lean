import Mathlib.Data.List.Basic
import Mathlib.Logic.Function.Basic
import ChatRelay.LabelledRun
import ChatRelay.MessageVisitor
import ChatRelay.NetworkSocket

namespace ChatRelay

/-!
# The server process

The two threads of the server as one labelled step function: the thread that
runs `listen`, with every handler that `wait` calls, and the thread that runs
`sendMessages`.

A step goes from one acquisition or release of a mutex, or one system call, to
the next.  What happens between them is local to a thread or protected by the
mutex that it holds.  The body of a critical section is part of the step that
ends the section, except for the write loop, where each write is a step.

A label names the function that moves, with the values it moves on and the
outcome of the system call; a list of labels is the log of a run.
-/

open LabelledRun (guarded guarded_eq_some)

/-- Identifies the object that a `shared_ptr<socket>` points to. -/
abbrev SocketRef :=
  Nat

/-- An element of `server::sockets`: a socket and its username. -/
abbrev Entry :=
  SocketRef × Bytes

/-- The two threads of the process. -/
inductive Thread where
  | listen : Thread
  | sendMessages : Thread
  deriving Repr, DecidableEq

/-- What `::select` reports; a line is what `::read` then finds on stdin. -/
inductive Ready where
  | timeout : Ready
  | killEvent : Ready
  | stdin : Bytes → Ready
  | serverSocket : Ready
  | client : SocketRef → Ready
  deriving Repr, DecidableEq

/-- Where the thread that runs `listen` stands. -/
inductive ListenPc where
  | loop : ListenPc
  | lockKillEvent (watched : List Nat) : ListenPc
  | unlockKillEvent (watched : List Nat) : ListenPc
  | select (watched : List Nat) : ListenPc
  | read (socket : SocketRef) : ListenPc
  | lockRemove (socket : SocketRef) : ListenPc
  | remove (socket : SocketRef) : ListenPc
  | lockNames (socket : SocketRef) (login : Request.Login) : ListenPc
  | visitLogin (socket : SocketRef) (login : Request.Login) : ListenPc
  | write (socket : SocketRef) (text : Bytes) : ListenPc
  | lockAssociate
      (socket : SocketRef)
      (username : Bytes)
      (response : Response) : ListenPc
  | associate
      (socket : SocketRef)
      (username : Bytes)
      (response : Response) : ListenPc
  | lockQueue (socket : SocketRef) (response : Response) : ListenPc
  | pushBack (socket : SocketRef) (response : Response) : ListenPc
  | accept : ListenPc
  | lockAdd (newClient : SocketRef) : ListenPc
  | add (newClient : SocketRef) : ListenPc
  | lockStop : ListenPc
  | closeAll : ListenPc
  | lockKill : ListenPc
  | kill : ListenPc
  | unlockStop : ListenPc
  | returned : ListenPc
  deriving Repr, DecidableEq

/-- Where the thread that runs `sendMessages` stands. -/
inductive SenderPc where
  | loop : SenderPc
  | lockQueue : SenderPc
  | nextMessage (remaining : List Response) : SenderPc
  | lockSockets
      (message : Response)
      (text : Bytes)
      (remaining : List Response) : SenderPc
  | writing
      (message : Response)
      (text : Bytes)
      (targets : List SocketRef)
      (remaining : List Response) : SenderPc
  | unlockQueue : SenderPc
  | returned : SenderPc
  deriving Repr, DecidableEq

/--
The process: its socket objects and open descriptors, the fields of `server`
and `flex_waiter`, the three mutexes with their holders, the two threads, and
the exception that ended it.
-/
structure Server where
  heap : SocketRef → Socket
  nextSocket : SocketRef
  openDescriptors : List Nat
  killed : Bool
  sockets : List Entry
  messageQueue : List Response
  _sockets : List SocketRef
  _killEvent : Option Nat
  socketsLock : Option Thread
  messageQueueLock : Option Thread
  _mut_killEvent : Option Thread
  listenPc : ListenPc
  senderPc : SenderPc
  fault : Option (Thread × Fault)

namespace Server

/-- The process when `start` calls `listen`. -/
def initial (openDescriptors : List Nat) : Server where
  heap := fun _ => ⟨0, false⟩
  nextSocket := 0
  openDescriptors := openDescriptors
  killed := false
  sockets := []
  messageQueue := []
  _sockets := []
  _killEvent := none
  socketsLock := none
  messageQueueLock := none
  _mut_killEvent := none
  listenPc := .loop
  senderPc := .loop
  fault := none

/-- An exception leaves the outermost function of a thread. -/
def throw
    (state : Server)
    (thread : Thread)
    (fault : Fault) :
    Server :=
  { state with fault := some (thread, fault) }

/-- A method has changed the fields of a socket. -/
def setSocket
    (state : Server)
    (ref : SocketRef)
    (socket : Socket) :
    Server :=
  { state with heap := Function.update state.heap ref socket }

/-- `socket::close` on a listed socket. -/
def closeSocket
    (state : Server)
    (ref : SocketRef) :
    Server :=
  match (state.heap ref).close with
  | (socket, none) =>
      state.setSocket ref socket
  | (socket, some fd) =>
      { state.setSocket ref socket with
        openDescriptors := state.openDescriptors.erase fd }

/--
A `shared_ptr` to a socket goes away.  The destructor runs when it was the
last one, and closes a socket that is still open.
-/
def dropPointer
    (state : Server)
    (ref : SocketRef) :
    Server :=
  if ref ∈ state._sockets ∨ ref ∈ state.sockets.map Prod.fst then
    state
  else
    state.closeSocket ref

/-- The comparison `socket->fd() == iter->first->fd()`. -/
def sameDescriptor
    (state : Server)
    (socket : SocketRef)
    (entry : Entry) :
    Bool :=
  (state.heap socket).fd == (state.heap entry.1).fd

/-- The close branch of `onSocket`, up to the end of the handler. -/
def removeEntry
    (state : Server)
    (socket : SocketRef) :
    Server :=
  if state.sockets.any (state.sameDescriptor socket) then
    { state with
      _sockets := state._sockets.erase socket
      sockets := state.sockets.eraseP (state.sameDescriptor socket)
    }.dropPointer socket
  else
    state

/-- The loop of `onSocket` that associates a username with a socket. -/
def associate
    (state : Server)
    (socket : SocketRef)
    (username : Bytes) :
    List Entry :=
  state.sockets.map fun cliSocket =>
    if state.sameDescriptor socket cliSocket then
      (cliSocket.1, username)
    else
      cliSocket

/-- The answer of `visitLogin` to a name that is taken. -/
def usernameInUse (now : TimePoint) : Response :=
  .error
    { dateTime := now
      sender := ascii "@server"
      originator := ascii "@server"
      code := ErrorCode.USER_NAME_IN_USE
      message := ascii "Username in use." }

/-- `server::visitLogin`. -/
def visitLogin
    (state : Server)
    (now : TimePoint)
    (login : Request.Login) :
    Response :=
  if state.sockets.any fun socket => login.sender == socket.2 then
    usernameInUse now
  else
    .login (Response.Login.ofUsername now login.sender)

/-- `server::visitMessage`. -/
def visitMessage
    (now : TimePoint)
    (msg : Request.Message) :
    Response :=
  .message (Response.Message.ofContent now msg.sender msg.content)

/--
The part of `onSocket` behind the call of `visit`: print the response, look at
its type and go on to one of the three ways to answer.  A default-constructed
`shared_ptr` is `none`.
-/
def answer
    (platform : Platform)
    (state : Server)
    (socket : SocketRef) :
    Option Response → Server
  | none =>
      state.throw .listen .nullPointer
  | some response =>
      match MessageJson.«to» platform (response.toJson platform) true with
      | .error fault =>
          state.throw .listen fault
      | .ok _ =>
          match (response.toJson platform).get
              [Instance.PROPERTY_TYPE] with
          | none =>
              state.throw .listen (.badPath "type")
          | some type =>
              if type = Response.Error.TYPE then
                match MessageJson.«to» platform
                    (response.toJson platform) false with
                | .error fault =>
                    state.throw .listen fault
                | .ok responseSerialized =>
                    { state with
                      listenPc := .write socket responseSerialized }
              else if type = Response.Login.TYPE then
                match (response.toJson platform).get
                    [Instance.PROPERTY_OBJECT,
                      Response.Login.PROPERTY_JOINING_USERNAME] with
                | none =>
                    state.throw .listen
                      (.badPath "object.joiningUsername")
                | some username =>
                    { state with
                      listenPc :=
                        .lockAssociate socket username response }
              else
                { state with
                  listenPc := .lockQueue socket response }

/--
`onSocket` up to the first mutex or system call after the read.  The base
class's `error` callback returns a default-constructed pointer.
-/
def onSocket
    (platform : Platform)
    (state : Server)
    (socket : SocketRef)
    (outcome : RecvOutcome)
    (now : TimePoint) :
    Server :=
  match (state.heap socket).read outcome with
  | .error fault =>
      state.throw .listen fault
  | .ok (after, bytes_read, contents) =>
      let state := state.setSocket socket after
      if bytes_read = 0 then
        { state with listenPc := .lockRemove socket }
      else
        match visitBytes platform contents with
        | .error fault =>
            state.throw .listen fault
        | .ok (.visitLogin login) =>
            { state with listenPc := .lockNames socket login }
        | .ok (.visitMessage msg) =>
            state.answer platform socket (some (visitMessage now msg))
        | .ok (.error _ _ _) =>
            state.answer platform socket none

/-- The descriptors that `wait` puts into the set: those of open sockets. -/
def watchedDescriptors (state : Server) : List Nat :=
  (state._sockets.filter fun sock => (state.heap sock).isOpen).map
    fun sock => (state.heap sock).fd

/--
Whether `select` can report something, given the set it was called with.  A
signalled kill event is looked at before everything else.
-/
def CanReport
    (state : Server)
    (watched : List Nat) :
    Ready → Prop
  | .killEvent =>
      state._killEvent.getD 0 ≠ 0
  | .client socket =>
      state._killEvent.getD 0 = 0 ∧
        socket ∈ state._sockets ∧
        (state.heap socket).fd ∈ watched
  | _ =>
      state._killEvent.getD 0 = 0

instance
    (state : Server)
    (watched : List Nat)
    (ready : Ready) :
    Decidable (state.CanReport watched ready) := by
  cases ready <;>
    simp only [CanReport] <;>
    infer_instance

/-- The handler that `wait` calls for what `select` reported. -/
def dispatch
    (state : Server) :
    Ready → Server
  | .timeout =>
      { state with listenPc := .loop }
  | .killEvent =>
      { state with listenPc := .loop, _killEvent := some 0 }
  | .stdin line =>
      if line = ascii "exit" then
        { state with listenPc := .lockStop, killed := true }
      else
        { state with listenPc := .loop }
  | .serverSocket =>
      { state with listenPc := .accept }
  | .client socket =>
      { state with listenPc := .read socket }

end Server

/-- A step of the thread that runs `listen`. -/
inductive ListenAction where
  | leaveLoop : ListenAction
  | enterWait : ListenAction
  | lockKillEvent (watched : List Nat) : ListenAction
  | unlockKillEvent (watched : List Nat) : ListenAction
  | select (watched : List Nat) (ready : Ready) : ListenAction
  | read
      (socket : SocketRef)
      (outcome : RecvOutcome)
      (now : TimePoint) : ListenAction
  | lockRemove (socket : SocketRef) : ListenAction
  | remove (socket : SocketRef) : ListenAction
  | lockNames (socket : SocketRef) (login : Request.Login) : ListenAction
  | visitLogin
      (socket : SocketRef)
      (login : Request.Login)
      (now : TimePoint)
      (response : Response) : ListenAction
  | write
      (socket : SocketRef)
      (text : Bytes)
      (outcome : WriteOutcome) : ListenAction
  | lockAssociate
      (socket : SocketRef)
      (username : Bytes)
      (response : Response) : ListenAction
  | associate
      (socket : SocketRef)
      (username : Bytes)
      (response : Response) : ListenAction
  | lockQueue (socket : SocketRef) (response : Response) : ListenAction
  | pushBack (socket : SocketRef) (response : Response) : ListenAction
  | accept (newClient : SocketRef) (connectionFD : Nat) : ListenAction
  | acceptFailed (errno : Nat) : ListenAction
  | lockAdd (newClient : SocketRef) : ListenAction
  | add (newClient : SocketRef) : ListenAction
  | lockStop : ListenAction
  | closeAll : ListenAction
  | lockKill : ListenAction
  | kill : ListenAction
  | unlockStop : ListenAction
  deriving Repr, DecidableEq

/-- A step of the thread that runs `sendMessages`. -/
inductive SenderAction where
  | leaveLoop : SenderAction
  | sleep : SenderAction
  | lockQueue : SenderAction
  | serialise
      (message : Response)
      (remaining : List Response) : SenderAction
  | lockSockets
      (message : Response)
      (text : Bytes)
      (remaining : List Response) : SenderAction
  | write
      (message : Response)
      (text : Bytes)
      (socket : SocketRef)
      (targets : List SocketRef)
      (remaining : List Response)
      (outcome : WriteOutcome) : SenderAction
  | unlockSockets
      (message : Response)
      (text : Bytes)
      (remaining : List Response) : SenderAction
  | clear : SenderAction
  | unlockQueue : SenderAction
  deriving Repr, DecidableEq

/-- A step of the process. -/
inductive ServerLabel where
  | listen : ListenAction → ServerLabel
  | send : SenderAction → ServerLabel
  deriving Repr, DecidableEq

namespace Server

section Steps

variable (platform : Platform)

/-- The steps of `listen` and of the handlers it calls through `wait`. -/
def listenStep?
    (state : Server) :
    ListenAction → Option Server
  | .leaveLoop =>
      guarded (state.listenPc = .loop ∧ state.killed = true)
        { state with listenPc := .returned }
  | .enterWait =>
      guarded (state.listenPc = .loop ∧ state.killed = false)
        { state with
          listenPc := .lockKillEvent state.watchedDescriptors }
  | .lockKillEvent watched =>
      guarded
        (state.listenPc = .lockKillEvent watched ∧
          state._mut_killEvent = none)
        { state with
          _mut_killEvent := some .listen
          listenPc := .unlockKillEvent watched }
  | .unlockKillEvent watched =>
      guarded (state.listenPc = .unlockKillEvent watched)
        { state with
          _killEvent := some (state._killEvent.getD 0)
          _mut_killEvent := none
          listenPc := .select watched }
  | .select watched ready =>
      guarded
        (state.listenPc = .select watched ∧
          state.CanReport watched ready)
        (state.dispatch ready)
  | .read socket outcome now =>
      guarded
        (state.listenPc = .read socket ∧ outcome.WellFormed)
        (state.onSocket platform socket outcome now)
  | .lockRemove socket =>
      guarded
        (state.listenPc = .lockRemove socket ∧
          state.socketsLock = none)
        { state with
          socketsLock := some .listen
          listenPc := .remove socket }
  | .remove socket =>
      guarded (state.listenPc = .remove socket)
        { state.removeEntry socket with
          socketsLock := none
          listenPc := .loop }
  | .lockNames socket login =>
      guarded
        (state.listenPc = .lockNames socket login ∧
          state.socketsLock = none)
        { state with
          socketsLock := some .listen
          listenPc := .visitLogin socket login }
  | .visitLogin socket login now response =>
      guarded
        (state.listenPc = .visitLogin socket login ∧
          response = state.visitLogin now login)
        ({ state with socketsLock := none }.answer
          platform socket (some response))
  | .write socket text outcome =>
      guarded (state.listenPc = .write socket text)
        (match (state.heap socket).write outcome with
        | .error fault =>
            state.throw .listen fault
        | .ok (after, _) =>
            { state.setSocket socket after with
              listenPc := .loop })
  | .lockAssociate socket username response =>
      guarded
        (state.listenPc = .lockAssociate socket username response ∧
          state.socketsLock = none)
        { state with
          socketsLock := some .listen
          listenPc := .associate socket username response }
  | .associate socket username response =>
      guarded
        (state.listenPc = .associate socket username response)
        { state with
          sockets := state.associate socket username
          socketsLock := none
          listenPc := .lockQueue socket response }
  | .lockQueue socket response =>
      guarded
        (state.listenPc = .lockQueue socket response ∧
          state.messageQueueLock = none)
        { state with
          messageQueueLock := some .listen
          listenPc := .pushBack socket response }
  | .pushBack socket response =>
      guarded (state.listenPc = .pushBack socket response)
        { state with
          messageQueue := state.messageQueue ++ [response]
          messageQueueLock := none
          listenPc := .loop }
  | .accept newClient connectionFD =>
      -- The kernel hands out a descriptor that is not open in the process.
      guarded
        (state.listenPc = .accept ∧
          newClient = state.nextSocket ∧
          connectionFD ∉ state.openDescriptors)
        { state with
          heap :=
            Function.update state.heap newClient
              (Socket.ofDescriptor connectionFD)
          nextSocket := state.nextSocket + 1
          openDescriptors := connectionFD :: state.openDescriptors
          listenPc := .lockAdd newClient }
  | .acceptFailed errno =>
      guarded (state.listenPc = .accept)
        (state.throw .listen
          (.runtimeError ("Socket error: " ++ toString errno)))
  | .lockAdd newClient =>
      guarded
        (state.listenPc = .lockAdd newClient ∧
          state.socketsLock = none)
        { state with
          socketsLock := some .listen
          listenPc := .add newClient }
  | .add newClient =>
      guarded (state.listenPc = .add newClient)
        { state with
          sockets := state.sockets ++ [(newClient, [])]
          _sockets := state._sockets.insert newClient
          socketsLock := none
          listenPc := .loop }
  | .lockStop =>
      guarded
        (state.listenPc = .lockStop ∧ state.socketsLock = none)
        { state with
          socketsLock := some .listen
          listenPc := .closeAll }
  | .closeAll =>
      -- `sockets.empty()` asks whether the vector is empty and keeps it.
      guarded (state.listenPc = .closeAll)
        { (state.sockets.map Prod.fst).foldl closeSocket state with
          listenPc := .lockKill }
  | .lockKill =>
      guarded
        (state.listenPc = .lockKill ∧ state._mut_killEvent = none)
        { state with
          _mut_killEvent := some .listen
          listenPc := .kill }
  | .kill =>
      guarded (state.listenPc = .kill)
        { state with
          _killEvent := state._killEvent.map fun signals => signals + 1
          _mut_killEvent := none
          listenPc := .unlockStop }
  | .unlockStop =>
      guarded (state.listenPc = .unlockStop)
        { state with
          socketsLock := none
          listenPc := .loop }

/-- The steps of `sendMessages`. -/
def senderStep?
    (state : Server) :
    SenderAction → Option Server
  | .leaveLoop =>
      guarded (state.senderPc = .loop ∧ state.killed = true)
        { state with senderPc := .returned }
  | .sleep =>
      guarded (state.senderPc = .loop ∧ state.killed = false)
        { state with senderPc := .lockQueue }
  | .lockQueue =>
      guarded
        (state.senderPc = .lockQueue ∧
          state.messageQueueLock = none)
        { state with
          messageQueueLock := some .sendMessages
          senderPc :=
            if 0 < state.messageQueue.length then
              .nextMessage state.messageQueue
            else
              .unlockQueue }
  | .serialise message remaining =>
      guarded (state.senderPc = .nextMessage (message :: remaining))
        (match MessageJson.«to» platform
            (message.toJson platform) false with
        | .error fault =>
            state.throw .sendMessages fault
        | .ok text =>
            { state with
              senderPc := .lockSockets message text remaining })
  | .lockSockets message text remaining =>
      guarded
        (state.senderPc = .lockSockets message text remaining ∧
          state.socketsLock = none)
        { state with
          socketsLock := some .sendMessages
          senderPc :=
            .writing message text
              (state.sockets.map Prod.fst) remaining }
  | .write message text socket targets remaining outcome =>
      guarded
        (state.senderPc =
          .writing message text (socket :: targets) remaining)
        (match (state.heap socket).write outcome with
        | .error fault =>
            state.throw .sendMessages fault
        | .ok (after, _) =>
            { state.setSocket socket after with
              senderPc := .writing message text targets remaining })
  | .unlockSockets message text remaining =>
      guarded (state.senderPc = .writing message text [] remaining)
        { state with
          socketsLock := none
          senderPc := .nextMessage remaining }
  | .clear =>
      guarded (state.senderPc = .nextMessage [])
        { state with
          messageQueue := []
          senderPc := .unlockQueue }
  | .unlockQueue =>
      guarded (state.senderPc = .unlockQueue)
        { state with
          messageQueueLock := none
          senderPc := .loop }

/-- A step of the process; an escaped exception has ended it. -/
def step?
    (state : Server)
    (label : ServerLabel) :
    Option Server :=
  if state.fault = none then
    match label with
    | .listen action =>
        state.listenStep? platform action
    | .send action =>
        state.senderStep? platform action
  else
    none

end Steps

end Server

namespace ServerLabel

/-- The log of one `wait`. -/
def wait
    (watched : List Nat)
    (ready : Ready) :
    List ServerLabel :=
  [.listen .enterWait,
    .listen (.lockKillEvent watched),
    .listen (.unlockKillEvent watched),
    .listen (.select watched ready)]

/-- The log of a client that connects. -/
def connect
    (watched : List Nat)
    (newClient : SocketRef)
    (connectionFD : Nat) :
    List ServerLabel :=
  wait watched .serverSocket ++
    [.listen (.accept newClient connectionFD),
      .listen (.lockAdd newClient),
      .listen (.add newClient)]

/-- The log of a client that logs in. -/
def logIn
    (watched : List Nat)
    (socket : SocketRef)
    (bytes : Bytes)
    (login : Request.Login)
    (now : TimePoint) :
    List ServerLabel :=
  let response : Response :=
    .login (Response.Login.ofUsername now login.sender)
  wait watched (.client socket) ++
    [.listen (.read socket (.data bytes) now),
      .listen (.lockNames socket login),
      .listen (.visitLogin socket login now response),
      .listen (.lockAssociate socket login.sender response),
      .listen (.associate socket login.sender response),
      .listen (.lockQueue socket response),
      .listen (.pushBack socket response)]

/-- The log of a client that posts a message. -/
def post
    (watched : List Nat)
    (socket : SocketRef)
    (bytes : Bytes)
    (msg : Request.Message)
    (now : TimePoint) :
    List ServerLabel :=
  let response := Server.visitMessage now msg
  wait watched (.client socket) ++
    [.listen (.read socket (.data bytes) now),
      .listen (.lockQueue socket response),
      .listen (.pushBack socket response)]

end ServerLabel

end ChatRelay
