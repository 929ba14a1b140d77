import ChatRelay.ActivityMap
import ChatRelay.ChatSystem
import ChatRelay.ResponseThread

namespace ChatRelay

/-!
# The system over byte streams

A connection is a stream of bytes in both directions.  The server writes the
texts of responses to it, or a part of one when a write stops early.  The reader
thread of the client takes what one read returns for one response, and posts
what `MyResponseVisitor` makes of it.  As in the system with whole responses, a
send of a client that fails leaves no part of its request on the stream.
-/

open Client (Activity ActivityLabel ClientPlatform ResponseCallback)
open Client (JavaException Row visitContent)
open RequestFraming (ClientRequest)

/-- The `Object[]` of `DisplayLogin`. -/
structure LoginObject (DateTime : Type) where
  dateTime : Option DateTime
  joiningUsername : Option Bytes
  deriving Repr, DecidableEq

/-- The `Object[]` of `DisplayMessage`. -/
structure MessageObject (DateTime : Type) where
  dateTime : Option DateTime
  originator : Option Bytes
  content : Option Bytes
  deriving Repr, DecidableEq

/-- A step of an activity that posts what its reader thread has read. -/
abbrev StreamActivityLabel (DateTime : Type) :=
  ActivityLabel DateTime (LoginObject DateTime) (MessageObject DateTime)

/-- The processes and the network, with bytes on their way to both sides. -/
structure StreamSystem (ClientId DateTime : Type) where
  server : Server
  clients :
    ClientId →
      Activity DateTime (LoginObject DateTime) (MessageObject DateTime)
  backlog : List (Link ClientId)
  accepted : List (SocketRef × Link ClientId)
  requests : Link ClientId → Bytes
  responses : Link ClientId → Bytes

/--
A step of the server, of a client, or of a reader thread that has read
something; the message is the one of the error that it reports.
-/
inductive StreamLabel (ClientId DateTime : Type) where
  | server (label : ServerLabel) : StreamLabel ClientId DateTime
  | client
      (client : ClientId)
      (label : StreamActivityLabel DateTime) :
      StreamLabel ClientId DateTime
  | read
      (client : ClientId)
      (connection : Nat)
      (content : Bytes)
      (now : DateTime)
      (message : String) :
      StreamLabel ClientId DateTime

namespace StreamSystem

/-! ### The reader thread -/

section Reader

variable {DateTime : Type}

/-- What the reader thread does after `visitor.visit`. -/
def readerLabel
    (connection : Nat)
    (message : String) :
    Except JavaException (ResponseCallback DateTime) →
      StreamActivityLabel DateTime
  | .ok (.visitLogin login) =>
      .visitRow connection
        (.login ⟨login.mDateTime, login.mJoiningUsername⟩)
  | .ok (.visitMessage response) =>
      .visitRow connection
        (.message
          ⟨response.mDateTime, response.mOriginator, response.mContent⟩)
  | .ok (.visitError _) =>
      .visitError connection message
  | .error _ =>
      .readFails connection message

/-- A server error is reported with its own message. -/
def Reports
    (message : String) :
    Except JavaException (ResponseCallback DateTime) → Prop
  | .ok (.visitError error) =>
      error.mMessage = ascii message
  | _ =>
      True

instance
    (message : String)
    (outcome : Except JavaException (ResponseCallback DateTime)) :
    Decidable (Reports message outcome) :=
  match outcome with
  | .ok (.visitError error) =>
      inferInstanceAs (Decidable (error.mMessage = ascii message))
  | .ok (.visitLogin _) | .ok (.visitMessage _) | .error _ =>
      isTrue trivial

/-- Every step but those that a reader thread takes after a read. -/
def IsOwn : StreamActivityLabel DateTime → Prop
  | .visitRow _ _ | .visitError _ _ =>
      False
  | _ =>
      True

instance (label : StreamActivityLabel DateTime) :
    Decidable (IsOwn label) := by
  cases label <;> simp only [IsOwn] <;> infer_instance

end Reader

variable {ClientId DateTime : Type}

/-- Every process has started and nobody is connected. -/
def initial
    (openDescriptors : List Nat) :
    StreamSystem ClientId DateTime where
  server := Server.initial openDescriptors
  clients := fun _ => Activity.onCreate
  backlog := []
  accepted := []
  requests := fun _ => []
  responses := fun _ => []

section Network

variable (system : StreamSystem ClientId DateTime)

/-- The other end of a socket of the server. -/
def peer? (socket : SocketRef) : Option (Link ClientId) :=
  system.accepted.lookup socket

/-- The client has closed the connection or is gone. -/
def Ended (link : Link ClientId) : Prop :=
  ((system.clients link.1).connections link.2).closed = true ∨
    (system.clients link.1).crashed = true

instance (link : Link ClientId) : Decidable (system.Ended link) :=
  inferInstanceAs (Decidable (_ ∨ _))

/-- What `::recv` can return on a socket. -/
def CanReceive (socket : SocketRef) : RecvOutcome → Prop
  | .data bytes =>
      ∃ link ∈ system.peer? socket, bytes <+: system.requests link
  | .closed =>
      ∃ link ∈ system.peer? socket,
        system.requests link = [] ∧ system.Ended link
  | .failed =>
      True

/-- What the network lets the server do. -/
def PermitsServer : ServerLabel → Prop
  | .listen (.accept _ _) =>
      system.backlog ≠ []
  | .listen (.read socket outcome _) =>
      system.CanReceive socket outcome
  | _ =>
      True

/-- What `bufIn.read(contentBuffer)` can return on a connection. -/
def CanRead (link : Link ClientId) (content : Bytes) : Prop :=
  content ≠ [] ∧ content.length ≤ 2048 ∧
    content <+: system.responses link

instance (link : Link ClientId) (content : Bytes) :
    Decidable (system.CanRead link content) :=
  inferInstanceAs (Decidable (_ ∧ _ ∧ _))

instance
    (socket : SocketRef)
    (outcome : RecvOutcome) :
    Decidable (system.CanReceive socket outcome) :=
  match outcome with
  | .data bytes =>
      inferInstanceAs
        (Decidable
          (∃ link ∈ system.peer? socket, bytes <+: system.requests link))
  | .closed =>
      inferInstanceAs
        (Decidable
          (∃ link ∈ system.peer? socket,
            system.requests link = [] ∧ system.Ended link))
  | .failed =>
      isTrue trivial

instance (label : ServerLabel) :
    Decidable (system.PermitsServer label) :=
  match label with
  | .listen (.accept _ _) =>
      inferInstanceAs (Decidable (system.backlog ≠ []))
  | .listen (.read socket outcome _) =>
      inferInstanceAs (Decidable (system.CanReceive socket outcome))
  | .send _ | .listen .leaveLoop | .listen .enterWait |
    .listen (.lockKillEvent _) | .listen (.unlockKillEvent _) |
    .listen (.select _ _) | .listen (.lockRemove _) |
    .listen (.remove _) | .listen (.lockNames _ _) |
    .listen (.visitLogin _ _ _ _) | .listen (.write _ _ _) |
    .listen (.lockAssociate _ _ _) | .listen (.associate _ _ _) |
    .listen (.lockQueue _ _) | .listen (.pushBack _ _) |
    .listen (.acceptFailed _) | .listen (.lockAdd _) |
    .listen (.add _) | .listen .lockStop | .listen .closeAll |
    .listen .lockKill | .listen .kill | .listen .unlockStop =>
      isTrue trivial

variable [DecidableEq ClientId]

/-- What `::write` has taken goes to the peer of an open socket. -/
def written
    (socket : SocketRef)
    (text : Bytes) :
    WriteOutcome → StreamSystem ClientId DateTime
  | .written count =>
      if (system.server.heap socket).isOpen = true then
        match system.peer? socket with
        | none =>
            system
        | some link =>
            { system with
              responses :=
                Function.update system.responses link
                  (system.responses link ++ text.take count) }
      else
        system
  | .failed =>
      system

/-- The network after a step of the server. -/
def afterServer : ServerLabel → StreamSystem ClientId DateTime
  | .listen (.accept newClient _) =>
      { system with
        backlog := system.backlog.tail
        accepted :=
          system.accepted ++
            system.backlog.head?.toList.map fun link =>
              (newClient, link) }
  | .listen (.read socket (.data bytes) _) =>
      match system.peer? socket with
      | none =>
          system
      | some link =>
          { system with
            requests :=
              Function.update system.requests link
                ((system.requests link).drop bytes.length) }
  | .listen (.write socket text outcome) =>
      system.written socket text outcome
  | .send (.write _ text socket _ _ outcome) =>
      system.written socket text outcome
  | _ =>
      system

/-- The network after a step of a client; a send that fails has sent nothing. -/
def afterClient
    (DATETIME_FORMAT : DateTime → String)
    (escape : Bytes → Bytes)
    (client : ClientId) :
    StreamActivityLabel DateTime → StreamSystem ClientId DateTime
  | .background (.socketConnect connection _) (.ok ()) =>
      { system with
        backlog := system.backlog ++ [(client, connection)] }
  | .background (.send connection message) (.ok ()) =>
      { system with
        requests :=
          Function.update system.requests (client, connection)
            (system.requests (client, connection) ++
              message.getBytes DATETIME_FORMAT escape) }
  | _ =>
      system

/-- A read has taken bytes from a connection. -/
def afterRead
    (link : Link ClientId)
    (content : Bytes) :
    StreamSystem ClientId DateTime :=
  { system with
    responses :=
      Function.update system.responses link
        ((system.responses link).drop content.length) }

end Network

variable [DecidableEq ClientId] [DecidableEq DateTime]

/-- The steps of the system. -/
def step?
    (platform : Platform)
    (clientPlatform : ClientPlatform DateTime)
    (DATETIME_FORMAT : DateTime → String)
    (escape : Bytes → Bytes)
    (system : StreamSystem ClientId DateTime) :
    StreamLabel ClientId DateTime →
      Option (StreamSystem ClientId DateTime)
  | .server label =>
      if system.PermitsServer label then
        (system.server.step? platform label).map fun next =>
          { system.afterServer label with server := next }
      else
        none
  | .client client label =>
      if IsOwn label then
        ((system.clients client).step? label).map fun next =>
          { system.afterClient DATETIME_FORMAT escape client label with
            clients := Function.update system.clients client next }
      else
        none
  | .read client connection content now message =>
      let outcome := visitContent clientPlatform content now
      if system.CanRead (client, connection) content ∧
          Reports message outcome then
        ((system.clients client).step?
            (readerLabel connection message outcome)).map fun next =>
          { system.afterRead (client, connection) content with
            clients := Function.update system.clients client next }
      else
        none

section Steps

variable
  {platform : Platform}
  {clientPlatform : ClientPlatform DateTime}
  {DATETIME_FORMAT : DateTime → String}
  {escape : Bytes → Bytes}
  {system next : StreamSystem ClientId DateTime}

/-- A step of the server, taken apart. -/
theorem step?_server
    {label : ServerLabel}
    (taken :
      step? platform clientPlatform DATETIME_FORMAT escape system
          (.server label) =
        some next) :
    system.PermitsServer label ∧
      ∃ after,
        system.server.step? platform label = some after ∧
          next = { system.afterServer label with server := after } := by
  unfold step? at taken
  dsimp only at taken
  split at taken
  · rename_i permitted
    obtain ⟨after, stepped, rfl⟩ := Option.map_eq_some_iff.mp taken
    exact ⟨permitted, after, stepped, rfl⟩
  · contradiction

/-- A step of a client, taken apart. -/
theorem step?_client
    {client : ClientId}
    {label : StreamActivityLabel DateTime}
    (taken :
      step? platform clientPlatform DATETIME_FORMAT escape system
          (.client client label) =
        some next) :
    IsOwn label ∧
      ∃ after,
        (system.clients client).step? label = some after ∧
          next =
            { system.afterClient DATETIME_FORMAT escape client label with
              clients :=
                Function.update system.clients client after } := by
  unfold step? at taken
  dsimp only at taken
  split at taken
  · rename_i isOwn
    obtain ⟨after, stepped, rfl⟩ := Option.map_eq_some_iff.mp taken
    exact ⟨isOwn, after, stepped, rfl⟩
  · contradiction

/-- A read of a reader thread, taken apart. -/
theorem step?_read
    {client : ClientId}
    {connection : Nat}
    {content : Bytes}
    {now : DateTime}
    {message : String}
    (taken :
      step? platform clientPlatform DATETIME_FORMAT escape system
          (.read client connection content now message) =
        some next) :
    system.CanRead (client, connection) content ∧
      Reports message (visitContent clientPlatform content now) ∧
        ∃ after,
          (system.clients client).step?
              (readerLabel connection message
                (visitContent clientPlatform content now)) =
            some after ∧
            next =
              { system.afterRead (client, connection) content with
                clients :=
                  Function.update system.clients client after } := by
  unfold step? at taken
  dsimp only at taken
  split at taken
  · rename_i permitted
    obtain ⟨after, stepped, rfl⟩ := Option.map_eq_some_iff.mp taken
    exact ⟨permitted.1, permitted.2, after, stepped, rfl⟩
  · contradiction

end Steps

end StreamSystem

end ChatRelay
