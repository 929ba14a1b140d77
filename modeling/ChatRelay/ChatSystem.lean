import Mathlib.Data.List.Basic
import Mathlib.Logic.Function.Basic
import ChatRelay.ClientActivity
import ChatRelay.ServerAcceptance

namespace ChatRelay

/-!
# The server and its clients

The process of the server and the activities of any number of clients run side
by side.  Each connection of a client is a stream of bytes towards the server
and a sequence of responses towards the client.

A read of the client takes one whole response or ends its reader; what else a
read can find is the subject of the framing of responses.  A send of a client
that fails leaves nothing on the stream: the part of the request that may have
gone out before the failure is not modelled.  A broadcast carries along the
socket whose request it answers, which no program looks at.
-/

open Client (Activity ActivityLabel Row)
open RequestFraming (ClientRequest)

/-- A connection of a client, by the number of its `SocketManager`. -/
abbrev Link (ClientId : Type) :=
  ClientId × Nat

/-- A login response and the socket whose request it answers. -/
structure Announcement where
  origin : SocketRef
  response : Response.Login
  deriving Repr, DecidableEq

/-- The activity of a client that is sent announcements. -/
abbrev ChatClient (DateTime : Type) :=
  Activity DateTime Announcement Response.Message

/-- A response that the server has written to a connection. -/
inductive Delivery where
  | broadcast
      (origin : SocketRef)
      (response : Response) :
      Delivery
  | reply (text : Bytes) : Delivery
  deriving Repr, DecidableEq

/-- The row that the reader of a client posts for a response. -/
def Delivery.row? :
    Delivery → Option (Row Announcement Response.Message)
  | broadcast origin (.login response) =>
      some (.login ⟨origin, response⟩)
  | broadcast _ (.message response) =>
      some (.message response)
  | _ =>
      none

/--
The processes, what the server has done, and the network: connections that the
server is to accept, those it has accepted, the bytes that are on their way to
it and the responses on their way from it.
-/
structure ChatSystem (ClientId DateTime : Type) where
  server : Server
  log : List ServerLabel
  clients : ClientId → ChatClient DateTime
  backlog : List (Link ClientId)
  accepted : List (SocketRef × Link ClientId)
  requests : Link ClientId → Bytes
  responses : Link ClientId → List Delivery

/-- A step of the server or of a client. -/
inductive SystemLabel (ClientId DateTime : Type) where
  | server (label : ServerLabel) : SystemLabel ClientId DateTime
  | client
      (client : ClientId)
      (label : ActivityLabel DateTime Announcement Response.Message) :
      SystemLabel ClientId DateTime

namespace ChatSystem

variable {ClientId DateTime : Type}

/-- Every process has started and nobody is connected. -/
def initial (openDescriptors : List Nat) : ChatSystem ClientId DateTime where
  server := Server.initial openDescriptors
  log := []
  clients := fun _ => Activity.onCreate
  backlog := []
  accepted := []
  requests := fun _ => []
  responses := fun _ => []

section Network

variable (system : ChatSystem ClientId DateTime)

/-- The other end of a socket of the server. -/
def peer? (socket : SocketRef) : Option (Link ClientId) :=
  system.accepted.lookup socket

/-- The client has closed the connection or is gone. -/
def Ended (link : Link ClientId) : Prop :=
  ((system.clients link.1).connections link.2).closed = true ∨
    (system.clients link.1).crashed = true

instance (link : Link ClientId) : Decidable (system.Ended link) :=
  inferInstanceAs (Decidable (_ ∨ _))

/-- What `::recv` can return on a socket. -/
def CanReceive (socket : SocketRef) : RecvOutcome → Prop
  | .data bytes =>
      ∃ link ∈ system.peer? socket, bytes <+: system.requests link
  | .closed =>
      ∃ link ∈ system.peer? socket,
        system.requests link = [] ∧ system.Ended link
  | .failed =>
      True

/-- What the network lets the server do. -/
def PermitsServer : ServerLabel → Prop
  | .listen (.accept _ _) =>
      system.backlog ≠ []
  | .listen (.read socket outcome _) =>
      system.CanReceive socket outcome
  | _ =>
      True

/-- What the network lets a client do. -/
def PermitsClient
    (client : ClientId) :
    ActivityLabel DateTime Announcement Response.Message → Prop
  | .visitRow connection row =>
      ∃ delivery ∈ (system.responses (client, connection)).head?,
        delivery.row? = some row
  | .visitError connection _ =>
      ∃ delivery ∈ (system.responses (client, connection)).head?,
        delivery.row? = none
  | _ =>
      True

variable [DecidableEq ClientId]

/-- Something has been written to a socket as a whole. -/
def deliver
    (socket : SocketRef)
    (delivery : Delivery) :
    ChatSystem ClientId DateTime :=
  match system.peer? socket with
  | none =>
      system
  | some link =>
      { system with
        responses :=
          Function.update system.responses link
            (system.responses link ++ [delivery]) }

/-- A write of the whole text to an open socket is delivered. -/
def written
    (socket : SocketRef)
    (text : Bytes)
    (outcome : WriteOutcome)
    (delivery : Delivery) :
    ChatSystem ClientId DateTime :=
  if (system.server.heap socket).isOpen = true ∧
      outcome = .written text.length then
    system.deliver socket delivery
  else
    system

/-- The network after a step of the server. -/
def afterServer : ServerLabel → ChatSystem ClientId DateTime
  | .listen (.accept newClient _) =>
      { system with
        backlog := system.backlog.tail
        accepted :=
          system.accepted ++
            system.backlog.head?.toList.map fun link =>
              (newClient, link) }
  | .listen (.read socket (.data bytes) _) =>
      match system.peer? socket with
      | none =>
          system
      | some link =>
          { system with
            requests :=
              Function.update system.requests link
                ((system.requests link).drop bytes.length) }
  | .listen (.write socket text outcome) =>
      system.written socket text outcome (.reply text)
  | .send (.write message text socket _ _ outcome) =>
      match Server.writtenPush? system.log with
      | none =>
          system
      | some (origin, _) =>
          system.written socket text outcome (.broadcast origin message)
  | _ =>
      system

/-- The first response to a connection has been read. -/
def received (link : Link ClientId) : ChatSystem ClientId DateTime :=
  { system with
    responses :=
      Function.update system.responses link
        (system.responses link).tail }

variable
  (DATETIME_FORMAT : DateTime → String)
  (escape : Bytes → Bytes)

/-- The network after a step of a client; a send that fails has sent nothing. -/
def afterClient
    (client : ClientId) :
    ActivityLabel DateTime Announcement Response.Message →
      ChatSystem ClientId DateTime
  | .background (.socketConnect connection _) (.ok ()) =>
      { system with
        backlog := system.backlog ++ [(client, connection)] }
  | .background (.send connection message) (.ok ()) =>
      { system with
        requests :=
          Function.update system.requests (client, connection)
            (system.requests (client, connection) ++
              message.getBytes DATETIME_FORMAT escape) }
  | .visitRow connection _ =>
      system.received (client, connection)
  | .visitError connection _ =>
      system.received (client, connection)
  | _ =>
      system

end Network

section Decidable

variable [DecidableEq ClientId]
variable (system : ChatSystem ClientId DateTime)

instance
    (socket : SocketRef)
    (outcome : RecvOutcome) :
    Decidable (system.CanReceive socket outcome) := by
  cases outcome <;> simp only [CanReceive] <;> infer_instance

instance (label : ServerLabel) :
    Decidable (system.PermitsServer label) := by
  unfold PermitsServer
  split <;> infer_instance

instance
    (client : ClientId)
    (label : ActivityLabel DateTime Announcement Response.Message) :
    Decidable (system.PermitsClient client label) := by
  cases label <;> simp only [PermitsClient] <;> infer_instance

end Decidable

/-! ### What a step does to the network -/

/-- Clients and accepted connections stay, and little new is on its way. -/
structure Sends
    (system next : ChatSystem ClientId DateTime)
    (sent : Delivery → Prop) : Prop where
  clients : next.clients = system.clients
  accepted : system.accepted ⊆ next.accepted
  responses :
    ∀ link,
      ∀ delivery ∈ next.responses link,
      delivery ∈ system.responses link ∨ sent delivery

/-- What a step of the server can send. -/
inductive IsSent
    (log : List ServerLabel) :
    ServerLabel → Delivery → Prop where
  | reply
      (label : ServerLabel)
      (text : Bytes) :
      IsSent log label (.reply text)
  | broadcast
      {message pushed : Response}
      {text : Bytes}
      {socket origin : SocketRef}
      {targets : List SocketRef}
      {remaining : List Response}
      {outcome : WriteOutcome} :
      Server.writtenPush? log = some (origin, pushed) →
      IsSent log
        (.send (.write message text socket targets remaining outcome))
        (.broadcast origin message)

section Network

variable {system : ChatSystem ClientId DateTime}

theorem Sends.nothing
    {sent : Delivery → Prop} :
    Sends system system sent :=
  ⟨rfl, List.Subset.refl _, fun _ _ before => Or.inl before⟩

variable [DecidableEq ClientId]

theorem deliver_sends
    {socket : SocketRef}
    {delivery : Delivery}
    {sent : Delivery → Prop}
    (isSent : sent delivery) :
    Sends system (system.deliver socket delivery) sent := by
  unfold deliver
  split
  · exact .nothing
  · rename_i link _
    refine ⟨rfl, List.Subset.refl _, ?_⟩
    intro other item isItem
    by_cases same : other = link
    · subst same
      simp only [Function.update_self, List.mem_append,
        List.mem_singleton] at isItem
      rcases isItem with before | rfl
      · exact Or.inl before
      · exact Or.inr isSent
    · simp only [Function.update_of_ne same] at isItem
      exact Or.inl isItem

theorem written_sends
    {socket : SocketRef}
    {text : Bytes}
    {outcome : WriteOutcome}
    {delivery : Delivery}
    {sent : Delivery → Prop}
    (isSent : sent delivery) :
    Sends system (system.written socket text outcome delivery) sent := by
  unfold written
  split
  · exact deliver_sends isSent
  · exact .nothing

/-- The server sends replies and the response that is being written. -/
theorem afterServer_sends
    (label : ServerLabel) :
    Sends system (system.afterServer label)
      (IsSent system.log label) := by
  unfold afterServer
  split
  · exact ⟨rfl, List.subset_append_left _ _,
      fun _ _ before => Or.inl before⟩
  · split
    · exact .nothing
    · exact ⟨rfl, List.Subset.refl _,
        fun _ _ before => Or.inl before⟩
  · exact written_sends (.reply _ _)
  · split
    · exact .nothing
    · rename_i next
      exact written_sends (.broadcast next)
  · exact .nothing

theorem received_sends
    (link : Link ClientId) :
    Sends system (system.received link) (fun _ => False) := by
  refine ⟨rfl, List.Subset.refl _, ?_⟩
  intro other delivery isDelivery
  refine Or.inl ?_
  by_cases same : other = link
  · subst same
    simp only [received, Function.update_self] at isDelivery
    exact List.mem_of_mem_tail isDelivery
  · simp only [received, Function.update_of_ne same] at isDelivery
    exact isDelivery

/-- A client sends no responses. -/
theorem afterClient_sends
    (DATETIME_FORMAT : DateTime → String)
    (escape : Bytes → Bytes)
    (client : ClientId)
    (label : ActivityLabel DateTime Announcement Response.Message) :
    Sends system
      (system.afterClient DATETIME_FORMAT escape client label)
      (fun _ => False) := by
  unfold afterClient
  split
  · exact ⟨rfl, List.Subset.refl _,
      fun _ _ before => Or.inl before⟩
  · exact ⟨rfl, List.Subset.refl _,
      fun _ _ before => Or.inl before⟩
  · exact received_sends _
  · exact received_sends _
  · exact .nothing

/-- A client does not act on the server. -/
theorem afterClient_server
    (DATETIME_FORMAT : DateTime → String)
    (escape : Bytes → Bytes)
    (client : ClientId)
    (label : ActivityLabel DateTime Announcement Response.Message) :
    (system.afterClient DATETIME_FORMAT escape client label).server =
        system.server ∧
      (system.afterClient DATETIME_FORMAT escape client label).log =
        system.log := by
  unfold afterClient received
  split <;> exact ⟨rfl, rfl⟩

end Network

variable [DecidableEq ClientId] [DecidableEq DateTime]

/-- The steps of the system: a process moves as the network lets it. -/
def step?
    (platform : Platform)
    (DATETIME_FORMAT : DateTime → String)
    (escape : Bytes → Bytes)
    (system : ChatSystem ClientId DateTime) :
    SystemLabel ClientId DateTime →
      Option (ChatSystem ClientId DateTime)
  | .server label =>
      if system.PermitsServer label then
        (system.server.step? platform label).map fun next =>
          { system.afterServer label with
            server := next
            log := system.log ++ [label] }
      else
        none
  | .client client label =>
      if system.PermitsClient client label then
        ((system.clients client).step? label).map fun next =>
          { system.afterClient DATETIME_FORMAT escape client label with
            clients := Function.update system.clients client next }
      else
        none

section Steps

variable
  {platform : Platform}
  {DATETIME_FORMAT : DateTime → String}
  {escape : Bytes → Bytes}
  {system next : ChatSystem ClientId DateTime}

/-- A step of the server, taken apart. -/
theorem step?_server
    {label : ServerLabel}
    (taken :
      step? platform DATETIME_FORMAT escape system (.server label) =
        some next) :
    ∃ after,
      system.server.step? platform label = some after ∧
        next =
          { system.afterServer label with
            server := after
            log := system.log ++ [label] } := by
  unfold step? at taken
  dsimp only at taken
  split at taken
  · obtain ⟨after, stepped, rfl⟩ := Option.map_eq_some_iff.mp taken
    exact ⟨after, stepped, rfl⟩
  · contradiction

/-- A step of a client, taken apart. -/
theorem step?_client
    {client : ClientId}
    {label : ActivityLabel DateTime Announcement Response.Message}
    (taken :
      step? platform DATETIME_FORMAT escape system
          (.client client label) =
        some next) :
    system.PermitsClient client label ∧
      ∃ after,
        (system.clients client).step? label = some after ∧
          next =
            { system.afterClient DATETIME_FORMAT escape client label with
              clients :=
                Function.update system.clients client after } := by
  unfold step? at taken
  dsimp only at taken
  split at taken
  · rename_i permitted
    obtain ⟨after, stepped, rfl⟩ := Option.map_eq_some_iff.mp taken
    exact ⟨permitted, after, stepped, rfl⟩
  · contradiction

end Steps

end ChatSystem

end ChatRelay
