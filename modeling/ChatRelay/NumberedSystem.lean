import Mathlib.Data.List.Basic
import Mathlib.Data.List.Nodup
import Mathlib.Data.List.ReduceOption
import ChatRelay.DistinctConnections
import ChatRelay.LiveConnection
import ChatRelay.LoginAgreement

namespace ChatRelay

/-!
# The broadcasts of the system, numbered

The broadcasts of the server are numbered by their write loops.  Beside the
system goes the number of every response that is on its way to a client, and
for every client the numbers of the broadcasts that its readers have posted to
the handler.  The numbers look on: they change nothing that the system does.

The connections of the system stay apart.  A write loop has different sockets,
two sockets have different clients or connections at their other ends, and
nothing is on its way to a connection that the server has not accepted.
-/

open LabelledRun

open Client (Activity ActivityLabel)
open Client.Activity (Wired HoldsLast Last OneLive KeepsOneLive)

namespace ChatSystem

variable {ClientId DateTime : Type}

/-- The connection to which the server writes a whole text. -/
def writtenTo?
    (system : ChatSystem ClientId DateTime)
    (socket : SocketRef)
    (text : Bytes)
    (outcome : WriteOutcome) :
    Option (Link ClientId) :=
  if (system.server.heap socket).isOpen = true ∧
      outcome = .written text.length then
    system.peer? socket
  else
    none

/-- A whole text is written to the peer of an open socket. -/
theorem writtenTo?_some
    {system : ChatSystem ClientId DateTime}
    {socket : SocketRef}
    {text : Bytes}
    {outcome : WriteOutcome}
    {link : Link ClientId}
    (isTarget : system.writtenTo? socket text outcome = some link) :
    (system.server.heap socket).isOpen = true ∧
      system.peer? socket = some link := by
  unfold writtenTo? at isTarget
  split at isTarget
  · rename_i whole
    exact ⟨whole.1, isTarget⟩
  · contradiction

/-- The number of write loops that have begun. -/
def loop (system : ChatSystem ClientId DateTime) : Nat :=
  (Server.begunLoops system.log).length

section Network

variable [DecidableEq ClientId]
variable (system : ChatSystem ClientId DateTime)

/-- Every connection that the server has accepted or is to accept. -/
def links (system : ChatSystem ClientId DateTime) : List (Link ClientId) :=
  system.accepted.map Prod.snd ++ system.backlog

omit [DecidableEq ClientId] in
/-- The other end of a socket has been accepted. -/
theorem peer?_accepted
    {socket : SocketRef}
    {link : Link ClientId}
    (isPeer : system.peer? socket = some link) :
    (socket, link) ∈ system.accepted := by
  obtain ⟨before, after, accepted, _⟩ := List.lookup_eq_some_iff.mp isPeer
  rw [accepted]
  exact List.mem_append_right before List.mem_cons_self

/-- A write changes the responses only. -/
theorem written_network
    (socket : SocketRef)
    (text : Bytes)
    (outcome : WriteOutcome)
    (delivery : Delivery) :
    (system.written socket text outcome delivery).accepted =
        system.accepted ∧
      (system.written socket text outcome delivery).backlog =
        system.backlog := by
  unfold written deliver
  split
  · split <;> exact ⟨rfl, rfl⟩
  · exact ⟨rfl, rfl⟩

/-- A step of the server keeps the connections, and the peers of its sockets. -/
theorem afterServer_network
    (label : ServerLabel) :
    (system.afterServer label).links = system.links ∧
      ∀ socket,
        (∀ connectionFD,
          label ≠ .listen (.accept socket connectionFD)) →
        (system.afterServer label).peer? socket =
          system.peer? socket := by
  have kept
      {next : ChatSystem ClientId DateTime}
      (network :
        next.accepted = system.accepted ∧
          next.backlog = system.backlog) :
      next.links = system.links ∧
        ∀ socket,
          (∀ connectionFD,
            label ≠ .listen (.accept socket connectionFD)) →
          next.peer? socket = system.peer? socket := by
    obtain ⟨accepted, backlog⟩ := network
    refine ⟨?_, fun socket _ => ?_⟩
    · rw [links, links, accepted, backlog]
    · rw [peer?, peer?, accepted]
  unfold afterServer
  split
  · rename_i newClient connectionFD
    refine ⟨?_, ?_⟩
    · simp only [links, List.map_append, List.append_assoc]
      cases system.backlog with
      | nil =>
          rfl
      | cons link rest =>
          rfl
    · intro socket notNew
      have different : socket ≠ newClient := by
        rintro rfl
        exact notNew connectionFD rfl
      have other : (socket == newClient) = false :=
        beq_eq_false_iff_ne.mpr different
      simp only [peer?, List.lookup_append]
      cases system.backlog with
      | nil =>
          simp
      | cons link rest =>
          simp [List.lookup_cons, other]
  · split
    · exact kept ⟨rfl, rfl⟩
    · exact kept ⟨rfl, rfl⟩
  · exact kept (system.written_network _ _ _ _)
  · split
    · exact kept ⟨rfl, rfl⟩
    · exact kept (system.written_network _ _ _ _)
  · exact kept ⟨rfl, rfl⟩

/-- A step of a client keeps what has been accepted. -/
theorem afterClient_accepted
    (DATETIME_FORMAT : DateTime → String)
    (escape : Bytes → Bytes)
    (client : ClientId)
    (label : ActivityLabel DateTime Announcement Response.Message) :
    (system.afterClient DATETIME_FORMAT escape client label).accepted =
      system.accepted := by
  unfold afterClient received
  split <;> rfl

/-- A step of a client makes one link when it connects, and none otherwise. -/
theorem afterClient_links
    (DATETIME_FORMAT : DateTime → String)
    (escape : Bytes → Bytes)
    (client : ClientId)
    (label : ActivityLabel DateTime Announcement Response.Message) :
    (∃ connection req,
      label = .background (.socketConnect connection req) (.ok ()) ∧
        (system.afterClient DATETIME_FORMAT escape client label).links =
          system.links ++ [(client, connection)]) ∨
      (system.afterClient DATETIME_FORMAT escape client label).links =
        system.links := by
  unfold afterClient received
  split
  · rename_i connection req
    refine Or.inl ⟨connection, req, rfl, ?_⟩
    rw [links, links, List.append_assoc]
  · exact Or.inr rfl
  · exact Or.inr rfl
  · exact Or.inr rfl
  · exact Or.inr rfl

end Network

end ChatSystem

/--
The system, the number of every response on its way to a client, and what the
readers of a client have posted.  A reply has no number.
-/
structure NumberedSystem (ClientId DateTime : Type) where
  system : ChatSystem ClientId DateTime
  numbers : Link ClientId → List (Option Nat)
  posted : ClientId → List Nat

namespace NumberedSystem

variable {ClientId DateTime : Type}

/-- Nothing is on its way. -/
def initial (descriptors : List Nat) : NumberedSystem ClientId DateTime where
  system := .initial descriptors
  numbers := fun _ => []
  posted := fun _ => []

section Numbers

variable (numbered : NumberedSystem ClientId DateTime)

/-- The broadcasts that a client has been posted or can read from a connection. -/
def broadcasts (client : ClientId) (connection : Nat) : List Nat :=
  numbered.posted client ++
    (numbered.numbers (client, connection)).reduceOption

variable [DecidableEq ClientId]

/-- A response with a number goes to a connection. -/
def push
    (number : Option Nat) :
    Option (Link ClientId) → Link ClientId → List (Option Nat)
  | none =>
      numbered.numbers
  | some link =>
      Function.update numbered.numbers link
        (numbered.numbers link ++ [number])

/-- The numbers after a step of the server. -/
def numbersAfterServer :
    ServerLabel → Link ClientId → List (Option Nat)
  | .listen (.write socket text outcome) =>
      numbered.push none
        (numbered.system.writtenTo? socket text outcome)
  | .send (.write _ text socket _ _ outcome) =>
      numbered.push (some numbered.system.loop)
        (numbered.system.writtenTo? socket text outcome)
  | _ =>
      numbered.numbers

/-- The first response to a connection has been read. -/
def pop (link : Link ClientId) : Link ClientId → List (Option Nat) :=
  Function.update numbered.numbers link (numbered.numbers link).tail

/-- The numbers after a step of a client. -/
def numbersAfterClient
    (client : ClientId) :
    ActivityLabel DateTime Announcement Response.Message →
      Link ClientId → List (Option Nat)
  | .visitRow connection _ =>
      numbered.pop (client, connection)
  | .visitError connection _ =>
      numbered.pop (client, connection)
  | _ =>
      numbered.numbers

/-- What has been posted after a step of a client. -/
def postedAfterClient
    (client : ClientId) :
    ActivityLabel DateTime Announcement Response.Message →
      ClientId → List Nat
  | .visitRow connection _ =>
      Function.update numbered.posted client
        (numbered.posted client ++
          (numbered.numbers (client, connection)).head?.join.toList)
  | _ =>
      numbered.posted

end Numbers

variable [DecidableEq ClientId] [DecidableEq DateTime]

/-- The steps of the system, with the numbers. -/
def step?
    (platform : Platform)
    (DATETIME_FORMAT : DateTime → String)
    (escape : Bytes → Bytes)
    (numbered : NumberedSystem ClientId DateTime) :
    SystemLabel ClientId DateTime →
      Option (NumberedSystem ClientId DateTime)
  | .server label =>
      (numbered.system.step? platform DATETIME_FORMAT escape
        (.server label)).map fun next =>
          { system := next
            numbers := numbered.numbersAfterServer label
            posted := numbered.posted }
  | .client client label =>
      (numbered.system.step? platform DATETIME_FORMAT escape
        (.client client label)).map fun next =>
          { system := next
            numbers := numbered.numbersAfterClient client label
            posted := numbered.postedAfterClient client label }

section Steps

variable
  {platform : Platform}
  {DATETIME_FORMAT : DateTime → String}
  {escape : Bytes → Bytes}
  {descriptors : List Nat}
  {numbered next : NumberedSystem ClientId DateTime}

/-- A step of the server, taken apart. -/
theorem step?_server
    {label : ServerLabel}
    (taken :
      step? platform DATETIME_FORMAT escape numbered (.server label) =
        some next) :
    ∃ after,
      numbered.system.server.step? platform label = some after ∧
        next =
          { system :=
              { numbered.system.afterServer label with
                server := after
                log := numbered.system.log ++ [label] }
            numbers := numbered.numbersAfterServer label
            posted := numbered.posted } := by
  obtain ⟨system, stepped, rfl⟩ := Option.map_eq_some_iff.mp taken
  obtain ⟨after, served, rfl⟩ := ChatSystem.step?_server stepped
  exact ⟨after, served, rfl⟩

/-- A step of a client, taken apart. -/
theorem step?_client
    {client : ClientId}
    {label : ActivityLabel DateTime Announcement Response.Message}
    (taken :
      step? platform DATETIME_FORMAT escape numbered
          (.client client label) =
        some next) :
    ∃ after,
      (numbered.system.clients client).step? label = some after ∧
        next =
          { system :=
              { numbered.system.afterClient DATETIME_FORMAT escape
                  client label with
                clients :=
                  Function.update numbered.system.clients client after }
            numbers := numbered.numbersAfterClient client label
            posted := numbered.postedAfterClient client label } := by
  obtain ⟨system, stepped, rfl⟩ := Option.map_eq_some_iff.mp taken
  obtain ⟨_, after, moved, rfl⟩ := ChatSystem.step?_client stepped
  exact ⟨after, moved, rfl⟩

/-- The numbers look on: the runs are those of the system. -/
theorem run?_system
    (labels : List (SystemLabel ClientId DateTime)) :
    (run? (step? platform DATETIME_FORMAT escape)
        (initial descriptors) labels).map system =
      run? (ChatSystem.step? platform DATETIME_FORMAT escape)
        (.initial descriptors) labels := by
  refine run?_map ?_ (initial descriptors) labels
  intro numbered label
  cases label with
  | server label =>
      simp only [step?, Option.map_map]
      exact Option.map_id'
  | client client label =>
      simp only [step?, Option.map_map]
      exact Option.map_id'

/-! ### The numbers follow the responses -/

/-! ### What keeps the connections apart -/

/-- What keeps the connections of all clients apart. -/
structure Apart (numbered : NumberedSystem ClientId DateTime) : Prop where
  distinct : numbered.system.server.Distinct
  wired : ∀ client, Wired (numbered.system.clients client)
  holdsLast : ∀ client, HoldsLast (numbered.system.clients client)
  links : numbered.system.links.Nodup
  connected :
    ∀ link ∈ numbered.system.links,
      ((numbered.system.clients link.1).connections
        link.2).isConnected = true
  silent :
    ∀ link,
      link ∉ numbered.system.accepted.map Prod.snd →
      numbered.numbers link = []

omit [DecidableEq ClientId] [DecidableEq DateTime] in
theorem Apart.initial
    (descriptors : List Nat) :
    Apart (initial descriptors : NumberedSystem ClientId DateTime) where
  distinct := .initial descriptors
  wired := fun _ => Client.Activity.onCreate_wired
  holdsLast := by
    intro client connection held
    contradiction
  links := List.nodup_nil
  connected := by
    intro link inNothing
    contradiction
  silent := fun _ _ => rfl

omit [DecidableEq ClientId] [DecidableEq DateTime] in
/-- A connection that has not been connected is nobody's link. -/
theorem Apart.unconnected
    {link : Link ClientId}
    (apart : Apart numbered)
    (unconnected :
      ((numbered.system.clients link.1).connections
        link.2).isConnected = false) :
    link ∉ numbered.system.links := by
  intro isLink
  have isConnected := apart.connected link isLink
  rw [unconnected] at isConnected
  contradiction

omit [DecidableEq DateTime] in
/-- A number goes to an accepted connection. -/
theorem push_of_not_accepted
    {number : Option Nat}
    {socket : SocketRef}
    {text : Bytes}
    {outcome : WriteOutcome}
    {link : Link ClientId}
    (notAccepted : link ∉ numbered.system.accepted.map Prod.snd) :
    numbered.push number
        (numbered.system.writtenTo? socket text outcome) link =
      numbered.numbers link := by
  unfold ChatSystem.writtenTo?
  split
  · cases isPeer : numbered.system.peer? socket with
    | none =>
        rfl
    | some target =>
        have different : link ≠ target := by
          rintro rfl
          exact notAccepted
            (List.mem_map_of_mem
              (numbered.system.peer?_accepted isPeer))
        exact Function.update_of_ne different ..
  · rfl

theorem Apart.server
    {label : ServerLabel}
    (apart : Apart numbered)
    (taken :
      step? platform DATETIME_FORMAT escape numbered (.server label) =
        some next) :
    Apart next := by
  obtain ⟨after, stepped, rfl⟩ := step?_server taken
  have sends := @ChatSystem.afterServer_sends _ _ numbered.system _ label
  obtain ⟨sameLinks, _⟩ := numbered.system.afterServer_network label
  refine ⟨apart.distinct.step stepped, ?_, ?_, ?_, ?_, ?_⟩
  · dsimp only
    rw [sends.clients]
    exact apart.wired
  · dsimp only
    rw [sends.clients]
    exact apart.holdsLast
  · exact sameLinks ▸ apart.links
  · intro link isLink
    have before : link ∈ numbered.system.links := sameLinks ▸ isLink
    dsimp only
    rw [sends.clients]
    exact apart.connected link before
  · intro link notAccepted
    have before : link ∉ numbered.system.accepted.map Prod.snd :=
      fun accepted =>
        notAccepted (List.map_subset Prod.snd sends.accepted accepted)
    have silent := apart.silent link before
    cases label with
    | listen action =>
        cases action with
        | write socket text outcome =>
            exact (push_of_not_accepted before).trans silent
        | _ =>
            exact silent
    | send action =>
        cases action with
        | write message text socket targets remaining outcome =>
            exact (push_of_not_accepted before).trans silent
        | _ =>
            exact silent

/-- The client has connected to the server. -/
theorem connected_of_background
    {activity after : Client.Activity DateTime Announcement Response.Message}
    {connection : Nat}
    {req : RequestFraming.ClientRequest DateTime}
    (wired : Wired activity)
    (stepped :
      activity.step?
          (.background (.socketConnect connection req) (.ok ())) =
        some after) :
    (activity.connections connection).isConnected = false ∧
      (after.connections connection).isConnected = true := by
  obtain ⟨⟨_, first, _⟩, rfl⟩ := guarded_eq_some.mp stepped
  obtain ⟨_, _, unread⟩ :=
    wired.taken (Client.Activity.attempts_background first)
  injection unread with notConnected
  refine ⟨notConnected, ?_⟩
  simp only [Client.Activity.runBackground, Client.Activity.setConnection,
    Function.update_self]
  rfl

theorem Apart.client
    {client : ClientId}
    {label : ActivityLabel DateTime Announcement Response.Message}
    (apart : Apart numbered)
    (taken :
      step? platform DATETIME_FORMAT escape numbered
          (.client client label) =
        some next) :
    Apart next := by
  obtain ⟨after, stepped, rfl⟩ := step?_client taken
  obtain ⟨sameServer, _⟩ :=
    @ChatSystem.afterClient_server _ _ numbered.system _
      DATETIME_FORMAT escape client label
  have accepted :=
    numbered.system.afterClient_accepted DATETIME_FORMAT escape client
      label
  have wired := apart.wired client
  obtain ⟨_, stays⟩ := Client.Activity.step?_connections wired stepped
  have connected :
      ∀ link ∈ numbered.system.links,
        ((Function.update numbered.system.clients client after
          link.1).connections link.2).isConnected = true := by
    intro link isLink
    have before := apart.connected link isLink
    by_cases same : link.1 = client
    · subst same
      rw [Function.update_self]
      exact stays link.2 before
    · rw [Function.update_of_ne same]
      exact before
  refine ⟨?_, ?_, ?_, ?_, ?_, ?_⟩
  · exact sameServer ▸ apart.distinct
  · exact (Function.forall_update_iff numbered.system.clients
      (p := fun _ activity => Wired activity)).mpr
        ⟨wired.step stepped, fun other _ => apart.wired other⟩
  · exact (Function.forall_update_iff numbered.system.clients
      (p := fun _ activity => HoldsLast activity)).mpr
        ⟨(apart.holdsLast client).step wired stepped,
          fun other _ => apart.holdsLast other⟩
  · rcases numbered.system.afterClient_links DATETIME_FORMAT escape
        client label with ⟨connection, req, rfl, links⟩ | links
    · have fresh :=
        @Apart.unconnected _ _ _ (client, connection) apart
          (connected_of_background wired stepped).1
      refine links ▸ ?_
      rw [← List.concat_eq_append]
      exact (List.nodup_concat _ _).mpr ⟨fresh, apart.links⟩
    · exact links ▸ apart.links
  · intro link isLink
    rcases numbered.system.afterClient_links DATETIME_FORMAT escape
        client label with ⟨connection, req, rfl, links⟩ | links
    · have isLink :
          link ∈ numbered.system.links ++ [(client, connection)] :=
        links ▸ isLink
      rcases List.mem_append.mp isLink with old | new
      · exact connected link old
      · obtain rfl := List.mem_singleton.mp new
        simp only [Function.update_self]
        exact (connected_of_background wired stepped).2
    · exact connected link (links ▸ isLink)
  · intro link notAccepted
    have silent :=
      apart.silent link (fun before => notAccepted (accepted ▸ before))
    have popped (connection : Nat) :
        numbered.pop (client, connection) link = [] := by
      by_cases same : link = (client, connection)
      · subst same
        simp only [pop, Function.update_self, silent, List.tail_nil]
      · simp only [pop, Function.update_of_ne same, silent]
    cases label with
    | visitRow connection row =>
        exact popped connection
    | visitError connection message =>
        exact popped connection
    | _ =>
        exact silent

/-- The connections are apart in every run. -/
theorem Apart.of_run
    {labels : List (SystemLabel ClientId DateTime)}
    (reached :
      run? (step? platform DATETIME_FORMAT escape)
        (NumberedSystem.initial descriptors) labels = some numbered) :
    Apart numbered := by
  refine stateInvariant (.initial descriptors) ?_ reached
  intro state label next apart taken
  cases label with
  | server label =>
      exact apart.server taken
  | client client label =>
      exact apart.client taken

end Steps

end NumberedSystem

end ChatRelay
