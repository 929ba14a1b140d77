import ChatRelay.NumberedSystem

namespace ChatRelay.NumberedSystem

/-!
# Single delivery

A client with one live connection reads from the connection that it made last.
The server writes a broadcast at most once to a connection, and never to a
connection that was made after the write loop had begun.  So the readers of the
client post no broadcast twice.
-/

open LabelledRun
open ChatSystem (connect accept refuse answer logInAlone)
open Client (Activity ActivityLabel Row)
open Client.Activity (Wired HoldsLast Last OneLive KeepsOneLive)
open RequestFraming (ClientRequest)

variable {ClientId DateTime : Type}
variable [DecidableEq ClientId] [DecidableEq DateTime]

section Steps

variable
  {platform : Platform}
  {DATETIME_FORMAT : DateTime → String}
  {escape : Bytes → Bytes}
  {descriptors : List Nat}
  {numbered next : NumberedSystem ClientId DateTime}

/-! ### No number comes twice -/

/--
What a client has been posted and can read from its last connection, with the
broadcast that is being written, are different broadcasts.
-/
structure DeliversOnce
    (numbered : NumberedSystem ClientId DateTime)
    (client : ClientId) : Prop where
  posted : (numbered.posted client).Nodup
  waiting :
    ∀ connection,
      Last (numbered.system.clients client) connection →
      (numbered.broadcasts client connection).Nodup
  bounded :
    ∀ connection,
      ∀ number ∈ numbered.broadcasts client connection,
      number ≤ numbered.system.loop
  current :
    ∀ socket ∈ numbered.system.server.targets,
      ∀ connection,
      numbered.system.peer? socket = some (client, connection) →
      Last (numbered.system.clients client) connection →
      numbered.system.loop ∉ numbered.broadcasts client connection

omit [DecidableEq ClientId] [DecidableEq DateTime] in
theorem DeliversOnce.initial
    (descriptors : List Nat)
    (client : ClientId) :
    DeliversOnce
      (initial descriptors : NumberedSystem ClientId DateTime)
      client where
  posted := List.nodup_nil
  waiting := fun _ _ => List.nodup_nil
  bounded := by
    intro connection number inNothing
    contradiction
  current := by
    intro socket inNothing
    contradiction

omit [DecidableEq ClientId] [DecidableEq DateTime] in
/-- Nothing is added to what a client has been posted or can read. -/
theorem DeliversOnce.of_sublist
    {client : ClientId}
    (once : DeliversOnce numbered client)
    (posted : (next.posted client).Nodup)
    (last :
      ∀ connection,
        Last (next.system.clients client) connection →
        Last (numbered.system.clients client) connection ∧
          (next.broadcasts client connection).Sublist
            (numbered.broadcasts client connection))
    (earlier :
      ∀ connection,
        ∀ number ∈ next.broadcasts client connection,
        ∃ query, number ∈ numbered.broadcasts client query)
    (loop : next.system.loop = numbered.system.loop)
    (current :
      ∀ socket ∈ next.system.server.targets,
        socket ∈ numbered.system.server.targets ∧
          next.system.peer? socket = numbered.system.peer? socket) :
    DeliversOnce next client := by
  refine ⟨posted, ?_, ?_, ?_⟩
  · intro connection isLast
    obtain ⟨wasLast, fewer⟩ := last connection isLast
    exact (once.waiting connection wasLast).sublist fewer
  · intro connection number isNumber
    obtain ⟨query, before⟩ := earlier connection number isNumber
    rw [loop]
    exact once.bounded query number before
  · intro socket isTarget connection isPeer isLast
    obtain ⟨wasTarget, samePeer⟩ := current socket isTarget
    obtain ⟨wasLast, fewer⟩ := last connection isLast
    rw [loop]
    intro isNumber
    exact once.current socket wasTarget connection
      (samePeer ▸ isPeer) wasLast (fewer.subset isNumber)

omit [DecidableEq ClientId] [DecidableEq DateTime] in
/-- A client is posted nothing, and nothing is added to what it can read. -/
theorem DeliversOnce.of_fewer
    {client : ClientId}
    (once : DeliversOnce numbered client)
    (posted : next.posted client = numbered.posted client)
    (last :
      ∀ query,
        Last (next.system.clients client) query →
        Last (numbered.system.clients client) query)
    (fewer :
      ∀ query,
        (next.broadcasts client query).Sublist
          (numbered.broadcasts client query))
    (loop : next.system.loop = numbered.system.loop)
    (current :
      ∀ socket ∈ next.system.server.targets,
        socket ∈ numbered.system.server.targets ∧
          next.system.peer? socket = numbered.system.peer? socket) :
    DeliversOnce next client := by
  refine once.of_sublist ?_ ?_ ?_ loop current
  · rw [posted]
    exact once.posted
  · intro query isLast
    exact ⟨last query isLast, fewer query⟩
  · intro query number isNumber
    exact ⟨query, (fewer query).subset isNumber⟩

omit [DecidableEq DateTime] in
/-- What another client does is not seen. -/
theorem afterClient_other
    {mover client : ClientId}
    (label : ActivityLabel DateTime Announcement Response.Message)
    (different : client ≠ mover) :
    (∀ connection,
      numbered.numbersAfterClient mover label (client, connection) =
        numbered.numbers (client, connection)) ∧
      numbered.postedAfterClient mover label client =
        numbered.posted client := by
  have popped (read connection : Nat) :
      numbered.pop (mover, read) (client, connection) =
        numbered.numbers (client, connection) := by
    refine Function.update_of_ne ?_ ..
    intro same
    exact different (congrArg Prod.fst same)
  cases label with
  | visitRow read row =>
      exact ⟨popped read, Function.update_of_ne different ..⟩
  | visitError read message =>
      exact ⟨popped read, rfl⟩
  | _ =>
      exact ⟨fun _ => rfl, rfl⟩

/-- The first number is read, and the others wait. -/
theorem head_append_tail
    (numbers : List (Option Nat)) :
    numbers.head?.join.toList ++ numbers.tail.reduceOption =
      numbers.reduceOption := by
  rcases numbers with _ | ⟨number, rest⟩
  · rfl
  · cases number <;> rfl

omit [DecidableEq DateTime] in
/-- A row that is read from the last connection is posted. -/
theorem DeliversOnce.visitRow
    {client : ClientId}
    {connection : Nat}
    (once : DeliversOnce numbered client)
    (isLast : Last (numbered.system.clients client) connection)
    (numbers : next.numbers = numbered.pop (client, connection))
    (posted :
      next.posted client =
        numbered.posted client ++
          (numbered.numbers (client, connection)).head?.join.toList)
    (sameLast :
      ∀ query,
        Last (next.system.clients client) query ↔
          Last (numbered.system.clients client) query)
    (loop : next.system.loop = numbered.system.loop)
    (current :
      ∀ socket ∈ next.system.server.targets,
        socket ∈ numbered.system.server.targets ∧
          next.system.peer? socket = numbered.system.peer? socket) :
    DeliversOnce next client := by
  have same :
      next.broadcasts client connection =
        numbered.broadcasts client connection := by
    simp only [broadcasts, posted, numbers, pop, Function.update_self,
      List.append_assoc]
    rw [head_append_tail]
  have isPosted :
      (next.posted client).Sublist
        (numbered.broadcasts client connection) := by
    rw [← same]
    exact List.sublist_append_left _ _
  refine once.of_sublist ((once.waiting connection isLast).sublist
    isPosted) ?_ ?_ loop current
  · intro query nextLast
    have wasLast := (sameLast query).mp nextLast
    have isQuery : query = connection :=
      Nat.succ.inj (wasLast.trans isLast.symm)
    subst isQuery
    exact ⟨isLast, same ▸ List.Sublist.refl _⟩
  · intro query number isNumber
    by_cases isQuery : query = connection
    · subst isQuery
      exact ⟨query, same ▸ isNumber⟩
    · have different : (client, query) ≠ (client, connection) :=
        fun same => isQuery (congrArg Prod.snd same)
      rcases List.mem_append.mp isNumber with read | waits
      · exact ⟨connection, isPosted.subset read⟩
      · rw [numbers, pop, Function.update_of_ne different] at waits
        exact ⟨query, List.mem_append_right _ waits⟩

omit [DecidableEq DateTime] in
/-- An error that is read is not posted as a row. -/
theorem broadcasts_pop
    {client : ClientId}
    {read : Nat}
    (numbers : next.numbers = numbered.pop (client, read))
    (posted : next.posted client = numbered.posted client)
    (connection : Nat) :
    (next.broadcasts client connection).Sublist
      (numbered.broadcasts client connection) := by
  rw [broadcasts, broadcasts, numbers, posted]
  refine (List.Sublist.refl _).append ?_
  by_cases same : (client, connection) = (client, read)
  · rw [pop, same, Function.update_self]
    exact (List.tail_sublist _).filterMap id
  · rw [pop, Function.update_of_ne same]

/-- A client does not act on the write loops of the server. -/
theorem client_frame
    {mover : ClientId}
    {label : ActivityLabel DateTime Announcement Response.Message}
    (taken :
      step? platform DATETIME_FORMAT escape numbered
          (.client mover label) =
        some next) :
    next.system.loop = numbered.system.loop ∧
      ∀ socket ∈ next.system.server.targets,
        socket ∈ numbered.system.server.targets ∧
          next.system.peer? socket = numbered.system.peer? socket := by
  obtain ⟨after, _, rfl⟩ := step?_client taken
  obtain ⟨sameServer, sameLog⟩ :=
    @ChatSystem.afterClient_server _ _ numbered.system _
      DATETIME_FORMAT escape mover label
  have accepted :=
    numbered.system.afterClient_accepted DATETIME_FORMAT escape mover
      label
  refine ⟨?_, ?_⟩
  · exact congrArg (fun log => (Server.begunLoops log).length) sameLog
  · intro socket isTarget
    exact ⟨sameServer ▸ isTarget, congrArg (List.lookup socket) accepted⟩

/-- A step of a client with one live connection posts no number twice. -/
theorem DeliversOnce.own
    {client : ClientId}
    {label : ActivityLabel DateTime Announcement Response.Message}
    (once : DeliversOnce numbered client)
    (apart : Apart numbered)
    (oneLive : OneLive (numbered.system.clients client))
    (taken :
      step? platform DATETIME_FORMAT escape numbered
          (.client client label) =
        some next) :
    DeliversOnce next client := by
  obtain ⟨loop, current⟩ := client_frame taken
  obtain ⟨after, stepped, isNext⟩ := step?_client taken
  obtain ⟨made, _⟩ :=
    Client.Activity.step?_connections (apart.wired client) stepped
  have isAfter : next.system.clients client = after := by
    rw [isNext]
    exact Function.update_self ..
  have numbers :
      next.numbers = numbered.numbersAfterClient client label := by
    rw [isNext]
  have posted :
      next.posted = numbered.postedAfterClient client label := by
    rw [isNext]
  rw [← isAfter] at made
  cases label with
  | login mDateTime mSender =>
      -- The new connection has no link yet.
      have fresh :
          ((numbered.system.clients client).connections
            (numbered.system.clients client).nextConnection).isConnected =
              false := by
        have unread := (apart.wired client).fresh _ (Nat.le_refl _)
        injection unread
      have noLink :=
        @Apart.unconnected _ _ _
          (client, (numbered.system.clients client).nextConnection)
          apart fresh
      have isNew :
          ∀ connection,
            Last (next.system.clients client) connection →
            connection =
              (numbered.system.clients client).nextConnection :=
        fun connection isLast => Nat.succ.inj (isLast.trans made)
      have silent :=
        apart.silent
          (client, (numbered.system.clients client).nextConnection)
          (fun isLink => noLink (List.mem_append_left _ isLink))
      refine ⟨?_, ?_, ?_, ?_⟩
      · rw [posted]
        exact once.posted
      · intro connection isLast
        obtain rfl := isNew connection isLast
        rw [broadcasts, numbers, posted]
        simp only [numbersAfterClient, postedAfterClient, silent,
          List.reduceOption_nil, List.append_nil]
        exact once.posted
      · intro connection
        rw [broadcasts, numbers, posted, loop]
        exact once.bounded connection
      · intro socket isTarget connection isPeer isLast
        obtain rfl := isNew connection isLast
        rw [(current socket isTarget).2] at isPeer
        exact (noLink (List.mem_append_left _ (List.mem_map_of_mem
          (numbered.system.peer?_accepted isPeer)))).elim
  | visitRow connection row =>
      obtain ⟨⟨_, running⟩, _⟩ := guarded_eq_some.mp stepped
      have isLast :=
        oneLive.last (apart.wired client) (apart.holdsLast client)
          running
      refine once.visitRow isLast numbers ?_ ?_ loop current
      · rw [posted]
        exact Function.update_self ..
      · intro query
        exact Eq.congr_right made
  | visitError connection message =>
      have samePosted : next.posted client = numbered.posted client :=
        congrFun posted client
      exact once.of_fewer samePosted
        (fun query isLast => isLast.trans made)
        (broadcasts_pop numbers samePosted) loop current
  | _ =>
      refine once.of_fewer (congrFun posted client)
        (fun query isLast => isLast.trans made) ?_ loop current
      intro query
      rw [broadcasts, broadcasts, numbers, posted]
      exact List.Sublist.refl _

/-- What a client has been posted and can read is its own affair. -/
theorem other_frame
    {mover client : ClientId}
    {label : ActivityLabel DateTime Announcement Response.Message}
    (different : client ≠ mover)
    (taken :
      step? platform DATETIME_FORMAT escape numbered
          (.client mover label) =
        some next) :
    next.posted client = numbered.posted client ∧
      (∀ query,
        Last (next.system.clients client) query →
        Last (numbered.system.clients client) query) ∧
        ∀ query,
          (next.broadcasts client query).Sublist
            (numbered.broadcasts client query) := by
  obtain ⟨after, _, isNext⟩ := step?_client taken
  obtain ⟨numbers, posted⟩ :=
    @afterClient_other _ _ _ numbered _ _ label different
  have samePosted : next.posted client = numbered.posted client := by
    rw [isNext]
    exact posted
  have sameClient :
      next.system.clients client = numbered.system.clients client := by
    rw [isNext]
    exact Function.update_of_ne different ..
  refine ⟨samePosted, ?_, ?_⟩
  · rw [sameClient]
    exact fun _ => id
  · intro query
    rw [broadcasts, broadcasts, samePosted, ← numbers query, isNext]

omit [DecidableEq ClientId] [DecidableEq DateTime] in
/-- Two sockets of the server do not have one peer. -/
theorem Apart.peer?_injective
    {first second : SocketRef}
    {link : Link ClientId}
    (apart : Apart numbered)
    (firstPeer : numbered.system.peer? first = some link)
    (secondPeer : numbered.system.peer? second = some link) :
    first = second := by
  have unique : (numbered.system.accepted.map Prod.snd).Nodup :=
    apart.links.of_append_left
  have same :=
    List.inj_on_of_nodup_map unique
      (numbered.system.peer?_accepted firstPeer)
      (numbered.system.peer?_accepted secondPeer) rfl
  exact congrArg Prod.fst same

omit [DecidableEq DateTime] in
/-- A broadcast is written to a connection of a client. -/
theorem DeliversOnce.write
    {client : ClientId}
    {connection : Nat}
    {socket : SocketRef}
    {targets : List SocketRef}
    (once : DeliversOnce numbered client)
    (apart : Apart numbered)
    (writing : numbered.system.server.targets = socket :: targets)
    (isPeer : numbered.system.peer? socket = some (client, connection))
    (numbers :
      next.numbers =
        Function.update numbered.numbers (client, connection)
          (numbered.numbers (client, connection) ++
            [some numbered.system.loop]))
    (posted : next.posted = numbered.posted)
    (clients : next.system.clients = numbered.system.clients)
    (loop : next.system.loop = numbered.system.loop)
    (remaining : next.system.server.targets = targets)
    (peers :
      ∀ other ∈ targets,
        next.system.peer? other = numbered.system.peer? other) :
    DeliversOnce next client := by
  have isTarget : socket ∈ numbered.system.server.targets :=
    writing ▸ List.mem_cons_self
  have written :
      next.broadcasts client connection =
        numbered.broadcasts client connection ++
          [numbered.system.loop] := by
    rw [broadcasts, broadcasts, numbers, posted, Function.update_self,
      List.reduceOption_append, List.reduceOption_singleton,
      Option.toList_some, List.append_assoc]
  have kept
      {query : Nat}
      (different : query ≠ connection) :
      next.broadcasts client query =
        numbered.broadcasts client query := by
    have otherLink : (client, query) ≠ (client, connection) :=
      fun same => different (congrArg Prod.snd same)
    rw [broadcasts, broadcasts, numbers, posted,
      Function.update_of_ne otherLink]
  refine ⟨?_, ?_, ?_, ?_⟩
  · rw [posted]
    exact once.posted
  · rw [clients]
    intro query isLast
    by_cases same : query = connection
    · subst same
      rw [written, ← List.concat_eq_append]
      exact (List.nodup_concat _ _).mpr
        ⟨once.current socket isTarget query isPeer isLast,
          once.waiting query isLast⟩
    · rw [kept same]
      exact once.waiting query isLast
  · rw [loop]
    intro query number isNumber
    by_cases same : query = connection
    · subst same
      rw [written] at isNumber
      rcases List.mem_append.mp isNumber with before | new
      · exact once.bounded query number before
      · exact Nat.le_of_eq (List.mem_singleton.mp new)
    · rw [kept same] at isNumber
      exact once.bounded query number isNumber
  · rw [clients, loop, remaining]
    intro other isRemaining query otherPeer isLast
    rw [peers other isRemaining] at otherPeer
    have different : query ≠ connection := by
      rintro rfl
      obtain rfl := apart.peer?_injective otherPeer isPeer
      have distinct := apart.distinct.targets
      rw [writing] at distinct
      exact (List.nodup_cons.mp distinct).1 isRemaining
    rw [kept different]
    exact once.current other (writing ▸ List.mem_cons_of_mem socket isRemaining)
      query otherPeer isLast

omit [DecidableEq ClientId] [DecidableEq DateTime] in
/-- A write loop begins with a number of its own. -/
theorem DeliversOnce.lockSockets
    {client : ClientId}
    (once : DeliversOnce numbered client)
    (numbers : next.numbers = numbered.numbers)
    (posted : next.posted = numbered.posted)
    (clients : next.system.clients = numbered.system.clients)
    (begun : next.system.loop = numbered.system.loop + 1) :
    DeliversOnce next client := by
  have same (query : Nat) :
      next.broadcasts client query =
        numbered.broadcasts client query := by
    rw [broadcasts, broadcasts, numbers, posted]
  refine ⟨?_, ?_, ?_, ?_⟩
  · rw [posted]
    exact once.posted
  · rw [clients]
    intro query isLast
    rw [same query]
    exact once.waiting query isLast
  · rw [begun]
    intro query number isNumber
    rw [same query] at isNumber
    exact Nat.le_succ_of_le (once.bounded query number isNumber)
  · intro socket _ query _ _ isNumber
    rw [begun, same query] at isNumber
    exact absurd (once.bounded query _ isNumber) (Nat.not_succ_le_self _)

omit [DecidableEq DateTime] in
/-- A reply has no number. -/
theorem reduceOption_push_none
    (target : Option (Link ClientId))
    (link : Link ClientId) :
    (numbered.push none target link).reduceOption =
      (numbered.numbers link).reduceOption := by
  cases target with
  | none =>
      rfl
  | some target =>
      by_cases same : link = target
      · subst same
        simp [push, List.reduceOption_append]
      · simp only [push, Function.update_of_ne same]

/-- What a step of the server is to the clients. -/
structure ServerStepped
    (platform : Platform)
    (numbered : NumberedSystem ClientId DateTime)
    (label : ServerLabel)
    (next : NumberedSystem ClientId DateTime) : Prop where
  step :
    Server.Step platform numbered.system.server label
      next.system.server
  clients : next.system.clients = numbered.system.clients
  posted : next.posted = numbered.posted
  numbers : next.numbers = numbered.numbersAfterServer label
  begun :
    next.system.loop =
      numbered.system.loop + (Server.begunLoops [label]).length
  peers :
    ∀ socket ∈ numbered.system.server.targets,
      next.system.peer? socket = numbered.system.peer? socket

/-- The targets of a broadcast keep their peers. -/
theorem ServerStepped.of_step
    {label : ServerLabel}
    (apart : Apart numbered)
    (taken :
      step? platform DATETIME_FORMAT escape numbered (.server label) =
        some next) :
    ServerStepped platform numbered label next := by
  obtain ⟨after, stepped, rfl⟩ := step?_server taken
  obtain ⟨_, step⟩ := Server.step?_sound stepped
  obtain ⟨_, peers⟩ := numbered.system.afterServer_network label
  have sends := @ChatSystem.afterServer_sends _ _ numbered.system _ label
  refine ⟨step, sends.clients, rfl, rfl, ?_, ?_⟩
  · exact (congrArg List.length List.filterMap_append).trans
      List.length_append
  · intro socket isTarget
    refine peers socket ?_
    rintro connectionFD rfl
    cases step with
    | listen step =>
        cases step with
        | accept =>
            exact absurd (apart.distinct.targets_allocated _ isTarget)
              (Nat.lt_irrefl _)

omit [DecidableEq DateTime] in
/-- A step that neither begins a write loop nor writes to the client. -/
theorem DeliversOnce.quiet
    {client : ClientId}
    {label : ServerLabel}
    (once : DeliversOnce numbered client)
    (stepped : ServerStepped platform numbered label next)
    (noStart : Server.begunLoops [label] = [])
    (same :
      ∀ query,
        (next.numbers (client, query)).reduceOption =
          (numbered.numbers (client, query)).reduceOption) :
    DeliversOnce next client := by
  have fewer :
      next.system.server.targets ⊆ numbered.system.server.targets := by
    refine stepped.step.targets ?_
    rintro message text remaining rfl
    contradiction
  refine once.of_fewer (congrFun stepped.posted client) ?_ ?_ ?_ ?_
  · rw [stepped.clients]
    exact fun _ => id
  · intro query
    rw [broadcasts, broadcasts, stepped.posted, same]
  · rw [stepped.begun, noStart]
    rfl
  · intro socket isTarget
    exact ⟨fewer isTarget, stepped.peers socket (fewer isTarget)⟩

omit [DecidableEq DateTime] in
/-- A write of a broadcast goes to one connection of one client, if to any. -/
theorem DeliversOnce.sendWrite
    {client : ClientId}
    {message : Response}
    {text : Bytes}
    {socket : SocketRef}
    {targets : List SocketRef}
    {remaining : List Response}
    {outcome : WriteOutcome}
    (once : DeliversOnce numbered client)
    (apart : Apart numbered)
    (stepped :
      ServerStepped platform numbered
        (.send (.write message text socket targets remaining outcome))
        next) :
    DeliversOnce next client := by
  have numbers := stepped.numbers
  rw [numbersAfterServer] at numbers
  cases isTarget : numbered.system.writtenTo? socket text outcome with
  | none =>
      rw [isTarget] at numbers
      refine once.quiet stepped rfl ?_
      intro query
      rw [numbers]
      rfl
  | some link =>
      rw [isTarget] at numbers
      obtain ⟨isOpen, isPeer⟩ := ChatSystem.writtenTo?_some isTarget
      by_cases own : link.1 = client
      · subst own
        obtain ⟨writing, written⟩ := stepped.step.write_targets isOpen
        refine once.write apart writing isPeer numbers stepped.posted
          stepped.clients stepped.begun written ?_
        intro other isRemaining
        refine stepped.peers other ?_
        rw [writing]
        exact List.mem_cons_of_mem socket isRemaining
      · refine once.quiet stepped rfl ?_
        intro query
        have different : (client, query) ≠ link := by
          rintro rfl
          exact own rfl
        rw [numbers, push, Function.update_of_ne different]

/-- A step of the server makes no number come twice. -/
theorem DeliversOnce.server
    {client : ClientId}
    {label : ServerLabel}
    (once : DeliversOnce numbered client)
    (apart : Apart numbered)
    (taken :
      step? platform DATETIME_FORMAT escape numbered (.server label) =
        some next) :
    DeliversOnce next client := by
  have stepped := ServerStepped.of_step apart taken
  have numbers := stepped.numbers
  cases label with
  | listen action =>
      refine once.quiet stepped rfl ?_
      intro query
      rw [numbers]
      cases action with
      | write socket text outcome =>
          exact reduceOption_push_none _ _
      | _ =>
          rfl
  | send action =>
      cases action with
      | lockSockets message text remaining =>
          exact once.lockSockets numbers stepped.posted stepped.clients
            stepped.begun
      | write message text socket targets remaining outcome =>
          exact once.sendWrite apart stepped
      | _ =>
          refine once.quiet stepped rfl ?_
          intro query
          rw [numbers]
          rfl

/-! ### One live connection, and one delivery -/

/-- A step in which a client keeps one live connection. -/
def KeepsOneLiveOf
    (client : ClientId)
    (numbered : NumberedSystem ClientId DateTime) :
    SystemLabel ClientId DateTime → Prop
  | .client mover label =>
      mover = client →
      KeepsOneLive (numbered.system.clients client) label
  | .server _ =>
      True

/-- A step keeps one live connection of a client exactly if it should. -/
theorem oneLive_step
    {client : ClientId}
    {label : SystemLabel ClientId DateTime}
    (apart : Apart numbered)
    (oneLive : OneLive (numbered.system.clients client))
    (taken :
      step? platform DATETIME_FORMAT escape numbered label =
        some next) :
    OneLive (next.system.clients client) ↔
      numbered.KeepsOneLiveOf client label := by
  cases label with
  | server label =>
      obtain ⟨after, _, rfl⟩ := step?_server taken
      have sends :=
        @ChatSystem.afterServer_sends _ _ numbered.system _ label
      dsimp only
      rw [sends.clients]
      exact iff_of_true oneLive trivial
  | client mover label =>
      obtain ⟨after, stepped, rfl⟩ := step?_client taken
      dsimp only
      by_cases own : mover = client
      · subst own
        rw [Function.update_self,
          Client.Activity.oneLive_step (apart.wired mover) oneLive
            stepped]
        exact ⟨fun keeps _ => keeps, fun keeps => keeps rfl⟩
      · rw [Function.update_of_ne (Ne.symm own)]
        exact iff_of_true oneLive fun same => (own same).elim

/-- A step of the system delivers nothing twice to a client with one live connection. -/
theorem DeliversOnce.step
    {client : ClientId}
    {label : SystemLabel ClientId DateTime}
    (once : DeliversOnce numbered client)
    (apart : Apart numbered)
    (oneLive : OneLive (numbered.system.clients client))
    (taken :
      step? platform DATETIME_FORMAT escape numbered label =
        some next) :
    DeliversOnce next client := by
  cases label with
  | server label =>
      exact once.server apart taken
  | client mover label =>
      by_cases own : client = mover
      · subst own
        exact once.own apart oneLive taken
      · obtain ⟨posted, last, fewer⟩ := other_frame own taken
        obtain ⟨loop, current⟩ := client_frame taken
        exact once.of_fewer posted last fewer loop current

/--
In every run of the system, a client has one live connection and is delivered
nothing twice exactly if every step keeps one live connection.
-/
theorem always_delivers_iff
    {client : ClientId}
    {labels : List (SystemLabel ClientId DateTime)}
    (reached :
      run? (step? platform DATETIME_FORMAT escape)
        (initial descriptors) labels = some numbered) :
    Always (step? platform DATETIME_FORMAT escape)
        (initial descriptors)
        (fun _ numbered =>
          OneLive (numbered.system.clients client) ∧
            (numbered.posted client).Nodup) labels ↔
      EveryStep (step? platform DATETIME_FORMAT escape)
        (initial descriptors)
        (fun _ numbered label =>
          numbered.KeepsOneLiveOf client label) labels := by
  have oneLive :
      OneLive
        ((initial descriptors :
          NumberedSystem ClientId DateTime).system.clients client) :=
    fun _ live => Bool.noConfusion live.1
  constructor
  · intro always
    refine (@always_iff_everyStep _ _ _ _
      (fun _ numbered => OneLive (numbered.system.clients client)) _
      oneLive ?_ _ _ reached).mp ?_
    · intro past state label next before holds taken
      exact oneLive_step (.of_run before) holds taken
    · intro past future shape state before
      exact (always past future shape state before).1
  · intro every
    have both :=
      @always_of_everyStep _ _ _ _
        (fun _ numbered =>
          OneLive (numbered.system.clients client) ∧
            DeliversOnce numbered client) _
        ⟨oneLive, .initial descriptors client⟩
        (fun past state label next before holds keeps taken =>
          ⟨(oneLive_step (.of_run before) holds.1 taken).mpr keeps,
            holds.2.step (.of_run before) holds.1 taken⟩)
        _ every
    intro past future shape state before
    obtain ⟨holds, once⟩ := both past future shape state before
    exact ⟨holds, once.posted⟩

end Steps

/--
A client has at most one live connection, which `mConnection` holds, exactly if
every step keeps it so, whatever its connections carry; and in the system with
the server its readers then post every broadcast at most once.
-/
theorem single_delivery_iff
    (platform : Platform)
    (DATETIME_FORMAT : DateTime → String)
    (escape : Bytes → Bytes)
    (descriptors : List Nat)
    (client : ClientId) :
    (∀ (labels :
          List (ActivityLabel DateTime Announcement Response.Message))
        (state : ChatClient DateTime),
      run? Activity.step? Activity.onCreate labels = some state →
      (Always Activity.step? Activity.onCreate
          (fun _ state => OneLive state) labels ↔
        EveryStep Activity.step? Activity.onCreate
          (fun _ state label => KeepsOneLive state label) labels)) ∧
      ∀ (labels : List (SystemLabel ClientId DateTime))
          (numbered : NumberedSystem ClientId DateTime),
        run? (step? platform DATETIME_FORMAT escape)
            (initial descriptors) labels = some numbered →
        (Always (step? platform DATETIME_FORMAT escape)
            (initial descriptors)
            (fun _ numbered =>
              OneLive (numbered.system.clients client) ∧
                (numbered.posted client).Nodup) labels ↔
          EveryStep (step? platform DATETIME_FORMAT escape)
            (initial descriptors)
            (fun _ numbered label =>
              numbered.KeepsOneLiveOf client label) labels) :=
  ⟨fun _ _ ran => Client.Activity.oneLive_iff ran,
    fun _ _ reached => always_delivers_iff reached⟩

/-! ### A second login -/

/-- The steps of the numbered system on the reference platform. -/
abbrev referenceStep? :=
  @step? Nat String _ _ .reference id JsonText.escape

theorem single_delivery_iff_logInAlone :
    ∃ numbered,
      run? referenceStep? (initial [0, 1, 2, 3]) logInAlone =
          some numbered ∧
        numbered.posted 0 = [1] ∧
        (Always referenceStep? (initial [0, 1, 2, 3])
            (fun _ numbered =>
              OneLive (numbered.system.clients 0) ∧
                (numbered.posted 0).Nodup) logInAlone ↔
          EveryStep referenceStep? (initial [0, 1, 2, 3])
            (fun _ numbered label =>
              numbered.KeepsOneLiveOf 0 label) logInAlone) := by
  have finished :
      (run? referenceStep? (initial [0, 1, 2, 3]) logInAlone).map
          (fun numbered => numbered.posted 0) =
        some [1] := by
    decide +kernel
  obtain ⟨numbered, reached, posted⟩ := Option.map_eq_some_iff.mp finished
  exact ⟨numbered, reached, posted,
    (single_delivery_iff _ _ _ _ 0).2 _ numbered reached⟩

/--
A client whose login is refused signs in under another name, over a second
connection; the server writes the second login to both.
-/
def signInAgain : List (SystemLabel Nat String) :=
  let req : ClientRequest String := .LoginRequest "10:00" "bob"
  let row : Row Announcement Response.Message :=
    .login ⟨2, answer "bob"⟩
  connect 0 [] 0 4 "ann" ++ accept [4] 0 "ann" [0] ++
    connect 1 [4] 1 5 "ann" ++ refuse [5, 4] 1 "ann" ++
    [.client 1 (.visitError 0 "Username in use."),
      .client 1
        (.main (.handleMessage (.DisplayError "Username in use.")) ""),
      .client 1 (.login "10:00" "bob"),
      .client 1 (.background (.socketConnect 1 req) (.ok ()))] ++
    (ServerLabel.connect [5, 4] 2 6).map .server ++
    [.client 1 (.main (.connectPostExecute 1 req (.ok ())) ""),
      .client 1 (.background (.send 1 req) (.ok ()))] ++
    accept [6, 5, 4] 2 "bob" [0, 1, 2] ++
    [.client 1 (.visitRow 0 row), .client 1 (.visitRow 1 row)]

/-- The first connection stays live, and both readers post the second broadcast. -/
theorem broadcast_posted_twice :
    ∃ final,
      run? referenceStep? (initial [0, 1, 2, 3]) signInAgain =
          some final ∧
        ¬ OneLive (final.system.clients 1) ∧
        ¬ (final.posted 1).Nodup := by
  have finished :
      (run? referenceStep? (initial [0, 1, 2, 3]) signInAgain).map
          (fun final =>
            ((final.system.clients 1).connections 0,
              (final.system.clients 1).mConnection, final.posted 1)) =
        some (⟨true, false, .running, false⟩, some 1, [2, 2]) := by
    decide +kernel
  obtain ⟨final, reached, outcome⟩ := Option.map_eq_some_iff.mp finished
  simp only [Prod.mk.injEq] at outcome
  obtain ⟨first, held, posted⟩ := outcome
  refine ⟨final, reached, ?_, ?_⟩
  · intro oneLive
    have live : (final.system.clients 1).Live 0 := by
      rw [Client.Activity.Live, first]
      exact ⟨rfl, rfl, rfl⟩
    have holds := oneLive 0 live
    rw [held] at holds
    exact absurd (Option.some.inj holds) (by decide)
  · rw [posted]
    decide

end ChatRelay.NumberedSystem
