import Mathlib.Data.List.Basic
import ChatRelay.BroadcastRelay
import ChatRelay.ServerLocks
import ChatRelay.ServerNameTable

namespace ChatRelay

/-!
# The order of broadcasts

The queue of the server and its sending thread are a relay: pushing is the end
of a handler, a turn begins when the sending thread takes the mutex of the
list, and connections join and leave under that mutex.  The mutex of the queue,
held over a whole batch, keeps the batch the front of the queue until it is
cleared.
-/

namespace Server

/-- The relay that a state of the process holds. -/
def relay (state : Server) : BroadcastRelay Response where
  unsent :=
    match state.senderPc with
    | .nextMessage remaining =>
        remaining
    | .lockSockets message _ remaining =>
        message :: remaining
    | .writing _ _ _ remaining =>
        remaining
    | _ =>
        state.messageQueue
  current :=
    match state.senderPc with
    | .writing message _ targets _ =>
        some (message, targets)
    | _ =>
        none
  members := state.sockets.map Prod.fst

/-- What a step of the process means for the relay. -/
def relayEvent : ServerLabel → RelayEvent Response
  | .listen (.pushBack _ response) =>
      .push response
  | .listen (.add newClient) =>
      .join newClient
  | .listen (.remove socket) =>
      .leave socket
  | .send (.lockSockets message _ _) =>
      .turn message
  | .send (.write message _ socket _ _ _) =>
      .deliver socket message
  | _ =>
      .quiet

/-- The responses on the queue whose write loop has not ended. -/
def outstanding (state : Server) : List Response :=
  match state.senderPc with
  | .nextMessage remaining =>
      remaining
  | .lockSockets message _ remaining =>
      message :: remaining
  | .writing message _ _ remaining =>
      message :: remaining
  | _ =>
      state.messageQueue

section History

variable (labels : List ServerLabel)

/-- The responses pushed on the queue, in order. -/
def pushedResponses : List Response :=
  labels.filterMap fun
    | .listen (.pushBack _ response) =>
        some response
    | _ =>
        none

/-- The responses whose write loop has taken the mutex, in order. -/
def begunLoops : List Response :=
  labels.filterMap fun
    | .send (.lockSockets message _ _) =>
        some message
    | _ =>
        none

/-- The responses whose write loop has ended, in order. -/
def endedLoops : List Response :=
  labels.filterMap fun
    | .send (.unlockSockets message _ _) =>
        some message
    | _ =>
        none

/-- The responses broadcast to a connection, in order. -/
def broadcastsTo (socket : SocketRef) : List Response :=
  labels.filterMap fun
    | .send (.write message _ target _ _ _) =>
        if target = socket then
          some message
        else
          none
    | _ =>
        none

/-- How many write loops had begun when a connection was added. -/
def addedAt (socket : SocketRef) : Nat :=
  (begunLoops
    (labels.takeWhile fun label =>
      label != .listen (.add socket))).length

/-- How many write loops had begun when a connection was removed. -/
def removedAt (socket : SocketRef) : Nat :=
  (begunLoops
    (labels.takeWhile fun label =>
      label != .listen (.remove socket))).length

end History

/--
How many write loops have reached a connection or passed it: those that had
begun when it was removed, without a current one that is still to reach it.
-/
def sentUpTo
    (labels : List ServerLabel)
    (state : Server)
    (socket : SocketRef) :
    Nat :=
  if socket ∈ state.targets then
    removedAt labels socket - 1
  else
    removedAt labels socket

/-- A segment of everything pushed. -/
def pushedBetween
    (labels : List ServerLabel)
    (start stop : Nat) :
    List Response :=
  ((pushedResponses labels).take stop).drop start

variable {platform : Platform}
variable {state next : Server}
variable {labels : List ServerLabel}

/-- Outside a write loop no turn is under way. -/
theorem relay_current_of_free
    (free : state.senderPc.holdsSockets = false) :
    state.relay.current = none := by
  unfold relay
  split <;> simp_all [SenderPc.holdsSockets]

/-- A step that leaves queue, sender and members alone. -/
theorem relay_stay
    {past : List (RelayEvent Response)}
    (sender : next.senderPc = state.senderPc)
    (queue : next.messageQueue = state.messageQueue)
    (members :
      next.sockets.map Prod.fst = state.sockets.map Prod.fst) :
    BroadcastRelay.Step past state.relay .quiet next.relay := by
  have same : next.relay = state.relay := by
    simp only [relay, sender, queue, members]
  rw [same]
  exact .stay _

/-- A step of `sendMessages` is a step of the relay. -/
theorem SenderStep.relay
    {past : List (RelayEvent Response)}
    {action : SenderAction}
    (step : SenderStep platform state action next)
    (wrote : ¬ next.WroteToClosed) :
    BroadcastRelay.Step past state.relay
      (relayEvent (.send action)) next.relay := by
  cases step with
  | lockSockets pc _ =>
      refine .turn state.relay ?_ ?_ <;> simp only [Server.relay, pc]
  | @write message text socket targets remaining _ pc _ =>
      have before :
          state.relay =
            ⟨remaining, some (message, socket :: targets),
              state.sockets.map Prod.fst⟩ := by
        simp only [Server.relay, pc]
      rw [before]
      exact .deliver _ rfl
  | writeThrows =>
      exact (wrote rfl).elim
  | @unlockSockets message text remaining pc =>
      have before :
          state.relay =
            ⟨remaining, some (message, []),
              state.sockets.map Prod.fst⟩ := by
        simp only [Server.relay, pc]
      rw [before]
      exact .finish _ rfl
  | _ =>
      have same :
          BroadcastRelay.Step past state.relay .quiet state.relay :=
        .stay state.relay
      simp_all [Server.relay, relayEvent, throw]

theorem relayEvent_eq_join
    {label : ServerLabel}
    {newClient : SocketRef} :
    relayEvent label = .join newClient ↔
      label = .listen (.add newClient) := by
  cases label with
  | listen action =>
      cases action <;> simp [relayEvent]
  | send action =>
      cases action <;> simp [relayEvent]

theorem relayEvent_eq_leave
    {label : ServerLabel}
    {socket : SocketRef} :
    relayEvent label = .leave socket ↔
      label = .listen (.remove socket) := by
  cases label with
  | listen action =>
      cases action <;> simp [relayEvent]
  | send action =>
      cases action <;> simp [relayEvent]

theorem joined_iff
    {newClient : SocketRef} :
    RelayEvent.join newClient ∈ labels.map relayEvent ↔
      ServerLabel.listen (.add newClient) ∈ labels := by
  simp only [List.mem_map, relayEvent_eq_join, exists_eq_right]

/-- A connection is added once. -/
theorem add_fresh
    {newClient : SocketRef}
    (invariant :
      ConnectionTable.Invariant [] (labels.map tableEvent) state.table)
    (pc : state.listenPc = .add newClient) :
    RelayEvent.join newClient ∉ labels.map relayEvent := by
  have phase : state.table.phase = .joining newClient :=
    congrArg tablePhase pc
  have fresh :=
    (invariant.followsHistory.joining_fresh newClient phase).2
  rw [joined_iff]
  intro added
  exact fresh (List.mem_map_of_mem added)

/-- The removed connection is taken out of the members. -/
theorem removeEntry_members
    {socket : SocketRef}
    (wellFormed : state.table.WellFormed)
    (pc : state.listenPc = .remove socket) :
    socket ∈ state.sockets.map Prod.fst ∧
      (state.removeEntry socket).sockets.map Prod.fst =
        (state.sockets.map Prod.fst).erase socket := by
  have phase : state.table.phase = .leaving socket :=
    congrArg tablePhase pc
  have listed : socket ∈ state.sockets.map Prod.fst :=
    wellFormed.serving_listed socket (Or.inr (Or.inl phase))
  obtain ⟨openDescriptors, _, removed⟩ :=
    removeEntry_table wellFormed listed
  have entries :
      (state.removeEntry socket).sockets =
        ConnectionTable.without state.sockets socket :=
    congrArg ConnectionTable.entries removed
  rw [entries, ConnectionTable.map_without]
  exact ⟨listed, rfl⟩

/-- A step of `listen` before `stop` is a step of the relay. -/
theorem ListenStep.relay
    {action : ListenAction}
    (step : ListenStep platform state action next)
    (invariant :
      ConnectionTable.Invariant [] (labels.map tableEvent) state.table)
    (locks : state.LocksHeld) :
    BroadcastRelay.Step (labels.map relayEvent) state.relay
      (relayEvent (.listen action)) next.relay := by
  have idle :
      state.listenPc.holdsSockets = true →
      state.relay.current = none :=
    fun holds =>
      relay_current_of_free (locks.sockets_exclusive holds)
  cases step with
  | @remove socket pc =>
      obtain ⟨listed, members⟩ :=
        removeEntry_members invariant.wellFormed pc
      obtain ⟨_, _, _, _, removed⟩ := @removeEntry_frame state socket
      have after :
          ({ state.removeEntry socket with
              socketsLock := none
              listenPc := .loop } : Server).relay =
            { state.relay with
              members := state.relay.members.erase socket } := by
        simp only [Server.relay, ← members, removed]
      rw [after]
      exact .leave state.relay (idle (by rw [pc]; rfl)) listed
  | @associate socket username _ _ =>
      exact relay_stay rfl rfl (map_associate socket username)
  | @pushBack socket response pc =>
      have free : state.senderPc.holdsQueue = false :=
        locks.queue_exclusive (by rw [pc]; rfl)
      have after :
          ({ state with
              messageQueue := state.messageQueue ++ [response]
              messageQueueLock := none
              listenPc := .loop } : Server).relay =
            { state.relay with
              unsent := state.relay.unsent ++ [response] } := by
        unfold Server.relay
        cases sender : state.senderPc <;>
          simp_all [SenderPc.holdsQueue]
      rw [after]
      exact .push state.relay response
  | @add newClient pc =>
      have after :
          ({ state with
              sockets := state.sockets ++ [(newClient, [])]
              _sockets := state._sockets.insert newClient
              socketsLock := none
              listenPc := .loop } : Server).relay =
            { state.relay with
              members := state.relay.members ++ [newClient] } := by
        simp only [Server.relay, List.map_append, List.map_singleton]
      rw [after]
      exact .join state.relay (idle (by rw [pc]; rfl))
        (add_fresh invariant pc)
  | closeAll pc =>
      obtain ⟨_, _, closed⟩ :=
        @closeSockets_frame state (state.sockets.map Prod.fst)
      rw [closed]
      exact relay_stay rfl rfl rfl
  | _ =>
      exact relay_stay rfl rfl rfl

/--
Every response pushed so far has been written or is still outstanding, and
what is outstanding is the end of the queue.
-/
structure QueueKept
    (labels : List ServerLabel)
    (state : Server) : Prop where
  fifo :
    pushedResponses labels = endedLoops labels ++ state.outstanding
  suffix :
    state.outstanding <:+ state.messageQueue

theorem pushedResponses_concat
    (label : ServerLabel) :
    pushedResponses (labels ++ [label]) =
      pushedResponses labels ++ pushedResponses [label] :=
  List.filterMap_append

theorem endedLoops_concat
    (label : ServerLabel) :
    endedLoops (labels ++ [label]) =
      endedLoops labels ++ endedLoops [label] :=
  List.filterMap_append

/-- A step that leaves queue and sender alone keeps the queue. -/
theorem QueueKept.stay
    {label : ServerLabel}
    (kept : QueueKept labels state)
    (sender : next.senderPc = state.senderPc)
    (queue : next.messageQueue = state.messageQueue)
    (noPush : pushedResponses [label] = [])
    (noEnd : endedLoops [label] = []) :
    QueueKept (labels ++ [label]) next := by
  have same : next.outstanding = state.outstanding := by
    simp only [outstanding, sender, queue]
  refine ⟨?_, ?_⟩
  · rw [pushedResponses_concat, endedLoops_concat, noPush, noEnd,
      List.append_nil, List.append_nil, same]
    exact kept.fifo
  · rw [same, queue]
    exact kept.suffix

/-- Outside a batch the whole queue is outstanding. -/
theorem outstanding_of_free
    (free : state.senderPc.holdsQueue = false) :
    state.outstanding = state.messageQueue := by
  unfold outstanding
  cases sender : state.senderPc <;>
    simp_all [SenderPc.holdsQueue]

/-- A step of `listen` keeps the queue. -/
theorem QueueKept.listen
    {action : ListenAction}
    (kept : QueueKept labels state)
    (locks : state.LocksHeld)
    (step : ListenStep platform state action next) :
    QueueKept (labels ++ [.listen action]) next := by
  cases step with
  | @pushBack socket response pc =>
      have free : state.senderPc.holdsQueue = false :=
        locks.queue_exclusive (by rw [pc]; rfl)
      have before := outstanding_of_free free
      have after := @outstanding_of_free
        { state with
          messageQueue := state.messageQueue ++ [response]
          messageQueueLock := none
          listenPc := .loop } free
      refine ⟨?_, ?_⟩
      · rw [pushedResponses_concat, endedLoops_concat, after,
          kept.fifo, before]
        simp [pushedResponses, endedLoops]
      · rw [after]
  | @remove socket pc =>
      obtain ⟨_, _, _, _, removed⟩ := @removeEntry_frame state socket
      rw [removed]
      exact kept.stay rfl rfl rfl rfl
  | closeAll pc =>
      obtain ⟨_, _, closed⟩ :=
        @closeSockets_frame state (state.sockets.map Prod.fst)
      rw [closed]
      exact kept.stay rfl rfl rfl rfl
  | _ =>
      exact kept.stay rfl rfl rfl rfl

/-- A step of `sendMessages` keeps the queue. -/
theorem QueueKept.send
    {action : SenderAction}
    (kept : QueueKept labels state)
    (step : SenderStep platform state action next) :
    QueueKept (labels ++ [.send action]) next := by
  obtain ⟨fifo, suffix⟩ := kept
  cases step with
  | @unlockSockets message text remaining pc =>
      simp only [outstanding, pc] at fifo suffix
      refine ⟨?_, ?_⟩
      · rw [pushedResponses_concat, endedLoops_concat, fifo]
        simp [pushedResponses, endedLoops, outstanding]
      · exact (List.suffix_cons message remaining).trans suffix
  | clear pc =>
      simp only [outstanding, pc] at fifo suffix
      refine ⟨?_, ?_⟩
      · rw [pushedResponses_concat, endedLoops_concat, fifo]
        simp [pushedResponses, endedLoops, outstanding]
      · exact List.suffix_rfl
  | _ =>
      refine ⟨?_, ?_⟩
      · rw [pushedResponses_concat, endedLoops_concat, fifo]
        simp_all [pushedResponses, endedLoops, outstanding, throw]
      · simp_all [outstanding, throw, setSocket]

/-- What every run keeps of the broadcasts. -/
structure KeepsBroadcasts
    (labels : List ServerLabel)
    (state : Server) : Prop where
  table :
    KeepsTable labels state
  locks :
    state.fault = none → state.LocksHeld
  queue :
    QueueKept labels state
  relay :
    state.killed = false →
    ¬ state.WroteToClosed →
    BroadcastRelay.Invariant (labels.map relayEvent) state.relay

/-- A step extends the history that the broadcasts follow. -/
theorem KeepsBroadcasts.step
    {label : ServerLabel}
    (keeps : KeepsBroadcasts labels state)
    (taken : state.step? platform label = some next) :
    KeepsBroadcasts (labels ++ [label]) next := by
  obtain ⟨alive, step⟩ := step?_sound taken
  have locks := keeps.locks alive
  refine ⟨keeps.table.step taken, locks.step step, ?_, ?_⟩
  · cases step with
    | listen step =>
        exact keeps.queue.listen locks step
    | send step =>
        exact keeps.queue.send step
  · intro running wrote
    have before : state.killed = false :=
      step.not_killed running
    have table := keeps.table.table before (by simp [alive])
    have relay := keeps.relay before (by simp [WroteToClosed, alive])
    rw [List.map_append, List.map_singleton]
    apply relay.step
    cases step with
    | listen step =>
        exact step.relay table locks
    | send step =>
        exact step.relay wrote

/-- Every run keeps the broadcasts. -/
theorem keepsBroadcasts
    {descriptors : List Nat}
    (reached :
      LabelledRun.run? (step? platform)
        (initial descriptors) labels = some state) :
    KeepsBroadcasts labels state := by
  refine LabelledRun.invariant ?_ ?_ reached
  · refine ⟨@keepsTable platform _ descriptors [] rfl, ?_, ⟨rfl, List.suffix_rfl⟩, ?_⟩
    · exact fun _ => .initial descriptors
    · exact fun _ _ => .initial rfl rfl rfl
  · intro past before label after _ keeps taken
    exact keeps.step taken

section Reading

/-- The relay's history of pushes is that of the process. -/
theorem pushed_relayEvent :
    BroadcastRelay.pushed (labels.map relayEvent) =
      pushedResponses labels := by
  rw [BroadcastRelay.pushed, pushedResponses, List.filterMap_map]
  congr 1
  funext label
  cases label with
  | listen action =>
      cases action <;> rfl
  | send action =>
      cases action <;> rfl

/-- The relay's history of turns is that of the process. -/
theorem turns_relayEvent :
    BroadcastRelay.turns (labels.map relayEvent) =
      begunLoops labels := by
  rw [BroadcastRelay.turns, begunLoops, List.filterMap_map]
  congr 1
  funext label
  cases label with
  | listen action =>
      cases action <;> rfl
  | send action =>
      cases action <;> rfl

/-- The relay's history of deliveries is that of the process. -/
theorem received_relayEvent
    (socket : SocketRef) :
    BroadcastRelay.received (labels.map relayEvent) socket =
      broadcastsTo labels socket := by
  rw [BroadcastRelay.received, broadcastsTo, List.filterMap_map]
  congr 1
  funext label
  cases label with
  | listen action =>
      cases action <;> rfl
  | send action =>
      cases action <;> rfl

/-- As many turns come before an event as loops begin before its step. -/
theorem turns_before
    {differs : RelayEvent Response → Bool}
    {event : RelayEvent Response}
    {step : ServerLabel}
    (isOther : ∀ other, differs other = true ↔ other ≠ event)
    (sameEvent : ∀ label, relayEvent label = event ↔ label = step) :
    BroadcastRelay.turns ((labels.map relayEvent).takeWhile differs) =
      begunLoops (labels.takeWhile fun label => label != step) := by
  have sameStop :
      differs ∘ relayEvent = fun label => label != step := by
    funext label
    rw [Bool.eq_iff_iff, Function.comp_apply, isOther, bne_iff_ne, ne_eq,
      ne_eq, sameEvent]
  rw [List.takeWhile_map, turns_relayEvent, sameStop]

end Reading

/-- A connection that is still to be written to is owed one response. -/
theorem owed_length
    (socket : SocketRef) :
    (state.relay.owed socket).length =
      if socket ∈ state.targets then 1 else 0 := by
  unfold BroadcastRelay.owed relay targets
  cases state.senderPc with
  | writing message text targets remaining =>
      by_cases target : socket ∈ targets <;> simp [target]
  | _ =>
      simp

/-- The broadcasts to an added connection are its segment. -/
theorem KeepsBroadcasts.segment
    (keeps : KeepsBroadcasts labels state)
    (running : state.killed = false)
    (wrote : ¬ state.WroteToClosed)
    {socket : SocketRef}
    (added : ServerLabel.listen (.add socket) ∈ labels) :
    broadcastsTo labels socket =
      pushedBetween labels (addedAt labels socket)
        (sentUpTo labels state socket) := by
  have segment :=
    (keeps.relay running wrote).received_segment
      (joined_iff.mpr added)
  rw [received_relayEvent, pushed_relayEvent, BroadcastRelay.start,
    turns_before
      (fun event => BroadcastRelay.notJoin_eq_true event socket)
      (fun _ => relayEvent_eq_join),
    BroadcastRelay.stop,
    turns_before
      (fun event => BroadcastRelay.notLeave_eq_true event socket)
      (fun _ => relayEvent_eq_leave),
    owed_length] at segment
  rw [segment, pushedBetween, sentUpTo, addedAt, removedAt]
  by_cases target : socket ∈ state.targets <;> simp [target]

/-- A connection that was not added is sent nothing. -/
theorem KeepsBroadcasts.not_added
    (keeps : KeepsBroadcasts labels state)
    (running : state.killed = false)
    (wrote : ¬ state.WroteToClosed)
    {socket : SocketRef}
    (notAdded : ServerLabel.listen (.add socket) ∉ labels) :
    broadcastsTo labels socket = [] := by
  rw [← received_relayEvent]
  apply (keeps.relay running wrote).unjoined_received
  rw [joined_iff]
  exact notAdded

section LoginFirst

/-- The listening thread is on its way to push a login response. -/
def OwesLogin
    (state : Server)
    (socket : SocketRef)
    (response : Response) : Prop :=
  (∃ username,
    state.listenPc = .lockAssociate socket username response ∨
      state.listenPc = .associate socket username response) ∨
  state.listenPc = .lockQueue socket response ∨
  state.listenPc = .pushBack socket response

/-- A thread on its way stays on it until it has pushed the response. -/
theorem Step.owesLogin
    {label : ServerLabel}
    {socket : SocketRef}
    {response : Response}
    (step : Step platform state label next)
    (owes : state.OwesLogin socket response) :
    label = .listen (.pushBack socket response) ∨
      next.OwesLogin socket response := by
  unfold OwesLogin at *
  cases step with
  | listen step =>
      cases step with
      | _ =>
          rcases owes with ⟨username, at_ | at_⟩ | at_ | at_ <;>
            simp_all
  | send step =>
      refine Or.inr ?_
      cases step <;> exact owes

/-- Along a run the response is pushed, or the thread is on its way. -/
theorem owesLogin_run
    {socket : SocketRef}
    {response : Response}
    {labels : List ServerLabel}
    (owes : state.OwesLogin socket response ∨ state.fault ≠ none)
    (reached :
      LabelledRun.run? (step? platform) state labels = some next) :
    ServerLabel.listen (.pushBack socket response) ∈ labels ∨
      next.OwesLogin socket response ∨ next.fault ≠ none := by
  induction labels generalizing state with
  | nil =>
      simp only [LabelledRun.run?_nil, Option.some.injEq] at reached
      subst next
      exact Or.inr owes
  | cons label rest inductionHypothesis =>
      obtain ⟨middle, taken, reached⟩ :=
        LabelledRun.run?_cons_eq_some.mp reached
      obtain ⟨alive, step⟩ := step?_sound taken
      rcases owes with owes | dead
      · rcases step.owesLogin owes with rfl | owesStill
        · exact Or.inl List.mem_cons_self
        · rcases inductionHypothesis (Or.inl owesStill) reached with
            pushed | later
          · exact Or.inl (List.mem_cons_of_mem label pushed)
          · exact Or.inr later
      · exact (dead alive).elim

/--
Between an accepted login and any later read, the login response has been
pushed.
-/
theorem login_pushed_before_read
    {descriptors : List Nat}
    {before between after : List ServerLabel}
    {socket reader : SocketRef}
    {login : Request.Login}
    {outcome : RecvOutcome}
    {now later : TimePoint}
    {accepted : Response.Login}
    (reached :
      LabelledRun.run? (step? platform) (initial descriptors)
        (before ++
          .listen (.visitLogin socket login now (.login accepted)) ::
            (between ++
              .listen (.read reader outcome later) :: after)) =
        some state) :
    ServerLabel.listen (.pushBack socket (.login accepted)) ∈
      between := by
  obtain ⟨asked, _, rest⟩ := LabelledRun.run?_prefix reached
  obtain ⟨answered, takenAnswer, rest⟩ :=
    LabelledRun.run?_cons_eq_some.mp rest
  obtain ⟨reading, through, rest⟩ := LabelledRun.run?_prefix rest
  obtain ⟨_, takenRead, _⟩ := LabelledRun.run?_cons_eq_some.mp rest
  have owes :
      answered.OwesLogin socket (.login accepted) ∨
        answered.fault ≠ none := by
    obtain ⟨_, step⟩ := step?_sound takenAnswer
    cases step with
    | listen step =>
        cases step with
        | acceptName =>
            exact Or.inl (Or.inl ⟨_, Or.inl rfl⟩)
        | visitLoginThrows =>
            exact Or.inr (by simp [throw])
  obtain ⟨alive, step⟩ := step?_sound takenRead
  rcases owesLogin_run owes through with pushed | stillOwes | dead
  · exact pushed
  · have readPc : reading.listenPc = .read reader := by
      cases step with
      | listen step =>
          cases step <;> assumption
    simp [OwesLogin, readPc] at stillOwes
  · exact (dead alive).elim

end LoginFirst

/-- A cleared queue holds no response that has not been written. -/
theorem clear_loses_nothing
    {descriptors : List Nat}
    {before after : List ServerLabel}
    (reached :
      LabelledRun.run? (step? platform) (initial descriptors)
        (before ++ .send .clear :: after) = some state) :
    endedLoops before = pushedResponses before := by
  obtain ⟨clearing, past, rest⟩ := LabelledRun.run?_prefix reached
  obtain ⟨_, taken, _⟩ := LabelledRun.run?_cons_eq_some.mp rest
  have fifo := (keepsBroadcasts past).queue.fifo
  obtain ⟨_, step⟩ := step?_sound taken
  cases step with
  | send step =>
      cases step with
      | clear pc =>
          simpa [outstanding, pc] using fifo.symm

/--
In every run before `stop` in which the sending thread writes to open sockets:

* a connection is broadcast the segment of everything pushed that begins with
  the first write loop after it was added and ends with the last one that
  reached it before it was removed, and nothing before it is added;
* what was pushed and not yet written is the end of the queue, and the queue is
  cleared when nothing is left to write;
* the responses that two connections are both to receive lie in one piece and
  in the same order in what each is sent;
* the response to an accepted login is pushed before anything that is read from
  the connection later.
-/
theorem broadcast_total_order
    (platform : Platform)
    (descriptors : List Nat)
    (labels : List ServerLabel)
    (state : Server)
    (reached :
      LabelledRun.run? (step? platform)
        (initial descriptors) labels = some state)
    (running : state.killed = false)
    (wrote : ¬ state.WroteToClosed) :
    (∀ socket,
      ServerLabel.listen (.add socket) ∈ labels →
      broadcastsTo labels socket =
        pushedBetween labels (addedAt labels socket)
          (sentUpTo labels state socket)) ∧
    (∀ socket,
      ServerLabel.listen (.add socket) ∉ labels →
      broadcastsTo labels socket = []) ∧
    (pushedResponses labels = endedLoops labels ++ state.outstanding ∧
      state.outstanding <:+ state.messageQueue) ∧
    (∀ before after,
      labels = before ++ .send .clear :: after →
      endedLoops before = pushedResponses before) ∧
    (∀ first second,
      ServerLabel.listen (.add first) ∈ labels →
      ServerLabel.listen (.add second) ∈ labels →
      let common :=
        pushedBetween labels
          (max (addedAt labels first) (addedAt labels second))
          (min (sentUpTo labels state first)
            (sentUpTo labels state second))
      common <:+: broadcastsTo labels first ∧
        common <:+: broadcastsTo labels second) ∧
    (∀ before between after socket login outcome now later accepted,
      labels =
        before ++
          .listen (.visitLogin socket login now (.login accepted)) ::
            (between ++
              .listen (.read socket outcome later) :: after) →
      ServerLabel.listen (.pushBack socket (.login accepted)) ∈
        between) := by
  have keeps := keepsBroadcasts reached
  have segment :
      ∀ socket,
        ServerLabel.listen (.add socket) ∈ labels →
        broadcastsTo labels socket =
          pushedBetween labels (addedAt labels socket)
            (sentUpTo labels state socket) :=
    fun socket added => keeps.segment running wrote added
  refine ⟨segment, ?_, ⟨keeps.queue.fifo, keeps.queue.suffix⟩,
    ?_, ?_, ?_⟩
  · intro socket notAdded
    exact keeps.not_added running wrote notAdded
  · intro before after shape
    rw [shape] at reached
    exact clear_loses_nothing reached
  · intro first second firstAdded secondAdded common
    rw [segment first firstAdded, segment second secondAdded]
    exact
      ⟨BroadcastRelay.segment_infix
          (Nat.le_max_left _ _) (Nat.min_le_left _ _),
        BroadcastRelay.segment_infix
          (Nat.le_max_right _ _) (Nat.min_le_right _ _)⟩
  · intro before between after socket login outcome now later
      accepted shape
    rw [shape] at reached
    exact login_pushed_before_read reached

/-- Two clients are broadcast the login response of the first one. -/
theorem broadcast_total_order_logIn :
    let login : Request.Login := ⟨0, ascii "ann"⟩
    let bytes :=
      (Request.login login).text .reference JsonText.escape
    let response : Response :=
      .login (Response.Login.ofUsername 0 login.sender)
    let text :=
      JsonText.value JsonText.escape (response.toJson .reference)
    let labels :=
      ServerLabel.connect [] 0 4 ++
        (ServerLabel.connect [4] 1 5 ++
          (ServerLabel.logIn [5, 4] 0 bytes login 0 ++
            [.send .sleep, .send .lockQueue,
              .send (.serialise response []),
              .send (.lockSockets response text []),
              .send (.write response text 0 [1] [] (.written 0)),
              .send (.write response text 1 [] [] (.written 0))]))
    ∃ state,
      LabelledRun.run? (step? .reference)
          (initial [0, 1, 2, 3]) labels = some state ∧
        (state.killed, state.fault) = (false, none) ∧
        ∀ socket,
          ServerLabel.listen (.add socket) ∈ labels →
          broadcastsTo labels socket =
            pushedBetween labels (addedAt labels socket)
              (sentUpTo labels state socket) := by
  intro login bytes response text labels
  have finished :
      (LabelledRun.run? (step? .reference)
        (initial [0, 1, 2, 3]) labels).map
          (fun state => (state.killed, state.fault)) =
        some (false, none) := by
    decide
  obtain ⟨state, reached, control⟩ :=
    Option.map_eq_some_iff.mp finished
  obtain ⟨running, alive⟩ := Prod.mk.inj control
  have wrote : ¬ state.WroteToClosed := by
    simp [WroteToClosed, alive]
  exact ⟨state, reached, control,
    (broadcast_total_order .reference [0, 1, 2, 3] labels state
      reached running wrote).1⟩

end Server

end ChatRelay
