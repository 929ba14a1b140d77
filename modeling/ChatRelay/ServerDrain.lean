import ChatRelay.BoundedRun
import ChatRelay.ServerBroadcast
import ChatRelay.ServerDeadlock
import ChatRelay.ServerOpenEntries
import ChatRelay.ServerSurvival

namespace ChatRelay

/-!
# The queue is written out

What is queued does not wait for anything but the sending thread.  As long as
the listening thread holds no mutex, the listed sockets are open and writes
succeed, `sendMessages` empties the queue in a number of steps that the state
tells, and each listed client is broadcast exactly what it had still to be
given.
-/

open LabelledRun
  (run? run?_append run?_cons_eq_some guarded_eq_some Complete Decreases)

/-- A step of the sending thread; a write that it makes succeeds. -/
def ServerLabel.delivers : ServerLabel → Bool
  | .send (.write _ _ _ _ _ .failed) =>
      false
  | .send _ =>
      true
  | .listen _ =>
      false

/--
The steps of `sendMessages` until the queue is cleared, for a number of listed
clients and a number of queued responses.
-/
def SenderPc.drainSteps (clients queued : Nat) : SenderPc → Nat
  | .returned => 0
  | .nextMessage remaining =>
      remaining.length * (clients + 3) + 1
  | .writing _ _ targets remaining =>
      remaining.length * (clients + 3) + 1 + (targets.length + 1)
  | .lockSockets _ _ remaining =>
      remaining.length * (clients + 3) + 1 + (clients + 2)
  | .lockQueue =>
      queued * (clients + 3) + 2
  | .loop =>
      queued * (clients + 3) + 3
  | .unlockQueue =>
      queued * (clients + 3) + 4

namespace Server

/-- The steps of `sendMessages` until the queue is cleared. -/
def drainSteps (state : Server) : Nat :=
  if state.messageQueue = [] then
    0
  else
    state.senderPc.drainSteps state.sockets.length
      state.messageQueue.length

/-- The steps of the sending thread with something on the queue. -/
def drainStep?
    (platform : Platform)
    (state : Server)
    (label : ServerLabel) :
    Option Server :=
  if state.messageQueue ≠ [] ∧ label.delivers = true then
    state.step? platform label
  else
    none

/-- Nothing but the sending thread stands between the queue and the clients. -/
structure Draining (state : Server) : Prop where
  alive : state.fault = none
  running : state.killed = false
  sending : state.senderPc ≠ .returned
  locks : state.LocksHeld
  outsideSockets : state.listenPc.holdsSockets = false
  outsideQueue : state.listenPc.holdsQueue = false
  entriesOpen : state.EntriesOpen
  targetsOpen :
    ∀ socket ∈ state.targets, (state.heap socket).isOpen = true

variable {platform : Platform}
variable {state next : Server}

/-- A taken step of the restricted system. -/
theorem drainStep?_eq_some
    {label : ServerLabel} :
    state.drainStep? platform label = some next ↔
      (state.messageQueue ≠ [] ∧ label.delivers = true) ∧
        state.step? platform label = some next := by
  unfold drainStep?
  split <;> simp_all

/-- A write that succeeds leaves its socket as it was. -/
theorem setSocket_afterWrite_written
    (socket : SocketRef)
    (length : Nat) :
    state.setSocket socket
        ((state.heap socket).afterWrite (.written length)) = state := by
  simp [setSocket, Socket.afterWrite]

/-- What one step of the sending thread keeps. -/
theorem Draining.sent
    (writes : platform.Writes)
    (draining : state.Draining)
    {action : SenderAction}
    (step : SenderStep platform state action next)
    (delivers : (ServerLabel.send action).delivers = true) :
    next.Draining := by
  obtain ⟨alive, running, sending, locks, outsideSockets,
    outsideQueue, entriesOpen, targetsOpen⟩ := draining
  have nextLocks :
      next.fault = none → next.LocksHeld :=
    locks.step (.send step)
  cases step with
  | leaveLoop pc killed =>
      rw [running] at killed
      contradiction
  | serialiseThrows pc unwritable =>
      exact (not_unwritable writes _ _ unwritable).elim
  | @writeThrows message text socket targets' remaining outcome pc closed =>
      have isOpen := targetsOpen socket (by
        rw [targets, pc]
        exact List.mem_cons_self)
      rw [closed] at isOpen
      contradiction
  | @write message text socket targets' remaining outcome pc isOpen =>
      cases outcome with
      | failed =>
          simp [ServerLabel.delivers] at delivers
      | written length =>
          rw [setSocket_afterWrite_written] at nextLocks ⊢
          refine ⟨alive, running, by simp, nextLocks alive,
            outsideSockets, outsideQueue, entriesOpen, ?_⟩
          intro target member
          refine targetsOpen target ?_
          rw [targets, pc]
          exact List.mem_cons_of_mem _ member
  | lockSockets pc free =>
      refine ⟨alive, running, by simp, nextLocks alive,
        outsideSockets, outsideQueue, entriesOpen, ?_⟩
      intro target member
      obtain ⟨entry, listed, rfl⟩ := List.mem_map.mp member
      exact entriesOpen entry listed
  | _ =>
      refine ⟨alive, running, by simp, nextLocks alive,
        outsideSockets, outsideQueue, entriesOpen, ?_⟩
      intro target member
      cases member

theorem Draining.step
    (writes : platform.Writes)
    (draining : state.Draining)
    {label : ServerLabel}
    (taken : state.drainStep? platform label = some next) :
    next.Draining := by
  obtain ⟨⟨_, delivers⟩, taken⟩ := drainStep?_eq_some.mp taken
  obtain ⟨_, step⟩ := step?_sound taken
  cases step with
  | listen step =>
      simp [ServerLabel.delivers] at delivers
  | send step =>
      exact draining.sent writes step delivers

/-- Every step of the sending thread is one of those left. -/
theorem Draining.smaller
    (writes : platform.Writes)
    (draining : state.Draining)
    {label : ServerLabel}
    (taken : state.drainStep? platform label = some next) :
    next.drainSteps < state.drainSteps := by
  have stays := draining.step writes taken
  obtain ⟨⟨queued, delivers⟩, taken⟩ := drainStep?_eq_some.mp taken
  obtain ⟨_, step⟩ := step?_sound taken
  have running := draining.running
  cases step with
  | listen step =>
      simp [ServerLabel.delivers] at delivers
  | send step =>
      rw [drainSteps, drainSteps, if_neg queued]
      cases step with
      | serialiseThrows | writeThrows =>
          have throws := stays.alive
          simp [throw] at throws
      | _ =>
          simp_all [SenderPc.drainSteps, setSocket, Nat.succ_mul]
          try omega

theorem Draining.decreases
    (writes : platform.Writes) :
    Decreases (drainStep? platform) Draining drainSteps where
  preserved := fun draining => draining.step writes
  smaller := fun draining => draining.smaller writes

/-- The sending thread waits for nobody. -/
theorem Draining.unblocked
    (draining : state.Draining)
    {mutex : Mutex}
    (blocks : state.requests .sendMessages = some mutex) :
    state.holder mutex = none := by
  obtain ⟨_, _, _, locks, outsideSockets, outsideQueue, _, _⟩ := draining
  change state.senderPc.requests = some mutex at blocks
  cases held : state.holder mutex with
  | none =>
      rfl
  | some thread =>
      cases pc : state.senderPc with
      | lockQueue =>
          rw [pc] at blocks
          cases blocks
          change state.messageQueueLock = some thread at held
          cases thread with
          | listen =>
              rw [locks.listen_queue.mp held] at outsideQueue
              contradiction
          | sendMessages =>
              have inside := locks.send_queue.mp held
              rw [pc] at inside
              contradiction
      | lockSockets message text remaining =>
          rw [pc] at blocks
          cases blocks
          change state.socketsLock = some thread at held
          cases thread with
          | listen =>
              rw [locks.listen_sockets.mp held] at outsideSockets
              contradiction
          | sendMessages =>
              have inside := locks.send_sockets.mp held
              rw [pc] at inside
              contradiction
      | _ =>
          rw [pc] at blocks
          contradiction

/-- With something on the queue the sending thread can take a step. -/
theorem Draining.moves
    (draining : state.Draining)
    (queued : state.messageQueue ≠ []) :
    ∃ label next, state.drainStep? platform label = some next := by
  obtain ⟨action, next, taken⟩ :=
    @send_moves platform state draining.sending
      (fun _ blocks => draining.unblocked blocks)
  have goes :
      ∀ action next,
        state.senderStep? platform action = some next →
          (ServerLabel.send action).delivers = true →
            ∃ label next, state.drainStep? platform label = some next := by
    intro action next taken delivers
    refine ⟨.send action, next,
      drainStep?_eq_some.mpr ⟨⟨queued, delivers⟩, ?_⟩⟩
    rw [step?, if_pos draining.alive, taken]
  -- The thread can make a write whatever comes of it.
  by_cases delivers : (ServerLabel.send action).delivers = true
  · exact goes action next taken delivers
  · cases action with
    | write message text socket targets remaining outcome =>
        simp only [senderStep?, guarded_some] at taken
        exact
          goes (.write message text socket targets remaining (.written 0))
            _ (guarded_eq_some.mpr ⟨taken.1, rfl⟩) rfl
    | _ =>
        exact (delivers rfl).elim

variable {descriptors : List Nat}
variable {past future : List ServerLabel}
variable {final : Server}

/-- A run of the restricted system is a run of the process. -/
theorem run_of_drains
    (ran : run? (drainStep? platform) state future = some final) :
    run? (step? platform) state future = some final := by
  induction future generalizing state with
  | nil =>
      exact ran
  | cons label rest inductionHypothesis =>
      obtain ⟨middle, taken, reached⟩ := run?_cons_eq_some.mp ran
      exact run?_cons_eq_some.mpr
        ⟨middle, (drainStep?_eq_some.mp taken).2,
          inductionHypothesis reached⟩

/-- The sending thread returns after `exit` only. -/
theorem sending_of_run
    (reached :
      run? (step? platform) (initial descriptors) past = some state)
    (running : state.killed = false) :
    state.senderPc ≠ .returned := by
  have keeps :
      state.senderPc = .returned → state.killed = true := by
    refine @LabelledRun.stateInvariant _ _ _ _
      (fun state => state.senderPc = .returned → state.killed = true)
      ?_ ?_ _ _ reached
    · simp [initial]
    · intro state label next holds taken returned
      obtain ⟨_, step⟩ := step?_sound taken
      cases step with
      | listen step =>
          rw [step.senderPc] at returned
          exact Step.killed (.listen step) (holds returned)
      | send step =>
          cases step with
          | leaveLoop pc killed =>
              exact killed
          | _ =>
              simp_all [throw]
  intro returned
  rw [keeps returned] at running
  contradiction

/-- A step of the sending thread takes what it writes from what is left. -/
theorem Draining.delivers_step
    (reached :
      run? (step? platform) (initial descriptors) past = some state)
    (draining : state.Draining)
    (stays : next.Draining)
    {label : ServerLabel}
    (taken : state.drainStep? platform label = some next)
    {socket : SocketRef}
    (listed : socket ∈ state.sockets.map Prod.fst) :
    next.sockets = state.sockets ∧
      broadcastsTo [label] socket ++ next.relay.toDeliver socket =
        state.relay.toDeliver socket := by
  have keeps := keepsBroadcasts reached
  have relay :=
    keeps.relay draining.running (by simp [WroteToClosed, draining.alive])
  obtain ⟨⟨_, delivers⟩, taken⟩ := drainStep?_eq_some.mp taken
  obtain ⟨_, step⟩ := step?_sound taken
  cases step with
  | listen step =>
      simp [ServerLabel.delivers] at delivers
  | @send action next step =>
      have relayStep :=
        @SenderStep.relay platform _ _ (past.map relayEvent) _ step
          (by simp [WroteToClosed, stays.alive])
      have given := relay.toDeliver_step relayStep listed
      have noPush : (relayEvent (.send action)).pushed? = none := by
        cases action <;> rfl
      rw [noPush, Option.toList_none, List.append_nil] at given
      refine ⟨?_, ?_⟩
      · cases step <;> rfl
      · rw [← given]
        congr 1
        rw [← received_relayEvent]
        exact BroadcastRelay.received_concat [] _ socket

/-- What is broadcast to a listed client and what is left for it. -/
theorem Draining.delivers_run
    (writes : platform.Writes)
    (reached :
      run? (step? platform) (initial descriptors) past = some state)
    (draining : state.Draining)
    (ran : run? (drainStep? platform) state future = some final)
    {socket : SocketRef}
    (listed : socket ∈ state.sockets.map Prod.fst) :
    final.Draining ∧
      final.sockets = state.sockets ∧
        broadcastsTo future socket ++ final.relay.toDeliver socket =
          state.relay.toDeliver socket := by
  refine @LabelledRun.invariant _ _ _ _
    (fun future final =>
      final.Draining ∧
        final.sockets = state.sockets ∧
          broadcastsTo future socket ++ final.relay.toDeliver socket =
            state.relay.toDeliver socket)
    ?_ ?_ _ _ ran
  · exact ⟨draining, rfl, rfl⟩
  · intro front middle label next through holds taken
    obtain ⟨middleDrains, same, given⟩ := holds
    have whole :
        run? (step? platform) (initial descriptors) (past ++ front) =
          some middle := by
      rw [run?_append, reached]
      exact run_of_drains through
    have stays := middleDrains.step writes taken
    obtain ⟨sameNext, givenNext⟩ :=
      Draining.delivers_step whole middleDrains stays taken
        (by rw [same]; exact listed)
    refine ⟨stays, sameNext.trans same, ?_⟩
    rw [← given, ← givenNext, broadcastsTo, List.filterMap_append,
      List.append_assoc]
    rfl

/-- The relay's members without the current message are the targets. -/
theorem relay_pending :
    state.relay.pending = state.targets := by
  unfold BroadcastRelay.pending relay targets
  cases state.senderPc <;> rfl

/-- With nothing on the queue nothing is left for anybody. -/
theorem toDeliver_of_empty
    (reached :
      run? (step? platform) (initial descriptors) past = some state)
    (empty : state.messageQueue = [])
    (socket : SocketRef) :
    state.relay.toDeliver socket = [] := by
  have suffix := (keepsBroadcasts reached).queue.suffix
  rw [empty, List.suffix_nil] at suffix
  cases pc : state.senderPc <;>
    simp_all [outstanding, relay, BroadcastRelay.toDeliver,
      BroadcastRelay.owed]

/--
The sending thread writes the queue out by itself.  Take any state in which the
process runs, the listening thread is outside of both sections and the listed
sockets are open: as long as its writes succeed, the sending thread makes at
most the steps that the state tells; when it can make no further one, the queue
is empty, nothing was thrown, and each listed client has been broadcast what it
was still to be given, in order.
-/
theorem sender_drains
    (writes : platform.Writes)
    (reached :
      run? (step? platform) (initial descriptors) past = some state)
    (alive : state.fault = none)
    (running : state.killed = false)
    (outsideSockets : state.listenPc.holdsSockets = false)
    (outsideQueue : state.listenPc.holdsQueue = false)
    (entriesOpen : state.EntriesOpen) :
    (∀ future final,
      run? (drainStep? platform) state future = some final →
        future.length ≤ state.drainSteps ∧
          (Complete (drainStep? platform) final →
            final.messageQueue = [] ∧
              final.fault = none ∧
              ∀ entry ∈ state.sockets,
                broadcastsTo future entry.1 =
                  state.relay.toDeliver entry.1)) ∧
    ∃ future final,
      run? (drainStep? platform) state future = some final ∧
        Complete (drainStep? platform) final := by
  have relay :=
    (keepsBroadcasts reached).relay running
      (by simp [WroteToClosed, alive])
  have draining : state.Draining := by
    refine ⟨alive, running, sending_of_run reached running,
      LocksHeld.of_run reached alive, outsideSockets, outsideQueue,
      entriesOpen, ?_⟩
    intro socket target
    have listed :=
      relay.pending_members socket
        (by rwa [relay_pending])
    obtain ⟨entry, member, rfl⟩ := List.mem_map.mp listed
    exact entriesOpen entry member
  refine ⟨?_, (Draining.decreases writes).exists_complete draining⟩
  intro future final ran
  have bound := (Draining.decreases writes).length_le draining ran
  refine ⟨by omega, ?_⟩
  intro complete
  have whole :
      run? (step? platform) (initial descriptors) (past ++ future) =
        some final := by
    rw [run?_append, reached]
    exact run_of_drains ran
  have finalDrains : final.Draining := by
    refine LabelledRun.stateInvariant draining ?_ ran
    intro state label next drains taken
    exact drains.step writes taken
  have empty : final.messageQueue = [] := by
    by_contra queued
    obtain ⟨label, next, taken⟩ :=
      @Draining.moves platform _ finalDrains queued
    rw [complete label] at taken
    contradiction
  refine ⟨empty, finalDrains.alive, ?_⟩
  intro entry listed
  obtain ⟨_, _, given⟩ :=
    Draining.delivers_run writes reached draining ran
      (List.mem_map_of_mem listed)
  rw [← given, toDeliver_of_empty whole empty, List.append_nil]

/-- The response to a login is written out in seven steps. -/
theorem sender_drains_login :
    let login : Request.Login := ⟨0, ascii "ann"⟩
    let bytes :=
      (Request.login login).text .reference JsonText.escape
    let response : Response :=
      .login (Response.Login.ofUsername 0 login.sender)
    let labels :=
      ServerLabel.connect [] 0 4 ++
        ServerLabel.logIn [4] 0 bytes login 0
    ∃ state future final,
      run? (step? .reference) (initial [0, 1, 2, 3]) labels =
          some state ∧
        run? (drainStep? .reference) state future = some final ∧
          future.length ≤ 7 ∧
            final.messageQueue = [] ∧
              broadcastsTo future 0 = [response] := by
  intro login bytes response labels
  have finished :
      (run? (step? .reference) (initial [0, 1, 2, 3]) labels).map
          (fun state =>
            ((state.fault, state.killed),
              (state.listenPc.holdsSockets,
                state.listenPc.holdsQueue))) =
        some ((none, false), (false, false)) := by
    decide
  have left :
      (run? (step? .reference) (initial [0, 1, 2, 3]) labels).map
          (fun state =>
            (state.sockets.map
                (fun entry => (entry.1, (state.heap entry.1).isOpen)),
              (state.drainSteps, state.relay.toDeliver 0))) =
        some ([(0, true)], (7, [response])) := by
    decide
  obtain ⟨state, reached, control⟩ :=
    Option.map_eq_some_iff.mp finished
  rw [reached, Option.map_some, Option.some.injEq] at left
  simp only [Prod.mk.injEq] at control left
  obtain ⟨⟨alive, running⟩, outsideSockets, outsideQueue⟩ := control
  obtain ⟨sockets, steps, toDeliver⟩ := left
  have writes := Platform.reference_writes
  have entriesOpen : state.EntriesOpen := by
    intro entry listed
    have isOpen :=
      List.mem_map_of_mem
        (f := fun entry : SocketRef × Bytes =>
          (entry.1, (state.heap entry.1).isOpen)) listed
    rw [sockets, List.mem_singleton] at isOpen
    exact (Prod.mk.inj isOpen).2
  obtain ⟨drains, future, final, ran, complete⟩ :=
    sender_drains writes reached alive running outsideSockets
      outsideQueue entriesOpen
  obtain ⟨bound, ends⟩ := drains future final ran
  obtain ⟨empty, _, given⟩ := ends complete
  have isListed : (0 : SocketRef) ∈ state.sockets.map Prod.fst := by
    have same :=
      congrArg (List.map Prod.fst) sockets
    rw [List.map_map] at same
    change state.sockets.map Prod.fst = [0] at same
    rw [same]
    exact List.mem_singleton_self _
  obtain ⟨entry, listed, first⟩ := List.mem_map.mp isListed
  have delivered := given entry listed
  rw [first, toDeliver] at delivered
  exact ⟨state, future, final, reached, ran, steps ▸ bound, empty,
    delivered⟩

end Server

end ChatRelay
