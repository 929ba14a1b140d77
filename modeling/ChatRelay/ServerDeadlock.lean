import Mathlib.Data.Fintype.Order
import ChatRelay.LockOrder
import ChatRelay.ServerLocks

namespace ChatRelay

/-!
# Deadlock freedom of the server

The three mutexes are always taken in one order: `messageQueueLock`, then
`socketsLock`, then `_mut_killEvent`.  The sending thread holds the first two
together, the listening thread the last two when it stops the server; neither
goes back.
-/

open LabelledRun (run? stateInvariant guarded_eq_some)
open LockOrder (WaitsFor Ordered)

/-- The mutexes of `server` and `flex_waiter`. -/
inductive Mutex where
  | messageQueueLock : Mutex
  | socketsLock : Mutex
  | _mut_killEvent : Mutex
  deriving Repr, DecidableEq

/-- The order in which the mutexes are taken. -/
def Mutex.rank : Mutex → Fin 3
  | .messageQueueLock => 0
  | .socketsLock => 1
  | ._mut_killEvent => 2

/-- The mutex that the listening thread blocks on. -/
def ListenPc.requests : ListenPc → Option Mutex
  | .lockKillEvent _ | .lockKill =>
      some ._mut_killEvent
  | .lockRemove _ | .lockNames _ _ | .lockAssociate _ _ _ |
    .lockAdd _ | .lockStop =>
      some .socketsLock
  | .lockQueue _ _ =>
      some .messageQueueLock
  | _ =>
      none

/-- The mutex that the sending thread blocks on. -/
def SenderPc.requests : SenderPc → Option Mutex
  | .lockQueue =>
      some .messageQueueLock
  | .lockSockets _ _ _ =>
      some .socketsLock
  | _ =>
      none

/-- The mutexes whose sections the listening thread is inside of. -/
def ListenPc.held : ListenPc → List Mutex
  | .pushBack _ _ =>
      [.messageQueueLock]
  | .remove _ | .visitLogin _ _ | .associate _ _ _ | .add _ |
    .closeAll | .lockKill | .unlockStop =>
      [.socketsLock]
  | .kill =>
      [.socketsLock, ._mut_killEvent]
  | .unlockKillEvent _ =>
      [._mut_killEvent]
  | _ =>
      []

/-- The mutexes whose sections the sending thread is inside of. -/
def SenderPc.held : SenderPc → List Mutex
  | .nextMessage _ | .lockSockets _ _ _ | .unlockQueue =>
      [.messageQueueLock]
  | .writing _ _ _ _ =>
      [.messageQueueLock, .socketsLock]
  | _ =>
      []

/--
The thread stands where a handler has returned to `wait` and `listen`, or where
`visitLogin` has returned to `onSocket`.
-/
def ListenPc.HandlerReturned : ListenPc → Prop
  | .loop | .lockAssociate _ _ _ | .write _ _ =>
      True
  | _ =>
      False

namespace Server

/-- The mutex that a thread blocks on. -/
def requests (state : Server) : Thread → Option Mutex
  | .listen => state.listenPc.requests
  | .sendMessages => state.senderPc.requests

/-- The sections that a thread is inside of. -/
def held (state : Server) : Thread → List Mutex
  | .listen => state.listenPc.held
  | .sendMessages => state.senderPc.held

/-- The thread that holds a mutex. -/
def holder (state : Server) : Mutex → Option Thread
  | .messageQueueLock => state.messageQueueLock
  | .socketsLock => state.socketsLock
  | ._mut_killEvent => state._mut_killEvent

/-- The outermost function of a thread has returned. -/
def HasReturned (state : Server) : Thread → Prop
  | .listen => state.listenPc = .returned
  | .sendMessages => state.senderPc = .returned

/-- A mutex is held only by a thread that is inside its section. -/
def HeldInside (state : Server) : Prop :=
  ∀ mutex thread,
    state.holder mutex = some thread → mutex ∈ state.held thread

variable {platform : Platform}
variable {state next : Server}

/-- Where a thread blocks, it is inside of earlier sections only. -/
theorem held_rank_lt
    {thread : Thread}
    {requested held : Mutex}
    (blocks : state.requests thread = some requested)
    (inside : held ∈ state.held thread) :
    held.rank < requested.rank := by
  cases thread with
  | listen =>
      change state.listenPc.requests = some requested at blocks
      change held ∈ state.listenPc.held at inside
      -- Only `stop` blocks inside of a section.
      cases pc : state.listenPc with
      | lockKill =>
          rw [pc] at blocks inside
          obtain rfl := Option.some.inj blocks
          obtain rfl := List.mem_singleton.mp inside
          decide
      | _ =>
          simp_all [ListenPc.requests, ListenPc.held]
  | sendMessages =>
      change state.senderPc.requests = some requested at blocks
      change held ∈ state.senderPc.held at inside
      cases pc : state.senderPc with
      | lockSockets message text remaining =>
          rw [pc] at blocks inside
          obtain rfl := Option.some.inj blocks
          obtain rfl := List.mem_singleton.mp inside
          decide
      | _ =>
          simp_all [SenderPc.requests, SenderPc.held]

theorem HeldInside.initial
    (descriptors : List Nat) :
    HeldInside (Server.initial descriptors) := by
  intro mutex thread held
  cases mutex <;> simp [Server.initial, holder] at held

/-- Every step leaves the mutexes to threads that are inside of a section. -/
theorem HeldInside.step
    {label : ServerLabel}
    (inside : state.HeldInside)
    (step : Step platform state label next) :
    next.HeldInside := by
  intro mutex thread
  have before := inside mutex thread
  clear inside
  cases step with
  | listen step =>
      cases step with
      | @remove socket pc =>
          obtain ⟨_, _, _, _, removed⟩ :=
            @removeEntry_frame state socket
          rw [removed]
          cases mutex <;> cases thread <;>
            simp_all [holder, Server.held, ListenPc.held]
      | closeAll pc =>
          obtain ⟨_, _, closed⟩ :=
            @closeSockets_frame state (state.sockets.map Prod.fst)
          rw [closed]
          cases mutex <;> cases thread <;>
            simp_all [holder, Server.held, ListenPc.held]
      | _ =>
          cases mutex <;> cases thread <;>
            simp_all [holder, Server.held, ListenPc.held, setSocket,
              throw]
  | send step =>
      cases step with
      | _ =>
          cases mutex <;> cases thread <;>
            simp_all [holder, Server.held, SenderPc.held, setSocket,
              throw]

theorem HeldInside.of_run
    {descriptors : List Nat}
    {labels : List ServerLabel}
    (reached :
      run? (step? platform) (Server.initial descriptors) labels =
        some state) :
    state.HeldInside := by
  refine stateInvariant (HeldInside.initial descriptors) ?_ reached
  intro state label next inside taken
  exact inside.step (step?_sound taken).2

/-- Every thread takes the mutexes in the order of their ranks. -/
theorem HeldInside.ordered
    (inside : state.HeldInside) :
    Ordered state.requests state.holder Mutex.rank := by
  intro thread requested held blocks holds
  exact held_rank_lt blocks (inside held thread holds)

/-- Inside of no section a thread holds no mutex. -/
theorem HeldInside.holds_nothing
    (inside : state.HeldInside)
    {thread : Thread}
    (outside : state.held thread = [])
    (mutex : Mutex) :
    state.holder mutex ≠ some thread := by
  intro holds
  have member := inside mutex thread holds
  rw [outside] at member
  contradiction

theorem held_of_handlerReturned
    (returned : state.listenPc.HandlerReturned) :
    state.held .listen = [] := by
  change state.listenPc.held = []
  cases pc : state.listenPc <;>
    simp_all [ListenPc.HandlerReturned, ListenPc.held]

/--
In every reachable state no thread requests a mutex that it holds and the two
threads do not wait for each other; a handler has returned, and `sendMessages`
has gone round its loop, with no mutex held; and while it writes, `sendMessages`
holds `messageQueueLock` and `socketsLock` together.
-/
theorem deadlock_free
    (platform : Platform)
    (descriptors : List Nat)
    (labels : List ServerLabel)
    (state : Server)
    (reached :
      run? (step? platform) (Server.initial descriptors) labels =
        some state) :
    (∀ thread mutex,
      state.requests thread = some mutex →
        state.holder mutex ≠ some thread) ∧
    ¬ (WaitsFor state.requests state.holder .listen .sendMessages ∧
        WaitsFor state.requests state.holder .sendMessages .listen) ∧
    (state.listenPc.HandlerReturned →
      ∀ mutex, state.holder mutex ≠ some .listen) ∧
    (state.senderPc = .loop →
      ∀ mutex, state.holder mutex ≠ some .sendMessages) ∧
    (∀ message text targets remaining,
      state.fault = none →
      state.senderPc = .writing message text targets remaining →
      state.holder .messageQueueLock = some .sendMessages ∧
        state.holder .socketsLock = some .sendMessages) := by
  have inside := HeldInside.of_run reached
  refine ⟨?_, ?_, ?_, ?_, ?_⟩
  · intro thread mutex blocks
    exact inside.ordered.not_held blocks
  · rintro ⟨listens, sends⟩
    exact inside.ordered.not_mutual listens sends
  · intro returned
    exact inside.holds_nothing (held_of_handlerReturned returned)
  · intro pc
    refine inside.holds_nothing ?_
    change state.senderPc.held = []
    rw [pc]
    rfl
  · intro message text targets remaining alive pc
    have locks := LocksHeld.of_run reached alive
    exact ⟨locks.send_queue.mpr (by rw [pc]; rfl),
      locks.send_sockets.mpr (by rw [pc]; rfl)⟩

/--
A client connects while the sending thread writes: the listening thread waits
for `socketsLock`, and the sending thread holds two mutexes.
-/
theorem deadlock_free_connect :
    let login : Request.Login := ⟨0, ascii "ann"⟩
    let bytes :=
      (Request.login login).text .reference JsonText.escape
    let response : Response :=
      .login (Response.Login.ofUsername 0 login.sender)
    let text :=
      JsonText.value JsonText.escape (response.toJson .reference)
    let labels :=
      ServerLabel.connect [] 0 4 ++
        (ServerLabel.logIn [4] 0 bytes login 0 ++
          ([.send .sleep, .send .lockQueue,
            .send (.serialise response []),
            .send (.lockSockets response text [])] ++
            (ServerLabel.wait [4] .serverSocket ++
              [.listen (.accept 1 5)])))
    ∃ state,
      run? (step? .reference) (initial [0, 1, 2, 3]) labels =
          some state ∧
        (state.listenPc, state.senderPc, state.fault) =
          (.lockAdd 1, .writing response text [0] [], none) ∧
        state.holder .messageQueueLock = some .sendMessages ∧
        state.holder .socketsLock = some .sendMessages := by
  intro login bytes response text labels
  have finished :
      (run? (step? .reference) (initial [0, 1, 2, 3]) labels).map
          (fun state =>
            (state.listenPc, state.senderPc, state.fault)) =
        some (.lockAdd 1, .writing response text [0] [], none) := by
    decide
  obtain ⟨state, reached, control⟩ :=
    Option.map_eq_some_iff.mp finished
  simp only [Prod.mk.injEq] at control
  obtain ⟨listening, sending, alive⟩ := control
  refine ⟨state, reached, by rw [listening, sending, alive], ?_⟩
  exact
    (deadlock_free .reference [0, 1, 2, 3] labels state reached).2.2.2.2
      response text [0] [] alive sending

/-! ### Some thread moves -/

section Progress

/-- The listening thread moves unless it has returned or is blocked. -/
theorem listen_moves
    (notReturned : state.listenPc ≠ .returned)
    (unblocked :
      ∀ mutex,
        state.requests .listen = some mutex →
          state.holder mutex = none) :
    ∃ action next,
      state.listenStep? platform action = some next := by
  have free :
      ∀ {pc mutex},
        state.listenPc = pc → pc.requests = some mutex →
          state.holder mutex = none :=
    fun stands blocks =>
      unblocked _ ((congrArg ListenPc.requests stands).trans blocks)
  cases pc : state.listenPc with
  | loop =>
      cases killed : state.killed with
      | true =>
          exact ⟨.leaveLoop, _, guarded_eq_some.mpr ⟨⟨pc, killed⟩, rfl⟩⟩
      | false =>
          exact ⟨.enterWait, _, guarded_eq_some.mpr ⟨⟨pc, killed⟩, rfl⟩⟩
  | lockKillEvent watched =>
      exact ⟨.lockKillEvent watched, _,
        guarded_eq_some.mpr ⟨⟨pc, free pc rfl⟩, rfl⟩⟩
  | unlockKillEvent watched =>
      exact ⟨.unlockKillEvent watched, _,
        guarded_eq_some.mpr ⟨pc, rfl⟩⟩
  | select watched =>
      by_cases quiet : state._killEvent.getD 0 = 0
      · exact ⟨.select watched .timeout, _,
          guarded_eq_some.mpr ⟨⟨pc, quiet⟩, rfl⟩⟩
      · exact ⟨.select watched .killEvent, _,
          guarded_eq_some.mpr ⟨⟨pc, quiet⟩, rfl⟩⟩
  | read socket =>
      exact ⟨.read socket .closed 0, _,
        guarded_eq_some.mpr ⟨⟨pc, trivial⟩, rfl⟩⟩
  | lockRemove socket =>
      exact ⟨.lockRemove socket, _,
        guarded_eq_some.mpr ⟨⟨pc, free pc rfl⟩, rfl⟩⟩
  | remove socket =>
      exact ⟨.remove socket, _, guarded_eq_some.mpr ⟨pc, rfl⟩⟩
  | lockNames socket login =>
      exact ⟨.lockNames socket login, _,
        guarded_eq_some.mpr ⟨⟨pc, free pc rfl⟩, rfl⟩⟩
  | visitLogin socket login =>
      exact ⟨.visitLogin socket login 0 (state.visitLogin 0 login), _,
        guarded_eq_some.mpr ⟨⟨pc, rfl⟩, rfl⟩⟩
  | write socket text =>
      exact ⟨.write socket text .failed, _,
        guarded_eq_some.mpr ⟨pc, rfl⟩⟩
  | lockAssociate socket username response =>
      exact ⟨.lockAssociate socket username response, _,
        guarded_eq_some.mpr ⟨⟨pc, free pc rfl⟩, rfl⟩⟩
  | associate socket username response =>
      exact ⟨.associate socket username response, _,
        guarded_eq_some.mpr ⟨pc, rfl⟩⟩
  | lockQueue socket response =>
      exact ⟨.lockQueue socket response, _,
        guarded_eq_some.mpr ⟨⟨pc, free pc rfl⟩, rfl⟩⟩
  | pushBack socket response =>
      exact ⟨.pushBack socket response, _,
        guarded_eq_some.mpr ⟨pc, rfl⟩⟩
  | accept =>
      exact ⟨.acceptFailed 0, _, guarded_eq_some.mpr ⟨pc, rfl⟩⟩
  | lockAdd newClient =>
      exact ⟨.lockAdd newClient, _,
        guarded_eq_some.mpr ⟨⟨pc, free pc rfl⟩, rfl⟩⟩
  | add newClient =>
      exact ⟨.add newClient, _, guarded_eq_some.mpr ⟨pc, rfl⟩⟩
  | lockStop =>
      exact ⟨.lockStop, _,
        guarded_eq_some.mpr ⟨⟨pc, free pc rfl⟩, rfl⟩⟩
  | closeAll =>
      exact ⟨.closeAll, _, guarded_eq_some.mpr ⟨pc, rfl⟩⟩
  | lockKill =>
      exact ⟨.lockKill, _,
        guarded_eq_some.mpr ⟨⟨pc, free pc rfl⟩, rfl⟩⟩
  | kill =>
      exact ⟨.kill, _, guarded_eq_some.mpr ⟨pc, rfl⟩⟩
  | unlockStop =>
      exact ⟨.unlockStop, _, guarded_eq_some.mpr ⟨pc, rfl⟩⟩
  | returned =>
      exact absurd pc notReturned

/-- The sending thread moves unless it has returned or is blocked. -/
theorem send_moves
    (notReturned : state.senderPc ≠ .returned)
    (unblocked :
      ∀ mutex,
        state.requests .sendMessages = some mutex →
          state.holder mutex = none) :
    ∃ action next,
      state.senderStep? platform action = some next := by
  have free :
      ∀ {pc mutex},
        state.senderPc = pc → pc.requests = some mutex →
          state.holder mutex = none :=
    fun stands blocks =>
      unblocked _ ((congrArg SenderPc.requests stands).trans blocks)
  cases pc : state.senderPc with
  | loop =>
      cases killed : state.killed with
      | true =>
          exact ⟨.leaveLoop, _, guarded_eq_some.mpr ⟨⟨pc, killed⟩, rfl⟩⟩
      | false =>
          exact ⟨.sleep, _, guarded_eq_some.mpr ⟨⟨pc, killed⟩, rfl⟩⟩
  | lockQueue =>
      exact ⟨.lockQueue, _,
        guarded_eq_some.mpr ⟨⟨pc, free pc rfl⟩, rfl⟩⟩
  | nextMessage remaining =>
      cases remaining with
      | nil =>
          exact ⟨.clear, _, guarded_eq_some.mpr ⟨pc, rfl⟩⟩
      | cons message remaining =>
          exact ⟨.serialise message remaining, _,
            guarded_eq_some.mpr ⟨pc, rfl⟩⟩
  | lockSockets message text remaining =>
      exact ⟨.lockSockets message text remaining, _,
        guarded_eq_some.mpr ⟨⟨pc, free pc rfl⟩, rfl⟩⟩
  | writing message text targets remaining =>
      cases targets with
      | nil =>
          exact ⟨.unlockSockets message text remaining, _,
            guarded_eq_some.mpr ⟨pc, rfl⟩⟩
      | cons socket targets =>
          exact ⟨.write message text socket targets remaining .failed, _,
            guarded_eq_some.mpr ⟨pc, rfl⟩⟩
  | unlockQueue =>
      exact ⟨.unlockQueue, _, guarded_eq_some.mpr ⟨pc, rfl⟩⟩
  | returned =>
      exact absurd pc notReturned

/-- A thread that holds a mutex has not returned. -/
theorem HeldInside.not_returned
    (inside : state.HeldInside)
    {thread : Thread}
    {mutex : Mutex}
    (holds : state.holder mutex = some thread) :
    ¬ state.HasReturned thread := by
  intro returned
  have member := inside mutex thread holds
  cases thread with
  | listen =>
      change mutex ∈ state.listenPc.held at member
      rw [show state.listenPc = .returned from returned] at member
      contradiction
  | sendMessages =>
      change mutex ∈ state.senderPc.held at member
      rw [show state.senderPc = .returned from returned] at member
      contradiction

/-- A thread that neither has returned nor waits for another one moves. -/
theorem moves
    (alive : state.fault = none)
    {thread : Thread}
    (notReturned : ¬ state.HasReturned thread)
    (waitsForNone :
      ∀ other,
        ¬ WaitsFor state.requests state.holder thread other) :
    ∃ label next, state.step? platform label = some next := by
  have unblocked :
      ∀ mutex,
        state.requests thread = some mutex →
          state.holder mutex = none := by
    intro mutex blocks
    cases held : state.holder mutex with
    | none =>
        rfl
    | some other =>
        exact (waitsForNone other ⟨mutex, blocks, held⟩).elim
  cases thread with
  | listen =>
      obtain ⟨action, next, taken⟩ :=
        @listen_moves platform state notReturned unblocked
      exact ⟨.listen action, next, by rw [step?, if_pos alive, taken]⟩
  | sendMessages =>
      obtain ⟨action, next, taken⟩ :=
        @send_moves platform state notReturned unblocked
      exact ⟨.send action, next, by rw [step?, if_pos alive, taken]⟩

/-- A living process moves until both of its threads have returned. -/
theorem process_moves
    {descriptors : List Nat}
    {labels : List ServerLabel}
    (reached :
      run? (step? platform) (Server.initial descriptors) labels =
        some state)
    (alive : state.fault = none)
    {thread : Thread}
    (notReturned : ¬ state.HasReturned thread) :
    ∃ label next, state.step? platform label = some next := by
  have inside := HeldInside.of_run reached
  obtain ⟨ready, chain, waitsForNone⟩ :=
    inside.ordered.exists_ready thread
  rcases Relation.ReflTransGen.cases_tail chain with
    rfl | ⟨last, _, _, _, holds⟩
  · exact moves alive notReturned waitsForNone
  · exact moves alive (inside.not_returned holds) waitsForNone

end Progress

end Server

end ChatRelay
