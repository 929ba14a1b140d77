import Mathlib.Data.List.Basic
import ChatRelay.ServerSteps

namespace ChatRelay

/-!
# The mutexes of the server

Where a thread stands decides which mutexes it holds.  In particular the two
threads are never inside critical sections of the same mutex.
-/

/-- The listening thread is inside a section of `socketsLock`. -/
def ListenPc.holdsSockets : ListenPc → Bool
  | .remove _ =>
      true
  | .visitLogin _ _ =>
      true
  | .associate _ _ _ =>
      true
  | .add _ =>
      true
  | .closeAll =>
      true
  | .lockKill =>
      true
  | .kill =>
      true
  | .unlockStop =>
      true
  | _ =>
      false

/-- The listening thread is inside a section of `messageQueueLock`. -/
def ListenPc.holdsQueue : ListenPc → Bool
  | .pushBack _ _ =>
      true
  | _ =>
      false

/-- The sending thread is inside a section of `socketsLock`. -/
def SenderPc.holdsSockets : SenderPc → Bool
  | .writing _ _ _ _ =>
      true
  | _ =>
      false

/-- The sending thread is inside a section of `messageQueueLock`. -/
def SenderPc.holdsQueue : SenderPc → Bool
  | .nextMessage _ =>
      true
  | .lockSockets _ _ _ =>
      true
  | .writing _ _ _ _ =>
      true
  | .unlockQueue =>
      true
  | _ =>
      false

namespace Server

/-- Each mutex is held by the thread that stands inside its section. -/
structure LocksHeld (state : Server) : Prop where
  listen_sockets :
    state.socketsLock = some .listen ↔
      state.listenPc.holdsSockets = true
  send_sockets :
    state.socketsLock = some .sendMessages ↔
      state.senderPc.holdsSockets = true
  listen_queue :
    state.messageQueueLock = some .listen ↔
      state.listenPc.holdsQueue = true
  send_queue :
    state.messageQueueLock = some .sendMessages ↔
      state.senderPc.holdsQueue = true

variable {platform : Platform}
variable {state next : Server}

theorem LocksHeld.initial
    (descriptors : List Nat) :
    LocksHeld (Server.initial descriptors) := by
  constructor <;>
    simp [Server.initial, ListenPc.holdsSockets, ListenPc.holdsQueue,
      SenderPc.holdsSockets, SenderPc.holdsQueue]

/-- While one thread is inside a section of the list, the other is not. -/
theorem LocksHeld.sockets_exclusive
    (locks : state.LocksHeld)
    (listening : state.listenPc.holdsSockets = true) :
    state.senderPc.holdsSockets = false := by
  have held := locks.listen_sockets.mpr listening
  cases holds : state.senderPc.holdsSockets with
  | false =>
      rfl
  | true =>
      rw [locks.send_sockets.mpr holds] at held
      contradiction

/-- While one thread is inside a section of the queue, the other is not. -/
theorem LocksHeld.queue_exclusive
    (locks : state.LocksHeld)
    (listening : state.listenPc.holdsQueue = true) :
    state.senderPc.holdsQueue = false := by
  have held := locks.listen_queue.mpr listening
  cases holds : state.senderPc.holdsQueue with
  | false =>
      rfl
  | true =>
      rw [locks.send_queue.mpr holds] at held
      contradiction

/-- Every step that throws nothing keeps the mutexes where they belong. -/
theorem LocksHeld.step
    {label : ServerLabel}
    (locks : state.LocksHeld)
    (step : Step platform state label next)
    (alive : next.fault = none) :
    next.LocksHeld := by
  obtain ⟨listenSockets, sendSockets, listenQueue, sendQueue⟩ := locks
  cases step with
  | listen step =>
      cases step with
      | readClosed | readMessageThrows | readThrows |
        visitLoginThrows | writeThrows | acceptFailed =>
          simp [throw] at alive
      | @remove socket pc =>
          obtain ⟨_, _, _, _, removed⟩ :=
            @removeEntry_frame state socket
          rw [removed]
          constructor <;>
            simp_all [ListenPc.holdsSockets, ListenPc.holdsQueue]
      | closeAll pc =>
          obtain ⟨_, _, closed⟩ :=
            @closeSockets_frame state (state.sockets.map Prod.fst)
          rw [closed]
          constructor <;>
            simp_all [ListenPc.holdsSockets, ListenPc.holdsQueue]
      | _ =>
          constructor <;>
            simp_all [ListenPc.holdsSockets, ListenPc.holdsQueue,
              setSocket]
  | send step =>
      cases step with
      | writeThrows | serialiseThrows =>
          simp [throw] at alive
      | _ =>
          constructor <;>
            simp_all [SenderPc.holdsSockets, SenderPc.holdsQueue,
              setSocket]

/-- In every run the mutexes of a living process are where they belong. -/
theorem LocksHeld.of_run
    {descriptors : List Nat}
    {labels : List ServerLabel}
    (reached :
      LabelledRun.run? (step? platform) (Server.initial descriptors)
        labels = some state)
    (alive : state.fault = none) :
    state.LocksHeld := by
  have keeps : state.fault = none → state.LocksHeld := by
    refine @LabelledRun.stateInvariant _ _ _ _
      (fun state => state.fault = none → state.LocksHeld)
      ?_ ?_ _ _ reached
    · exact fun _ => .initial descriptors
    · intro state label next locks taken
      obtain ⟨before, step⟩ := step?_sound taken
      exact (locks before).step step
  exact keeps alive

end Server

end ChatRelay
