import Mathlib.Data.List.Basic
import Mathlib.Data.List.Nodup
import ChatRelay.ClientActivity
import ChatRelay.DeferredQueue

namespace ChatRelay.Client.Activity

/-!
# The order in which rows are shown

The rows of a client form a queue that puts items off: a row is posted when the
reader visits it, handled when the room is ready, and put off to a background
task when it is not.  No row is lost or doubled.  A row is overtaken only by one
that was put off less often.
-/

open LabelledRun
open DeferredQueue
open QueueEvent (posted?)
open scoped List

variable {DateTime Login Chat : Type}

/-- The row that the reader thread posts. -/
def visitedRow? :
    ActivityLabel DateTime Login Chat → Option (Row Login Chat)
  | .visitRow _ row =>
      some row
  | _ =>
      none

/-- The rows posted in a run, in order. -/
def postedRows
    (labels : List (ActivityLabel DateTime Login Chat)) :
    List (Display Login Chat) :=
  (labels.filterMap visitedRow?).mapIdx Display.mk

/-- The rows handed to the room fragment. -/
def shownRows
    (state : Activity DateTime Login Chat) :
    List (Display Login Chat) :=
  state.rows.map Prod.snd

/-- The rows of the client as a queue. -/
def queue
    (state : Activity DateTime Login Chat) :
    DeferredQueue (Display Login Chat) :=
  ⟨state.shownRows, state.waitingRows, state.stalledRows⟩

/-- What a step does to the rows. -/
def queueEvent
    (state : Activity DateTime Login Chat) :
    ActivityLabel DateTime Login Chat →
      QueueEvent (Display Login Chat)
  | .visitRow _ row =>
      .post ⟨state.nextObject, row⟩
  | .main (.handleMessage (.Display obj)) _ =>
      if state.roomReady then .handle obj else .putOff obj
  | .background (.resend obj) _ =>
      .repost obj
  | _ =>
      .quiet

/-- The fragment that has signalled that it is ready exists. -/
def RoomExists (state : Activity DateTime Login Chat) : Prop :=
  state.roomReady = true → state.mRoomFragment.isSome = true

section Steps

variable {state next : Activity DateTime Login Chat}

theorem Keeps.queue (kept : Keeps state next) :
    next.queue = state.queue := by
  unfold Activity.queue shownRows
  rw [kept.rows, kept.waitingRows, kept.stalledRows]

theorem Keeps.roomExists
    (kept : Keeps state next)
    (roomExists : RoomExists state) :
    RoomExists next := by
  unfold RoomExists
  rw [kept.roomReady, kept.mRoomFragment]
  exact roomExists

/-- The first thing in the queue of the main thread is in front of the rest. -/
theorem waitingRows_cons
    {task : MainTask DateTime Login Chat}
    (first : state.mainQueue.head? = some task) :
    state.waitingRows =
      (waitingRow? task).toList ++
        waitingRows { state with mainQueue := state.mainQueue.tail } := by
  obtain ⟨rest, isQueue⟩ := List.head?_eq_some_iff.mp first
  unfold waitingRows
  rw [isQueue, List.filterMap_cons]
  cases waitingRow? task <;> rfl

/-- So is the first task of the executor. -/
theorem stalledRows_cons
    {task : BackgroundTask DateTime Login Chat}
    (first : state.executor.head? = some task) :
    state.stalledRows =
      (stalledRow? task).toList ++
        stalledRows { state with executor := state.executor.tail } := by
  obtain ⟨rest, isExecutor⟩ := List.head?_eq_some_iff.mp first
  unfold stalledRows
  rw [isExecutor, List.filterMap_cons]
  cases stalledRow? task <;> rfl

/-- A step that keeps the rows is quiet. -/
theorem quietStep (same : next.queue = state.queue) :
    Step state.queue .quiet next.queue := by
  rw [same]
  exact .quiet _

/-- The main thread handles a row or puts it off. -/
theorem row_step
    {now : DateTime}
    {obj : Display Login Chat}
    (roomExists : RoomExists state)
    (first :
      state.mainQueue.head? =
        some (.handleMessage (.Display obj)))
    (isNext :
      next =
        { state with mainQueue := state.mainQueue.tail }.runMain now
          (.handleMessage (.Display obj))) :
    Step state.queue
        (if state.roomReady then .handle obj else .putOff obj)
        next.queue ∧
      RoomExists next := by
  have handles :=
    runMain_row { state with mainQueue := state.mainQueue.tail } now obj
  rw [← isNext] at handles
  have waiting : state.waitingRows = obj :: next.waitingRows := by
    rw [handles.waitingRows]
    exact waitingRows_cons first
  refine ⟨?_, ?_⟩
  · unfold queue
    rw [waiting]
    cases ready : state.roomReady with
    | true =>
        have shown := handles.shown ready (roomExists ready)
        have isShown : next.shownRows = state.shownRows ++ [obj] :=
          shown.1
        have isStalled : next.stalledRows = state.stalledRows :=
          shown.2
        rw [isShown, isStalled]
        exact .handle ..
    | false =>
        have stalled := handles.stalled ready
        have isShown : next.shownRows = state.shownRows :=
          congrArg (List.map Prod.snd) stalled.1
        have isStalled : next.stalledRows = state.stalledRows ++ [obj] :=
          stalled.2
        rw [isShown, isStalled]
        exact .putOff ..
  · intro ready
    rw [handles.roomReady] at ready
    exact handles.mRoomFragment (roomExists ready)

/-- Everything else the main thread runs leaves the rows alone. -/
theorem task_step
    {now : DateTime}
    {task : MainTask DateTime Login Chat}
    (noRow : waitingRow? task = none)
    (roomExists : RoomExists state)
    (first : state.mainQueue.head? = some task)
    (isNext :
      next =
        { state with mainQueue := state.mainQueue.tail }.runMain now
          task) :
    next.queue = state.queue ∧ RoomExists next := by
  have sameWaiting :
      waitingRows { state with mainQueue := state.mainQueue.tail } =
        state.waitingRows := by
    rw [waitingRows_cons first, noRow]
    rfl
  have sameQueue :
      queue { state with mainQueue := state.mainQueue.tail } =
        state.queue := by
    unfold queue
    rw [sameWaiting]
    rfl
  rcases task_cases task with ⟨obj, rfl⟩ | rfl | ⟨_, notLost⟩
  · contradiction
  · have kept :=
      runMain_lost { state with mainQueue := state.mainQueue.tail } now
    rw [← isNext] at kept
    refine ⟨kept.queue.trans sameQueue, kept.roomExists ?_⟩
    intro ready
    contradiction
  · have kept :=
      runMain_keeps { state with mainQueue := state.mainQueue.tail }
        now noRow notLost
    rw [← isNext] at kept
    exact ⟨kept.queue.trans sameQueue, kept.roomExists roomExists⟩

theorem queueEvent_quiet
    {now : DateTime}
    {task : MainTask DateTime Login Chat}
    (noRow : waitingRow? task = none) :
    state.queueEvent (.main task now) = .quiet := by
  cases task with
  | handleMessage inputMessage =>
      cases inputMessage <;> first | rfl | contradiction
  | connectPostExecute connection req result =>
      rfl
  | sendPostExecute connection message result =>
      rfl

/-- A background task posts its row again, if it has one. -/
theorem background_step
    {task : BackgroundTask DateTime Login Chat}
    {result : Except String Unit}
    (roomExists : RoomExists state)
    (first : state.executor.head? = some task)
    (isNext :
      next =
        { state with executor := state.executor.tail }.runBackground
          task result) :
    Step state.queue
        (state.queueEvent (.background task result))
        next.queue ∧
      RoomExists next := by
  have stalled := stalledRows_cons first
  have others
      (noRow : stalledRow? task = none) :
      next.queue = state.queue ∧ RoomExists next := by
    have kept :=
      runBackground_keeps
        { state with executor := state.executor.tail } noRow result
    rw [← isNext] at kept
    rw [noRow] at stalled
    have sameStalled : next.stalledRows = state.stalledRows :=
      kept.stalledRows.trans stalled.symm
    refine ⟨?_, kept.roomExists roomExists⟩
    unfold queue shownRows
    rw [kept.rows, kept.waitingRows, sameStalled]
    rfl
  cases task with
  | resend obj =>
      rw [isNext]
      refine ⟨?_, roomExists⟩
      unfold queue runBackground
      rw [waitingRows_sendMessage, stalled]
      exact .repost ..
  | socketConnect connection req =>
      have same := others rfl
      exact ⟨quietStep same.1, same.2⟩
  | send connection message =>
      have same := others rfl
      exact ⟨quietStep same.1, same.2⟩

variable [DecidableEq DateTime] [DecidableEq Login] [DecidableEq Chat]

/-- A step of the client is a step of the queue. -/
theorem queue_step
    {label : ActivityLabel DateTime Login Chat}
    (roomExists : RoomExists state)
    (taken : step? state label = some next) :
    Step state.queue (state.queueEvent label) next.queue ∧
      RoomExists next := by
  have quiet :
      Keeps state next →
      Step state.queue .quiet next.queue ∧ RoomExists next :=
    fun kept => ⟨quietStep kept.queue, kept.roomExists roomExists⟩
  cases label with
  | login mDateTime mSender =>
      obtain ⟨_, rfl⟩ := guarded_eq_some.mp taken
      refine ⟨quietStep ?_, roomExists⟩
      exact (execute_keeps _ rfl).queue
  | clickSend text =>
      obtain ⟨_, rfl⟩ := guarded_eq_some.mp taken
      exact quiet (state.sendMessage_keeps rfl)
  | onRoomReady =>
      obtain ⟨⟨_, room⟩, rfl⟩ := guarded_eq_some.mp taken
      exact ⟨quietStep rfl, fun _ => room⟩
  | main task now =>
      obtain ⟨⟨_, first⟩, isNext⟩ := guarded_eq_some.mp taken
      rcases task_cases task with ⟨obj, rfl⟩ | rfl | ⟨noRow, notLost⟩
      · exact row_step roomExists first isNext
      · have same := task_step rfl roomExists first isNext
        exact ⟨quietStep same.1, same.2⟩
      · have same := task_step noRow roomExists first isNext
        refine ⟨?_, same.2⟩
        rw [queueEvent_quiet noRow]
        exact quietStep same.1
  | join connection =>
      obtain ⟨_, rfl⟩ := guarded_eq_some.mp taken
      exact ⟨quietStep rfl, roomExists⟩
  | background task result =>
      obtain ⟨⟨_, first, _⟩, isNext⟩ := guarded_eq_some.mp taken
      exact background_step roomExists first isNext
  | visitRow connection row =>
      obtain ⟨_, rfl⟩ := guarded_eq_some.mp taken
      refine ⟨?_, roomExists⟩
      unfold queue visitRow
      rw [waitingRows_sendMessage]
      exact .post ..
  | visitError connection message =>
      obtain ⟨_, rfl⟩ := guarded_eq_some.mp taken
      exact quiet (state.sendMessage_keeps rfl)
  | readFails connection message =>
      obtain ⟨_, rfl⟩ := guarded_eq_some.mp taken
      exact quiet
        ((state.setConnection_keeps connection _).trans
          (sendMessage_keeps _ rfl))
  | reportLost connection =>
      obtain ⟨_, rfl⟩ := guarded_eq_some.mp taken
      exact quiet
        ((state.setConnection_keeps connection _).trans
          (sendMessage_keeps _ rfl))
  | stopReading connection =>
      obtain ⟨_, rfl⟩ := guarded_eq_some.mp taken
      exact quiet (state.setConnection_keeps connection _)

end Steps

/-! ### The rows of a run -/

section Posted

variable
  {past : List (ActivityLabel DateTime Login Chat)}
  {state : Activity DateTime Login Chat}
  {label : ActivityLabel DateTime Login Chat}

/-- The rows carry the references 0, 1, 2 and so on. -/
theorem postedRows_refs
    (labels : List (ActivityLabel DateTime Login Chat)) :
    (postedRows labels).map Display.ref =
      List.range (postedRows labels).length := by
  apply List.ext_getElem
  · simp
  · intro index _ _
    simp [postedRows]

/-- Rows posted at different times are different objects. -/
theorem postedRows_nodup
    (labels : List (ActivityLabel DateTime Login Chat)) :
    (postedRows labels).Nodup := by
  apply List.Nodup.of_map Display.ref
  rw [postedRows_refs]
  exact List.nodup_range

theorem ref_lt_of_posted
    {labels : List (ActivityLabel DateTime Login Chat)}
    {obj : Display Login Chat}
    (posted : obj ∈ postedRows labels) :
    obj.ref < (postedRows labels).length := by
  have isRef := List.mem_map_of_mem (f := Display.ref) posted
  rw [postedRows_refs] at isRef
  exact List.mem_range.mp isRef

theorem postedRows_concat :
    postedRows (past ++ [label]) =
      postedRows past ++
        ((visitedRow? label).map
          (Display.mk (postedRows past).length)).toList := by
  unfold postedRows
  rw [List.filterMap_append, List.mapIdx_append]
  cases visited : visitedRow? label <;> simp [visited]

/-- What the queue is given is the row that the reader visits. -/
theorem posted?_queueEvent
    (state : Activity DateTime Login Chat)
    (label : ActivityLabel DateTime Login Chat) :
    posted? (state.queueEvent label) =
      (visitedRow? label).map (Display.mk state.nextObject) := by
  cases label with
  | main task now =>
      rcases task_cases task with ⟨obj, rfl⟩ | rfl | ⟨noRow, _⟩
      · cases ready : state.roomReady <;>
          simp [queueEvent, ready, posted?, visitedRow?]
      · rfl
      · rw [queueEvent_quiet noRow]
        rfl
  | background task result =>
      cases task <;> rfl
  | _ =>
      rfl

end Posted

variable [DecidableEq DateTime] [DecidableEq Login] [DecidableEq Chat]

/-- What the steps of a run have done to the rows. -/
def queueEvents
    (labels : List (ActivityLabel DateTime Login Chat)) :
    List (QueueEvent (Display Login Chat)) :=
  trace step? queueEvent onCreate labels

/-- How often a row was handled while the room was not ready. -/
def stalls
    (labels : List (ActivityLabel DateTime Login Chat))
    (obj : Display Login Chat) : Nat :=
  laps (queueEvents labels) obj

/-- The history of the queue is that of the run. -/
structure DisplayInvariant
    (labels : List (ActivityLabel DateTime Login Chat))
    (state : Activity DateTime Login Chat) : Prop where
  roomExists : RoomExists state
  nextObject : state.nextObject = (postedRows labels).length
  history : Invariant (queueEvents labels) state.queue
  samePosted : posted (queueEvents labels) = postedRows labels

section Run

variable
  {past : List (ActivityLabel DateTime Login Chat)}
  {state next : Activity DateTime Login Chat}
  {label : ActivityLabel DateTime Login Chat}

/-- The reader alone creates objects. -/
theorem nextObject_step
    (taken : step? state label = some next) :
    next.nextObject =
      state.nextObject + (visitedRow? label).toList.length := by
  cases label with
  | main task now =>
      obtain ⟨_, rfl⟩ := guarded_eq_some.mp taken
      rcases task_cases task with ⟨obj, rfl⟩ | rfl | ⟨noRow, notLost⟩
      · exact (runMain_row _ now obj).nextObject
      · exact (runMain_lost _ now).nextObject
      · exact (runMain_keeps _ now noRow notLost).nextObject
  | background task result =>
      obtain ⟨_, rfl⟩ := guarded_eq_some.mp taken
      cases task <;> rfl
  | _ =>
      obtain ⟨_, rfl⟩ := guarded_eq_some.mp taken
      rfl

theorem displayInvariant_step
    (reached : run? step? onCreate past = some state)
    (invariant : DisplayInvariant past state)
    (taken : step? state label = some next) :
    DisplayInvariant (past ++ [label]) next := by
  obtain ⟨step, roomExists⟩ := queue_step invariant.roomExists taken
  have events :
      queueEvents (past ++ [label]) =
        queueEvents past ++ [state.queueEvent label] :=
    trace_concat queueEvent reached label
  refine ⟨roomExists, ?_, ?_, ?_⟩
  · rw [nextObject_step taken, invariant.nextObject, postedRows_concat]
    cases visitedRow? label <;> simp
  · rw [events]
    refine invariant.history.step ?_ step
    intro obj isPost inPosted
    rw [invariant.samePosted] at inPosted
    have isNext : obj.ref = state.nextObject := by
      have isPosted := posted?_queueEvent state label
      rw [isPost] at isPosted
      obtain ⟨row, _, rfl⟩ := Option.map_eq_some_iff.mp isPosted.symm
      rfl
    have small := ref_lt_of_posted inPosted
    rw [isNext, invariant.nextObject] at small
    exact Nat.lt_irrefl _ small
  · rw [events, posted_concat, postedRows_concat, invariant.samePosted,
      posted?_queueEvent, invariant.nextObject]

end Run

/--
In every run the rows shown, waiting and stalled are those posted, each once,
and of two rows the one that was posted first is shown first, unless it was
stalled more often than the other one.
-/
theorem rows_shown_in_order
    {labels : List (ActivityLabel DateTime Login Chat)}
    {final : Activity DateTime Login Chat}
    (reached : run? step? onCreate labels = some final) :
    (postedRows labels).Nodup ∧
      (final.shownRows ++ final.waitingRows ++ final.stalledRows).Perm
        (postedRows labels) ∧
      ∀ first second,
        [first, second] <+ postedRows labels →
        second ∈ final.shownRows →
        [first, second] <+ final.shownRows ∨
          stalls labels second < stalls labels first := by
  have initial :
      DisplayInvariant [] (onCreate : Activity DateTime Login Chat) :=
    ⟨fun ready => by contradiction, rfl, .initial, rfl⟩
  have invariant : DisplayInvariant labels final :=
    LabelledRun.invariant initial
      (fun _ _ _ _ reached invariant taken =>
        displayInvariant_step reached invariant taken)
      reached
  refine ⟨postedRows_nodup labels, ?_, ?_⟩
  · rw [← invariant.samePosted]
    exact invariant.history.conserved
  · intro first second inOrder isShown
    rw [← invariant.samePosted] at inOrder
    exact invariant.history.overtaken inOrder isShown

/--
The answer to a login is handled before the room is ready and a message after,
and then the answer comes back.
-/
def messageBeforeLogin : List (ActivityLabel Nat String String) :=
  let login : Display String String := ⟨0, .login "ann"⟩
  logIn 0 "ann" ++ receive 0 login ++
    .onRoomReady :: receive 0 ⟨1, .message "hi"⟩ ++
    [.background (.resend login) (.ok ()),
      .main (.handleMessage (.Display login)) 0]

theorem rows_shown_in_order_messageBeforeLogin :
    let labels := messageBeforeLogin
    ∃ final,
      run? step? onCreate labels = some final ∧
        stalls labels ⟨0, .login "ann"⟩ = 1 ∧
        (postedRows labels).Nodup ∧
        (final.shownRows ++ final.waitingRows ++
          final.stalledRows).Perm (postedRows labels) ∧
        ∀ first second,
          [first, second] <+ postedRows labels →
          second ∈ final.shownRows →
          [first, second] <+ final.shownRows ∨
            stalls labels second < stalls labels first := by
  intro labels
  have finished : (run? step? onCreate labels).isSome = true := by
    decide
  obtain ⟨final, reached⟩ := Option.isSome_iff_exists.mp finished
  exact ⟨final, reached, by decide, rows_shown_in_order reached⟩

/--
A row that waits for the room is overtaken by one posted after it: everything
posted is shown, in another order.
-/
theorem stalled_row_overtaken :
    let labels := messageBeforeLogin
    postedRows labels = [⟨0, .login "ann"⟩, ⟨1, .message "hi"⟩] ∧
      (run? step? onCreate labels).map shownRows =
        some [⟨1, .message "hi"⟩, ⟨0, .login "ann"⟩] := by
  decide

end ChatRelay.Client.Activity
