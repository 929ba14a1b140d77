import Mathlib.Data.List.Basic
import ChatRelay.ClientDisplayOrder

namespace ChatRelay.Client

/-!
# Activities that carry other rows

The activity looks at the kind of a row and at nothing else of it.  So the rows
may be replaced throughout: the activity goes on in the same way with the other
rows, and nothing that it can do then was impossible before.
-/

open LabelledRun
open RequestFraming (ClientRequest)

variable {DateTime Login Chat OtherLogin OtherChat : Type}
variable (f : Login → OtherLogin) (g : Chat → OtherChat)

/-- Replace what a row carries. -/
def Row.map : Row Login Chat → Row OtherLogin OtherChat
  | .login response =>
      .login (f response)
  | .message chat =>
      .message (g chat)

/-- Replace what a posted row carries; the `Object[]` stays the same. -/
def Display.map
    (obj : Display Login Chat) :
    Display OtherLogin OtherChat where
  ref := obj.ref
  row := obj.row.map f g

/-- Replace the row of a handler message. -/
def HandlerMessage.map :
    HandlerMessage Login Chat → HandlerMessage OtherLogin OtherChat
  | .SendMessage obj =>
      .SendMessage obj
  | .ExpectingLogin =>
      .ExpectingLogin
  | .SocketAWOL =>
      .SocketAWOL
  | .DisplayError obj =>
      .DisplayError obj
  | .Display obj =>
      .Display (obj.map f g)

/-- Replace the row that waits for the main thread. -/
def MainTask.map :
    MainTask DateTime Login Chat →
      MainTask DateTime OtherLogin OtherChat
  | .handleMessage inputMessage =>
      .handleMessage (inputMessage.map f g)
  | .connectPostExecute connection req result =>
      .connectPostExecute connection req result
  | .sendPostExecute connection message result =>
      .sendPostExecute connection message result

/-- Replace the row that waits for the background executor. -/
def BackgroundTask.map :
    BackgroundTask DateTime Login Chat →
      BackgroundTask DateTime OtherLogin OtherChat
  | .socketConnect connection req =>
      .socketConnect connection req
  | .send connection message =>
      .send connection message
  | .resend obj =>
      .resend (obj.map f g)

/-- Replace the rows of a step. -/
def ActivityLabel.map :
    ActivityLabel DateTime Login Chat →
      ActivityLabel DateTime OtherLogin OtherChat
  | .login mDateTime mSender =>
      .login mDateTime mSender
  | .clickSend text =>
      .clickSend text
  | .onRoomReady =>
      .onRoomReady
  | .main task now =>
      .main (task.map f g) now
  | .join connection =>
      .join connection
  | .background task result =>
      .background (task.map f g) result
  | .visitRow connection row =>
      .visitRow connection (row.map f g)
  | .visitError connection message =>
      .visitError connection message
  | .readFails connection message =>
      .readFails connection message
  | .reportLost connection =>
      .reportLost connection
  | .stopReading connection =>
      .stopReading connection

namespace Activity

/-- Replace the rows of an activity. -/
def map
    (state : Activity DateTime Login Chat) :
    Activity DateTime OtherLogin OtherChat where
  loggedIn := state.loggedIn
  expectingLogin := state.expectingLogin
  roomReady := state.roomReady
  username := state.username
  mConnection := state.mConnection
  mRoomFragment := state.mRoomFragment
  fragmentRoot := state.fragmentRoot
  connections := state.connections
  nextConnection := state.nextConnection
  nextFragment := state.nextFragment
  nextObject := state.nextObject
  mainQueue := state.mainQueue.map fun task => task.map f g
  executor := state.executor.map fun task => task.map f g
  joining := state.joining
  rows := state.rows.map fun row => (row.1, row.2.map f g)
  crashed := state.crashed

variable {f g}
variable (state : Activity DateTime Login Chat)

/-! ### The functions of the activity -/

@[simp] theorem map_sendMessage (msg : HandlerMessage Login Chat) :
    (state.sendMessage msg).map f g =
      (state.map f g).sendMessage (msg.map f g) := by
  simp [sendMessage, map, MainTask.map]

@[simp] theorem map_execute (task : BackgroundTask DateTime Login Chat) :
    (state.execute task).map f g =
      (state.map f g).execute (task.map f g) := by
  simp [execute, map]

@[simp] theorem map_crash :
    state.crash.map f g = (state.map f g).crash :=
  rfl

@[simp] theorem map_setConnection
    (connection : Nat)
    (fields : Connection) :
    (state.setConnection connection fields).map f g =
      (state.map f g).setConnection connection fields :=
  rfl

@[simp] theorem map_closeConnection :
    state.closeConnection.map f g =
      (state.map f g).closeConnection := by
  have connected : (state.map f g).mConnection = state.mConnection :=
    rfl
  have fields : (state.map f g).connections = state.connections :=
    rfl
  unfold closeConnection
  rw [connected, fields]
  cases state.mConnection with
  | none =>
      rfl
  | some connection =>
      dsimp only
      split <;> rfl

@[simp] theorem map_closed (connection : Nat) :
    (state.closed connection).map f g =
      (state.map f g).closed connection :=
  rfl

@[simp] theorem map_onSendError
    (message : ClientRequest DateTime)
    (text : String) :
    (state.onSendError message text).map f g =
      (state.map f g).onSendError message text := by
  cases message <;> simp [onSendError, HandlerMessage.map]

@[simp] theorem map_onSendSuccess (message : ClientRequest DateTime) :
    (state.onSendSuccess message).map f g =
      (state.map f g).onSendSuccess message := by
  cases message with
  | LoginRequest mDateTime mSender =>
      simp only [onSendSuccess, map_sendMessage]
      rfl
  | MessageRequest mDateTime mSender mContent =>
      rfl

@[simp] theorem map_send (message : ClientRequest DateTime) :
    (state.send message).map f g = (state.map f g).send message := by
  have connected : (state.map f g).mConnection = state.mConnection :=
    rfl
  have fields : (state.map f g).connections = state.connections :=
    rfl
  unfold send
  rw [connected, fields]
  cases state.mConnection with
  | none =>
      rfl
  | some connection =>
      dsimp only
      split <;> simp [BackgroundTask.map]

@[simp] theorem map_showRoomFragment :
    state.showRoomFragment.map f g =
      (state.map f g).showRoomFragment :=
  rfl

@[simp] theorem map_acceptLogin :
    state.acceptLogin.map f g = (state.map f g).acceptLogin := by
  have loggedIn : (state.map f g).loggedIn = state.loggedIn :=
    rfl
  have expecting :
      (state.map f g).expectingLogin = state.expectingLogin :=
    rfl
  unfold acceptLogin
  rw [loggedIn, expecting]
  split <;> rfl

@[simp] theorem map_display (obj : Display Login Chat) :
    (state.display obj).map f g =
      (state.map f g).display (obj.map f g) := by
  have ready : (state.map f g).roomReady = state.roomReady :=
    rfl
  have room : (state.map f g).mRoomFragment = state.mRoomFragment :=
    rfl
  unfold display
  rw [ready, room]
  split
  · cases state.mRoomFragment with
    | none =>
        rfl
    | some fragment =>
        simp [map]
  · simp [BackgroundTask.map]

@[simp] theorem map_handleMessage
    (now : DateTime)
    (inputMessage : HandlerMessage Login Chat) :
    (state.handleMessage now inputMessage).map f g =
      (state.map f g).handleMessage now (inputMessage.map f g) := by
  cases inputMessage with
  | SendMessage obj =>
      exact map_send state _
  | ExpectingLogin =>
      rfl
  | SocketAWOL =>
      exact map_closeConnection _
  | DisplayError obj =>
      rfl
  | Display obj =>
      obtain ⟨ref, row⟩ := obj
      cases row with
      | login response =>
          exact (map_display _ _).trans
            (congrArg (fun state => display state _)
              (map_acceptLogin state))
      | message chat =>
          exact map_display state _

@[simp] theorem map_runMain
    (now : DateTime)
    (task : MainTask DateTime Login Chat) :
    (state.runMain now task).map f g =
      (state.map f g).runMain now (task.map f g) := by
  cases task with
  | handleMessage inputMessage =>
      exact map_handleMessage state now inputMessage
  | connectPostExecute connection req result =>
      cases result with
      | error text =>
          exact map_sendMessage state _
      | ok done =>
          exact map_send _ req
  | sendPostExecute connection message result =>
      cases result with
      | error text =>
          exact map_onSendError state message text
      | ok done =>
          exact map_onSendSuccess state message

@[simp] theorem map_runBackground
    (task : BackgroundTask DateTime Login Chat)
    (result : Except String Unit) :
    (state.runBackground task result).map f g =
      (state.map f g).runBackground (task.map f g) result := by
  cases task with
  | socketConnect connection req =>
      simp [runBackground, BackgroundTask.map, map, MainTask.map,
        setConnection]
  | send connection message =>
      simp [runBackground, BackgroundTask.map, map, MainTask.map]
  | resend obj =>
      exact map_sendMessage state _

@[simp] theorem map_login (req : ClientRequest DateTime) :
    (state.login req).map f g = (state.map f g).login req :=
  map_execute _ _

@[simp] theorem map_visitRow (row : Row Login Chat) :
    (state.visitRow row).map f g =
      (state.map f g).visitRow (row.map f g) :=
  map_sendMessage _ _

/-! ### The rows of the activity -/

theorem waitingRows_map :
    (state.map f g).waitingRows =
      state.waitingRows.map (Display.map f g) := by
  unfold waitingRows map
  rw [List.filterMap_map, List.map_filterMap]
  congr 1
  funext task
  rcases task with (_ | _ | _ | _ | _) | _ | _ <;> rfl

theorem stalledRows_map :
    (state.map f g).stalledRows =
      state.stalledRows.map (Display.map f g) := by
  unfold stalledRows map
  rw [List.filterMap_map, List.map_filterMap]
  congr 1
  funext task
  cases task <;> rfl

theorem shownRows_map :
    (state.map f g).shownRows =
      state.shownRows.map (Display.map f g) := by
  unfold shownRows map
  simp

/-! ### The steps of the activity -/

section Steps

variable [DecidableEq DateTime]
variable [DecidableEq Login] [DecidableEq Chat]
variable [DecidableEq OtherLogin] [DecidableEq OtherChat]
variable {state}

/-- Another row is posted as the row that it replaces. -/
theorem step?_visitRow_of_map
    {connection : Nat}
    {row : Row Login Chat}
    {next : Activity DateTime OtherLogin OtherChat}
    (taken :
      step? (state.map f g) (.visitRow connection (row.map f g)) =
        some next) :
    ∃ after,
      step? state (.visitRow connection row) = some after ∧
        after.map f g = next := by
  obtain ⟨enabled, rfl⟩ := guarded_eq_some.mp taken
  exact ⟨_, guarded_eq_some.mpr ⟨enabled, rfl⟩, map_visitRow state row⟩

/-- What an activity with other rows can do, it could do before. -/
theorem step?_of_map
    {label : ActivityLabel DateTime OtherLogin OtherChat}
    {next : Activity DateTime OtherLogin OtherChat}
    (taken : step? (state.map f g) label = some next)
    (noRow : ∀ connection row, label ≠ .visitRow connection row) :
    ∃ own after,
      own.map f g = label ∧
        step? state own = some after ∧
          after.map f g = next := by
  cases label with
  | main task now =>
      obtain ⟨⟨responsive, first⟩, rfl⟩ := guarded_eq_some.mp taken
      obtain ⟨own, isFirst, rfl⟩ :
          ∃ own, state.mainQueue.head? = some own ∧
            own.map f g = task := by
        rw [map, List.head?_map] at first
        exact Option.map_eq_some_iff.mp first
      refine ⟨.main own now, _, rfl,
        guarded_eq_some.mpr ⟨⟨responsive, isFirst⟩, rfl⟩, ?_⟩
      rw [map_runMain]
      congr 1
      simp [map]
  | background task result =>
      obtain ⟨⟨alive, first, ends⟩, rfl⟩ := guarded_eq_some.mp taken
      obtain ⟨own, isFirst, rfl⟩ :
          ∃ own, state.executor.head? = some own ∧
            own.map f g = task := by
        rw [map, List.head?_map] at first
        exact Option.map_eq_some_iff.mp first
      have ownEnds : state.CanEnd own result := by
        cases own <;> cases result <;> exact ends
      refine ⟨.background own result, _, rfl,
        guarded_eq_some.mpr ⟨⟨alive, isFirst, ownEnds⟩, rfl⟩, ?_⟩
      rw [map_runBackground]
      congr 1
      simp [map]
  | visitRow connection row =>
      exact (noRow connection row rfl).elim
  | login mDateTime mSender =>
      obtain ⟨enabled, rfl⟩ := guarded_eq_some.mp taken
      exact ⟨.login mDateTime mSender, _, rfl,
        guarded_eq_some.mpr ⟨enabled, rfl⟩, map_login state _⟩
  | clickSend text =>
      obtain ⟨enabled, rfl⟩ := guarded_eq_some.mp taken
      exact ⟨.clickSend text, _, rfl,
        guarded_eq_some.mpr ⟨enabled, rfl⟩, map_sendMessage state _⟩
  | onRoomReady =>
      obtain ⟨enabled, rfl⟩ := guarded_eq_some.mp taken
      exact ⟨.onRoomReady, _, rfl,
        guarded_eq_some.mpr ⟨enabled, rfl⟩, rfl⟩
  | join connection =>
      obtain ⟨enabled, rfl⟩ := guarded_eq_some.mp taken
      exact ⟨.join connection, _, rfl,
        guarded_eq_some.mpr ⟨enabled, rfl⟩, rfl⟩
  | visitError connection message =>
      obtain ⟨enabled, rfl⟩ := guarded_eq_some.mp taken
      exact ⟨.visitError connection message, _, rfl,
        guarded_eq_some.mpr ⟨enabled, rfl⟩, map_sendMessage state _⟩
  | readFails connection message =>
      obtain ⟨enabled, rfl⟩ := guarded_eq_some.mp taken
      exact ⟨.readFails connection message, _, rfl,
        guarded_eq_some.mpr ⟨enabled, rfl⟩, map_sendMessage _ _⟩
  | reportLost connection =>
      obtain ⟨enabled, rfl⟩ := guarded_eq_some.mp taken
      exact ⟨.reportLost connection, _, rfl,
        guarded_eq_some.mpr ⟨enabled, rfl⟩, map_sendMessage _ _⟩
  | stopReading connection =>
      obtain ⟨enabled, rfl⟩ := guarded_eq_some.mp taken
      exact ⟨.stopReading connection, _, rfl,
        guarded_eq_some.mpr ⟨enabled, rfl⟩, rfl⟩

end Steps

end Activity

end ChatRelay.Client
