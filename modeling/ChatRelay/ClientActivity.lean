import Mathlib.Data.List.Basic
import Mathlib.Logic.Function.Basic
import ChatRelay.LabelledRun
import ChatRelay.RequestFraming

namespace ChatRelay.Client

/-!
# The activity of the client

`MainActivity` lives on the main thread: handler messages and the callbacks of
background tasks wait in one queue and are run one after the other, and the
user's clicks and the signal of the room fragment come in between.  Background
tasks run one at a time in the order they were submitted.  Every connection has
a reader thread that posts what it reads.

An event that cannot be shown yet is handed to a background task, which sleeps
and posts it again.  What a response carries is left open: the activity passes
it on to the room fragment, and `RoomScreen` adds what the fragments throw.

Closing a connection blocks the main thread until its reader has stopped; a
step of its own finishes it.
-/

open RequestFraming (ClientRequest)

/-- What `createUserLoginWrapper` and `createMessageWrapper` are given. -/
inductive Row (Login Chat : Type) where
  | login : Login → Row Login Chat
  | message : Chat → Row Login Chat
  deriving Repr, DecidableEq

/-- A posted row; the reference tells one `Object[]` from another. -/
structure Display (Login Chat : Type) where
  ref : Nat
  row : Row Login Chat
  deriving Repr, DecidableEq

/-- The messages of the handler; `Display` is `DisplayLogin` or `DisplayMessage`. -/
inductive HandlerMessage (Login Chat : Type) where
  | SendMessage (obj : String) : HandlerMessage Login Chat
  | ExpectingLogin : HandlerMessage Login Chat
  | SocketAWOL : HandlerMessage Login Chat
  | DisplayError (obj : String) : HandlerMessage Login Chat
  | Display (obj : Display Login Chat) : HandlerMessage Login Chat
  deriving Repr, DecidableEq

/-- What waits for the main thread. -/
inductive MainTask (DateTime Login Chat : Type) where
  | handleMessage (inputMessage : HandlerMessage Login Chat) :
      MainTask DateTime Login Chat
  | connectPostExecute
      (connection : Nat)
      (req : ClientRequest DateTime)
      (result : Except String Unit) :
      MainTask DateTime Login Chat
  | sendPostExecute
      (connection : Nat)
      (message : ClientRequest DateTime)
      (result : Except String Unit) :
      MainTask DateTime Login Chat
  deriving Repr, DecidableEq

/-- What waits for the background executor. -/
inductive BackgroundTask (DateTime Login Chat : Type) where
  | socketConnect
      (connection : Nat)
      (req : ClientRequest DateTime) :
      BackgroundTask DateTime Login Chat
  | send
      (connection : Nat)
      (message : ClientRequest DateTime) :
      BackgroundTask DateTime Login Chat
  | resend (obj : Display Login Chat) :
      BackgroundTask DateTime Login Chat
  deriving Repr, DecidableEq

/-- Where the reader thread of a connection stands. -/
inductive ReadThread where
  | notCreated : ReadThread
  | running : ReadThread
  | reporting : ReadThread
  | ended : ReadThread
  deriving Repr, DecidableEq

/-- A `SocketManager` with its socket and its reader thread. -/
structure Connection where
  isConnected : Bool
  closed : Bool
  readThread : ReadThread
  kill : Bool
  deriving Repr, DecidableEq

/-- What `R.id.fragment_root` was last told to show. -/
inductive Fragment where
  | login : Fragment
  | room (fragment : Nat) : Fragment
  deriving Repr, DecidableEq

/--
The fields of `MainActivity` and of its handler, the objects it has created,
the two queues, the connection whose reader the main thread is joining, and
everything the room fragments were given.
-/
structure Activity (DateTime Login Chat : Type) where
  loggedIn : Bool
  expectingLogin : Bool
  roomReady : Bool
  username : String
  mConnection : Option Nat
  mRoomFragment : Option Nat
  fragmentRoot : Fragment
  connections : Nat → Connection
  nextConnection : Nat
  nextFragment : Nat
  nextObject : Nat
  mainQueue : List (MainTask DateTime Login Chat)
  executor : List (BackgroundTask DateTime Login Chat)
  joining : Option Nat
  rows : List (Nat × Display Login Chat)
  crashed : Bool

namespace Activity

variable {DateTime Login Chat : Type}

/-- The activity after `onCreate`. -/
def onCreate : Activity DateTime Login Chat where
  loggedIn := false
  expectingLogin := false
  roomReady := false
  username := ""
  mConnection := none
  mRoomFragment := none
  fragmentRoot := .login
  connections := fun _ => ⟨false, false, .notCreated, false⟩
  nextConnection := 0
  nextFragment := 0
  nextObject := 0
  mainQueue := []
  executor := []
  joining := none
  rows := []
  crashed := false

section Functions

variable (state : Activity DateTime Login Chat)

/-- `appHandler.sendMessage` -/
def sendMessage (msg : HandlerMessage Login Chat) :
    Activity DateTime Login Chat :=
  { state with mainQueue := state.mainQueue ++ [.handleMessage msg] }

/-- `AsyncTask::execute` -/
def execute (task : BackgroundTask DateTime Login Chat) :
    Activity DateTime Login Chat :=
  { state with executor := state.executor ++ [task] }

/-- The fields of a connection have changed. -/
def setConnection
    (connection : Nat)
    (fields : Connection) :
    Activity DateTime Login Chat :=
  { state with
    connections :=
      Function.update state.connections connection fields }

/-- An exception leaves a callback on the main thread. -/
def crash : Activity DateTime Login Chat :=
  { state with crashed := true }

/--
`try { mConnection.close(); mConnection = null; } catch`, up to the `join`.
Without a connection, or before its reader exists, `close` throws at once and
nothing has changed.
-/
def closeConnection : Activity DateTime Login Chat :=
  match state.mConnection with
  | none =>
      state
  | some connection =>
      let fields := state.connections connection
      if fields.readThread = .notCreated then
        state
      else
        { state.setConnection connection { fields with kill := true } with
          joining := some connection }

/-- The rest of the same statement, when the reader has ended. -/
def closed (connection : Nat) : Activity DateTime Login Chat :=
  { state.setConnection connection
      { state.connections connection with closed := true } with
    mConnection := none
    joining := none }

/-- The error callbacks that `login` and the handler give to `send`. -/
def onSendError
    (message : ClientRequest DateTime)
    (text : String) :
    Activity DateTime Login Chat :=
  match message with
  | .LoginRequest _ _ =>
      (state.sendMessage (.DisplayError text)).closeConnection
  | .MessageRequest _ _ _ =>
      state.sendMessage (.DisplayError text)

/-- The success callbacks; a message is sent without one. -/
def onSendSuccess : ClientRequest DateTime → Activity DateTime Login Chat
  | .LoginRequest _ mSender =>
      { state with username := mSender }.sendMessage .ExpectingLogin
  | .MessageRequest _ _ _ =>
      state

/--
`mConnection.send`.  An unconnected socket is reported and the task is executed
all the same; its reader has not been created, so the close throws.
-/
def send (message : ClientRequest DateTime) :
    Activity DateTime Login Chat :=
  match state.mConnection with
  | none =>
      state.crash
  | some connection =>
      if (state.connections connection).isConnected then
        state.execute (.send connection message)
      else
        (state.onSendError message "Socket is not connected.").execute
          (.send connection message)

/-- `showRoomFragment` -/
def showRoomFragment : Activity DateTime Login Chat :=
  { state with
    mRoomFragment := some state.nextFragment
    fragmentRoot := .room state.nextFragment
    nextFragment := state.nextFragment + 1 }

/-- Show a row if the room is ready, and stall it otherwise. -/
def display (obj : Display Login Chat) :
    Activity DateTime Login Chat :=
  if state.roomReady then
    match state.mRoomFragment with
    | none =>
        state.crash
    | some fragment =>
        { state with rows := state.rows ++ [(fragment, obj)] }
  else
    state.execute (.resend obj)

/-- The handling of `DisplayLogin` before its row is looked at. -/
def acceptLogin : Activity DateTime Login Chat :=
  if state.expectingLogin || !state.loggedIn then
    { state with
      loggedIn := true
      expectingLogin := false }.showRoomFragment
  else
    state

/-- `appHandler.handleMessage` -/
def handleMessage
    (now : DateTime) :
    HandlerMessage Login Chat → Activity DateTime Login Chat
  | .SendMessage obj =>
      state.send (.MessageRequest now state.username obj)
  | .ExpectingLogin =>
      { state with expectingLogin := true }
  | .SocketAWOL =>
      { state with
        loggedIn := false
        roomReady := false
        username := ""
        expectingLogin := false
        fragmentRoot := .login }.closeConnection
  | .DisplayError _ =>
      { state with expectingLogin := false }
  | .Display obj =>
      match obj.row with
      | .login _ =>
          state.acceptLogin.display obj
      | .message _ =>
          state.display obj

/-- What the main thread does with the next thing in its queue. -/
def runMain
    (now : DateTime) :
    MainTask DateTime Login Chat → Activity DateTime Login Chat
  | .handleMessage inputMessage =>
      state.handleMessage now inputMessage
  | .connectPostExecute _ _ (.error text) =>
      state.sendMessage (.DisplayError text)
  | .connectPostExecute connection req (.ok ()) =>
      (state.setConnection connection
        { state.connections connection with
          readThread := .running }).send req
  | .sendPostExecute _ message (.error text) =>
      state.onSendError message text
  | .sendPostExecute _ message (.ok ()) =>
      state.onSendSuccess message

/-- A background task can succeed, or fail where it does input or output. -/
def CanEnd :
    BackgroundTask DateTime Login Chat → Except String Unit → Prop
  | .resend _, .error _ =>
      False
  | .send connection _, .ok () =>
      (state.connections connection).isConnected = true ∧
        (state.connections connection).closed = false
  | _, _ =>
      True

instance
    (task : BackgroundTask DateTime Login Chat)
    (result : Except String Unit) :
    Decidable (state.CanEnd task result) := by
  cases task <;> cases result <;> simp only [CanEnd] <;> infer_instance

/-- The end of a background task. -/
def runBackground :
    BackgroundTask DateTime Login Chat →
      Except String Unit →
      Activity DateTime Login Chat
  | .socketConnect connection req, result =>
      { state.setConnection connection
          { state.connections connection with
            isConnected := result.isOk } with
        mainQueue :=
          state.mainQueue ++
            [.connectPostExecute connection req result] }
  | .send connection message, result =>
      { state with
        mainQueue :=
          state.mainQueue ++
            [.sendPostExecute connection message result] }
  | .resend obj, _ =>
      state.sendMessage (.Display obj)

/-- `MainActivity::login` -/
def login (req : ClientRequest DateTime) :
    Activity DateTime Login Chat :=
  { state with
    mConnection := some state.nextConnection
    nextConnection := state.nextConnection + 1 }.execute
      (.socketConnect state.nextConnection req)

/-- `MyResponseVisitor::visitLogin` and `visitMessage` -/
def visitRow (row : Row Login Chat) : Activity DateTime Login Chat :=
  { state with nextObject := state.nextObject + 1 }.sendMessage
    (.Display ⟨state.nextObject, row⟩)

end Functions

end Activity

/-- A step of the client. -/
inductive ActivityLabel (DateTime Login Chat : Type) where
  | login
      (mDateTime : DateTime)
      (mSender : String) :
      ActivityLabel DateTime Login Chat
  | clickSend (text : String) :
      ActivityLabel DateTime Login Chat
  | onRoomReady :
      ActivityLabel DateTime Login Chat
  | main
      (task : MainTask DateTime Login Chat)
      (now : DateTime) :
      ActivityLabel DateTime Login Chat
  | join (connection : Nat) :
      ActivityLabel DateTime Login Chat
  | background
      (task : BackgroundTask DateTime Login Chat)
      (result : Except String Unit) :
      ActivityLabel DateTime Login Chat
  | visitRow
      (connection : Nat)
      (row : Row Login Chat) :
      ActivityLabel DateTime Login Chat
  | visitError
      (connection : Nat)
      (message : String) :
      ActivityLabel DateTime Login Chat
  | readFails
      (connection : Nat)
      (message : String) :
      ActivityLabel DateTime Login Chat
  | reportLost (connection : Nat) :
      ActivityLabel DateTime Login Chat
  | stopReading (connection : Nat) :
      ActivityLabel DateTime Login Chat
  deriving Repr, DecidableEq

namespace Activity

open LabelledRun

variable {DateTime Login Chat : Type}
variable [DecidableEq DateTime] [DecidableEq Login] [DecidableEq Chat]

/-- The main thread is neither gone nor blocked. -/
def Responsive (state : Activity DateTime Login Chat) : Prop :=
  state.crashed = false ∧ state.joining = none

instance (state : Activity DateTime Login Chat) :
    Decidable state.Responsive :=
  inferInstanceAs
    (Decidable (state.crashed = false ∧ state.joining = none))

/-- The steps of the client. -/
def step?
    (state : Activity DateTime Login Chat) :
    ActivityLabel DateTime Login Chat →
      Option (Activity DateTime Login Chat)
  | .login mDateTime mSender =>
      guarded state.Responsive
        (state.login (.LoginRequest mDateTime mSender))
  | .clickSend text =>
      guarded (state.Responsive ∧ state.mRoomFragment.isSome)
        (state.sendMessage (.SendMessage text))
  | .onRoomReady =>
      guarded (state.Responsive ∧ state.mRoomFragment.isSome)
        { state with roomReady := true }
  | .main task now =>
      guarded
        (state.Responsive ∧ state.mainQueue.head? = some task)
        ({ state with mainQueue := state.mainQueue.tail }.runMain
          now task)
  | .join connection =>
      guarded
        (state.crashed = false ∧
          state.joining = some connection ∧
          (state.connections connection).readThread = .ended)
        (state.closed connection)
  | .background task result =>
      guarded
        (state.crashed = false ∧
          state.executor.head? = some task ∧
          state.CanEnd task result)
        ({ state with executor := state.executor.tail }.runBackground
          task result)
  | .visitRow connection row =>
      guarded
        (state.crashed = false ∧
          (state.connections connection).readThread = .running)
        (state.visitRow row)
  | .visitError connection message =>
      guarded
        (state.crashed = false ∧
          (state.connections connection).readThread = .running)
        (state.sendMessage (.DisplayError message))
  | .readFails connection message =>
      guarded
        (state.crashed = false ∧
          (state.connections connection).readThread = .running)
        ((state.setConnection connection
          { state.connections connection with
            readThread := .reporting }).sendMessage
              (.DisplayError message))
  | .reportLost connection =>
      guarded
        (state.crashed = false ∧
          (state.connections connection).readThread = .reporting)
        ((state.setConnection connection
          { state.connections connection with
            readThread := .ended }).sendMessage .SocketAWOL)
  | .stopReading connection =>
      guarded
        (state.crashed = false ∧
          (state.connections connection).readThread = .running ∧
          (state.connections connection).kill = true)
        (state.setConnection connection
          { state.connections connection with readThread := .ended })

/-! ### Scripted steps -/

/-- The log of a login whose request is sent. -/
def logIn
    (connection : Nat)
    (mSender : String) :
    List (ActivityLabel Nat String String) :=
  let req : ClientRequest Nat := .LoginRequest 0 mSender
  [.login 0 mSender,
    .background (.socketConnect connection req) (.ok ()),
    .main (.connectPostExecute connection req (.ok ())) 0,
    .background (.send connection req) (.ok ()),
    .main (.sendPostExecute connection req (.ok ())) 0,
    .main (.handleMessage .ExpectingLogin) 0]

/-- The log of a response that is read and handled. -/
def receive
    (connection : Nat)
    (obj : Display String String) :
    List (ActivityLabel Nat String String) :=
  [.visitRow connection obj.row,
    .main (.handleMessage (.Display obj)) 0]

/-! ### What the callbacks leave alone -/

section Keeps

omit [DecidableEq DateTime] [DecidableEq Login] [DecidableEq Chat]

/-- The row that waits in a task of the main thread. -/
def waitingRow? :
    MainTask DateTime Login Chat → Option (Display Login Chat)
  | .handleMessage (.Display obj) =>
      some obj
  | _ =>
      none

/-- The row that a background task stalls. -/
def stalledRow? :
    BackgroundTask DateTime Login Chat → Option (Display Login Chat)
  | .resend obj =>
      some obj
  | _ =>
      none

/-- The rows in the queue of the main thread. -/
def waitingRows
    (state : Activity DateTime Login Chat) :
    List (Display Login Chat) :=
  state.mainQueue.filterMap waitingRow?

/-- The rows that background tasks are to post again. -/
def stalledRows
    (state : Activity DateTime Login Chat) :
    List (Display Login Chat) :=
  state.executor.filterMap stalledRow?

/-- Session, room and rows are the same in two states. -/
structure Keeps (state next : Activity DateTime Login Chat) : Prop where
  loggedIn : next.loggedIn = state.loggedIn
  username : next.username = state.username
  mConnection : next.mConnection = state.mConnection
  roomReady : next.roomReady = state.roomReady
  mRoomFragment : next.mRoomFragment = state.mRoomFragment
  rows : next.rows = state.rows
  nextObject : next.nextObject = state.nextObject
  waitingRows : next.waitingRows = state.waitingRows
  stalledRows : next.stalledRows = state.stalledRows

theorem Keeps.refl (state : Activity DateTime Login Chat) :
    Keeps state state :=
  ⟨rfl, rfl, rfl, rfl, rfl, rfl, rfl, rfl, rfl⟩

theorem Keeps.trans
    {first second third : Activity DateTime Login Chat}
    (before : Keeps first second)
    (after : Keeps second third) :
    Keeps first third :=
  ⟨after.loggedIn.trans before.loggedIn,
    after.username.trans before.username,
    after.mConnection.trans before.mConnection,
    after.roomReady.trans before.roomReady,
    after.mRoomFragment.trans before.mRoomFragment,
    after.rows.trans before.rows,
    after.nextObject.trans before.nextObject,
    after.waitingRows.trans before.waitingRows,
    after.stalledRows.trans before.stalledRows⟩

variable (state : Activity DateTime Login Chat)

/-- A posted message is a row or changes nothing here. -/
theorem waitingRows_sendMessage
    (msg : HandlerMessage Login Chat) :
    (state.sendMessage msg).waitingRows =
      state.waitingRows ++
        (waitingRow?
          (.handleMessage msg :
            MainTask DateTime Login Chat)).toList := by
  unfold waitingRows sendMessage
  rw [List.filterMap_append]
  cases msg <;> rfl

theorem sendMessage_keeps
    {msg : HandlerMessage Login Chat}
    (noRow :
      waitingRow?
        (.handleMessage msg : MainTask DateTime Login Chat) = none) :
    Keeps state (state.sendMessage msg) := by
  refine ⟨rfl, rfl, rfl, rfl, rfl, rfl, rfl, ?_, rfl⟩
  rw [waitingRows_sendMessage, noRow]
  exact List.append_nil _

/-- A submitted task stalls a row or changes nothing here. -/
theorem stalledRows_execute
    (task : BackgroundTask DateTime Login Chat) :
    (state.execute task).stalledRows =
      state.stalledRows ++ (stalledRow? task).toList := by
  unfold stalledRows execute
  rw [List.filterMap_append]
  cases task <;> rfl

theorem execute_keeps
    {task : BackgroundTask DateTime Login Chat}
    (noRow : stalledRow? task = none) :
    Keeps state (state.execute task) := by
  refine ⟨rfl, rfl, rfl, rfl, rfl, rfl, rfl, rfl, ?_⟩
  rw [stalledRows_execute, noRow]
  exact List.append_nil _

theorem setConnection_keeps
    (connection : Nat)
    (fields : Connection) :
    Keeps state (state.setConnection connection fields) :=
  ⟨rfl, rfl, rfl, rfl, rfl, rfl, rfl, rfl, rfl⟩

theorem closeConnection_keeps :
    Keeps state state.closeConnection := by
  unfold closeConnection
  split
  · exact .refl state
  · dsimp only
    split
    · exact .refl state
    · exact ⟨rfl, rfl, rfl, rfl, rfl, rfl, rfl, rfl, rfl⟩

theorem onSendError_keeps
    (message : ClientRequest DateTime)
    (text : String) :
    Keeps state (state.onSendError message text) := by
  have reported : Keeps state (state.sendMessage (.DisplayError text)) :=
    state.sendMessage_keeps rfl
  cases message with
  | LoginRequest mDateTime mSender =>
      exact reported.trans (closeConnection_keeps _)
  | MessageRequest mDateTime mSender mContent =>
      exact reported

theorem send_keeps
    (message : ClientRequest DateTime) :
    Keeps state (state.send message) := by
  unfold send
  split
  · exact ⟨rfl, rfl, rfl, rfl, rfl, rfl, rfl, rfl, rfl⟩
  · split
    · exact state.execute_keeps rfl
    · exact (state.onSendError_keeps message _).trans
        (execute_keeps _ rfl)

/-- The end of a background task that stalls no row. -/
theorem runBackground_keeps
    {task : BackgroundTask DateTime Login Chat}
    (noRow : stalledRow? task = none)
    (result : Except String Unit) :
    Keeps state (state.runBackground task result) := by
  cases task with
  | socketConnect connection req =>
      refine ⟨rfl, rfl, rfl, rfl, rfl, rfl, rfl, ?_, rfl⟩
      simp [waitingRows, runBackground, setConnection, waitingRow?]
  | send connection message =>
      refine ⟨rfl, rfl, rfl, rfl, rfl, rfl, rfl, ?_, rfl⟩
      simp [waitingRows, runBackground, waitingRow?]
  | resend obj =>
      contradiction

/-- The username after something the main thread has run. -/
def usernameAfter
    (username : String) :
    MainTask DateTime Login Chat → String
  | .handleMessage .SocketAWOL =>
      ""
  | .sendPostExecute _ (.LoginRequest _ mSender) (.ok ()) =>
      mSender
  | _ =>
      username

/--
What the main thread runs keeps the session, the room and the rows, unless it
is a row, the loss of the connection or the success of a login request.
-/
theorem runMain_keeps
    (now : DateTime)
    {task : MainTask DateTime Login Chat}
    (noRow : waitingRow? task = none)
    (notLost : task ≠ .handleMessage .SocketAWOL) :
    Keeps { state with username := usernameAfter state.username task }
      (state.runMain now task) := by
  cases task with
  | handleMessage inputMessage =>
      cases inputMessage with
      | SendMessage obj =>
          exact state.send_keeps _
      | ExpectingLogin =>
          exact ⟨rfl, rfl, rfl, rfl, rfl, rfl, rfl, rfl, rfl⟩
      | SocketAWOL =>
          exact (notLost rfl).elim
      | DisplayError obj =>
          exact ⟨rfl, rfl, rfl, rfl, rfl, rfl, rfl, rfl, rfl⟩
      | Display obj =>
          contradiction
  | connectPostExecute connection req result =>
      cases result with
      | error text =>
          exact state.sendMessage_keeps rfl
      | ok done =>
          exact (state.setConnection_keeps connection _).trans
            (send_keeps _ req)
  | sendPostExecute connection message result =>
      cases result with
      | error text =>
          cases message with
          | LoginRequest mDateTime mSender =>
              exact state.onSendError_keeps
                (.LoginRequest mDateTime mSender) text
          | MessageRequest mDateTime mSender mContent =>
              exact state.onSendError_keeps
                (.MessageRequest mDateTime mSender mContent) text
      | ok done =>
          cases message with
          | LoginRequest mDateTime mSender =>
              exact sendMessage_keeps _ rfl
          | MessageRequest mDateTime mSender mContent =>
              exact .refl state

/-- A row is shown or stalled, and nothing else changes. -/
structure ShowsRow
    (state : Activity DateTime Login Chat)
    (obj : Display Login Chat)
    (next : Activity DateTime Login Chat) : Prop where
  loggedIn : next.loggedIn = state.loggedIn
  username : next.username = state.username
  mConnection : next.mConnection = state.mConnection
  roomReady : next.roomReady = state.roomReady
  mRoomFragment : next.mRoomFragment = state.mRoomFragment
  nextObject : next.nextObject = state.nextObject
  waitingRows : next.waitingRows = state.waitingRows
  shown :
    state.roomReady = true →
    state.mRoomFragment.isSome = true →
    next.rows.map Prod.snd = state.rows.map Prod.snd ++ [obj] ∧
      next.stalledRows = state.stalledRows
  stalled :
    state.roomReady = false →
    next.rows = state.rows ∧
      next.stalledRows = state.stalledRows ++ [obj]

theorem display_shows (obj : Display Login Chat) :
    ShowsRow state obj (state.display obj) := by
  unfold display
  by_cases ready : state.roomReady = true
  · rw [if_pos ready]
    have notStalled :
        ∀ {result : Prop}, state.roomReady = false → result := by
      intro result notReady
      rw [ready] at notReady
      contradiction
    cases room : state.mRoomFragment with
    | none =>
        refine ⟨rfl, rfl, rfl, rfl, rfl, rfl, rfl, ?_, notStalled⟩
        intro _ isSome
        rw [room] at isSome
        contradiction
    | some fragment =>
        refine ⟨rfl, rfl, rfl, rfl, room.symm, rfl, rfl, ?_, notStalled⟩
        intro _ _
        exact ⟨List.map_append, rfl⟩
  · rw [if_neg ready]
    refine ⟨rfl, rfl, rfl, rfl, rfl, rfl, rfl, ?_, ?_⟩
    · intro isReady
      exact (ready isReady).elim
    · intro _
      exact ⟨rfl, state.stalledRows_execute (.resend obj)⟩

/-- The client as `DisplayLogin` leaves it before its row is looked at. -/
structure Accepts (next : Activity DateTime Login Chat) : Prop where
  loggedIn : next.loggedIn = true
  username : next.username = state.username
  mConnection : next.mConnection = state.mConnection
  roomReady : next.roomReady = state.roomReady
  mRoomFragment :
    state.mRoomFragment.isSome = true →
    next.mRoomFragment.isSome = true
  rows : next.rows = state.rows
  nextObject : next.nextObject = state.nextObject
  waitingRows : next.waitingRows = state.waitingRows
  stalledRows : next.stalledRows = state.stalledRows

theorem acceptLogin_accepts : Accepts state state.acceptLogin := by
  unfold acceptLogin
  split
  · exact ⟨rfl, rfl, rfl, rfl, fun _ => rfl, rfl, rfl, rfl, rfl⟩
  · rename_i alreadyIn
    simp only [Bool.or_eq_true, Bool.not_eq_true', not_or,
      Bool.not_eq_false] at alreadyIn
    exact ⟨alreadyIn.2, rfl, rfl, rfl, id, rfl, rfl, rfl, rfl⟩

/-- Whether the client is logged in after something the main thread has run. -/
def loggedInAfter
    (loggedIn : Bool) :
    MainTask DateTime Login Chat → Bool
  | .handleMessage .SocketAWOL =>
      false
  | .handleMessage (.Display ⟨_, .login _⟩) =>
      true
  | _ =>
      loggedIn

/-- A handled row logs the client in if it is a login, and is shown or stalled. -/
structure HandlesRow
    (state : Activity DateTime Login Chat)
    (obj : Display Login Chat)
    (next : Activity DateTime Login Chat) : Prop where
  loggedIn :
    next.loggedIn =
      loggedInAfter state.loggedIn
        (.handleMessage (.Display obj) : MainTask DateTime Login Chat)
  username : next.username = state.username
  mConnection : next.mConnection = state.mConnection
  roomReady : next.roomReady = state.roomReady
  mRoomFragment :
    state.mRoomFragment.isSome = true →
    next.mRoomFragment.isSome = true
  nextObject : next.nextObject = state.nextObject
  waitingRows : next.waitingRows = state.waitingRows
  shown :
    state.roomReady = true →
    state.mRoomFragment.isSome = true →
    next.rows.map Prod.snd = state.rows.map Prod.snd ++ [obj] ∧
      next.stalledRows = state.stalledRows
  stalled :
    state.roomReady = false →
    next.rows = state.rows ∧
      next.stalledRows = state.stalledRows ++ [obj]

/-- The handling of a row. -/
theorem runMain_row
    (now : DateTime)
    (obj : Display Login Chat) :
    HandlesRow state obj
      (state.runMain now (.handleMessage (.Display obj))) := by
  rcases obj with ⟨ref, row⟩
  cases row with
  | message chat =>
      have shows := state.display_shows ⟨ref, .message chat⟩
      exact ⟨shows.loggedIn, shows.username, shows.mConnection,
        shows.roomReady, fun isSome => shows.mRoomFragment ▸ isSome,
        shows.nextObject, shows.waitingRows, shows.shown, shows.stalled⟩
  | login login =>
      have accepts := state.acceptLogin_accepts
      have shows := state.acceptLogin.display_shows ⟨ref, .login login⟩
      refine ⟨shows.loggedIn.trans accepts.loggedIn,
        shows.username.trans accepts.username,
        shows.mConnection.trans accepts.mConnection,
        shows.roomReady.trans accepts.roomReady, ?_,
        shows.nextObject.trans accepts.nextObject,
        shows.waitingRows.trans accepts.waitingRows, ?_, ?_⟩
      · intro isSome
        exact shows.mRoomFragment ▸ accepts.mRoomFragment isSome
      · intro ready isSome
        have shown :=
          shows.shown (accepts.roomReady.trans ready)
            (accepts.mRoomFragment isSome)
        rw [accepts.rows, accepts.stalledRows] at shown
        exact shown
      · intro notReady
        have stalled :=
          shows.stalled (accepts.roomReady.trans notReady)
        rw [accepts.rows, accepts.stalledRows] at stalled
        exact stalled

/-- Everything the main thread runs is a row, the loss of the connection or neither. -/
theorem task_cases
    (task : MainTask DateTime Login Chat) :
    (∃ obj, task = .handleMessage (.Display obj)) ∨
      task = .handleMessage .SocketAWOL ∨
      (waitingRow? task = none ∧
        task ≠ .handleMessage .SocketAWOL) := by
  cases task with
  | handleMessage inputMessage =>
      cases inputMessage with
      | Display obj =>
          exact Or.inl ⟨obj, rfl⟩
      | SocketAWOL =>
          exact Or.inr (Or.inl rfl)
      | SendMessage obj =>
          exact Or.inr (Or.inr ⟨rfl, by simp⟩)
      | ExpectingLogin =>
          exact Or.inr (Or.inr ⟨rfl, by simp⟩)
      | DisplayError obj =>
          exact Or.inr (Or.inr ⟨rfl, by simp⟩)
  | connectPostExecute connection req result =>
      exact Or.inr (Or.inr ⟨rfl, by simp⟩)
  | sendPostExecute connection message result =>
      exact Or.inr (Or.inr ⟨rfl, by simp⟩)

/-- The state in which the loss of the connection is handled, up to the `close`. -/
def lost : Activity DateTime Login Chat :=
  { state with
    loggedIn := false
    roomReady := false
    username := ""
    expectingLogin := false
    fragmentRoot := .login }

theorem runMain_lost (now : DateTime) :
    Keeps state.lost (state.runMain now (.handleMessage .SocketAWOL)) :=
  state.lost.closeConnection_keeps

/--
The main thread changes `loggedIn` and `username` as the task says, and
`mConnection` never.
-/
theorem runMain_session
    (now : DateTime)
    (task : MainTask DateTime Login Chat) :
    (state.runMain now task).loggedIn =
        loggedInAfter state.loggedIn task ∧
      (state.runMain now task).username =
        usernameAfter state.username task ∧
      (state.runMain now task).mConnection = state.mConnection := by
  rcases task_cases task with ⟨obj, rfl⟩ | rfl | ⟨noRow, notLost⟩
  · have handles := state.runMain_row now obj
    exact ⟨handles.loggedIn, handles.username, handles.mConnection⟩
  · have kept := state.runMain_lost now
    exact ⟨kept.loggedIn, kept.username, kept.mConnection⟩
  · have kept := state.runMain_keeps now noRow notLost
    refine ⟨kept.loggedIn.trans ?_, kept.username, kept.mConnection⟩
    unfold loggedInAfter
    split
    · exact (notLost rfl).elim
    · contradiction
    · rfl

end Keeps

/-! ### What a step does to the session -/

/-- Whether the client is logged in after a step. -/
def loggedInAfterStep
    (loggedIn : Bool) :
    ActivityLabel DateTime Login Chat → Bool
  | .main task _ =>
      loggedInAfter loggedIn task
  | _ =>
      loggedIn

/-- The username after a step. -/
def usernameAfterStep
    (username : String) :
    ActivityLabel DateTime Login Chat → String
  | .main task _ =>
      usernameAfter username task
  | _ =>
      username

/-- The connection after a step. -/
def connectionAfterStep
    (state : Activity DateTime Login Chat) :
    ActivityLabel DateTime Login Chat → Option Nat
  | .login _ _ =>
      some state.nextConnection
  | .join _ =>
      none
  | _ =>
      state.mConnection

/-- The main thread alone logs in and out and sets the username. -/
theorem step?_session
    {state next : Activity DateTime Login Chat}
    {label : ActivityLabel DateTime Login Chat}
    (taken : step? state label = some next) :
    next.loggedIn = loggedInAfterStep state.loggedIn label ∧
      next.username = usernameAfterStep state.username label ∧
      next.mConnection = state.connectionAfterStep label := by
  cases label with
  | main task now =>
      obtain ⟨_, rfl⟩ := guarded_eq_some.mp taken
      exact runMain_session _ now task
  | background task result =>
      obtain ⟨_, rfl⟩ := guarded_eq_some.mp taken
      cases task <;> exact ⟨rfl, rfl, rfl⟩
  | _ =>
      obtain ⟨_, rfl⟩ := guarded_eq_some.mp taken
      exact ⟨rfl, rfl, rfl⟩

end Activity

end ChatRelay.Client
