import Mathlib.Data.List.Basic
import ChatRelay.ClientDisplayOrder

namespace ChatRelay.Client

/-!
# The main thread of the client

Two things can take the main thread away from the user.  A callback can throw,
and then the application is gone; `mConnection.send` does so when the
connection has been given up, and no row is given to a room that is not there.
And `close` joins the reader thread, which has to end first.
-/

open LabelledRun
open RequestFraming (ClientRequest)

namespace Activity

variable {DateTime Login Chat : Type}

/-! ### Exceptions -/

/-- A step of the main thread that sends something finds a connection. -/
def FindsConnection
    (state : Activity DateTime Login Chat) :
    ActivityLabel DateTime Login Chat → Prop
  | .main (.handleMessage (.SendMessage _)) _ |
    .main (.connectPostExecute _ _ (.ok ())) _ =>
      state.mConnection.isSome = true
  | _ =>
      True

section Callbacks

variable (state : Activity DateTime Login Chat)

@[simp] theorem crashed_sendMessage
    (msg : HandlerMessage Login Chat) :
    (state.sendMessage msg).crashed = state.crashed :=
  rfl

@[simp] theorem crashed_execute
    (task : BackgroundTask DateTime Login Chat) :
    (state.execute task).crashed = state.crashed :=
  rfl

@[simp] theorem crashed_closeConnection :
    state.closeConnection.crashed = state.crashed := by
  unfold closeConnection
  split
  · rfl
  · dsimp only
    split <;> rfl

@[simp] theorem crashed_onSendError
    (message : ClientRequest DateTime)
    (text : String) :
    (state.onSendError message text).crashed = state.crashed := by
  cases message with
  | LoginRequest mDateTime mSender =>
      exact crashed_closeConnection _
  | MessageRequest mDateTime mSender mContent =>
      rfl

/-- A send throws exactly if there is no connection. -/
theorem crashed_send
    (message : ClientRequest DateTime) :
    (state.send message).crashed =
      (state.crashed || state.mConnection.isNone) := by
  unfold send
  cases held : state.mConnection with
  | none =>
      exact (Bool.or_true _).symm
  | some connection =>
      rw [Option.isNone_some, Bool.or_false]
      dsimp only
      split
      · rfl
      · rw [crashed_execute, crashed_onSendError]

/-- A row is shown in a room that is there. -/
theorem crashed_display
    (roomExists : state.RoomExists)
    (obj : Display Login Chat) :
    (state.display obj).crashed = state.crashed := by
  unfold display
  by_cases ready : state.roomReady = true
  · rw [if_pos ready]
    obtain ⟨fragment, isRoom⟩ := Option.isSome_iff_exists.mp (roomExists ready)
    rw [isRoom]
  · rw [if_neg ready]
    rfl

theorem crashed_acceptLogin :
    state.acceptLogin.crashed = state.crashed := by
  unfold acceptLogin
  split <;> rfl

/-- The handling of `DisplayLogin` leaves a room that is there. -/
theorem RoomExists.acceptLogin
    (roomExists : state.RoomExists) :
    state.acceptLogin.RoomExists := by
  have accepts := state.acceptLogin_accepts
  intro ready
  rw [accepts.roomReady] at ready
  exact accepts.mRoomFragment (roomExists ready)

/-- What the main thread runs throws exactly if it misses a connection. -/
theorem crashed_runMain
    (roomExists : state.RoomExists)
    (now : DateTime)
    (task : MainTask DateTime Login Chat)
    (alive : state.crashed = false) :
    (state.runMain now task).crashed = false ↔
      state.FindsConnection (.main task now) := by
  have sends :
      ∀ (holder : Activity DateTime Login Chat) message,
        holder.crashed = false →
          ((holder.send message).crashed = false ↔
            holder.mConnection.isSome = true) := by
    intro holder message living
    rw [crashed_send, living, Bool.false_or]
    cases holder.mConnection <;> simp
  cases task with
  | handleMessage inputMessage =>
      cases inputMessage with
      | SendMessage obj =>
          exact sends state _ alive
      | ExpectingLogin =>
          exact iff_of_true alive trivial
      | SocketAWOL =>
          exact iff_of_true ((crashed_closeConnection _).trans alive) trivial
      | DisplayError obj =>
          exact iff_of_true alive trivial
      | Display obj =>
          rcases obj with ⟨ref, row⟩
          refine iff_of_true ?_ trivial
          cases row with
          | login login =>
              exact ((crashed_display _ roomExists.acceptLogin _).trans
                state.crashed_acceptLogin).trans alive
          | message chat =>
              exact (state.crashed_display roomExists _).trans alive
  | connectPostExecute connection req result =>
      cases result with
      | error text =>
          exact iff_of_true alive trivial
      | ok done =>
          exact sends _ req alive
  | sendPostExecute connection message result =>
      refine iff_of_true ?_ trivial
      cases result with
      | error text =>
          exact (state.crashed_onSendError message text).trans alive
      | ok done =>
          cases message <;> exact alive

end Callbacks

section Steps

variable [DecidableEq DateTime] [DecidableEq Login] [DecidableEq Chat]
variable {state next : Activity DateTime Login Chat}
variable {label : ActivityLabel DateTime Login Chat}
variable {labels : List (ActivityLabel DateTime Login Chat)}

/-- No step is taken by an application that is gone. -/
theorem alive_of_step
    (taken : step? state label = some next) :
    state.crashed = false := by
  cases label with
  | login mDateTime mSender =>
      exact (guarded_eq_some.mp taken).1.1
  | clickSend | onRoomReady | main =>
      exact (guarded_eq_some.mp taken).1.1.1
  | _ =>
      exact (guarded_eq_some.mp taken).1.1

/-- A step throws exactly if it misses a connection. -/
theorem crashed_step
    (roomExists : state.RoomExists)
    (taken : step? state label = some next) :
    next.crashed = false ↔ state.FindsConnection label := by
  have alive := alive_of_step taken
  cases label with
  | main task now =>
      obtain ⟨_, rfl⟩ := guarded_eq_some.mp taken
      exact crashed_runMain
        { state with mainQueue := state.mainQueue.tail } roomExists now task
        alive
  | background task result =>
      obtain ⟨_, rfl⟩ := guarded_eq_some.mp taken
      refine iff_of_true ?_ trivial
      cases task <;> exact alive
  | _ =>
      obtain ⟨_, rfl⟩ := guarded_eq_some.mp taken
      exact iff_of_true alive trivial

/-! ### Closing a connection -/

/-- The reader that the main thread joins exists and has been told to stop. -/
def JoinsKilled (state : Activity DateTime Login Chat) : Prop :=
  ∀ connection,
    state.joining = some connection →
      (state.connections connection).kill = true ∧
        (state.connections connection).readThread ≠ .notCreated

omit [DecidableEq DateTime] [DecidableEq Login] [DecidableEq Chat] in
theorem JoinsKilled.closeConnection
    (joins : state.JoinsKilled) :
    state.closeConnection.JoinsKilled := by
  unfold Activity.closeConnection
  split
  · exact joins
  · rename_i connection held
    dsimp only
    split
    · exact joins
    · rename_i created
      intro joined isJoined
      obtain rfl := Option.some.inj isJoined
      simp only [setConnection, Function.update_self]
      exact ⟨trivial, created⟩

omit [DecidableEq DateTime] [DecidableEq Login] [DecidableEq Chat] in
theorem JoinsKilled.onSendError
    (joins : state.JoinsKilled)
    (message : ClientRequest DateTime)
    (text : String) :
    (state.onSendError message text).JoinsKilled := by
  cases message with
  | LoginRequest mDateTime mSender =>
      have posted :
          (state.sendMessage (.DisplayError text)).JoinsKilled :=
        joins
      exact posted.closeConnection
  | MessageRequest mDateTime mSender mContent =>
      exact joins

omit [DecidableEq DateTime] [DecidableEq Login] [DecidableEq Chat] in
theorem JoinsKilled.send
    (joins : state.JoinsKilled)
    (message : ClientRequest DateTime) :
    (state.send message).JoinsKilled := by
  unfold Activity.send
  split
  · exact joins
  · split
    · exact joins
    · exact joins.onSendError message _

omit [DecidableEq DateTime] [DecidableEq Login] [DecidableEq Chat] in
/-- The fields of a connection change, but not that it is to stop. -/
theorem JoinsKilled.setConnection
    (joins : state.JoinsKilled)
    {connection : Nat}
    {fields : Connection}
    (kill : fields.kill = (state.connections connection).kill)
    (created :
      (state.connections connection).readThread ≠ .notCreated →
        fields.readThread ≠ .notCreated) :
    (state.setConnection connection fields).JoinsKilled := by
  intro joined isJoined
  have stands := joins joined isJoined
  by_cases same : joined = connection
  · subst same
    simp only [Activity.setConnection, Function.update_self]
    exact ⟨kill.trans stands.1, created stands.2⟩
  · simp only [Activity.setConnection, Function.update_of_ne same]
    exact stands

omit [DecidableEq DateTime] [DecidableEq Login] [DecidableEq Chat] in
theorem JoinsKilled.runMain
    (joins : state.JoinsKilled)
    (now : DateTime)
    (task : MainTask DateTime Login Chat) :
    (state.runMain now task).JoinsKilled := by
  have displays :
      ∀ (holder : Activity DateTime Login Chat) obj,
        holder.JoinsKilled → (holder.display obj).JoinsKilled := by
    intro holder obj stands
    unfold display
    split
    · split <;> exact stands
    · exact stands
  cases task with
  | handleMessage inputMessage =>
      cases inputMessage with
      | SendMessage obj =>
          exact joins.send _
      | ExpectingLogin | DisplayError =>
          exact joins
      | SocketAWOL =>
          have left : state.lost.JoinsKilled := joins
          exact left.closeConnection
      | Display obj =>
          rcases obj with ⟨ref, row⟩
          cases row with
          | login login =>
              refine displays _ _ ?_
              unfold acceptLogin
              split <;> exact joins
          | message chat =>
              exact displays _ _ joins
  | connectPostExecute connection req result =>
      cases result with
      | error text =>
          exact joins
      | ok done =>
          refine JoinsKilled.send ?_ req
          exact joins.setConnection rfl (fun _ => by simp)
  | sendPostExecute connection message result =>
      cases result with
      | error text =>
          exact joins.onSendError message text
      | ok done =>
          cases message <;> exact joins

theorem JoinsKilled.step
    (joins : state.JoinsKilled)
    (taken : step? state label = some next) :
    next.JoinsKilled := by
  cases label with
  | main task now =>
      obtain ⟨_, rfl⟩ := guarded_eq_some.mp taken
      have left :
          { state with mainQueue := state.mainQueue.tail }.JoinsKilled :=
        joins
      exact left.runMain now task
  | background task result =>
      obtain ⟨_, rfl⟩ := guarded_eq_some.mp taken
      cases task with
      | socketConnect connection req =>
          exact joins.setConnection rfl id
      | send | resend =>
          exact joins
  | join connection =>
      obtain ⟨_, rfl⟩ := guarded_eq_some.mp taken
      intro joined isJoined
      contradiction
  | readFails connection message | reportLost connection
  | stopReading connection =>
      obtain ⟨_, rfl⟩ := guarded_eq_some.mp taken
      exact joins.setConnection rfl (fun _ => by simp)
  | _ =>
      obtain ⟨_, rfl⟩ := guarded_eq_some.mp taken
      exact joins

theorem joinsKilled_of_run
    (reached : run? step? onCreate labels = some state) :
    state.JoinsKilled := by
  refine stateInvariant ?_ ?_ reached
  · intro joined isJoined
    contradiction
  · intro state label next joins taken
    exact joins.step taken

/-- A step of the reader of a connection, or the end of its `join`. -/
def Releases
    (connection : Nat) :
    ActivityLabel DateTime Login Chat → Prop
  | .stopReading reader | .reportLost reader | .join reader =>
      reader = connection
  | _ =>
      False

/--
The main thread is never blocked for good.  Where it joins the reader of a
connection, at most two steps unblock it, of that reader and of the `join`, and
no other part of the application has to move; the connection is then closed and
given up.
-/
theorem close_returns
    (reached : run? step? onCreate labels = some state)
    (alive : state.crashed = false)
    {connection : Nat}
    (joining : state.joining = some connection) :
    ∃ future final,
      run? step? state future = some final ∧
        future.length ≤ 2 ∧
          (∀ label ∈ future, Releases connection label) ∧
            final.Responsive ∧
              final.mConnection = none ∧
                final.connections connection =
                  { state.connections connection with
                    closed := true
                    readThread := .ended } := by
  obtain ⟨kill, created⟩ :=
    joinsKilled_of_run reached connection joining
  -- The reader of the connection ends, and then the `join`.
  have ends :
      ∀ label (middle : Activity DateTime Login Chat),
        step? state label = some middle →
          middle.crashed = false →
            middle.joining = some connection →
              middle.connections connection =
                { state.connections connection with
                  readThread := .ended } →
                run? step? state [label, .join connection] =
                  some (middle.closed connection) := by
    intro label middle taken living joins fields
    refine run?_cons_eq_some.mpr ⟨middle, taken, ?_⟩
    refine run?_cons_eq_some.mpr ⟨_, ?_, rfl⟩
    exact guarded_eq_some.mpr ⟨⟨living, joins, by rw [fields]⟩, rfl⟩
  have closes :
      ∀ middle : Activity DateTime Login Chat,
        middle.crashed = false →
          middle.connections connection =
              { state.connections connection with
                readThread := .ended } →
            (middle.closed connection).Responsive ∧
              (middle.closed connection).mConnection = none ∧
                (middle.closed connection).connections connection =
                  { state.connections connection with
                    closed := true
                    readThread := .ended } := by
    intro middle living fields
    refine ⟨⟨living, rfl⟩, rfl, ?_⟩
    simp only [closed, setConnection, Function.update_self, fields]
  cases stands : (state.connections connection).readThread with
  | notCreated =>
      exact (created stands).elim
  | running =>
      let middle :=
        state.setConnection connection
          { state.connections connection with readThread := .ended }
      have fields :
          middle.connections connection =
            { state.connections connection with readThread := .ended } :=
        Function.update_self _ _ _
      have stops : step? state (.stopReading connection) = some middle :=
        guarded_eq_some.mpr ⟨⟨alive, stands, kill⟩, rfl⟩
      exact ⟨_, _, ends _ middle stops alive joining fields,
        Nat.le_refl _, by simp [Releases], closes middle alive fields⟩
  | reporting =>
      let middle :=
        (state.setConnection connection
          { state.connections connection with
            readThread := .ended }).sendMessage .SocketAWOL
      have fields :
          middle.connections connection =
            { state.connections connection with readThread := .ended } :=
        Function.update_self _ _ _
      have reports :
          step? state (.reportLost connection) = some middle :=
        guarded_eq_some.mpr ⟨⟨alive, stands⟩, rfl⟩
      exact ⟨_, _, ends _ middle reports alive joining fields,
        Nat.le_refl _, by simp [Releases], closes middle alive fields⟩
  | ended =>
      have fields :
          state.connections connection =
            { state.connections connection with readThread := .ended } := by
        rw [← stands]
      refine ⟨[.join connection], _, ?_, by simp, by simp [Releases],
        closes state alive fields⟩
      refine run?_cons_eq_some.mpr ⟨_, ?_, rfl⟩
      exact guarded_eq_some.mpr ⟨⟨alive, joining, stands⟩, rfl⟩

/-- The request of a login could not be sent; its reader is still running. -/
theorem close_returns_unsent :
    let req : ClientRequest Nat := .LoginRequest 0 "ann"
    let labels :=
      [.login 0 "ann",
        .background (.socketConnect 0 req) (.ok ()),
        .main (.connectPostExecute 0 req (.ok ())) 0,
        .background (.send 0 req) (.error "reset"),
        .main (.sendPostExecute 0 req (.error "reset")) 0]
    ∃ state future final,
      run? step? (onCreate : Activity Nat String String) labels =
          some state ∧
        state.joining = some 0 ∧
          run? step? state future = some final ∧
            future.length ≤ 2 ∧ final.Responsive := by
  intro req labels
  have finished :
      (run? step? (onCreate : Activity Nat String String) labels).map
          (fun state => (state.crashed, state.joining)) =
        some (false, some 0) := by
    decide
  obtain ⟨state, reached, control⟩ := Option.map_eq_some_iff.mp finished
  obtain ⟨alive, joining⟩ := Prod.mk.inj control
  obtain ⟨future, final, ran, short, _, responsive, _⟩ :=
    close_returns reached alive joining
  exact ⟨state, future, final, reached, joining, ran, short, responsive⟩

end Steps

end Activity

end ChatRelay.Client
