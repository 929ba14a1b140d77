import Mathlib.Data.List.Basic
import ChatRelay.RoomSession

namespace ChatRelay.Client

/-!
# The table of messages

`RoomFragment` shows what it is given in a table of its own.  A login is one
row, a message is two.  The fragment looks whether it is added to the activity,
and what it is given before or after that is only logged.

Two more calls of the main thread can throw here.  A response that came without
a time has none to write, and the fragment manager refuses a `commit` while the
state of the activity is saved.
-/

open LabelledRun
open RequestFraming (ClientRequest)

/-- What `createUserLoginWrapper` is given; the time can be null. -/
abbrev LoginArguments (DateTime : Type) :=
  Option DateTime × String

/-- What `createMessageWrapper` is given; the time can be null. -/
abbrev MessageArguments (DateTime : Type) :=
  Option DateTime × String × String

/-- A row of `mMessageTable`, with the texts of its views. -/
inductive TableRow where
  | joined (dateView : Bytes) (usernameView : String) : TableRow
  | info (dateView : Bytes) (usernameView : String) : TableRow
  | content (contentView : String) : TableRow
  deriving Repr, DecidableEq

section Elements

variable {DateTime : Type}

/--
`RoomFragment::createLoggedInElements`, and `none` for the
`NullPointerException` of `dateTime.toString`.
-/
def createLoggedInElements
    (DATE_TIME_FORMATTER : DateTime → Bytes)
    (dateTime : Option DateTime)
    (username : String) :
    Option (List TableRow) :=
  dateTime.map fun time =>
    [.joined (DATE_TIME_FORMATTER time) username]

/-- `RoomFragment::createUserMessageElements`, with the same exception. -/
def createUserMessageElements
    (DATE_TIME_FORMATTER : DateTime → Bytes)
    (dateTime : Option DateTime)
    (username content : String) :
    Option (List TableRow) :=
  dateTime.map fun time =>
    [.info (DATE_TIME_FORMATTER time) username, .content content]

/-- The rows that an event adds to the table. -/
def elements
    (DATE_TIME_FORMATTER : DateTime → Bytes) :
    Row (LoginArguments DateTime) (MessageArguments DateTime) →
      Option (List TableRow)
  | .login (time, username) =>
      createLoggedInElements DATE_TIME_FORMATTER time username
  | .message (time, username, message) =>
      createUserMessageElements DATE_TIME_FORMATTER time username message

/-- The time that comes with an event. -/
def dateTimeOf :
    Row (LoginArguments DateTime) (MessageArguments DateTime) →
      Option DateTime
  | .login (time, _) | .message (time, _, _) =>
      time

/-- An event makes rows exactly if it came with a time. -/
@[simp] theorem isSome_elements
    (DATE_TIME_FORMATTER : DateTime → Bytes)
    (row : Row (LoginArguments DateTime) (MessageArguments DateTime)) :
    (elements DATE_TIME_FORMATTER row).isSome = (dateTimeOf row).isSome := by
  cases row <;> exact Option.isSome_map

end Elements

/-! ### What a step gives to a room -/

namespace Activity

variable {DateTime Login Chat : Type}

/-- The row that a step gives to a room, with the fragment of the room. -/
def gives
    (state : Activity DateTime Login Chat) :
    ActivityLabel DateTime Login Chat → Option (Nat × Display Login Chat)
  | .main (.handleMessage (.Display obj)) now =>
      if state.roomReady then
        (state.roomAfterStep
          (.main (.handleMessage (.Display obj)) now)).mRoomFragment.map
            fun fragment => (fragment, obj)
      else
        none
  | _ =>
      none

/-- A row that is shown goes to the room of the activity. -/
theorem display_rows
    (state : Activity DateTime Login Chat)
    (obj : Display Login Chat) :
    (state.display obj).rows =
      state.rows ++
        (if state.roomReady then
          state.mRoomFragment.map fun fragment => (fragment, obj)
        else
          none).toList := by
  unfold display
  by_cases ready : state.roomReady = true
  · rw [if_pos ready, if_pos ready]
    cases room : state.mRoomFragment with
    | none =>
        exact (List.append_nil _).symm
    | some fragment =>
        rfl
  · rw [if_neg ready, if_neg ready]
    exact (List.append_nil _).symm

/-- The handling of a row gives it to the room that the step leaves. -/
theorem runMain_gives
    (state : Activity DateTime Login Chat)
    (now : DateTime)
    (obj : Display Login Chat) :
    (state.runMain now (.handleMessage (.Display obj))).rows =
      state.rows ++
        (state.gives (.main (.handleMessage (.Display obj)) now)).toList := by
  rcases obj with ⟨ref, row⟩
  cases row with
  | message chat =>
      exact state.display_rows ⟨ref, .message chat⟩
  | login login =>
      have accepts := state.acceptLogin_accepts
      have shown := state.acceptLogin.display_rows ⟨ref, .login login⟩
      have room :
          state.acceptLogin.mRoomFragment =
            (state.roomAfterStep (.main (.handleMessage
              (.Display ⟨ref, .login login⟩)) now)).mRoomFragment :=
        congrArg Room.mRoomFragment state.room_acceptLogin
      rw [accepts.rows, accepts.roomReady, room] at shown
      exact shown

/-- The rows after a step. -/
theorem step?_gives
    [DecidableEq DateTime]
    [DecidableEq Login]
    [DecidableEq Chat]
    {state next : Activity DateTime Login Chat}
    {label : ActivityLabel DateTime Login Chat}
    (taken : step? state label = some next) :
    next.rows = state.rows ++ (state.gives label).toList := by
  cases label with
  | main task now =>
      obtain ⟨_, rfl⟩ := guarded_eq_some.mp taken
      let begun := { state with mainQueue := state.mainQueue.tail }
      rcases task_cases task with ⟨obj, rfl⟩ | rfl | ⟨noRow, notLost⟩
      · exact begun.runMain_gives now obj
      · exact (begun.runMain_lost now).rows.trans (List.append_nil _).symm
      · have nothing : state.gives (.main task now) = none := by
          cases task with
          | handleMessage inputMessage =>
              cases inputMessage <;> first | rfl | contradiction
          | _ =>
              rfl
        rw [nothing]
        exact (begun.runMain_keeps now noRow notLost).rows.trans
          (List.append_nil _).symm
  | background task result =>
      obtain ⟨_, rfl⟩ := guarded_eq_some.mp taken
      cases task <;> exact (List.append_nil _).symm
  | _ =>
      obtain ⟨_, rfl⟩ := guarded_eq_some.mp taken
      exact (List.append_nil _).symm

/-- What a step gives goes to a ready room, the one that the step leaves. -/
theorem room_of_gives
    [DecidableEq DateTime]
    [DecidableEq Login]
    [DecidableEq Chat]
    {state next : Activity DateTime Login Chat}
    {label : ActivityLabel DateTime Login Chat}
    {given : Nat × Display Login Chat}
    (taken : step? state label = some next)
    (isGiven : state.gives label = some given) :
    state.roomReady = true ∧ next.mRoomFragment = some given.1 := by
  have room := congrArg Room.mRoomFragment (step?_room taken)
  unfold gives at isGiven
  split at isGiven
  · split at isGiven
    · rename_i ready
      obtain ⟨fragment, isRoom, rfl⟩ := Option.map_eq_some_iff.mp isGiven
      exact ⟨ready, room.trans isRoom⟩
    · contradiction
  · contradiction

end Activity

/-! ### The screen -/

/-- A step of the client, or of the life of its activity. -/
inductive ScreenLabel (DateTime : Type) where
  | room
      (label :
        RoomLabel DateTime (LoginArguments DateTime)
          (MessageArguments DateTime)) :
      ScreenLabel DateTime
  | onSaveInstanceState : ScreenLabel DateTime
  | noteStateNotSaved : ScreenLabel DateTime
  deriving Repr, DecidableEq

/--
The client with what is on its screen: the fragment that is added to the
activity, the table of that fragment, and what was given to a room that was not
added.  `mStateSaved` is the flag of the fragment manager.
-/
structure RoomScreen (DateTime : Type) where
  client :
    RoomClient DateTime (LoginArguments DateTime)
      (MessageArguments DateTime)
  added : Option Fragment
  mMessageTable : List TableRow
  notAdded :
    List
      (Nat ×
        Display (LoginArguments DateTime) (MessageArguments DateTime))
  mStateSaved : Bool

namespace RoomScreen

variable {DateTime : Type}
variable (DATE_TIME_FORMATTER : DateTime → Bytes)

/-- Nothing is added before the first transaction is executed. -/
def onCreate : RoomScreen DateTime where
  client := RoomClient.onCreate
  added := none
  mMessageTable := []
  notAdded := []
  mStateSaved := false

/-- `createUserLoginWrapper` and `createMessageWrapper` of a room. -/
def createWrapper?
    (screen : RoomScreen DateTime)
    (given :
      Nat ×
        Display (LoginArguments DateTime) (MessageArguments DateTime)) :
    Option (RoomScreen DateTime) :=
  if screen.added = some (.room given.1) then
    (elements DATE_TIME_FORMATTER given.2.row).map fun rows =>
      { screen with mMessageTable := screen.mMessageTable ++ rows }
  else
    some { screen with notAdded := screen.notAdded ++ [given] }

/-- Whether the step calls `FragmentTransaction::commit`. -/
def commits
    (activity :
      Activity DateTime (LoginArguments DateTime)
        (MessageArguments DateTime)) :
    ActivityLabel DateTime (LoginArguments DateTime)
        (MessageArguments DateTime) →
      Bool
  | .main (.handleMessage .SocketAWOL) _ =>
      true
  | label =>
      activity.showsRoom label

/--
The screen after a step of the client, and `none` for an exception.
`onViewCreated` begins with an empty table.  A `commit` after the state was
saved is an `IllegalStateException`; it comes before a row is given to the room.
-/
def after?
    (screen : RoomScreen DateTime)
    (next :
      RoomClient DateTime (LoginArguments DateTime)
        (MessageArguments DateTime)) :
    RoomLabel DateTime (LoginArguments DateTime)
        (MessageArguments DateTime) →
      Option (RoomScreen DateTime)
  | .executeTransaction fragment =>
      some
        { screen with
          client := next
          added := some fragment
          mMessageTable := [] }
  | .client label =>
      if commits screen.client.activity label && screen.mStateSaved then
        none
      else
        match screen.client.activity.gives label with
        | none =>
            some { screen with client := next }
        | some given =>
            createWrapper? DATE_TIME_FORMATTER
              { screen with client := next } given

/-- The application is gone, and what the step did is gone with it. -/
def crash (screen : RoomScreen DateTime) : RoomScreen DateTime :=
  { screen with
    client :=
      { screen.client with activity := screen.client.activity.crash } }

/--
The steps of the client, with what they show.  The state is saved when the
activity leaves the foreground, and it no longer counts as saved when the
activity is back.
-/
def step?
    [DecidableEq DateTime]
    (screen : RoomScreen DateTime) :
    ScreenLabel DateTime → Option (RoomScreen DateTime)
  | .room label =>
      (RoomClient.step? screen.client label).map fun next =>
        (screen.after? DATE_TIME_FORMATTER next label).getD screen.crash
  | .onSaveInstanceState =>
      guarded screen.client.activity.Responsive
        { screen with mStateSaved := true }
  | .noteStateNotSaved =>
      guarded screen.client.activity.Responsive
        { screen with mStateSaved := false }

end RoomScreen

/-! ### One session with one room -/

namespace RoomScreen

variable {DateTime : Type}
variable {DATE_TIME_FORMATTER : DateTime → Bytes}
variable {screen next : RoomScreen DateTime}

/-- The handling of a lost connection. -/
def loses : ScreenLabel DateTime → Bool
  | .room (.client (.main (.handleMessage .SocketAWOL) _)) =>
      true
  | _ =>
      false

/-- The rows that everything given to a room makes, if all of it has a time. -/
def givenRows
    (DATE_TIME_FORMATTER : DateTime → Bytes)
    (rows :
      List
        (Nat ×
          Display (LoginArguments DateTime) (MessageArguments DateTime))) :
    Option (List TableRow) :=
  (rows.mapM fun given =>
    elements DATE_TIME_FORMATTER given.2.row).map List.flatten

/--
One room at most has been shown.  Before it is ready, its transaction waits
behind that of the login fragment and nothing was given to it; from then on it
is on the screen with everything it was given.
-/
structure Whole
    (DATE_TIME_FORMATTER : DateTime → Bytes)
    (screen : RoomScreen DateTime) : Prop where
  shown :
    screen.client.shown = screen.client.activity.mRoomFragment.toList
  complete :
    givenRows DATE_TIME_FORMATTER screen.client.activity.rows =
      some screen.mMessageTable
  nothingLost :
    screen.notAdded = []
  waiting :
    screen.client.activity.roomReady = false →
      screen.client.activity.rows = [] ∧
        ∃ logins,
          (∀ fragment ∈ logins, fragment = Fragment.login) ∧
            screen.client.transactions =
              logins ++ screen.client.shown.map Fragment.room
  ready :
    screen.client.activity.roomReady = true →
      screen.client.transactions = [] ∧
        ∃ fragment,
          screen.client.activity.mRoomFragment = some fragment ∧
            screen.added = some (.room fragment)

theorem Whole.onCreate :
    Whole DATE_TIME_FORMATTER onCreate := by
  refine ⟨rfl, rfl, rfl, ?_, fun ready => Bool.noConfusion ready⟩
  intro _
  exact ⟨rfl, [.login], by simp, rfl⟩

/-- One more event makes its rows behind those of the others. -/
theorem givenRows_concat
    (rows :
      List
        (Nat ×
          Display (LoginArguments DateTime) (MessageArguments DateTime)))
    (given :
      Nat ×
        Display (LoginArguments DateTime) (MessageArguments DateTime)) :
    givenRows DATE_TIME_FORMATTER (rows ++ [given]) =
      (givenRows DATE_TIME_FORMATTER rows).bind fun table =>
        (elements DATE_TIME_FORMATTER given.2.row).map (table ++ ·) := by
  unfold givenRows
  rw [List.mapM_append, List.mapM_cons, List.mapM_nil]
  cases rows.mapM fun given => elements DATE_TIME_FORMATTER given.2.row with
  | none =>
      rfl
  | some tables =>
      cases elements DATE_TIME_FORMATTER given.2.row with
      | none =>
          rfl
      | some table =>
          simp

/--
A step of the client that throws nothing: it commits nothing to a manager that
refuses it, and what it gives to the room on the screen has a time.
-/
theorem after?_client_cases
    {client :
      RoomClient DateTime (LoginArguments DateTime)
        (MessageArguments DateTime)}
    {label :
      ActivityLabel DateTime (LoginArguments DateTime)
        (MessageArguments DateTime)}
    (isNext :
      screen.after? DATE_TIME_FORMATTER client (.client label) =
        some next) :
    (commits screen.client.activity label && screen.mStateSaved) = false ∧
      ((screen.client.activity.gives label = none ∧
          next = { screen with client := client }) ∨
        ∃ given,
          screen.client.activity.gives label = some given ∧
            createWrapper? DATE_TIME_FORMATTER
              { screen with client := client } given = some next) := by
  change (if _ then none else _) = some next at isNext
  split at isNext
  · contradiction
  · rename_i accepted
    refine ⟨Bool.eq_false_iff.mpr accepted, ?_⟩
    cases gives : screen.client.activity.gives label with
    | none =>
        rw [gives] at isNext
        exact Or.inl ⟨rfl, (Option.some.inj isNext).symm⟩
    | some given =>
        rw [gives] at isNext
        exact Or.inr ⟨given, rfl, isNext⟩

/-- A step that throws nothing leaves the client as it leaves the screen. -/
theorem client_of_after?
    {client :
      RoomClient DateTime (LoginArguments DateTime)
        (MessageArguments DateTime)}
    {label :
      RoomLabel DateTime (LoginArguments DateTime)
        (MessageArguments DateTime)}
    (isNext :
      screen.after? DATE_TIME_FORMATTER client label = some next) :
    next.client = client := by
  cases label with
  | executeTransaction fragment =>
      obtain rfl := Option.some.inj isNext
      rfl
  | client label =>
      obtain ⟨_, ⟨_, rfl⟩ | ⟨given, _, wrapped⟩⟩ :=
        after?_client_cases isNext
      · rfl
      · unfold createWrapper? at wrapped
        split at wrapped
        · obtain ⟨rows, _, rfl⟩ := Option.map_eq_some_iff.mp wrapped
          rfl
        · obtain rfl := Option.some.inj wrapped
          rfl

/-- A step of the client that leaves room and transactions alone. -/
theorem Whole.keep
    [DecidableEq DateTime]
    (whole : Whole DATE_TIME_FORMATTER screen)
    {client :
      RoomClient DateTime (LoginArguments DateTime)
        (MessageArguments DateTime)}
    {label :
      ActivityLabel DateTime (LoginArguments DateTime)
        (MessageArguments DateTime)}
    (acted :
      Activity.step? screen.client.activity label = some client.activity)
    (isNext :
      screen.after? DATE_TIME_FORMATTER client (.client label) = some next)
    (shown : client.shown = screen.client.shown)
    (transactions : client.transactions = screen.client.transactions)
    (roomReady :
      client.activity.roomReady = screen.client.activity.roomReady)
    (mRoomFragment :
      client.activity.mRoomFragment =
        screen.client.activity.mRoomFragment) :
    Whole DATE_TIME_FORMATTER next := by
  have isShown := whole.shown
  have waits := whole.waiting
  have isReady := whole.ready
  rw [← shown, ← mRoomFragment] at isShown
  rw [← roomReady, ← shown, ← transactions] at waits
  rw [← roomReady, ← transactions, ← mRoomFragment] at isReady
  have rows := Activity.step?_gives acted
  obtain ⟨_, ⟨nothing, rfl⟩ | ⟨given, isGiven, wrapped⟩⟩ :=
    after?_client_cases isNext
  · rw [nothing, Option.toList_none, List.append_nil] at rows
    rw [← rows] at waits
    refine ⟨isShown, ?_, whole.nothingLost, waits, isReady⟩
    rw [rows]
    exact whole.complete
  · obtain ⟨ready, room⟩ := Activity.room_of_gives acted isGiven
    obtain ⟨_, fragment, isRoom, isAdded⟩ := whole.ready ready
    rw [mRoomFragment, isRoom, Option.some.injEq] at room
    subst room
    rw [createWrapper?, if_pos isAdded] at wrapped
    obtain ⟨table, written, rfl⟩ := Option.map_eq_some_iff.mp wrapped
    refine ⟨isShown, ?_, whole.nothingLost, ?_, isReady⟩
    · rw [rows, isGiven, Option.toList_some, givenRows_concat,
        whole.complete, Option.bind_some, written]
      rfl
    · intro notReady
      change client.activity.roomReady = false at notReady
      rw [roomReady, ready] at notReady
      contradiction

/-- The first room is shown. -/
theorem Whole.show
    [DecidableEq DateTime]
    (whole : Whole DATE_TIME_FORMATTER screen)
    {client :
      RoomClient DateTime (LoginArguments DateTime)
        (MessageArguments DateTime)}
    {label :
      ActivityLabel DateTime (LoginArguments DateTime)
        (MessageArguments DateTime)}
    {room : Nat}
    (acted :
      Activity.step? screen.client.activity label = some client.activity)
    (isNext :
      screen.after? DATE_TIME_FORMATTER client (.client label) = some next)
    (shown : client.shown = screen.client.shown ++ [room])
    (transactions :
      client.transactions = screen.client.transactions ++ [.room room])
    (roomReady :
      client.activity.roomReady = screen.client.activity.roomReady)
    (mRoomFragment : client.activity.mRoomFragment = some room)
    (oneRoom : client.shown.length ≤ 1) :
    Whole DATE_TIME_FORMATTER next := by
  rw [shown, List.length_append, List.length_singleton] at oneRoom
  have none : screen.client.shown = [] :=
    List.eq_nil_of_length_eq_zero (by omega)
  have notReady : screen.client.activity.roomReady = false := by
    cases isReady : screen.client.activity.roomReady with
    | false =>
        rfl
    | true =>
        obtain ⟨_, fragment, isRoom, _⟩ := whole.ready isReady
        have isShown := whole.shown
        rw [none, isRoom] at isShown
        contradiction
  obtain ⟨noRows, logins, areLogins, waits⟩ := whole.waiting notReady
  have rows := Activity.step?_gives acted
  obtain ⟨_, ⟨nothing, rfl⟩ | ⟨given, isGiven, _⟩⟩ :=
    after?_client_cases isNext
  · rw [nothing, Option.toList_none, List.append_nil] at rows
    refine ⟨?_, ?_, whole.nothingLost, ?_, ?_⟩
    · rw [shown, none, mRoomFragment]
      rfl
    · rw [rows]
      exact whole.complete
    · intro _
      refine ⟨rows.trans noRows, logins, areLogins, ?_⟩
      rw [transactions, waits, shown, none, List.map_nil, List.append_nil]
      rfl
    · intro ready
      change client.activity.roomReady = true at ready
      rw [roomReady, notReady] at ready
      contradiction
  · have ready := (Activity.room_of_gives acted isGiven).1
    rw [notReady] at ready
    contradiction

variable [DecidableEq DateTime]

/-- A fragment comes on the screen. -/
theorem Whole.execute
    (whole : Whole DATE_TIME_FORMATTER screen)
    {fragment : Fragment}
    {activity :
      Activity DateTime (LoginArguments DateTime)
        (MessageArguments DateTime)}
    (first : screen.client.transactions.head? = some fragment)
    (acted :
      RoomClient.onViewCreated? screen.client.activity fragment =
        some activity)
    (isNext :
      screen.after? DATE_TIME_FORMATTER
          (screen.client.afterExecute activity fragment)
          (.executeTransaction fragment) =
        some next) :
    Whole DATE_TIME_FORMATTER next := by
  obtain rfl := Option.some.inj isNext
  have notReady : screen.client.activity.roomReady = false := by
    cases isReady : screen.client.activity.roomReady with
    | false =>
        rfl
    | true =>
        rw [(whole.ready isReady).1] at first
        contradiction
  obtain ⟨noRows, logins, areLogins, waits⟩ := whole.waiting notReady
  rw [waits] at first
  have isShown := whole.shown
  cases fragment with
  | login =>
      obtain ⟨_, rfl⟩ := guarded_eq_some.mp acted
      cases logins with
      | nil =>
          cases shown : screen.client.shown <;> simp [shown] at first
      | cons front logins =>
          refine ⟨isShown, ?_, whole.nothingLost, ?_, ?_⟩
          · change givenRows _ screen.client.activity.rows = some []
            rw [noRows]
            rfl
          · intro _
            refine ⟨noRows, logins, ?_, ?_⟩
            · intro fragment member
              exact areLogins fragment (List.mem_cons_of_mem _ member)
            · change screen.client.transactions.tail = _
              rw [waits]
              rfl
          · intro ready
            change screen.client.activity.roomReady = true at ready
            rw [notReady] at ready
            contradiction
  | room fragment =>
      obtain ⟨_, rfl⟩ := guarded_eq_some.mp acted
      cases logins with
      | nil =>
          cases room : screen.client.activity.mRoomFragment with
          | none =>
              rw [room] at isShown
              simp [isShown] at first
          | some shown =>
              rw [room] at isShown
              simp [isShown] at first
              subst first
              refine ⟨?_, ?_, whole.nothingLost, ?_, ?_⟩
              · exact isShown
              · change givenRows _ screen.client.activity.rows = some []
                rw [noRows]
                rfl
              · exact fun notReady => Bool.noConfusion notReady
              · intro _
                refine ⟨?_, shown, rfl, rfl⟩
                change screen.client.transactions.tail = []
                rw [waits, isShown]
                rfl
      | cons front logins =>
          have isLogin := areLogins front List.mem_cons_self
          simp [isLogin] at first

/--
A step is one of the life of the activity, or one of the client; that one throws
or goes on.
-/
theorem step?_cases
    {label : ScreenLabel DateTime}
    (taken : step? DATE_TIME_FORMATTER screen label = some next) :
    ((label = .onSaveInstanceState ∨ label = .noteStateNotSaved) ∧
        screen.client.activity.Responsive ∧
          ∃ mStateSaved,
            next = { screen with mStateSaved := mStateSaved }) ∨
      ∃ inner client,
        label = .room inner ∧
          RoomClient.step? screen.client inner = some client ∧
            (screen.after? DATE_TIME_FORMATTER client inner = none ∧
                next = screen.crash ∨
              screen.after? DATE_TIME_FORMATTER client inner =
                some next) := by
  cases label with
  | onSaveInstanceState =>
      obtain ⟨responsive, rfl⟩ := guarded_eq_some.mp taken
      exact Or.inl ⟨Or.inl rfl, responsive, true, rfl⟩
  | noteStateNotSaved =>
      obtain ⟨responsive, rfl⟩ := guarded_eq_some.mp taken
      exact Or.inl ⟨Or.inr rfl, responsive, false, rfl⟩
  | room inner =>
      obtain ⟨client, moved, isNext⟩ := Option.map_eq_some_iff.mp taken
      refine Or.inr ⟨inner, client, rfl, moved, ?_⟩
      cases after : screen.after? DATE_TIME_FORMATTER client inner with
      | none =>
          rw [after, Option.getD_none] at isNext
          exact Or.inl ⟨rfl, isNext.symm⟩
      | some shown =>
          rw [after, Option.getD_some] at isNext
          exact Or.inr (congrArg some isNext)

omit [DecidableEq DateTime] in
/-- A screen that only saves its state, or is gone, shows what it showed. -/
theorem Whole.idle
    (whole : Whole DATE_TIME_FORMATTER screen)
    (mStateSaved : Bool) :
    Whole DATE_TIME_FORMATTER { screen with mStateSaved := mStateSaved } :=
  ⟨whole.shown, whole.complete, whole.nothingLost, whole.waiting,
    whole.ready⟩

omit [DecidableEq DateTime] in
theorem Whole.crash
    (whole : Whole DATE_TIME_FORMATTER screen) :
    Whole DATE_TIME_FORMATTER screen.crash :=
  ⟨whole.shown, whole.complete, whole.nothingLost, whole.waiting,
    whole.ready⟩

/-- A step of the client, or of its fragment manager, that throws nothing. -/
theorem Whole.room
    (whole : Whole DATE_TIME_FORMATTER screen)
    {client :
      RoomClient DateTime (LoginArguments DateTime)
        (MessageArguments DateTime)}
    {label :
      RoomLabel DateTime (LoginArguments DateTime)
        (MessageArguments DateTime)}
    (moved : RoomClient.step? screen.client label = some client)
    (isNext :
      screen.after? DATE_TIME_FORMATTER client label = some next)
    (stays : loses (.room label) = false)
    (oneRoom : client.shown.length ≤ 1) :
    Whole DATE_TIME_FORMATTER next := by
  rcases RoomClient.step?_cases moved with
    ⟨inner, activity, rfl, noReport, acted, rfl⟩ |
      ⟨fragment, activity, rfl, first, acted, rfl⟩
  · have room := Activity.step?_room acted
    have isAfter := screen.client.afterClient_activity activity inner
    rcases RoomClient.label_cases noReport with
      ⟨now, rfl⟩ | ⟨ref, login, now, rfl⟩ | quiet
    · contradiction
    · have displays := RoomClient.displaysLogin acted
      rw [← isAfter] at acted
      cases shows :
          screen.client.activity.expectingLogin ||
            !screen.client.activity.loggedIn with
      | true =>
          obtain ⟨shown, transactions, isRoom, _⟩ := displays.shows shows
          exact whole.show acted isNext shown transactions
            displays.roomReady isRoom oneRoom
      | false =>
          obtain ⟨shown, transactions, isRoom, _⟩ := displays.keeps shows
          exact whole.keep acted isNext shown transactions
            displays.roomReady isRoom
    · rw [quiet.room] at room
      injection room with ready fragment count
      rw [quiet.after] at isNext
      exact whole.keep acted isNext rfl rfl ready fragment
  · exact whole.execute first acted isNext

/-- Every step but the handling of a loss keeps what one room shows. -/
theorem Whole.step
    (whole : Whole DATE_TIME_FORMATTER screen)
    {label : ScreenLabel DateTime}
    (taken : step? DATE_TIME_FORMATTER screen label = some next)
    (stays : loses label = false)
    (oneRoom : next.client.shown.length ≤ 1) :
    Whole DATE_TIME_FORMATTER next := by
  rcases step?_cases taken with
    ⟨_, _, mStateSaved, rfl⟩ |
      ⟨inner, client, rfl, moved, ⟨_, rfl⟩ | after⟩
  · exact whole.idle mStateSaved
  · exact whole.crash
  · rw [client_of_after? after] at oneRoom
    exact whole.room moved after stays oneRoom

/-- A step that loses no connection shows at most one more room. -/
theorem shown_le
    {label : ScreenLabel DateTime}
    (taken : step? DATE_TIME_FORMATTER screen label = some next)
    (stays : loses label = false) :
    screen.client.shown.length ≤ next.client.shown.length := by
  rcases step?_cases taken with
    ⟨_, _, mStateSaved, rfl⟩ |
      ⟨inner, client, rfl, moved, ⟨_, rfl⟩ | after⟩
  · exact Nat.le_refl _
  · exact Nat.le_refl _
  · rw [client_of_after? after]
    rcases RoomClient.step?_cases moved with
      ⟨label, activity, rfl, noReport, acted, rfl⟩ |
        ⟨fragment, activity, rfl, first, acted, rfl⟩
    · rcases RoomClient.label_cases noReport with
        ⟨now, rfl⟩ | ⟨ref, login, now, rfl⟩ | quiet
      · contradiction
      · unfold RoomClient.afterClient
        dsimp only
        split
        · rw [List.length_append]
          exact Nat.le_add_right _ _
        · exact Nat.le_refl _
      · exact Nat.le_of_eq (by rw [quiet.after])
    · cases fragment <;> exact Nat.le_refl _

/--
As long as no connection was lost and one room at most was shown, the table on
the screen is everything that the activity gave to a room, in that order and
all of it with a time, and nothing was given to a room that was not added.
-/
theorem table_complete
    {labels : List (ScreenLabel DateTime)}
    (reached :
      run? (step? DATE_TIME_FORMATTER) onCreate labels = some screen)
    (connected : ∀ label ∈ labels, loses label = false)
    (oneRoom : screen.client.shown.length ≤ 1) :
    givenRows DATE_TIME_FORMATTER screen.client.activity.rows =
        some screen.mMessageTable ∧
      screen.notAdded = [] := by
  have whole :
      (∀ label ∈ labels, loses label = false) →
        screen.client.shown.length ≤ 1 →
          Whole DATE_TIME_FORMATTER screen := by
    refine @LabelledRun.invariant _ _ _ _
      (fun labels screen =>
        (∀ label ∈ labels, loses label = false) →
          screen.client.shown.length ≤ 1 →
            Whole DATE_TIME_FORMATTER screen)
      ?_ ?_ _ _ reached
    · exact fun _ _ => Whole.onCreate
    · intro past middle label next _ holds taken stays oneRoom
      have stay := stays label (List.mem_append_right _ (by simp))
      have before :=
        holds (fun other member => stays other
            (List.mem_append_left _ member))
          (Nat.le_trans (shown_le taken stay) oneRoom)
      exact before.step taken stay oneRoom
  have isWhole := whole connected oneRoom
  exact ⟨isWhole.complete, isWhole.nothingLost⟩

/-- A login has waited for its room, and a message follows. -/
theorem table_complete_logIn :
    let date : Nat → Bytes := fun _ => ascii "2016-12-11 03:00:00"
    let own :
        Display (LoginArguments Nat) (MessageArguments Nat) :=
      ⟨0, .login (some 0, "ann")⟩
    let req : ClientRequest Nat := .LoginRequest 0 "ann"
    let posted :
        Display (LoginArguments Nat) (MessageArguments Nat) :=
      ⟨1, .message (some 0, "bob", "hello")⟩
    let labels : List (ScreenLabel Nat) :=
      [.room (.client (.login 0 "ann")),
        .room (.client (.background (.socketConnect 0 req) (.ok ()))),
        .room (.client (.main (.connectPostExecute 0 req (.ok ())) 0)),
        .room (.client (.background (.send 0 req) (.ok ()))),
        .room (.client (.main (.sendPostExecute 0 req (.ok ())) 0)),
        .room (.client (.main (.handleMessage .ExpectingLogin) 0)),
        .room (.client (.visitRow 0 own.row)),
        .room (.client (.main (.handleMessage (.Display own)) 0)),
        .onSaveInstanceState,
        .room (.executeTransaction .login),
        .room (.executeTransaction (.room 0)),
        .room (.client (.background (.resend own) (.ok ()))),
        .room (.client (.visitRow 0 posted.row)),
        .room (.client (.main (.handleMessage (.Display own)) 0)),
        .noteStateNotSaved,
        .room (.client (.main (.handleMessage (.Display posted)) 0))]
    ∃ screen,
      run? (step? date) onCreate labels = some screen ∧
        screen.client.activity.rows = [(0, own), (0, posted)] ∧
          screen.mMessageTable =
            [.joined (date 0) "ann", .info (date 0) "bob",
              .content "hello"] := by
  intro date own req posted labels
  have finished :
      (run? (step? date) onCreate labels).map
          (fun screen => screen.client.shown) =
        some [0] := by
    decide
  have rows :
      (run? (step? date) onCreate labels).map
          (fun screen => screen.client.activity.rows) =
        some [(0, own), (0, posted)] := by
    rfl
  obtain ⟨screen, reached, shown⟩ := Option.map_eq_some_iff.mp finished
  rw [reached, Option.map_some, Option.some.injEq] at rows
  have connected : ∀ label ∈ labels, loses label = false := by
    decide
  have table :=
    (table_complete reached connected (by rw [shown]; decide)).1
  rw [rows] at table
  exact ⟨screen, reached, rows, (Option.some.inj table).symm⟩

end RoomScreen

end ChatRelay.Client
