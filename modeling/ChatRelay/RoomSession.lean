import Mathlib.Data.List.Basic
import ChatRelay.ClientActivity

namespace ChatRelay.Client

/-!
# One room per session

`showRoomFragment` creates a fragment and commits a transaction.  The fragment
manager executes the transactions later, on the main thread and in the order of
their commits, and the view that it creates for a room fragment calls
`onRoomReady`.

The comments say that the race between `ExpectingLogin` and the login that it
announces is covered.  It is not: an `ExpectingLogin` that comes second is still
expecting when the next `DisplayLogin` is handled, which shows a second room.
-/

open LabelledRun
open RequestFraming (ClientRequest)

namespace Activity

variable {DateTime Login Chat : Type}

/-! ### What a step does to the room -/

/-- The fields of the client that speak of its room. -/
structure Room where
  roomReady : Bool
  mRoomFragment : Option Nat
  nextFragment : Nat

section Room

variable (state : Activity DateTime Login Chat)

/-- The room as the client knows it. -/
def room : Room :=
  ⟨state.roomReady, state.mRoomFragment, state.nextFragment⟩

/-- Whether the step calls `showRoomFragment`. -/
def showsRoom : ActivityLabel DateTime Login Chat → Bool
  | .main (.handleMessage (.Display ⟨_, .login _⟩)) _ =>
      state.expectingLogin || !state.loggedIn
  | _ =>
      false

/-- The room after a step. -/
def roomAfterStep : ActivityLabel DateTime Login Chat → Room
  | .onRoomReady =>
      { state.room with roomReady := true }
  | .main (.handleMessage .SocketAWOL) _ =>
      { state.room with roomReady := false }
  | label =>
      if state.showsRoom label then
        { state.room with
          mRoomFragment := some state.nextFragment
          nextFragment := state.nextFragment + 1 }
      else
        state.room

@[simp] theorem room_sendMessage
    (msg : HandlerMessage Login Chat) :
    (state.sendMessage msg).room = state.room :=
  rfl

@[simp] theorem room_execute
    (task : BackgroundTask DateTime Login Chat) :
    (state.execute task).room = state.room :=
  rfl

@[simp] theorem room_setConnection
    (connection : Nat)
    (fields : Connection) :
    (state.setConnection connection fields).room = state.room :=
  rfl

@[simp] theorem room_closeConnection :
    state.closeConnection.room = state.room := by
  unfold closeConnection
  split
  · rfl
  · dsimp only
    split <;> rfl

@[simp] theorem room_onSendError
    (message : ClientRequest DateTime)
    (text : String) :
    (state.onSendError message text).room = state.room := by
  cases message with
  | LoginRequest mDateTime mSender =>
      exact room_closeConnection _
  | MessageRequest mDateTime mSender mContent =>
      rfl

@[simp] theorem room_onSendSuccess
    (message : ClientRequest DateTime) :
    (state.onSendSuccess message : Activity DateTime Login Chat).room =
      state.room := by
  cases message <;> rfl

@[simp] theorem room_send
    (message : ClientRequest DateTime) :
    (state.send message).room = state.room := by
  unfold send
  split
  · rfl
  · split
    · rfl
    · rw [room_execute, room_onSendError]

@[simp] theorem room_display
    (obj : Display Login Chat) :
    (state.display obj).room = state.room := by
  unfold display
  split
  · split <;> rfl
  · rfl

/-- A `DisplayLogin` shows a room if it is the login the client waits for. -/
theorem room_acceptLogin :
    state.acceptLogin.room =
      if state.expectingLogin || !state.loggedIn then
        { state.room with
          mRoomFragment := some state.nextFragment
          nextFragment := state.nextFragment + 1 }
      else
        state.room := by
  unfold acceptLogin
  split <;> rfl

end Room

section Step

/-- A task of the main thread changes the room as its step says. -/
theorem runMain_room
    (state : Activity DateTime Login Chat)
    (task : MainTask DateTime Login Chat)
    (now : DateTime) :
    (state.runMain now task).room =
      state.roomAfterStep (.main task now) := by
  cases task with
  | handleMessage inputMessage =>
      cases inputMessage with
      | SendMessage obj =>
          exact state.room_send _
      | ExpectingLogin =>
          rfl
      | SocketAWOL =>
          exact room_closeConnection _
      | DisplayError obj =>
          rfl
      | Display obj =>
          rcases obj with ⟨ref, row⟩
          cases row with
          | login login =>
              exact (room_display _ _).trans state.room_acceptLogin
          | message chat =>
              exact state.room_display _
  | connectPostExecute connection req result =>
      cases result with
      | error text =>
          rfl
      | ok done =>
          exact room_send _ req
  | sendPostExecute connection message result =>
      cases result with
      | error text =>
          exact state.room_onSendError message text
      | ok done =>
          exact state.room_onSendSuccess message

variable [DecidableEq DateTime] [DecidableEq Login] [DecidableEq Chat]

/-- Every step changes the room as its label says. -/
theorem step?_room
    {state next : Activity DateTime Login Chat}
    {label : ActivityLabel DateTime Login Chat}
    (taken : step? state label = some next) :
    next.room = state.roomAfterStep label := by
  cases label with
  | main task now =>
      obtain ⟨_, rfl⟩ := guarded_eq_some.mp taken
      exact runMain_room _ task now
  | background task result =>
      obtain ⟨_, rfl⟩ := guarded_eq_some.mp taken
      cases task <;> rfl
  | _ =>
      obtain ⟨_, rfl⟩ := guarded_eq_some.mp taken
      rfl

end Step

end Activity

/-! ### The fragment manager -/

/--
The client with its fragment manager: the transactions that are committed and
not yet executed, the fragments that `showRoomFragment` has shown since the
last `SocketAWOL`, and the fragment that has called `onRoomReady` last.
-/
structure RoomClient (DateTime Login Chat : Type) where
  activity : Activity DateTime Login Chat
  transactions : List Fragment
  shown : List Nat
  readyFragment : Option Nat

/-- A step of the client or of its fragment manager. -/
inductive RoomLabel (DateTime Login Chat : Type) where
  | client (label : ActivityLabel DateTime Login Chat) :
      RoomLabel DateTime Login Chat
  | executeTransaction (fragment : Fragment) :
      RoomLabel DateTime Login Chat
  deriving Repr, DecidableEq

namespace RoomClient

variable {DateTime Login Chat : Type}

/-- `onCreate` has committed the login fragment. -/
def onCreate : RoomClient DateTime Login Chat where
  activity := Activity.onCreate
  transactions := [.login]
  shown := []
  readyFragment := none

/-- The client and its transactions after a step of the client. -/
def afterClient
    (state : RoomClient DateTime Login Chat)
    (next : Activity DateTime Login Chat) :
    ActivityLabel DateTime Login Chat → RoomClient DateTime Login Chat
  | .main (.handleMessage .SocketAWOL) _ =>
      { state with
        activity := next
        transactions := state.transactions ++ [.login]
        shown := [] }
  | label =>
      if state.activity.showsRoom label then
        { state with
          activity := next
          transactions :=
            state.transactions ++ [.room state.activity.nextFragment]
          shown := state.shown ++ [state.activity.nextFragment] }
      else
        { state with activity := next }

/-- The transaction that shows a fragment has been executed. -/
def afterExecute
    (state : RoomClient DateTime Login Chat)
    (next : Activity DateTime Login Chat) :
    Fragment → RoomClient DateTime Login Chat
  | .login =>
      { state with
        activity := next
        transactions := state.transactions.tail }
  | .room fragment =>
      { state with
        activity := next
        transactions := state.transactions.tail
        readyFragment := some fragment }

section Step

variable [DecidableEq DateTime] [DecidableEq Login] [DecidableEq Chat]

/-- `onViewCreated` of the fragment; that of a room calls `onRoomReady`. -/
def onViewCreated?
    (activity : Activity DateTime Login Chat) :
    Fragment → Option (Activity DateTime Login Chat)
  | .login =>
      guarded activity.Responsive activity
  | .room _ =>
      Activity.step? activity .onRoomReady

/-- The steps; `onRoomReady` is called by `onViewCreated` and nothing else. -/
def step?
    (state : RoomClient DateTime Login Chat) :
    RoomLabel DateTime Login Chat →
      Option (RoomClient DateTime Login Chat)
  | .client .onRoomReady =>
      none
  | .client label =>
      (Activity.step? state.activity label).map fun next =>
        state.afterClient next label
  | .executeTransaction fragment =>
      if state.transactions.head? = some fragment then
        (onViewCreated? state.activity fragment).map fun next =>
          state.afterExecute next fragment
      else
        none

end Step

/-! ### Sessions -/

/-- The calls of `login` in a session after one more step. -/
def callsAfter
    (calls : Nat) :
    RoomLabel DateTime Login Chat → Nat
  | .client (.login _ _) =>
      calls + 1
  | .client (.main (.handleMessage .SocketAWOL) _) =>
      0
  | _ =>
      calls

/-- The calls of `login` since the last `SocketAWOL`. -/
def loginCalls
    (labels : List (RoomLabel DateTime Login Chat)) :
    Nat :=
  labels.foldl callsAfter 0

/-- Whether a session has handled a `DisplayLogin` after one more step. -/
def displayedAfter
    (displayed : Bool) :
    RoomLabel DateTime Login Chat → Bool
  | .client (.main (.handleMessage (.Display ⟨_, .login _⟩)) _) =>
      true
  | .client (.main (.handleMessage .SocketAWOL) _) =>
      false
  | _ =>
      displayed

/-- A `DisplayLogin` has been handled since the last `SocketAWOL`. -/
def loginDisplayed
    (labels : List (RoomLabel DateTime Login Chat)) :
    Bool :=
  labels.foldl displayedAfter false

/--
In a session with one call of `login`, `showRoomFragment` is called exactly
once, by the first `DisplayLogin`, and the room that is recorded as ready is
the one that is shown.
-/
def OneRoom
    (labels : List (RoomLabel DateTime Login Chat))
    (state : RoomClient DateTime Login Chat) : Prop :=
  loginCalls labels ≤ 1 →
    state.shown.length = (loginDisplayed labels).toNat ∧
      (state.activity.roomReady = true →
        state.activity.mRoomFragment = state.readyFragment)

/--
A step that keeps the room: no `DisplayLogin` is handled when the client is
logged in and expects a login again, or is logged out and an old room has
reported ready since; and no room reports ready when another one is shown.
-/
def KeepsRoom
    (past : List (RoomLabel DateTime Login Chat))
    (state : RoomClient DateTime Login Chat) :
    RoomLabel DateTime Login Chat → Prop
  | .client (.main (.handleMessage (.Display ⟨_, .login _⟩)) _) =>
      loginCalls past ≤ 1 →
        if state.activity.loggedIn then
          state.activity.expectingLogin = false
        else
          state.activity.roomReady = false
  | .executeTransaction (.room fragment) =>
      loginCalls past ≤ 1 →
        state.activity.mRoomFragment = some fragment
  | _ =>
      True

@[simp] theorem afterClient_activity
    (state : RoomClient DateTime Login Chat)
    (next : Activity DateTime Login Chat)
    (label : ActivityLabel DateTime Login Chat) :
    (state.afterClient next label).activity = next := by
  unfold afterClient
  split
  · rfl
  · split <;> rfl

/-! ### The steps of a session -/

/-- A step that is no part of a session: it neither displays a login nor ends one. -/
structure Quiet (label : ActivityLabel DateTime Login Chat) : Prop where
  room : ∀ activity : Activity DateTime Login Chat,
    activity.roomAfterStep label = activity.room
  loggedIn : ∀ loggedIn, Activity.loggedInAfterStep loggedIn label = loggedIn
  after : ∀ (state : RoomClient DateTime Login Chat) next,
    state.afterClient next label = { state with activity := next }
  displayed : ∀ displayed, displayedAfter displayed (.client label) = displayed
  calls : ∀ calls, calls ≤ callsAfter calls (.client label)
  keeps : ∀ past state, KeepsRoom past state (.client label)

theorem loginDisplayed_concat
    (past : List (RoomLabel DateTime Login Chat))
    (label : RoomLabel DateTime Login Chat) :
    loginDisplayed (past ++ [label]) =
      displayedAfter (loginDisplayed past) label :=
  List.foldl_append

theorem loginCalls_concat
    (past : List (RoomLabel DateTime Login Chat))
    (label : RoomLabel DateTime Login Chat) :
    loginCalls (past ++ [label]) =
      callsAfter (loginCalls past) label :=
  List.foldl_append

/-- A step of the client loses the session, displays a login or is quiet. -/
theorem label_cases
    {label : ActivityLabel DateTime Login Chat}
    (noReport : label ≠ .onRoomReady) :
    (∃ now, label = .main (.handleMessage .SocketAWOL) now) ∨
      (∃ ref login now,
        label =
          .main (.handleMessage (.Display ⟨ref, .login login⟩)) now) ∨
      Quiet label := by
  cases label with
  | onRoomReady =>
      exact (noReport rfl).elim
  | login mDateTime mSender =>
      exact Or.inr (Or.inr ⟨fun _ => rfl, fun _ => rfl, fun _ _ => rfl,
        fun _ => rfl, Nat.le_succ, fun _ _ => trivial⟩)
  | main task now =>
      cases task with
      | handleMessage inputMessage =>
          cases inputMessage with
          | SocketAWOL =>
              exact Or.inl ⟨now, rfl⟩
          | Display obj =>
              rcases obj with ⟨ref, row⟩
              cases row with
              | login login =>
                  exact Or.inr (Or.inl ⟨ref, login, now, rfl⟩)
              | message chat =>
                  exact Or.inr (Or.inr ⟨fun _ => rfl, fun _ => rfl,
                    fun _ _ => rfl, fun _ => rfl, Nat.le_refl,
                    fun _ _ => trivial⟩)
          | _ =>
              exact Or.inr (Or.inr ⟨fun _ => rfl, fun _ => rfl,
                fun _ _ => rfl, fun _ => rfl, Nat.le_refl,
                fun _ _ => trivial⟩)
      | _ =>
          exact Or.inr (Or.inr ⟨fun _ => rfl, fun _ => rfl,
            fun _ _ => rfl, fun _ => rfl, Nat.le_refl,
            fun _ _ => trivial⟩)
  | _ =>
      exact Or.inr (Or.inr ⟨fun _ => rfl, fun _ => rfl, fun _ _ => rfl,
        fun _ => rfl, Nat.le_refl, fun _ _ => trivial⟩)

variable [DecidableEq DateTime] [DecidableEq Login] [DecidableEq Chat]

/-- A step is one of the client or the execution of the first transaction. -/
theorem step?_cases
    {state next : RoomClient DateTime Login Chat}
    {label : RoomLabel DateTime Login Chat}
    (taken : step? state label = some next) :
    (∃ inner activity,
      label = .client inner ∧
        inner ≠ .onRoomReady ∧
        Activity.step? state.activity inner = some activity ∧
        next = state.afterClient activity inner) ∨
      ∃ fragment activity,
        label = .executeTransaction fragment ∧
          state.transactions.head? = some fragment ∧
          onViewCreated? state.activity fragment = some activity ∧
          next = state.afterExecute activity fragment := by
  cases label with
  | client inner =>
      by_cases report : inner = .onRoomReady
      · subst report
        contradiction
      · have isStep :
            step? state (.client inner) =
              (Activity.step? state.activity inner).map fun next =>
                state.afterClient next inner := by
          cases inner <;> first | rfl | exact (report rfl).elim
        rw [isStep] at taken
        obtain ⟨activity, moved, rfl⟩ := Option.map_eq_some_iff.mp taken
        exact Or.inl ⟨inner, activity, rfl, report, moved, rfl⟩
  | executeTransaction fragment =>
      change (if _ then _ else _) = some next at taken
      split at taken
      · rename_i first
        obtain ⟨activity, moved, rfl⟩ := Option.map_eq_some_iff.mp taken
        exact Or.inr ⟨fragment, activity, rfl, first, moved, rfl⟩
      · contradiction

/-! ### The room of a session -/

/-- What a `DisplayLogin` does to the client and its fragments. -/
structure DisplaysLogin
    (state : RoomClient DateTime Login Chat)
    (next : RoomClient DateTime Login Chat) : Prop where
  readyFragment : next.readyFragment = state.readyFragment
  roomReady : next.activity.roomReady = state.activity.roomReady
  shows :
    (state.activity.expectingLogin || !state.activity.loggedIn) = true →
    next.shown = state.shown ++ [state.activity.nextFragment] ∧
      next.transactions =
        state.transactions ++ [.room state.activity.nextFragment] ∧
      next.activity.mRoomFragment = some state.activity.nextFragment ∧
      next.activity.nextFragment = state.activity.nextFragment + 1
  keeps :
    (state.activity.expectingLogin || !state.activity.loggedIn) = false →
    next.shown = state.shown ∧
      next.transactions = state.transactions ∧
      next.activity.mRoomFragment = state.activity.mRoomFragment ∧
      next.activity.nextFragment = state.activity.nextFragment

theorem displaysLogin
    {state : RoomClient DateTime Login Chat}
    {activity : Activity DateTime Login Chat}
    {ref : Nat}
    {login : Login}
    {now : DateTime}
    (moved :
      Activity.step? state.activity
        (.main (.handleMessage (.Display ⟨ref, .login login⟩)) now) =
          some activity) :
    DisplaysLogin state
      (state.afterClient activity
        (.main (.handleMessage (.Display ⟨ref, .login login⟩)) now)) := by
  have room := Activity.step?_room moved
  cases shows :
      state.activity.expectingLogin || !state.activity.loggedIn with
  | true =>
      simp only [Activity.roomAfterStep, Activity.showsRoom, shows,
        if_true] at room
      simp only [afterClient, Activity.showsRoom, shows, if_true]
      injection room with ready fragment count
      refine ⟨rfl, ready, ?_, ?_⟩
      · intro _
        exact ⟨rfl, rfl, fragment, count⟩
      · intro keeps
        rw [shows] at keeps
        contradiction
  | false =>
      simp only [Activity.roomAfterStep, Activity.showsRoom, shows,
        Bool.false_eq_true, if_false] at room
      simp only [afterClient, Activity.showsRoom, shows,
        Bool.false_eq_true, if_false]
      injection room with ready fragment count
      refine ⟨rfl, ready, ?_, ?_⟩
      · intro shown
        rw [shows] at shown
        contradiction
      · intro _
        exact ⟨rfl, rfl, fragment, count⟩

/-- What holds of the client and its fragments in every session. -/
structure Tracked
    (past : List (RoomLabel DateTime Login Chat))
    (state : RoomClient DateTime Login Chat) : Prop where
  loggedIn : state.activity.loggedIn = loginDisplayed past
  ready : ∀ fragment, state.readyFragment = some fragment →
    fragment < state.activity.nextFragment
  committed : ∀ fragment, .room fragment ∈ state.transactions →
    fragment < state.activity.nextFragment

omit [DecidableEq DateTime] [DecidableEq Login] [DecidableEq Chat] in
/-- The fragments stay created, and what is committed was created. -/
theorem Tracked.of_count
    {past now : List (RoomLabel DateTime Login Chat)}
    {state next : RoomClient DateTime Login Chat}
    (tracked : Tracked past state)
    (loggedIn : next.activity.loggedIn = loginDisplayed now)
    (ready : next.readyFragment = state.readyFragment)
    (more : state.activity.nextFragment ≤ next.activity.nextFragment)
    (committed :
      ∀ fragment,
        .room fragment ∈ next.transactions →
        .room fragment ∈ state.transactions ∨
          fragment < next.activity.nextFragment) :
    Tracked now next := by
  refine ⟨loggedIn, ?_, ?_⟩
  · intro fragment isReady
    rw [ready] at isReady
    exact Nat.lt_of_lt_of_le (tracked.ready fragment isReady) more
  · intro fragment waits
    rcases committed fragment waits with before | created
    · exact Nat.lt_of_lt_of_le (tracked.committed fragment before) more
    · exact created

theorem Tracked.step
    {past : List (RoomLabel DateTime Login Chat)}
    {state next : RoomClient DateTime Login Chat}
    {label : RoomLabel DateTime Login Chat}
    (tracked : Tracked past state)
    (taken : step? state label = some next) :
    Tracked (past ++ [label]) next := by
  rcases step?_cases taken with
    ⟨inner, activity, rfl, noReport, moved, rfl⟩ |
      ⟨fragment, activity, rfl, first, moved, rfl⟩
  · have loggedIn := (Activity.step?_session moved).1
    have room := Activity.step?_room moved
    rcases label_cases noReport with
      ⟨now, rfl⟩ | ⟨ref, login, now, rfl⟩ | quiet
    · injection room with ready fragment count
      refine tracked.of_count ?_ rfl (Nat.le_of_eq count.symm) ?_
      · rw [loginDisplayed_concat]
        exact loggedIn
      · intro fragment waits
        left
        simpa [afterClient] using waits
    · have displays := displaysLogin moved
      cases shows :
          state.activity.expectingLogin || !state.activity.loggedIn with
      | true =>
          obtain ⟨_, transactions, _, count⟩ := displays.shows shows
          refine tracked.of_count ?_ displays.readyFragment ?_ ?_
          · rw [loginDisplayed_concat, afterClient_activity]
            exact loggedIn
          · rw [count]
            exact Nat.le_succ _
          · intro fragment waits
            rw [transactions, List.mem_append] at waits
            rcases waits with waits | isNew
            · exact Or.inl waits
            · obtain rfl := Fragment.room.inj (List.mem_singleton.mp isNew)
              rw [count]
              exact Or.inr (Nat.lt_succ_self _)
      | false =>
          obtain ⟨_, transactions, _, count⟩ := displays.keeps shows
          refine tracked.of_count ?_ displays.readyFragment
            (Nat.le_of_eq count.symm) ?_
          · rw [loginDisplayed_concat, afterClient_activity]
            exact loggedIn
          · intro fragment waits
            rw [transactions] at waits
            exact Or.inl waits
    · rw [quiet.room] at room
      injection room with ready fragment count
      rw [quiet.after]
      refine tracked.of_count ?_ rfl (Nat.le_of_eq count.symm) ?_
      · rw [loginDisplayed_concat, quiet.displayed]
        exact (loggedIn.trans (quiet.loggedIn _)).trans tracked.loggedIn
      · intro fragment waits
        exact Or.inl waits
  · cases fragment with
    | login =>
        obtain ⟨_, rfl⟩ := guarded_eq_some.mp moved
        refine ⟨?_, tracked.ready, ?_⟩
        · rw [loginDisplayed_concat]
          exact tracked.loggedIn
        · intro fragment waits
          exact tracked.committed fragment (List.mem_of_mem_tail waits)
    | room fragment =>
        obtain ⟨_, rfl⟩ := guarded_eq_some.mp moved
        refine ⟨?_, ?_, ?_⟩
        · rw [loginDisplayed_concat]
          exact tracked.loggedIn
        · intro other isReady
          obtain rfl := Option.some.inj isReady
          exact tracked.committed fragment (List.mem_of_head? first)
        · intro fragment waits
          exact tracked.committed fragment (List.mem_of_mem_tail waits)

theorem Tracked.of_run
    {labels : List (RoomLabel DateTime Login Chat)}
    {state : RoomClient DateTime Login Chat}
    (reached : run? step? onCreate labels = some state) :
    Tracked labels state := by
  refine invariant ?_ ?_ reached
  · refine ⟨rfl, ?_, ?_⟩
    · intro fragment isReady
      contradiction
    · intro fragment waits
      simp [onCreate] at waits
  · intro past state label next _ tracked taken
    exact tracked.step taken

/-- A `DisplayLogin` keeps one room exactly if it respects the room. -/
theorem OneRoom.display
    {past : List (RoomLabel DateTime Login Chat)}
    {state : RoomClient DateTime Login Chat}
    {activity : Activity DateTime Login Chat}
    {ref : Nat}
    {login : Login}
    {now : DateTime}
    (tracked : Tracked past state)
    (holds : OneRoom past state)
    (moved :
      Activity.step? state.activity
        (.main (.handleMessage (.Display ⟨ref, .login login⟩)) now) =
          some activity) :
    OneRoom
        (past ++
          [.client
            (.main (.handleMessage (.Display ⟨ref, .login login⟩)) now)])
        (state.afterClient activity
          (.main (.handleMessage (.Display ⟨ref, .login login⟩)) now)) ↔
      KeepsRoom past state
        (.client
          (.main (.handleMessage (.Display ⟨ref, .login login⟩)) now)) := by
  have displays := displaysLogin moved
  simp only [OneRoom, KeepsRoom, loginCalls_concat, loginDisplayed_concat,
    callsAfter, displayedAfter, Bool.toNat_true]
  refine imp_congr_right ?_
  intro oneCall
  obtain ⟨length, ready⟩ := holds oneCall
  rw [← tracked.loggedIn] at length
  cases isIn : state.activity.loggedIn with
  | true =>
      rw [isIn, Bool.toNat_true] at length
      rw [if_pos rfl]
      cases expects : state.activity.expectingLogin with
      | true =>
          obtain ⟨shown, _⟩ :=
            displays.shows (by rw [expects, Bool.true_or])
          refine iff_of_false ?_ Bool.noConfusion
          intro kept
          rw [shown, List.length_append, length] at kept
          simp at kept
      | false =>
          obtain ⟨shown, _, fragment, _⟩ :=
            displays.keeps (by rw [expects, isIn]; rfl)
          refine iff_of_true ?_ rfl
          rw [shown, displays.roomReady, fragment, displays.readyFragment]
          exact ⟨length, ready⟩
  | false =>
      rw [isIn, Bool.toNat_false] at length
      rw [if_neg Bool.false_ne_true]
      obtain ⟨shown, _, fragment, _⟩ :=
        displays.shows (by rw [isIn, Bool.not_false, Bool.or_true])
      rw [shown, displays.roomReady, fragment, displays.readyFragment,
        List.length_append, length]
      cases isReady : state.activity.roomReady with
      | true =>
          refine iff_of_false ?_ Bool.noConfusion
          intro kept
          have fresh := tracked.ready _ (kept.2 rfl).symm
          exact absurd fresh (Nat.lt_irrefl _)
      | false =>
          exact iff_of_true ⟨rfl, fun shown => Bool.noConfusion shown⟩ rfl

/-- A step keeps one room exactly if it respects the room. -/
theorem oneRoom_step
    {past : List (RoomLabel DateTime Login Chat)}
    {state next : RoomClient DateTime Login Chat}
    {label : RoomLabel DateTime Login Chat}
    (tracked : Tracked past state)
    (holds : OneRoom past state)
    (taken : step? state label = some next) :
    OneRoom (past ++ [label]) next ↔ KeepsRoom past state label := by
  rcases step?_cases taken with
    ⟨inner, activity, rfl, noReport, moved, rfl⟩ |
      ⟨fragment, activity, rfl, first, moved, rfl⟩
  · rcases label_cases noReport with
      ⟨now, rfl⟩ | ⟨ref, login, now, rfl⟩ | quiet
    · refine iff_of_true ?_ trivial
      intro _
      have room := Activity.step?_room moved
      injection room with ready fragment count
      refine ⟨?_, ?_⟩
      · rw [loginDisplayed_concat]
        rfl
      · intro isReady
        exact Bool.noConfusion (ready.symm.trans isReady)
    · exact holds.display tracked moved
    · refine iff_of_true ?_ (quiet.keeps past state)
      intro oneCall
      have room := (Activity.step?_room moved).trans (quiet.room _)
      injection room with ready fragment count
      rw [loginCalls_concat] at oneCall
      rw [loginDisplayed_concat, quiet.displayed, quiet.after]
      have kept := holds (Nat.le_trans (quiet.calls _) oneCall)
      rw [← ready, ← fragment] at kept
      exact kept
  · cases fragment with
    | login =>
        obtain ⟨_, rfl⟩ := guarded_eq_some.mp moved
        refine iff_of_true ?_ trivial
        intro oneCall
        rw [loginCalls_concat] at oneCall
        rw [loginDisplayed_concat]
        exact holds oneCall
    | room fragment =>
        obtain ⟨_, rfl⟩ := guarded_eq_some.mp moved
        simp only [OneRoom, KeepsRoom, loginCalls_concat,
          loginDisplayed_concat, callsAfter, displayedAfter]
        refine imp_congr_right ?_
        intro oneCall
        constructor
        · intro kept
          exact kept.2 rfl
        · intro isShown
          exact ⟨(holds oneCall).1, fun _ => isShown⟩

/--
In every run, every session with one call of `login` has one room exactly if
every step of the run respects the room.
-/
theorem oneRoom_iff
    {labels : List (RoomLabel DateTime Login Chat)}
    {final : RoomClient DateTime Login Chat}
    (reached : run? step? onCreate labels = some final) :
    Always step? onCreate OneRoom labels ↔
      EveryStep step? onCreate KeepsRoom labels := by
  refine always_iff_everyStep ?_ ?_ reached
  · intro _
    exact ⟨rfl, fun ready => Bool.noConfusion ready⟩
  · intro past state label next before holds taken
    exact oneRoom_step (Tracked.of_run before) holds taken

theorem oneRoom_iff_logIn :
    let stalled : Display String String := ⟨0, .login "ann"⟩
    let labels : List (RoomLabel Nat String String) :=
      (Activity.logIn 0 "ann" ++ Activity.receive 0 stalled).map .client ++
        [.executeTransaction .login, .executeTransaction (.room 0),
          .client (.background (.resend stalled) (.ok ())),
          .client (.main (.handleMessage (.Display stalled)) 0)]
    ∃ final,
      run? step? onCreate labels = some final ∧
        (Always step? onCreate OneRoom labels ↔
          EveryStep step? onCreate KeepsRoom labels) := by
  intro stalled labels
  have finished : (run? step? onCreate labels).isSome = true := by
    decide
  obtain ⟨final, reached⟩ := Option.isSome_iff_exists.mp finished
  exact ⟨final, reached, oneRoom_iff reached⟩

/--
The response to the one login is handled before the `ExpectingLogin` that
announces it.  The login has to wait for the room, and when it comes back it
is taken for a second one: a second room is shown, and the first one is the
room that has reported ready.
-/
theorem second_room_shown :
    let req : ClientRequest Nat := .LoginRequest 0 "ann"
    let own : Display String String := ⟨0, .login "ann"⟩
    let labels : List (RoomLabel Nat String String) :=
      [.executeTransaction .login,
        .client (.login 0 "ann"),
        .client (.background (.socketConnect 0 req) (.ok ())),
        .client (.main (.connectPostExecute 0 req (.ok ())) 0),
        .client (.background (.send 0 req) (.ok ())),
        .client (.visitRow 0 own.row),
        .client (.main (.sendPostExecute 0 req (.ok ())) 0),
        .client (.main (.handleMessage (.Display own)) 0),
        .client (.main (.handleMessage .ExpectingLogin) 0),
        .executeTransaction (.room 0),
        .client (.background (.resend own) (.ok ())),
        .client (.main (.handleMessage (.Display own)) 0)]
    (run? step? onCreate labels).map
          (fun final =>
            (final.shown, final.activity.roomReady,
              final.activity.mRoomFragment, final.readyFragment)) =
        some ([0, 1], true, some 1, some 0) ∧
      ¬ Always step? onCreate OneRoom labels := by
  intro req own labels
  have shown :
      (run? step? onCreate labels).map
          (fun final =>
            (final.shown, final.activity.roomReady,
              final.activity.mRoomFragment, final.readyFragment)) =
        some ([0, 1], true, some 1, some 0) := by
    decide
  refine ⟨shown, ?_⟩
  intro always
  obtain ⟨final, reached, values⟩ := Option.map_eq_some_iff.mp shown
  have oneCall : loginCalls labels ≤ 1 := by
    decide
  have counted := ((always.final reached) oneCall).1
  injection values with rooms rest
  rw [rooms] at counted
  exact absurd counted (by decide)

end RoomClient

end ChatRelay.Client
