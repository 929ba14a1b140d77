import Mathlib.Data.List.DropRight
import ChatRelay.ClientDisplayOrder

namespace ChatRelay.Client.Activity

/-!
# Being logged in and being connected

The comment on `loggedIn` says that it is only true while the socket is
connected.  Two steps can break this, and no others: a `DisplayLogin` that is
handled when the session it belongs to is over, and the end of a `close` that a
failed login request has begun while an earlier one succeeded.

A session is over when a `SocketAWOL` is handled.  The rows that were posted
before are still in circulation, and a `DisplayLogin` among them logs the client
in again and shows the room, whatever connection there is by then.
-/

open LabelledRun

variable {DateTime Login Chat : Type}

/-- A `SocketAWOL` has been handled since the last connection was created. -/
def awolSince
    (labels : List (ActivityLabel DateTime Login Chat)) :
    Bool :=
  labels.foldl
    (fun lost label =>
      match label with
      | .login _ _ =>
          false
      | .main (.handleMessage .SocketAWOL) _ =>
          true
      | _ =>
          lost)
    false

/-- The client has a connection, and it has not been reported lost. -/
def HasConnection
    (labels : List (ActivityLabel DateTime Login Chat))
    (state : Activity DateTime Login Chat) : Prop :=
  state.mConnection.isSome = true ∧ awolSince labels = false

/-- `loggedIn` is only true when logged in and the socket is connected. -/
def LoggedInConnected
    (labels : List (ActivityLabel DateTime Login Chat))
    (state : Activity DateTime Login Chat) : Prop :=
  state.loggedIn = true → HasConnection labels state

/-- Whether the step handles the loss of the connection. -/
def handlesLoss : ActivityLabel DateTime Login Chat → Bool
  | .main (.handleMessage .SocketAWOL) _ =>
      true
  | _ =>
      false

/-- The rows of sessions that are over: posted before the last `SocketAWOL`. -/
def deadRows
    (labels : List (ActivityLabel DateTime Login Chat)) :
    List (Display Login Chat) :=
  postedRows (labels.rdropWhile fun label => !handlesLoss label)

/-- The label handles the `DisplayLogin` of a session that is over. -/
def HandlesDead
    (past : List (ActivityLabel DateTime Login Chat)) :
    ActivityLabel DateTime Login Chat → Prop
  | .main (.handleMessage (.Display ⟨ref, .login login⟩)) _ =>
      ⟨ref, .login login⟩ ∈ deadRows past
  | _ =>
      False

/--
A `DisplayLogin` of a session that is over neither sets `loggedIn` nor shows a
room.
-/
def LeavesDead
    [DecidableEq DateTime]
    [DecidableEq Login]
    [DecidableEq Chat]
    (past : List (ActivityLabel DateTime Login Chat))
    (state : Activity DateTime Login Chat)
    (label : ActivityLabel DateTime Login Chat) : Prop :=
  HandlesDead past label →
  ∀ next,
    step? state label = some next →
    next.loggedIn = state.loggedIn ∧
      next.nextFragment = state.nextFragment ∧
        next.fragmentRoot = state.fragmentRoot

/--
A step that respects the connection: no `DisplayLogin` is handled out of a
session while the client is not connected, and no `close` that has nulled the
connection ends while the client is logged in.
-/
def RespectsConnection
    (past : List (ActivityLabel DateTime Login Chat))
    (state : Activity DateTime Login Chat) :
    ActivityLabel DateTime Login Chat → Prop
  | .main (.handleMessage (.Display ⟨_, .login _⟩)) _ =>
      state.loggedIn = false → HasConnection past state
  | .join _ =>
      state.loggedIn = false
  | _ =>
      True

/--
A step that respects the session: it respects the connection, and a
`DisplayLogin` of a session that is over is handled only while the client is
logged in and expects no login.
-/
def RespectsSession
    (past : List (ActivityLabel DateTime Login Chat))
    (state : Activity DateTime Login Chat)
    (label : ActivityLabel DateTime Login Chat) : Prop :=
  RespectsConnection past state label ∧
    (HandlesDead past label →
      state.loggedIn = true ∧ state.expectingLogin = false)

/-- What one more step does to the loss of the connection. -/
theorem awolSince_concat
    (past : List (ActivityLabel DateTime Login Chat))
    (label : ActivityLabel DateTime Login Chat) :
    awolSince (past ++ [label]) =
      match label with
      | .login _ _ => false
      | .main (.handleMessage .SocketAWOL) _ => true
      | _ => awolSince past := by
  unfold awolSince
  rw [List.foldl_append]
  rfl

/-- A step that changes neither field keeps the law. -/
theorem LoggedInConnected.quiet
    {past : List (ActivityLabel DateTime Login Chat)}
    {state next : Activity DateTime Login Chat}
    {label : ActivityLabel DateTime Login Chat}
    (holds : LoggedInConnected past state)
    (sameLogin : next.loggedIn = state.loggedIn)
    (sameConnection : next.mConnection = state.mConnection)
    (sameLost : awolSince (past ++ [label]) = awolSince past) :
    LoggedInConnected (past ++ [label]) next := by
  intro isIn
  rw [sameLogin] at isIn
  rw [HasConnection, sameConnection, sameLost]
  exact holds isIn

/-- A `DisplayLogin` keeps the law if the client is or may be logged in. -/
theorem LoggedInConnected.displayLogin
    {past : List (ActivityLabel DateTime Login Chat)}
    {state next : Activity DateTime Login Chat}
    {label : ActivityLabel DateTime Login Chat}
    (holds : LoggedInConnected past state)
    (isIn : next.loggedIn = true)
    (sameConnection : next.mConnection = state.mConnection)
    (sameLost : awolSince (past ++ [label]) = awolSince past) :
    LoggedInConnected (past ++ [label]) next ↔
      (state.loggedIn = false → HasConnection past state) := by
  have same :
      HasConnection (past ++ [label]) next ↔
        HasConnection past state := by
    rw [HasConnection, HasConnection, sameConnection, sameLost]
  constructor
  · intro kept _
    exact same.mp (kept isIn)
  · intro respects _
    cases wasIn : state.loggedIn with
    | true =>
        exact same.mpr (holds wasIn)
    | false =>
        exact same.mpr (respects wasIn)

variable [DecidableEq DateTime] [DecidableEq Login] [DecidableEq Chat]

/-- A step keeps the law exactly if it respects the connection. -/
theorem loggedInConnected_step
    {past : List (ActivityLabel DateTime Login Chat)}
    {state next : Activity DateTime Login Chat}
    {label : ActivityLabel DateTime Login Chat}
    (holds : LoggedInConnected past state)
    (taken : step? state label = some next) :
    LoggedInConnected (past ++ [label]) next ↔
      RespectsConnection past state label := by
  have quiet
      (sameLogin : next.loggedIn = state.loggedIn)
      (sameConnection : next.mConnection = state.mConnection)
      (sameLost : awolSince (past ++ [label]) = awolSince past)
      (respects : RespectsConnection past state label) :
      LoggedInConnected (past ++ [label]) next ↔
        RespectsConnection past state label :=
    iff_of_true (holds.quiet sameLogin sameConnection sameLost) respects
  obtain ⟨sameLogin, _, sameConnection⟩ := step?_session taken
  cases label with
  | login mDateTime mSender =>
      refine iff_of_true ?_ trivial
      intro _
      refine ⟨?_, awolSince_concat past _⟩
      rw [sameConnection]
      rfl
  | join connection =>
      constructor
      · intro kept
        by_contra isIn
        have connected :=
          kept (sameLogin.trans (Bool.not_eq_false _ ▸ isIn))
        rw [HasConnection, sameConnection] at connected
        exact absurd connected.1 Bool.false_ne_true
      · intro notIn isIn
        rw [sameLogin] at isIn
        exact absurd (notIn.symm.trans isIn) Bool.false_ne_true
  | main task now =>
      cases task with
      | handleMessage inputMessage =>
          cases inputMessage with
          | SocketAWOL =>
              refine iff_of_true ?_ trivial
              intro isIn
              rw [sameLogin] at isIn
              contradiction
          | Display obj =>
              rcases obj with ⟨ref, row⟩
              cases row with
              | login login =>
                  exact holds.displayLogin sameLogin sameConnection
                    (awolSince_concat past _)
              | message chat =>
                  exact quiet sameLogin sameConnection
                    (awolSince_concat past _) trivial
          | _ =>
              exact quiet sameLogin sameConnection
                (awolSince_concat past _) trivial
      | _ =>
          exact quiet sameLogin sameConnection
            (awolSince_concat past _) trivial
  | _ =>
      exact quiet sameLogin sameConnection
        (awolSince_concat past _) trivial

omit [DecidableEq DateTime] [DecidableEq Login] [DecidableEq Chat] in
/-- A row that is displayed changes neither the login nor the room. -/
theorem display_frame
    (state : Activity DateTime Login Chat)
    (obj : Display Login Chat) :
    (state.display obj).loggedIn = state.loggedIn ∧
      (state.display obj).nextFragment = state.nextFragment ∧
        (state.display obj).fragmentRoot = state.fragmentRoot := by
  unfold display
  split
  · split <;> exact ⟨rfl, rfl, rfl⟩
  · exact ⟨rfl, rfl, rfl⟩

/-- A dead `DisplayLogin` does nothing if the client waits for no login. -/
theorem leavesDead_iff
    {past : List (ActivityLabel DateTime Login Chat)}
    {state next : Activity DateTime Login Chat}
    {label : ActivityLabel DateTime Login Chat}
    (taken : step? state label = some next) :
    LeavesDead past state label ↔
      (HandlesDead past label →
        state.loggedIn = true ∧ state.expectingLogin = false) := by
  refine forall_congr' fun isDead => ?_
  have isNext :
      (∀ after,
        step? state label = some after →
        after.loggedIn = state.loggedIn ∧
          after.nextFragment = state.nextFragment ∧
            after.fragmentRoot = state.fragmentRoot) ↔
        next.loggedIn = state.loggedIn ∧
          next.nextFragment = state.nextFragment ∧
            next.fragmentRoot = state.fragmentRoot := by
    simp only [taken, Option.some.injEq, forall_eq']
  rw [isNext]
  unfold HandlesDead at isDead
  split at isDead
  · rename_i ref login now
    obtain ⟨_, rfl⟩ := guarded_eq_some.mp taken
    obtain ⟨sameLogin, sameFragment, sameRoot⟩ :=
      display_frame
        ({ state with mainQueue := state.mainQueue.tail } :
          Activity DateTime Login Chat).acceptLogin ⟨ref, .login login⟩
    show
      (display (acceptLogin _) _).loggedIn = _ ∧
          (display (acceptLogin _) _).nextFragment = _ ∧
            (display (acceptLogin _) _).fragmentRoot = _ ↔ _
    rw [sameLogin, sameFragment, sameRoot]
    cases expecting : state.expectingLogin <;>
      cases isIn : state.loggedIn <;>
        simp [acceptLogin, showRoomFragment]
  · exact isDead.elim

/--
In every run, being logged in means being connected all along, and the rows of
sessions that are over neither log the client in nor show a room, exactly if
every step of the run respects the session.
-/
theorem loggedIn_connected_iff
    {labels : List (ActivityLabel DateTime Login Chat)}
    {final : Activity DateTime Login Chat}
    (reached : run? step? onCreate labels = some final) :
    Always step? onCreate LoggedInConnected labels ∧
        EveryStep step? onCreate LeavesDead labels ↔
      EveryStep step? onCreate RespectsSession labels := by
  have connected :
      Always step? onCreate LoggedInConnected labels ↔
        EveryStep step? onCreate RespectsConnection labels := by
    refine always_iff_everyStep ?_ ?_ reached
    · intro isIn
      contradiction
    · intro past state label next _ holds taken
      exact loggedInConnected_step holds taken
  have dead :=
    everyStep_congr_taken reached
      fun past state label next _ taken =>
        @leavesDead_iff _ _ _ _ _ _ past state next label taken
  rw [connected, dead]
  exact everyStep_and

/-- A session ends while the answer to its login is stalled. -/
theorem loggedIn_connected_iff_logIn :
    let stalled : Display String String := ⟨0, .login "ann"⟩
    let labels :=
      logIn 0 "ann" ++ receive 0 stalled ++
        [.readFails 0 "reset", .reportLost 0,
          .main (.handleMessage (.DisplayError "reset")) 0,
          .main (.handleMessage .SocketAWOL) 0, .join 0]
    deadRows labels = [stalled] ∧
      ∃ final,
        run? step? onCreate labels = some final ∧
          (Always step? onCreate LoggedInConnected labels ∧
              EveryStep step? onCreate LeavesDead labels ↔
            EveryStep step? onCreate RespectsSession labels) := by
  intro stalled labels
  have finished : (run? step? onCreate labels).isSome = true := by
    decide
  obtain ⟨final, reached⟩ := Option.isSome_iff_exists.mp finished
  exact ⟨by decide, final, reached, loggedIn_connected_iff reached⟩

/--
The connection is lost while a `DisplayLogin` is stalled; when it comes back,
it logs the client in without a connection and shows the room.  It does the same
when the user has meanwhile asked to log in as somebody else, and that attempt
has not come to a connection yet.
-/
theorem loggedIn_without_connection :
    let stalled : Display String String := ⟨0, .login "ann"⟩
    let lost :=
      logIn 0 "ann" ++ receive 0 stalled ++
        [.readFails 0 "reset", .reportLost 0,
          .main (.handleMessage (.DisplayError "reset")) 0,
          .main (.handleMessage .SocketAWOL) 0, .join 0]
    let back : List (ActivityLabel Nat String String) :=
      [.background (.resend stalled) (.ok ()),
        .main (.handleMessage (.Display stalled)) 0]
    deadRows (lost ++ [.login 0 "bob"]) = [stalled] ∧
      (run? step? onCreate (lost ++ back)).map
          (fun final =>
            (final.loggedIn, final.mConnection, final.fragmentRoot)) =
        some (true, none, .room 1) ∧
      (run? step? onCreate (lost ++ [.login 0 "bob"])).map
          (fun state => (state.loggedIn, state.fragmentRoot)) =
        some (false, .login) ∧
      (run? step? onCreate (lost ++ .login 0 "bob" :: back)).map
          (fun final =>
            (final.loggedIn, final.mConnection, final.fragmentRoot,
              (final.connections 1).isConnected)) =
        some (true, some 1, .room 1, false) := by
  decide

end ChatRelay.Client.Activity
