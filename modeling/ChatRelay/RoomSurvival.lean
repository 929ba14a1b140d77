import Mathlib.Data.List.Basic
import ChatRelay.ClientSurvival
import ChatRelay.RoomTable

namespace ChatRelay.Client.RoomScreen

/-!
# The exceptions of the main thread

Three calls of the handler and of its callbacks are not guarded.
`mConnection.send` needs a connection, `FragmentTransaction::commit` needs an
activity whose state is not saved, and `dateTime.toString` needs a time.
-/

open LabelledRun
open RequestFraming (ClientRequest)

variable {DateTime : Type}
variable {DATE_TIME_FORMATTER : DateTime → Bytes}
variable {screen next : RoomScreen DateTime}

/--
What a step of the main thread has to find: a connection if it sends, a
fragment manager that still commits if it shows another fragment, and the time
of a row that goes to the room on the screen.
-/
def FindsAll (screen : RoomScreen DateTime) : ScreenLabel DateTime → Prop
  | .room (.client label) =>
      screen.client.activity.FindsConnection label ∧
        (commits screen.client.activity label = true →
          screen.mStateSaved = false) ∧
          ∀ given,
            screen.client.activity.gives label = some given →
              screen.added = some (.room given.1) →
                (dateTimeOf given.2.row).isSome = true
  | _ =>
      True

/-- The wrapper of a room throws exactly if it misses the time that it shows. -/
theorem isSome_createWrapper?
    (given :
      Nat ×
        Display (LoginArguments DateTime) (MessageArguments DateTime)) :
    (createWrapper? DATE_TIME_FORMATTER screen given).isSome = true ↔
      (screen.added = some (.room given.1) →
        (dateTimeOf given.2.row).isSome = true) := by
  unfold createWrapper?
  by_cases onScreen : screen.added = some (.room given.1)
  · rw [if_pos onScreen, Option.isSome_map, isSome_elements]
    exact ⟨fun dated _ => dated, fun dated => dated onScreen⟩
  · rw [if_neg onScreen]
    exact iff_of_true rfl fun added => (onScreen added).elim

/-- The fragments throw in a step of the client exactly as its condition says. -/
theorem isSome_after?
    (client :
      RoomClient DateTime (LoginArguments DateTime)
        (MessageArguments DateTime))
    (label :
      ActivityLabel DateTime (LoginArguments DateTime)
        (MessageArguments DateTime)) :
    (screen.after? DATE_TIME_FORMATTER client (.client label)).isSome =
        true ↔
      (commits screen.client.activity label = true →
        screen.mStateSaved = false) ∧
        ∀ given,
          screen.client.activity.gives label = some given →
            screen.added = some (.room given.1) →
              (dateTimeOf given.2.row).isSome = true := by
  unfold after?
  dsimp only
  cases isCommit : commits screen.client.activity label <;>
    cases saved : screen.mStateSaved
  case true.true =>
    simp
  all_goals
    cases gives : screen.client.activity.gives label with
    | none =>
        simp
    | some given =>
        simp [isSome_createWrapper?]

variable [DecidableEq DateTime]
variable {label : ScreenLabel DateTime}
variable {labels : List (ScreenLabel DateTime)}

/-- The fragment that a transaction brings on the screen throws nothing. -/
theorem onViewCreated?_keeps
    {activity after :
      Activity DateTime (LoginArguments DateTime)
        (MessageArguments DateTime)}
    {fragment : Fragment}
    (roomExists : activity.RoomExists)
    (acted : RoomClient.onViewCreated? activity fragment = some after) :
    after.crashed = false ∧ after.RoomExists := by
  cases fragment with
  | login =>
      obtain ⟨responsive, rfl⟩ := guarded_eq_some.mp acted
      exact ⟨responsive.1, roomExists⟩
  | room fragment =>
      have reports : Activity.step? activity .onRoomReady = some after :=
        acted
      exact ⟨(Activity.crashed_step roomExists reports).mpr trivial,
        (Activity.queue_step roomExists reports).2⟩

/-- A row is given to a room that is there, whatever was thrown. -/
theorem roomExists_of_run
    (reached :
      run? (step? DATE_TIME_FORMATTER) onCreate labels = some screen) :
    screen.client.activity.RoomExists := by
  refine @stateInvariant _ _ _ _
    (fun screen : RoomScreen DateTime =>
      screen.client.activity.RoomExists)
    ?_ ?_ _ _ reached
  · exact fun ready => Bool.noConfusion ready
  · intro screen label next roomExists taken
    rcases step?_cases taken with
      ⟨_, _, mStateSaved, rfl⟩ |
        ⟨inner, client, rfl, moved, ⟨_, rfl⟩ | after⟩
    · exact roomExists
    · exact roomExists
    · rw [client_of_after? after]
      rcases RoomClient.step?_cases moved with
        ⟨label, activity, rfl, _, acted, rfl⟩ |
          ⟨fragment, activity, rfl, _, acted, rfl⟩
      · rw [RoomClient.afterClient_activity]
        exact (Activity.queue_step roomExists acted).2
      · have kept := (onViewCreated?_keeps roomExists acted).2
        cases fragment <;> exact kept

/-- A step throws exactly if it misses something. -/
theorem crashed_step
    (roomExists : screen.client.activity.RoomExists)
    (taken : step? DATE_TIME_FORMATTER screen label = some next) :
    next.client.activity.crashed = false ↔ screen.FindsAll label := by
  rcases step?_cases taken with
    ⟨rfl | rfl, responsive, mStateSaved, rfl⟩ |
      ⟨inner, client, rfl, moved, isNext⟩
  · exact iff_of_true responsive.1 trivial
  · exact iff_of_true responsive.1 trivial
  · rcases RoomClient.step?_cases moved with
      ⟨label, activity, rfl, _, acted, rfl⟩ |
        ⟨fragment, activity, rfl, _, acted, rfl⟩
    · have sends := Activity.crashed_step roomExists acted
      have shows :=
        @isSome_after? _ DATE_TIME_FORMATTER screen
          (screen.client.afterClient activity label) label
      rcases isNext with ⟨thrown, rfl⟩ | after
      · rw [thrown] at shows
        refine iff_of_false (fun crashed => Bool.noConfusion crashed) ?_
        intro finds
        exact Bool.noConfusion (shows.mpr finds.2)
      · rw [after] at shows
        rw [client_of_after? after, RoomClient.afterClient_activity, sends]
        exact ⟨fun finds => ⟨finds, shows.mp rfl⟩, And.left⟩
    · rcases isNext with ⟨thrown, _⟩ | after
      · contradiction
      · rw [client_of_after? after]
        refine iff_of_true ?_ trivial
        have kept := (onViewCreated?_keeps roomExists acted).1
        cases fragment <;> exact kept

/--
In every run the main thread throws nothing exactly if no message is sent, and
no connection made, after `mConnection` was given up, no fragment is shown
while the state of the activity is saved, and every row that goes to the room
on the screen came with a time.
-/
theorem survives_iff
    (reached :
      run? (step? DATE_TIME_FORMATTER) onCreate labels = some screen) :
    Always (step? DATE_TIME_FORMATTER) onCreate
        (fun _ screen => screen.client.activity.crashed = false) labels ↔
      EveryStep (step? DATE_TIME_FORMATTER) onCreate
        (fun _ screen label => screen.FindsAll label) labels := by
  refine always_iff_everyStep ?_ ?_ reached
  · rfl
  · intro past screen label next before _ taken
    exact crashed_step (roomExists_of_run before) taken

/--
A message without a time is shown, a connection is lost in the background, and
a message that was typed before a loss is sent after it.
-/
theorem survives_iff_thrown :
    let date : Nat → Bytes := fun _ => ascii "2016-12-11 03:00:00"
    let own :
        Display (LoginArguments Nat) (MessageArguments Nat) :=
      ⟨0, .login (some 0, "ann")⟩
    let undated :
        Display (LoginArguments Nat) (MessageArguments Nat) :=
      ⟨1, .message (none, "bob", "hello")⟩
    let req : ClientRequest Nat := .LoginRequest 0 "ann"
    let opening : List (ScreenLabel Nat) :=
      [.room (.client (.login 0 "ann")),
        .room (.client (.background (.socketConnect 0 req) (.ok ()))),
        .room (.client (.main (.connectPostExecute 0 req (.ok ())) 0)),
        .room (.client (.background (.send 0 req) (.ok ()))),
        .room (.client (.main (.sendPostExecute 0 req (.ok ())) 0)),
        .room (.client (.main (.handleMessage .ExpectingLogin) 0)),
        .room (.client (.visitRow 0 own.row)),
        .room (.client (.main (.handleMessage (.Display own)) 0)),
        .room (.executeTransaction .login),
        .room (.executeTransaction (.room 0))]
    let lost : List (ScreenLabel Nat) :=
      [.room (.client (.readFails 0 "reset")),
        .room (.client (.reportLost 0)),
        .room (.client (.clickSend "hello")),
        .room (.client (.main (.handleMessage (.DisplayError "reset")) 0)),
        .room (.client (.main (.handleMessage .SocketAWOL) 0))]
    let runs : List (List (ScreenLabel Nat)) :=
      [opening ++
          [.room (.client (.visitRow 0 undated.row)),
            .room (.client
              (.main (.handleMessage (.Display undated)) 0))],
        opening ++ (.onSaveInstanceState :: lost),
        opening ++
          (lost ++
            [.room (.client (.join 0)),
              .room (.client
                (.main (.handleMessage (.SendMessage "hello")) 0))])]
    ∀ labels ∈ runs,
      ∃ screen,
        run? (step? date) onCreate labels = some screen ∧
          screen.client.activity.crashed = true ∧
            ¬ EveryStep (step? date) onCreate
              (fun _ screen label => screen.FindsAll label) labels := by
  intro date own undated req opening lost runs
  have finished :
      ∀ labels ∈ runs,
        (run? (step? date) onCreate labels).map
            (fun screen => screen.client.activity.crashed) =
          some true := by
    decide
  intro labels member
  obtain ⟨screen, reached, crashed⟩ :=
    Option.map_eq_some_iff.mp (finished labels member)
  refine ⟨screen, reached, crashed, ?_⟩
  intro every
  have alive := ((survives_iff reached).mpr every).final reached
  rw [crashed] at alive
  contradiction

end ChatRelay.Client.RoomScreen
