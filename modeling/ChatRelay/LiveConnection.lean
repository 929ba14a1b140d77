import Mathlib.Data.List.Basic
import Mathlib.Data.List.Nodup
import Mathlib.Logic.Function.Basic
import ChatRelay.ClientActivity

namespace ChatRelay.Client.Activity

/-!
# The live connection of a client

A connection is live while its socket is connected and its reader runs.  The
field `mConnection` is overwritten by every `login`, and an error that the
server sends leaves the old connection alone.  A client has one live connection
as long as it signs in only when it has none, and as long as a connection that
is established is still the one in `mConnection`.
-/

open LabelledRun
open RequestFraming (ClientRequest)

variable {DateTime Login Chat : Type}

/-- The socket is connected and the reader thread runs. -/
def Live
    (state : Activity DateTime Login Chat)
    (connection : Nat) : Prop :=
  (state.connections connection).isConnected = true ∧
    (state.connections connection).closed = false ∧
    (state.connections connection).readThread = .running

/-- At most one connection is live, and `mConnection` holds it. -/
def OneLive (state : Activity DateTime Login Chat) : Prop :=
  ∀ connection,
    state.Live connection → state.mConnection = some connection

/--
A step that keeps one live connection: `login` is called when none is live, and
an established connection is the one in `mConnection`.
-/
def KeepsOneLive
    (state : Activity DateTime Login Chat) :
    ActivityLabel DateTime Login Chat → Prop
  | .login _ _ =>
      ∀ connection, ¬ state.Live connection
  | .main (.connectPostExecute connection _ (.ok ())) _ =>
      state.mConnection = some connection
  | _ =>
      True

/-! ### What the callbacks do to the connections -/

section Wires

/-- A connection without the signal to its reader. -/
def wire
    (state : Activity DateTime Login Chat)
    (connection : Nat) :
    Connection :=
  { state.connections connection with kill := false }

/-- The connection that a background task is to establish. -/
def connecting? :
    BackgroundTask DateTime Login Chat → Option (Nat × Bool)
  | .socketConnect connection _ =>
      some (connection, false)
  | _ =>
      none

/-- The connection whose attempt has ended, and whether it is established. -/
def connected? :
    MainTask DateTime Login Chat → Option (Nat × Bool)
  | .connectPostExecute connection _ result =>
      some (connection, result.isOk)
  | _ =>
      none

/-- The attempts to connect that are not over. -/
def attempts
    (state : Activity DateTime Login Chat) :
    List (Nat × Bool) :=
  state.executor.filterMap connecting? ++
    state.mainQueue.filterMap connected?

/-- The connections are the same in two states. -/
structure KeepsWires (state next : Activity DateTime Login Chat) : Prop where
  wire : next.wire = state.wire
  attempts : next.attempts = state.attempts
  nextConnection : next.nextConnection = state.nextConnection
  mConnection : next.mConnection = state.mConnection
  joining :
    ∀ connection,
      next.joining = some connection →
      state.joining = some connection ∨
        state.mConnection = some connection

theorem KeepsWires.refl (state : Activity DateTime Login Chat) :
    KeepsWires state state :=
  ⟨rfl, rfl, rfl, rfl, fun _ => Or.inl⟩

theorem KeepsWires.trans
    {first second third : Activity DateTime Login Chat}
    (before : KeepsWires first second)
    (after : KeepsWires second third) :
    KeepsWires first third := by
  refine ⟨after.wire.trans before.wire,
    after.attempts.trans before.attempts,
    after.nextConnection.trans before.nextConnection,
    after.mConnection.trans before.mConnection, ?_⟩
  intro connection joining
  rcases after.joining connection joining with earlier | held
  · exact before.joining connection earlier
  · exact Or.inr (before.mConnection ▸ held)

variable (state : Activity DateTime Login Chat)

theorem sendMessage_keepsWires
    (msg : HandlerMessage Login Chat) :
    KeepsWires state (state.sendMessage msg) := by
  refine ⟨rfl, ?_, rfl, rfl, fun _ => Or.inl⟩
  unfold attempts sendMessage
  simp [connected?]

theorem execute_keepsWires
    {task : BackgroundTask DateTime Login Chat}
    (noConnect : connecting? task = none) :
    KeepsWires state (state.execute task) := by
  refine ⟨rfl, ?_, rfl, rfl, fun _ => Or.inl⟩
  unfold attempts execute
  simp [noConnect]

theorem closeConnection_keepsWires :
    KeepsWires state state.closeConnection := by
  unfold closeConnection
  split
  · exact .refl state
  · rename_i connection held
    dsimp only
    split
    · exact .refl state
    · refine ⟨?_, rfl, rfl, rfl, ?_⟩
      · funext other
        by_cases same : other = connection
        · subst same
          simp [Activity.wire, setConnection]
        · simp [Activity.wire, setConnection, same]
      · intro other joins
        obtain rfl := Option.some.inj joins
        exact Or.inr held

theorem onSendError_keepsWires
    (message : ClientRequest DateTime)
    (text : String) :
    KeepsWires state (state.onSendError message text) := by
  have reported :
      KeepsWires state (state.sendMessage (.DisplayError text)) :=
    state.sendMessage_keepsWires _
  cases message with
  | LoginRequest mDateTime mSender =>
      exact reported.trans (closeConnection_keepsWires _)
  | MessageRequest mDateTime mSender mContent =>
      exact reported

theorem send_keepsWires
    (message : ClientRequest DateTime) :
    KeepsWires state (state.send message) := by
  unfold send
  split
  · exact ⟨rfl, rfl, rfl, rfl, fun _ => Or.inl⟩
  · split
    · exact state.execute_keepsWires rfl
    · exact (state.onSendError_keepsWires message _).trans
        (execute_keepsWires _ rfl)

theorem display_keepsWires (obj : Display Login Chat) :
    KeepsWires state (state.display obj) := by
  unfold display
  split
  · split <;> exact ⟨rfl, rfl, rfl, rfl, fun _ => Or.inl⟩
  · exact state.execute_keepsWires rfl

theorem acceptLogin_keepsWires :
    KeepsWires state state.acceptLogin := by
  unfold acceptLogin
  split <;> exact ⟨rfl, rfl, rfl, rfl, fun _ => Or.inl⟩

theorem handleMessage_keepsWires
    (now : DateTime)
    (inputMessage : HandlerMessage Login Chat) :
    KeepsWires state (state.handleMessage now inputMessage) := by
  cases inputMessage with
  | SendMessage obj =>
      exact state.send_keepsWires _
  | ExpectingLogin =>
      exact ⟨rfl, rfl, rfl, rfl, fun _ => Or.inl⟩
  | SocketAWOL =>
      have left : KeepsWires state state.lost :=
        ⟨rfl, rfl, rfl, rfl, fun _ => Or.inl⟩
      exact left.trans (closeConnection_keepsWires state.lost)
  | DisplayError obj =>
      exact ⟨rfl, rfl, rfl, rfl, fun _ => Or.inl⟩
  | Display obj =>
      rcases obj with ⟨ref, row⟩
      cases row with
      | login login =>
          exact state.acceptLogin_keepsWires.trans
            (display_keepsWires _ _)
      | message chat =>
          exact state.display_keepsWires _

/-- The reader of a connection starts. -/
def startReading (connection : Nat) : Activity DateTime Login Chat :=
  state.setConnection connection
    { state.connections connection with readThread := .running }

/-- Everything the main thread runs starts a reader or keeps the connections. -/
theorem runMain_keepsWires
    (now : DateTime)
    (task : MainTask DateTime Login Chat) :
    (∃ connection req,
      task = .connectPostExecute connection req (.ok ()) ∧
        KeepsWires (state.startReading connection)
          (state.runMain now task)) ∨
      ((∀ connection req,
        task ≠ .connectPostExecute connection req (.ok ())) ∧
        KeepsWires state (state.runMain now task)) := by
  cases task with
  | handleMessage inputMessage =>
      exact Or.inr ⟨fun _ _ => nofun,
        state.handleMessage_keepsWires now inputMessage⟩
  | connectPostExecute connection req result =>
      cases result with
      | error text =>
          exact Or.inr ⟨fun _ _ => nofun, state.sendMessage_keepsWires _⟩
      | ok done =>
          exact Or.inl ⟨connection, req, rfl, send_keepsWires _ req⟩
  | sendPostExecute connection message result =>
      cases result with
      | error text =>
          exact Or.inr ⟨fun _ _ => nofun,
            state.onSendError_keepsWires message text⟩
      | ok done =>
          refine Or.inr ⟨fun _ _ => nofun, ?_⟩
          cases message with
          | LoginRequest mDateTime mSender =>
              have named :
                  KeepsWires state { state with username := mSender } :=
                ⟨rfl, rfl, rfl, rfl, fun _ => Or.inl⟩
              exact named.trans (sendMessage_keepsWires _ _)
          | MessageRequest mDateTime mSender mContent =>
              exact .refl state

end Wires

/-! ### What holds of the connections -/

/-- What keeps the connections of a client apart. -/
structure Wired (state : Activity DateTime Login Chat) : Prop where
  unique : (state.attempts.map Prod.fst).Nodup
  pending :
    ∀ attempt ∈ state.attempts,
      attempt.1 < state.nextConnection ∧
        state.wire attempt.1 = ⟨attempt.2, false, .notCreated, false⟩
  fresh :
    ∀ connection,
      state.nextConnection ≤ connection →
      state.wire connection = ⟨false, false, .notCreated, false⟩
  reading :
    ∀ connection,
      (state.wire connection).readThread = .running →
      (state.wire connection).isConnected = true ∧
        (state.wire connection).closed = false
  joining :
    ∀ connection,
      state.joining = some connection →
      state.mConnection = some connection

/-- Other attempts, at connections that nobody reads yet. -/
theorem Wired.of_attempts
    {state next : Activity DateTime Login Chat}
    (wired : Wired state)
    (wire : next.wire = state.wire)
    (more : state.nextConnection ≤ next.nextConnection)
    (unique : (next.attempts.map Prod.fst).Nodup)
    (pending :
      ∀ attempt ∈ next.attempts,
        attempt ∈ state.attempts ∨
          attempt.1 < next.nextConnection ∧
            state.wire attempt.1 =
              ⟨attempt.2, false, .notCreated, false⟩)
    (joining :
      ∀ connection,
        next.joining = some connection →
        next.mConnection = some connection) :
    Wired next := by
  refine ⟨unique, ?_, ?_, ?_, joining⟩
  · intro attempt isAttempt
    rw [wire]
    rcases pending attempt isAttempt with earlier | new
    · obtain ⟨below, unread⟩ := wired.pending attempt earlier
      exact ⟨Nat.lt_of_lt_of_le below more, unread⟩
    · exact new
  · intro connection above
    rw [wire]
    exact wired.fresh connection (Nat.le_trans more above)
  · rw [wire]
    exact wired.reading

/-- What keeps the connections keeps them apart. -/
theorem KeepsWires.wired
    {state next : Activity DateTime Login Chat}
    (kept : KeepsWires state next)
    (wired : Wired state) :
    Wired next := by
  refine wired.of_attempts kept.wire
    (Nat.le_of_eq kept.nextConnection.symm) ?_ ?_ ?_
  · rw [kept.attempts]
    exact wired.unique
  · rw [kept.attempts]
    exact fun _ => Or.inl
  · intro connection joins
    rw [kept.mConnection]
    rcases kept.joining connection joins with earlier | held
    · exact wired.joining connection earlier
    · exact held

/-- An attempt has been taken from its queue. -/
theorem Wired.take
    {state next : Activity DateTime Login Chat}
    {taken : List (Nat × Bool)}
    (wired : Wired state)
    (attempts : state.attempts.Perm (taken ++ next.attempts))
    (wire : next.wire = state.wire)
    (nextConnection : next.nextConnection = state.nextConnection)
    (joining :
      ∀ connection,
        next.joining = some connection →
        next.mConnection = some connection) :
    Wired next := by
  refine wired.of_attempts wire
    (Nat.le_of_eq nextConnection.symm) ?_ ?_ joining
  · have unique := (attempts.map Prod.fst).nodup_iff.mp wired.unique
    rw [List.map_append] at unique
    exact unique.of_append_right
  · intro attempt isAttempt
    exact Or.inl (attempts.mem_iff.mpr (List.mem_append_right _ isAttempt))

/-- A new attempt at a connection of its own. -/
theorem Wired.attempt
    {state next : Activity DateTime Login Chat}
    (wired : Wired state)
    (attempt : Nat × Bool)
    (attempts : next.attempts.Perm (attempt :: state.attempts))
    (ended : attempt.1 ∉ state.attempts.map Prod.fst)
    (below : attempt.1 < next.nextConnection)
    (unread :
      state.wire attempt.1 = ⟨attempt.2, false, .notCreated, false⟩)
    (wire : next.wire = state.wire)
    (more : state.nextConnection ≤ next.nextConnection)
    (joining :
      ∀ connection,
        next.joining = some connection →
        next.mConnection = some connection) :
    Wired next := by
  refine wired.of_attempts wire more ?_ ?_ joining
  · apply (attempts.map Prod.fst).nodup_iff.mpr
    exact List.nodup_cons.mpr ⟨ended, wired.unique⟩
  · intro other isAttempt
    rcases List.mem_cons.mp (attempts.mem_iff.mp isAttempt) with
      rfl | earlier
    · exact Or.inr ⟨below, unread⟩
    · exact Or.inl earlier

/-- The fields of a connection change whose attempt is over. -/
theorem Wired.setConnection
    {state : Activity DateTime Login Chat}
    {connection : Nat}
    (wired : Wired state)
    (fields : Connection)
    (below : connection < state.nextConnection)
    (ended : connection ∉ state.attempts.map Prod.fst)
    (reading :
      fields.readThread = .running →
      fields.isConnected = true ∧ fields.closed = false) :
    Wired (state.setConnection connection fields) := by
  have other
      {query : Nat}
      (different : query ≠ connection) :
      (state.setConnection connection fields).wire query =
        state.wire query := by
    simp [wire, Activity.setConnection, different]
  refine ⟨wired.unique, ?_, ?_, ?_, wired.joining⟩
  · intro attempt isAttempt
    have different : attempt.1 ≠ connection := by
      rintro rfl
      exact ended (List.mem_map_of_mem isAttempt)
    rw [other different]
    exact wired.pending attempt isAttempt
  · intro query above
    have different : query ≠ connection := by
      rintro rfl
      exact absurd (Nat.lt_of_lt_of_le below above) (Nat.lt_irrefl _)
    rw [other different]
    exact wired.fresh query above
  · intro query reads
    by_cases same : query = connection
    · subst same
      simp only [wire, Activity.setConnection,
        Function.update_self] at reads ⊢
      exact reading reads
    · rw [other same] at reads ⊢
      exact wired.reading query reads

/-- The attempt of a connection is over when its reader has been created. -/
theorem Wired.created
    {state : Activity DateTime Login Chat}
    {connection : Nat}
    (wired : Wired state)
    (created : (state.wire connection).readThread ≠ .notCreated) :
    connection < state.nextConnection ∧
      connection ∉ state.attempts.map Prod.fst := by
  constructor
  · by_contra above
    rw [wired.fresh connection (Nat.le_of_not_lt above)] at created
    exact created rfl
  · intro isAttempt
    obtain ⟨attempt, pending, rfl⟩ := List.mem_map.mp isAttempt
    rw [(wired.pending attempt pending).2] at created
    exact created rfl

/-- A reader that has been created stops reading. -/
theorem Wired.reader
    {state : Activity DateTime Login Chat}
    {connection : Nat}
    (wired : Wired state)
    (fields : Connection)
    (created : (state.connections connection).readThread ≠ .notCreated)
    (stopped : fields.readThread ≠ .running) :
    Wired (state.setConnection connection fields) := by
  obtain ⟨below, ended⟩ := wired.created created
  exact wired.setConnection fields below ended
    fun reads => (stopped reads).elim

theorem onCreate_wired :
    Wired (onCreate : Activity DateTime Login Chat) := by
  refine ⟨List.nodup_nil, ?_, fun _ _ => rfl, ?_, ?_⟩
  · intro attempt isAttempt
    contradiction
  · intro connection reads
    contradiction
  · intro connection joins
    contradiction

/-- The attempt of the task that the main thread takes. -/
theorem attempts_main
    {state : Activity DateTime Login Chat}
    {task : MainTask DateTime Login Chat}
    (first : state.mainQueue.head? = some task) :
    state.attempts.Perm
      ((connected? task).toList ++
        attempts { state with mainQueue := state.mainQueue.tail }) := by
  obtain ⟨rest, isQueue⟩ := List.head?_eq_some_iff.mp first
  unfold attempts
  rw [isQueue, List.filterMap_cons]
  cases connected? task with
  | none =>
      exact List.Perm.refl _
  | some attempt =>
      exact List.perm_middle

/-- The attempt of the task that the executor takes. -/
theorem attempts_background
    {state : Activity DateTime Login Chat}
    {task : BackgroundTask DateTime Login Chat}
    (first : state.executor.head? = some task) :
    state.attempts.Perm
      ((connecting? task).toList ++
        attempts { state with executor := state.executor.tail }) := by
  obtain ⟨rest, isExecutor⟩ := List.head?_eq_some_iff.mp first
  unfold attempts
  rw [isExecutor, List.filterMap_cons]
  cases connecting? task <;> exact List.Perm.refl _

/-- What is known of an attempt that is taken from its queue. -/
theorem Wired.taken
    {state : Activity DateTime Login Chat}
    {attempt : Nat × Bool}
    {rest : List (Nat × Bool)}
    (wired : Wired state)
    (attempts : state.attempts.Perm ([attempt] ++ rest)) :
    attempt.1 < state.nextConnection ∧
      attempt.1 ∉ rest.map Prod.fst ∧
      state.wire attempt.1 = ⟨attempt.2, false, .notCreated, false⟩ := by
  have unique := (attempts.map Prod.fst).nodup_iff.mp wired.unique
  obtain ⟨below, unread⟩ :=
    wired.pending attempt (attempts.mem_iff.mpr List.mem_cons_self)
  exact ⟨below, (List.nodup_cons.mp unique).1, unread⟩

/-! ### The steps of the client -/

section Steps

variable {state next : Activity DateTime Login Chat}

/-- The first task of the main thread keeps the connections apart. -/
theorem Wired.main
    {task : MainTask DateTime Login Chat}
    {now : DateTime}
    (wired : Wired state)
    (first : state.mainQueue.head? = some task) :
    Wired
      ({ state with mainQueue := state.mainQueue.tail }.runMain
        now task) := by
  have attempts := attempts_main first
  have popped :
      Wired { state with mainQueue := state.mainQueue.tail } :=
    wired.take attempts rfl rfl wired.joining
  rcases runMain_keepsWires
      { state with mainQueue := state.mainQueue.tail } now task with
    ⟨connection, req, rfl, kept⟩ | ⟨_, kept⟩
  · obtain ⟨below, ended, unread⟩ := wired.taken attempts
    injection unread with isConnected closed
    exact kept.wired
      (popped.setConnection _ below ended fun _ => ⟨isConnected, closed⟩)
  · exact kept.wired popped

/-- The first task of the executor keeps the connections apart. -/
theorem Wired.background
    {task : BackgroundTask DateTime Login Chat}
    {result : Except String Unit}
    (wired : Wired state)
    (first : state.executor.head? = some task) :
    Wired
      ({ state with executor := state.executor.tail }.runBackground
        task result) := by
  have attempts := attempts_background first
  have popped :
      Wired { state with executor := state.executor.tail } :=
    wired.take attempts rfl rfl wired.joining
  cases task with
  | socketConnect connection req =>
      obtain ⟨below, ended, unread⟩ := wired.taken attempts
      injection unread with isConnected closed readThread
      let fields : Connection :=
        { state.connections connection with isConnected := result.isOk }
      have changed :=
        popped.setConnection fields below ended fun reads =>
          absurd (readThread.symm.trans reads) (by simp)
      refine changed.attempt (connection, result.isOk) ?_ ended below ?_
        rfl (Nat.le_refl _) wired.joining
      · simp only [Activity.attempts, runBackground,
          Activity.setConnection, List.filterMap_append]
        rw [← List.append_assoc]
        exact List.perm_append_singleton _ _
      · simp only [wire, Activity.setConnection, Function.update_self,
          fields]
        rw [← closed, ← readThread]
  | send connection message =>
      have kept :
          KeepsWires { state with executor := state.executor.tail }
            ({ state with executor := state.executor.tail }.runBackground
              (.send connection message) result) := by
        refine ⟨rfl, ?_, rfl, rfl, fun _ => Or.inl⟩
        simp [Activity.attempts, runBackground, connected?]
      exact kept.wired popped
  | resend obj =>
      exact (sendMessage_keepsWires _ _).wired popped

variable [DecidableEq DateTime] [DecidableEq Login] [DecidableEq Chat]

/-- Every step keeps the connections apart. -/
theorem Wired.step
    {label : ActivityLabel DateTime Login Chat}
    (wired : Wired state)
    (taken : step? state label = some next) :
    Wired next := by
  cases label with
  | login mDateTime mSender =>
      obtain ⟨⟨_, notJoining⟩, rfl⟩ := guarded_eq_some.mp taken
      refine wired.attempt (state.nextConnection, false) ?_ ?_
        (Nat.lt_succ_self _) (wired.fresh _ (Nat.le_refl _)) rfl
        (Nat.le_succ _) ?_
      · simp only [attempts, Activity.login, execute,
          List.filterMap_append, List.append_assoc]
        exact List.perm_middle
      · intro isAttempt
        obtain ⟨attempt, pending, same⟩ := List.mem_map.mp isAttempt
        have below := (wired.pending attempt pending).1
        rw [same] at below
        exact absurd below (Nat.lt_irrefl _)
      · intro connection joins
        exact absurd (notJoining.symm.trans joins) (by simp)
  | clickSend text =>
      obtain ⟨_, rfl⟩ := guarded_eq_some.mp taken
      exact (sendMessage_keepsWires _ _).wired wired
  | onRoomReady =>
      obtain ⟨_, rfl⟩ := guarded_eq_some.mp taken
      have kept : KeepsWires state { state with roomReady := true } :=
        ⟨rfl, rfl, rfl, rfl, fun _ => Or.inl⟩
      exact kept.wired wired
  | main task now =>
      obtain ⟨⟨_, first⟩, rfl⟩ := guarded_eq_some.mp taken
      exact wired.main first
  | join connection =>
      obtain ⟨⟨_, _, ended⟩, rfl⟩ := guarded_eq_some.mp taken
      have closed :=
        wired.reader
          { state.connections connection with closed := true }
          (by rw [ended]; simp) (by rw [ended]; simp)
      refine closed.of_attempts rfl (Nat.le_refl _) wired.unique
        (fun _ => Or.inl) ?_
      intro other joins
      contradiction
  | background task result =>
      obtain ⟨⟨_, first, _⟩, rfl⟩ := guarded_eq_some.mp taken
      exact wired.background first
  | visitRow connection row =>
      obtain ⟨_, rfl⟩ := guarded_eq_some.mp taken
      have counted :
          KeepsWires state
            { state with nextObject := state.nextObject + 1 } :=
        ⟨rfl, rfl, rfl, rfl, fun _ => Or.inl⟩
      exact (counted.trans (sendMessage_keepsWires _ _)).wired wired
  | visitError connection message =>
      obtain ⟨_, rfl⟩ := guarded_eq_some.mp taken
      exact (sendMessage_keepsWires _ _).wired wired
  | readFails connection message =>
      obtain ⟨⟨_, running⟩, rfl⟩ := guarded_eq_some.mp taken
      exact (sendMessage_keepsWires _ _).wired
        (wired.reader _ (by rw [running]; simp) (by simp))
  | reportLost connection =>
      obtain ⟨⟨_, reporting⟩, rfl⟩ := guarded_eq_some.mp taken
      exact (sendMessage_keepsWires _ _).wired
        (wired.reader _ (by rw [reporting]; simp) (by simp))
  | stopReading connection =>
      obtain ⟨⟨_, running, _⟩, rfl⟩ := guarded_eq_some.mp taken
      exact wired.reader _ (by rw [running]; simp) (by simp)

/-- The connections of a client are apart in every run. -/
theorem Wired.of_run
    {labels : List (ActivityLabel DateTime Login Chat)}
    (reached : run? step? onCreate labels = some state) :
    Wired state :=
  stateInvariant onCreate_wired
    (fun _ _ _ wired taken => wired.step taken) reached

/-! ### One live connection -/

omit [DecidableEq DateTime] [DecidableEq Login] [DecidableEq Chat]

/-- What keeps the connections keeps them live. -/
theorem KeepsWires.live
    (kept : KeepsWires state next)
    (connection : Nat) :
    next.Live connection ↔ state.Live connection := by
  have same := congrFun kept.wire connection
  injection same with isConnected closed readThread
  rw [Live, Live, isConnected, closed, readThread]

/-- A reader that stops leaves the other connections as they are. -/
theorem Live.of_stopped
    {connection query : Nat}
    (fields : Connection)
    (live : (state.setConnection connection fields).Live query)
    (stopped : fields.readThread ≠ .running) :
    state.Live query ∧ query ≠ connection := by
  by_cases same : query = connection
  · subst same
    have reads := live.2.2
    simp only [setConnection, Function.update_self] at reads
    exact (stopped reads).elim
  · simp only [Live, setConnection, Function.update_of_ne same] at live
    exact ⟨live, same⟩

/-- No connection has become live. -/
theorem OneLive.of_less
    (holds : OneLive state)
    (less : ∀ connection, next.Live connection → state.Live connection)
    (same : next.mConnection = state.mConnection) :
    OneLive next := by
  intro connection live
  rw [same]
  exact holds connection (less connection live)

/-- A task of the main thread keeps one live connection exactly if it should. -/
theorem OneLive.main
    {task : MainTask DateTime Login Chat}
    {now : DateTime}
    (wired : Wired state)
    (holds : OneLive state)
    (first : state.mainQueue.head? = some task) :
    OneLive
        ({ state with mainQueue := state.mainQueue.tail }.runMain
          now task) ↔
      KeepsOneLive state (.main task now) := by
  rcases runMain_keepsWires
      { state with mainQueue := state.mainQueue.tail } now task with
    ⟨connection, req, rfl, kept⟩ | ⟨noConnect, kept⟩
  · obtain ⟨_, _, unread⟩ := wired.taken (attempts_main first)
    injection unread with isConnected closed
    constructor
    · intro oneLive
      have live :
          (startReading { state with mainQueue := state.mainQueue.tail }
            connection).Live connection := by
        simp only [Live, startReading, setConnection, Function.update_self]
        exact ⟨isConnected, closed, trivial⟩
      exact kept.mConnection.symm.trans
        (oneLive connection ((kept.live connection).mpr live))
    · intro held query live
      rw [kept.mConnection]
      by_cases same : query = connection
      · subst same
        exact held
      · have before := (kept.live query).mp live
        simp only [Live, startReading, setConnection,
          Function.update_of_ne same] at before
        exact holds query before
  · refine iff_of_true ?_ ?_
    · exact holds.of_less (fun query => (kept.live query).mp)
        kept.mConnection
    · unfold KeepsOneLive
      split
      · contradiction
      · rename_i connection req _ isMain
        exact absurd (ActivityLabel.main.inj isMain).1
          (noConnect connection req)
      · trivial

variable [DecidableEq DateTime] [DecidableEq Login] [DecidableEq Chat]

/-- A step keeps one live connection exactly if it should. -/
theorem oneLive_step
    {label : ActivityLabel DateTime Login Chat}
    (wired : Wired state)
    (holds : OneLive state)
    (taken : step? state label = some next) :
    OneLive next ↔ KeepsOneLive state label := by
  cases label with
  | login mDateTime mSender =>
      obtain ⟨_, rfl⟩ := guarded_eq_some.mp taken
      constructor
      · intro oneLive connection live
        obtain rfl := Option.some.inj (oneLive connection live)
        have fresh := wired.fresh _ (Nat.le_refl _)
        injection fresh with isConnected closed readThread
        exact absurd (readThread.symm.trans live.2.2) (by simp)
      · intro noneLive connection live
        exact (noneLive connection live).elim
  | main task now =>
      obtain ⟨⟨_, first⟩, rfl⟩ := guarded_eq_some.mp taken
      exact holds.main wired first
  | join connection =>
      obtain ⟨⟨_, joins, ended⟩, rfl⟩ := guarded_eq_some.mp taken
      refine iff_of_true ?_ trivial
      intro query live
      obtain ⟨before, different⟩ :=
        Live.of_stopped
          { state.connections connection with closed := true } live
          (by rw [ended]; simp)
      have held := holds query before
      rw [wired.joining connection joins] at held
      exact (different (Option.some.inj held).symm).elim
  | background task result =>
      obtain ⟨⟨_, first, _⟩, rfl⟩ := guarded_eq_some.mp taken
      refine iff_of_true ?_ trivial
      cases task with
      | socketConnect connection req =>
          refine holds.of_less ?_ rfl
          intro query live
          obtain ⟨_, _, unread⟩ := wired.taken (attempts_background first)
          injection unread with _ _ notCreated
          exact (Live.of_stopped
            { state.connections connection with
              isConnected := result.isOk } live
            (fun reads => absurd (notCreated.symm.trans reads) (by simp))).1
      | send connection message =>
          exact holds
      | resend obj =>
          exact holds
  | readFails connection message =>
      obtain ⟨_, rfl⟩ := guarded_eq_some.mp taken
      refine iff_of_true (holds.of_less ?_ rfl) trivial
      intro query live
      exact (Live.of_stopped _ live (by simp)).1
  | reportLost connection =>
      obtain ⟨_, rfl⟩ := guarded_eq_some.mp taken
      refine iff_of_true (holds.of_less ?_ rfl) trivial
      intro query live
      exact (Live.of_stopped _ live (by simp)).1
  | stopReading connection =>
      obtain ⟨_, rfl⟩ := guarded_eq_some.mp taken
      refine iff_of_true (holds.of_less ?_ rfl) trivial
      intro query live
      exact (Live.of_stopped _ live (by simp)).1
  | _ =>
      obtain ⟨_, rfl⟩ := guarded_eq_some.mp taken
      exact iff_of_true holds trivial

/--
In every run, at most one connection is live and `mConnection` holds it exactly
if every step of the run keeps it so.
-/
theorem oneLive_iff
    {labels : List (ActivityLabel DateTime Login Chat)}
    (reached : run? step? onCreate labels = some state) :
    Always step? onCreate (fun _ state => OneLive state) labels ↔
      EveryStep step? onCreate
        (fun _ state label => KeepsOneLive state label) labels := by
  refine always_iff_everyStep ?_ ?_ reached
  · intro connection live
    exact Bool.noConfusion live.1
  · intro past state label next before holds taken
    exact oneLive_step (Wired.of_run before) holds taken

end Steps

/-! ### The last connection -/

section Last

variable {state next : Activity DateTime Login Chat}

/-- The connection that `login` has made last. -/
def Last
    (state : Activity DateTime Login Chat)
    (connection : Nat) : Prop :=
  connection + 1 = state.nextConnection

/-- `mConnection` holds the last connection or none. -/
def HoldsLast (state : Activity DateTime Login Chat) : Prop :=
  ∀ connection,
    state.mConnection = some connection → state.Last connection

/-- The number of connections after a step. -/
def nextConnectionAfterStep
    (nextConnection : Nat) :
    ActivityLabel DateTime Login Chat → Nat
  | .login _ _ =>
      nextConnection + 1
  | _ =>
      nextConnection

/-- The socket of a connection is the same in two states. -/
theorem KeepsWires.isConnected
    (kept : KeepsWires state next)
    (connection : Nat) :
    (next.connections connection).isConnected =
      (state.connections connection).isConnected := by
  have same := congrFun kept.wire connection
  injection same

/-- The reader of a connection changes and its socket stays. -/
theorem setConnection_isConnected
    (connection : Nat)
    (fields : Connection)
    (same :
      fields.isConnected = (state.connections connection).isConnected)
    {query : Nat}
    (isConnected : (state.connections query).isConnected = true) :
    ((state.setConnection connection fields).connections
        query).isConnected = true := by
  by_cases isQuery : query = connection
  · subst isQuery
    simp only [setConnection, Function.update_self, same]
    exact isConnected
  · simp only [setConnection, Function.update_of_ne isQuery]
    exact isConnected

variable [DecidableEq DateTime] [DecidableEq Login] [DecidableEq Chat]

/-- A step makes a connection if it is a `login`, and disconnects none. -/
theorem step?_connections
    {label : ActivityLabel DateTime Login Chat}
    (wired : Wired state)
    (taken : step? state label = some next) :
    next.nextConnection =
        nextConnectionAfterStep state.nextConnection label ∧
      ∀ connection,
        (state.connections connection).isConnected = true →
        (next.connections connection).isConnected = true := by
  cases label with
  | main task now =>
      obtain ⟨_, rfl⟩ := guarded_eq_some.mp taken
      rcases runMain_keepsWires
          { state with mainQueue := state.mainQueue.tail } now task with
        ⟨connection, req, rfl, kept⟩ | ⟨_, kept⟩
      · refine ⟨kept.nextConnection, ?_⟩
        intro query isConnected
        rw [kept.isConnected]
        exact setConnection_isConnected connection
          { state.connections connection with readThread := .running }
          rfl isConnected
      · refine ⟨kept.nextConnection, ?_⟩
        intro query isConnected
        rw [kept.isConnected]
        exact isConnected
  | background task result =>
      obtain ⟨⟨_, first, _⟩, rfl⟩ := guarded_eq_some.mp taken
      cases task with
      | socketConnect connection req =>
          refine ⟨rfl, ?_⟩
          intro query isConnected
          obtain ⟨_, _, unread⟩ := wired.taken (attempts_background first)
          injection unread with notConnected
          have different : query ≠ connection := by
            rintro rfl
            exact absurd (notConnected.symm.trans isConnected) (by simp)
          simp only [runBackground, setConnection,
            Function.update_of_ne different]
          exact isConnected
      | send connection message =>
          exact ⟨rfl, fun _ => id⟩
      | resend obj =>
          exact ⟨rfl, fun _ => id⟩
  | join connection =>
      obtain ⟨_, rfl⟩ := guarded_eq_some.mp taken
      refine ⟨rfl, fun query isConnected => ?_⟩
      exact setConnection_isConnected connection
        { state.connections connection with closed := true } rfl
        isConnected
  | readFails connection message =>
      obtain ⟨_, rfl⟩ := guarded_eq_some.mp taken
      refine ⟨rfl, fun query isConnected => ?_⟩
      exact setConnection_isConnected connection
        { state.connections connection with readThread := .reporting } rfl
        isConnected
  | reportLost connection =>
      obtain ⟨_, rfl⟩ := guarded_eq_some.mp taken
      refine ⟨rfl, fun query isConnected => ?_⟩
      exact setConnection_isConnected connection
        { state.connections connection with readThread := .ended } rfl
        isConnected
  | stopReading connection =>
      obtain ⟨_, rfl⟩ := guarded_eq_some.mp taken
      refine ⟨rfl, fun query isConnected => ?_⟩
      exact setConnection_isConnected connection
        { state.connections connection with readThread := .ended } rfl
        isConnected
  | _ =>
      obtain ⟨_, rfl⟩ := guarded_eq_some.mp taken
      exact ⟨rfl, fun _ => id⟩

/-- Every step leaves the last connection or none in `mConnection`. -/
theorem HoldsLast.step
    {label : ActivityLabel DateTime Login Chat}
    (wired : Wired state)
    (holds : HoldsLast state)
    (taken : step? state label = some next) :
    HoldsLast next := by
  obtain ⟨_, _, held⟩ := step?_session taken
  obtain ⟨made, _⟩ := step?_connections wired taken
  intro connection isHeld
  rw [held] at isHeld
  unfold Last
  rw [made]
  cases label with
  | login mDateTime mSender =>
      exact congrArg Nat.succ (Option.some.inj isHeld).symm
  | join other =>
      contradiction
  | _ =>
      exact holds connection isHeld

omit [DecidableEq DateTime] [DecidableEq Login] [DecidableEq Chat] in
/-- With one live connection, a reader runs on the last connection only. -/
theorem OneLive.last
    {connection : Nat}
    (oneLive : OneLive state)
    (wired : Wired state)
    (holds : HoldsLast state)
    (running : (state.connections connection).readThread = .running) :
    state.Last connection := by
  obtain ⟨isConnected, closed⟩ := wired.reading connection running
  exact holds connection
    (oneLive connection ⟨isConnected, closed, running⟩)

end Last

end ChatRelay.Client.Activity
