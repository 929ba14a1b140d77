import Mathlib.Data.List.Forall2
import ChatRelay.SingleDelivery

namespace ChatRelay

/-!
# One order for all clients

The responses that the server pushes on its queue are one sequence.  The rows
that the readers of a client post to its handler are a subsequence of it, over
all connections that the client makes one after the other.  So no two clients
are shown two responses in different orders.
-/

open LabelledRun
open Client (Activity ActivityLabel Row)
open Client.Activity (Last OneLive)

/-- What is found at growing positions comes in the order of the list. -/
theorem sublist_of_positions
    {Item Found : Type}
    {items : List Item}
    {find? : Item → Option Found}
    {positions : List Nat}
    {found : List Found}
    (isFound :
      List.Forall₂
        (fun position result =>
          0 < position ∧
            items[position - 1]?.bind find? = some result)
        positions found)
    (increasing : positions.Pairwise (· < ·))
    (start : Nat)
    (later : ∀ position ∈ positions, start < position) :
    found.Sublist ((items.drop start).filterMap find?) := by
  induction isFound generalizing start with
  | nil =>
      exact List.nil_sublist _
  | @cons position result others results head tail inductionHypothesis =>
      obtain ⟨positive, isResult⟩ := head
      obtain ⟨item, isItem, isFound⟩ := Option.bind_eq_some_iff.mp isResult
      obtain ⟨below, increasing⟩ := List.pairwise_cons.mp increasing
      obtain ⟨inBounds, rfl⟩ := List.getElem?_eq_some_iff.mp isItem
      have first :
          (items.drop (position - 1)).filterMap find? =
            result :: (items.drop position).filterMap find? := by
        rw [List.drop_eq_getElem_cons inBounds,
          List.filterMap_cons_some isFound, Nat.sub_add_cancel positive]
      have skipped :
          ((items.drop (position - 1)).filterMap find?).Sublist
            ((items.drop start).filterMap find?) := by
        refine (List.drop_sublist_drop_left items ?_).filterMap find?
        exact Nat.le_sub_one_of_lt (later position List.mem_cons_self)
      rw [first] at skipped
      exact ((inductionHypothesis increasing position below).cons_cons
        result).trans skipped

namespace Server

variable {platform : Platform}
variable {state next : Server}
variable {labels : List ServerLabel}

/-- The response whose write loop is under way. -/
def beingWritten (state : Server) : List Response :=
  match state.senderPc with
  | .writing message _ _ _ =>
      [message]
  | _ =>
      []

/-- A write loop begins and ends with its own response. -/
theorem Step.beingWritten
    {label : ServerLabel}
    (step : Step platform state label next) :
    state.beingWritten ++ begunLoops [label] =
      endedLoops [label] ++ next.beingWritten := by
  cases step with
  | listen step =>
      unfold Server.beingWritten
      rw [step.senderPc]
      exact List.append_nil _
  | send step =>
      cases step <;>
        simp_all [Server.beingWritten, begunLoops, endedLoops, throw]

/-- The write loops that have begun have ended, but for the last one. -/
theorem begunLoops_of_run
    {descriptors : List Nat}
    (reached :
      run? (step? platform) (initial descriptors) labels = some state) :
    begunLoops labels = endedLoops labels ++ state.beingWritten := by
  refine @LabelledRun.invariant _ _ _ _
    (fun labels (state : Server) =>
      begunLoops labels = endedLoops labels ++ state.beingWritten)
    ?_ ?_ _ _ reached
  · rfl
  · intro past state label next _ same taken
    have step := (step?_sound taken).2.beingWritten
    rw [endedLoops_concat, List.append_assoc, ← step,
      ← List.append_assoc, ← same]
    exact List.filterMap_append

/-- The push that is being written has the number of its write loop. -/
theorem writtenPush?_begun
    {descriptors : List Nat}
    (reached :
      run? (step? platform) (initial descriptors) labels = some state)
    {message : Response}
    {text : Bytes}
    {targets : List SocketRef}
    {remaining : List Response}
    (writing :
      state.senderPc = .writing message text targets remaining) :
    0 < (begunLoops labels).length ∧
      writtenPush? labels =
        (pushes labels)[(begunLoops labels).length - 1]? := by
  have begun := congrArg List.length (begunLoops_of_run reached)
  simp only [beingWritten, writing, List.length_append,
    List.length_singleton] at begun
  refine ⟨by omega, ?_⟩
  rw [writtenPush?, begun, Nat.add_sub_cancel]

end Server

namespace ChatSystem

variable {ClientId DateTime : Type}

/-- The rows that the readers of a client have posted to its handler. -/
def postedRows
    [DecidableEq ClientId]
    (labels : List (SystemLabel ClientId DateTime))
    (client : ClientId) :
    List (Row Announcement Response.Message) :=
  labels.filterMap fun
    | .client other (.visitRow _ row) =>
        if other = client then
          some row
        else
          none
    | _ =>
        none

/-- The row of a response that was pushed. -/
def pushedRow? (push : SocketRef × Response) :
    Option (Row Announcement Response.Message) :=
  (Delivery.broadcast push.1 push.2).row?

/-- The rows of the responses that the server has pushed, in order. -/
def pushedRows
    (log : List ServerLabel) :
    List (Row Announcement Response.Message) :=
  (Server.pushes log).filterMap pushedRow?

theorem postedRows_concat
    [DecidableEq ClientId]
    (labels : List (SystemLabel ClientId DateTime))
    (label : SystemLabel ClientId DateTime)
    (client : ClientId) :
    postedRows (labels ++ [label]) client =
      postedRows labels client ++ postedRows [label] client :=
  List.filterMap_append

end ChatSystem

namespace NumberedSystem

variable {ClientId DateTime : Type}

open ChatSystem (postedRows pushedRow? pushedRows)

/-! ### What the numbers stand for -/

/-- A response on its way has the number of its push. -/
inductive Labels
    (log : List ServerLabel) :
    Option Nat → Delivery → Prop where
  | reply (text : Bytes) : Labels log none (.reply text)
  | broadcast
      {number : Nat}
      {push : SocketRef × Response}
      (positive : 0 < number)
      (isPush : (Server.pushes log)[number - 1]? = some push) :
      Labels log (some number) (.broadcast push.1 push.2)

/-- A row has the number of its push. -/
def IsRow
    (log : List ServerLabel)
    (number : Nat)
    (row : Row Announcement Response.Message) : Prop :=
  0 < number ∧
    (Server.pushes log)[number - 1]?.bind pushedRow? = some row

/-- The first row on its way has the number of its push. -/
theorem isRow_of_head
    {log : List ServerLabel}
    {numbers : List (Option Nat)}
    {responses : List Delivery}
    (waiting : List.Forall₂ (Labels log) numbers responses)
    {delivery : Delivery}
    (isHead : delivery ∈ responses.head?)
    {row : Row Announcement Response.Message}
    (isRow : delivery.row? = some row) :
    ∃ number, numbers.head?.join = some number ∧ IsRow log number row := by
  cases waiting with
  | nil =>
      contradiction
  | cons head tail =>
      cases isHead
      cases head with
      | reply text =>
          contradiction
      | broadcast positive isPush =>
          exact ⟨_, rfl, positive,
            Option.bind_eq_some_iff.mpr ⟨_, isPush, isRow⟩⟩

/-- What is left after the first response keeps its numbers. -/
theorem labels_tail
    {log : List ServerLabel}
    {numbers : List (Option Nat)}
    {responses : List Delivery}
    (waiting : List.Forall₂ (Labels log) numbers responses) :
    List.Forall₂ (Labels log) numbers.tail responses.tail := by
  cases waiting with
  | nil =>
      exact .nil
  | cons head tail =>
      exact tail

/-- Every number stands for a push. -/
structure Traces
    [DecidableEq ClientId]
    (labels : List (SystemLabel ClientId DateTime))
    (numbered : NumberedSystem ClientId DateTime) : Prop where
  waiting :
    ∀ link,
      List.Forall₂ (Labels numbered.system.log) (numbered.numbers link)
        (numbered.system.responses link)
  posted :
    ∀ client,
      List.Forall₂ (IsRow numbered.system.log) (numbered.posted client)
        (postedRows labels client)

/-- A push stays where it is. -/
theorem pushes_grows
    {log : List ServerLabel}
    (label : ServerLabel)
    {position : Nat}
    {push : SocketRef × Response}
    (isPush : (Server.pushes log)[position]? = some push) :
    (Server.pushes (log ++ [label]))[position]? = some push := by
  obtain ⟨inBounds, _⟩ := List.getElem?_eq_some_iff.mp isPush
  rw [Server.pushes_concat, List.getElem?_append_left inBounds]
  exact isPush

theorem Labels.grows
    {log : List ServerLabel}
    (label : ServerLabel)
    {number : Option Nat}
    {delivery : Delivery}
    (labels : Labels log number delivery) :
    Labels (log ++ [label]) number delivery := by
  cases labels with
  | reply text =>
      exact .reply text
  | broadcast positive isPush =>
      exact .broadcast positive (pushes_grows label isPush)

theorem IsRow.grows
    {log : List ServerLabel}
    (label : ServerLabel)
    {number : Nat}
    {row : Row Announcement Response.Message}
    (isRow : IsRow log number row) :
    IsRow (log ++ [label]) number row := by
  obtain ⟨positive, found⟩ := isRow
  obtain ⟨push, isPush, isFound⟩ := Option.bind_eq_some_iff.mp found
  exact ⟨positive, Option.bind_eq_some_iff.mpr
    ⟨push, pushes_grows label isPush, isFound⟩⟩

variable [DecidableEq ClientId] [DecidableEq DateTime]

section Steps

variable
  {platform : Platform}
  {DATETIME_FORMAT : DateTime → String}
  {escape : Bytes → Bytes}
  {descriptors : List Nat}
  {labels : List (SystemLabel ClientId DateTime)}
  {numbered next : NumberedSystem ClientId DateTime}

omit [DecidableEq DateTime] in
/-- A response that is written gets the number of its push. -/
theorem push_labels
    {log : List ServerLabel}
    {socket : SocketRef}
    {text : Bytes}
    {outcome : WriteOutcome}
    {number : Option Nat}
    {delivery : Delivery}
    (waiting :
      ∀ link,
        List.Forall₂ (Labels log) (numbered.numbers link)
          (numbered.system.responses link))
    (isNumber : Labels log number delivery)
    (link : Link ClientId) :
    List.Forall₂ (Labels log)
      (numbered.push number
        (numbered.system.writtenTo? socket text outcome) link)
      ((numbered.system.written socket text outcome
        delivery).responses link) := by
  unfold ChatSystem.writtenTo? ChatSystem.written ChatSystem.deliver
  split
  · cases numbered.system.peer? socket with
    | none =>
        exact waiting link
    | some target =>
        by_cases same : link = target
        · subst same
          simp only [push, Function.update_self]
          exact List.rel_append (waiting link) (.cons isNumber .nil)
        · simp only [push, Function.update_of_ne same]
          exact waiting link
  · exact waiting link

/-- What the server writes has the number of its push. -/
theorem Traces.server
    {label : ServerLabel}
    (traces : Traces labels numbered)
    (keeps :
      ChatSystem.KeepsAnnouncements platform descriptors numbered.system)
    (taken :
      step? platform DATETIME_FORMAT escape numbered (.server label) =
        some next) :
    Traces (labels ++ [.server label]) next := by
  obtain ⟨after, stepped, rfl⟩ := step?_server taken
  have waiting (link : Link ClientId) :
      List.Forall₂ (Labels (numbered.system.log ++ [label]))
        (numbered.numbers link) (numbered.system.responses link) :=
    (traces.waiting link).imp fun _ _ isLabel => isLabel.grows label
  refine ⟨?_, ?_⟩
  · intro link
    dsimp only
    cases label with
    | listen action =>
        cases action with
        | write socket text outcome =>
            exact push_labels waiting (.reply text) link
        | read socket outcome now =>
            cases outcome with
            | data bytes =>
                simp only [numbersAfterServer, ChatSystem.afterServer]
                split <;> exact waiting link
            | _ =>
                exact waiting link
        | _ =>
            exact waiting link
    | send action =>
        cases action with
        | write message text socket targets remaining outcome =>
            obtain ⟨_, step⟩ := Server.step?_sound stepped
            have writing :
                numbered.system.server.senderPc =
                  .writing message text (socket :: targets) remaining := by
              cases step with
              | send step =>
                  cases step <;> assumption
            obtain ⟨origin, isNext, _⟩ :=
              Server.written_push keeps.served writing
            obtain ⟨positive, isBegun⟩ :=
              Server.writtenPush?_begun keeps.served writing
            simp only [numbersAfterServer, ChatSystem.afterServer, isNext]
            refine push_labels waiting ?_ link
            exact @Labels.broadcast _ _ (origin, message) positive
              (pushes_grows _ (isBegun ▸ isNext))
        | _ =>
            exact waiting link
  · intro client
    have nothing :
        postedRows ([.server label] : List (SystemLabel ClientId DateTime))
            client =
          [] :=
      rfl
    rw [ChatSystem.postedRows_concat, nothing, List.append_nil]
    exact (traces.posted client).imp fun _ _ isRow => isRow.grows label

/-- What a client reads has the number of its push. -/
theorem Traces.client
    {client : ClientId}
    {label : ActivityLabel DateTime Announcement Response.Message}
    (traces : Traces labels numbered)
    (taken :
      step? platform DATETIME_FORMAT escape numbered
          (.client client label) =
        some next) :
    Traces (labels ++ [.client client label]) next := by
  obtain ⟨system, stepped, rfl⟩ := Option.map_eq_some_iff.mp taken
  obtain ⟨permitted, after, _, rfl⟩ := ChatSystem.step?_client stepped
  obtain ⟨_, sameLog⟩ :=
    @ChatSystem.afterClient_server _ _ numbered.system _
      DATETIME_FORMAT escape client label
  have popped (connection : Nat) (link : Link ClientId) :
      List.Forall₂ (Labels numbered.system.log)
        (numbered.pop (client, connection) link)
        ((numbered.system.received (client, connection)).responses
          link) := by
    by_cases same : link = (client, connection)
    · subst same
      simp only [pop, ChatSystem.received, Function.update_self]
      exact labels_tail (traces.waiting (client, connection))
    · simp only [pop, ChatSystem.received, Function.update_of_ne same]
      exact traces.waiting link
  refine ⟨?_, ?_⟩
  · intro link
    dsimp only
    rw [sameLog]
    cases label with
    | visitRow connection row =>
        exact popped connection link
    | visitError connection message =>
        exact popped connection link
    | background task result =>
        cases task <;> rcases result with _ | ⟨⟨⟩⟩ <;>
          exact traces.waiting link
    | _ =>
        exact traces.waiting link
  · intro reader
    dsimp only
    rw [sameLog, ChatSystem.postedRows_concat]
    cases label with
    | visitRow connection row =>
        by_cases own : client = reader
        · subst own
          obtain ⟨delivery, isHead, isRow⟩ := permitted
          obtain ⟨number, isNumber, isRow⟩ :=
            isRow_of_head (traces.waiting (client, connection)) isHead isRow
          simp only [postedAfterClient, Function.update_self, isNumber,
            postedRows, List.filterMap_cons, List.filterMap_nil, if_true]
          exact List.rel_append (traces.posted client)
            (.cons isRow .nil)
        · simp only [postedAfterClient,
            Function.update_of_ne (Ne.symm own), postedRows,
            List.filterMap_cons, List.filterMap_nil, if_neg own,
            List.append_nil]
          exact traces.posted reader
    | _ =>
        have nothing := List.append_nil (postedRows labels reader)
        exact nothing.symm ▸ traces.posted reader

theorem Traces.of_run
    (reached :
      run? (step? platform DATETIME_FORMAT escape)
        (initial descriptors) labels = some numbered) :
    Traces labels numbered := by
  refine @LabelledRun.invariant _ _ _ _ Traces ?_ ?_ _ _ reached
  · exact ⟨fun _ => .nil, fun _ => .nil⟩
  · intro past state label next before traces taken
    cases label with
    | server label =>
        have run :=
          @run?_system _ _ _ _ platform DATETIME_FORMAT escape
            descriptors past
        rw [before] at run
        exact traces.server (ChatSystem.keepsAnnouncements run.symm) taken
    | client client label =>
        exact traces.client taken

/-! ### The numbers grow -/

/--
What a client has been posted and can read from its last connection comes in
the order of the write loops.
-/
structure PostsInOrder
    (numbered : NumberedSystem ClientId DateTime)
    (client : ClientId) : Prop where
  posted : (numbered.posted client).Pairwise (· < ·)
  waiting :
    ∀ connection,
      Last (numbered.system.clients client) connection →
      (numbered.broadcasts client connection).Pairwise (· < ·)

omit [DecidableEq ClientId] [DecidableEq DateTime] in
/-- Nothing is added for a client. -/
theorem PostsInOrder.of_fewer
    {client : ClientId}
    (inOrder : PostsInOrder numbered client)
    (posted : next.posted client = numbered.posted client)
    (last :
      ∀ query,
        Last (next.system.clients client) query →
        Last (numbered.system.clients client) query)
    (fewer :
      ∀ query,
        (next.broadcasts client query).Sublist
          (numbered.broadcasts client query)) :
    PostsInOrder next client := by
  refine ⟨posted ▸ inOrder.posted, ?_⟩
  intro query isLast
  exact (inOrder.waiting query (last query isLast)).sublist (fewer query)

/-- The server writes the broadcast of its loop to a connection, or nothing. -/
theorem server_broadcasts
    {client : ClientId}
    {connection : Nat}
    {label : ServerLabel}
    (once : DeliversOnce numbered client)
    (apart : Apart numbered)
    (isLast : Last (numbered.system.clients client) connection)
    (taken :
      step? platform DATETIME_FORMAT escape numbered (.server label) =
        some next) :
    next.broadcasts client connection =
        numbered.broadcasts client connection ∨
      (numbered.system.loop ∉ numbered.broadcasts client connection ∧
        next.broadcasts client connection =
          numbered.broadcasts client connection ++
            [numbered.system.loop]) := by
  have stepped := ServerStepped.of_step apart taken
  have numbers := stepped.numbers
  simp only [broadcasts, stepped.posted, numbers]
  cases label with
  | listen action =>
      refine Or.inl (congrArg (numbered.posted client ++ ·) ?_)
      cases action with
      | write socket text outcome =>
          exact reduceOption_push_none _ _
      | _ =>
          rfl
  | send action =>
      cases action with
      | write message text socket targets remaining outcome =>
          rw [numbersAfterServer]
          cases isTarget :
              numbered.system.writtenTo? socket text outcome with
          | none =>
              exact Or.inl rfl
          | some link =>
              by_cases own : (client, connection) = link
              · subst own
                obtain ⟨isOpen, isPeer⟩ :=
                  ChatSystem.writtenTo?_some isTarget
                obtain ⟨writing, _⟩ := stepped.step.write_targets isOpen
                refine Or.inr
                  ⟨once.current socket (writing ▸ List.mem_cons_self)
                    connection isPeer isLast, ?_⟩
                simp [push, List.reduceOption_append]
              · refine Or.inl ?_
                rw [push, Function.update_of_ne own]
      | _ =>
          exact Or.inl rfl

/-- The broadcast of the current write loop comes last. -/
theorem PostsInOrder.server
    {client : ClientId}
    {label : ServerLabel}
    (inOrder : PostsInOrder numbered client)
    (once : DeliversOnce numbered client)
    (apart : Apart numbered)
    (taken :
      step? platform DATETIME_FORMAT escape numbered (.server label) =
        some next) :
    PostsInOrder next client := by
  have stepped := ServerStepped.of_step apart taken
  refine ⟨?_, ?_⟩
  · rw [stepped.posted]
    exact inOrder.posted
  · rw [stepped.clients]
    intro connection isLast
    have waiting := inOrder.waiting connection isLast
    rcases server_broadcasts once apart isLast taken with
        same | ⟨notYet, written⟩
    · rw [same]
      exact waiting
    · rw [written]
      refine List.pairwise_append.mpr
        ⟨waiting, List.pairwise_singleton _ _, ?_⟩
      intro number isNumber loop isLoop
      rw [List.mem_singleton.mp isLoop]
      refine Nat.lt_of_le_of_ne (once.bounded connection number isNumber) ?_
      rintro rfl
      exact notYet isNumber

/-- A client with one live connection reads in the order of the write loops. -/
theorem PostsInOrder.own
    {client : ClientId}
    {label : ActivityLabel DateTime Announcement Response.Message}
    (inOrder : PostsInOrder numbered client)
    (apart : Apart numbered)
    (oneLive : OneLive (numbered.system.clients client))
    (taken :
      step? platform DATETIME_FORMAT escape numbered
          (.client client label) =
        some next) :
    PostsInOrder next client := by
  obtain ⟨after, stepped, isNext⟩ := step?_client taken
  obtain ⟨made, _⟩ :=
    Client.Activity.step?_connections (apart.wired client) stepped
  have isAfter : next.system.clients client = after := by
    rw [isNext]
    exact Function.update_self ..
  have numbers :
      next.numbers = numbered.numbersAfterClient client label := by
    rw [isNext]
  have posted :
      next.posted = numbered.postedAfterClient client label := by
    rw [isNext]
  rw [← isAfter] at made
  cases label with
  | login mDateTime mSender =>
      -- Nothing was written to the new connection.
      have unread := (apart.wired client).fresh _ (Nat.le_refl _)
      have noLink :=
        @Apart.unconnected _ _ _
          (client, (numbered.system.clients client).nextConnection)
          apart (by injection unread)
      have silent :=
        apart.silent
          (client, (numbered.system.clients client).nextConnection)
          (fun isLink => noLink (List.mem_append_left _ isLink))
      refine ⟨posted ▸ inOrder.posted, ?_⟩
      intro connection isLast
      obtain rfl :
          connection =
            (numbered.system.clients client).nextConnection :=
        Nat.succ.inj (isLast.trans made)
      rw [broadcasts, numbers, posted]
      simp only [numbersAfterClient, postedAfterClient, silent,
        List.reduceOption_nil, List.append_nil]
      exact inOrder.posted
  | visitRow connection row =>
      obtain ⟨⟨_, running⟩, _⟩ := guarded_eq_some.mp stepped
      have wasLast :=
        oneLive.last (apart.wired client) (apart.holdsLast client)
          running
      have same :
          next.broadcasts client connection =
            numbered.broadcasts client connection := by
        simp only [broadcasts, posted, postedAfterClient, numbers,
          numbersAfterClient, pop, Function.update_self,
          List.append_assoc]
        rw [head_append_tail]
      have waiting := inOrder.waiting connection wasLast
      rw [← same] at waiting
      refine ⟨(List.pairwise_append.mp waiting).1, ?_⟩
      intro query isLast
      obtain rfl : query = connection :=
        Nat.succ.inj (isLast.trans (made.trans wasLast.symm))
      exact waiting
  | visitError connection message =>
      have samePosted : next.posted client = numbered.posted client :=
        congrFun posted client
      exact inOrder.of_fewer samePosted
        (fun query isLast => isLast.trans made)
        (broadcasts_pop numbers samePosted)
  | _ =>
      refine inOrder.of_fewer (congrFun posted client)
        (fun query isLast => isLast.trans made) ?_
      intro query
      rw [broadcasts, broadcasts, numbers, posted]
      exact List.Sublist.refl _

/-- A client with one live connection is posted growing numbers in every run. -/
theorem PostsInOrder.of_run
    {client : ClientId}
    (reached :
      run? (step? platform DATETIME_FORMAT escape)
        (initial descriptors) labels = some numbered)
    (oneLive :
      Always (step? platform DATETIME_FORMAT escape)
        (initial descriptors)
        (fun _ numbered => OneLive (numbered.system.clients client))
        labels) :
    PostsInOrder numbered client := by
  have every :
      EveryStep (step? platform DATETIME_FORMAT escape)
        (initial descriptors)
        (fun _ numbered _ => OneLive (numbered.system.clients client))
        labels :=
    fun past label future shape => oneLive past (label :: future) shape
  have both :=
    @always_of_everyStep _ _ _ _
      (fun _ numbered =>
        DeliversOnce numbered client ∧ PostsInOrder numbered client) _
      ⟨.initial descriptors client, .nil, fun _ _ => .nil⟩
      (fun past state label next before holds isLive taken => by
        have apart := Apart.of_run before
        refine ⟨holds.1.step apart isLive taken, ?_⟩
        cases label with
        | server label =>
            exact holds.2.server holds.1 apart taken
        | client mover label =>
            by_cases own : client = mover
            · subst own
              exact holds.2.own apart isLive taken
            · obtain ⟨posted, last, fewer⟩ := other_frame own taken
              exact holds.2.of_fewer posted last fewer)
      _ every
  exact (both.final reached).2

end Steps

end NumberedSystem

namespace ChatSystem

variable {ClientId DateTime : Type}
variable [DecidableEq ClientId] [DecidableEq DateTime]

/-- What a client posts comes in the order of the pushes. -/
theorem postedRows_of_run
    {platform : Platform}
    {DATETIME_FORMAT : DateTime → String}
    {escape : Bytes → Bytes}
    {descriptors : List Nat}
    {labels : List (SystemLabel ClientId DateTime)}
    {system : ChatSystem ClientId DateTime}
    (reached :
      run? (step? platform DATETIME_FORMAT escape)
        (initial descriptors) labels = some system)
    {client : ClientId}
    (oneLive :
      Always (step? platform DATETIME_FORMAT escape)
        (initial descriptors)
        (fun _ system => OneLive (system.clients client)) labels) :
    (postedRows labels client).Sublist (pushedRows system.log) := by
  have looksOn :=
    @NumberedSystem.run?_system ClientId DateTime _ _ platform
      DATETIME_FORMAT escape descriptors
  have runs := looksOn labels
  rw [reached] at runs
  obtain ⟨numbered, numberedReached, rfl⟩ :=
    Option.map_eq_some_iff.mp runs
  have inOrder :=
    @NumberedSystem.PostsInOrder.of_run _ _ _ _ _ _ _ _ _ _ client
      numberedReached (by
        intro past future shape state before
        have run := looksOn past
        rw [before] at run
        exact oneLive past future shape state.system run.symm)
  have traces := NumberedSystem.Traces.of_run numberedReached
  have positive :=
    ((List.forall₂_and_left _ _).mp (traces.posted client)).1
  exact sublist_of_positions (traces.posted client) inOrder.posted 0
    positive

/--
In every run of the server with any number of clients: what the readers of a
client post to its handler, over all its connections, is a subsequence of what
the server has pushed on its queue, if the client has at most one live
connection at a time.
-/
theorem rows_in_pushed_order
    {platform : Platform}
    {DATETIME_FORMAT : DateTime → String}
    {escape : Bytes → Bytes}
    {descriptors : List Nat}
    {labels : List (SystemLabel ClientId DateTime)}
    {system : ChatSystem ClientId DateTime}
    (reached :
      run? (step? platform DATETIME_FORMAT escape)
        (initial descriptors) labels = some system)
    {client : ClientId}
    (oneLive :
      Always (step? platform DATETIME_FORMAT escape)
        (initial descriptors)
        (fun _ system => OneLive (system.clients client)) labels) :
    (postedRows labels client).Sublist (pushedRows system.log) :=
  postedRows_of_run reached oneLive

/-! ### A client that signs in once -/

/-- A client connects once, over the connection that it holds. -/
def connectsOnce
    (client : ClientId)
    (system : ChatSystem ClientId DateTime) :
    SystemLabel ClientId DateTime → Bool
  | .client mover (.login _ _) =>
      mover ≠ client ∨ (system.clients client).nextConnection = 0
  | .client mover (.main (.connectPostExecute connection _ (.ok ())) _) =>
      mover ≠ client ∨
        (system.clients client).mConnection = some connection
  | _ =>
      true

/-- A client that connects once has at most one live connection. -/
theorem always_oneLive
    {platform : Platform}
    {DATETIME_FORMAT : DateTime → String}
    {escape : Bytes → Bytes}
    {descriptors : List Nat}
    {client : ClientId}
    {labels : List (SystemLabel ClientId DateTime)}
    (every :
      EveryStep (step? platform DATETIME_FORMAT escape)
        (initial descriptors)
        (fun _ system label => system.connectsOnce client label = true)
        labels) :
    Always (step? platform DATETIME_FORMAT escape)
      (initial descriptors)
      (fun _ system => OneLive (system.clients client)) labels := by
  have both :=
    @always_of_everyStep _ _ _ _
      (fun _ (system : ChatSystem ClientId DateTime) =>
        Client.Activity.Wired (system.clients client) ∧
          OneLive (system.clients client)) _
      ⟨Client.Activity.onCreate_wired,
        fun _ live => Bool.noConfusion live.1⟩
      (fun past system label next _ holds once taken => by
        cases label with
        | server label =>
            obtain ⟨after, _, rfl⟩ := step?_server taken
            dsimp only
            rw [(@afterServer_sends _ _ system _ label).clients]
            exact holds
        | client mover label =>
            obtain ⟨_, after, stepped, rfl⟩ := step?_client taken
            dsimp only
            by_cases own : client = mover
            · subst own
              rw [Function.update_self]
              refine ⟨holds.1.step stepped, ?_⟩
              apply (Client.Activity.oneLive_step holds.1 holds.2
                stepped).mpr
              unfold Client.Activity.KeepsOneLive
              split
              · intro connection live
                have noConnection :
                    (system.clients client).nextConnection = 0 := by
                  simpa [connectsOnce] using once
                have unread :=
                  holds.1.fresh connection
                    (noConnection ▸ Nat.zero_le connection)
                injection unread with notConnected
                exact Bool.noConfusion (notConnected.symm.trans live.1)
              · simpa [connectsOnce] using once
              · trivial
            · rw [Function.update_of_ne own]
              exact holds)
      _ every
  intro past future shape system before
  exact (both past future shape system before).2

/-- Each of the two clients connects once. -/
theorem logInTogether_connectsOnce :
    checkSteps referenceStep? (connectsOnce 1) (initial [0, 1, 2, 3])
        logInTogether =
      true := by
  decide +kernel

theorem logInTogether_posted :
    postedRows logInTogether 1 = [.login ⟨0, answer "ann"⟩] := by
  decide +kernel

/-- The second of two clients posts the answer to the first one. -/
theorem rows_in_pushed_order_logInTogether :
    ∃ final,
      run? referenceStep? (initial [0, 1, 2, 3]) logInTogether =
          some final ∧
        postedRows logInTogether 1 = [.login ⟨0, answer "ann"⟩] ∧
          (postedRows logInTogether 1).Sublist
            (pushedRows final.log) := by
  have finished :
      ((run? referenceStep? (initial [0, 1, 2, 3]) logInTogether).map
          fun _ => ()) =
        some () := by
    decide +kernel
  obtain ⟨final, reached, _⟩ := Option.map_eq_some_iff.mp finished
  exact ⟨final, reached, logInTogether_posted,
    rows_in_pushed_order reached
      (always_oneLive (EveryStep.of_check logInTogether_connectsOnce))⟩

end ChatSystem

end ChatRelay
