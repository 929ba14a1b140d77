import ChatRelay.StreamRefinement

namespace ChatRelay.StreamSystem

/-!
# Everything that is shown was typed, over byte streams

What holds of the system with whole responses holds of the one over byte
streams: what a client shows has gone as bytes to the server and as bytes to the
client, in whatever pieces, and is what some user has typed.
-/

open LabelledRun
open Client (Activity ActivityLabel ClientPlatform Display Row)
open Client.Activity
open ChatSystem (RowsFromRequests TypedRow)
open ChatSystem (clientLabels requests_typed)

variable {ClientId DateTime : Type}

/-- The user of a client has asked to log in under a name. -/
def NamedIn
    (labels : List (StreamLabel ClientId DateTime))
    (client : ClientId)
    (mSender : String) : Prop :=
  ∃ mDateTime,
    StreamLabel.client client (.login mDateTime mSender) ∈ labels

/-- The row shows what was typed by the user of some client. -/
def TypedObject
    (labels : List (StreamLabel ClientId DateTime)) :
    Row (LoginObject DateTime) (MessageObject DateTime) → Prop
  | .login obj =>
      ∃ client mSender,
        NamedIn labels client mSender ∧
          obj.joiningUsername = some (ascii mSender)
  | .message obj =>
      ∃ client mSender mContent,
        StreamLabel.client client (.clickSend mContent) ∈ labels ∧
          (mSender = "" ∨ NamedIn labels client mSender) ∧
            obj.originator = some (ascii mSender) ∧
              obj.content = some (ascii mContent)

section Runs

variable [DecidableEq ClientId] [DecidableEq DateTime]
variable
  {platform : Platform}
  {clientPlatform : ClientPlatform DateTime}
  {DATETIME_FORMAT : DateTime → String}
  {escapeRequest escapeResponse : Bytes → Bytes}
  {ending : Bytes}
  {descriptors : List Nat}
  {past : List (SystemLabel ClientId DateTime)}
  {labels : List (StreamLabel ClientId DateTime)}
  {state : StreamSystem ClientId DateTime}

omit [DecidableEq DateTime] in
/-- A step of a client in one system has a partner in the other one. -/
theorem exists_of_clientLabels
    (hears : List.Forall₂ (Hears platform clientPlatform) past labels)
    {client : ClientId}
    {own : ActivityLabel DateTime Announcement Response.Message}
    (isOwn : own ∈ clientLabels past client) :
    ∃ label ∈ labels,
      Hears platform clientPlatform (.client client own) label := by
  obtain ⟨step, isStep, isClient⟩ := List.mem_filterMap.mp isOwn
  obtain ⟨label, isLabel, heard⟩ :=
    exists_of_forall₂ (List.Forall₂.flip hears) isStep
  refine ⟨label, isLabel, ?_⟩
  cases step with
  | server other =>
      contradiction
  | client other taken =>
      dsimp only at isClient
      split at isClient
      · rename_i same
        cases isClient
        exact same ▸ heard
      · contradiction

omit [DecidableEq DateTime] in
/-- A name that was given to `login` in one system was in the other one. -/
theorem namedIn_of_named
    (hears : List.Forall₂ (Hears platform clientPlatform) past labels)
    {client : ClientId}
    {mSender : String}
    (named : Named (clientLabels past client) mSender) :
    NamedIn labels client mSender := by
  obtain ⟨mDateTime, isIn⟩ := named
  obtain ⟨label, isLabel, heard⟩ := exists_of_clientLabels hears isIn
  cases heard with
  | client =>
      exact ⟨mDateTime, isLabel⟩

omit [DecidableEq DateTime] in
/-- A row that shows what was typed still does when it is read from bytes. -/
theorem TypedObject.of_row
    (hears : List.Forall₂ (Hears platform clientPlatform) past labels)
    {row : Row Announcement Response.Message}
    (typed : TypedRow past row) :
    TypedObject labels
      (row.map (loginObject platform clientPlatform)
        (messageObject platform clientPlatform)) := by
  cases row with
  | login login =>
      obtain ⟨client, mSender, named, joining⟩ := typed
      exact ⟨client, mSender, namedIn_of_named hears named,
        congrArg some joining⟩
  | message response =>
      obtain ⟨client, mSender, mContent, clicked, named, originator,
          content⟩ := typed
      obtain ⟨label, isLabel, heard⟩ :=
        exists_of_clientLabels hears clicked
      cases heard with
      | client =>
          exact ⟨client, mSender, mContent, isLabel,
            named.imp id (namedIn_of_named hears),
            congrArg some originator, congrArg some content⟩

/--
In every run of the system over byte streams, in which every write of the server
takes a whole text or fails, and however the network cuts the bytes in both
directions, everything that a client has shown or has still to show was typed by
the user of some client: a login shows a name that was given to `login` there,
and a message shows a text that was sent there, from nobody or from a name that
was given to `login` there.
-/
theorem stream_rows_typed
    (laws :
      StreamLaws platform clientPlatform escapeRequest escapeResponse
        ending)
    (reached :
      run? (step? platform clientPlatform DATETIME_FORMAT escapeRequest)
        (initial descriptors) labels = some state)
    (whole : ∀ label ∈ labels, WritesWhole label) :
    ∀ client,
      ∀ obj ∈ (state.clients client).shownRows ++
        (state.clients client).waitingRows ++
          (state.clients client).stalledRows,
      TypedObject labels obj.row := by
  obtain ⟨past, system, ran, hears, same⟩ :=
    matched_of_run laws reached whole
  have fromRequests := RowsFromRequests.of_run ran
  intro client obj isRow
  rw [same.clients, fed, shownRows_map, waitingRows_map, stalledRows_map,
    ← List.map_append, ← List.map_append] at isRow
  obtain ⟨own, isOwn, rfl⟩ := List.mem_map.mp isRow
  have typed : TypedRow past own.row :=
    .of_request (requests_typed laws.requests ran)
      (fromRequests.posted client own isOwn)
  exact .of_row hears typed

end Runs

/-- The row of a client that logs in shows the name that was typed. -/
theorem stream_rows_typed_streamLogIn :
    ∃ final,
      run? streamStep? (initial [0, 1, 2, 3]) streamLogIn = some final ∧
        (final.clients 0).stalledRows = [⟨0, streamLogInRow⟩] ∧
          TypedObject streamLogIn streamLogInRow := by
  have finished :
      (run? streamStep? (initial [0, 1, 2, 3]) streamLogIn).map
          (fun final => (final.clients 0).stalledRows) =
        some [⟨0, streamLogInRow⟩] := by
    decide +kernel
  obtain ⟨final, reached, stalled⟩ := Option.map_eq_some_iff.mp finished
  refine ⟨final, reached, stalled, ?_⟩
  refine stream_rows_typed streamLaws reached streamLogIn_whole 0
    ⟨0, streamLogInRow⟩ (List.mem_append_right _ ?_)
  rw [stalled]
  exact List.mem_singleton_self _

end ChatRelay.StreamSystem
