import Mathlib.Data.List.Basic
import ChatRelay.GsonText
import ChatRelay.MessageJson

namespace ChatRelay.Client

/-!
# Responses on the wire

The server writes each response as one compact JSON text, perhaps with a line
feed behind it.  The reader thread takes what one read returns for one
response.  The two agree exactly when every read returns one whole text, give
or take white space around it, and the client can take the response apart.
-/

open JsonText

section Response

variable
  {DateTime : Type}
  (client : ClientPlatform DateTime)
  (platform : Platform)

/-- A response whose strings are Unicode strings. -/
def Textual (response : Response) : Prop :=
  ∀ field ∈ response.fields platform, Unicode field.2

/-- A response that the client can take apart. -/
def Readable : Response → Prop
  | .login response =>
      (client.parseDateTime
        (platform.printTime response.dateTime)).isSome
  | .message response =>
      (client.parseDateTime
        (platform.printTime response.dateTime)).isSome
  | .error response =>
      ∃ ec : ClientErrorCode, ec.CODE = response.code.value.toNat

/--
A call of the visitor with the contents of a response.  A server error is
called with the time of its arrival.
-/
def Announces : Response → ResponseCallback DateTime → Prop
  | .login response, .visitLogin login =>
      (∃ time,
        client.parseDateTime (platform.printTime response.dateTime) =
            some time ∧
          login.mDateTime = some time) ∧
        login.mSender = some response.sender ∧
        login.mJoiningUsername = some response.joiningUsername
  | .message response, .visitMessage message =>
      (∃ time,
        client.parseDateTime (platform.printTime response.dateTime) =
            some time ∧
          message.mDateTime = some time) ∧
        message.mSender = some response.sender ∧
        message.mContent = some response.content ∧
        message.mOriginator = some response.originator
  | .error response, .visitError error =>
      error.mCode.CODE = response.code.value.toNat ∧
        error.mMessage = response.message
  | _, _ =>
      False

/-- One whole text of a response with white space around it. -/
def IsDocument
    (escape : Bytes → Bytes)
    (content : Bytes)
    (response : Response) : Prop :=
  ∃ before after,
    Spaces before ∧
      Spaces after ∧
      content =
        before ++
          (value escape (response.toJson platform) ++ after)

/-- The parse tree of a response. -/
def parsed (response : Response) : JsonMembers :=
  [(ascii "type", .JsonPrimitive response.type),
    (ascii "object",
      .JsonObject (primitives (response.fields platform)))]

/-- The time that Gson reads in a response, and what is called with it. -/
def dated :
    Response →
      Option (TimePoint × (DateTime → ResponseCallback DateTime))
  | .login response =>
      some (response.dateTime, fun dateTime =>
        .visitLogin
          { mDateTime := some dateTime
            mSender := some response.sender
            mJoiningUsername := some response.joiningUsername })
  | .message response =>
      some (response.dateTime, fun dateTime =>
        .visitMessage
          { mDateTime := some dateTime
            mSender := some response.sender
            mContent := some response.content
            mOriginator := some response.originator })
  | .error _ =>
      none

variable
  {client platform}
  {escape : Bytes → Bytes}
  (reader : GsonReader client.fromJson escape)

include reader

/-- A document is parsed as the response that it is of. -/
theorem fromJson_document
    {content : Bytes}
    {response : Response}
    (textual : Textual platform response)
    (document : IsDocument platform escape content response) :
    client.fromJson content =
      .ok (some (parsed platform response)) := by
  obtain ⟨before, after, spacesBefore, spacesAfter, rfl⟩ := document
  have type : Unicode response.type := by
    cases response <;> exact ⟨_, rfl⟩
  have keys :
      ∀ field ∈ response.fields platform, Unicode field.1 := by
    cases response with
    | login response =>
        simp only [Response.fields, List.mem_cons, List.not_mem_nil,
          or_false]
        rintro field (rfl | rfl | rfl) <;> exact ⟨_, rfl⟩
    | message response =>
        simp only [Response.fields, List.mem_cons, List.not_mem_nil,
          or_false]
        rintro field (rfl | rfl | rfl | rfl) <;> exact ⟨_, rfl⟩
    | error response =>
        simp only [Response.fields, List.mem_cons, List.not_mem_nil,
          or_false]
        rintro field (rfl | rfl | rfl | rfl | rfl) <;> exact ⟨_, rfl⟩
  have distinct :
      ((response.fields platform).map Prod.fst).Nodup := by
    cases response <;>
      · simp only [Response.fields, List.map_cons, List.map_nil]
        decide
  have nonempty : response.fields platform ≠ [] := by
    cases response <;> exact List.cons_ne_nil _ _
  rw [response.toJson_eq_tagged platform]
  exact reader.read_tagged ⟨_, rfl⟩ type ⟨_, rfl⟩
    (fun field inFields => ⟨keys field inFields, textual field inFields⟩)
    (by decide) distinct nonempty spacesBefore spacesAfter

omit reader in
/-- A parsed login or message response is visited if its time can be read. -/
theorem visitContent_dated
    {content : Bytes}
    {response : Response}
    {time : TimePoint}
    {callback : DateTime → ResponseCallback DateTime}
    (parsedContent :
      client.fromJson content = .ok (some (parsed platform response)))
    (isDated : dated response = some (time, callback))
    (now : DateTime) :
    visitContent client content now =
      match client.parseDateTime (platform.printTime time) with
      | none =>
          .error .IllegalArgumentException
      | some dateTime =>
          .ok (callback dateTime) := by
  have date :=
    @readDateTime_primitive DateTime client
      (primitives (response.fields platform)) (ascii "datetime")
      (platform.printTime time)
  unfold visitContent
  cases response with
  | login response =>
      cases isDated
      have visits :
          visit client content =
            (readLoginResponse client
              (primitives
                ((Response.login response).fields platform))).map
              .visitLogin := by
        unfold visit
        rw [parsedContent]
        rfl
      rw [visits, readLoginResponse, date rfl]
      cases client.parseDateTime (platform.printTime response.dateTime)
        <;> rfl
  | message response =>
      cases isDated
      have visits :
          visit client content =
            (readMessageResponse client
              (primitives
                ((Response.message response).fields platform))).map
              .visitMessage := by
        unfold visit
        rw [parsedContent]
        rfl
      rw [visits, readMessageResponse, date rfl]
      cases client.parseDateTime (platform.printTime response.dateTime)
        <;> rfl
  | error response =>
      contradiction

omit reader in
/-- A parsed server error is visited by hand if its code is known. -/
theorem visitContent_error
    {content : Bytes}
    {response : Response.Error}
    (parsedContent :
      client.fromJson content =
        .ok (some (parsed platform (.error response))))
    (now : DateTime) :
    visitContent client content now =
      (ClientErrorCode.fromCCode response.code.value.toNat).map
        fun mCode =>
          .visitError
            { mDateTime := now
              mSender := ascii "@server"
              mCode := mCode
              mMessage := response.message } := by
  have visits :
      visit client content = .error .IllegalStateException := by
    unfold visit
    rw [parsedContent]
    rfl
  have byHand :
      visitErrorManually client content now =
        (parseInt (Response.Error.decimal response.code.value)).bind
          fun code =>
            (ClientErrorCode.fromCCode code).map fun mCode =>
              .visitError
                { mDateTime := now
                  mSender := ascii "@server"
                  mCode := mCode
                  mMessage := response.message } := by
    unfold visitErrorManually
    rw [parsedContent]
    rfl
  unfold visitContent
  rw [visits]
  dsimp only
  rw [byHand, parseInt_decimal]
  rfl

/-- A document is announced exactly if its response is readable. -/
theorem visitContent_document
    {content : Bytes}
    {response : Response}
    (textual : Textual platform response)
    (document : IsDocument platform escape content response)
    (now : DateTime) :
    (∃ callback,
        visitContent client content now = .ok callback ∧
          Announces client platform response callback) ↔
      Readable client platform response := by
  have parsedContent := fromJson_document reader textual document
  cases response with
  | login response =>
      rw [visitContent_dated parsedContent rfl now]
      simp only [Readable]
      cases time :
          client.parseDateTime
            (platform.printTime response.dateTime) with
      | none =>
          simp
      | some dateTime =>
          simp [Announces, time]
  | message response =>
      rw [visitContent_dated parsedContent rfl now]
      simp only [Readable]
      cases time :
          client.parseDateTime
            (platform.printTime response.dateTime) with
      | none =>
          simp
      | some dateTime =>
          simp [Announces, time]
  | error response =>
      rw [visitContent_error parsedContent now]
      constructor
      · rintro ⟨callback, visits, _⟩
        cases found :
            ClientErrorCode.fromCCode response.code.value.toNat with
        | error exception =>
            rw [found] at visits
            contradiction
        | ok ec =>
            exact ⟨ec, ClientErrorCode.fromCCode_eq_ok.mp found⟩
      · rintro ⟨ec, known⟩
        rw [ClientErrorCode.fromCCode_eq_ok.mpr known]
        exact ⟨_, rfl, known, rfl⟩

omit reader in
/-- Whatever is visited was parsed. -/
theorem parsed_of_visitContent
    {content : Bytes}
    {now : DateTime}
    {callback : ResponseCallback DateTime}
    (visits : visitContent client content now = .ok callback) :
    ∃ members, client.fromJson content = .ok (some members) := by
  cases parse : client.fromJson content with
  | error exception =>
      have visitFails : visit client content = .error exception := by
        unfold visit
        rw [parse]
        rfl
      have byHandFails :
          visitErrorManually client content now =
            .error exception := by
        unfold visitErrorManually
        rw [parse]
        rfl
      unfold visitContent at visits
      rw [visitFails, byHandFails] at visits
      split at visits <;> contradiction
  | ok result =>
      cases result with
      | some members =>
          exact ⟨members, rfl⟩
      | none =>
          have visitFails :
              visit client content =
                .error .NullPointerException := by
            unfold visit
            rw [parse]
            rfl
          unfold visitContent at visits
          rw [visitFails] at visits
          contradiction

/-! ### Dividing the stream -/

omit reader in
/-- A response's text lies between the braces of its object. -/
theorem value_braces
    (response : Response) :
    (∃ rest,
      value escape (response.toJson platform) = openBrace :: rest) ∧
    ∃ front,
      value escape (response.toJson platform) =
        front ++ [closeBrace] := by
  rw [response.toJson_eq_tagged platform]
  exact ⟨⟨_, by rw [Instance.tagged, value]⟩,
    value_closes escape (List.cons_ne_nil _ _)⟩

/--
A read that is parsed, of a stream that begins with white space and a response,
ends within the white space behind that response.
-/
theorem document_of_parsed
    {leftover ending rest content more : Bytes}
    {response : Response}
    {members : JsonMembers}
    (textual : Textual platform response)
    (spacesLeft : Spaces leftover)
    (spacesEnding : Spaces ending)
    (noSpace : ∀ byte ∈ rest.head?, isSpace byte = false)
    (delivered :
      leftover ++
          (value escape (response.toJson platform) ++
            (ending ++ rest)) =
        content ++ more)
    (accepted : client.fromJson content = .ok (some members)) :
    IsDocument platform escape content response ∧
      ∃ leftover', Spaces leftover' ∧ leftover' ++ rest = more := by
  let whole := leftover ++ value escape (response.toJson platform)
  have readWhole :
      client.fromJson whole = .ok (some (parsed platform response)) :=
    fromJson_document reader textual
      ⟨leftover, [], spacesLeft, by simp [Spaces], by simp [whole]⟩
  have same : whole ++ (ending ++ rest) = content ++ more := by
    rw [← delivered, List.append_assoc]
  rcases List.append_eq_append_iff.mp same with
      ⟨between, rfl, behind⟩ | ⟨between, shape, rfl⟩
  · have spacesBetween := reader.one_document readWhole accepted
    refine ⟨⟨leftover, between, spacesLeft, spacesBetween,
      by simp [whole]⟩, ?_⟩
    rcases List.append_eq_append_iff.mp behind with
        ⟨first, rfl, restShape⟩ | ⟨leftover', rfl, moreShape⟩
    · cases first with
      | nil =>
          exact ⟨[], by simp [Spaces], restShape⟩
      | cons byte others =>
          have space := spacesBetween byte (by simp)
          rw [noSpace byte (by simp [restShape])] at space
          contradiction
    · exact ⟨leftover',
        fun byte inLeft =>
          spacesEnding byte (List.mem_append_right between inLeft),
        moreShape.symm⟩
  · have spacesBetween : Spaces between :=
      reader.one_document accepted (shape ▸ readWhole)
    have nothing : between = [] := by
      obtain ⟨front, closes⟩ :=
        (@value_braces platform escape response).2
      apply spacesBetween.eq_nil_of_closes
      rw [← shape]
      show leftover ++ value escape (response.toJson platform) =
        (leftover ++ front) ++ [closeBrace]
      rw [closes, List.append_assoc]
    rw [nothing, List.append_nil] at shape
    refine ⟨⟨leftover, [], spacesLeft, by simp [Spaces], ?_⟩, ?_⟩
    · rw [← shape]
      simp [whole]
    · rw [nothing]
      exact ⟨ending, spacesEnding, rfl⟩

/--
A read of a stream that begins with white space and a response announces that
response exactly if it is a document of it that the client can take apart.
-/
theorem visitContent_iff
    {leftover ending rest content more : Bytes}
    {response : Response}
    (textual : Textual platform response)
    (spacesLeft : Spaces leftover)
    (spacesEnding : Spaces ending)
    (noSpace : ∀ byte ∈ rest.head?, isSpace byte = false)
    (delivered :
      leftover ++
          (value escape (response.toJson platform) ++
            (ending ++ rest)) =
        content ++ more)
    (now : DateTime) :
    (∃ callback,
        visitContent client content now = .ok callback ∧
          Announces client platform response callback) ↔
      IsDocument platform escape content response ∧
        Readable client platform response := by
  constructor
  · rintro ⟨callback, visits, announces⟩
    obtain ⟨members, accepted⟩ := parsed_of_visitContent visits
    have document :=
      (document_of_parsed reader textual spacesLeft spacesEnding noSpace
        delivered accepted).1
    exact ⟨document,
      (visitContent_document reader textual document now).mp
        ⟨callback, visits, announces⟩⟩
  · rintro ⟨document, readable⟩
    exact (visitContent_document reader textual document now).mpr
      readable

end Response

/-! ### The reads of one connection -/

/-- The reads that returned something. -/
def contents
    {DateTime : Type}
    (outcomes : List (ReadOutcome DateTime)) :
    List Bytes :=
  outcomes.filterMap fun outcome =>
    match outcome with
    | .data content _ =>
        some content
    | _ =>
        none

/-- What a read of an intact connection does: it fills a part of the buffer, or times out. -/
def ReadOutcome.Intact
    {DateTime : Type} :
    ReadOutcome DateTime → Prop
  | data content _ =>
      0 < content.length ∧ content.length ≤ 2048
  | timeout =>
      True
  | _ =>
      False

instance
    {DateTime : Type}
    (outcome : ReadOutcome DateTime) :
    Decidable outcome.Intact :=
  match outcome with
  | .data content _ =>
      inferInstanceAs
        (Decidable (0 < content.length ∧ content.length ≤ 2048))
  | .timeout =>
      isTrue trivial
  | .endOfStream =>
      isFalse not_false
  | .failed =>
      isFalse not_false
  | .killed =>
      isFalse not_false

section Run

variable
  {DateTime : Type}
  {client : ClientPlatform DateTime}

/--
A run announces a response and others without an error if its first text
announces the response and the rest of the run the others.
-/
theorem run_data_announces
    {Announced : Response → ResponseCallback DateTime → Prop}
    {content : Bytes}
    (nonempty : 0 < content.length)
    {now : DateTime}
    {outcomes : List (ReadOutcome DateTime)}
    {response : Response}
    {responses : List Response} :
    (∃ callbacks,
        run client (.data content now :: outcomes) = (callbacks, none) ∧
          List.Forall₂ Announced (response :: responses) callbacks) ↔
      (∃ callback,
        visitContent client content now = .ok callback ∧
          Announced response callback) ∧
      ∃ others,
        run client outcomes = (others, none) ∧
          List.Forall₂ Announced responses others := by
  rw [run, if_pos nonempty]
  cases visitContent client content now with
  | error exception =>
      simp
  | ok callback =>
      cases run client outcomes with
      | mk others exception =>
          constructor
          · rintro ⟨callbacks, ran, announced⟩
            obtain ⟨rfl, rfl⟩ := Prod.mk.inj ran
            obtain ⟨first, rest⟩ := List.forall₂_cons.mp announced
            exact ⟨⟨callback, rfl, first⟩, others, rfl, rest⟩
          · rintro ⟨⟨other, same, first⟩, rest, ran, announced⟩
            obtain ⟨rfl, rfl⟩ := Prod.mk.inj ran
            cases same
            exact ⟨callback :: others, rfl, .cons first announced⟩

/-- A run that visits something announces something. -/
theorem not_run_data_nil
    {Announced : Response → ResponseCallback DateTime → Prop}
    {content : Bytes}
    (nonempty : 0 < content.length)
    {now : DateTime}
    {outcomes : List (ReadOutcome DateTime)} :
    ¬ ∃ callbacks,
      run client (.data content now :: outcomes) = (callbacks, none) ∧
        List.Forall₂ Announced [] callbacks := by
  rintro ⟨callbacks, ran, announced⟩
  rw [run, if_pos nonempty] at ran
  cases announced
  cases visited : visitContent client content now <;>
    simp [visited] at ran

/-- No white space stands in front of the texts still to be read. -/
theorem texts_head
    {platform : Platform}
    {escape : Bytes → Bytes}
    {ending : Bytes}
    (responses : List Response) :
    ∀ byte ∈
        (responses.map fun response =>
          value escape (response.toJson platform) ++
            ending).flatten.head?,
      isSpace byte = false := by
  cases responses with
  | nil =>
      simp
  | cons response responses =>
      obtain ⟨rest, shape⟩ :=
        (@value_braces platform escape response).1
      intro byte isHead
      simp only [List.map_cons, List.flatten_cons, shape,
        List.cons_append, List.head?_cons, Option.mem_some_iff]
        at isHead
      rw [← isHead]
      decide

/-- The law of the whole run, with white space left over from the read before. -/
theorem run_announces_iff
    {platform : Platform}
    {escape : Bytes → Bytes}
    (reader : GsonReader client.fromJson escape)
    {ending : Bytes}
    (spacesEnding : Spaces ending)
    {outcomes : List (ReadOutcome DateTime)}
    (intact : ∀ outcome ∈ outcomes, outcome.Intact)
    {responses : List Response}
    (textual : ∀ response ∈ responses, Textual platform response)
    {leftover : Bytes}
    (spacesLeft : Spaces leftover)
    (delivered :
      leftover ++
          (responses.map fun response =>
            value escape (response.toJson platform) ++ ending).flatten =
        (contents outcomes).flatten) :
    (∃ callbacks,
        run client outcomes = (callbacks, none) ∧
          List.Forall₂ (Announces client platform)
            responses callbacks) ↔
      List.Forall₂ (IsDocument platform escape)
          (contents outcomes) responses ∧
        ∀ response ∈ responses, Readable client platform response := by
  induction outcomes generalizing responses leftover with
  | nil =>
      cases responses with
      | nil =>
          simp [run, contents]
      | cons response responses =>
          constructor
          · rintro ⟨callbacks, ran, announced⟩
            rw [run, Prod.mk.injEq] at ran
            rw [← ran.1] at announced
            cases announced
          · rintro ⟨documents, _⟩
            cases documents
  | cons outcome outcomes inductionHypothesis =>
      obtain ⟨intactFirst, intactRest⟩ :=
        List.forall_mem_cons.mp intact
      cases outcome with
      | timeout =>
          exact inductionHypothesis intactRest textual spacesLeft
            delivered
      | data content now =>
          have shape :
              contents (.data content now :: outcomes) =
                content :: contents outcomes :=
            rfl
          rw [shape] at delivered ⊢
          cases responses with
          | nil =>
              refine iff_of_false (not_run_data_nil intactFirst.1) ?_
              rintro ⟨documents, _⟩
              cases documents
          | cons response responses =>
              obtain ⟨textualFirst, textualRest⟩ :=
                List.forall_mem_cons.mp textual
              rw [List.map_cons, List.flatten_cons, List.append_assoc,
                List.flatten_cons] at delivered
              -- The next read starts in the white space behind a document.
              have rest
                  (document :
                    IsDocument platform escape content response) :=
                let ⟨_, leftover', spacesNext, deliveredRest⟩ :=
                  document_of_parsed reader textualFirst spacesLeft
                    spacesEnding (texts_head responses) delivered
                    (fromJson_document reader textualFirst document)
                inductionHypothesis intactRest textualRest spacesNext
                  deliveredRest
              rw [run_data_announces intactFirst.1,
                visitContent_iff reader textualFirst spacesLeft
                  spacesEnding (texts_head responses) delivered now,
                List.forall₂_cons, List.forall_mem_cons]
              constructor
              · rintro ⟨⟨document, readable⟩, announced⟩
                obtain ⟨documents, readableRest⟩ :=
                  (rest document).mp announced
                exact ⟨⟨document, documents⟩, readable, readableRest⟩
              · rintro ⟨⟨document, documents⟩, readable, readableRest⟩
                exact ⟨⟨document, readable⟩,
                  (rest document).mpr ⟨documents, readableRest⟩⟩
      | endOfStream | failed | killed =>
          exact intactFirst.elim

end Run

/-- The texts that the server writes, with what stands behind each. -/
theorem written_texts
    {platform : Platform}
    {escape : Bytes → Bytes}
    {ending : Bytes}
    (writes : platform.WritesCompact escape ending)
    {responses : List Response}
    {texts : List Bytes}
    (written :
      List.Forall₂
        (fun response text =>
          MessageJson.«to» platform (response.toJson platform) false =
            .ok text)
        responses texts) :
    texts =
      responses.map fun response =>
        value escape (response.toJson platform) ++ ending := by
  induction written with
  | nil =>
      rfl
  | @cons response text responses texts isText _ inductionHypothesis =>
      rw [MessageJson.to_response writes] at isText
      rw [List.map_cons, ← inductionHypothesis]
      exact congrArg (· :: texts) (Except.ok.inj isText).symm

/--
The reader thread announces the responses that the server wrote, each once, in
order and with its own contents, and does not end, exactly if every read
returns one whole text and every response is readable.
-/
theorem responses_announced_iff
    {DateTime : Type}
    {client : ClientPlatform DateTime}
    {platform : Platform}
    {escape : Bytes → Bytes}
    {ending : Bytes}
    (reader : GsonReader client.fromJson escape)
    (spacesEnding : Spaces ending)
    (writes : platform.WritesCompact escape ending)
    {responses : List Response}
    {texts : List Bytes}
    (textual : ∀ response ∈ responses, Textual platform response)
    (written :
      List.Forall₂
        (fun response text =>
          MessageJson.«to» platform (response.toJson platform) false =
            .ok text)
        responses texts)
    {outcomes : List (ReadOutcome DateTime)}
    (intact : ∀ outcome ∈ outcomes, outcome.Intact)
    (delivered : texts.flatten = (contents outcomes).flatten) :
    (∃ callbacks,
        run client outcomes = (callbacks, none) ∧
          List.Forall₂ (Announces client platform)
            responses callbacks) ↔
      List.Forall₂ (IsDocument platform escape)
          (contents outcomes) responses ∧
        ∀ response ∈ responses, Readable client platform response := by
  have none : Spaces [] := by
    simp [Spaces]
  rw [written_texts writes written] at delivered
  exact run_announces_iff reader spacesEnding intact textual none
    delivered

/-- A login response and a message with every kind of special byte. -/
def broadcasts : List Response :=
  [.login (Response.Login.ofUsername 5 (ascii "ann")),
    .message (Response.Message.ofContent 6 (ascii "ann")
      (ascii "\x7b\"hé\"\x7d\n"))]

/-- The server's texts of the responses. -/
def broadcastTexts : List Bytes :=
  broadcasts.map fun response =>
    value escape (response.toJson Platform.reference)

theorem broadcasts_textual :
    ∀ response ∈ broadcasts, Textual Platform.reference response := by
  intro response inBroadcasts field inFields
  simp only [broadcasts, List.mem_cons, List.not_mem_nil,
    or_false] at inBroadcasts
  rcases inBroadcasts with rfl | rfl
  · simp only [Response.fields, List.mem_cons, List.not_mem_nil,
      or_false] at inFields
    rcases inFields with rfl | rfl | rfl <;> exact ⟨_, rfl⟩
  · simp only [Response.fields, List.mem_cons, List.not_mem_nil,
      or_false] at inFields
    rcases inFields with rfl | rfl | rfl | rfl <;> exact ⟨_, rfl⟩

theorem broadcasts_readable :
    ∀ response ∈ broadcasts,
      Readable ClientPlatform.reference Platform.reference
        response := by
  intro response inBroadcasts
  simp only [broadcasts, List.mem_cons, List.not_mem_nil,
    or_false] at inBroadcasts
  rcases inBroadcasts with rfl | rfl <;> rfl

theorem responses_announced_iff_broadcasts :
    ∃ callbacks,
      run ClientPlatform.reference
          (.timeout ::
            broadcastTexts.map fun text => .data text (ascii "now")) =
          (callbacks, none) ∧
        List.Forall₂
          (Announces ClientPlatform.reference Platform.reference)
          broadcasts callbacks := by
  have none : Spaces [] := by
    simp [Spaces]
  refine (@responses_announced_iff Bytes ClientPlatform.reference
    Platform.reference escape [] gsonReader none
    Platform.reference_writesCompact
    broadcasts broadcastTexts broadcasts_textual
    (.cons rfl (.cons rfl .nil)) _ (by decide +kernel) rfl).mpr
    ⟨?_, broadcasts_readable⟩
  exact .cons ⟨[], [], none, none, (List.append_nil _).symm⟩
    (.cons ⟨[], [], none, none, (List.append_nil _).symm⟩ .nil)

/-- Two responses that one read returns together end the reader thread. -/
theorem merged_responses_throw :
    ¬ ∀ (responses : List Response)
        (outcomes : List (ReadOutcome Bytes)),
        (∀ response ∈ responses, Textual Platform.reference response) →
        (∀ response ∈ responses,
          Readable ClientPlatform.reference Platform.reference
            response) →
        (∀ outcome ∈ outcomes, outcome.Intact) →
        (responses.map fun response =>
            value escape
              (response.toJson Platform.reference)).flatten =
          (contents outcomes).flatten →
        ∃ callbacks,
          run ClientPlatform.reference outcomes = (callbacks, none) ∧
            List.Forall₂
              (Announces ClientPlatform.reference Platform.reference)
              responses callbacks := by
  intro framed
  obtain ⟨callbacks, ran, _⟩ :=
    framed broadcasts
      [.data broadcastTexts.flatten (ascii "now")]
      broadcasts_textual broadcasts_readable
      (by decide +kernel) (by simp [contents, broadcastTexts])
  have throws :
      (run ClientPlatform.reference
          [.data broadcastTexts.flatten (ascii "now")]).2 =
        some .JsonSyntaxException := by
    decide +kernel
  rw [ran] at throws
  exact absurd throws (by simp)

end ChatRelay.Client
