import Mathlib.Data.List.Basic
import ChatRelay.MessageVisitor
import ChatRelay.NetworkSocket
import ChatRelay.TaggedText

namespace ChatRelay.RequestFraming

/-!
# Requests on the wire

The client writes each request as one compact JSON text.  The server reads up
to 1024 bytes at a time and takes what one read returns for one request.  The
two agree exactly when the reads fall on the boundaries of the requests.

A text that a read begins in the middle of is never taken for a request: the
only object that can start there is the request's inner one, and it has no
type tag.
-/

open JsonText

/-- The request classes of the client, with their fields. -/
inductive ClientRequest (DateTime : Type) where
  | LoginRequest
      (mDateTime : DateTime)
      (mSender : String) :
      ClientRequest DateTime
  | MessageRequest
      (mDateTime : DateTime)
      (mSender : String)
      (mContent : String) :
      ClientRequest DateTime
  deriving Repr, DecidableEq

namespace ClientRequest

variable {DateTime : Type}

/-- `clazz.getName()` -/
def getName : ClientRequest DateTime → String
  | LoginRequest _ _ =>
      "ca.uwo.eng.se3313.lab4.network.request.LoginRequest"
  | MessageRequest _ _ _ =>
      "ca.uwo.eng.se3313.lab4.network.request.MessageRequest"

variable (DATETIME_FORMAT : DateTime → String)

/--
`mGson.toJsonTree`: the serialized fields, those of a class before those of its
base class.
-/
def toJsonTree : ClientRequest DateTime → List (String × String)
  | LoginRequest mDateTime mSender =>
      [("datetime", DATETIME_FORMAT mDateTime),
        ("sender", mSender)]
  | MessageRequest mDateTime mSender mContent =>
      [("content", mContent),
        ("datetime", DATETIME_FORMAT mDateTime),
        ("sender", mSender)]

/-- The fields as bytes. -/
def fields
    (request : ClientRequest DateTime) :
    List (Bytes × Bytes) :=
  (request.toJsonTree DATETIME_FORMAT).map fun field =>
    (ascii field.1, ascii field.2)

/-- `AbstractNetworkInstance::toJson` -/
def toJson (request : ClientRequest DateTime) : Tree :=
  taggedTree (ascii "type") (ascii request.getName) (ascii "object")
    (request.fields DATETIME_FORMAT)

/-- `toJson().toString().getBytes()`: what `send` writes. -/
def getBytes
    (escape : Bytes → Bytes)
    (request : ClientRequest DateTime) :
    Bytes :=
  value escape (request.toJson DATETIME_FORMAT)

/-- The visit that processes the request on the server. -/
def visited
    (platform : Platform) :
    ClientRequest DateTime → RequestCallback
  | LoginRequest mDateTime mSender =>
      .visitLogin
        { dateTime :=
            (platform.parseTime
              (ascii (DATETIME_FORMAT mDateTime))).getD 0
          sender := ascii mSender }
  | MessageRequest mDateTime mSender mContent =>
      .visitMessage
        { dateTime :=
            (platform.parseTime
              (ascii (DATETIME_FORMAT mDateTime))).getD 0
          sender := ascii mSender
          content := ascii mContent }

end ClientRequest

/--
The visits that successive `onSocket` calls on one connection make: each call
reads once, and parses and visits what it read unless the peer has closed.
-/
def onSocketVisits
    (platform : Platform)
    (socket : Socket) :
    List RecvOutcome → Except Fault (List RequestCallback)
  | [] =>
      .ok []
  | outcome :: rest =>
      match socket.read outcome with
      | .error fault =>
          .error fault
      | .ok (socket, bytes_read, contents) =>
          if bytes_read = 0 then
            .ok []
          else
            match visitBytes platform contents with
            | .error fault =>
                .error fault
            | .ok callback =>
                match onSocketVisits platform socket rest with
                | .error fault =>
                    .error fault
                | .ok callbacks =>
                    .ok (callback :: callbacks)

/-! ### One text -/

section Text

variable
  {DateTime : Type}
  (DATETIME_FORMAT : DateTime → String)
  (request : ClientRequest DateTime)

theorem fields_ne_nil :
    request.fields DATETIME_FORMAT ≠ [] := by
  cases request <;> exact List.cons_ne_nil _ _

/-- The names of the fields need no escapes. -/
theorem fields_plainKey :
    ∀ field ∈ request.fields DATETIME_FORMAT, PlainKey field.1 := by
  have content : PlainKey (ascii "content") :=
    plainKey_of_all (by decide) (by decide)
  have datetime : PlainKey (ascii "datetime") :=
    plainKey_of_all (by decide) (by decide)
  have sender : PlainKey (ascii "sender") :=
    plainKey_of_all (by decide) (by decide)
  cases request with
  | LoginRequest mDateTime mSender =>
      simp [ClientRequest.fields, ClientRequest.toJsonTree, datetime,
        sender]
  | MessageRequest mDateTime mSender mContent =>
      simp [ClientRequest.fields, ClientRequest.toJsonTree, content,
        datetime, sender]

theorem type_plainKey : PlainKey (ascii "type") :=
  plainKey_of_all (by decide) (by decide)

theorem object_plainKey : PlainKey (ascii "object") :=
  plainKey_of_all (by decide) (by decide)

/-- The request and its object can be written and read. -/
theorem toJson_legible :
    Legible (.node [] (leaves (request.fields DATETIME_FORMAT))) ∧
      Legible (request.toJson DATETIME_FORMAT) :=
  taggedTree_legible "type" request.getName "object"
    (by cases request <;> exact List.cons_ne_nil _ _)

/-- The object of a request has no type tag. -/
theorem object_find_type :
    PropertyTree.find
        (.node [] (leaves (request.fields DATETIME_FORMAT)) : Tree)
        Instance.PROPERTY_TYPE =
      none := by
  cases request <;> rfl

/-- The server's visitor is called with the request's own fields. -/
theorem visit_toJson
    (platform : Platform) :
    RequestVisitor.naming.visit platform
        (request.toJson DATETIME_FORMAT) =
      .ok (request.visited DATETIME_FORMAT platform) := by
  cases request with
  | LoginRequest mDateTime mSender =>
      have params :=
        @Instance.extractCommonParams_of_find platform
          (.node [] (leaves
            ((ClientRequest.LoginRequest mDateTime mSender).fields
              DATETIME_FORMAT)))
          (.leaf (ascii (DATETIME_FORMAT mDateTime)))
          (.leaf (ascii mSender)) rfl rfl
      apply RequestVisitor.visit_login rfl
      rw [Request.Login.fromJson, params]
      rfl
  | MessageRequest mDateTime mSender mContent =>
      have params :=
        @Instance.extractCommonParams_of_find platform
          (.node [] (leaves
            ((ClientRequest.MessageRequest mDateTime mSender
              mContent).fields DATETIME_FORMAT)))
          (.leaf (ascii (DATETIME_FORMAT mDateTime)))
          (.leaf (ascii mSender)) rfl rfl
      apply RequestVisitor.visit_message rfl
      rw [Request.Message.fromJson, params]
      rfl

/-- The text ends with a closing brace. -/
theorem getBytes_closes
    (escape : Bytes → Bytes) :
    ∃ front,
      request.getBytes DATETIME_FORMAT escape =
        front ++ [closeBrace] :=
  value_closes escape (List.cons_ne_nil _ _)

end Text

/-! ### Reading a stream of texts -/

section Stream

variable
  {DateTime : Type}
  {platform : Platform}
  {escape : Bytes → Bytes}
  {DATETIME_FORMAT : DateTime → String}
  (reader : DocumentReader platform.read_json escape)

/-- The bytes of a sequence of requests sent one behind the other. -/
def stream
    (DATETIME_FORMAT : DateTime → String)
    (escape : Bytes → Bytes)
    (requests : List (ClientRequest DateTime)) :
    Bytes :=
  (requests.map (ClientRequest.getBytes DATETIME_FORMAT escape)).flatten

theorem stream_cons
    (request : ClientRequest DateTime)
    (requests : List (ClientRequest DateTime)) :
    stream DATETIME_FORMAT escape (request :: requests) =
      request.getBytes DATETIME_FORMAT escape ++
        stream DATETIME_FORMAT escape requests := by
  simp [stream]

/-- Nothing but an opening brace can follow a text. -/
theorem stream_head
    (requests : List (ClientRequest DateTime)) :
    ∀ byte ∈ (stream DATETIME_FORMAT escape requests).head?,
      isSpace byte = false := by
  cases requests with
  | nil =>
      simp [stream]
  | cons request others =>
      intro byte isHead
      rw [stream_cons] at isHead
      have shape : openBrace = byte := by
        simpa [ClientRequest.getBytes, ClientRequest.toJson, taggedTree,
          value] using isHead
      rw [← shape]
      decide

include reader

/-- What follows the last string of a text is not the colon behind a key. -/
theorem not_completesKey_stream
    (requests : List (ClientRequest DateTime)) :
    ¬ CompletesKey
      (closeBrace :: closeBrace ::
        stream DATETIME_FORMAT escape requests) := by
  cases requests with
  | nil =>
      exact not_completesKey_of_no_quote (by simp [stream]; decide)
  | cons request others =>
      have shape :
          closeBrace :: closeBrace ::
              stream DATETIME_FORMAT escape (request :: others) =
            [closeBrace, closeBrace, openBrace] ++ quote :: 0x74 ::
              (ascii "ype" ++ quote :: colon ::
                (quoted escape (ascii request.getName) ++
                  (tailMembers escape
                      [(ascii "object", .node []
                        (leaves (request.fields DATETIME_FORMAT)))] ++
                    closeBrace ::
                      stream DATETIME_FORMAT escape others))) := by
        rw [stream_cons]
        simp [ClientRequest.getBytes, ClientRequest.toJson, taggedTree,
          value, member, quoted, PropertyTree.leaf,
          reader.escape_letters type_plainKey.2]
        rfl
      rw [shape]
      exact not_completesKey_quote
        (List.all_iff_forall_prop.mp (by decide)) (by decide) (by decide)

/-- The texts hold no line feed. -/
theorem newline_not_mem_getBytes
    (request : ClientRequest DateTime) :
    newline ∉ request.getBytes DATETIME_FORMAT escape :=
  newline_not_mem_tagged reader.escape_body reader.escape_letters
    (ascii request.getName) type_plainKey object_plainKey
    (fields_plainKey DATETIME_FORMAT request)
    (fields_ne_nil DATETIME_FORMAT request)

theorem read_getBytes
    (request : ClientRequest DateTime) :
    platform.read_json (request.getBytes DATETIME_FORMAT escape) =
      some (request.toJson DATETIME_FORMAT) :=
  reader.read_value (toJson_legible DATETIME_FORMAT request).2
    (List.cons_ne_nil _ _)

/-- A text that is read alone is visited as the request that it is of. -/
theorem visitBytes_getBytes
    (request : ClientRequest DateTime) :
    visitBytes platform (request.getBytes DATETIME_FORMAT escape) =
      .ok (request.visited DATETIME_FORMAT platform) := by
  have cleaned :
      MessageJson.clean (request.getBytes DATETIME_FORMAT escape) =
        request.getBytes DATETIME_FORMAT escape := by
    have noNewline := @newline_not_mem_getBytes _ _ _ DATETIME_FORMAT
      reader request
    obtain ⟨front, shape⟩ :=
      getBytes_closes DATETIME_FORMAT request escape
    rw [shape] at noNewline ⊢
    exact MessageJson.clean_brace noNewline List.not_mem_nil
  unfold visitBytes MessageJson.«from»
  rw [cleaned, read_getBytes reader]
  exact visit_toJson DATETIME_FORMAT request platform

theorem newline_not_mem_stream
    (requests : List (ClientRequest DateTime)) :
    newline ∉ stream DATETIME_FORMAT escape requests := by
  induction requests with
  | nil =>
      simp [stream]
  | cons request others inductionHypothesis =>
      rw [stream_cons, List.mem_append, not_or]
      exact ⟨newline_not_mem_getBytes reader request,
        inductionHypothesis⟩

/--
A read at the start of a stream that visits a request has cleaned its bytes to
the first text, and there is no closing brace among the bytes it cut off.
-/
theorem clean_eq_getBytes
    {request : ClientRequest DateTime}
    {requests : List (ClientRequest DateTime)}
    {chunk rest : Bytes}
    {tree : Tree}
    (delivered :
      stream DATETIME_FORMAT escape (request :: requests) =
        chunk ++ rest)
    (accepted :
      platform.read_json (MessageJson.clean chunk) = some tree)
    (hasChildren : tree.children ≠ []) :
    ∃ extra,
      chunk = request.getBytes DATETIME_FORMAT escape ++ extra ∧
        stream DATETIME_FORMAT escape requests = extra ++ rest ∧
        closeBrace ∉ extra := by
  obtain ⟨extra, chunkShape⟩ := MessageJson.clean_prefix chunk
  have same :
      request.getBytes DATETIME_FORMAT escape ++
          stream DATETIME_FORMAT escape requests =
        MessageJson.clean chunk ++ (extra ++ rest) := by
    rw [← stream_cons, delivered, ← List.append_assoc, chunkShape]
  have cleaned :
      MessageJson.clean chunk =
        request.getBytes DATETIME_FORMAT escape :=
    reader.unique (read_getBytes reader request) accepted
      (List.cons_ne_nil _ _) hasChildren same
      (getBytes_closes DATETIME_FORMAT request escape)
      (stream_head requests)
  rw [cleaned] at chunkShape same
  refine ⟨extra, chunkShape.symm, List.append_cancel_left same, ?_⟩
  intro inExtra
  obtain ⟨front, behind, rfl, absent⟩ :=
    MessageJson.exists_last inExtra
  have noNewline : newline ∉ chunk := by
    have inStream := @newline_not_mem_stream _ _ _ DATETIME_FORMAT
      reader (request :: requests)
    rw [delivered] at inStream
    exact fun inChunk => inStream (List.mem_append_left rest inChunk)
  have shape :
      chunk =
        (request.getBytes DATETIME_FORMAT escape ++ front) ++
          closeBrace :: behind := by
    rw [← chunkShape, List.append_assoc]
  have longer :
      MessageJson.clean chunk =
        (request.getBytes DATETIME_FORMAT escape ++ front) ++
          [closeBrace] := by
    rw [shape] at noNewline ⊢
    exact MessageJson.clean_brace noNewline absent
  rw [cleaned, List.append_assoc] at longer
  exact absurd (List.self_eq_append_right.mp longer) (by simp)

/-- Nothing is read inside a text as a tree with a type tag. -/
theorem not_read_inside
    {request : ClientRequest DateTime}
    {requests : List (ClientRequest DateTime)}
    {front back chunk rest : Bytes}
    {tree : Tree}
    (split :
      request.getBytes DATETIME_FORMAT escape = front ++ back)
    (inside : front ≠ [])
    (remaining : back ≠ [])
    (delivered :
      back ++ stream DATETIME_FORMAT escape requests = chunk ++ rest)
    (accepted :
      platform.read_json (MessageJson.clean chunk) = some tree) :
    tree.find Instance.PROPERTY_TYPE = none := by
  by_contra hasType
  obtain ⟨typeNode, found⟩ := Option.ne_none_iff_exists'.mp hasType
  have hasChildren : tree.children ≠ [] := by
    intro noChildren
    simp [PropertyTree.find, noChildren, PropertyTree.lookup] at found
  obtain ⟨extra, chunkShape⟩ := MessageJson.clean_prefix chunk
  have same :
      back ++ stream DATETIME_FORMAT escape requests =
        MessageJson.clean chunk ++ (extra ++ rest) := by
    rw [delivered, ← List.append_assoc, chunkShape]
  have starts :
      StartsMember
        (back ++ stream DATETIME_FORMAT escape requests) := by
    rw [same]
    exact (reader.starts_member accepted (by decide) found).append _
  have innerObject :
      back =
        value escape
            (.node [] (leaves (request.fields DATETIME_FORMAT))) ++
          [closeBrace] :=
    object_of_startsMember reader.escape_body reader.escape_letters
      type_plainKey object_plainKey
      (fields_plainKey DATETIME_FORMAT request)
      (fields_ne_nil DATETIME_FORMAT request)
      (not_completesKey_stream reader requests)
      split inside remaining starts
  have nonempty :
      leaves (request.fields DATETIME_FORMAT) ≠ [] := by
    simpa [leaves] using fields_ne_nil DATETIME_FORMAT request
  have readObject :=
    reader.read_value (toJson_legible DATETIME_FORMAT request).1
      nonempty
  rw [innerObject, List.append_assoc] at same
  have cleaned :=
    reader.unique readObject accepted nonempty hasChildren same
      (value_closes escape nonempty)
      (by
        intro byte isHead
        have shape : closeBrace = byte := by
          simpa using isHead
        rw [← shape]
        decide)
  rw [cleaned, readObject] at accepted
  injection accepted with sameTree
  rw [← sameTree, object_find_type] at found
  contradiction

end Stream

/-! ### The reads of one connection -/

section Reads

variable
  {DateTime : Type}
  {platform : Platform}
  {escape : Bytes → Bytes}
  {DATETIME_FORMAT : DateTime → String}
  {socket : Socket}

/-- A read of an open socket that returns bytes is parsed and visited. -/
theorem onSocketVisits_data
    (isOpen : socket.isOpen = true)
    {chunk : Bytes}
    (nonempty : 0 < chunk.length)
    {outcomes : List RecvOutcome}
    {visits : List RequestCallback} :
    onSocketVisits platform socket (.data chunk :: outcomes) =
        .ok visits ↔
      ∃ callback callbacks,
        visitBytes platform chunk = .ok callback ∧
          onSocketVisits platform socket outcomes = .ok callbacks ∧
          visits = callback :: callbacks := by
  have readReturns :
      socket.read (.data chunk) =
        .ok (socket, (chunk.length : Int), chunk) := by
    simp [Socket.read, isOpen]
  have notClosed : ¬ (chunk.length : Int) = 0 := by
    omega
  simp only [onSocketVisits, readReturns, if_neg notClosed]
  cases visitBytes platform chunk with
  | error fault =>
      simp
  | ok callback =>
      cases onSocketVisits platform socket outcomes with
      | error fault =>
          simp
      | ok callbacks =>
          simp [eq_comm]

/-- A visit of a request comes from a tree with a type tag. -/
theorem read_of_visited
    {chunk : Bytes}
    {request : ClientRequest DateTime}
    (visits :
      visitBytes platform chunk =
        .ok (request.visited DATETIME_FORMAT platform)) :
    ∃ tree typeNode,
      platform.read_json (MessageJson.clean chunk) = some tree ∧
        tree.find Instance.PROPERTY_TYPE = some typeNode := by
  have wellFormed : WellFormedRequest platform chunk := by
    apply (wellFormedRequest_iff platform chunk).mp
    cases request with
    | LoginRequest mDateTime mSender =>
        exact Or.inl ⟨_, visits⟩
    | MessageRequest mDateTime mSender mContent =>
        exact Or.inr ⟨_, visits⟩
  obtain ⟨tree, accepted, typeNode, found, _⟩ := wellFormed
  exact ⟨tree, typeNode, accepted, found⟩

end Reads

/-- A read that is visited as the next request returns all of its text and no more. -/
theorem chunk_eq_getBytes
    {DateTime : Type}
    {platform : Platform}
    {escape : Bytes → Bytes}
    {DATETIME_FORMAT : DateTime → String}
    (reader : DocumentReader platform.read_json escape)
    {socket : Socket}
    (isOpen : socket.isOpen = true)
    {request : ClientRequest DateTime}
    {requests : List (ClientRequest DateTime)}
    {chunk : Bytes}
    {chunks : List Bytes}
    (sizes : ∀ chunk ∈ chunks, (RecvOutcome.data chunk).WellFormed)
    (delivered :
      stream DATETIME_FORMAT escape (request :: requests) =
        chunk ++ chunks.flatten)
    (visits :
      visitBytes platform chunk =
        .ok (request.visited DATETIME_FORMAT platform))
    (visitsRest :
      onSocketVisits platform socket (chunks.map .data) =
        .ok (requests.map
          (ClientRequest.visited DATETIME_FORMAT platform))) :
    chunk = request.getBytes DATETIME_FORMAT escape := by
  obtain ⟨tree, typeNode, accepted, found⟩ := read_of_visited visits
  have hasChildren : tree.children ≠ [] := by
    intro noChildren
    simp [PropertyTree.find, noChildren, PropertyTree.lookup] at found
  obtain ⟨extra, rfl, deliveredRest, noBrace⟩ :=
    clean_eq_getBytes reader delivered accepted hasChildren
  by_cases noExtra : extra = []
  · rw [noExtra, List.append_nil]
  · -- The next text has been begun, so the next read starts inside it.
    exfalso
    cases requests with
    | nil =>
        have noBytes : extra ++ chunks.flatten = [] :=
          deliveredRest.symm
        exact noExtra (List.append_eq_nil_iff.mp noBytes).1
    | cons second others =>
        obtain ⟨front, closes⟩ :=
          getBytes_closes DATETIME_FORMAT second escape
        have hasBrace :
            closeBrace ∈ second.getBytes DATETIME_FORMAT escape := by
          rw [closes]
          simp
        rw [stream_cons] at deliveredRest
        rcases List.append_eq_append_iff.mp deliveredRest with
            ⟨between, rfl, _⟩ | ⟨back, split, remaining⟩
        · exact noBrace (List.mem_append_left between hasBrace)
        · have nonempty : back ≠ [] := by
            rintro rfl
            rw [split, List.append_nil] at hasBrace
            exact noBrace hasBrace
          cases chunks with
          | nil =>
              have noBytes :
                  back ++ stream DATETIME_FORMAT escape others = [] :=
                remaining.symm
              exact nonempty (List.append_eq_nil_iff.mp noBytes).1
          | cons next chunks =>
              have nextSize :=
                sizes next (List.mem_cons_self ..)
              obtain ⟨callback, callbacks, visitsNext, _, same⟩ :=
                (onSocketVisits_data isOpen nextSize.1).mp visitsRest
              rw [← (List.cons.inj same).1] at visitsNext
              obtain ⟨inner, innerType, acceptedNext, foundNext⟩ :=
                read_of_visited visitsNext
              have noType :=
                not_read_inside reader split noExtra nonempty
                  remaining.symm acceptedNext
              rw [noType] at foundNext
              contradiction

/--
The server visits the requests of a connection, each once, in order and with
its own fields, exactly if every read returns one whole request.
-/
theorem requests_visited_iff
    {DateTime : Type}
    {platform : Platform}
    {escape : Bytes → Bytes}
    {DATETIME_FORMAT : DateTime → String}
    (reader : DocumentReader platform.read_json escape)
    {socket : Socket}
    (isOpen : socket.isOpen = true)
    {requests : List (ClientRequest DateTime)}
    {chunks : List Bytes}
    (sizes : ∀ chunk ∈ chunks, (RecvOutcome.data chunk).WellFormed)
    (delivered :
      stream DATETIME_FORMAT escape requests = chunks.flatten) :
    onSocketVisits platform socket (chunks.map .data) =
        .ok (requests.map
          (ClientRequest.visited DATETIME_FORMAT platform)) ↔
      chunks =
        requests.map
          (ClientRequest.getBytes DATETIME_FORMAT escape) := by
  induction requests generalizing chunks with
  | nil =>
      cases chunks with
      | nil =>
          simp [onSocketVisits]
      | cons chunk chunks =>
          have nonempty : 0 < chunk.length :=
            (sizes chunk (List.mem_cons_self ..)).1
          have noBytes := congrArg List.length delivered
          simp [stream] at noBytes
          omega
  | cons request requests inductionHypothesis =>
      cases chunks with
      | nil =>
          simp [onSocketVisits]
      | cons chunk chunks =>
          obtain ⟨size, sizesRest⟩ := List.forall_mem_cons.mp sizes
          rw [List.map_cons, List.map_cons, List.map_cons,
            onSocketVisits_data isOpen size.1]
          constructor
          · rintro ⟨callback, callbacks, visits, visitsRest, same⟩
            obtain ⟨rfl, rfl⟩ := List.cons.inj same
            have whole :=
              chunk_eq_getBytes reader isOpen sizesRest delivered visits
                visitsRest
            rw [stream_cons, List.flatten_cons, whole] at delivered
            rw [whole,
              (inductionHypothesis sizesRest
                (List.append_cancel_left delivered)).mp visitsRest]
          · intro aligned
            obtain ⟨rfl, alignedRest⟩ := List.cons.inj aligned
            have deliveredRest :
                stream DATETIME_FORMAT escape requests =
                  chunks.flatten := by
              rw [stream_cons, List.flatten_cons] at delivered
              exact List.append_cancel_left delivered
            exact ⟨_, _, visitBytes_getBytes reader request,
              (inductionHypothesis sizesRest deliveredRest).mpr
                alignedRest, rfl⟩

/-- A login and a message of one user. -/
def conversation : List (ClientRequest String) :=
  [.LoginRequest "10:00" "ann",
    .MessageRequest "10:01" "ann" "\x7b\"hi\"\x7d"]

theorem requests_visited_iff_conversation :
    onSocketVisits Platform.reference ⟨4, true⟩
        ((conversation.map
          (ClientRequest.getBytes id JsonText.escape)).map .data) =
      .ok (conversation.map
        (ClientRequest.visited id Platform.reference)) :=
  (requests_visited_iff JsonText.reader rfl
    (by decide +kernel) (by rfl)).mpr rfl

/-- Two requests that one read returns together end the server. -/
theorem merged_requests_throw :
    ¬ ∀ (requests : List (ClientRequest String)) (chunks : List Bytes),
        (∀ chunk ∈ chunks, (RecvOutcome.data chunk).WellFormed) →
        stream id JsonText.escape requests = chunks.flatten →
        onSocketVisits Platform.reference ⟨4, true⟩
            (chunks.map .data) =
          .ok (requests.map
            (ClientRequest.visited id Platform.reference)) := by
  intro framed
  have merged :=
    framed conversation [stream id JsonText.escape conversation]
      (by decide +kernel) (by simp)
  have throws :
      onSocketVisits Platform.reference ⟨4, true⟩
          [.data (stream id JsonText.escape conversation)] =
        .error .jsonParserError := by
    decide +kernel
  rw [List.map_singleton, throws] at merged
  contradiction

end ChatRelay.RequestFraming
