import ChatRelay.RequestFraming

namespace ChatRelay.RequestFraming

/-!
# Requests on their way

What is on its way to the server is a stream of request texts, from which
nothing was read or the front of the first one.  A read that the server takes
for a request has found the first text whole; after it the stream is whole
again, or the read was too long and has cut the next text.
-/

open JsonText

section Wire

variable
  {DateTime : Type}
  (DATETIME_FORMAT : DateTime → String)
  (escape : Bytes → Bytes)

/-- The bytes are the texts of requests; the first of them may be cut. -/
inductive OnWire : List (ClientRequest DateTime) → Bytes → Prop where
  | whole (requests : List (ClientRequest DateTime)) :
      OnWire requests (stream DATETIME_FORMAT escape requests)
  | cut
      {request : ClientRequest DateTime}
      {front back : Bytes}
      (requests : List (ClientRequest DateTime))
      (split :
        request.getBytes DATETIME_FORMAT escape = front ++ back)
      (inside : front ≠ [])
      (remaining : back ≠ []) :
      OnWire (request :: requests)
        (back ++ stream DATETIME_FORMAT escape requests)

variable {DATETIME_FORMAT escape}

/-- More texts are written. -/
theorem OnWire.send
    {requests : List (ClientRequest DateTime)}
    {bytes : Bytes}
    (onWire : OnWire DATETIME_FORMAT escape requests bytes)
    (sent : List (ClientRequest DateTime)) :
    OnWire DATETIME_FORMAT escape (requests ++ sent)
      (bytes ++ stream DATETIME_FORMAT escape sent) := by
  have appended :
      ∀ requests,
        stream DATETIME_FORMAT escape requests ++
            stream DATETIME_FORMAT escape sent =
          stream DATETIME_FORMAT escape (requests ++ sent) := by
    intro requests
    simp [stream]
  cases onWire with
  | whole requests =>
      rw [appended]
      exact .whole _
  | cut requests split inside remaining =>
      rw [List.append_assoc, appended]
      exact .cut _ split inside remaining

/-- Where no bytes are, no request is on its way. -/
theorem OnWire.nothing
    {requests : List (ClientRequest DateTime)}
    (onWire : OnWire DATETIME_FORMAT escape requests []) :
    requests = [] := by
  generalize isEmpty : ([] : Bytes) = bytes at onWire
  cases onWire with
  | whole =>
      cases requests with
      | nil =>
          rfl
      | cons request others =>
          obtain ⟨front, closes⟩ :=
            getBytes_closes DATETIME_FORMAT request escape
          rw [stream_cons, closes] at isEmpty
          simp at isEmpty
  | cut requests split inside remaining =>
      have noBytes := List.append_eq_nil_iff.mp isEmpty.symm
      exact (remaining noBytes.1).elim

/-- A stream whose front has no closing brace is cut in its first text. -/
theorem onWire_of_cut
    {requests : List (ClientRequest DateTime)}
    {extra rest : Bytes}
    (delivered :
      stream DATETIME_FORMAT escape requests = extra ++ rest)
    (noBrace : closeBrace ∉ extra) :
    OnWire DATETIME_FORMAT escape requests rest := by
  by_cases noExtra : extra = []
  · rw [noExtra, List.nil_append] at delivered
    rw [← delivered]
    exact .whole requests
  · cases requests with
    | nil =>
        have noBytes : extra ++ rest = [] :=
          delivered.symm
        exact (noExtra (List.append_eq_nil_iff.mp noBytes).1).elim
    | cons second others =>
        obtain ⟨front, closes⟩ :=
          getBytes_closes DATETIME_FORMAT second escape
        have hasBrace :
            closeBrace ∈ second.getBytes DATETIME_FORMAT escape := by
          rw [closes]
          simp
        rw [stream_cons] at delivered
        rcases List.append_eq_append_iff.mp delivered with
            ⟨between, rfl, _⟩ | ⟨back, split, rfl⟩
        · exact (noBrace (List.mem_append_left between hasBrace)).elim
        · refine .cut others split noExtra ?_
          rintro rfl
          rw [split, List.append_nil] at hasBrace
          exact noBrace hasBrace

variable {platform : Platform}
variable (reader : DocumentReader platform.read_json escape)

include reader

/-- Nothing is no request. -/
theorem not_wellFormed_nil :
    ¬ WellFormedRequest platform [] := by
  rintro ⟨tree, accepted, typeNode, found, _⟩
  obtain ⟨before, inside, key, after, rest, _, _, _, _, starts⟩ :=
    reader.starts_member accepted (by decide) found
  have nothing : MessageJson.clean [] = [] :=
    List.prefix_nil.mp (MessageJson.clean_prefix [])
  rw [nothing] at starts
  simp at starts

/-- A whole text, and the front of another one, are visited as the first one. -/
theorem visitBytes_append
    (request : ClientRequest DateTime)
    {extra : Bytes}
    (noNewline : newline ∉ extra)
    (noBrace : closeBrace ∉ extra) :
    visitBytes platform
        (request.getBytes DATETIME_FORMAT escape ++ extra) =
      .ok (request.visited DATETIME_FORMAT platform) := by
  obtain ⟨front, shape⟩ := getBytes_closes DATETIME_FORMAT request escape
  have absent :
      newline ∉ front ++ closeBrace :: extra := by
    have inText :=
      @newline_not_mem_getBytes _ _ _ DATETIME_FORMAT reader request
    rw [List.append_cons, ← shape, List.mem_append, not_or]
    exact ⟨inText, noNewline⟩
  have cleaned :
      MessageJson.clean
          (request.getBytes DATETIME_FORMAT escape ++ extra) =
        request.getBytes DATETIME_FORMAT escape := by
    rw [shape, List.append_assoc, List.singleton_append]
    exact MessageJson.clean_brace absent noBrace
  unfold visitBytes MessageJson.«from»
  rw [cleaned, read_getBytes reader]
  exact visit_toJson DATETIME_FORMAT request platform

/-- What a read that is a request has found, and what it leaves. -/
theorem OnWire.read
    {requests : List (ClientRequest DateTime)}
    {chunk rest : Bytes}
    (onWire : OnWire DATETIME_FORMAT escape requests (chunk ++ rest))
    (nonempty : chunk ≠ [])
    (wellFormed : WellFormedRequest platform chunk) :
    ∃ request others,
      requests = request :: others ∧
        visitBytes platform chunk =
            .ok (request.visited DATETIME_FORMAT platform) ∧
          OnWire DATETIME_FORMAT escape others rest := by
  obtain ⟨tree, accepted, typeNode, found, _⟩ := wellFormed
  have hasChildren : tree.children ≠ [] := by
    intro noChildren
    simp [PropertyTree.find, noChildren, PropertyTree.lookup] at found
  generalize isWire : chunk ++ rest = bytes at onWire
  cases onWire with
  | whole =>
      cases requests with
      | nil =>
          have noBytes : chunk ++ rest = [] :=
            isWire
          exact (nonempty (List.append_eq_nil_iff.mp noBytes).1).elim
      | cons request others =>
          obtain ⟨extra, rfl, delivered, noBrace⟩ :=
            clean_eq_getBytes reader isWire.symm accepted hasChildren
          have noNewline : newline ∉ extra := by
            have inStream :=
              @newline_not_mem_stream _ _ _ DATETIME_FORMAT reader others
            rw [delivered] at inStream
            exact fun inExtra =>
              inStream (List.mem_append_left rest inExtra)
          exact ⟨request, others, rfl,
            visitBytes_append reader request noNewline noBrace,
            onWire_of_cut delivered noBrace⟩
  | cut requests split inside remaining =>
      have noType :=
        not_read_inside reader split inside remaining isWire.symm accepted
      rw [noType] at found
      contradiction

end Wire

end ChatRelay.RequestFraming
