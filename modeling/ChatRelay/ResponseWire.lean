import Mathlib.Data.List.Forall2
import ChatRelay.ResponseFraming

namespace ChatRelay.Client

/-!
# Responses that are cut

What the server writes is a stream, and a read returns whatever has arrived.
The reader thread takes it for one response.  A read that is not one whole
response ends the thread, so what is shown is a prefix of what was written.
-/

open JsonText

/-- A read that returns something has filled a part of the buffer. -/
def ReadOutcome.Filled
    {DateTime : Type} :
    ReadOutcome DateTime → Prop
  | data content _ =>
      0 < content.length ∧ content.length ≤ 2048
  | _ =>
      True

instance
    {DateTime : Type}
    (outcome : ReadOutcome DateTime) :
    Decidable outcome.Filled :=
  match outcome with
  | .data content _ =>
      inferInstanceAs
        (Decidable (0 < content.length ∧ content.length ≤ 2048))
  | .timeout | .endOfStream | .failed | .killed =>
      isTrue trivial

section Document

variable
  {DateTime : Type}
  {client : ClientPlatform DateTime}
  {platform : Platform}
  {escape : Bytes → Bytes}
  (reader : GsonReader client.fromJson escape)

include reader

/-- What is visited as a response can be taken apart. -/
theorem readable_of_visits
    {content : Bytes}
    {response : Response}
    (textual : Textual platform response)
    (document : IsDocument platform escape content response)
    {now : DateTime}
    {callback : ResponseCallback DateTime}
    (visits : visitContent client content now = .ok callback) :
    Readable client platform response := by
  have parsedContent := fromJson_document reader textual document
  cases response with
  | login response =>
      rw [visitContent_dated parsedContent rfl] at visits
      cases parses :
          client.parseDateTime (platform.printTime response.dateTime) with
      | none =>
          simp [parses] at visits
      | some dateTime =>
          simp [Readable, parses]
  | message response =>
      rw [visitContent_dated parsedContent rfl] at visits
      cases parses :
          client.parseDateTime (platform.printTime response.dateTime) with
      | none =>
          simp [parses] at visits
      | some dateTime =>
          simp [Readable, parses]
  | error response =>
      rw [visitContent_error parsedContent] at visits
      cases found :
          ClientErrorCode.fromCCode response.code.value.toNat with
      | error exception =>
          rw [found] at visits
          contradiction
      | ok ec =>
          exact ⟨ec, ClientErrorCode.fromCCode_eq_ok.mp found⟩

/-- A document that is visited is visited as its response. -/
theorem announces_of_visits
    {content : Bytes}
    {response : Response}
    (textual : Textual platform response)
    (document : IsDocument platform escape content response)
    {now : DateTime}
    {callback : ResponseCallback DateTime}
    (visits : visitContent client content now = .ok callback) :
    Announces client platform response callback := by
  obtain ⟨other, same, announces⟩ :=
    (visitContent_document reader textual document now).mpr
      (readable_of_visits reader textual document visits)
  rw [visits] at same
  cases same
  exact announces

/-- White space alone is no response. -/
theorem not_parsed_spaces
    {content : Bytes}
    (spaces : Spaces content)
    {members : JsonMembers} :
    client.fromJson content ≠ .ok (some members) := by
  intro parses
  have behind :=
    @GsonReader.read_tagged _ _ reader (ascii "type") (ascii "any")
      (ascii "object") [(ascii "sender", ascii "ann")] content []
      ⟨_, rfl⟩ ⟨_, rfl⟩ ⟨_, rfl⟩
      (by simp [Unicode]) (by decide) (by simp) (by simp) spaces
      (by simp [Spaces])
  have space := reader.one_document parses behind openBrace
    (by simp [taggedTree, value])
  contradiction

/--
A read that is visited has found the first of the texts that are on their way,
and nothing of the others; white space may be left in front of them.
-/
theorem first_of_visits
    {ending leftover content rest : Bytes}
    {responses : List Response}
    (spacesEnding : Spaces ending)
    (textual : ∀ response ∈ responses, Textual platform response)
    (spacesLeft : Spaces leftover)
    (delivered :
      leftover ++
          (responses.map fun response =>
            value escape (response.toJson platform) ++ ending).flatten =
        content ++ rest)
    {now : DateTime}
    {callback : ResponseCallback DateTime}
    (visits : visitContent client content now = .ok callback) :
    ∃ response others leftover',
      responses = response :: others ∧
        IsDocument platform escape content response ∧
          Announces client platform response callback ∧
            Spaces leftover' ∧
              leftover' ++
                  (others.map fun response =>
                    value escape (response.toJson platform) ++
                      ending).flatten =
                rest := by
  obtain ⟨members, accepted⟩ := parsed_of_visitContent visits
  cases responses with
  | nil =>
      have front : leftover = content ++ rest :=
        (List.append_nil leftover).symm.trans delivered
      have spaces : Spaces content :=
        fun byte inContent =>
          spacesLeft byte (front ▸ List.mem_append_left rest inContent)
      exact (not_parsed_spaces reader spaces accepted).elim
  | cons response others =>
      have textualFirst := textual response List.mem_cons_self
      rw [List.map_cons, List.flatten_cons,
        List.append_assoc] at delivered
      obtain ⟨document, leftover', spacesNext, deliveredRest⟩ :=
        document_of_parsed reader textualFirst spacesLeft spacesEnding
          (texts_head others) delivered accepted
      exact ⟨response, others, leftover', rfl, document,
        announces_of_visits reader textualFirst document visits,
        spacesNext, deliveredRest⟩

end Document

section Run

variable
  {DateTime : Type}
  {client : ClientPlatform DateTime}
  {platform : Platform}
  {escape : Bytes → Bytes}

/-- What is shown of a stream that some white space is left in front of. -/
theorem run_shows
    (reader : GsonReader client.fromJson escape)
    {ending : Bytes}
    (spacesEnding : Spaces ending)
    {outcomes : List (ReadOutcome DateTime)}
    (filled : ∀ outcome ∈ outcomes, outcome.Filled)
    {responses : List Response}
    (textual : ∀ response ∈ responses, Textual platform response)
    {leftover more : Bytes}
    (spacesLeft : Spaces leftover)
    (delivered :
      leftover ++
          (responses.map fun response =>
            value escape (response.toJson platform) ++ ending).flatten =
        (contents outcomes).flatten ++ more) :
    ∃ shown,
      shown <+: responses ∧
        List.Forall₂ (Announces client platform) shown
            (run client outcomes).1 ∧
          ((run client outcomes).2 = none →
            .killed ∉ outcomes →
            List.Forall₂ (IsDocument platform escape)
              (contents outcomes) shown) := by
  induction outcomes generalizing responses leftover with
  | nil =>
      exact ⟨[], List.nil_prefix, .nil, fun _ _ => .nil⟩
  | cons outcome outcomes inductionHypothesis =>
      obtain ⟨filledFirst, filledRest⟩ :=
        List.forall_mem_cons.mp filled
      cases outcome with
      | timeout =>
          obtain ⟨shown, isPrefix, announced, documents⟩ :=
            inductionHypothesis filledRest textual spacesLeft delivered
          refine ⟨shown, isPrefix, announced, ?_⟩
          intro alive notKilled
          exact documents alive
            (fun killed => notKilled (List.mem_cons_of_mem _ killed))
      | data content now =>
          have shape :
              contents (.data content now :: outcomes) =
                content :: contents outcomes :=
            rfl
          rw [shape, List.flatten_cons, List.append_assoc] at delivered
          rw [shape, run, if_pos filledFirst.1]
          cases visits : visitContent client content now with
          | error exception =>
              exact ⟨[], List.nil_prefix, .nil, by simp⟩
          | ok callback =>
              obtain ⟨response, others, leftover', rfl, document, announces,
                  spacesNext, deliveredRest⟩ :=
                first_of_visits reader spacesEnding textual spacesLeft
                  delivered visits
              obtain ⟨shown, isPrefix, announced, documents⟩ :=
                inductionHypothesis filledRest
                  (List.forall_mem_cons.mp textual).2 spacesNext
                  deliveredRest
              refine ⟨response :: shown,
                List.cons_prefix_cons.mpr ⟨rfl, isPrefix⟩,
                .cons announces announced, ?_⟩
              intro alive notKilled
              exact .cons document
                (documents alive
                  (fun killed =>
                    notKilled (List.mem_cons_of_mem _ killed)))
      | endOfStream | failed =>
          exact ⟨[], List.nil_prefix, .nil, by simp [run]⟩
      | killed =>
          refine ⟨[], List.nil_prefix, .nil, ?_⟩
          exact fun _ notKilled => (notKilled List.mem_cons_self).elim

end Run

/--
However the network cuts what the server writes, the reader thread shows a
prefix of the responses, each once, in order and with its own contents, and
nothing else.  As long as the thread lives, every read has been exactly one of
these responses.
-/
theorem shows_in_order
    {DateTime : Type}
    {client : ClientPlatform DateTime}
    {platform : Platform}
    {escape : Bytes → Bytes}
    {ending : Bytes}
    (reader : GsonReader client.fromJson escape)
    (spacesEnding : Spaces ending)
    (writes : platform.WritesCompact escape ending)
    {responses : List Response}
    {texts : List Bytes}
    (textual : ∀ response ∈ responses, Textual platform response)
    (written :
      List.Forall₂
        (fun response text =>
          MessageJson.«to» platform (response.toJson platform) false =
            .ok text)
        responses texts)
    {outcomes : List (ReadOutcome DateTime)}
    (filled : ∀ outcome ∈ outcomes, outcome.Filled)
    (delivered : (contents outcomes).flatten <+: texts.flatten) :
    ∃ shown,
      shown <+: responses ∧
        List.Forall₂ (Announces client platform) shown
            (run client outcomes).1 ∧
          ((run client outcomes).2 = none →
            .killed ∉ outcomes →
            List.Forall₂ (IsDocument platform escape)
              (contents outcomes) shown) := by
  obtain ⟨more, isMore⟩ := delivered
  have none : Spaces [] := by
    simp [Spaces]
  rw [written_texts writes written] at isMore
  exact run_shows reader spacesEnding filled textual none isMore.symm

/-- The first response arrives whole, and the second one in two pieces. -/
def cutReads : List (ReadOutcome Bytes) :=
  let first := (broadcastTexts.headD []).length
  let second := broadcastTexts.flatten.drop first
  [.data (broadcastTexts.flatten.take first) (ascii "now"),
    .data (second.take 40) (ascii "now"),
    .data (second.drop 40) (ascii "now")]

/-- The piece of the second response ends the thread behind the first one. -/
theorem shows_in_order_cutReads :
    (run ClientPlatform.reference cutReads).2 =
        some .JsonSyntaxException ∧
      ∃ shown,
        shown <+: broadcasts ∧
          shown.length = 1 ∧
            List.Forall₂
              (Announces ClientPlatform.reference Platform.reference)
              shown (run ClientPlatform.reference cutReads).1 := by
  have ended :
      (run ClientPlatform.reference cutReads).2 =
          some .JsonSyntaxException ∧
        (run ClientPlatform.reference cutReads).1.length = 1 := by
    decide +kernel
  have whole :
      (contents cutReads).flatten = broadcastTexts.flatten := by
    simp only [contents, cutReads, List.filterMap_cons,
      List.filterMap_nil, List.flatten_cons, List.flatten_nil,
      List.append_nil, List.take_append_drop]
  obtain ⟨shown, isPrefix, announced, _⟩ :=
    @shows_in_order Bytes ClientPlatform.reference Platform.reference
      escape [] gsonReader (by simp [Spaces])
      Platform.reference_writesCompact
      broadcasts broadcastTexts broadcasts_textual
      (.cons rfl (.cons rfl .nil)) cutReads (by decide +kernel)
      ⟨[], (List.append_nil _).trans whole⟩
  exact ⟨ended.1, shown, isPrefix,
    announced.length_eq.trans ended.2, announced⟩

end ChatRelay.Client
