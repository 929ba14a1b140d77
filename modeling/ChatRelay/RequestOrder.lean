import ChatRelay.NumberedSystem
import ChatRelay.RequestWire
import ChatRelay.RowProvenance

namespace ChatRelay.ChatSystem

/-!
# Every request arrives once, in order

The network may cut the bytes of a connection anywhere.  A read that is not a
request ends the server, and one that is has found the first text that is still
on its way.  So what the server has read over a connection is, request by
request, the front of what the client has sent over it.
-/

open LabelledRun
open Client (ActivityLabel)
open JsonText (DocumentReader)
open RequestFraming (ClientRequest OnWire)

variable {ClientId DateTime : Type}

/-- The request that a step puts on the network, with its connection. -/
def sentBy? :
    SystemLabel ClientId DateTime →
      Option (Link ClientId × ClientRequest DateTime)
  | .client client (.background (.send connection message) (.ok ())) =>
      some ((client, connection), message)
  | _ =>
      none

/-- A request of a client arrives as a request of the server. -/
def Carries
    (platform : Platform)
    (DATETIME_FORMAT : DateTime → String)
    (sent : ClientRequest DateTime) :
    Request → Prop
  | .login login =>
      sent.visited DATETIME_FORMAT platform = .visitLogin login
  | .message msg =>
      sent.visited DATETIME_FORMAT platform = .visitMessage msg

section Order

variable [DecidableEq ClientId]

/-- The requests that a client has sent over a connection. -/
def sentOver
    (labels : List (SystemLabel ClientId DateTime))
    (link : Link ClientId) :
    List (ClientRequest DateTime) :=
  ((labels.filterMap sentBy?).filter fun sent => sent.1 = link).map
    Prod.snd

/-- The requests that the server has read from a connection. -/
def readOver
    (platform : Platform)
    (system : ChatSystem ClientId DateTime)
    (link : Link ClientId) :
    List Request :=
  ((requestsRead platform system.log).filter fun asked =>
    system.peer? asked.1 = some link).map Prod.snd

/-- One more step of the run. -/
theorem sentOver_concat
    (labels : List (SystemLabel ClientId DateTime))
    (label : SystemLabel ClientId DateTime)
    (link : Link ClientId) :
    sentOver (labels ++ [label]) link =
      sentOver labels link ++ sentOver [label] link := by
  simp only [sentOver, List.filterMap_append, List.filter_append,
    List.map_append]

/-! ### The reads of the server -/

section Reads

variable {platform : Platform}

/-- A read of nothing is not allowed. -/
theorem read_nonempty
    {state next : Server}
    {socket : SocketRef}
    {bytes : Bytes}
    {now : TimePoint}
    (taken :
      state.step? platform (.listen (.read socket (.data bytes) now)) =
        some next) :
    bytes ≠ [] := by
  unfold Server.step? at taken
  split at taken
  · have wellFormed := (guarded_eq_some.mp taken).1.2
    exact List.ne_nil_of_length_pos wellFormed.1
  · contradiction

/-- A read that throws nothing is one of a request. -/
theorem read_wellFormed
    {state next : Server}
    {socket : SocketRef}
    {bytes : Bytes}
    {now : TimePoint}
    (taken :
      state.step? platform (.listen (.read socket (.data bytes) now)) =
        some next)
    (alive : next.fault = none) :
    WellFormedRequest platform bytes := by
  obtain ⟨_, step⟩ := Server.step?_sound taken
  cases step with
  | listen step =>
      cases step with
      | readLogin _ _ _ decoded =>
          exact (wellFormedRequest_iff platform bytes).mp
            (Or.inl ⟨_, decoded⟩)
      | readMessage _ _ _ decoded =>
          exact (wellFormedRequest_iff platform bytes).mp
            (Or.inr ⟨_, decoded⟩)
      | readClosed | readMessageThrows | readThrows =>
          simp [Server.throw] at alive

/-- A request is one of a read of something well formed. -/
theorem requestOf_eq_some
    {label : ServerLabel}
    {asked : SocketRef × Request}
    (isRequest : requestOf platform label = some asked) :
    ∃ socket outcome now,
      label = .listen (.read socket outcome now) ∧
        WellFormedRequest platform outcome.contents := by
  cases label with
  | send action =>
      contradiction
  | listen action =>
      cases action with
      | read socket outcome now =>
          refine ⟨socket, outcome, now, rfl, ?_⟩
          apply (wellFormedRequest_iff platform _).mp
          simp only [requestOf] at isRequest
          split at isRequest
          · contradiction
          · split at isRequest
            · rename_i login decoded
              exact Or.inl ⟨login, decoded⟩
            · rename_i msg decoded
              exact Or.inr ⟨msg, decoded⟩
            · contradiction
      | _ =>
          contradiction

/-- What is visited as a request of a client is read as that request. -/
theorem requestOf_read
    {DATETIME_FORMAT : DateTime → String}
    {sent : ClientRequest DateTime}
    {bytes : Bytes}
    (visits :
      visitBytes platform bytes =
        .ok (sent.visited DATETIME_FORMAT platform))
    (socket : SocketRef)
    (now : TimePoint) :
    ∃ request,
      requestOf platform (.listen (.read socket (.data bytes) now)) =
          some (socket, request) ∧
        Carries platform DATETIME_FORMAT sent request := by
  have contents : (RecvOutcome.data bytes).contents = bytes :=
    rfl
  cases sent with
  | LoginRequest mDateTime mSender =>
      refine ⟨.login _, ?_, rfl⟩
      simp only [requestOf, reduceCtorEq, if_false, contents, visits]
      rfl
  | MessageRequest mDateTime mSender mContent =>
      refine ⟨.message _, ?_, rfl⟩
      simp only [requestOf, reduceCtorEq, if_false, contents, visits]
      rfl

end Reads

/-! ### What a step does -/

section Network

variable {system : ChatSystem ClientId DateTime}

/-- A socket that has a peer keeps it. -/
theorem afterServer_peer?
    (label : ServerLabel)
    {socket : SocketRef}
    {link : Link ClientId}
    (isPeer : system.peer? socket = some link) :
    (system.afterServer label).peer? socket = some link := by
  by_cases accepts :
      ∃ connectionFD, label = .listen (.accept socket connectionFD)
  · obtain ⟨connectionFD, rfl⟩ := accepts
    have before : system.accepted.lookup socket = some link :=
      isPeer
    simp only [afterServer, peer?, List.lookup_append, before,
      Option.some_or]
  · rw [(system.afterServer_network label).2 socket
      (fun connectionFD isAccept => accepts ⟨connectionFD, isAccept⟩)]
    exact isPeer

/-- Only a read takes bytes from the network. -/
theorem afterServer_requests
    (label : ServerLabel) :
    (∃ socket bytes now link,
      label = .listen (.read socket (.data bytes) now) ∧
        system.peer? socket = some link ∧
          (system.afterServer label).requests =
            Function.update system.requests link
              ((system.requests link).drop bytes.length)) ∨
      (system.afterServer label).requests = system.requests := by
  have written :
      ∀ socket text outcome delivery,
        (system.written socket text outcome delivery).requests =
          system.requests := by
    intro socket text outcome delivery
    unfold ChatSystem.written ChatSystem.deliver
    split
    · split <;> rfl
    · rfl
  unfold afterServer
  split
  · exact Or.inr rfl
  · rename_i socket bytes now
    split
    · exact Or.inr rfl
    · rename_i link isPeer
      exact Or.inl ⟨socket, bytes, now, link, rfl, isPeer, rfl⟩
  · exact Or.inr (written ..)
  · split
    · exact Or.inr rfl
    · exact Or.inr (written ..)
  · exact Or.inr rfl

/-- A step of a client writes the texts of the requests that it sends. -/
theorem afterClient_requests
    (DATETIME_FORMAT : DateTime → String)
    (escape : Bytes → Bytes)
    (client : ClientId)
    (label : ActivityLabel DateTime Announcement Response.Message)
    (link : Link ClientId) :
    (system.afterClient DATETIME_FORMAT escape client label).requests
        link =
      system.requests link ++
        RequestFraming.stream DATETIME_FORMAT escape
          (sentOver [.client client label] link) := by
  have quiet :
      sentBy? (.client client label) = none →
      RequestFraming.stream DATETIME_FORMAT escape
          (sentOver [.client client label] link) =
        [] := by
    intro sendsNothing
    simp [sentOver, sendsNothing, RequestFraming.stream]
  unfold afterClient received
  split
  · rw [quiet rfl, List.append_nil]
  · rename_i connection message
    by_cases isTarget : link = (client, connection)
    · subst isTarget
      simp [sentOver, sentBy?, RequestFraming.stream]
    · simp [sentOver, sentBy?, RequestFraming.stream, isTarget,
        Ne.symm isTarget]
  · rw [quiet rfl, List.append_nil]
  · rw [quiet rfl, List.append_nil]
  · rename_i notSent _ _
    rw [quiet, List.append_nil]
    unfold sentBy?
    split
    · rename_i isSent
      cases isSent
      exact (notSent _ _ rfl).elim
    · rfl

/-- What has been read has been read from peers. -/
theorem peers_concat
    {platform : Platform}
    {label : ServerLabel}
    (peers :
      ∀ asked ∈ requestsRead platform system.log,
        ∃ link, system.peer? asked.1 = some link)
    (latest :
      ∀ asked ∈ requestOf platform label,
        ∃ link, system.peer? asked.1 = some link) :
    ∀ asked ∈ requestsRead platform (system.log ++ [label]),
      ∃ link, (system.afterServer label).peer? asked.1 = some link := by
  intro asked isRead
  rw [requestsRead_concat, List.mem_append,
    Option.mem_toList] at isRead
  obtain ⟨link, isPeer⟩ := isRead.elim (peers asked) (latest asked)
  exact ⟨link, afterServer_peer? label isPeer⟩

/-- The reads of a connection stay those of the same sockets. -/
theorem readOver_concat
    {platform : Platform}
    (peers :
      ∀ asked ∈ requestsRead platform system.log,
        ∃ link, system.peer? asked.1 = some link)
    (label : ServerLabel)
    (after : Server)
    (link : Link ClientId) :
    readOver platform
        { system.afterServer label with
          server := after
          log := system.log ++ [label] }
        link =
      readOver platform system link ++
        ((requestOf platform label).toList.filter fun asked =>
          (system.afterServer label).peer? asked.1 = some link).map
            Prod.snd := by
  have kept :
      ∀ asked ∈ requestsRead platform system.log,
        ((system.afterServer label).peer? asked.1 = some link ↔
          system.peer? asked.1 = some link) := by
    intro asked isRead
    obtain ⟨peer, isPeer⟩ := peers asked isRead
    rw [isPeer, afterServer_peer? label isPeer]
  unfold readOver
  simp only [peer?]
  rw [requestsRead_concat, List.filter_append, List.map_append]
  congr 2
  exact List.filter_congr fun asked isRead =>
    decide_eq_decide.mpr (kept asked isRead)

end Network

/-! ### The order of a run -/

section Steps

variable [DecidableEq DateTime]
variable
  {platform : Platform}
  {DATETIME_FORMAT : DateTime → String}
  {escape : Bytes → Bytes}
  {descriptors : List Nat}
  {labels : List (SystemLabel ClientId DateTime)}
  {system next : ChatSystem ClientId DateTime}

/--
What has been sent over a connection has been read, in order, or is still on
its way.  A server that has ended may have cut what was on its way.
-/
structure ReadInOrder
    (platform : Platform)
    (DATETIME_FORMAT : DateTime → String)
    (escape : Bytes → Bytes)
    (labels : List (SystemLabel ClientId DateTime))
    (system : ChatSystem ClientId DateTime) : Prop where
  peers :
    ∀ asked ∈ requestsRead platform system.log,
      ∃ link, system.peer? asked.1 = some link
  carried :
    ∀ link,
      ∃ delivered pending,
        sentOver labels link = delivered ++ pending ∧
          List.Forall₂ (Carries platform DATETIME_FORMAT) delivered
              (readOver platform system link) ∧
            (system.server.fault = none →
              OnWire DATETIME_FORMAT escape pending
                (system.requests link))

/-- A step of the server is one that the network permits. -/
theorem permitted_of_step
    {label : ServerLabel}
    (taken :
      step? platform DATETIME_FORMAT escape system (.server label) =
        some next) :
    system.PermitsServer label := by
  unfold step? at taken
  dsimp only at taken
  split at taken
  · assumption
  · contradiction

omit [DecidableEq ClientId] [DecidableEq DateTime] in
/-- The request of a step was the first one on its way from a peer. -/
theorem read_of_step
    (reader : DocumentReader platform.read_json escape)
    {pending : Link ClientId → List (ClientRequest DateTime)}
    (onWire :
      ∀ link,
        OnWire DATETIME_FORMAT escape (pending link)
          (system.requests link))
    {socket : SocketRef}
    {outcome : RecvOutcome}
    {now : TimePoint}
    {after : Server}
    (permitted :
      system.PermitsServer (.listen (.read socket outcome now)))
    (stepped :
      system.server.step? platform
          (.listen (.read socket outcome now)) =
        some after)
    (wellFormed : WellFormedRequest platform outcome.contents) :
    ∃ bytes link sent others request,
      outcome = .data bytes ∧
        system.peer? socket = some link ∧
          pending link = sent :: others ∧
            requestOf platform (.listen (.read socket outcome now)) =
                some (socket, request) ∧
              Carries platform DATETIME_FORMAT sent request ∧
                OnWire DATETIME_FORMAT escape others
                  ((system.requests link).drop bytes.length) := by
  cases outcome with
  | data bytes =>
      obtain ⟨link, isPeer, rest, isFront⟩ := permitted
      have front := onWire link
      rw [← isFront] at front
      obtain ⟨sent, others, isFirst, visits, left⟩ :=
        front.read reader (read_nonempty stepped) wellFormed
      obtain ⟨request, isRequest, carries⟩ :=
        requestOf_read visits socket now
      refine ⟨bytes, link, sent, others, request, rfl, isPeer, isFirst,
        isRequest, carries, ?_⟩
      rw [← isFront, List.drop_left]
      exact left
  | closed | failed =>
      exact (RequestFraming.not_wellFormed_nil reader wellFormed).elim

theorem ReadInOrder.server
    (reader : DocumentReader platform.read_json escape)
    (inOrder :
      ReadInOrder platform DATETIME_FORMAT escape labels system)
    {label : ServerLabel}
    (taken :
      step? platform DATETIME_FORMAT escape system (.server label) =
        some next) :
    ReadInOrder platform DATETIME_FORMAT escape
      (labels ++ [.server label]) next := by
  have permitted := permitted_of_step taken
  obtain ⟨after, stepped, rfl⟩ := step?_server taken
  obtain ⟨alive, _⟩ := Server.step?_sound stepped
  choose delivered pending isSent carried onWire using inOrder.carried
  have onWire := fun link => onWire link alive
  have sentNothing :
      ∀ link,
        sentOver (labels ++ [.server label]) link =
          sentOver labels link := by
    intro link
    rw [sentOver_concat]
    exact List.append_nil _
  have reads := readOver_concat inOrder.peers label after
  cases isRequest : requestOf platform label with
  | none =>
      rw [isRequest] at reads
      refine ⟨peers_concat inOrder.peers (by simp [isRequest]), ?_⟩
      intro link
      refine ⟨delivered link, pending link, ?_, ?_, ?_⟩
      · rw [sentNothing]
        exact isSent link
      · rw [reads]
        exact (List.append_nil _).symm ▸ carried link
      · intro stillAlive
        dsimp only at stillAlive ⊢
        rcases @afterServer_requests _ _ _ system label with
            ⟨socket, bytes, now, target, rfl, _, _⟩ | same
        · -- a read that is no request has ended the server
          obtain ⟨_, _, _, _, _, _, _, _, isSome, _⟩ :=
            read_of_step reader onWire permitted stepped
              (read_wellFormed stepped stillAlive)
          rw [isRequest] at isSome
          contradiction
        · rw [same]
          exact onWire link
  | some asked =>
      obtain ⟨socket, outcome, now, rfl, wellFormed⟩ :=
        requestOf_eq_some isRequest
      obtain ⟨bytes, target, sent, others, request, rfl, isPeer,
          isFirst, isSome, carries, left⟩ :=
        read_of_step reader onWire permitted stepped wellFormed
      obtain rfl : asked = (socket, request) :=
        Option.some.inj (isRequest.symm.trans isSome)
      have staysPeer := @afterServer_peer? _ _ _ system
        (.listen (.read socket (.data bytes) now)) _ _ isPeer
      have taken :
          (system.afterServer
              (.listen (.read socket (.data bytes) now))).requests =
            Function.update system.requests target
              ((system.requests target).drop bytes.length) := by
        simp only [afterServer, isPeer]
      rw [isRequest] at reads
      have latest :
          ∀ asked ∈
            requestOf platform
              (.listen (.read socket (.data bytes) now)),
            ∃ link, system.peer? asked.1 = some link := by
        intro asked isAsked
        rw [isRequest] at isAsked
        cases isAsked
        exact ⟨target, isPeer⟩
      refine ⟨peers_concat inOrder.peers latest, ?_⟩
      intro link
      rw [sentNothing, reads, Option.toList_some]
      dsimp only
      rw [taken]
      by_cases isTarget : link = target
      · subst isTarget
        refine ⟨delivered link ++ [sent], others, ?_, ?_, ?_⟩
        · rw [isSent, isFirst, List.append_assoc]
          rfl
        · rw [List.filter_singleton]
          simp only [staysPeer, decide_true, cond_true, List.map_cons,
            List.map_nil]
          exact List.rel_append (carried link) (.cons carries .nil)
        · rw [Function.update_self]
          exact fun _ => left
      · refine ⟨delivered link, pending link, isSent link, ?_, ?_⟩
        · have different : some target ≠ some link :=
            fun same => isTarget (Option.some.inj same).symm
          rw [List.filter_singleton]
          simp only [staysPeer, different, decide_false, cond_false,
            List.map_nil, List.append_nil]
          exact carried link
        · rw [Function.update_of_ne isTarget]
          exact fun _ => onWire link

theorem ReadInOrder.client
    (inOrder :
      ReadInOrder platform DATETIME_FORMAT escape labels system)
    {client : ClientId}
    {label : ActivityLabel DateTime Announcement Response.Message}
    (taken :
      step? platform DATETIME_FORMAT escape system
          (.client client label) =
        some next) :
    ReadInOrder platform DATETIME_FORMAT escape
      (labels ++ [.client client label]) next := by
  obtain ⟨_, after, _, rfl⟩ := step?_client taken
  obtain ⟨sameServer, sameLog⟩ :=
    @afterClient_server _ _ system _ DATETIME_FORMAT escape client label
  have sameAccepted :=
    system.afterClient_accepted DATETIME_FORMAT escape client label
  refine ⟨?_, ?_⟩
  · simp only [peer?, sameLog, sameAccepted]
    exact inOrder.peers
  · intro link
    obtain ⟨delivered, pending, isSent, carried, onWire⟩ :=
      inOrder.carried link
    refine ⟨delivered,
      pending ++ sentOver [.client client label] link, ?_, ?_, ?_⟩
    · rw [sentOver_concat, isSent, List.append_assoc]
    · simp only [readOver, peer?, sameLog, sameAccepted]
      exact carried
    · dsimp only
      rw [sameServer, afterClient_requests]
      exact fun alive => (onWire alive).send _

theorem ReadInOrder.of_run
    (reader : DocumentReader platform.read_json escape)
    (reached :
      run? (step? platform DATETIME_FORMAT escape)
        (initial descriptors) labels = some system) :
    ReadInOrder platform DATETIME_FORMAT escape labels system := by
  refine @LabelledRun.invariant _ _ _ _
    (ReadInOrder platform DATETIME_FORMAT escape) ?_ ?_ _ _ reached
  · refine ⟨?_, ?_⟩
    · intro asked inNothing
      contradiction
    · exact fun link => ⟨[], [], rfl, .nil, fun _ => .whole []⟩
  · intro past state label next _ inOrder taken
    cases label with
    | server label =>
        exact inOrder.server reader taken
    | client client label =>
        exact inOrder.client taken

/--
In every run of the server with any number of clients, and however the network
cuts the bytes, every request that the server has read came over a connection
of some client.  Over each connection the server has read the requests that
were sent over it in the order in which they were sent, each once and with its
own contents, up to some point; and up to the end if the server is alive and
nothing is on its way.
-/
theorem requests_read_in_order
    (reader : DocumentReader platform.read_json escape)
    (reached :
      run? (step? platform DATETIME_FORMAT escape)
        (initial descriptors) labels = some system) :
    (∀ asked ∈ requestsRead platform system.log,
      ∃ link, system.peer? asked.1 = some link) ∧
      ∀ link,
        ∃ delivered pending,
          sentOver labels link = delivered ++ pending ∧
            List.Forall₂ (Carries platform DATETIME_FORMAT) delivered
                (readOver platform system link) ∧
              (system.server.fault = none →
                system.requests link = [] →
                pending = []) := by
  have inOrder := ReadInOrder.of_run reader reached
  refine ⟨inOrder.peers, ?_⟩
  intro link
  obtain ⟨delivered, pending, isSent, carried, onWire⟩ :=
    inOrder.carried link
  refine ⟨delivered, pending, isSent, carried, ?_⟩
  intro alive noBytes
  exact (noBytes ▸ onWire alive).nothing

end Steps

end Order

/-- A client logs in alone: its one request is read, and none is on its way. -/
theorem requests_read_in_order_logInAlone :
    ∃ final,
      run? referenceStep? (initial [0, 1, 2, 3]) logInAlone =
          some final ∧
        (readOver .reference final (0, 0)).length = 1 ∧
          List.Forall₂ (Carries .reference id)
            (sentOver logInAlone (0, 0))
            (readOver .reference final (0, 0)) := by
  have finished :
      (run? referenceStep? (initial [0, 1, 2, 3]) logInAlone).map
          (fun final =>
            ((readOver .reference final (0, 0)).length,
              final.server.fault, final.requests (0, 0))) =
        some (1, none, []) := by
    decide +kernel
  obtain ⟨final, reached, ended⟩ := Option.map_eq_some_iff.mp finished
  obtain ⟨one, ended⟩ := Prod.mk.inj ended
  obtain ⟨alive, noBytes⟩ := Prod.mk.inj ended
  obtain ⟨_, inOrder⟩ :=
    requests_read_in_order JsonText.reader reached
  obtain ⟨delivered, pending, isSent, carried, nothing⟩ :=
    inOrder (0, 0)
  refine ⟨final, reached, one, ?_⟩
  rw [isSent, nothing alive noBytes, List.append_nil]
  exact carried

end ChatRelay.ChatSystem
