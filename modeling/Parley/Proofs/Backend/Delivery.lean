import Parley.Backend
import Parley.Chat.Seed
import Parley.Proofs.Chat.Message
import Parley.Proofs.Chat.Posting
import Parley.Proofs.Hub.Mail

/-!
# Who gets which message

A run of the backend is a list of `BackendEvent`s: conversations are added, connections are opened
and handled, and texts are posted. `Backend.due` are the messages stored in a run at whose storing
a connection was entitled to them, by `Backend.isEntitled`.

`run_delivers` says that what a connection has received and what is queued for it are the messages
due to it, in the order of the log. The invariant that carries the induction is
`Backend.Delivered`. As long as nobody drops the receiving side, nothing that was due is missing;
after that, what has been received is a beginning of it.
-/

namespace Parley

/-- What happens to a backend. -/
inductive BackendEvent where
  | insert (conversation : Conversation)
  /-- A seed file with the given contents is loaded. -/
  | seed (contents : Except String (List UInt8))
  | openFor (user : UserId) (capacity : Nat)
  | handle (id : ConnectionId) (handling : Handling)
  | create (now : Timestamp) (conversation : ConversationId) (sender : UserId) (content : String)

/-- What is sent of a message. -/
def Message.envelope (m : Message) : Envelope :=
  ⟨m.conversation, m.value⟩

/-- The id of the message in an envelope. -/
def Envelope.messageId? (e : Envelope) : Option Int :=
  match e.message with
  | .object members =>
    match members.lookup "message_id" with
    | some (.number (.integer id)) => some id
    | _ => none
  | _ => none

/-- An envelope bears the id of its message. -/
theorem Message.messageId?_envelope (m : Message) : m.envelope.messageId? = some m.id := by
  unfold Envelope.messageId? envelope
  rw [value_eq]
  rfl

/-- Announcing a stored message sends what `Message.envelope` says. -/
theorem Message.newMessage_value (m : Message) :
    Envelope.newMessage m.conversation m.value = m.envelope := by
  rw [Envelope.newMessage, canonical_value, envelope]

namespace Backend

variable {b : Backend}

/-! ### Runs -/

/-- Checks, stores and announces a posted text. -/
def create (b : Backend) (now : Timestamp) (conversation : ConversationId) (sender : UserId)
    (content : String) : Except Failure Message × Backend :=
  service.create now conversation sender content b

/-- A backend after an event. -/
def after (b : Backend) : BackendEvent → Backend
  | .insert conversation => { b with directory := b.directory.insert conversation }
  | .seed contents => { b with directory := (Seed.load contents b.directory).2 }
  | .openFor user capacity => b.mapHub fun hub => (hub.openFor user capacity).2
  | .handle id handling => b.mapHub fun hub => hub.handle id handling
  | .create now conversation sender content => (b.create now conversation sender content).2

/-- A backend after a run. -/
def run (b : Backend) (events : List BackendEvent) : Backend :=
  events.foldl after b

/-- The envelope that an event takes out of the mailbox of a connection. -/
def handed? (b : Backend) (c : ConnectionId) : BackendEvent → Option Envelope
  | .handle id handling => b.hub.handed? c (.handle id handling)
  | _ => none

/-- The envelopes that a run takes out of the mailbox of a connection, in their order. -/
def received (b : Backend) (c : ConnectionId) : List BackendEvent → List Envelope
  | [] => []
  | event :: rest => (b.handed? c event).toList ++ (b.after event).received c rest

/-- Whether a message that is stored now is to go to a connection: its user takes part in the
conversation, and it is registered, alive and has room for one more. -/
def isEntitled (b : Backend) (conversation : ConversationId) (c : ConnectionId) : Bool :=
  (b.hub.connection? c).any fun conn =>
    b.directory.isParticipant conversation conn.user && b.hub.isRegistered c && conn.held &&
      conn.admits

/-- The message that an event stores and that is to go to a connection. -/
def dueNow (b : Backend) (c : ConnectionId) : BackendEvent → List Message
  | .create now conversation sender content =>
    match (b.create now conversation sender content).1 with
    | .ok message => if b.isEntitled conversation c then [message] else []
    | .error _ => []
  | _ => []

/-- The messages stored in a run that are to go to a connection, in their order. -/
def due (b : Backend) (c : ConnectionId) : List BackendEvent → List Message
  | [] => []
  | event :: rest => b.dueNow c event ++ (b.after event).due c rest

/-! ### Posting -/

/-- The service looks conversations up in the directory. -/
@[simp] theorem conversations_service (b : Backend) :
    service.conversations b = b.directory.source := rfl

/-- Announcing a stored message offers it to the participants of its conversation. -/
theorem broadcast_value {m : Message} {found : Conversation}
    (hfind : b.directory.find? m.conversation = some found) :
    (b.broadcast m.conversation m.value).2 =
      { b with hub := (b.hub.fanOut (ascending found.participants) m.envelope).2 } := by
  have hsource : b.directory.source.participantsOf m.conversation =
      .ok (ascending found.participants) := by
    simp [ConversationSource.participantsOf, Directory.source, hfind]
  simp only [broadcast, Hub.broadcast, hsource, m.newMessage_value]

/-- Posting a text either fails and changes nothing, or stores a message of a conversation and
fans it out to the participants. -/
theorem create_cases (b : Backend) (now : Timestamp) (conversation : ConversationId)
    (sender : UserId) (content : String) :
    (∃ failure, b.create now conversation sender content = (.error failure, b)) ∨
    ∃ found draft, b.directory.find? conversation = some found ∧
      draft.conversation = conversation ∧
      b.create now conversation sender content =
        (.ok (b.messages.append draft now).1, { b with
          messages := (b.messages.append draft now).2
          hub := (b.hub.fanOut (ascending found.participants)
            (b.messages.append draft now).1.envelope).2 }) := by
  have hchecks := draftOf_source b.directory conversation sender content
  unfold create MessageService.create
  rw [conversations_service]
  cases hdraft : draftOf b.directory.source conversation sender content with
  | error failure => exact Or.inl ⟨failure, rfl⟩
  | ok draft =>
      rw [hdraft] at hchecks
      cases hfind : b.directory.find? conversation with
      | none =>
          rw [hfind] at hchecks
          exact absurd hchecks (by simp)
      | some found =>
          have hconversation : draft.conversation = conversation := by
            rw [draftOf_eq_ok hdraft]
          subst hconversation
          refine Or.inr ⟨found, draft, rfl, rfl, ?_⟩
          have hsent := broadcast_value
            (b := { b with messages := (b.messages.append draft now).2 })
            (m := (b.messages.append draft now).1) hfind
          exact congrArg (Prod.mk _) hsent

/-- A text that is not stored changes nothing. -/
theorem create_of_error {now : Timestamp} {conversation : ConversationId} {sender : UserId}
    {content : String} {failure : Failure}
    (h : (b.create now conversation sender content).1 = .error failure) :
    (b.create now conversation sender content).2 = b := by
  rcases b.create_cases now conversation sender content with ⟨_, hcreate⟩ | ⟨_, _, -, -, hcreate⟩
  · rw [hcreate]
  · rw [hcreate] at h
    cases h

/-! ### What reaches a mailbox -/

/-- An envelope that is fanned out to the participants of a conversation comes to those who are
entitled to it. -/
theorem accepted_participants (tidy : b.hub.Tidy) {conversation : ConversationId}
    {found : Conversation} (hfind : b.directory.find? conversation = some found)
    (c : ConnectionId) (e : Envelope) :
    b.hub.accepted c (.fanOut (ascending found.participants) e) =
      if b.isEntitled conversation c then [e] else [] := by
  have hlisted : ∀ user, decide (user ∈ ascending found.participants) =
      b.directory.isParticipant conversation user := by
    intro user
    simp [Directory.isParticipant, hfind, mem_ascending]
  rw [Hub.accepted_fanOut tidy]
  simp only [hlisted]
  rfl

/-- What an event means to the hub. A text that is stored is fanned out there; the rest of what
happens to a backend does not concern it. -/
theorem hub_after (b : Backend) (c : ConnectionId) (event : BackendEvent) :
    ((b.after event).hub = b.hub ∧ b.handed? c event = none ∧ b.dueNow c event = []) ∨
    ∃ e, (b.after event).hub = b.hub.after e ∧ b.handed? c event = b.hub.handed? c e ∧
      (b.hub.Tidy → b.hub.accepted c e = (b.dueNow c event).map Message.envelope) := by
  cases event with
  | insert conversation => exact Or.inl ⟨rfl, rfl, rfl⟩
  | seed contents => exact Or.inl ⟨rfl, rfl, rfl⟩
  | openFor user capacity =>
      exact Or.inr ⟨.openFor user capacity, rfl, rfl, fun tidy =>
        Hub.accepted_openFor tidy c user capacity⟩
  | handle id handling =>
      exact Or.inr ⟨.handle id handling, rfl, rfl, fun tidy =>
        Hub.accepted_handle tidy c id handling⟩
  | create now conversation sender content =>
      rcases b.create_cases now conversation sender content with
        ⟨failure, hcreate⟩ | ⟨found, draft, hfind, -, hcreate⟩
      · refine Or.inl ⟨?_, rfl, ?_⟩
        · rw [after, hcreate]
        · rw [dueNow, hcreate]
      · refine Or.inr ⟨.fanOut (ascending found.participants)
          (b.messages.append draft now).1.envelope, ?_, rfl, fun tidy => ?_⟩
        · rw [after, hcreate]
          rfl
        · rw [accepted_participants tidy hfind, dueNow, hcreate]
          cases b.isEntitled conversation c <;> rfl

/-- Every event keeps the hub tidy. -/
theorem tidy_after (tidy : b.hub.Tidy) (event : BackendEvent) : (b.after event).hub.Tidy := by
  rcases b.hub_after 0 event with ⟨h, -, -⟩ | ⟨e, h, -, -⟩
  · rwa [h]
  · rw [h]
    exact tidy.after e

/-- An event leaves the log as it is or stores one message, and what is due is what it stores. -/
theorem log_after (b : Backend) (c : ConnectionId) (event : BackendEvent) :
    ((b.after event).messages = b.messages ∧ b.dueNow c event = []) ∨
    ∃ draft now, (b.after event).messages = (b.messages.append draft now).2 ∧
      (b.dueNow c event).Sublist [(b.messages.append draft now).1] := by
  cases event with
  | create now conversation sender content =>
      rcases b.create_cases now conversation sender content with
        ⟨failure, hcreate⟩ | ⟨found, draft, -, -, hcreate⟩
      · refine Or.inl ⟨?_, ?_⟩
        · rw [after, hcreate]
        · rw [dueNow, hcreate]
      · refine Or.inr ⟨draft, now, ?_, ?_⟩
        · rw [after, hcreate]
        · rw [dueNow, hcreate]
          simp only
          split_ifs
          · exact List.Sublist.refl _
          · exact List.nil_sublist _
  | _ => exact Or.inl ⟨rfl, rfl⟩

/-! ### The invariant -/

/-- What holds of a connection all along: what it has received, with what is queued for it, is a
beginning of what was due to it, and all of that unless the receiving side was dropped. -/
structure Delivered (b : Backend) (c : ConnectionId) (received : List Envelope)
    (due : List Message) : Prop where
  tidy : b.hub.Tidy
  numbered : b.messages.Numbered
  logged : due.Sublist b.messages.messages
  sent : received ++ b.hub.queueOf c <+: due.map Message.envelope
  all : b.hub.isGone c = false → received ++ b.hub.queueOf c = due.map Message.envelope

/-- On a backend that nothing has happened on, nothing has been delivered. -/
theorem delivered_empty (c : ConnectionId) : empty.Delivered c [] [] :=
  ⟨Hub.tidy_empty, MessageLog.numbered_empty, List.nil_sublist _, List.prefix_rfl, fun _ => rfl⟩

/-- Every event goes on delivering. -/
theorem Delivered.after {c : ConnectionId} {received : List Envelope} {due : List Message}
    (delivered : b.Delivered c received due) (event : BackendEvent) :
    (b.after event).Delivered c (received ++ (b.handed? c event).toList)
      (due ++ b.dueNow c event) := by
  have hlog : (b.after event).messages.Numbered ∧
      (due ++ b.dueNow c event).Sublist (b.after event).messages.messages := by
    rcases b.log_after c event with ⟨hsame, hnone⟩ | ⟨draft, now, hstored, hdue⟩
    · rw [hsame, hnone, List.append_nil]
      exact ⟨delivered.numbered, delivered.logged⟩
    · rw [hstored]
      exact ⟨delivered.numbered.append draft now, delivered.logged.append hdue⟩
  rcases b.hub_after c event with ⟨hsame, hhanded, hnone⟩ | ⟨e, hhub, hhanded, haccepted⟩
  · refine ⟨tidy_after delivered.tidy event, hlog.1, hlog.2, ?_, ?_⟩
    · rw [hsame, hhanded, hnone, Option.toList_none, List.append_nil, List.append_nil]
      exact delivered.sent
    · rw [hsame, hhanded, hnone, Option.toList_none, List.append_nil, List.append_nil]
      exact delivered.all
  · obtain ⟨hsent, hall⟩ :=
      Hub.account_after delivered.tidy c e delivered.sent delivered.all
    rw [haccepted delivered.tidy, ← hhanded, ← hhub, ← List.map_append] at hsent hall
    exact ⟨tidy_after delivered.tidy event, hlog.1, hlog.2, hsent, hall⟩

/-- Every run goes on delivering. -/
theorem Delivered.run {c : ConnectionId} {received : List Envelope} {due : List Message}
    (delivered : b.Delivered c received due) (events : List BackendEvent) :
    (b.run events).Delivered c (received ++ b.received c events) (due ++ b.due c events) := by
  induction events generalizing b received due with
  | nil =>
      rw [Backend.received, Backend.due, List.append_nil, List.append_nil]
      exact delivered
  | cons event rest ih =>
      rw [Backend.received, Backend.due, ← List.append_assoc, ← List.append_assoc]
      exact ih (delivered.after event)

/-- Storing a message puts it at the end of the log, and into the mailboxes of those who are
entitled to it. -/
theorem create_of_ok (tidy : b.hub.Tidy) (c : ConnectionId) {now : Timestamp}
    {conversation : ConversationId} {sender : UserId} {content : String} {m : Message}
    (h : (b.create now conversation sender content).1 = .ok m) :
    (b.create now conversation sender content).2.messages.messages = b.messages.messages ++ [m] ∧
      (b.create now conversation sender content).2.hub.queueOf c =
        b.hub.queueOf c ++ if b.isEntitled m.conversation c then [m.envelope] else [] := by
  rcases b.create_cases now conversation sender content with
    ⟨failure, hcreate⟩ | ⟨found, draft, hfind, hconversation, hcreate⟩
  · rw [hcreate] at h
    cases h
  · rw [hcreate] at h ⊢
    cases h
    refine ⟨rfl, ?_⟩
    have hne : HubEvent.fanOut (ascending found.participants)
        (b.messages.append draft now).1.envelope ≠ .handle c .dropQueue := by
      intro h
      cases h
    have hqueue := Hub.queueOf_after_of_ne tidy hne
    rw [accepted_participants tidy hfind] at hqueue
    rw [show (b.messages.append draft now).1.conversation = conversation from hconversation]
    exact hqueue

end Backend

/-- **Delivery.** What a connection has received and what is queued for it, after any run:

* the ids of the messages increase strictly, so none comes twice or out of order;
* each is what is sent of a message in the log;
* together they are a beginning of what was due to the connection, and all of it unless the
  receiving side was dropped;
* a text posted next that is stored is put at the end of the log, and into the mailbox of the
  connection exactly if its user takes part and it is registered, alive, open and has room; one
  that is not stored changes nothing. -/
theorem run_delivers (events : List BackendEvent) (c : ConnectionId) :
    let b := Backend.empty.run events
    let due := (Backend.empty.due c events).map Message.envelope
    let seen := Backend.empty.received c events ++ b.hub.queueOf c
    (seen.Pairwise fun e f => ∃ i j, e.messageId? = some i ∧ f.messageId? = some j ∧ i < j) ∧
    (∀ e ∈ seen, ∃ m ∈ b.messages.messages, e = m.envelope) ∧
    (seen <+: due ∧ (b.hub.isGone c = false → seen = due)) ∧
    ∀ now conversation sender content,
      match b.create now conversation sender content with
      | (.ok m, later) =>
        later.messages.messages = b.messages.messages ++ [m] ∧
          later.hub.queueOf c =
            b.hub.queueOf c ++ if b.isEntitled m.conversation c then [m.envelope] else []
      | (.error _, later) => later = b := by
  intro b due seen
  have delivered : b.Delivered c (Backend.empty.received c events) (Backend.empty.due c events) :=
    (Backend.delivered_empty c).run events
  have hmember : ∀ e ∈ seen, ∃ m ∈ b.messages.messages, e = m.envelope := by
    intro e he
    obtain ⟨m, hm, rfl⟩ := List.mem_map.mp (delivered.sent.subset he)
    exact ⟨m, delivered.logged.subset hm, rfl⟩
  refine ⟨?_, hmember, ⟨delivered.sent, delivered.all⟩, fun now conversation sender content => ?_⟩
  · have hdue : due.Pairwise fun e f =>
        ∃ i j, e.messageId? = some i ∧ f.messageId? = some j ∧ i < j := by
      refine List.pairwise_map.mpr ((delivered.numbered.pairwise.sublist delivered.logged).imp ?_)
      intro m n hmn
      exact ⟨m.id, n.id, m.messageId?_envelope, n.messageId?_envelope, hmn⟩
    exact hdue.sublist delivered.sent.sublist
  · rcases h : b.create now conversation sender content with ⟨failure | m, later⟩
    · have := Backend.create_of_error (congrArg Prod.fst h)
      rwa [h] at this
    · have := Backend.create_of_ok delivered.tidy c (congrArg Prod.fst h)
      rwa [h] at this

end Parley
