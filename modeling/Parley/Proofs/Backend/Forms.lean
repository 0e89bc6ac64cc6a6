import Parley.Proofs.Backend.Delivery
import Parley.Proofs.Chat.RoundTrip

/-!
# The forms of one message

A text that is posted comes back as a value; the same message is in the log, in the event that
handlers are told of, in the envelopes that go to connections, and in the text that is written to
their sockets. `forms_agree` says that these are one message in different forms, each of which can
be turned into the others, and what is reported when a text is refused instead.
-/

namespace Parley

/-! ### Refusals -/

/-- What is reported of a failure to those who asked for a text to be posted. -/
structure PostError.Reports (e : PostError) (failure : Failure) : Prop where
  notParticipant : e = .notParticipant ↔ failure.cause = .entity .notParticipant
  /-- The reason is the text of the failure. -/
  invalidInput : failure.cause = .entity .invalid ∨ failure.cause = .entity .notFound →
    ∃ reason, failure.source = some reason ∧ e = .invalidInput reason
  never_internal : ∀ reason, e ≠ .internal reason

/-- An entity fault that a post can be refused for is told to the poster. -/
theorem PostError.reports_ofFailure {fault : EntityFault} {reason : String}
    (listed : fault ∈ [EntityFault.notParticipant, .invalid, .notFound]) :
    (ofFailure (.entity fault reason)).Reports (.entity fault reason) := by
  simp only [List.mem_cons, List.not_mem_nil, or_false] at listed
  rcases listed with rfl | rfl | rfl
  · exact ⟨by simp [ofFailure, Failure.entity], by simp [Failure.entity],
      by simp [ofFailure, Failure.entity]⟩
  · exact ⟨by simp [ofFailure, Failure.entity], fun _ => ⟨reason, rfl, rfl⟩,
      by simp [ofFailure, Failure.entity]⟩
  · exact ⟨by simp [ofFailure, Failure.entity], fun _ => ⟨reason, rfl, rfl⟩,
      by simp [ofFailure, Failure.entity]⟩

/-! ### The text on the wire -/

namespace Message

variable {m : Message}

/-- The payload of the envelope of a message says that it is new, and the message. -/
theorem WellFormed.parse?_payload (h : m.WellFormed) :
    Json.parse? m.envelope.payload =
      some (.object [("type", .text "new_message"), ("message", m.value)]) := by
  have whole : m.envelope.wire.isWhole = true := by
    have word := h.id
    simp [Envelope.wire, envelope, value_eq, Uuid.toJson, Json.integer, Json.isWhole,
      Json.haveWhole, Number.isWord, word]
  have shallow : m.envelope.wire.toNode.depth ≤ Json.depthLimit := by
    change 2 ≤ 127
    decide
  exact Json.parse?_compact whole shallow

end Message

namespace Backend

variable {b : Backend}

/-- The message service of a backend that tells other handlers than its own. -/
def serviceOf (p : Publisher Backend) : MessageService Backend :=
  { service with publisher := p }

/-- A text that may be stored is stored under the next id and announced, and any other is
refused. -/
theorem create_serviceOf (p : Publisher Backend) (b : Backend) (now : Timestamp)
    (conversation : ConversationId) (sender : UserId) (content : String) :
    (serviceOf p).create now conversation sender content b =
      match draftOf b.directory.source conversation sender content with
      | .error failure => (.error failure, b)
      | .ok draft =>
        (.ok (b.messages.append draft now).1,
          p.publish (.messageCreated conversation (b.messages.append draft now).1.value)
            { b with messages := (b.messages.append draft now).2 }) :=
  (serviceOf p).create_of_store (fun _ _ _ => rfl) now conversation sender content b

/-- A draft is stored as a message that can be read back, as long as there is an id left. -/
theorem wellFormed_append {log : MessageLog} {now : Timestamp} (draft : Draft)
    (year : now.date.inRange = true) (left : log.messages.length + 1 < Word.signedLimit64) :
    (log.append draft now).1.WellFormed := by
  refine ⟨?_, year⟩
  have low : -(Word.signedLimit64 : Int) ≤ log.messages.length + 1 := by omega
  have high : (log.messages.length : Int) + 1 < Word.signedLimit64 := by omega
  exact decide_eq_true ⟨low, high⟩

/-- What is posted is what is created, in the form that those who asked for it know. -/
theorem post_eq_create (b : Backend) (p : Publisher Backend) (now : Timestamp)
    (conversation : ConversationId) (sender : UserId) (content : String) :
    (serviceOf p).post now conversation sender content b =
      (match ((serviceOf p).create now conversation sender content b).1 with
        | .ok m => .ok m.value
        | .error failure => .error (.ofFailure failure),
      ((serviceOf p).create now conversation sender content b).2) := by
  unfold MessageService.post
  rcases (serviceOf p).create now conversation sender content b with ⟨failure | m, later⟩
  · rfl
  · rfl

/-- A text that is posted in front of any handlers is refused without a trace, with the failure
reported, or stored as a message whose value is returned and told to the handlers. -/
theorem post_cases (b : Backend) (p : Publisher Backend) (now : Timestamp)
    (conversation : ConversationId) (sender : UserId) (content : String) :
    (∃ failure e, (serviceOf p).create now conversation sender content b = (.error failure, b) ∧
      (serviceOf p).post now conversation sender content b = (.error e, b) ∧ e.Reports failure) ∨
    ∃ draft later, draft.conversation = conversation ∧ later = p.publish
        (.messageCreated conversation (b.messages.append draft now).1.value)
        { b with messages := (b.messages.append draft now).2 } ∧
      (serviceOf p).create now conversation sender content b =
        (.ok (b.messages.append draft now).1, later) ∧
      (serviceOf p).post now conversation sender content b =
        (.ok (b.messages.append draft now).1.value, later) := by
  have created := create_serviceOf p b now conversation sender content
  have posted := post_eq_create b p now conversation sender content
  cases drafted : draftOf b.directory.source conversation sender content with
  | error failure =>
      rw [drafted] at created
      rw [created] at posted
      obtain ⟨fault, listed, reason, rfl⟩ := draftOf_eq_error drafted
      exact .inl ⟨_, _, created, posted, PostError.reports_ofFailure listed⟩
  | ok draft =>
      rw [drafted] at created
      rw [created] at posted
      have named : draft.conversation = conversation := by
        rw [draftOf_eq_ok drafted]
      exact .inr ⟨draft, _, named, rfl, created, posted⟩

end Backend

/-- What the backend itself makes of a text that it stores: one message more in the log, and an
envelope with the value in the mailbox of everyone who is entitled to it. -/
theorem Backend.post_of_ok {b : Backend} (tidy : b.hub.Tidy) {now : Timestamp}
    {conversation : ConversationId} {sender : UserId} {content : String} {v : Json}
    {later : Backend} (posted : b.post now conversation sender content = (.ok v, later)) :
    ∃ draft, v = (b.messages.append draft now).1.value ∧
      later.messages.messages = b.messages.messages ++ [(b.messages.append draft now).1] ∧
      ∀ c, later.hub.queueOf c =
        b.hub.queueOf c ++ if b.isEntitled conversation c then [⟨conversation, v⟩] else [] := by
  rcases b.post_cases service.publisher now conversation sender content with
    ⟨_, _, -, refused, -⟩ | ⟨draft, _, rfl, -, created, stored⟩
  · cases posted.symm.trans refused
  · obtain ⟨value, rfl⟩ := Prod.mk.inj (posted.symm.trans stored)
    obtain rfl := Except.ok.inj value
    have created' : b.create now draft.conversation sender content = (.ok _, later) := created
    have effect := fun c => create_of_ok tidy c (congrArg Prod.fst created')
    rw [created'] at effect
    exact ⟨draft, rfl, (effect 0).1, fun c => (effect c).2⟩

/-- **One message in all its forms.** A text that is posted after any run of the backend, in front
of any handlers, at a time that can be written, while ids are left. If a value comes back:

* it is the value of the message that was created, which is put at the end of the log, and the value
  that the handlers are told of;
* read as a message, directly or from its text, it is that message.

If an error comes back nothing has changed. The error is `notParticipant` exactly if this was the
failure, it names the reason of the failure where something was invalid or not found, and it is
never an internal one.

With the handler of the backend itself, what is put into any mailbox are envelopes of the
conversation with that value, and their payload reads as an object of type `new_message` with the
value as its message and nothing else. -/
theorem forms_agree (events : List BackendEvent) (p : Publisher Backend) {now : Timestamp}
    (year : now.date.inRange = true) (conversation : ConversationId) (sender : UserId)
    (content : String)
    (left : (Backend.empty.run events).messages.messages.length + 1 < Word.signedLimit64) :
    let b := Backend.empty.run events
    let service := Backend.serviceOf p
    (∀ v later, service.post now conversation sender content b = (.ok v, later) →
      ∃ m, (service.create now conversation sender content b).1 = .ok m ∧ v = m.value ∧
        later = p.publish (.messageCreated conversation v)
          { b with messages := ⟨b.messages.messages ++ [m]⟩ } ∧
        Message.ofNode? v.toNode = some m ∧ Message.ofText? v.compact = some m) ∧
    (∀ e later, service.post now conversation sender content b = (.error e, later) →
      later = b ∧ ∃ failure, (service.create now conversation sender content b).1 = .error failure ∧
        (e = .notParticipant ↔ failure.cause = .entity .notParticipant) ∧
        (failure.cause = .entity .invalid ∨ failure.cause = .entity .notFound →
          ∃ reason, failure.source = some reason ∧ e = .invalidInput reason) ∧
        ∀ reason, e ≠ .internal reason) ∧
    ∀ v later, b.post now conversation sender content = (.ok v, later) →
      ∃ m, later.messages.messages = b.messages.messages ++ [m] ∧ v = m.value ∧
        Message.ofText? v.compact = some m ∧
        Json.parse? (Envelope.payload ⟨conversation, v⟩) =
          some (.object [("type", .text "new_message"), ("message", v)]) ∧
        ∀ c, later.hub.queueOf c =
          b.hub.queueOf c ++ if b.isEntitled conversation c then [⟨conversation, v⟩] else [] := by
  intro b service
  have tidy : b.hub.Tidy := ((Backend.delivered_empty 0).run events).tidy
  have wellFormed (draft : Draft) : (b.messages.append draft now).1.WellFormed :=
    Backend.wellFormed_append draft year left
  have outcome := b.post_cases p now conversation sender content
  refine ⟨fun v later posted => ?stored, fun e later refused => ?refused,
    fun v later posted => ?sent⟩
  case stored =>
    rcases outcome with ⟨_, _, -, refused, -⟩ | ⟨draft, _, -, told, created, stored⟩
    · cases posted.symm.trans refused
    · obtain ⟨value, rfl⟩ := Prod.mk.inj (posted.symm.trans stored)
      obtain rfl := Except.ok.inj value
      exact ⟨_, congrArg Prod.fst created, rfl, told, (wellFormed draft).ofNode?_value,
        (wellFormed draft).read_back.2⟩
  case refused =>
    rcases outcome with ⟨failure, _, created, reported, reports⟩ | ⟨_, _, -, -, -, stored⟩
    · obtain ⟨error, rfl⟩ := Prod.mk.inj (refused.symm.trans reported)
      obtain rfl := Except.error.inj error
      exact ⟨rfl, failure, congrArg Prod.fst created, reports.notParticipant,
        reports.invalidInput, reports.never_internal⟩
    · cases refused.symm.trans stored
  case sent =>
    obtain ⟨draft, rfl, stored, sent⟩ := Backend.post_of_ok tidy posted
    exact ⟨_, stored, rfl, (wellFormed draft).read_back.2, (wellFormed draft).parse?_payload, sent⟩

/-- A text with quotes, letters beyond ASCII and blanks around it, and one connection to see it. -/
theorem forms_agree_greeting :
    let leapDay : Timestamp :=
      ⟨⟨2024, 2, 29, by decide, by decide⟩, 43200, 5000000, by decide, by decide, by decide⟩
    let talk : Conversation :=
      { id := ⟨7⟩, kind := .oneOnOne, name := none, participants := [⟨1⟩, ⟨2⟩] }
    let events : List BackendEvent := [.insert talk, .openFor ⟨2⟩ 1, .handle 0 .register]
    let b := Backend.empty.run events
    let text := "\t„grüß \"Gott\"“ \n"
    let m : Message :=
      { id := 1, conversation := ⟨7⟩, sender := ⟨1⟩, content := "„grüß \"Gott\"“", kind := .text
        createdAt := leapDay }
    leapDay.date.inRange = true ∧ b.messages.messages.length + 1 < Word.signedLimit64 ∧
      ∃ later, b.post leapDay ⟨7⟩ ⟨1⟩ text = (.ok m.value, later) ∧
        Message.ofText? m.value.compact = some m ∧ later.hub.queueOf 0 = [⟨⟨7⟩, m.value⟩] := by
  intro leapDay talk events b text m
  have year : leapDay.date.inRange = true := by decide
  have left : b.messages.messages.length + 1 < Word.signedLimit64 := by decide
  let service := Backend.serviceOf Backend.service.publisher
  have created : (service.create leapDay ⟨7⟩ ⟨1⟩ text b).1 = .ok m := by decide +kernel
  obtain ⟨later, posted⟩ : ∃ later, service.post leapDay ⟨7⟩ ⟨1⟩ text b = (.ok m.value, later) :=
    ⟨_, (b.post_eq_create Backend.service.publisher leapDay ⟨7⟩ ⟨1⟩ text).trans (by rw [created])⟩
  have entitled : b.isEntitled ⟨7⟩ 0 = true := by decide +kernel
  have idle : b.hub.queueOf 0 = [] := rfl
  obtain ⟨own, -, sent⟩ := forms_agree events Backend.service.publisher year ⟨7⟩ ⟨1⟩ text left
  obtain ⟨m', created', -, -, -, read⟩ := own m.value later posted
  obtain ⟨_, -, -, -, -, queued⟩ := sent m.value later posted
  obtain rfl : m' = m := Except.ok.inj (created'.symm.trans created)
  refine ⟨year, left, later, posted, read, ?_⟩
  rw [queued 0, idle, entitled]
  rfl

end Parley
