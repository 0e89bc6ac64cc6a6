import Mathlib.Data.List.Perm.Basic
import Parley.Chat.Seed
import Parley.Proofs.Chat.Creation

/-!
# The log of messages over a run

An `Assembly` is a room with the creations that are under way in it. In a run (`RoomEvent`)
conversations change, creations are begun, by any services and directly, and each of them takes its
next step at any time.

`message_log_law` says what holds after any run. The log is numbered from one on and only grows at
its end, and a creation that has stored its message has it in the log (`Assembly.Sound`); so what is
found of a conversation is a part of the log in its order, and stays. Where the creations of one
service follow one another, all that a handler has not been told of is at most the last message,
which the creation under way owes it (`Assembly.OneByOne`); when none is under way, nothing is owed.
-/

namespace Parley

/-! ### Views of the log -/

namespace MessageLog

variable {log : MessageLog}

/-- Found of a conversation are the messages that belong to it. -/
theorem mem_ofConversation {c : ConversationId} {m : Message} :
    m ∈ log.ofConversation c ↔ m ∈ log.messages ∧ m.conversation = c := by
  unfold ofConversation
  rw [List.mem_filter, decide_eq_true_iff]

/-- What is found of different conversations that cover all messages is the whole log, each message
once. -/
theorem flatMap_ofConversation_perm {ids : List ConversationId} (distinct : ids.Nodup)
    (all : ∀ m ∈ log.messages, m.conversation ∈ ids) :
    (ids.flatMap log.ofConversation).Perm log.messages := by
  induction ids generalizing log with
  | nil =>
    have nothing : log.messages = [] :=
      List.eq_nil_iff_forall_not_mem.mpr fun m hm => List.not_mem_nil (all m hm)
    rw [nothing]
    exact .refl _
  | cons c rest ih =>
    obtain ⟨fresh, distinct⟩ := List.nodup_cons.mp distinct
    let others : MessageLog := ⟨log.messages.filter fun m => ¬m.conversation = c⟩
    have same : rest.flatMap log.ofConversation = rest.flatMap others.ofConversation := by
      apply List.flatMap_congr
      intro d hd
      have ne : d ≠ c := fun h => fresh (h ▸ hd)
      unfold ofConversation
      rw [List.filter_filter]
      apply List.filter_congr
      intro m _
      by_cases h : m.conversation = d
      · simp [h, ne]
      · simp [h]
    have covered : ∀ m ∈ others.messages, m.conversation ∈ rest := by
      intro m hm
      obtain ⟨hm, ne⟩ := List.mem_filter.mp hm
      exact (List.mem_cons.mp (all m hm)).resolve_left (by simpa using ne)
    rw [List.flatMap_cons, same]
    have parts : (log.ofConversation c ++ others.messages).Perm log.messages := by
      simpa [ofConversation, others] using
        List.filter_append_perm (fun m => m.conversation = c) log.messages
    exact ((ih distinct covered).append_left _).trans parts

end MessageLog

/-! ### Runs -/

/-- What happens in a room. -/
inductive RoomEvent (τ : Type) where
  | insert (conversation : Conversation)
  /-- A seed file with the given contents is loaded. -/
  | seed (contents : Except String (List UInt8))
  /-- A draft is to be stored directly. -/
  | draft (draft : Draft)
  /-- The service of a publisher is asked to create a message. -/
  | ask (publisher : Publisher τ) (conversation : ConversationId) (sender : UserId)
      (content : String)
  /-- A creation takes its next step. -/
  | proceed (place : Nat) (now : Timestamp)

/-- A room, and the creations that have been begun in it, the last one first, each with the
publisher of its service. -/
structure Assembly (τ : Type) where
  room : Room τ
  creations : List (Publisher τ × Creation) := []

namespace Assembly

variable {τ : Type}

/-- An assembly after an event. -/
def after (a : Assembly τ) : RoomEvent τ → Assembly τ
  | .insert conversation =>
    { a with room := { a.room with directory := a.room.directory.insert conversation } }
  | .seed contents =>
    { a with room := { a.room with directory := (Seed.load contents a.room.directory).2 } }
  | .draft draft => { a with creations := (.empty, .drafted draft) :: a.creations }
  | .ask publisher conversation sender content =>
    { a with creations := (publisher, .asked conversation sender content) :: a.creations }
  | .proceed place now =>
    match a.creations[place]? with
    | none => a
    | some (p, c) =>
      { room := (c.step p now a.room).2
        creations := a.creations.set place (p, (c.step p now a.room).1) }

/-- An assembly after a run. -/
def run (a : Assembly τ) (events : List (RoomEvent τ)) : Assembly τ :=
  events.foldl after a

/-- The assembly in an empty room. -/
def empty (state : τ) : Assembly τ := { room := .empty state }

/-- Whether all creations have come to their end. -/
def IsIdle (a : Assembly τ) : Prop := ∀ x ∈ a.creations, (x.2.result? x.1).isSome = true

/-- Whether an event is in order where one service alone creates messages, one after another. -/
def Allows (p : Publisher τ) (a : Assembly τ) : RoomEvent τ → Prop
  | .ask q _ _ _ => q = p ∧ a.IsIdle
  | .draft _ => False
  | .insert _ | .seed _ | .proceed _ _ => True

/-- Whether all events of a run are in order where one service alone creates messages, one after
another. -/
def Serial (p : Publisher τ) : Assembly τ → List (RoomEvent τ) → Prop
  | _, [] => True
  | a, event :: rest => a.Allows p event ∧ (a.after event).Serial p rest

end Assembly

/-! ### What a step does -/

namespace Creation

variable {τ : Type} (p : Publisher τ) (now : Timestamp) (r : Room τ)

/-- Only the step that stores a draft changes the log: it puts the message at its end. -/
theorem step_messages (c : Creation) :
    (c.step p now r).2.messages = r.messages ∧
        (∀ m told, (c.step p now r).1 = .stored m told → ∃ told, c = .stored m told) ∨
      ∃ draft, (c.step p now r).2.messages = (r.messages.append draft now).2 ∧
        (c.step p now r).1 = .stored (r.messages.append draft now).1 0 := by
  cases c with
  | asked conversation sender content =>
    unfold step
    dsimp only
    split
    · exact .inl ⟨rfl, nofun⟩
    · exact .inl ⟨rfl, nofun⟩
  | found known conversation sender content =>
    unfold step
    dsimp only
    split
    · exact .inl ⟨rfl, nofun⟩
    · exact .inl ⟨rfl, nofun⟩
    · split
      · exact .inl ⟨rfl, nofun⟩
      · exact .inl ⟨rfl, nofun⟩
  | drafted draft => exact .inr ⟨draft, rfl, rfl⟩
  | stored message told =>
    unfold step
    dsimp only
    split
    · exact .inl ⟨rfl, fun m k h => ⟨k, h⟩⟩
    · refine .inl ⟨rfl, fun m k h => ⟨told, ?_⟩⟩
      cases h
      rfl
  | refused failure => exact .inl ⟨rfl, nofun⟩

/-- A creation that has ended has told every handler. -/
theorem handlerCount_le {message : Message} {told : Nat}
    (ended : ((stored message told).result? p).isSome = true) : p.handlerCount ≤ told := by
  by_contra short
  rw [result?, if_neg short] at ended
  cases ended

/-- A creation that has come to its end does nothing more. -/
theorem step_of_result {c : Creation} (ended : (c.result? p).isSome = true) :
    c.step p now r = (c, r) := by
  cases c with
  | stored message told =>
    have le : p.handlers.length ≤ told := handlerCount_le p ended
    unfold step
    dsimp only
    rw [List.getElem?_eq_none le]
  | refused failure => rfl
  | _ => cases ended

/-- A creation that has come to its end owes no handler anything. -/
theorem owed_of_result {c : Creation} (ended : (c.result? p).isSome = true) {place : Nat}
    (lt : place < p.handlerCount) : c.owed place = [] := by
  cases c with
  | stored message told =>
    exact if_neg (Nat.not_le.mpr (Nat.lt_of_lt_of_le lt (handlerCount_le p ended)))
  | _ => rfl

/-- Telling a handler adds the event to the record of its place only. -/
theorem record_tell (told : Nat) (handler : Handler τ) (event : Event) (place : Nat) :
    (Room.tell told handler event r).record place =
      r.record place ++ if told = place then [event] else [] := by
  unfold Room.record Room.tell
  dsimp only
  rw [List.filter_append, List.map_append]
  by_cases h : told = place
  · simp [h]
  · simp [h]

/-- What a handler has been told and what it is owed are together the log, and a step keeps it
so. -/
theorem account_step {c : Creation} {place : Nat}
    (account : r.record place ++ c.owed place = r.messages.messages.map Message.event) :
    (c.step p now r).2.record place ++ (c.step p now r).1.owed place
      = (c.step p now r).2.messages.messages.map Message.event := by
  cases c with
  | asked conversation sender content =>
    unfold step
    dsimp only
    split <;> exact account
  | found known conversation sender content =>
    unfold step
    dsimp only
    split
    · exact account
    · exact account
    · split <;> exact account
  | drafted draft =>
    have told : r.record place = r.messages.messages.map Message.event :=
      (List.append_nil _).symm.trans account
    unfold step owed
    dsimp only
    rw [if_pos (Nat.zero_le place)]
    have appended : (r.store now draft).2.messages.messages =
        r.messages.messages ++ [(r.store now draft).1] := rfl
    change r.record place ++ _ = _
    rw [told, appended, List.map_append]
    rfl
  | stored message told =>
    unfold step
    dsimp only
    split
    · exact account
    · rw [record_tell, List.append_assoc]
      have same : (if told = place then [message.event] else []) ++
          owed place (.stored message (told + 1)) = owed place (.stored message told) := by
        unfold owed
        dsimp only
        rcases Nat.lt_trichotomy told place with lt | rfl | gt
        · rw [if_neg (Nat.ne_of_lt lt), if_pos (Nat.succ_le_of_lt lt), if_pos (Nat.le_of_lt lt)]
          rfl
        · rw [if_pos rfl, if_neg (Nat.not_succ_le_self told), if_pos (Nat.le_refl told)]
          rfl
        · rw [if_neg (Nat.ne_of_gt gt), if_neg (by omega), if_neg (by omega)]
          rfl
      rw [same]
      exact account
  | refused failure => exact account

end Creation

namespace Assembly

variable {τ : Type} {a : Assembly τ} {p : Publisher τ}

/-! ### The log of any run -/

/-- The log is numbered, and every creation that has stored its message has it there. -/
structure Sound (a : Assembly τ) : Prop where
  numbered : a.room.messages.Numbered
  logged : ∀ q m told, (q, Creation.stored m told) ∈ a.creations → m ∈ a.room.messages.messages

/-- An empty assembly is sound. -/
theorem sound_empty (state : τ) : (empty state).Sound :=
  ⟨MessageLog.numbered_empty, fun _ _ _ h => absurd h List.not_mem_nil⟩

/-- An event leaves the log as it is, or a creation stores its message at the end of it. -/
theorem after_cases (a : Assembly τ) (event : RoomEvent τ) :
    (a.after event).room.messages = a.room.messages ∧
        (∀ q m told, (q, Creation.stored m told) ∈ (a.after event).creations →
          ∃ told, (q, Creation.stored m told) ∈ a.creations) ∨
      ∃ draft now, (a.after event).room.messages = (a.room.messages.append draft now).2 ∧
        ∀ q m told, (q, Creation.stored m told) ∈ (a.after event).creations →
          m = (a.room.messages.append draft now).1 ∨
            ∃ told, (q, Creation.stored m told) ∈ a.creations := by
  cases event with
  | insert conversation => exact .inl ⟨rfl, fun q m told h => ⟨told, h⟩⟩
  | seed contents => exact .inl ⟨rfl, fun q m told h => ⟨told, h⟩⟩
  | draft draft =>
    refine .inl ⟨rfl, fun q m told h => ⟨told, ?_⟩⟩
    exact (List.mem_cons.mp h).resolve_left (by simp)
  | ask publisher conversation sender content =>
    refine .inl ⟨rfl, fun q m told h => ⟨told, ?_⟩⟩
    exact (List.mem_cons.mp h).resolve_left (by simp)
  | proceed place now =>
    unfold after
    dsimp only
    split
    case h_1 => exact .inl ⟨rfl, fun q m told h => ⟨told, h⟩⟩
    case h_2 q c at_place =>
      have here : (q, c) ∈ a.creations := List.mem_of_getElem? at_place
      rcases c.step_messages q now a.room with ⟨same, stores⟩ | ⟨draft, appended, stored⟩
      · refine .inl ⟨same, fun q' m told h => ?_⟩
        rcases List.mem_or_eq_of_mem_set h with h | h
        · exact ⟨told, h⟩
        · obtain ⟨rfl, h⟩ := Prod.mk.inj h
          obtain ⟨told, rfl⟩ := stores m told h.symm
          exact ⟨told, here⟩
      · refine .inr ⟨draft, now, appended, fun q' m told h => ?_⟩
        rcases List.mem_or_eq_of_mem_set h with h | h
        · exact .inr ⟨told, h⟩
        · obtain ⟨-, h⟩ := Prod.mk.inj h
          rw [stored] at h
          cases h
          exact .inl rfl

/-- The log only grows, at its end. -/
theorem messages_after (a : Assembly τ) (event : RoomEvent τ) :
    a.room.messages.messages <+: (a.after event).room.messages.messages := by
  rcases a.after_cases event with ⟨same, -⟩ | ⟨draft, now, appended, -⟩
  · exact same ▸ List.prefix_refl _
  · exact appended ▸ List.prefix_append _ _

/-- Messages are only added to the log. -/
theorem messages_run (a : Assembly τ) (events : List (RoomEvent τ)) :
    a.room.messages.messages <+: (a.run events).room.messages.messages := by
  induction events generalizing a with
  | nil => exact List.prefix_refl _
  | cons event rest ih => exact (a.messages_after event).trans (ih (a.after event))

/-- An assembly stays sound whatever happens. -/
theorem Sound.after (sound : a.Sound) (event : RoomEvent τ) : (a.after event).Sound := by
  have grows := (a.messages_after event).subset
  rcases a.after_cases event with ⟨same, before⟩ | ⟨draft, now, appended, before⟩
  · refine ⟨same ▸ sound.numbered, fun q m told h => ?_⟩
    obtain ⟨told, h⟩ := before q m told h
    exact grows (sound.logged q m told h)
  · refine ⟨appended ▸ sound.numbered.append draft now, fun q m told h => ?_⟩
    rcases before q m told h with rfl | ⟨told, h⟩
    · rw [appended]
      exact List.mem_append_right _ (List.mem_singleton_self _)
    · exact grows (sound.logged q m told h)

/-- An assembly is sound after any run. -/
theorem Sound.run (sound : a.Sound) (events : List (RoomEvent τ)) : (a.run events).Sound := by
  induction events generalizing a with
  | nil => exact sound
  | cons event rest ih => exact ih (sound.after event)

/-! ### Handlers of one service whose creations follow one another -/

/-- One service alone creates messages, one after another: only the last creation begun may be under
way, and what a handler has been told is the log, but for what that creation owes it. -/
structure OneByOne (p : Publisher τ) (a : Assembly τ) : Prop where
  own : ∀ x ∈ a.creations, x.1 = p
  settled : ∀ x ∈ a.creations.tail, (x.2.result? p).isSome = true
  account : ∀ place < p.handlerCount,
    a.room.record place ++ (a.creations.head?.elim [] fun x => x.2.owed place)
      = a.room.messages.messages.map Message.event

/-- In an empty assembly creations are one by one. -/
theorem oneByOne_empty (p : Publisher τ) (state : τ) : (empty state).OneByOne p :=
  ⟨fun _ h => absurd h List.not_mem_nil, fun _ h => absurd h List.not_mem_nil, fun _ _ => rfl⟩

/-- When no creation is under way, no handler is owed anything. -/
theorem OneByOne.record_eq (one : a.OneByOne p) (idle : a.IsIdle) {place : Nat}
    (lt : place < p.handlerCount) :
    a.room.record place = a.room.messages.messages.map Message.event := by
  have account := one.account place lt
  cases hcreations : a.creations with
  | nil =>
    rw [hcreations] at account
    exact (List.append_nil _).symm.trans account
  | cons x rest =>
    have inside : x ∈ a.creations := by simp [hcreations]
    have ended := idle x inside
    rw [one.own x inside] at ended
    rw [hcreations] at account
    change _ ++ x.2.owed place = _ at account
    rwa [Creation.owed_of_result p ended lt, List.append_nil] at account

/-- At any time a handler has been told of a beginning of the log. -/
theorem OneByOne.record_prefix (one : a.OneByOne p) {place : Nat} (lt : place < p.handlerCount) :
    a.room.record place <+: a.room.messages.messages.map Message.event :=
  ⟨_, one.account place lt⟩

/-- A step of the creation under way leaves creations one by one. -/
theorem OneByOne.proceed (one : a.OneByOne p) (place : Nat) (now : Timestamp) :
    (a.after (.proceed place now)).OneByOne p := by
  unfold Assembly.after
  dsimp only
  split
  case h_1 => exact one
  case h_2 q c at_place =>
    have here : (q, c) ∈ a.creations := List.mem_of_getElem? at_place
    obtain rfl : q = p := one.own _ here
    cases hcreations : a.creations with
    | nil => simp [hcreations] at here
    | cons x rest =>
      rw [hcreations] at at_place
      cases place with
      | zero =>
        obtain rfl : x = (q, c) := Option.some.inj at_place
        refine ⟨?_, ?_, ?_⟩
        · intro y hy
          rcases List.mem_cons.mp hy with rfl | hy
          · rfl
          · exact one.own y (by simp [hcreations, hy])
        · intro y hy
          exact one.settled y (by rw [hcreations]; exact hy)
        · intro place lt
          have account := one.account place lt
          rw [hcreations] at account
          exact Creation.account_step q now a.room account
      | succ place =>
        -- not the last creation begun, so it has come to its end
        have later : (q, c) ∈ rest := List.mem_of_getElem? at_place
        have ended := one.settled (q, c) (by rw [hcreations]; exact later)
        rw [Creation.step_of_result q now a.room ended]
        have same : (x :: rest).set (place + 1) (q, c) = x :: rest := by
          obtain ⟨lt, found⟩ := List.getElem?_eq_some_iff.mp at_place
          rw [← found, List.set_getElem_self lt]
        rw [same, ← hcreations]
        exact one

/-- Creations stay one by one as long as none is begun while another is under way. -/
theorem OneByOne.after (one : a.OneByOne p) {event : RoomEvent τ} (allowed : a.Allows p event) :
    (a.after event).OneByOne p := by
  cases event with
  | insert conversation => exact ⟨one.own, one.settled, one.account⟩
  | seed contents => exact ⟨one.own, one.settled, one.account⟩
  | draft draft => exact allowed.elim
  | ask q conversation sender content =>
    obtain ⟨rfl, idle⟩ := allowed
    refine ⟨?_, ?_, ?_⟩
    · intro x hx
      rcases List.mem_cons.mp hx with rfl | hx
      · rfl
      · exact one.own x hx
    · intro x hx
      have ended := idle x hx
      rwa [one.own x hx] at ended
    · intro place lt
      exact (List.append_nil _).trans (one.record_eq idle lt)
  | proceed place now => exact one.proceed place now

/-- In a serial run creations are one by one. -/
theorem OneByOne.run (one : a.OneByOne p) {events : List (RoomEvent τ)}
    (serial : a.Serial p events) : (a.run events).OneByOne p := by
  induction events generalizing a with
  | nil => exact one
  | cons event rest ih => exact ih (one.after serial.1) serial.2

end Assembly

/-- **The log of messages.** After any run in a room that was empty, however the steps of the
creations are mixed:

* the ids of the messages are one, two, three and so on, in the order of the log;
* what is found of a conversation are the messages of the log that belong to it, with ascending
  ids; what is found of different conversations that cover all messages is the whole log, each
  message once;
* a message that a creation has returned is found in its conversation, whatever happens later, and
  what is found of a conversation only grows at its end;
* if one service alone creates messages, one after another, then each of its handlers has been told
  of a beginning of the log, and when no creation is under way, of all of it, each message once and
  in order.

A creation whose steps nothing comes between is what the service does as a whole. -/
theorem message_log_law {τ : Type} (state : τ) (events : List (RoomEvent τ)) :
    let a := (Assembly.empty state).run events
    let log := a.room.messages
    (log.messages.map Message.id
      = (List.range log.messages.length).map fun i : Nat => (i : Int) + 1) ∧
    (∀ c, (∀ m, m ∈ log.ofConversation c ↔ m ∈ log.messages ∧ m.conversation = c) ∧
      (log.ofConversation c).Pairwise fun m n => m.id < n.id) ∧
    (∀ ids : List ConversationId, ids.Nodup → (∀ m ∈ log.messages, m.conversation ∈ ids) →
      (ids.flatMap log.ofConversation).Perm log.messages) ∧
    (∀ later, (∀ q creation m, (q, creation) ∈ a.creations → creation.result? q = some (.ok m) →
        m ∈ (a.run later).room.messages.ofConversation m.conversation) ∧
      ∀ c, log.ofConversation c <+: (a.run later).room.messages.ofConversation c) ∧
    (∀ p, (Assembly.empty state).Serial p events → ∀ place < p.handlerCount,
      a.room.record place <+: log.messages.map Message.event ∧
        (a.IsIdle → a.room.record place = log.messages.map Message.event)) ∧
    ∀ (p : Publisher τ) now conversation sender content,
      let reached := Creation.steps p now (p.handlerCount + 3)
        (.asked conversation sender content, a.room)
      let whole := (Room.service p).create now conversation sender content a.room
      reached.1.result? p = some whole.1 ∧ reached.2 = whole.2 := by
  intro a log
  have sound : a.Sound := (Assembly.sound_empty state).run events
  have grows : ∀ later, log.messages <+: (a.run later).room.messages.messages := a.messages_run
  refine ⟨sound.numbered, fun c => ⟨fun m => MessageLog.mem_ofConversation, ?_⟩,
    fun ids distinct all => MessageLog.flatMap_ofConversation_perm distinct all,
    fun later => ⟨?_, fun c => ?_⟩, fun p serial place lt => ?_,
    fun p now conversation sender content => ?_⟩
  · exact sound.numbered.pairwise.sublist List.filter_sublist
  · intro q creation m inside returned
    obtain ⟨told, rfl⟩ : ∃ told, creation = .stored m told := by
      cases creation with
      | stored message told =>
        rw [Creation.result?] at returned
        split_ifs at returned
        cases returned
        exact ⟨told, rfl⟩
      | refused failure => cases returned
      | _ => cases returned
    exact MessageLog.mem_ofConversation.mpr
      ⟨(grows later).subset (sound.logged q m told inside), rfl⟩
  · exact (grows later).filter _
  · have one : a.OneByOne p := (Assembly.oneByOne_empty p state).run serial
    exact ⟨one.record_prefix lt, fun idle => one.record_eq idle lt⟩
  · have steps := Creation.steps_asked p now conversation sender content a.room
    exact ⟨congrArg Prod.fst steps, congrArg Prod.snd steps⟩

/-- Two posts in a conversation, one after the other: the handler of the service has been told of
both. -/
theorem message_log_law_two_posts :
    let midnight : Timestamp :=
      ⟨⟨1970, 1, 1, by decide, by decide⟩, 0, 0, by decide, by decide, by decide⟩
    let p : Publisher Unit := ⟨[fun _ state => state]⟩
    let post (content : String) : List (RoomEvent Unit) :=
      .ask p ⟨7⟩ ⟨1⟩ content :: List.replicate 4 (.proceed 0 midnight)
    let lobby : Conversation := { id := ⟨7⟩, kind := .group, name := none, participants := [⟨1⟩] }
    let events := .insert lobby :: (post "ready" ++ post "steady")
    let a := (Assembly.empty ()).run events
    (Assembly.empty ()).Serial p events ∧ a.IsIdle ∧
      a.room.messages.messages.map Message.content = ["ready", "steady"] ∧
      a.room.record 0 = a.room.messages.messages.map Message.event := by
  intro midnight p post lobby events a
  have serial : (Assembly.empty ()).Serial p events := by
    refine ⟨trivial, ⟨rfl, List.forall_mem_nil _⟩, trivial, trivial, trivial, trivial,
      ⟨rfl, ?_⟩, trivial, trivial, trivial, trivial, trivial⟩
    exact List.forall_mem_singleton.mpr rfl
  have idle : a.IsIdle :=
    List.forall_mem_cons.mpr ⟨rfl, List.forall_mem_singleton.mpr rfl⟩
  obtain ⟨-, -, -, -, told, -⟩ := message_log_law () events
  have contents : a.room.messages.messages.map Message.content = ["ready", "steady"] := by
    decide +kernel
  exact ⟨serial, idle, contents, (told p serial 0 Nat.one_pos).2 idle⟩

end Parley
