import Parley.Proofs.Session.Locality

/-!
# Sessions on one hub

A `Switchboard` is a hub with all sessions ever started on it, in any number and for any users. Its
sessions take their steps in any order, at any times and with any outcomes, and meanwhile others may
deliver envelopes on the hub and take connections off its roster. Either side of a session may also
panic, after which it takes no further step.

One invariant carries the theory: a connection is registered exactly as long as its signal is down,
and the signal of a session that has lost a side is raised (`Attended.Fits`). Every step keeps it
(`Sound.step`), since all a session does is to handle its own connection.
-/

namespace Parley

/-- What happens to a session. -/
inductive SessionEvent where
  | read (now : Duration) (reading : Reading)
  | answer (conversation : ConversationId) (result : Except PostError Unit)
  | turn (now : Duration)
  | outcome (now : Duration) (outcome : WriteOutcome)
  | readerPanics
  | writerPanics (reason : String)
  | finish

/-- Whether one side of a session panics. -/
def SessionEvent.isPanic : SessionEvent → Bool
  | .readerPanics | .writerPanics _ => true
  | _ => false

/-- A session and the panics of its sides. -/
structure Attended where
  session : Session
  readerPanic : Bool := false
  writerPanic : Option String := none

namespace Attended

/-- The connection of the session. -/
def connection (a : Attended) : ConnectionId := a.session.connection

/-- Whether the reader is still running. -/
def readerRuns (a : Attended) : Bool :=
  a.session.inbound.isNone && !a.readerPanic

/-- Whether the writer is still running. -/
def writerRuns (a : Attended) : Bool :=
  a.session.outbound.isNone && a.writerPanic.isNone

/-- Whether the reader, looking at the socket and at the signal, may find a reading. -/
def mayFind (a : Attended) (hub : Hub) : Reading → Bool
  | .signal => a.session.isSignalled hub
  | _ => true

/-- A session after a step of it. -/
def withSession (a : Attended) (after : Session × Hub) : Attended × Hub :=
  ({ a with session := after.1 }, after.2)

/-- The writer panics: its end of the mailbox is lost. -/
def losesWriter (a : Attended) (hub : Hub) (reason : String) : Attended × Hub :=
  ({ a with writerPanic := some reason }, hub.update a.connection Connection.dropQueue)

/-- The session ends when its reader has ended and its writer has ended or panicked. -/
def finish (a : Attended) (hub : Hub) : Attended × Hub :=
  match a.writerPanic with
  | none => a.withSession (a.session.finish hub)
  | some reason =>
    if a.session.inbound.isSome && !a.session.isOver then
      let (session, hub) := a.session.crash hub reason
      a.withSession (session.finish hub)
    else (a, hub)

/-- A session takes a step, if it is one it can take. -/
def step (a : Attended) (hub : Hub) : SessionEvent → Attended × Hub
  | .read now reading =>
    if a.readerRuns && !a.session.reader.awaiting && a.mayFind hub reading then
      a.withSession (a.session.read hub now reading).2
    else (a, hub)
  | .answer conversation result =>
    if a.readerRuns && a.session.reader.awaiting then
      a.withSession (a.session.answer hub conversation result)
    else (a, hub)
  | .turn now =>
    if a.writerRuns && a.session.writer.writing.isNone then
      a.withSession (a.session.takeTurn hub now)
    else (a, hub)
  | .outcome now outcome =>
    if a.writerRuns && a.session.writer.writing.isSome then
      a.withSession (a.session.write hub now outcome.writing)
    else (a, hub)
  | .readerPanics => (if a.readerRuns then { a with readerPanic := true } else a, hub)
  | .writerPanics reason => if a.writerRuns then a.losesWriter hub reason else (a, hub)
  | .finish => a.finish hub

/-! ### One step -/

/-- A step depends only on how the connection of the session stands, and does nothing but to handle
that connection. -/
structure Steps (a : Attended) (t : Standing) (event : SessionEvent) (a' : Attended)
    (handlings : List Handling) : Prop where
  moves : a.session.Moves handlings a'.session
  sane : event.isPanic = false → a'.readerPanic = a.readerPanic ∧ a'.writerPanic = a.writerPanic
  acts : ∀ hub : Hub, hub.Tidy → hub.standing? a.connection = some t →
    (a.step hub event).1 = a' ∧ hub.Handled a.connection handlings (a.step hub event).2

/-- Every step of a session is a row of handlings of its connection. -/
theorem exists_steps (a : Attended) (t : Standing) (event : SessionEvent) :
    ∃ a' handlings, a.Steps t event a' handlings := by
  -- A step that is not taken, and one that is taken by the session.
  have idle : (∀ hub : Hub, hub.standing? a.connection = some t → a.step hub event = (a, hub)) →
      ∃ a' handlings, a.Steps t event a' handlings := by
    intro nothing
    refine ⟨a, [], .of_same rfl rfl rfl rfl (by simp), fun _ => ⟨rfl, rfl⟩, fun hub tidy hs => ?_⟩
    rw [nothing hub hs]
    exact ⟨rfl, .refl tidy _⟩
  have taken : ∀ {f : Hub → Session × Hub}, a.session.Acts t f →
      (∀ hub : Hub, hub.standing? a.connection = some t →
        a.step hub event = a.withSession (f hub)) →
      ∃ a' handlings, a.Steps t event a' handlings := by
    rintro f ⟨s', handlings, moves, acts⟩ same
    refine ⟨{ a with session := s' }, handlings, moves, fun _ => ⟨rfl, rfl⟩, fun hub tidy hs => ?_⟩
    rw [same hub hs]
    obtain ⟨rfl, handled⟩ := acts hub tidy hs
    exact ⟨rfl, handled⟩
  cases event with
  | read now reading =>
    have may : ∃ may : Bool, ∀ hub : Hub, hub.standing? a.connection = some t →
        a.mayFind hub reading = may := by
      cases reading with
      | signal => exact ⟨t.connection.isClosed, fun hub hs => a.session.isSignalled_eq hs⟩
      | _ => exact ⟨true, fun _ _ => rfl⟩
    obtain ⟨may, hmay⟩ := may
    by_cases able : (a.readerRuns && !a.session.reader.awaiting && may) = true
    · exact taken (a.session.acts_read t now reading) fun hub hs => by
        simp only [step, hmay hub hs, able, if_true]
    · exact idle fun hub hs => by simp only [step, hmay hub hs, able, Bool.false_eq_true, if_false]
  | answer conversation result =>
    by_cases able : (a.readerRuns && a.session.reader.awaiting) = true
    · exact taken (a.session.acts_answer t conversation result) fun hub _ => by
        simp only [step, able, if_true]
    · exact idle fun hub _ => by simp only [step, able, Bool.false_eq_true, if_false]
  | turn now =>
    by_cases able : (a.writerRuns && a.session.writer.writing.isNone) = true
    · exact taken (a.session.acts_takeTurn t now) fun hub _ => by simp only [step, able, if_true]
    · exact idle fun hub _ => by simp only [step, able, Bool.false_eq_true, if_false]
  | outcome now outcome =>
    by_cases able : (a.writerRuns && a.session.writer.writing.isSome) = true
    · exact taken (a.session.acts_write t now outcome.writing) fun hub _ => by
        simp only [step, able, if_true]
    · exact idle fun hub _ => by simp only [step, able, Bool.false_eq_true, if_false]
  | readerPanics =>
    refine ⟨if a.readerRuns then { a with readerPanic := true } else a, [], ?_,
      by simp [SessionEvent.isPanic], fun hub tidy _ => ⟨rfl, .refl tidy _⟩⟩
    split <;> exact .of_same rfl rfl rfl rfl (by simp)
  | writerPanics reason =>
    by_cases able : a.writerRuns = true
    · refine ⟨{ a with writerPanic := some reason }, [.dropQueue],
        .of_same rfl rfl rfl rfl (by simp), by simp [SessionEvent.isPanic], fun hub tidy _ => ?_⟩
      simp only [step, able, if_true]
      exact ⟨rfl, .of_handle tidy _ .dropQueue⟩
    · exact idle fun hub _ => by simp only [step, able, Bool.false_eq_true, if_false]
  | finish =>
    cases panic : a.writerPanic with
    | none =>
      exact taken (a.session.acts_finish t) fun hub _ => by simp only [step, finish, panic]
    | some reason =>
      by_cases able : (a.session.inbound.isSome && !a.session.isOver) = true
      · exact taken ((a.session.acts_crash t reason).andThen fun s' t' => s'.acts_finish t')
          fun hub _ => by simp only [step, finish, panic, able, if_true]
      · exact idle fun hub _ => by
          simp only [step, finish, panic, able, Bool.false_eq_true, if_false]

/-! ### What holds of a session and its connection -/

/-- What holds of a session and of how its connection stands. -/
structure Fits (a : Attended) (t : Standing) : Prop where
  registered : t.registered = true ↔ t.connection.isClosed = false
  inbound : a.session.inbound.isSome → t.connection.isClosed = true
  outbound : a.session.outbound.isSome → t.connection.isClosed = true
  isOver : a.session.isOver → a.session.inbound.isSome ∧ a.session.outbound.isSome

/-- A session still fits its connection after a step of its own. -/
theorem Fits.steps {a a' : Attended} {t : Standing} {event : SessionEvent} {l : List Handling}
    (fits : a.Fits t) (steps : a.Steps t event a' l) : a'.Fits (t.meetAll l) := by
  have moves := steps.moves
  have closed := Standing.isClosed_meetAll (s := t) moves.noClose moves.released
  have registered := Standing.registered_meetAll (s := t) moves.noRegister
  have off : Handling.unregister ∈ l → (t.meetAll l).connection.isClosed = true :=
    fun inside => closed.mpr (.inr inside)
  have stays : t.connection.isClosed = true → (t.meetAll l).connection.isClosed = true :=
    fun earlier => closed.mpr (.inl earlier)
  constructor
  case registered =>
    rw [registered, fits.registered, ← Bool.not_eq_true, ← Bool.not_eq_true, closed, not_or]
  case inbound =>
    intro ended
    rcases moves.inbound with same | ⟨-, inside⟩
    · exact stays (fits.inbound (same ▸ ended))
    · exact off inside
  case outbound =>
    intro ended
    rcases moves.outbound with same | ⟨-, inside⟩
    · exact stays (fits.outbound (same ▸ ended))
    · exact off inside
  case isOver =>
    intro ended
    rcases moves.isOver with same | both
    · obtain ⟨hin, hout⟩ := fits.isOver (same ▸ ended)
      exact ⟨moves.inbound.elim (fun h => h ▸ hin) And.left,
        moves.outbound.elim (fun h => h ▸ hout) And.left⟩
    · exact both

end Attended

/-! ### Events and runs -/

/-- Whether an event on the hub is one that others bring about: they deliver envelopes, and they may
register connections and take them off the roster. -/
def HubEvent.isOutside : HubEvent → Bool
  | .openFor _ _ => false
  | .handle _ .register | .handle _ .unregister => true
  | .handle _ _ => false
  | .enqueue _ _ | .fanOut _ _ | .broadcast _ _ _ => true

/-- From outside a connection is handled only to register or to unregister it. -/
theorem HubEvent.handled_of_isOutside {event : HubEvent} (outside : event.isOutside = true)
    {c : ConnectionId} {user : UserId} {h : Handling}
    (means : event.moment? c user = some (.handled h)) : h = .register ∨ h = .unregister := by
  rw [HubEvent.eq_handle_of_moment? means] at outside
  cases h with
  | register => exact .inl rfl
  | unregister => exact .inr rfl
  | _ => cases outside

/-- A session still fits its connection after what is done from outside. -/
theorem Attended.Fits.meet {a : Attended} {t : Standing} (fits : a.Fits t) {m : Moment}
    (allowed : ∀ h, m = .handled h → h = .register ∨ h = .unregister) : a.Fits (t.meet m) := by
  have closed := t.isClosed_meet m
  have registered := t.registered_meet m
  have stays : t.connection.isClosed = true → (t.meet m).connection.isClosed = true := by
    intro earlier
    rw [closed, earlier, Bool.true_or]
  refine ⟨?_, fun ended => stays (fits.inbound ended), fun ended => stays (fits.outbound ended),
    fits.isOver⟩
  by_cases off : m = .handled .unregister
  · subst off
    rw [registered, closed]
    simp [Moment.raisesSignal]
  · have quiet : m.raisesSignal = false := by
      cases m with
      | handled h =>
        rcases allowed h rfl with rfl | rfl
        · rfl
        · exact absurd rfl off
      | _ => rfl
    rw [registered, closed, quiet, Bool.or_false, fits.registered]
    simp only [ne_eq, off, not_false_eq_true, and_true, or_iff_left_iff_imp, and_imp]
    exact fun _ down => down

/-- What happens to a switchboard. -/
inductive SwitchEvent where
  /-- A session is started: its connection is created and registered. -/
  | start (user : UserId) (settings : Settings) (now : Duration)
  | session (id : ConnectionId) (event : SessionEvent)
  | elsewhere (event : HubEvent)

/-- Whether one side of some session panics. -/
def SwitchEvent.isPanic : SwitchEvent → Bool
  | .session _ event => event.isPanic
  | _ => false

/-- A hub and the sessions started on it, each under the id of its connection. -/
structure Switchboard where
  hub : Hub
  sessions : List Attended

namespace Switchboard

/-- The switchboard without sessions. -/
def empty : Switchboard := ⟨.empty, []⟩

/-- A switchboard after an event. -/
def step (b : Switchboard) : SwitchEvent → Switchboard
  | .start user settings now =>
    let (session, hub) := Session.start b.hub user settings now
    ⟨hub, b.sessions ++ [{ session }]⟩
  | .session id event =>
    match b.sessions[id]? with
    | none => b
    | some a =>
      let (a, hub) := a.step b.hub event
      ⟨hub, b.sessions.set id a⟩
  | .elsewhere event => if event.isOutside then { b with hub := b.hub.after event } else b

/-- A switchboard after a run. -/
def run (b : Switchboard) (events : List SwitchEvent) : Switchboard :=
  events.foldl step b

/-- What holds of every switchboard that is reached. -/
structure Sound (b : Switchboard) : Prop where
  tidy : b.hub.Tidy
  length : b.hub.connections.length = b.sessions.length
  each : ∀ c a, b.sessions[c]? = some a →
    a.connection = c ∧ ∃ t, b.hub.standing? c = some t ∧ a.Fits t

/-- A switchboard without sessions is sound. -/
theorem sound_empty : Sound empty :=
  ⟨Hub.tidy_empty, rfl, fun _ _ h => by simp [empty] at h⟩

/-- A session that is not there takes no step. -/
theorem step_session_of_none {b : Switchboard} {id : ConnectionId} (found : b.sessions[id]? = none)
    (event : SessionEvent) : b.step (.session id event) = b := by
  simp [step, found]

/-- A step of a session changes that session and handles its connection, and does nothing else. -/
theorem step_session_of_some {b : Switchboard} {id : ConnectionId} {a a' : Attended} {t : Standing}
    {event : SessionEvent} {l : List Handling} (tidy : b.hub.Tidy)
    (found : b.sessions[id]? = some a) (own : a.connection = id)
    (hs : b.hub.standing? id = some t) (steps : a.Steps t event a' l) :
    (b.step (.session id event)).sessions = b.sessions.set id a' ∧
      b.hub.Handled id l (b.step (.session id event)).hub := by
  subst own
  obtain ⟨rfl, handled⟩ := steps.acts b.hub tidy hs
  have after : b.step (.session a.connection event)
      = ⟨(a.step b.hub event).2, b.sessions.set a.connection (a.step b.hub event).1⟩ := by
    simp [step, found]
  rw [after]
  exact ⟨rfl, handled⟩

/-- Starting a session opens and registers a connection, and leaves the others as they stand. -/
theorem standing?_start (b : Switchboard) (tidy : b.hub.Tidy) (user : UserId) (settings : Settings)
    (now : Duration) (c : ConnectionId) :
    (b.step (.start user settings now)).hub.standing? c =
      if c = b.hub.connections.length then
        some ((Standing.new user settings.queueCapacity).meet (.handled .register))
      else b.hub.standing? c := by
  have hopen := Hub.standing?_openFor tidy user settings.queueCapacity c
  have hregister := Hub.standing?_handle (tidy.openFor user settings.queueCapacity)
    b.hub.connections.length c .register
  refine hregister.trans ?_
  rw [hopen]
  split_ifs <;> rfl

/-- A switchboard stays sound when a session is started. -/
theorem Sound.start {b : Switchboard} (sound : b.Sound) (user : UserId) (settings : Settings)
    (now : Duration) : (b.step (.start user settings now)).Sound where
  tidy := (sound.tidy.openFor user settings.queueCapacity).handle _ .register
  length := by
    have opening : ∀ u capacity,
        HubEvent.handle b.hub.connections.length .register ≠ .openFor u capacity := nofun
    refine (Hub.length_after (sound.tidy.openFor user settings.queueCapacity) opening).trans ?_
    simp [Hub.openFor, step, sound.length]
  each c a found := by
    have hsessions : (b.step (.start user settings now)).sessions
        = b.sessions ++ [{ session := (Session.start b.hub user settings now).1 }] := rfl
    rw [hsessions] at found
    rw [standing?_start b sound.tidy, sound.length]
    by_cases hc : c = b.sessions.length
    · rw [hc, List.getElem?_concat_length] at found
      obtain rfl := Option.some.inj found
      rw [if_pos hc]
      refine ⟨sound.length.trans hc.symm, _, rfl, ?_⟩
      exact ⟨iff_of_true rfl rfl, by simp [Session.start], by simp [Session.start],
        by simp [Session.start]⟩
    · have earlier : c < b.sessions.length := by
        have inside := (List.getElem?_eq_some_iff.mp found).1
        rw [List.length_append, List.length_singleton] at inside
        exact Nat.lt_of_le_of_ne (Nat.le_of_lt_succ inside) hc
      rw [List.getElem?_append_left earlier] at found
      rw [if_neg hc]
      exact sound.each c a found

/-- A switchboard stays sound when a session takes a step. -/
theorem Sound.session {b : Switchboard} (sound : b.Sound) (id : ConnectionId)
    (event : SessionEvent) : (b.step (.session id event)).Sound := by
  cases found : b.sessions[id]? with
  | none => rwa [step_session_of_none found]
  | some a =>
    obtain ⟨own, t, hs, fits⟩ := sound.each id a found
    obtain ⟨a', l, steps⟩ := a.exists_steps t event
    obtain ⟨sessions, handled⟩ := step_session_of_some sound.tidy found own hs steps
    constructor
    case tidy => exact handled.tidy
    case length => rw [handled.length, sound.length, sessions, List.length_set]
    case each =>
      intro c a'' foundAfter
      rw [sessions] at foundAfter
      rw [handled.standing]
      by_cases hc : c = id
      · subst hc
        rw [List.getElem?_set_self (List.getElem?_eq_some_iff.mp found).1] at foundAfter
        obtain rfl := Option.some.inj foundAfter
        rw [if_pos rfl, hs]
        exact ⟨steps.moves.connection.trans own, _, rfl, fits.steps steps⟩
      · rw [List.getElem?_set_ne (Ne.symm hc)] at foundAfter
        rw [if_neg hc]
        exact sound.each c a'' foundAfter

/-- A switchboard stays sound whatever happens. -/
theorem Sound.step {b : Switchboard} (sound : b.Sound) (event : SwitchEvent) :
    (b.step event).Sound := by
  cases event with
  | start user settings now => exact sound.start user settings now
  | session id event => exact sound.session id event
  | elsewhere event =>
    rw [Switchboard.step]
    split
    case isFalse => exact sound
    case isTrue outside =>
      refine ⟨sound.tidy.after event, ?_, fun c a found => ?_⟩
      · have opening : ∀ user capacity, event ≠ .openFor user capacity := by
          rintro user capacity rfl
          cases outside
        exact (Hub.length_after sound.tidy opening).trans sound.length
      · obtain ⟨own, t, hs, fits⟩ := sound.each c a found
        refine ⟨own, _, Hub.standing?_after_of_some sound.tidy hs event, ?_⟩
        cases means : event.moment? c t.user with
        | none => exact fits
        | some m =>
          exact fits.meet fun h handled => HubEvent.handled_of_isOutside outside (handled ▸ means)

/-- A switchboard is sound after any run. -/
theorem Sound.run {b : Switchboard} (sound : b.Sound) (events : List SwitchEvent) :
    (b.run events).Sound := by
  induction events generalizing b with
  | nil => exact sound
  | cons event rest ih => exact ih (sound.step event)

end Switchboard

end Parley
