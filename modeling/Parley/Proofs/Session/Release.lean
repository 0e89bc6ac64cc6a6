import Parley.Proofs.Session.Lifecycle
import Parley.Proofs.Session.Ownership

/-!
# What a released connection tells

The last phase of a connection is entered by the writer of its session, when it ends, and by nobody
else. So it tells that nothing more is written (`Switchboard.writer_done_of_released`). It does not
tell that nothing more is read: the reader may not have looked at its signal yet, and acts on a
frame if that is what it finds first (`Switchboard.reads_after_release`).

What carries this is an invariant of each session, that its connection is released exactly if its
writer has ended of its own accord (`Attended.hasRetired`). A writer that panics releases nothing.
-/

namespace Parley

/-! ### The last phase -/

/-- A connection is in its last phase after a moment if it was before or the moment is its
release. -/
theorem Standing.phase_meet_eq_closed_iff (s : Standing) (m : Moment) :
    (s.meet m).connection.phase = .closed ↔
      s.connection.phase = .closed ∨ m = .handled .markClosed := by
  by_cases before : s.connection.phase = .closed
  · exact iff_of_true (phase_meet_of_closed before m) (.inl before)
  · simp only [before, false_or]
    cases m with
    | handled h =>
      cases h with
      | markClosed => exact iff_of_true rfl rfl
      | receive =>
        simp only [meet, Connection.handled, Connection.dequeue_eq]
        cases s.connection.mailbox.queue <;> simp [before]
      | unregister | close =>
        simp only [meet, Connection.handled, Connection.close, Connection.raise]
        split_ifs <;> simp [before]
      | _ => exact iff_of_false before (by simp)
    | enqueued e =>
      have same : (s.connection.enqueue e).2.phase = s.connection.phase :=
        (s.connection.enqueue_frame e).2.2.1
      simp [meet, same, before]
    | offered e =>
      have same : (s.connection.enqueue e).2.phase = s.connection.phase :=
        (s.connection.enqueue_frame e).2.2.1
      simp only [meet]
      split_ifs <;> simp [same, before]

/-- The last phase is entered by marking closed, and never left. -/
theorem Standing.phase_meetAll_eq_closed_iff (s : Standing) (handlings : List Handling) :
    (s.meetAll handlings).connection.phase = .closed ↔
      s.connection.phase = .closed ∨ .markClosed ∈ handlings := by
  induction handlings generalizing s with
  | nil => simp
  | cons h rest ih =>
    have first := s.phase_meet_eq_closed_iff (.handled h)
    have later := ih (s.meet (.handled h))
    rw [first, Moment.handled.injEq, or_assoc, eq_comm (a := h)] at later
    exact later.trans (or_congr Iff.rfl List.mem_cons.symm)

namespace Hub

/-- Whether a connection is in its last phase. -/
def isReleased (hub : Hub) (c : ConnectionId) : Bool :=
  (hub.standing? c).any fun s => s.connection.phase = .closed

variable {hub hub' : Hub} {c : ConnectionId}

/-- Of what is done to a connection, only marking it as closed releases it. -/
theorem Handled.isReleased {handlings : List Handling} (handled : hub.Handled c handlings hub')
    (known : (hub.standing? c).isSome = true) :
    hub'.isReleased c = (hub.isReleased c || handlings.contains .markClosed) := by
  obtain ⟨s, hs⟩ := Option.isSome_iff_exists.mp known
  have after := s.phase_meetAll_eq_closed_iff handlings
  rw [Hub.isReleased, Hub.isReleased, handled.standing, if_pos rfl, hs, Option.map_some,
    Option.any_some, Option.any_some, Bool.eq_iff_iff, Bool.or_eq_true, decide_eq_true_iff,
    decide_eq_true_iff, List.contains_iff_mem]
  exact after

/-- What does not mark a connection as closed leaves it as released as it was. -/
theorem Handled.isReleased_of_quiet {handlings : List Handling}
    (handled : hub.Handled c handlings hub') (known : (hub.standing? c).isSome = true)
    (quiet : handlings.contains .markClosed = false) : hub'.isReleased c = hub.isReleased c := by
  rw [handled.isReleased known, quiet, Bool.or_false]

end Hub

/-! ### One session -/

namespace Session

variable {hub : Hub} {t : Standing}

/-- A writer that ends releases the connection, and a step of the writer that does not end it leaves
the connection unreleased. -/
theorem isReleased_write {s : Session} (tidy : hub.Tidy)
    (known : (hub.standing? s.connection).isSome = true) (running : s.outbound = none)
    (unreleased : hub.isReleased s.connection = false) (now : Duration) (writing : Writing) :
    (s.write hub now writing).2.isReleased s.connection =
      (s.write hub now writing).1.outbound.isSome := by
  obtain ⟨first, before, harmless, begun, written⟩ := s.exists_before_write writing
  have quiet : before.contains .markClosed = false := by
    rw [← Bool.not_eq_true, List.contains_iff_mem]
    exact fun inside => by simpa using harmless _ inside
  have handled := begun hub tidy
  cases reacted : s.writer.react s.settings now writing with
  | mk exit writer =>
    rw [written now hub exit writer reacted]
    cases exit with
    | none =>
      rw [Option.elim_none, handled.isReleased known, unreleased, quiet, running]
      rfl
    | some exit =>
      have released := handled.trans (.retire handled.tidy _)
      rw [Option.elim_some, released.isReleased known]
      simp

/-- What an idle writer takes out of the mailbox releases nothing. -/
theorem isReleased_turn {s : Session} (tidy : hub.Tidy)
    (hs : hub.standing? s.connection = some t) {now : Duration} {writing : Writing} {hub' : Hub}
    (turn : s.turn? hub now = some (writing, hub')) :
    hub'.Tidy ∧ (hub'.standing? s.connection).isSome = true ∧
      hub'.isReleased s.connection = hub.isReleased s.connection := by
  have known : (hub.standing? s.connection).isSome = true := by rw [hs]; rfl
  rw [s.turn?_eq hs, Option.map_eq_some_iff] at turn
  obtain ⟨⟨found, taken⟩, -, same⟩ := turn
  cases same
  cases taken with
  | false => exact ⟨tidy, known, rfl⟩
  | true =>
    have handled := Hub.Handled.of_handle tidy s.connection .receive
    rw [if_pos rfl]
    refine ⟨handled.tidy, ?_, handled.isReleased_of_quiet known rfl⟩
    rw [handled.standing, if_pos rfl, hs]
    rfl

/-- The end of a session leaves the exit of its writer as it is. -/
theorem outbound_finish (s : Session) (hub : Hub) : (s.finish hub).1.outbound = s.outbound := by
  unfold finish
  split <;> rfl

/-- The end of a session releases nothing. -/
theorem handled_finish (s : Session) (tidy : hub.Tidy) :
    ∃ handlings : List Handling, handlings.contains .markClosed = false ∧
      hub.Handled s.connection handlings (s.finish hub).2 := by
  unfold finish
  split
  case h_1 _ inbound outbound running hinbound houtbound =>
    have noted := (Hub.Handled.refl tidy s.connection).note
      (.sessionEnded s.connection s.user inbound outbound)
    exact ⟨_, rfl, noted.trans (.of_handle noted.tidy _ .release)⟩
  case h_2 => exact ⟨[], rfl, .refl tidy _⟩

end Session

namespace Attended

/-- Whether the writer has ended of its own accord. -/
def hasRetired (a : Attended) : Bool := a.session.outbound.isSome && a.writerPanic.isNone

/-- A writer that has retired does not run. -/
theorem writerRuns_of_hasRetired {a : Attended} (retired : a.hasRetired = true) :
    a.writerRuns = false := by
  rw [hasRetired, Bool.and_eq_true] at retired
  rw [writerRuns, ← Option.not_isSome, retired.1]
  rfl

/-- A writer that runs has neither ended nor panicked. -/
theorem of_writerRuns {a : Attended} (runs : a.writerRuns = true) :
    a.session.outbound = none ∧ a.writerPanic = none := by
  simpa [writerRuns] using runs

/-- A writer that runs has not retired. -/
theorem hasRetired_of_writerRuns {a : Attended} (runs : a.writerRuns = true) :
    a.hasRetired = false := by
  rw [hasRetired, (of_writerRuns runs).1]
  rfl

section

variable {a : Attended} {hub : Hub} {t : Standing}

/-- The end of a session does not release its connection. Neither does that of one whose writer
panicked: the connection is unregistered then, but nobody marks it as closed. -/
theorem isReleased_finish (tidy : hub.Tidy) (known : (hub.standing? a.connection).isSome = true)
    (fits : hub.isReleased a.connection = a.hasRetired) :
    (a.finish hub).2.isReleased a.connection = (a.finish hub).1.hasRetired := by
  unfold finish
  cases panic : a.writerPanic with
  | none =>
    obtain ⟨l, quiet, handled⟩ := a.session.handled_finish tidy
    refine (handled.isReleased_of_quiet known quiet).trans (fits.trans ?_)
    rw [withSession, hasRetired, hasRetired, a.session.outbound_finish]
  | some reason =>
    have unreleased : hub.isReleased a.connection = false := by simp [fits, hasRetired, panic]
    dsimp only
    by_cases able : (a.session.inbound.isSome && !a.session.isOver) = true
    · have noted := (Hub.Handled.refl tidy a.connection).note (.writerFailed a.connection reason)
      have crashed := noted.trans (.of_handle noted.tidy _ .unregister)
      have gone := crashed.trans (.of_handle crashed.tidy _ .dropQueue)
      obtain ⟨l, quiet, handled⟩ := (a.session.crash hub reason).1.handled_finish gone.tidy
      have same := (gone.trans handled).isReleased_of_quiet known (by simpa using quiet)
      rw [if_pos able]
      refine same.trans (unreleased.trans ?_)
      simp [withSession, hasRetired, panic]
    · rw [if_neg able]
      exact fits

/-- What a running writer does releases the connection if it ends the writer. -/
theorem isReleased_withSession_write (tidy : hub.Tidy)
    (known : (hub.standing? a.connection).isSome = true) (runs : a.writerRuns = true)
    (unreleased : hub.isReleased a.connection = false) (now : Duration) (writing : Writing) :
    let after := a.withSession (a.session.write hub now writing)
    after.2.isReleased a.connection = after.1.hasRetired := by
  obtain ⟨running, calm⟩ := of_writerRuns runs
  simp only [withSession, hasRetired, calm]
  exact (Session.isReleased_write tidy known running unreleased now writing).trans
    (Bool.and_true _).symm

/-- A session releases its connection in the step in which its writer ends. -/
theorem isReleased_step (tidy : hub.Tidy) (hs : hub.standing? a.connection = some t)
    (fits : hub.isReleased a.connection = a.hasRetired) (event : SessionEvent) :
    (a.step hub event).2.isReleased a.connection = (a.step hub event).1.hasRetired := by
  have known : (hub.standing? a.connection).isSome = true := by rw [hs]; rfl
  cases event with
  | read now reading =>
    simp only [step]
    split
    case isFalse => exact fits
    case isTrue =>
      simp only [withSession, hasRetired, Session.read]
      cases (a.session.reader.react a.session.settings now reading).1 with
      | stop exit =>
        have handled := Hub.Handled.of_handle tidy a.connection .unregister
        exact (handled.isReleased_of_quiet known rfl).trans fits
      | _ => exact fits
  | answer conversation result =>
    simp only [step]
    split
    case isFalse => exact fits
    case isTrue =>
      simp only [withSession, hasRetired, Session.answer]
      split <;> exact fits
  | turn now =>
    simp only [step]
    split
    case isFalse => exact fits
    case isTrue able =>
      have runs : a.writerRuns = true := (Bool.and_eq_true_iff.mp able).1
      have unreleased := fits.trans (hasRetired_of_writerRuns runs)
      unfold Session.takeTurn
      cases turn : a.session.turn? hub now with
      | none => exact fits
      | some found =>
        obtain ⟨tidy', known', same⟩ := Session.isReleased_turn tidy hs turn
        exact isReleased_withSession_write tidy' known' runs (same.trans unreleased) now _
  | outcome now outcome =>
    simp only [step]
    split
    case isFalse => exact fits
    case isTrue able =>
      have runs : a.writerRuns = true := (Bool.and_eq_true_iff.mp able).1
      have unreleased := fits.trans (hasRetired_of_writerRuns runs)
      exact isReleased_withSession_write tidy known runs unreleased now _
  | readerPanics =>
    simp only [step]
    split <;> exact fits
  | writerPanics reason =>
    simp only [step]
    split
    case isFalse => exact fits
    case isTrue able =>
      have handled := Hub.Handled.of_handle tidy a.connection .dropQueue
      refine (handled.isReleased_of_quiet known rfl).trans (fits.trans ?_)
      rw [hasRetired_of_writerRuns able]
      exact (Bool.and_false _).symm
  | finish => exact isReleased_finish tidy known fits

end

/-- After its writer has ended of its own accord, no step of a session is one of the writer. -/
theorem step_of_hasRetired {a : Attended} (retired : a.hasRetired = true) (hub : Hub)
    (event : SessionEvent) :
    (a.step hub event).1.hasRetired = true ∧
      (a.step hub event).1.session.writer = a.session.writer := by
  have rests := writerRuns_of_hasRetired retired
  cases event with
  | read now reading =>
    simp only [step]
    split
    · simp only [withSession, hasRetired, Session.read]
      split <;> exact ⟨retired, rfl⟩
    · exact ⟨retired, rfl⟩
  | answer conversation result =>
    simp only [step]
    split
    · simp only [withSession, hasRetired, Session.answer]
      split <;> exact ⟨retired, rfl⟩
    · exact ⟨retired, rfl⟩
  | turn now => simp [step, rests, retired]
  | outcome now outcome => simp [step, rests, retired]
  | readerPanics =>
    simp only [step]
    split <;> exact ⟨retired, rfl⟩
  | writerPanics reason => simp [step, rests, retired]
  | finish =>
    have calm : a.writerPanic = none := by
      rw [hasRetired, Bool.and_eq_true, Option.isNone_iff_eq_none] at retired
      exact retired.2
    have same : a.step hub .finish = a.withSession (a.session.finish hub) := by
      simp only [step, finish, calm]
    rw [same]
    refine ⟨?_, ?_⟩
    · rwa [withSession, hasRetired, a.session.outbound_finish]
    · simp only [withSession, Session.finish]
      split <;> rfl

end Attended

/-! ### All sessions -/

namespace Switchboard

/-- The connection of every session is released exactly if the writer has ended of its own
accord. -/
def Marked (b : Switchboard) : Prop :=
  ∀ c a, b.sessions[c]? = some a → b.hub.isReleased c = a.hasRetired

variable {b : Switchboard}

/-- Connections stay marked as their writers retire when a session is started. -/
theorem Marked.start (marked : b.Marked) (sound : b.Sound) (user : UserId) (settings : Settings)
    (now : Duration) : (b.step (.start user settings now)).Marked := by
  intro c a found
  have hsessions : (b.step (.start user settings now)).sessions
      = b.sessions ++ [{ session := (Session.start b.hub user settings now).1 }] := rfl
  rw [hsessions] at found
  rw [Hub.isReleased, standing?_start b sound.tidy, sound.length]
  by_cases hc : c = b.sessions.length
  · rw [hc, List.getElem?_concat_length] at found
    obtain rfl := Option.some.inj found
    rw [if_pos hc]
    rfl
  · have earlier : c < b.sessions.length := by
      have inside := (List.getElem?_eq_some_iff.mp found).1
      rw [List.length_append, List.length_singleton] at inside
      exact Nat.lt_of_le_of_ne (Nat.le_of_lt_succ inside) hc
    rw [List.getElem?_append_left earlier] at found
    rw [if_neg hc]
    exact marked c a found

/-- Connections stay marked as their writers retire when a session takes a step. -/
theorem Marked.session (marked : b.Marked) (sound : b.Sound) (id : ConnectionId)
    (event : SessionEvent) : (b.step (.session id event)).Marked := by
  intro c a found
  have alike := alike_session sound id event
  by_cases hc : c = id
  · subst hc
    cases before : b.sessions[c]? with
    | none =>
      rw [step_session_of_none before, before] at found
      cases found
    | some a₀ =>
      obtain ⟨own, t, hs, -⟩ := sound.each c a₀ before
      subst own
      have after : b.step (.session a₀.connection event)
          = ⟨(a₀.step b.hub event).2, b.sessions.set a₀.connection (a₀.step b.hub event).1⟩ := by
        simp [step, before]
      rw [after, List.getElem?_set_self (List.getElem?_eq_some_iff.mp before).1] at found
      obtain rfl := Option.some.inj found
      rw [after]
      exact Attended.isReleased_step sound.tidy hs (marked _ a₀ before) event
  · rw [← alike.sessions c hc] at found
    rw [Hub.isReleased, ← alike.standing c hc]
    exact marked c a found

/-- Connections stay marked as their writers retire when something happens elsewhere. -/
theorem Marked.elsewhere (marked : b.Marked) (sound : b.Sound) (event : HubEvent) :
    (b.step (.elsewhere event)).Marked := by
  intro c a found
  rw [sessions_elsewhere] at found
  rw [← marked c a found, Hub.isReleased, Hub.isReleased, standing?_elsewhere sound,
    Option.any_map]
  congr 1
  funext s
  refine decide_eq_decide.mpr ?_
  rw [metElsewhere]
  split
  case isFalse => exact Iff.rfl
  case isTrue outside =>
    cases means : event.moment? c s.user with
    | none => exact Iff.rfl
    | some m =>
      refine (s.phase_meet_eq_closed_iff m).trans (or_iff_left ?_)
      rintro rfl
      rcases HubEvent.handled_of_isOutside outside means with same | same <;> cases same

/-- Connections stay marked as their writers retire, whatever happens. -/
theorem Marked.step (marked : b.Marked) (sound : b.Sound) (event : SwitchEvent) :
    (b.step event).Marked := by
  cases event with
  | start user settings now => exact marked.start sound user settings now
  | session id event => exact marked.session sound id event
  | elsewhere event => exact marked.elsewhere sound event

/-- In any run connections are marked as their writers retire. -/
theorem Marked.run (marked : b.Marked) (sound : b.Sound) (events : List SwitchEvent) :
    (b.run events).Marked := by
  induction events generalizing b with
  | nil => exact marked
  | cons event rest ih => exact ih (marked.step sound event) (sound.step event)

/-- What has become of a session whose writer has ended, after whatever event. -/
theorem step_of_hasRetired {c : ConnectionId} {a : Attended} (found : b.sessions[c]? = some a)
    (retired : a.hasRetired = true) (event : SwitchEvent) :
    ∃ a', (b.step event).sessions[c]? = some a' ∧ a'.hasRetired = true ∧
      a'.session.writer = a.session.writer := by
  have inside : c < b.sessions.length := (List.getElem?_eq_some_iff.mp found).1
  cases event with
  | start user settings now =>
    refine ⟨a, ?_, retired, rfl⟩
    simp only [step]
    rw [List.getElem?_append_left inside, found]
  | elsewhere event => exact ⟨a, (sessions_elsewhere b event).symm ▸ found, retired, rfl⟩
  | session id event =>
    by_cases hc : c = id
    · subst hc
      refine ⟨(a.step b.hub event).1, ?_, Attended.step_of_hasRetired retired b.hub event⟩
      simp only [step, found]
      exact List.getElem?_set_self inside
    · refine ⟨a, ?_, retired, rfl⟩
      cases other : b.sessions[id]? with
      | none => rwa [step_session_of_none other]
      | some d =>
        simp only [step, other]
        rw [List.getElem?_set_ne (Ne.symm hc), found]

/-- A writer that has retired does nothing in the rest of a run. -/
theorem run_of_hasRetired {c : ConnectionId} {a : Attended} (found : b.sessions[c]? = some a)
    (retired : a.hasRetired = true) (events : List SwitchEvent) :
    ∃ a', (b.run events).sessions[c]? = some a' ∧ a'.hasRetired = true ∧
      a'.session.writer = a.session.writer := by
  induction events generalizing b a with
  | nil => exact ⟨a, found, retired, rfl⟩
  | cons event rest ih =>
    obtain ⟨a₁, found₁, retired₁, writer₁⟩ := step_of_hasRetired found retired event
    obtain ⟨a', found', retired', writer'⟩ := ih found₁ retired₁
    exact ⟨a', found', retired', writer'.trans writer₁⟩

/-- A step that a session cannot take leaves everything as it is. -/
theorem step_session_of_same {c : ConnectionId} {a : Attended} (found : b.sessions[c]? = some a)
    {event : SessionEvent} (same : a.step b.hub event = (a, b.hub)) :
    b.step (.session c event) = b := by
  obtain ⟨inside, rfl⟩ := List.getElem?_eq_some_iff.mp found
  simp only [step, found, same]
  rw [List.set_getElem_self inside]

/-- **A released connection is written to no more.** After any run of any sessions, with panics and
all, the connection of a session is in its last phase exactly if the writer of the session has ended
and did not panic. From then on, whatever happens, the connection stays in that phase, the writer
has nothing under way that it had not before, and it neither takes up anything to write nor sees the
end of a write. -/
theorem writer_done_of_released (events : List SwitchEvent) (c : ConnectionId) (a : Attended)
    (found : (empty.run events).sessions[c]? = some a) :
    ((empty.run events).hub.isReleased c = true ↔
      a.session.outbound.isSome = true ∧ a.writerPanic = none) ∧
    ((empty.run events).hub.isReleased c = true → ∀ later : List SwitchEvent,
      let b := (empty.run events).run later
      b.hub.isReleased c = true ∧
        (∃ a', b.sessions[c]? = some a' ∧ a'.session.writer = a.session.writer) ∧
        (∀ now, b.step (.session c (.turn now)) = b) ∧
        ∀ now outcome, b.step (.session c (.outcome now outcome)) = b) := by
  have sound : (empty.run events).Sound := sound_empty.run events
  have marked : (empty.run events).Marked :=
    Marked.run (fun _ _ h => by simp [empty] at h) sound_empty events
  refine ⟨?_, fun released later => ?_⟩
  · rw [marked c a found, Attended.hasRetired, Bool.and_eq_true, Option.isNone_iff_eq_none]
  · rw [marked c a found] at released
    obtain ⟨a', found', retired', writer'⟩ := run_of_hasRetired found released later
    have rests := Attended.writerRuns_of_hasRetired retired'
    refine ⟨?_, ⟨a', found', writer'⟩, fun now => ?_, fun now outcome => ?_⟩
    · rw [(marked.run sound later) c a' found', retired']
    · exact step_session_of_same found' (by simp [Attended.step, rests])
    · exact step_session_of_same found' (by simp [Attended.step, rests])

/-- A session whose writer is refused its first frame, while a post of the peer is on the way. The
connection is in its last phase, and the reader, which has not looked at the signal yet, takes the
frame from the socket and has its content posted. -/
theorem reads_after_release :
    let post : Frame := .text
      "[\"send_message\",\"00000000-0000-0000-0000-000000000007\",\"late\"]"
    let b := empty.run [.start ⟨1⟩ {} 0, .elsewhere (.enqueue 0 (.newMessage ⟨7⟩ .null)),
      .session 0 (.turn 0), .session 0 (.outcome 0 (.refused "broken pipe"))]
    b.hub.isReleased 0 = true ∧
      (b.sessions[0]?.map fun a => (a.session.read b.hub 0 (.frame post)).1) =
        some (.post ⟨7⟩ "late") ∧
      ((b.step (.session 0 (.read 0 (.frame post)))).sessions[0]?.map fun a =>
        a.session.reader.awaiting) = some true := by
  decide +kernel

end Switchboard

end Parley
