import Parley.Proofs.Session.ReaderTrace

/-!
# The deadline of a reader

A run is `punctual` when time passes only while the reader waits, and for no longer than to its
deadline, so that all it does takes no time; and when nothing comes to the reader at the very
deadline, where it would be open what it finds first.

In punctual runs the deadline is always the pong wait after the last sign of the peer
(`ReaderRun.lastSign`), which is the start or the last pong that was read, and all that arrives is
taken at the time of its arrival (`ReaderRun.Watched`). So at any time the reader still waits, or
was timed out at its deadline, or was stopped before. `reader_deadline` says which, by what came
before the deadline.
-/

namespace Parley

open Loopback (Arrival)

namespace ReaderRun

/-! ### Punctual runs -/

/-- Whether the reader waits, with nothing to act on. -/
def isIdle (r : ReaderRun) : Bool := r.isLooking && !r.isSignalled && r.inbox.isEmpty

/-- Whether a span passes in time: while the reader runs, only where it waits, and no longer than to
its deadline. -/
def waits (r : ReaderRun) (span : Duration) : Bool :=
  r.hasEnded || r.isIdle && decide (r.now + span ≤ r.session.reader.deadline)

/-- Whether the reader has ended or is not at its very deadline. -/
def isClear (r : ReaderRun) : Bool :=
  r.hasEnded || decide (r.now ≠ r.session.reader.deadline)

/-- Whether an event is as in a punctual run. -/
def isPunctual (r : ReaderRun) : ReaderEvent → Bool
  | .elsewhere event => r.isClear || (r.elsewhere event).isSignalled == r.isSignalled
  | .arrives _ => r.isClear
  | .looks _ | .answered _ => true
  | .passes span => r.waits span

/-- Whether all events of a run are as in a punctual run. -/
def punctual (r : ReaderRun) : List ReaderEvent → Bool
  | [] => true
  | event :: rest => r.isPunctual event && (r.step event).punctual rest

/-- When there was the last sign of the peer: at the start, or when the last pong was read. -/
def lastSign (began : Duration) (r : ReaderRun) : Duration :=
  (r.readings.filter fun x => x.what.isPong).getLast?.elim began fun x => max began x.time

variable {r : ReaderRun} {user : UserId} {fresh : Allowance} {settings : Settings}
  {began : Duration}

/-! ### The deadline and what was taken before it -/

/-- Of all that a reader acts on, only a pong moves its deadline. -/
theorem deadline_act (r : ReaderRun) (reading : Reading) :
    (r.act reading).session.reader.deadline =
      if reading.isPong then r.now + r.session.settings.pongWait
      else r.session.reader.deadline := by
  rw [act_eq]
  exact Reader.deadline_react ..

/-- Of all that a reader acts on, only a pong is a sign of the peer. -/
theorem lastSign_act (r : ReaderRun) (reading : Reading) :
    (r.act reading).lastSign began =
      if reading.isPong then max began r.now else r.lastSign began := by
  rw [lastSign, readings_act, List.filter_append]
  cases pong : reading.isPong with
  | false => simp [pong, lastSign]
  | true => simp [pong]

/-- The deadline is the pong wait after the last sign of the peer, and what was taken was taken
before it. -/
structure Marked (settings : Settings) (began : Duration) (r : ReaderRun) : Prop where
  same : r.session.settings = settings
  past : began ≤ r.now
  recent : r.lastSign began ≤ r.now
  deadline : r.session.reader.deadline = r.lastSign began + settings.pongWait
  early : ∀ a ∈ r.taken, a.time < r.session.reader.deadline
  pongs : ∀ a ∈ r.taken, a.what.reading.isPong = true → a.time ≤ r.lastSign began

/-- The deadline never moves back. -/
theorem Marked.le_deadline_act (marked : r.Marked settings began) (reading : Reading) :
    r.session.reader.deadline ≤ (r.act reading).session.reader.deadline := by
  rw [deadline_act, marked.same]
  split_ifs
  · rw [marked.deadline]
    exact Nat.add_le_add_right marked.recent _
  · exact Nat.le_refl _

/-- What a reader takes before its deadline is taken before the next one, too. -/
theorem Marked.act (marked : r.Marked settings began) (reading : Reading)
    (inTime : reading.arrival?.isSome = true → r.now < r.session.reader.deadline) :
    (r.act reading).Marked settings began := by
  have later := marked.le_deadline_act reading
  have same : (r.act reading).session.settings = settings := by
    rw [act_eq]
    exact marked.same
  have taken : ∀ a ∈ (r.act reading).taken,
      a ∈ r.taken ∨ a.time = r.now ∧ reading = a.what.reading := by
    intro a inside
    rw [taken_act, List.mem_append] at inside
    refine inside.imp_right fun last => ?_
    obtain ⟨b, arrived, rfl⟩ := Option.map_eq_some_iff.mp (Option.mem_toList.mp last)
    exact ⟨rfl, Reading.eq_of_arrival? arrived⟩
  have lastSign : (r.act reading).lastSign began = _ := lastSign_act r reading
  rw [Nat.max_eq_right marked.past] at lastSign
  refine ⟨same, marked.past, ?recent, ?deadline, fun a inside => ?early,
    fun a inside pong => ?pongs⟩
  case recent =>
    rw [lastSign]
    split_ifs
    · exact Nat.le_refl _
    · exact marked.recent
  case deadline =>
    rw [lastSign, deadline_act, marked.same]
    split_ifs
    · rfl
    · exact marked.deadline
  case early =>
    rcases taken a inside with before | ⟨now, rfl⟩
    · exact Nat.lt_of_lt_of_le (marked.early a before) later
    · rw [now]
      exact Nat.lt_of_lt_of_le (inTime (by simp)) later
  case pongs =>
    rw [lastSign]
    rcases taken a inside with before | ⟨now, rfl⟩
    · split_ifs
      · exact Nat.le_trans (marked.pongs a before pong) marked.recent
      · exact marked.pongs a before pong
    · rw [if_pos pong]
      exact Nat.le_of_eq now

/-! ### How a punctual run stands -/

/-- A reader that has not ended. What is left in its socket has just arrived, and a signal has just
been raised, neither of them at the deadline. -/
structure Waiting (r : ReaderRun) : Prop where
  runs : r.session.inbound = none
  inTime : r.now ≤ r.session.reader.deadline
  left : ∀ a ∈ r.inbox, a.time = r.now ∧ r.now < r.session.reader.deadline
  raised : r.isSignalled = r.alarm.isSome
  alarmed : ∀ t ∈ r.alarm, t = r.now ∧ r.now < r.session.reader.deadline

/-- A reader that was timed out at its deadline, before which nothing had put an end to it. -/
structure TimedOut (r : ReaderRun) : Prop where
  exit : r.exit? = some ⟨r.session.reader.deadline, .failed .timedOut⟩
  late : r.session.reader.deadline ≤ r.now
  left : ∀ a ∈ r.inbox, r.session.reader.deadline ≤ a.time
  quiet : r.alarm = none
  going : ∀ a ∈ r.taken, a.what.reading.exit? = none

/-- A reader that was stopped before its deadline, by what it took or by the signal. -/
structure Stopped (r : ReaderRun) : Prop where
  ended : r.hasEnded = true
  other : ∀ time, r.exit? ≠ some ⟨time, .failed .timedOut⟩
  cause : (∃ a ∈ r.taken, a.what.reading.exit? ≠ none) ∨
    ∃ t ∈ r.alarm, t < r.session.reader.deadline

/-- What holds throughout a punctual run. -/
structure Watched (user : UserId) (fresh : Allowance) (settings : Settings) (began : Duration)
    (r : ReaderRun) : Prop where
  sound : r.Sound user fresh
  marked : r.Marked settings began
  account : r.arrived = r.taken ++ r.inbox
  status : r.Waiting ∨ r.TimedOut ∨ r.Stopped

/-- A reader that has timed out has ended. -/
theorem TimedOut.hasEnded (timedOut : r.TimedOut) (sound : r.Sound user fresh) :
    r.hasEnded = true := by
  rw [ReaderRun.hasEnded, sound.exit, timedOut.exit]
  rfl

/-- The alarm tells when others raise the signal. -/
theorem alarm_elsewhere (r : ReaderRun) (event : HubEvent) :
    (r.elsewhere event).alarm =
      if !r.isSignalled && (r.elsewhere event).isSignalled then some r.now else r.alarm :=
  rfl

/-- What is left as it is once a reader has ended: all it has found, its deadline, and who raised
the signal before. What still arrives comes into its socket. -/
theorem Sound.rests (sound : r.Sound user fresh) (ended : r.hasEnded = true) (event : ReaderEvent) :
    let r' := r.step event
    r'.readings = r.readings ∧ r'.session.reader.deadline = r.session.reader.deadline ∧
      r'.alarm = r.alarm ∧ r.now ≤ r'.now ∧ ∀ a ∈ r'.inbox, a ∈ r.inbox ∨ a.time = r.now := by
  cases event with
  | elsewhere event =>
    refine ⟨rfl, rfl, ?_, Nat.le_refl _, fun a inside => .inl inside⟩
    change (r.elsewhere event).alarm = r.alarm
    rw [alarm_elsewhere, (sound.off ended).1]
    rfl
  | arrives arrival =>
    refine ⟨rfl, rfl, rfl, Nat.le_refl _, fun a inside => ?_⟩
    exact (List.mem_append.mp inside).imp_right fun last => by rw [List.mem_singleton.mp last]
  | looks outlook =>
    rw [ReaderRun.step, look_of_hasEnded ended]
    exact ⟨rfl, rfl, rfl, Nat.le_refl _, fun a inside => .inl inside⟩
  | answered result =>
    rcases r.answer_cases result with kept | ⟨log, answered⟩
    · rw [ReaderRun.step, kept]
      exact ⟨rfl, rfl, rfl, Nat.le_refl _, fun a inside => .inl inside⟩
    · rw [ReaderRun.step, answered]
      exact ⟨rfl, rfl, rfl, Nat.le_refl _, fun a inside => .inl inside⟩
  | passes span => exact ⟨rfl, rfl, rfl, Nat.le_add_right _ _, fun a inside => .inl inside⟩

/-- A reader that has timed out stays so. -/
theorem TimedOut.step (timedOut : r.TimedOut) (sound : r.Sound user fresh) (event : ReaderEvent) :
    (r.step event).TimedOut := by
  obtain ⟨readings, deadline, alarm, now, inbox⟩ := sound.rests (timedOut.hasEnded sound) event
  refine ⟨?_, ?_, fun a inside => ?_, alarm.trans timedOut.quiet, ?_⟩
  · rw [exit?, readings, deadline]
    exact timedOut.exit
  · rw [deadline]
    exact Nat.le_trans timedOut.late now
  · rw [deadline]
    rcases inbox a inside with before | last
    · exact timedOut.left a before
    · rw [last]
      exact timedOut.late
  · rw [taken, readings]
    exact timedOut.going

/-- A reader that was stopped before its deadline stays so. -/
theorem Stopped.step (stopped : r.Stopped) (sound : r.Sound user fresh) (event : ReaderEvent) :
    (r.step event).Stopped := by
  obtain ⟨readings, deadline, alarm, -, -⟩ := sound.rests stopped.ended event
  obtain ⟨-, -, inbound⟩ := step_of_hasEnded stopped.ended event
  refine ⟨?_, ?_, ?_⟩
  · rw [ReaderRun.hasEnded, inbound]
    exact stopped.ended
  · rw [exit?, readings]
    exact stopped.other
  · rw [taken, readings, deadline, alarm]
    exact stopped.cause

/-! ### What happens to a reader that has not ended -/

/-- A reader that waits has not ended. -/
theorem Waiting.hasEnded (waiting : r.Waiting) : r.hasEnded = false := by
  rw [ReaderRun.hasEnded, waiting.runs]
  rfl

/-- At the deadline nobody else raises the signal. -/
theorem Waiting.elsewhere (waiting : r.Waiting) (sound : r.Sound user fresh) {event : HubEvent}
    (punctual : r.isPunctual (.elsewhere event) = true) : (r.elsewhere event).Waiting := by
  have raised := waiting.raised
  have alarm := r.alarm_elsewhere event
  -- only where the signal was down before and is up after has somebody else raised it just now
  cases before : r.isSignalled with
  | true =>
    have after : (r.elsewhere event).isSignalled = true :=
      Hub.isClosed_after sound.tidy before event
    rw [before, Bool.not_true, Bool.false_and, if_neg Bool.false_ne_true] at alarm
    refine ⟨waiting.runs, waiting.inTime, waiting.left, ?_, ?_⟩
    · rw [after, alarm, ← raised, before]
    · rw [alarm]
      exact waiting.alarmed
  | false =>
    rw [before, Bool.not_false, Bool.true_and] at alarm
    rw [before, eq_comm, Option.isSome_eq_false_iff, Option.isNone_iff_eq_none] at raised
    cases after : (r.elsewhere event).isSignalled with
    | true =>
      rw [after, if_pos rfl] at alarm
      have early : r.now < r.session.reader.deadline := by
        refine Nat.lt_of_le_of_ne waiting.inTime ?_
        simpa [isPunctual, isClear, waiting.hasEnded, after, before] using punctual
      refine ⟨waiting.runs, waiting.inTime, waiting.left, ?_, ?_⟩
      · rw [after, alarm]
        rfl
      · rw [alarm]
        rintro t ⟨rfl⟩
        exact ⟨rfl, early⟩
    | false =>
      rw [after, if_neg Bool.false_ne_true, raised] at alarm
      refine ⟨waiting.runs, waiting.inTime, waiting.left, ?_, ?_⟩
      · rw [after, alarm]
        rfl
      · rw [alarm]
        exact nofun

/-- Nothing arrives at the deadline. -/
theorem Waiting.arrives (waiting : r.Waiting) (clear : r.isClear = true) (arrival : Arrival) :
    (r.step (.arrives arrival)).Waiting := by
  have early : r.now < r.session.reader.deadline := by
    refine Nat.lt_of_le_of_ne waiting.inTime ?_
    simpa [isClear, waiting.hasEnded] using clear
  refine ⟨waiting.runs, waiting.inTime, ?_, waiting.raised, waiting.alarmed⟩
  exact List.forall_mem_append.mpr ⟨waiting.left, List.forall_mem_singleton.mpr ⟨rfl, early⟩⟩

/-- Time passes only while nothing is left in the socket and the signal is down. -/
theorem Waiting.passes (waiting : r.Waiting) {span : Duration} (waits : r.waits span = true) :
    (r.step (.passes span)).Waiting := by
  simp only [ReaderRun.waits, waiting.hasEnded, Bool.false_or, isIdle, Bool.and_eq_true,
    decide_eq_true_eq, Bool.not_eq_true', List.isEmpty_iff] at waits
  obtain ⟨⟨⟨-, down⟩, empty⟩, inTime⟩ := waits
  have raised := waiting.raised
  rw [down, eq_comm, Option.isSome_eq_false_iff, Option.isNone_iff_eq_none] at raised
  refine ⟨waiting.runs, inTime, ?_, waiting.raised, ?_⟩
  · change ∀ a ∈ r.inbox, _
    rw [empty]
    exact nofun
  · change ∀ t ∈ r.alarm, _
    rw [raised]
    exact nofun

/-- A reader waits on after an answer. -/
theorem Waiting.answer (waiting : r.Waiting) (result : Except PostError Unit) :
    (r.answer result).Waiting := by
  rcases r.answer_cases result with kept | ⟨log, answered⟩
  · rwa [kept]
  · rw [answered]
    exact ⟨waiting.runs, waiting.inTime, waiting.left, waiting.raised, waiting.alarmed⟩

/-- What is taken from the socket before the deadline does not time the reader out: it stops it or
lets it go on. -/
theorem Waiting.take (waiting : r.Waiting) (marked : r.Marked settings began) {a : Timed Arrival}
    {rest : List (Timed Arrival)} (inbox : r.inbox = a :: rest) :
    let r' := { r with inbox := rest }.act a.what.reading
    r'.Waiting ∨ r'.Stopped := by
  intro r'
  obtain ⟨now, early⟩ := waiting.left a (inbox ▸ List.mem_cons_self)
  have later : r.session.reader.deadline ≤ r'.session.reader.deadline :=
    marked.le_deadline_act a.what.reading
  have early' : r.now < r'.session.reader.deadline := Nat.lt_of_lt_of_le early later
  have inbound : r'.session.inbound = a.what.reading.exit? := by
    rw [inbound_act]
    exact (congrArg _ waiting.runs).trans (Option.or_none ..)
  cases exit : a.what.reading.exit? with
  | none =>
    have hub : r'.hub = r.hub := by rw [hub_act, exit]; rfl
    have connection : r'.connection = r.connection := connection_act ..
    refine .inl ⟨inbound.trans exit, Nat.le_of_lt early', fun b inside => ?_, ?_,
      fun t raised => ?_⟩
    · have inside : b ∈ rest := inside
      exact ⟨(waiting.left b (inbox ▸ List.mem_cons_of_mem a inside)).1, early'⟩
    · rw [isSignalled, hub, connection]
      exact waiting.raised
    · exact ⟨(waiting.alarmed t raised).1, early'⟩
  | some e =>
    refine .inr ⟨?_, fun time timedOut => ?_, .inl ⟨⟨r.now, a.what⟩, ?_, by simp [exit]⟩⟩
    · rw [ReaderRun.hasEnded, inbound, exit]
      rfl
    · rw [exit?_act, exit, Option.map_some] at timedOut
      cases timedOut
      exact a.what.exit?_ne_timedOut exit
    · rw [taken_act, Arrival.arrival?_reading]
      exact List.mem_append_right _ List.mem_cons_self

/-- A signal that is found has been raised before the deadline. -/
theorem Waiting.heed (waiting : r.Waiting) (up : r.isSignalled = true) :
    (r.act .signal).Stopped := by
  have raised := waiting.raised
  rw [up, eq_comm, Option.isSome_iff_exists] at raised
  obtain ⟨t, alarm⟩ := raised
  obtain ⟨rfl, early⟩ := waiting.alarmed t alarm
  refine ⟨?_, fun time timedOut => ?_, .inr ⟨r.now, alarm, ?_⟩⟩
  · rw [ReaderRun.hasEnded, inbound_act]
    rfl
  · rw [exit?_act] at timedOut
    cases timedOut
  · rw [deadline_act]
    exact early

/-- At its deadline a reader finds nothing but that it is timed out. -/
theorem Waiting.expire (waiting : r.Waiting) (sound : r.Sound user fresh)
    (expired : r.session.reader.deadline ≤ r.now) : (r.act .expired).TimedOut := by
  -- so nothing is left in the socket and the signal is down: either would be before the deadline
  have now : r.now = r.session.reader.deadline := Nat.le_antisymm waiting.inTime expired
  have same : (r.act .expired).session.reader.deadline = r.session.reader.deadline :=
    deadline_act ..
  have taken : (r.act .expired).taken = r.taken := by
    rw [taken_act]
    exact List.append_nil _
  refine ⟨?_, ?_, fun a inside => ?_, ?_, fun a inside => ?_⟩
  · rw [exit?_act, same, ← now]
    rfl
  · rw [same]
    exact expired
  · exact absurd (waiting.left a inside).2 (Nat.not_lt_of_le expired)
  · refine Option.eq_none_iff_forall_not_mem.mpr fun t raised => ?_
    exact absurd (waiting.alarmed t raised).2 (Nat.not_lt_of_le expired)
  · rw [taken, ReaderRun.taken, List.mem_filterMap] at inside
    obtain ⟨x, found, last⟩ := inside
    obtain ⟨b, arrived, rfl⟩ := Option.map_eq_some_iff.mp last
    rw [← Reading.eq_of_arrival? arrived]
    exact sound.all_going waiting.runs x found

/-! ### Punctual runs are watched -/

/-- A watched reader that runs is waiting. -/
theorem Watched.waiting (watched : r.Watched user fresh settings began)
    (runs : r.session.inbound = none) : r.Waiting := by
  have running : r.hasEnded ≠ true := by simp [ReaderRun.hasEnded, runs]
  rcases watched.status with waiting | timedOut | stopped
  · exact waiting
  · exact absurd (timedOut.hasEnded watched.sound) running
  · exact absurd stopped.ended running

/-- A reader is watched from its start. -/
theorem watched_start {hub : Hub} (tidy : hub.Tidy) (user : UserId) (settings : Settings)
    (capacity : Nat) (began : Duration) :
    (start hub user settings capacity began).Watched user
      { limit := settings.rateLimitCount, window := settings.rateLimitWindow } settings began := by
  refine ⟨sound_start tidy user settings capacity began, ?marked, rfl, .inl ?waiting⟩
  case marked => exact ⟨rfl, Nat.le_refl _, Nat.le_refl _, rfl, nofun, nofun⟩
  case waiting =>
    refine ⟨rfl, Nat.le_add_right _ _, nofun, ?_, nofun⟩
    have opened := Hub.standing?_openFor tidy user capacity hub.connections.length
    rw [if_pos rfl] at opened
    change ((hub.openFor user capacity).2.connection? hub.connections.length).any _ = false
    rw [Hub.connection?_eq_standing?, opened]
    rfl

/-- A watched reader is still watched after a look. -/
theorem Watched.look (watched : r.Watched user fresh settings began) (outlook : Outlook) :
    (r.look outlook).Watched user fresh settings began := by
  rcases r.look_cases outlook with kept | ⟨reading, inbox, looking, found, acts⟩
  · rwa [kept]
  have sound := watched.sound.look outlook
  have waiting := watched.waiting (inbound_of_isLooking looking)
  have account := watched.account
  have marked := watched.marked
  have marked' : ({ r with inbox } : ReaderRun).Marked settings began :=
    ⟨marked.same, marked.past, marked.recent, marked.deadline, marked.early, marked.pongs⟩
  rw [acts] at sound ⊢
  rcases find?_cases found with ⟨a, first, rfl⟩ | ⟨rfl, ⟨rfl, up⟩ | ⟨rfl, expired⟩⟩
  · -- what is left in the socket has just arrived, so its time is that of the reading
    obtain ⟨now, early⟩ := waiting.left a (first ▸ List.mem_cons_self)
    refine ⟨sound, marked'.act _ fun _ => early, ?_, (waiting.take marked first).imp_right .inr⟩
    rw [taken_act, Arrival.arrival?_reading, List.append_assoc]
    refine account.trans ?_
    rw [first]
    exact congrArg (fun b => r.taken ++ b :: inbox) (by rw [← now])
  · refine ⟨sound, marked.act _ nofun, ?_, .inr (.inr (waiting.heed up))⟩
    rw [taken_act]
    exact account.trans (congrArg (· ++ r.inbox) (List.append_nil _).symm)
  · refine ⟨sound, marked.act _ nofun, ?_, .inr (.inl (waiting.expire watched.sound expired))⟩
    rw [taken_act]
    exact account.trans (congrArg (· ++ r.inbox) (List.append_nil _).symm)

/-- How a run stands after an event other than a look, where it is known how a reader stands that
has not ended. -/
theorem Watched.status_step (watched : r.Watched user fresh settings began) (event : ReaderEvent)
    (waiting : r.Waiting → (r.step event).Waiting) :
    (r.step event).Waiting ∨ (r.step event).TimedOut ∨ (r.step event).Stopped :=
  watched.status.imp waiting fun ended =>
    ended.imp (·.step watched.sound event) (·.step watched.sound event)

/-- A watched reader is still watched after a step of a punctual run. -/
theorem Watched.step (watched : r.Watched user fresh settings began) {event : ReaderEvent}
    (punctual : r.isPunctual event = true) :
    (r.step event).Watched user fresh settings began := by
  have sound := watched.sound.step event
  obtain ⟨same, past, recent, deadline, early, pongs⟩ := watched.marked
  cases event with
  | elsewhere event =>
    refine ⟨sound, ⟨same, past, recent, deadline, early, pongs⟩, watched.account, ?_⟩
    exact watched.status_step _ fun waiting => waiting.elsewhere watched.sound punctual
  | arrives arrival =>
    refine ⟨sound, ⟨same, past, recent, deadline, early, pongs⟩, ?_, ?_⟩
    · rw [ReaderRun.step, ← List.append_assoc]
      exact congrArg (· ++ _) watched.account
    · exact watched.status_step _ fun waiting => waiting.arrives punctual arrival
  | looks outlook => exact watched.look outlook
  | answered result =>
    have status := watched.status_step (.answered result) fun waiting => waiting.answer result
    rw [ReaderRun.step] at sound status ⊢
    rcases r.answer_cases result with kept | ⟨log, answered⟩
    · rwa [kept]
    · rw [answered] at sound status ⊢
      exact ⟨sound, ⟨same, past, recent, deadline, early, pongs⟩, watched.account, status⟩
  | passes span =>
    refine ⟨sound, ⟨same, Nat.le_add_right_of_le past, Nat.le_add_right_of_le recent, deadline,
      early, pongs⟩, watched.account, ?_⟩
    exact watched.status_step _ fun waiting => waiting.passes punctual

/-- A reader is watched throughout a punctual run. -/
theorem Watched.run (watched : r.Watched user fresh settings began) {events : List ReaderEvent}
    (punctual : r.punctual events = true) :
    (r.run events).Watched user fresh settings began := by
  induction events generalizing r with
  | nil => exact watched
  | cons event rest ih =>
    rw [ReaderRun.punctual, Bool.and_eq_true] at punctual
    exact ih (watched.step punctual.1) punctual.2

/-- A reader that waits and that nothing more comes to is timed out at its deadline. -/
theorem Waiting.exit?_of_isIdle (waiting : r.Waiting) (idle : r.isIdle = true) :
    let silence : List ReaderEvent :=
      [.passes (r.session.reader.deadline - r.now), .looks .clock]
    r.punctual silence = true ∧
      (r.run silence).exit? = some ⟨r.session.reader.deadline, .failed .timedOut⟩ := by
  intro silence
  have now : r.now + (r.session.reader.deadline - r.now) = r.session.reader.deadline :=
    Nat.add_sub_of_le waiting.inTime
  have waits : r.waits (r.session.reader.deadline - r.now) = true := by
    rw [ReaderRun.waits, idle, now, decide_eq_true (Nat.le_refl _)]
    exact Bool.or_true _
  let r' : ReaderRun := { r with now := r.now + (r.session.reader.deadline - r.now) }
  have looking : r'.isLooking = true := by
    simp only [isIdle, Bool.and_eq_true] at idle
    exact idle.1.1
  have found : r'.find? .clock = some (.expired, r'.inbox) := if_pos (Nat.le_of_eq now.symm)
  have looks : r.run silence = r'.act .expired := by
    change r'.look .clock = _
    rw [look, if_pos looking, found]
  refine ⟨?_, ?_⟩
  · rw [punctual, isPunctual, waits]
    rfl
  · rw [looks, exit?_act, ← now]
    rfl

/-- A punctual run is timed out at its deadline or not at all, and it is exactly if nothing that
stops a reader came before, and no pong after the last one that was read. -/
theorem Watched.exit?_iff (watched : r.Watched user fresh settings began)
    (ended : r.hasEnded = true) :
    (∀ time, r.exit? = some ⟨time, .failed .timedOut⟩ → time = r.session.reader.deadline) ∧
      (r.exit? = some ⟨r.session.reader.deadline, .failed .timedOut⟩ ↔
        (∀ a ∈ r.arrived, a.time < r.session.reader.deadline → a.what.reading.exit? = none ∧
          (a.what.reading.isPong = true → a.time ≤ r.lastSign began)) ∧
        ∀ t ∈ r.alarm, r.session.reader.deadline ≤ t) := by
  have marked := watched.marked
  rw [watched.account]
  rcases watched.status with waiting | timedOut | stopped
  · rw [waiting.hasEnded] at ended
    cases ended
  · refine ⟨fun time exit => ?_, iff_of_true timedOut.exit ⟨fun a inside early => ?_, ?_⟩⟩
    · rw [timedOut.exit, Option.some_inj, Timed.mk.injEq] at exit
      exact exit.1.symm
    · rcases List.mem_append.mp inside with taken | left
      · exact ⟨timedOut.going a taken, marked.pongs a taken⟩
      · exact absurd early (Nat.not_lt_of_le (timedOut.left a left))
    · rw [timedOut.quiet]
      exact nofun
  · refine ⟨fun time exit => absurd exit (stopped.other time),
      iff_of_false (stopped.other _) fun nothing => ?_⟩
    rcases stopped.cause with ⟨a, taken, stops⟩ | ⟨t, raised, early⟩
    · exact stops (nothing.1 a (List.mem_append_left _ taken) (marked.early a taken)).1
    · exact Nat.not_lt_of_le (nothing.2 t raised) early

end ReaderRun

/-- **The deadline of a reader.** A connection is opened on a hub that has come about somehow, and
its reader is started; in a punctual run, whatever arrives and whenever, whatever happens elsewhere,
and whatever posts are answered with:

* the deadline is the pong wait after the start or the last pong that was read, so nothing else that
  is read moves it;
* all that arrives is taken at the time of its arrival or never, and no text is taken at the
  deadline or later;
* a reader that runs has not passed its deadline, and if it waits and nothing more comes it is timed
  out at the deadline;
* a reader that has ended was timed out at the deadline or not at all; and it was exactly if all
  that arrived before lets a reader go on, no pong arrived between the last one that was read and
  the deadline, and nobody else raised the signal before. -/
theorem reader_deadline (earlier : List HubEvent) (user : UserId) (settings : Settings)
    (capacity : Nat) (began : Duration) (events : List ReaderEvent)
    (punctual : (ReaderRun.start (Hub.empty.run earlier) user settings capacity began).punctual
      events = true) :
    let r := (ReaderRun.start (Hub.empty.run earlier) user settings capacity began).run events
    let due := r.lastSign began + settings.pongWait
    r.session.reader.deadline = due ∧
    (r.arrived = r.taken ++ r.inbox ∧ ∀ x ∈ r.texts, x.time < due) ∧
    (r.hasEnded = false → r.now ≤ due ∧ (r.isIdle = true →
      let silence : List ReaderEvent := [.passes (due - r.now), .looks .clock]
      r.punctual silence = true ∧ (r.run silence).exit? = some ⟨due, .failed .timedOut⟩)) ∧
    (r.hasEnded = true →
      (∀ time, r.exit? = some ⟨time, .failed .timedOut⟩ → time = due) ∧
      (r.exit? = some ⟨due, .failed .timedOut⟩ ↔
        (∀ a ∈ r.arrived, a.time < due → a.what.reading.exit? = none ∧
          (a.what.reading.isPong = true → a.time ≤ r.lastSign began)) ∧
        ∀ t ∈ r.alarm, due ≤ t)) := by
  intro r due
  have watched := (ReaderRun.watched_start (Hub.tidy_empty.run earlier) user settings capacity
    began).run punctual
  have deadline : r.session.reader.deadline = due := watched.marked.deadline
  rw [← deadline]
  refine ⟨rfl, ⟨watched.account, fun x inside => ?_⟩, fun running => ?_, watched.exit?_iff⟩
  · obtain ⟨a, taken, carries⟩ := List.mem_filterMap.mp inside
    obtain ⟨text, -, rfl⟩ := Option.map_eq_some_iff.mp carries
    exact watched.marked.early a taken
  · rw [ReaderRun.hasEnded, Option.isSome_eq_false_iff, Option.isNone_iff_eq_none] at running
    have waiting := watched.waiting running
    exact ⟨waiting.inTime, waiting.exit?_of_isIdle⟩

/-- A peer that keeps sending, but only one pong, shortly before the first deadline. -/
def chatter : List ReaderEvent :=
  [.elsewhere (.handle 0 .register), .passes (.seconds 4), .arrives (.frame (.text "typing")),
    .looks .socket, .passes (.millis 900), .arrives (.frame (.pong [])), .looks .socket,
    .passes (.seconds 4), .arrives (.frame (.ping [])), .looks .socket, .passes (.seconds 1),
    .looks .clock, .arrives (.frame (.pong []))]

/-- That peer is timed out five seconds after its pong, and no later for all that it sends. -/
theorem reader_deadline_in_chatter :
    let start := ReaderRun.start (Hub.empty.run []) ⟨1⟩ { pongWait := .seconds 5 } 8 0
    let r := start.run chatter
    start.punctual chatter = true ∧ r.lastSign 0 = .millis 4900 ∧
      r.exit? = some ⟨.millis 9900, .failed .timedOut⟩ := by
  intro start r
  have punctual : start.punctual chatter = true := by decide
  have ended : r.hasEnded = true := by decide
  have deadline := reader_deadline [] ⟨1⟩ { pongWait := .seconds 5 } 8 0 chatter punctual
  exact ⟨punctual, by decide, (deadline.2.2.2 ended).2.mpr ⟨by decide, by decide⟩⟩

end Parley
