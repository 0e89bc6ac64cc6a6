import Mathlib.Tactic.SplitIfs
import Parley.Proofs.Session.ReaderRun
import Parley.Proofs.Text.Utf8

/-!
# What a reader dispatches

`ReaderRun.Sound` is the invariant of the runs of a reader. What was taken from the socket and what
is left in it are together what arrived, in that order. What is left of the allowance, and what was
asked of the creator, is what comes of dispatching the texts that were read, one after another. And
every reading but the last lets the reader go on.

Each event keeps it (`Sound.step`), and so do runs. Apart from it, a reader cannot tell a binary
frame from the text frame of the same bytes (`ReaderRun.run_asText`). `reader_trace` is what this
says of any run.
-/

namespace Parley

open Loopback (Arrival)

namespace ReaderRun

variable {r : ReaderRun} {user : UserId} {fresh : Allowance}

/-! ### What the steps do -/

section Act

variable (r : ReaderRun) (reading : Reading)

/-- What acting on a reading does to a run. -/
theorem act_eq :
    r.act reading = { r with
      session := { r.session with
        reader := (r.session.reader.react r.session.settings r.now reading).2
        inbound := reading.exit?.or r.session.inbound }
      hub := if reading.exit?.isSome then r.hub.unregister r.connection else r.hub
      readings := r.readings ++ [⟨r.now, reading⟩]
      posts := r.posts ++
        ((r.session.reader.react r.session.settings r.now reading).1.post?
          r.session.user).toList } := by
  unfold act
  rw [Session.read_eq_exit?]
  rfl

/-- Acting on a reading that ends the reader unregisters its connection, and nothing else touches
the hub. -/
theorem hub_act :
    (r.act reading).hub =
      if reading.exit?.isSome then r.hub.unregister r.connection else r.hub := by
  rw [act_eq]

/-- The connection of a reader stays the same. -/
theorem connection_act : (r.act reading).connection = r.connection := by
  rw [act_eq]
  rfl

/-- A reader ends with the reading that ends it. -/
theorem inbound_act :
    (r.act reading).session.inbound = reading.exit?.or r.session.inbound := by
  rw [act_eq]

/-- The reading acted on is the latest. -/
theorem readings_act : (r.act reading).readings = r.readings ++ [⟨r.now, reading⟩] := rfl

/-- A reading that came from the socket was taken from it. -/
theorem taken_act :
    (r.act reading).taken = r.taken ++ (reading.arrival?.map (Timed.mk r.now)).toList := by
  rw [taken, readings_act, List.filterMap_append]
  cases reading <;> rfl

/-- A reading with content is a text that came in. -/
theorem texts_act :
    (r.act reading).texts = r.texts ++ (reading.content?.map (Incoming.mk r.now)).toList := by
  rw [texts, taken_act, List.filterMap_append]
  refine congrArg (r.texts ++ ·) ?_
  cases reading with
  | frame f =>
    cases carries : f.content? <;>
      simp [Reading.arrival?, Arrival.reading, Reading.content?, carries]
  | _ => rfl

/-- Acting on a reading that ends the reader is the exit, at this time. -/
theorem exit?_act : (r.act reading).exit? = reading.exit?.map (Timed.mk r.now) := by
  rw [exit?, readings_act, List.getLast?_concat]
  rfl

end Act

/-- A reader that looks either finds nothing, or acts on what it finds. -/
theorem look_cases (r : ReaderRun) (outlook : Outlook) :
    r.look outlook = r ∨
      ∃ reading inbox, r.isLooking = true ∧ r.find? outlook = some (reading, inbox) ∧
        r.look outlook = { r with inbox }.act reading := by
  unfold look
  split_ifs with looking
  · cases found : r.find? outlook with
    | none => exact .inl rfl
    | some p => exact .inr ⟨p.1, p.2, looking, rfl, rfl⟩
  · exact .inl rfl

/-- What is found on the socket is the first of what is left in it, and what is found elsewhere
leaves it as it is. -/
theorem find?_cases {outlook : Outlook} {reading : Reading} {inbox : List (Timed Arrival)}
    (found : r.find? outlook = some (reading, inbox)) :
    (∃ a, r.inbox = a :: inbox ∧ reading = a.what.reading) ∨
      inbox = r.inbox ∧ (reading = .signal ∧ r.isSignalled = true ∨
        reading = .expired ∧ r.session.reader.deadline ≤ r.now) := by
  unfold find? at found
  cases outlook with
  | signal =>
    simp only at found
    split_ifs at found with signalled
    cases found
    exact .inr ⟨rfl, .inl ⟨rfl, signalled⟩⟩
  | socket =>
    cases arrived : r.inbox with
    | nil => simp [arrived] at found
    | cons a rest =>
      rw [arrived] at found
      cases found
      exact .inl ⟨a, rfl, rfl⟩
  | clock =>
    simp only at found
    split_ifs at found with expired
    cases found
    exact .inr ⟨rfl, .inr ⟨rfl, expired⟩⟩

/-- An answer changes nothing but what is awaited, and what is noted on the hub. -/
theorem answer_cases (r : ReaderRun) (result : Except PostError Unit) :
    r.answer result = r ∨
      ∃ log, r.answer result = { r with
        session := { r.session with reader := r.session.reader.answered }
        hub := { r.hub with log } } := by
  unfold answer
  cases r.pending? with
  | none => exact .inl rfl
  | some post =>
    have noted : ∃ log, r.session.answer r.hub post.conversation result =
        ({ r.session with reader := r.session.reader.answered }, { r.hub with log }) := by
      unfold Session.answer
      split <;> exact ⟨_, rfl⟩
    obtain ⟨log, noted⟩ := noted
    refine .inr ⟨log, ?_⟩
    dsimp only
    rw [noted]

/-- A reader that looks has not ended. -/
theorem inbound_of_isLooking (looking : r.isLooking = true) : r.session.inbound = none := by
  simp only [isLooking, hasEnded, Bool.and_eq_true, Bool.not_eq_true', Option.isSome_eq_false_iff,
    Option.isNone_iff_eq_none] at looking
  exact looking.1

/-! ### What is taken from the socket -/

/-- What was taken from the socket and what is left in it. -/
def known (r : ReaderRun) : List Arrival :=
  r.taken.map Timed.what ++ r.inbox.map Timed.what

/-- What is known is what was known and what arrives. -/
theorem known_step (r : ReaderRun) (event : ReaderEvent) :
    (r.step event).known = r.known ++ event.arrival?.toList := by
  have nothing : ∀ {r' : ReaderRun}, r'.known = r.known → r'.known = r.known ++ [] :=
    fun same => same.trans (List.append_nil _).symm
  cases event with
  | elsewhere event => exact nothing rfl
  | passes span => exact nothing rfl
  | arrives arrival =>
    rw [known, step, List.map_append, ← List.append_assoc]
    rfl
  | answered result =>
    refine nothing ?_
    rcases r.answer_cases result with same | ⟨log, answered⟩
    · rw [step, same]
    · rw [step, answered]
      rfl
  | looks outlook =>
    refine nothing ?_
    rcases r.look_cases outlook with same | ⟨reading, inbox, looking, found, acts⟩
    · rw [step, same]
    · rw [step, acts, known, taken_act, List.map_append, List.append_assoc]
      refine congrArg (r.taken.map Timed.what ++ ·) ?_
      rcases find?_cases found with ⟨a, left, rfl⟩ | ⟨rfl, ⟨rfl, -⟩ | ⟨rfl, -⟩⟩
      · rw [left, Loopback.Arrival.arrival?_reading]
        rfl
      · rfl
      · rfl

/-- In the order in which they arrived, all arrivals are taken or left, each of them once. -/
theorem known_run (r : ReaderRun) (events : List ReaderEvent) :
    (r.run events).known = r.known ++ events.filterMap ReaderEvent.arrival? := by
  induction events generalizing r with
  | nil => exact (List.append_nil _).symm
  | cons event rest ih =>
    refine (ih (r.step event)).trans ?_
    rw [known_step, List.append_assoc]
    cases h : event.arrival? <;> simp [h]

/-! ### What is dispatched, and how a reader ends -/

/-- What holds throughout the run of a reader. -/
structure Sound (user : UserId) (fresh : Allowance) (r : ReaderRun) : Prop where
  tidy : r.hub.Tidy
  stands : ∃ t, r.hub.standing? r.connection = some t
  same : r.session.user = user
  dispatched : (⟨r.session.reader.allowance, r.posts⟩ : Dispatched) =
    r.texts.foldl (Dispatched.add user) ⟨fresh, []⟩
  exit : r.session.inbound = r.exit?.map Timed.what
  going : ∀ x ∈ r.readings.dropLast, x.what.exit? = none
  off : r.hasEnded = true → r.isSignalled = true ∧ r.hub.isRegistered r.connection = false

/-- As long as the reader runs, all its readings have let it go on. -/
theorem Sound.all_going (sound : r.Sound user fresh) (running : r.session.inbound = none) :
    ∀ x ∈ r.readings, x.what.exit? = none := by
  have exit := sound.exit
  have going := sound.going
  unfold exit? at exit
  rcases List.eq_nil_or_concat r.readings with nothing | ⟨before, last, readings⟩
  · simp [nothing]
  · rw [List.concat_eq_append] at readings
    rw [readings, List.dropLast_concat] at going
    rw [running, readings, List.getLast?_concat] at exit
    rw [readings]
    refine List.forall_mem_append.mpr ⟨going, List.forall_mem_singleton.mpr ?_⟩
    simpa using exit.symm

/-- A reader is sound from its start. -/
theorem sound_start {hub : Hub} (tidy : hub.Tidy) (user : UserId) (settings : Settings)
    (capacity : Nat) (began : Duration) :
    (start hub user settings capacity began).Sound user
      { limit := settings.rateLimitCount, window := settings.rateLimitWindow } where
  tidy := tidy.openFor user capacity
  stands := ⟨_, (Hub.standing?_openFor tidy user capacity _).trans (if_pos rfl)⟩
  same := rfl
  dispatched := rfl
  exit := rfl
  going := nofun
  off := nofun

/-- The times, what is left in the socket and who raised the signal make no difference. -/
theorem Sound.frame (sound : r.Sound user fresh) (now : Duration)
    (inbox arrived : List (Timed Arrival)) (alarm : Option Duration) :
    ({ r with now, inbox, arrived, alarm } : ReaderRun).Sound user fresh :=
  ⟨sound.tidy, sound.stands, sound.same, sound.dispatched, sound.exit, sound.going, sound.off⟩

/-- A reader stays sound when others act on the hub. -/
theorem Sound.elsewhere (sound : r.Sound user fresh) (event : HubEvent) :
    (r.elsewhere event).Sound user fresh where
  tidy := sound.tidy.after event
  stands := by
    obtain ⟨t, standing⟩ := sound.stands
    exact ⟨_, Hub.standing?_after_of_some sound.tidy standing event⟩
  same := sound.same
  dispatched := sound.dispatched
  exit := sound.exit
  going := sound.going
  off ended := by
    obtain ⟨closed, off⟩ := sound.off ended
    exact ⟨Hub.isClosed_after sound.tidy closed event,
      Hub.isRegistered_run_of_closed sound.tidy closed off [event]⟩

/-- A reading that a running reader acts on. -/
theorem Sound.act (sound : r.Sound user fresh) (running : r.session.inbound = none)
    (reading : Reading) : (r.act reading).Sound user fresh := by
  obtain ⟨t, standing⟩ := sound.stands
  refine ⟨?tidy, ?stands, ?same, ?dispatched, ?exit, ?going, ?off⟩
  case tidy =>
    rw [hub_act]
    split_ifs
    · exact sound.tidy.unregister _
    · exact sound.tidy
  case stands =>
    rw [hub_act, connection_act]
    split_ifs
    · have handled := Hub.standing?_handle sound.tidy r.connection r.connection .unregister
      rw [if_pos rfl, standing] at handled
      exact ⟨_, handled⟩
    · exact ⟨t, standing⟩
  case same =>
    rw [act_eq]
    exact sound.same
  case dispatched =>
    have dispatched := Reader.dispatched_react r.session.settings r.now r.session.reader reading
      user r.posts
    rw [sound.dispatched, ← List.foldl_append] at dispatched
    rw [texts_act, act_eq, sound.same]
    exact dispatched
  case exit =>
    rw [inbound_act, exit?_act, running, Option.or_none, Option.map_map]
    exact Option.map_id_apply.symm
  case going =>
    rw [readings_act, List.dropLast_concat]
    exact sound.all_going running
  case off =>
    intro ended
    rw [hasEnded, inbound_act, running, Option.or_none] at ended
    rw [isSignalled, hub_act, connection_act, if_pos ended]
    refine ⟨?_, Hub.isRegistered_unregister_self sound.tidy _⟩
    rw [Hub.isClosed, Hub.connection?_unregister, if_pos rfl, Hub.connection?_eq_standing?,
      standing]
    exact t.connection.isClosed_close

/-- A reader stays sound after an answer. -/
theorem Sound.answer (sound : r.Sound user fresh) (result : Except PostError Unit) :
    (r.answer result).Sound user fresh := by
  rcases r.answer_cases result with kept | ⟨log, answered⟩
  · rwa [kept]
  · rw [answered]
    exact ⟨sound.tidy.congr rfl fun _ _ h => h, sound.stands, sound.same, sound.dispatched,
      sound.exit, sound.going, sound.off⟩

/-- A reader stays sound after a look. -/
theorem Sound.look (sound : r.Sound user fresh) (outlook : Outlook) :
    (r.look outlook).Sound user fresh := by
  rcases r.look_cases outlook with kept | ⟨reading, inbox, looking, -, acts⟩
  · rwa [kept]
  · rw [acts]
    have sound' := sound.frame r.now inbox r.arrived r.alarm
    exact sound'.act (inbound_of_isLooking looking) reading

/-- A reader stays sound after any step. -/
theorem Sound.step (sound : r.Sound user fresh) (event : ReaderEvent) :
    (r.step event).Sound user fresh := by
  cases event with
  | elsewhere event => exact sound.elsewhere event
  | arrives arrival => exact sound.frame r.now (r.inbox ++ [⟨r.now, arrival⟩]) _ r.alarm
  | looks outlook => exact sound.look outlook
  | answered result => exact sound.answer result
  | passes span => exact sound.frame (r.now + span) r.inbox r.arrived r.alarm

/-- A reader is sound throughout a run. -/
theorem Sound.run (sound : r.Sound user fresh) (events : List ReaderEvent) :
    (r.run events).Sound user fresh := by
  induction events generalizing r with
  | nil => exact sound
  | cons event rest ih => exact ih (sound.step event)

/-- A reader that has ended does not look. -/
theorem look_of_hasEnded (ended : r.hasEnded = true) (outlook : Outlook) :
    r.look outlook = r := by
  have idle : r.isLooking = false := by rw [isLooking, ended, Bool.not_true, Bool.false_and]
  rw [look, idle]
  rfl

/-- A reader that has ended reads nothing more and asks for nothing more. -/
theorem step_of_hasEnded (ended : r.hasEnded = true) (event : ReaderEvent) :
    (r.step event).readings = r.readings ∧ (r.step event).posts = r.posts ∧
      (r.step event).session.inbound = r.session.inbound := by
  cases event with
  | looks outlook =>
    rw [step, look_of_hasEnded ended]
    exact ⟨rfl, rfl, rfl⟩
  | answered result =>
    rcases r.answer_cases result with kept | ⟨log, answered⟩
    · rw [step, kept]
      exact ⟨rfl, rfl, rfl⟩
    · rw [step, answered]
      exact ⟨rfl, rfl, rfl⟩
  | elsewhere event => exact ⟨rfl, rfl, rfl⟩
  | arrives arrival => exact ⟨rfl, rfl, rfl⟩
  | passes span => exact ⟨rfl, rfl, rfl⟩

/-- A reader that has ended reads, asks and ends no more. -/
theorem run_of_hasEnded (ended : r.hasEnded = true) (events : List ReaderEvent) :
    (r.run events).readings = r.readings ∧ (r.run events).posts = r.posts ∧
      (r.run events).session.inbound = r.session.inbound := by
  induction events generalizing r with
  | nil => exact ⟨rfl, rfl, rfl⟩
  | cons event rest ih =>
    obtain ⟨readings, posts, inbound⟩ := step_of_hasEnded ended event
    have ended' : (r.step event).hasEnded = true := by rwa [hasEnded, inbound]
    obtain ⟨readings', posts', inbound'⟩ := ih ended'
    exact ⟨readings'.trans readings, posts'.trans posts, inbound'.trans inbound⟩

end ReaderRun

/-! ### Binary frames -/

/-- The text frame of the bytes of a binary frame, where these are a text; any other frame as it
is. -/
def Frame.asText : Frame → Frame
  | .binary bytes => (Utf8.decode? bytes).elim (.binary bytes) .text
  | f => f

/-- An arrival with its frame as text. -/
def Loopback.Arrival.asText : Arrival → Arrival
  | .frame f => .frame f.asText
  | a => a

/-- A reading with its frame as text. -/
def Reading.asText : Reading → Reading
  | .frame f => .frame f.asText
  | reading => reading

/-- An event with the frame that arrives as text. -/
def ReaderEvent.asText : ReaderEvent → ReaderEvent
  | .arrives arrival => .arrives arrival.asText
  | event => event

/-- The bytes of a text are taken for the text. -/
theorem Frame.asText_binary (text : String) :
    Frame.asText (.binary (Utf8.encode text.toList)) = .text text := by
  rw [asText, Utf8.decode?_eq_some_iff.mpr rfl, Option.elim_some]

/-- An arrival taken for a text is read as one. -/
theorem Loopback.Arrival.reading_asText (a : Arrival) : a.asText.reading = a.reading.asText := by
  cases a <;> rfl

namespace Reading

/-- A binary frame is to a reader what the text frame of its bytes is. -/
theorem asText_kind (reading : Reading) :
    reading.asText.content? = reading.content? ∧ reading.asText.exit? = reading.exit? ∧
      reading.asText.isPong = reading.isPong := by
  cases reading with
  | frame f =>
    cases f with
    | binary bytes =>
      cases decoded : Utf8.decode? bytes <;>
        simp [asText, Frame.asText, content?, Frame.content?, exit?, isPong, decoded]
    | _ => exact ⟨rfl, rfl, rfl⟩
  | _ => exact ⟨rfl, rfl, rfl⟩

/-- Taking bytes for a text leaves the content of a reading as it is. -/
theorem content?_asText (reading : Reading) : reading.asText.content? = reading.content? :=
  reading.asText_kind.1

/-- Taking bytes for a text leaves the exit as it is. -/
theorem exit?_asText (reading : Reading) : reading.asText.exit? = reading.exit? :=
  reading.asText_kind.2.1

end Reading

/-- A reader reacts to bytes as to the text that they are. -/
theorem Reader.react_asText (s : Settings) (now : Duration) (r : Reader) (reading : Reading) :
    r.react s now reading.asText = r.react s now reading := by
  obtain ⟨content, exit, isPong⟩ := reading.asText_kind
  rw [react_eq, react_eq, content, exit, isPong]

namespace ReaderRun

/-- A run with all its frames as text. -/
def asText (r : ReaderRun) : ReaderRun :=
  { r with
    inbox := r.inbox.map (Timed.map Arrival.asText)
    arrived := r.arrived.map (Timed.map Arrival.asText)
    readings := r.readings.map (Timed.map Reading.asText) }

/-- A run acts on bytes as on the text that they are. -/
theorem act_asText (r : ReaderRun) (reading : Reading) :
    r.asText.act reading.asText = (r.act reading).asText := by
  rw [act_eq, act_eq, reading.exit?_asText]
  simp only [asText, Reader.react_asText, connection, List.map_append, List.map_cons, List.map_nil,
    Timed.map]

/-- What a look finds is the same but for bytes that are taken for texts. -/
theorem find?_asText (r : ReaderRun) (outlook : Outlook) :
    r.asText.find? outlook =
      (r.find? outlook).map (Prod.map Reading.asText (List.map (Timed.map Arrival.asText))) := by
  cases outlook with
  | signal =>
    change (if r.isSignalled then _ else _) = Option.map _ (if r.isSignalled then _ else _)
    split_ifs <;> rfl
  | socket =>
    rw [find?, find?, asText]
    cases r.inbox with
    | nil => rfl
    | cons a rest => exact congrArg (fun x => some (x, _)) a.what.reading_asText
  | clock =>
    change (if r.session.reader.deadline ≤ r.now then _ else _) =
      Option.map _ (if r.session.reader.deadline ≤ r.now then _ else _)
    split_ifs <;> rfl

/-- A step is the same but for bytes that are taken for texts. -/
theorem step_asText (r : ReaderRun) (event : ReaderEvent) :
    r.asText.step event.asText = (r.step event).asText := by
  cases event with
  | elsewhere event => rfl
  | passes span => rfl
  | arrives arrival => simp [step, asText, ReaderEvent.asText, Timed.map]
  | answered result =>
    change r.asText.answer result = (r.answer result).asText
    unfold answer
    have same : r.asText.pending? = r.pending? := rfl
    rw [same]
    cases r.pending? <;> rfl
  | looks outlook =>
    change r.asText.look outlook = (r.look outlook).asText
    unfold look
    rw [find?_asText]
    change (if r.isLooking then _ else _) = _
    split_ifs
    · cases r.find? outlook with
      | none => rfl
      | some p => exact act_asText { r with inbox := p.2 } p.1
    · rfl

/-- A run in which the peer sends text frames instead of binary frames is the same run. -/
theorem run_asText (r : ReaderRun) (events : List ReaderEvent) :
    r.asText.run (events.map ReaderEvent.asText) = (r.run events).asText := by
  induction events generalizing r with
  | nil => rfl
  | cons event rest ih =>
    rw [List.map_cons, run, List.foldl_cons, step_asText]
    exact ih (r.step event)

/-- The texts that come in are the same. -/
theorem texts_asText (r : ReaderRun) : r.asText.texts = r.texts := by
  have taken : r.asText.taken = r.taken.map (Timed.map Arrival.asText) := by
    rw [ReaderRun.taken, ReaderRun.taken, asText, List.filterMap_map, List.map_filterMap]
    refine List.filterMap_congr fun x _ => ?_
    cases x with
    | mk time reading => cases reading <;> rfl
  rw [texts, taken, List.filterMap_map]
  refine List.filterMap_congr fun x _ => ?_
  rw [Function.comp_apply, Timed.map, Arrival.reading_asText, Reading.content?_asText]

end ReaderRun

/-- **The trace of a reader.** A connection is opened on a hub that has come about somehow, and its
reader is started. Whatever arrives, whatever happens elsewhere, wherever the reader looks first,
and whatever its posts are answered with:

* what was taken from the socket and what is left in it are together what arrived, in that order;
* what is left of the allowance and what was asked of the creator is what comes of dispatching the
  texts that were taken, one after another, each once;
* the reader has ended exactly if its last reading puts an end to it (`Reading.exit?`), and with the
  exit that belongs to that reading; every earlier reading let it go on, and so do answers;
* when it has ended, the signal is raised and the connection off the roster, and nothing that
  happens later is read or asked for;
* had the peer sent the text frame of its bytes in place of every binary frame that is a text, the
  session, the hub, the texts and the posts would be the same. -/
theorem reader_trace (earlier : List HubEvent) (user : UserId) (settings : Settings)
    (capacity : Nat) (began : Duration) (events : List ReaderEvent) :
    let start := ReaderRun.start (Hub.empty.run earlier) user settings capacity began
    let r := start.run events
    let written := start.run (events.map ReaderEvent.asText)
    r.taken.map Timed.what ++ r.inbox.map Timed.what = events.filterMap ReaderEvent.arrival? ∧
    (⟨r.session.reader.allowance, r.posts⟩ : Dispatched) =
      r.texts.foldl (Dispatched.add user)
        ⟨{ limit := settings.rateLimitCount, window := settings.rateLimitWindow }, []⟩ ∧
    (r.session.inbound = r.exit?.map Timed.what ∧
      ∀ x ∈ r.readings.dropLast, x.what.exit? = none) ∧
    (r.hasEnded = true → r.isSignalled = true ∧ r.hub.isRegistered r.connection = false ∧
      ∀ later, (r.run later).readings = r.readings ∧ (r.run later).posts = r.posts ∧
        (r.run later).session.inbound = r.session.inbound) ∧
    ((∀ text, Frame.asText (.binary (Utf8.encode text.toList)) = .text text) ∧
      written.session = r.session ∧ written.hub = r.hub ∧ written.texts = r.texts ∧
      written.posts = r.posts) := by
  intro start r written
  have sound := (ReaderRun.sound_start (Hub.tidy_empty.run earlier) user settings capacity
    began).run events
  refine ⟨?taken, sound.dispatched, ⟨sound.exit, sound.going⟩, fun ended => ?ended, ?asText⟩
  case taken => exact (start.known_run events).trans (List.nil_append _)
  case ended =>
    obtain ⟨signalled, off⟩ := sound.off ended
    exact ⟨signalled, off, fun later => ReaderRun.run_of_hasEnded ended later⟩
  case asText =>
    have same : written = r.asText := start.run_asText events
    rw [same]
    exact ⟨Frame.asText_binary, rfl, rfl, r.texts_asText, rfl⟩

/-- What comes after the closing frame is not read, though it has arrived by then. -/
example :
    let r := (ReaderRun.start .empty ⟨1⟩ {} 8 0).run
      [.arrives (.frame (.text "first")), .arrives (.frame (.close none)),
        .arrives (.frame (.text "second")), .looks .socket, .looks .socket, .looks .socket]
    r.texts = [⟨0, "first"⟩] ∧ r.session.inbound = some .closedByPeer :=
  ⟨by decide, by decide⟩

end Parley
