import Parley.Proofs.Session.Reading
import Parley.Proofs.Session.Steps
import Parley.Proofs.Session.Vigil

/-!
# Keeping a session alive

A peer that answers every ping at once may be timed out, even where all writes are done in less
than half of the slack (`healthy_peer_timed_out`). A writer that has both an envelope and a due ping
takes the envelope, so envelopes that keep coming put the ping off until it is too late.

Nothing else does it: where a peer is timed out, an envelope has overtaken a due ping
(`overtaken_of_timedOut`). `Vigil.Kept` is the invariant of runs in which none does: while the
reader runs and the signal is down, the times of the session are `Timely`. Each event keeps it, and
time does not pass the deadline. Once the signal is raised no time passes at all until the reader
has seen it.
-/

namespace Parley

open Loopback (Arrival)

/-! ### What the steps of a session do to its sides -/

/-- Whether an arrival is a pong. -/
def Loopback.Arrival.isPong : Arrival → Bool
  | .frame (.pong _) => true
  | _ => false

/-- What arrives ends the reader, but never as timed out, or a pong moves the deadline on. -/
theorem Reader.react_arrival (s : Settings) (now : Duration) (r : Reader) (arrival : Arrival) :
    (∃ exit, exit ≠ .failed .timedOut ∧ (r.react s now arrival.reading).1 = .stop exit) ∨
      (∀ exit, (r.react s now arrival.reading).1 ≠ .stop exit) ∧
        (r.react s now arrival.reading).2.deadline =
          if arrival.isPong then now + s.pongWait else r.deadline := by
  have exit := r.exit?_react s now arrival.reading
  have isPong : arrival.reading.isPong = arrival.isPong := by
    cases arrival with
    | frame frame => cases frame <;> rfl
    | _ => rfl
  rw [deadline_react, isPong]
  cases ends : arrival.reading.exit? with
  | some e =>
    rw [ends, Reaction.exit?_eq_some_iff] at exit
    refine .inl ⟨e, fun timedOut => ?_, exit⟩
    exact arrival.exit?_ne_timedOut (ends.trans (congrArg some timedOut))
  | none =>
    refine .inr ⟨fun e stops => ?_, rfl⟩
    rw [ends, stops] at exit
    cases exit

namespace Session

variable (s : Session) (hub : Hub) (now : Duration)

/-- What a serving writer may turn to while the signal is down. -/
theorem turn?_cases {hub' : Hub} {writing : Writing} (serving : s.writer.stage = .serving)
    (down : s.isSignalled hub = false) (turns : s.turn? hub now = some (writing, hub')) :
    (∃ e, writing = .dequeued e) ∨ writing = .disconnected ∨
      writing = .tick ∧ s.writer.pingDue ≤ now := by
  unfold turn? at turns
  rw [serving, down] at turns
  dsimp only at turns
  rw [if_neg Bool.false_ne_true] at turns
  split at turns
  case h_1 e rest mail =>
    cases turns
    exact .inl ⟨e, rfl⟩
  case h_2 mail =>
    split_ifs at turns with ended due
    · cases turns
      exact .inr (.inl rfl)
    · cases turns
      exact .inr (.inr ⟨rfl, due⟩)

/-- What the reader does leaves the writer as it is. -/
theorem readAnswered_frame (reading : Reading) (result : Except PostError Unit) :
    let after := (s.readAnswered hub now reading result).1
    after.settings = s.settings ∧ after.writer = s.writer ∧ after.outbound = s.outbound := by
  rw [readAnswered_eq]
  split
  · rw [answer_eq, read_eq]
    exact ⟨rfl, rfl, rfl⟩
  · rw [read_eq]
    exact ⟨rfl, rfl, rfl⟩

/-- What arrives ends the reader, but never as timed out, or a pong moves the deadline on. -/
theorem readAnswered_arrival (arrival : Arrival) (result : Except PostError Unit) :
    let after := (s.readAnswered hub now arrival.reading result).1
    (∃ exit, exit ≠ .failed .timedOut ∧ after.inbound = some exit) ∨
      after.inbound = s.inbound ∧ after.reader.deadline =
        if arrival.isPong then now + s.settings.pongWait else s.reader.deadline := by
  rw [readAnswered_eq]
  rcases s.reader.react_arrival s.settings now arrival with ⟨exit, other, hreact⟩ | ⟨goes, deadline⟩
  · refine .inl ⟨exit, other, ?_⟩
    rw [hreact]
    dsimp only
    rw [read_eq, hreact]
  · refine .inr ?_
    cases hreact : (s.reader.react s.settings now arrival.reading).1 with
    | stop exit => exact absurd hreact (goes exit)
    | post conversation content =>
      dsimp only
      rw [answer_eq, read_eq, hreact]
      exact ⟨rfl, deadline⟩
    | proceed =>
      dsimp only
      rw [read_eq, hreact]
      exact ⟨rfl, deadline⟩

end Session

/-! ### Runs in which no envelope overtakes a ping -/

namespace Vigil

/-- Whether a pong has arrived and is not read. -/
def Ponged (v : Vigil) : Prop := v.inbox.any Arrival.isPong = true

/-- The writer serves, and the next pong will come in time. -/
structure OnTime (s : Settings) (v : Vigil) : Prop where
  serves : v.session.writer.stage = .serving
  runs : v.session.outbound = none
  recent : v.session.writer.pingDue ≤ v.now + s.effectivePingPeriod
  timely : Timely s.effectivePingPeriod s.slack v.now v.session.writer.pingDue
    v.session.reader.deadline v.Ponged v.session.writer.writing

/-- What holds of a session on settings `s` as long as no envelope overtakes a ping. While the
reader runs the deadline is not reached, and while moreover the signal is down all is on time. -/
structure Kept (s : Settings) (v : Vigil) : Prop where
  settings : v.session.settings = s
  tidy : v.hub.Tidy
  stands : ∃ t, v.hub.standing? v.session.connection = some t
  inTime : v.session.inbound ≠ some (.failed .timedOut)
  alive : v.session.inbound = none → v.now < v.session.reader.deadline
  onTime : v.session.inbound = none → v.isSignalled = false → v.OnTime s

variable {s : Settings} {v : Vigil}

/-- All is kept at the start. -/
theorem kept_start (paced : s.Paced) {hub : Hub} (tidy : hub.Tidy) (user : UserId)
    (began : Duration) : (start hub user s began).Kept s := by
  have deadline : (start hub user s began).session.reader.deadline
      = began + (s.effectivePingPeriod + s.slack) := congrArg (began + ·) paced.pongWait
  refine ⟨rfl, (tidy.openFor user s.queueCapacity).handle _ .register, ?_, ?_, fun _ => ?_,
    fun _ _ => ⟨rfl, rfl, Nat.le_refl _, ?_⟩⟩
  · have registered := Hub.standing?_handle (tidy.openFor user s.queueCapacity)
      hub.connections.length hub.connections.length .register
    rw [Hub.standing?_openFor tidy, if_pos rfl, if_pos rfl] at registered
    exact ⟨_, registered⟩
  · exact nofun
  · rw [deadline]
    exact Nat.lt_add_of_pos_right (Nat.lt_add_left _ paced.pos)
  · rw [deadline]
    exact .start paced.pos

/-- A step of the session keeps all this, where it does not end the reader as timed out and keeps
what it has to keep on time, unless the signal is raised or the writer ends. -/
theorem Kept.acts (kept : v.Kept s) {f : Hub → Session × Hub} (acts : ∀ t, v.session.Acts t f)
    {session : Session} (after : (f v.hub).1 = session) {inbox : List Arrival}
    (settings : session.settings = v.session.settings)
    (inTime : session.inbound ≠ some (.failed .timedOut))
    (running : session.inbound = none →
      v.session.inbound = none ∧ v.now < session.reader.deadline)
    (onTime : v.isSignalled = false → session.inbound = none → session.outbound = none →
      v.OnTime s → { v with session, inbox }.OnTime s) :
    ({ v with inbox }.withSession (f v.hub)).Kept s := by
  obtain ⟨t, hs⟩ := kept.stands
  obtain ⟨tidy, stands, signal⟩ := (acts t).after kept.tidy hs
  rw [after] at stands signal
  have same : { v with inbox }.withSession (f v.hub)
      = { v with session, inbox, hub := (f v.hub).2 } := by
    rw [withSession, after]
  rw [same]
  refine ⟨settings.trans kept.settings, tidy, stands, inTime, fun runs => (running runs).2,
    fun runs down => ?_⟩
  obtain ⟨earlier, goes⟩ := signal down
  have before := kept.onTime (running runs).1 earlier
  obtain ⟨serves, runs, recent, timely⟩ := onTime earlier runs (goes.trans before.runs) before
  exact ⟨serves, runs, recent, timely⟩

/-- What others do on the hub keeps it. -/
theorem Kept.elsewhere (kept : v.Kept s) (event : HubEvent) :
    (v.step (.elsewhere event)).Kept s := by
  rw [step]
  split
  case isTrue => exact kept
  case isFalse =>
    obtain ⟨t, hs⟩ := kept.stands
    have stands := Hub.standing?_after_of_some kept.tidy hs event
    refine ⟨kept.settings, kept.tidy.after event, ⟨_, stands⟩, kept.inTime, kept.alive,
      fun runs down => ?_⟩
    have earlier : v.isSignalled = false := by
      by_contra raised
      have stays := Hub.isClosed_after kept.tidy (Bool.not_eq_false _ ▸ raised) event
      exact absurd (stays.symm.trans down) (by decide)
    obtain ⟨serves, goes, recent, timely⟩ := kept.onTime runs earlier
    exact ⟨serves, goes, recent, timely⟩

/-- What arrives keeps it, since nothing is read yet. -/
theorem Kept.arrives (kept : v.Kept s) (arrival : Arrival) :
    (v.step (.arrives arrival)).Kept s := by
  refine ⟨kept.settings, kept.tidy, kept.stands, kept.inTime, kept.alive, fun runs down => ?_⟩
  obtain ⟨serves, goes, recent, timely⟩ := kept.onTime runs down
  refine ⟨serves, goes, recent, timely.mono fun ponged => ?_⟩
  simp [Ponged, step, List.any_append, show v.inbox.any Arrival.isPong = true from ponged]

/-- A reader that heeds the signal ends, but not as timed out. -/
theorem Kept.heeds (kept : v.Kept s) : (v.step .heeds).Kept s := by
  rw [step]
  split
  case isFalse => exact kept
  case isTrue =>
    exact kept.acts (f := fun hub => (v.session.read hub v.now .signal).2)
      (fun t => v.session.acts_read t v.now .signal) (v.session.read_eq v.hub v.now .signal)
      rfl nofun nofun nofun

/-- What is read ends the reader in another way or leaves it in time, as the deadline is not
reached. -/
theorem Kept.reads (paced : s.Paced) (kept : v.Kept s) (result : Except PostError Unit) :
    (v.step (.reads result)).Kept s := by
  rw [step]
  split
  case isFalse => exact kept
  case isTrue running =>
    have running : v.session.inbound = none := Option.isNone_iff_eq_none.mp running
    have alive := kept.alive running
    rw [read]
    cases hinbox : v.inbox with
    | nil =>
      -- The deadline is not reached.
      rw [if_neg (Nat.not_le_of_lt alive)]
      exact kept
    | cons arrival rest =>
      obtain ⟨settings, writer, outbound⟩ :=
        v.session.readAnswered_frame v.hub v.now arrival.reading result
      have acts := fun t => v.session.acts_readAnswered t v.now arrival.reading result
      rcases v.session.readAnswered_arrival v.hub v.now arrival result with
        ⟨exit, other, ended⟩ | ⟨goes, deadline⟩
      · have ends :
            (v.session.readAnswered v.hub v.now arrival.reading result).1.inbound ≠ none := by
          rw [ended]
          exact nofun
        refine kept.acts acts rfl settings ?_ (fun runs => absurd runs ends)
          fun _ runs => absurd runs ends
        rw [ended]
        exact fun same => other (Option.some.inj same)
      · refine kept.acts acts rfl settings (goes ▸ kept.inTime) (fun _ => ⟨running, ?_⟩) ?_
        · rw [deadline, kept.settings]
          split
          · exact Nat.lt_add_of_pos_right paced.pongWait_pos
          · exact alive
        · intro _ _ _ before
          refine ⟨writer ▸ before.serves, outbound.trans before.runs, ?_, ?_⟩ <;>
            simp only [Ponged]
          · rw [writer]
            exact before.recent
          · rw [writer, deadline]
            cases pong : arrival.isPong with
            | true =>
              rw [if_pos rfl, kept.settings, paced.pongWait]
              exact before.timely.pong before.recent
            | false =>
              refine before.timely.mono fun ponged => ?_
              simpa [Ponged, hinbox, pong] using ponged

/-- A turn in which no envelope overtakes a ping leaves all on time. -/
theorem Kept.turns (paced : s.Paced) (kept : v.Kept s) (prompt : v.isOvertaken = false) :
    (v.step .turns).Kept s := by
  cases hturn : v.turn? with
  | none =>
    rw [step, hturn]
    exact kept
  | some found =>
    obtain ⟨writing, hub⟩ := found
    obtain ⟨idle, turns⟩ : v.session.writer.writing = none ∧
        v.session.turn? v.hub v.now = some (writing, hub) := by
      unfold turn? at hturn
      split_ifs at hturn with busy
      simp only [Bool.or_eq_true, not_or, Bool.not_eq_true, Option.isSome_eq_false_iff,
        Option.isNone_iff_eq_none] at busy
      exact ⟨busy.2, hturn⟩
    have taken : v.session.takeTurn v.hub v.now = v.session.write hub v.now writing := by
      rw [Session.takeTurn, turns]
    have same : v.step .turns = v.withSession (v.session.takeTurn v.hub v.now) := by
      rw [step, hturn, taken]
    rw [same]
    have after := (congrArg Prod.fst taken).trans (v.session.write_eq hub v.now writing)
    refine kept.acts (f := fun hub => v.session.takeTurn hub v.now)
      (fun t => v.session.acts_takeTurn t v.now) after rfl kept.inTime
      (fun runs => ⟨runs, kept.alive runs⟩) ?_
    intro down _ goes before
    rcases Session.turn?_cases v.session v.hub v.now before.serves down turns with
      ⟨e, rfl⟩ | rfl | ⟨rfl, due⟩
    · -- An envelope is taken, and no ping is due.
      have early : v.now < v.session.writer.pingDue := by
        by_contra late
        simp [isOvertaken, hturn, before.serves, Nat.le_of_not_lt late] at prompt
      refine ⟨before.serves, before.runs, before.recent, ?_⟩
      exact (idle ▸ before.timely).beginText paced.pos early e.payload
    · cases goes
    · have next := Writer.nextPing_mem s due
      refine ⟨before.serves, before.runs, ?_, ?_⟩
      · rw [kept.settings]
        exact next.2
      · rw [kept.settings]
        exact (idle ▸ before.timely).beginPing paced.pos paced.le due next.1 []

/-- The end of a write brings the pong, if it was a ping that was written. -/
theorem Kept.writes (kept : v.Kept s) : (v.step .writes).Kept s := by
  rw [step]
  split
  case h_2 => exact kept
  case h_1 frame began goes underway =>
    refine kept.acts (f := fun hub => v.session.write hub v.now .written)
      (fun t => v.session.acts_write t v.now .written) (v.session.write_eq v.hub v.now .written)
      rfl kept.inTime (fun runs => ⟨runs, kept.alive runs⟩) ?_
    intro _ _ _ before
    have timely := before.timely
    rw [underway] at timely
    refine ⟨before.serves, ?_, before.recent, timely.finish fun h => ?_⟩
    · simp [Writer.react, before.serves, goes]
    · rcases h with ⟨bytes, rfl⟩ | ponged
      · simp [Ponged, Frame.reply, Arrival.isPong]
      · simp [Ponged, show v.inbox.any Arrival.isPong = true from ponged]

/-- What the sides of a session wait for while time passes. -/
theorem waits_cases {span : Duration} (waits : v.waits span = true)
    (runs : v.session.inbound = none) (goes : v.isSignalled = false → v.session.outbound = none) :
    v.isSignalled = false ∧ v.inbox = [] ∧
      (∀ w ∈ v.session.writer.writing, 2 * (v.now + span - w.2) < v.session.settings.slack) ∧
      (v.session.writer.writing = none → v.now + span ≤ v.session.writer.pingDue) := by
  obtain ⟨reader, writer⟩ := (Bool.and_eq_true _ _).mp waits
  simp only [readerWaits, runs, Option.isSome_none, Bool.false_or, Bool.and_eq_true,
    Bool.not_eq_true', List.isEmpty_iff, decide_eq_true_eq] at reader
  obtain ⟨⟨down, empty⟩, -⟩ := reader
  rw [writerWaits, goes down] at writer
  cases hwriting : v.session.writer.writing with
  | none =>
    simp only [hwriting, Option.isSome_none, Bool.false_or, Bool.and_eq_true,
      decide_eq_true_eq] at writer
    exact ⟨down, empty, nofun, fun _ => writer.2⟩
  | some w =>
    simp only [hwriting, Option.isSome_none, Bool.false_or, decide_eq_true_eq] at writer
    exact ⟨down, empty, fun _ same => Option.some.inj same ▸ writer, nofun⟩

/-- Time passes only as far as the deadline is not reached. -/
theorem Kept.passes (paced : s.Paced) (kept : v.Kept s) (span : Duration) :
    (v.step (.passes span)).Kept s := by
  rw [step]
  split
  case isFalse => exact kept
  case isTrue waits =>
    have later : v.session.inbound = none →
        v.now + span < v.session.reader.deadline ∧ { v with now := v.now + span }.OnTime s := by
      intro runs
      obtain ⟨down, empty, writes, idle⟩ :=
        waits_cases waits runs fun down => (kept.onTime runs down).runs
      obtain ⟨serves, goes, recent, timely⟩ := kept.onTime runs down
      have unread : ¬v.Ponged := by simp [Ponged, empty]
      have le := Nat.le_add_right v.now span
      rw [kept.settings] at writes
      exact ⟨timely.lt_deadline paced.pos unread le writes idle, serves, goes,
        Nat.le_trans recent (Nat.add_le_add_right le _),
        timely.pass paced.pos unread le writes idle⟩
    exact ⟨kept.settings, kept.tidy, kept.stands, kept.inTime, fun runs => (later runs).1,
      fun runs _ => (later runs).2⟩

/-- One step in which no envelope overtakes a ping keeps all of it. -/
theorem Kept.step (paced : s.Paced) (kept : v.Kept s) {event : VigilEvent}
    (prompt : event = .turns → v.isOvertaken = false) : (v.step event).Kept s := by
  cases event with
  | elsewhere event => exact kept.elsewhere event
  | arrives arrival => exact kept.arrives arrival
  | heeds => exact kept.heeds
  | reads result => exact kept.reads paced result
  | turns => exact kept.turns paced (prompt rfl)
  | writes => exact kept.writes
  | passes span => exact kept.passes paced span

/-- Where a run does not keep all this, an envelope has overtaken a ping. -/
theorem Kept.run (paced : s.Paced) (kept : v.Kept s) (events : List VigilEvent) :
    (v.run events).Kept s ∨ ∃ before after,
      events = before ++ .turns :: after ∧ (v.run before).isOvertaken = true := by
  induction events generalizing v with
  | nil => exact .inl kept
  | cons event rest ih =>
    by_cases overtaken : event = .turns ∧ v.isOvertaken = true
    · obtain ⟨rfl, overtaken⟩ := overtaken
      exact .inr ⟨[], rest, rfl, overtaken⟩
    · have prompt : event = .turns → v.isOvertaken = false := fun turns =>
        Bool.eq_false_iff.mpr fun h => overtaken ⟨turns, h⟩
      refine (ih (kept.step paced prompt)).imp_right ?_
      rintro ⟨before, after, rfl, overtaken⟩
      exact ⟨event :: before, after, rfl, overtaken⟩

/-- Where a healthy peer is timed out, an envelope has overtaken a ping that was due. -/
theorem overtaken_of_timedOut {config : Config} {settings : Settings}
    (positive : 0 < config.pongWaitSecs) (given : config.settings? = some settings)
    (earlier : List HubEvent) (user : UserId) (began : Duration) (events : List VigilEvent) :
    let v := start (Hub.empty.run earlier) user settings began
    (v.run events).session.inbound = some (.failed .timedOut) →
      ∃ before after, events = before ++ .turns :: after ∧ (v.run before).isOvertaken = true := by
  intro v timedOut
  have paced := Config.paced positive given
  have tidy : (Hub.empty.run earlier).Tidy := Hub.tidy_empty.run earlier
  rcases (kept_start paced tidy user began).run paced events with kept | overtaken
  · exact absurd timedOut kept.inTime
  · exact overtaken

/-! ### Envelopes that keep coming -/

/-- The settings of a configuration with ten seconds of pong wait: a ping is due every nine. -/
def tenSeconds : Settings := { pongWait := .seconds 10, pingPeriod := .seconds 9 }

/-- Envelopes come in just before the ping is due, and writing each takes a little less than half of
a second. The ping waits behind them until the reader gives up. -/
def burst : List VigilEvent :=
  let envelope : Envelope := .newMessage ⟨7⟩ (.text "hello")
  [.passes (.millis 8900), .elsewhere (.enqueue 0 envelope), .elsewhere (.enqueue 0 envelope),
    .elsewhere (.enqueue 0 envelope), .turns, .passes (.millis 490), .writes, .turns,
    .passes (.millis 490), .writes, .turns, .passes (.millis 120), .reads (.ok ())]

/-- In the burst the peer is timed out, and an envelope has overtaken the ping. -/
theorem overtaken_in_burst :
    let v := start .empty ⟨1⟩ tenSeconds 0
    (v.run burst).session.inbound = some (.failed .timedOut) ∧
      ∃ before after, burst = before ++ .turns :: after ∧ (v.run before).isOvertaken = true :=
  have given : ({ pongWaitSecs := 10 } : Config).settings? = some tenSeconds := by decide
  have timedOut : ((start .empty ⟨1⟩ tenSeconds 0).run burst).session.inbound
      = some (.failed .timedOut) := by decide
  ⟨timedOut, overtaken_of_timedOut (by decide) given [] ⟨1⟩ 0 burst timedOut⟩

/-- A peer that answers every ping at once, over a socket that takes less than half of the slack for
any write, may be timed out. -/
theorem healthy_peer_timed_out :
    ¬∀ (config : Config) (settings : Settings), 0 < config.pongWaitSecs →
      config.settings? = some settings →
      ∀ (earlier : List HubEvent) (user : UserId) (began : Duration) (events : List VigilEvent),
        ((start (Hub.empty.run earlier) user settings began).run events).session.inbound
          ≠ some (.failed .timedOut) := by
  intro always
  exact always { pongWaitSecs := 10 } tenSeconds (by decide) (by decide) [] ⟨1⟩ 0 burst (by decide)

end Vigil

end Parley
