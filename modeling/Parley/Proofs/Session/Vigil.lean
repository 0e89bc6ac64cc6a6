import Parley.Loopback.Socket
import Parley.Proofs.Session.Locality
import Parley.Proofs.Session.Timely

/-!
# A session over time

A `Vigil` is a session at some moment, with what has arrived for it and is not read yet. Its peer is
healthy: the pong that answers a ping arrives when the write of the ping is done. Its sides do not
idle: time passes only while both of them wait (`Vigil.waits`), and no write takes as long as half
of `Settings.slack`. All else is arbitrary: what is done elsewhere on the hub, what the peer sends
of its own accord, which side acts first, and what posts are answered with, which takes no time.
-/

namespace Parley

open Loopback (Arrival)

namespace Session

variable {s : Session} {hub : Hub} {t : Standing} {f : Hub → Session × Hub}

/-- The reader acts on a reading, and a post is answered at once. -/
def readAnswered (s : Session) (hub : Hub) (now : Duration) (reading : Reading)
    (result : Except PostError Unit) : Session × Hub :=
  match s.read hub now reading with
  | (.post conversation _, s, hub) => s.answer hub conversation result
  | (_, s, hub) => (s, hub)

/-- What a reading does, with the answer to a post if it makes one. -/
theorem readAnswered_eq (s : Session) (hub : Hub) (now : Duration) (reading : Reading)
    (result : Except PostError Unit) :
    s.readAnswered hub now reading result =
      let after := (s.read hub now reading).2
      match (s.reader.react s.settings now reading).1 with
      | .post conversation _ => after.1.answer after.2 conversation result
      | _ => after := by
  unfold readAnswered read
  cases s.reader.react s.settings now reading with
  | mk reaction reader => cases reaction <;> rfl

/-- What the reader does with a reading and its answer is local to its session. -/
theorem acts_readAnswered (s : Session) (t : Standing) (now : Duration) (reading : Reading)
    (result : Except PostError Unit) :
    s.Acts t fun hub => s.readAnswered hub now reading result := by
  have acts := s.acts_read t now reading
  simp only [readAnswered_eq]
  cases (s.reader.react s.settings now reading).1 with
  | post conversation content =>
    exact acts.andThen fun s' t' => s'.acts_answer t' conversation result
  | _ => exact acts

/-- A step of a session leaves its connection standing. Where the signal is down afterwards, it was
down before, and the writer has not ended in the step. -/
theorem Acts.after (acts : s.Acts t f) (tidy : hub.Tidy)
    (hs : hub.standing? s.connection = some t) :
    (f hub).2.Tidy ∧ (∃ t', (f hub).2.standing? (f hub).1.connection = some t') ∧
      ((f hub).1.isSignalled (f hub).2 = false →
        s.isSignalled hub = false ∧ (f hub).1.outbound = s.outbound) := by
  obtain ⟨s', handlings, moves, acts⟩ := acts
  obtain ⟨same, handled⟩ := acts hub tidy hs
  have stands : (f hub).2.standing? (f hub).1.connection = some (t.meetAll handlings) := by
    rw [same, moves.connection, handled.standing, if_pos rfl, hs]
    rfl
  refine ⟨handled.tidy, ⟨_, stands⟩, fun down => ?_⟩
  rw [isSignalled_eq _ stands, ← Bool.not_eq_true,
    Standing.isClosed_meetAll moves.noClose moves.released, not_or] at down
  refine ⟨?_, ?_⟩
  · rw [isSignalled_eq _ hs, ← Bool.not_eq_true]
    exact down.1
  · rw [same]
    exact moves.outbound.resolve_right fun ended => down.2 ended.2

end Session

/-- What a healthy peer sends as soon as a frame has reached it. -/
def Frame.reply : Frame → List Arrival
  | .ping bytes => [.frame (.pong bytes)]
  | _ => []

/-- What happens in the course of a vigil. -/
inductive VigilEvent where
  /-- Others do something on the hub. -/
  | elsewhere (event : HubEvent)
  /-- The peer sends something of its own accord. -/
  | arrives (arrival : Arrival)
  /-- The reader sees the closed signal. -/
  | heeds
  /-- The reader takes what arrived first, or finds that no pong came in time. -/
  | reads (result : Except PostError Unit)
  /-- The idle writer takes its turn. -/
  | turns
  /-- The frame under way has been written. -/
  | writes
  | passes (span : Duration)

/-- A session at some moment, and what has arrived and is not read, oldest first. -/
structure Vigil where
  now : Duration
  session : Session
  hub : Hub
  inbox : List Arrival := []

namespace Vigil

/-- A session that has just been started. -/
def start (hub : Hub) (user : UserId) (settings : Settings) (now : Duration) : Vigil where
  now
  session := (Session.start hub user settings now).1
  hub := (Session.start hub user settings now).2

/-- Whether the closed signal is raised. -/
def isSignalled (v : Vigil) : Bool := v.session.isSignalled v.hub

/-- What the writer turns to, if it is idle and finds anything. -/
def turn? (v : Vigil) : Option (Writing × Hub) :=
  if v.session.outbound.isSome || v.session.writer.writing.isSome then none
  else v.session.turn? v.hub v.now

/-- Whether the reader waits until a given time at least. -/
def readerWaits (v : Vigil) (later : Duration) : Bool :=
  v.session.inbound.isSome ||
    (!v.isSignalled && v.inbox.isEmpty && decide (later ≤ v.session.reader.deadline))

/-- Whether the writer waits until a given time at least, be it that a write takes as long. -/
def writerWaits (v : Vigil) (later : Duration) : Bool :=
  v.session.outbound.isSome ||
    match v.session.writer.writing with
    | some (_, began) => decide (2 * (later - began) < v.session.settings.slack)
    | none => v.turn?.isNone && decide (later ≤ v.session.writer.pingDue)

/-- Whether both sides wait while a span passes. -/
def waits (v : Vigil) (span : Duration) : Bool :=
  v.readerWaits (v.now + span) && v.writerWaits (v.now + span)

/-- The session after a step that it takes. -/
def withSession (v : Vigil) (after : Session × Hub) : Vigil :=
  { v with session := after.1, hub := after.2 }

/-- The reader takes what arrived first, or finds that no pong came in time. -/
def read (v : Vigil) (result : Except PostError Unit) : Vigil :=
  match v.inbox with
  | arrival :: rest =>
    { v with inbox := rest }.withSession
      (v.session.readAnswered v.hub v.now arrival.reading result)
  | [] =>
    if v.session.reader.deadline ≤ v.now then
      v.withSession (v.session.readAnswered v.hub v.now .expired result)
    else v

/-- A vigil after an event, if it is one that can happen. -/
def step (v : Vigil) : VigilEvent → Vigil
  | .elsewhere event =>
    if event.isReserved v.session.connection then v else { v with hub := v.hub.after event }
  | .arrives arrival => { v with inbox := v.inbox ++ [arrival] }
  | .heeds =>
    if v.session.inbound.isNone && v.isSignalled then
      v.withSession (v.session.read v.hub v.now .signal).2
    else v
  | .reads result => if v.session.inbound.isNone then v.read result else v
  | .turns =>
    match v.turn? with
    | some (writing, hub) => v.withSession (v.session.write hub v.now writing)
    | none => v
  | .writes =>
    match v.session.outbound, v.session.writer.writing with
    | none, some (frame, _) =>
      { v with inbox := v.inbox ++ frame.reply }.withSession
        (v.session.write v.hub v.now .written)
    | _, _ => v
  | .passes span => if v.waits span then { v with now := v.now + span } else v

/-- A vigil after a run. -/
def run (v : Vigil) (events : List VigilEvent) : Vigil := events.foldl step v

/-- Whether the writer is about to take an envelope although a ping is due. -/
def isOvertaken (v : Vigil) : Bool :=
  match v.turn? with
  | some (.dequeued _, _) =>
    decide (v.session.writer.stage = .serving ∧ v.session.writer.pingDue ≤ v.now)
  | _ => false

end Vigil

end Parley
