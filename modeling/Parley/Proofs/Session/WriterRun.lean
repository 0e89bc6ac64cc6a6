import Parley.Proofs.Session.Ownership
import Parley.Session.Basic

/-!
# Runs of the writing side of a session

A `WriterRun` is a session whose writer takes its turns while anything may happen elsewhere on the
hub. A `WriterEvent` is something that happens elsewhere, a turn of the idle writer, or the outcome
of the write that is under way; outcomes and times are arbitrary. The run keeps account of the
envelopes that came into the mailbox and of the frames that the writer attempted to write.

The receiving side of the mailbox belongs to the writer, so what only its owner can do
(`HubEvent.isReserved`) does not happen elsewhere.
-/

namespace Parley

/-- What becomes of a write. -/
inductive WriteOutcome where
  | done
  | refused (reason : String)
  | overdue

namespace WriteOutcome

/-- What the outcome of a write means to the writer. -/
def writing : WriteOutcome → Writing
  | .done => .written
  | .refused reason => .refused reason
  | .overdue => .overdue

/-- What a write failed with, if it failed. -/
def fault? : WriteOutcome → Option TransportFault
  | .done => none
  | .refused reason => some (.write reason)
  | .overdue => some .deadline

end WriteOutcome

/-- What happens while a writer runs. -/
inductive WriterEvent where
  | elsewhere (event : HubEvent)
  | turn (now : Duration)
  | outcome (now : Duration) (outcome : WriteOutcome)

namespace Frame

/-- The text of a text frame. -/
def text? : Frame → Option String
  | .text content => some content
  | _ => none

/-- Whether a frame is a closing frame. -/
def isClose : Frame → Bool
  | .close _ => true
  | _ => false

/-- A text is no closing frame. -/
theorem isClose_of_text? {f : Frame} (h : f.text?.isSome = true) : f.isClose = false := by
  cases f with
  | text content => rfl
  | _ => cases h

end Frame

/-- A write that has come to its end. -/
structure Attempt where
  frame : Frame
  /-- Whether the closed signal had been seen. -/
  flushing : Bool
  /-- What it failed with, if it failed. -/
  fault : Option TransportFault

/-- The text that a write has put on the socket. -/
def Attempt.text? (a : Attempt) : Option String :=
  if a.fault = none then a.frame.text? else none

/-- A session whose writer runs, the envelopes that came into its mailbox, and the writes that have
come to their end; both lists are in the order in which things happened. -/
structure WriterRun where
  session : Session
  hub : Hub
  accepted : List Envelope
  attempts : List Attempt

namespace WriterRun

/-- The connection of the session. -/
def connection (r : WriterRun) : ConnectionId := r.session.connection

/-- The frame that is being written. -/
def underway (r : WriterRun) : Option Frame :=
  r.session.writer.writing.map Prod.fst

/-- Whether the writer has ended. -/
def hasEnded (r : WriterRun) : Bool := r.session.outbound.isSome

/-- Whether the writer has seen the closed signal. -/
def isFlushing (r : WriterRun) : Bool := r.session.writer.stage ≠ .serving

/-- The texts that were written. -/
def texts (r : WriterRun) : List String := r.attempts.filterMap Attempt.text?

/-- The frames whose write began after the closed signal was seen. -/
def flush (r : WriterRun) : List Frame :=
  (r.attempts.filter Attempt.flushing).map Attempt.frame ++
    if r.isFlushing then r.underway.toList else []

/-- A new connection with a writer that starts at a given time. -/
def start (hub : Hub) (user : UserId) (settings : Settings) (capacity : Nat)
    (began : Duration) : WriterRun where
  session := {
    connection := (hub.openFor user capacity).1, user, settings
    reader := .start settings began, writer := .start settings began }
  hub := (hub.openFor user capacity).2
  accepted := []
  attempts := []

/-- Something happens elsewhere. -/
def elsewhere (r : WriterRun) (event : HubEvent) : WriterRun :=
  if event.isReserved r.connection then r
  else { r with
    hub := r.hub.after event
    accepted := r.accepted ++ r.hub.accepted r.connection event }

/-- The writer takes its turn, if it is idle. -/
def turn (r : WriterRun) (now : Duration) : WriterRun :=
  if r.hasEnded || r.underway.isSome then r
  else
    match r.session.turn? r.hub now with
    | none => r
    | some (writing, hub) =>
      let (session, hub) := r.session.write hub now writing
      { r with session, hub }

/-- The write that is under way comes to its end. -/
def outcome (r : WriterRun) (now : Duration) (outcome : WriteOutcome) : WriterRun :=
  if r.hasEnded then r
  else
    match r.underway with
    | none => r
    | some frame =>
      let (session, hub) := r.session.write r.hub now outcome.writing
      { r with
        session, hub
        attempts := r.attempts ++ [⟨frame, r.isFlushing, outcome.fault?⟩] }

/-- A run after an event. -/
def step (r : WriterRun) : WriterEvent → WriterRun
  | .elsewhere event => r.elsewhere event
  | .turn now => r.turn now
  | .outcome now outcome => r.outcome now outcome

/-- A run after further events. -/
def run (r : WriterRun) (events : List WriterEvent) : WriterRun :=
  events.foldl step r

/-- A session starts as a run whose connection is registered first. -/
theorem start_register (hub : Hub) (user : UserId) (settings : Settings) (now : Duration) :
    let r := start hub user settings settings.queueCapacity now
    let registered := r.step (.elsewhere (.handle r.connection .register))
    Session.start hub user settings now = (registered.session, registered.hub) := by
  intro r registered
  have hfree : (HubEvent.handle r.connection .register).isReserved r.connection = false := by
    simp [HubEvent.isReserved, Handling.isReserved]
  have hregistered : registered = { r with
      hub := r.hub.register r.connection
      accepted := r.accepted ++ r.hub.accepted r.connection (.handle r.connection .register) } := by
    change r.elsewhere _ = _
    rw [elsewhere, hfree]
    rfl
  rw [hregistered]
  rfl

end WriterRun

namespace Session

variable {s : Session} {hub : Hub} {t : Standing}

/-- What a serving writer turns to. As it holds the connection and listens, it never finds that its
mailbox has ended. -/
theorem turn?_of_serving (hs : hub.standing? s.connection = some t)
    (serving : s.writer.stage = .serving) (held : t.connection.held = true)
    (listening : t.connection.mailbox.receiver = .listening) (now : Duration) :
    s.turn? hub now =
      if t.connection.isClosed then some (.signal, hub)
      else
        match t.queue with
        | e :: _ => some (.dequeued e, hub.handle s.connection .receive)
        | [] => if s.writer.pingDue ≤ now then some (.tick, hub) else none := by
  have hclosed : s.isSignalled hub = t.connection.isClosed := by
    rw [isSignalled, Hub.connection?_eq_standing?, hs]
    rfl
  have hconnected : hub.isDisconnected s.connection = false := by
    rw [Hub.isDisconnected, Hub.connection?_eq_standing?, hs]
    simp [Connection.isDisconnected, held, listening]
  unfold turn?
  rw [serving, hclosed, Hub.dequeue_eq_queueOf, Hub.queueOf_of_some hs, hconnected]
  cases t.queue <;> rfl

/-- What a draining writer turns to. -/
theorem turn?_of_draining (hs : hub.standing? s.connection = some t)
    (draining : s.writer.stage = .draining) (now : Duration) :
    s.turn? hub now =
      match t.queue with
      | e :: _ => some (.dequeued e, hub.handle s.connection .receive)
      | [] => some (.emptied, hub) := by
  unfold turn?
  rw [draining, Hub.dequeue_eq_queueOf, Hub.queueOf_of_some hs]
  cases t.queue <;> rfl

end Session

end Parley
