import Parley.Proofs.Hub.Registration
import Parley.Proofs.Session.Reading

/-!
# Runs of the reading side of a session

A `ReaderRun` is a session whose reader looks out for something to act on, while the peer sends what
it likes, time passes, and anything may happen elsewhere on the hub. A reader looks at its signal,
its socket or its clock; where it would find something in several of these places, any of them may
be the one (`ReaderRun.look`). While it awaits the answer to a post it does not look at all. The run
keeps account of what arrived, of the readings, and of what was asked of the creator.
-/

namespace Parley

open Loopback (Arrival)

/-- Something, and the time at which it happened. -/
structure Timed (α : Type) where
  time : Duration
  what : α
  deriving DecidableEq, Repr

/-- Something else at the same time. -/
def Timed.map {α β : Type} (f : α → β) (x : Timed α) : Timed β := ⟨x.time, f x.what⟩

/-- Where a reader looks. -/
inductive Outlook where
  | signal
  | socket
  | clock

/-- What happens while a reader runs. -/
inductive ReaderEvent where
  | elsewhere (event : HubEvent)
  /-- The peer sends something, or the stream fails or ends. -/
  | arrives (arrival : Arrival)
  | looks (outlook : Outlook)
  /-- The answer to a post comes. -/
  | answered (result : Except PostError Unit)
  | passes (span : Duration)

/-- What arrives in an event. -/
def ReaderEvent.arrival? : ReaderEvent → Option Arrival
  | .arrives arrival => some arrival
  | _ => none

/-- A session whose reader runs; its lists are in the order in which things happened. -/
structure ReaderRun where
  now : Duration
  session : Session
  hub : Hub
  /-- What has arrived and is not read, and when it arrived. -/
  inbox : List (Timed Arrival) := []
  /-- All that has arrived. -/
  arrived : List (Timed Arrival) := []
  /-- When somebody else raised the closed signal. -/
  alarm : Option Duration := none
  /-- What the reader found, and when. -/
  readings : List (Timed Reading) := []
  /-- What was asked of the creator. -/
  posts : List Post := []

namespace ReaderRun

/-- A new connection with a reader that starts at a given time. -/
def start (hub : Hub) (user : UserId) (settings : Settings) (capacity : Nat)
    (began : Duration) : ReaderRun where
  now := began
  session := {
    connection := (hub.openFor user capacity).1, user, settings
    reader := .start settings began, writer := .start settings began }
  hub := (hub.openFor user capacity).2

/-- The connection of the session. -/
def connection (r : ReaderRun) : ConnectionId := r.session.connection

/-- Whether the closed signal is raised. -/
def isSignalled (r : ReaderRun) : Bool := r.hub.isClosed r.connection

/-- Whether the reader has ended. -/
def hasEnded (r : ReaderRun) : Bool := r.session.inbound.isSome

/-- Whether the reader looks out for something to act on. -/
def isLooking (r : ReaderRun) : Bool := !r.hasEnded && !r.session.reader.awaiting

/-- What was taken from the socket, and when. -/
def taken (r : ReaderRun) : List (Timed Arrival) :=
  r.readings.filterMap fun x => x.what.arrival?.map (⟨x.time, ·⟩)

/-- The texts of what was taken, and when it was. -/
def texts (r : ReaderRun) : List Incoming :=
  r.taken.filterMap fun x => x.what.reading.content?.map (⟨x.time, ·⟩)

/-- When and how the reader ended: with the last of its readings, if that puts an end to it. -/
def exit? (r : ReaderRun) : Option (Timed SessionExit) :=
  r.readings.getLast?.bind fun x => x.what.exit?.map (⟨x.time, ·⟩)

/-- What the reader finds where it looks, if it finds anything, and what is left to be read. -/
def find? (r : ReaderRun) : Outlook → Option (Reading × List (Timed Arrival))
  | .signal => if r.isSignalled then some (.signal, r.inbox) else none
  | .socket =>
    match r.inbox with
    | arrival :: rest => some (arrival.what.reading, rest)
    | [] => none
  | .clock => if r.session.reader.deadline ≤ r.now then some (.expired, r.inbox) else none

/-- The reader acts on a reading. -/
def act (r : ReaderRun) (reading : Reading) : ReaderRun :=
  let (reaction, session, hub) := r.session.read r.hub r.now reading
  { r with
    session, hub
    readings := r.readings ++ [⟨r.now, reading⟩]
    posts := r.posts ++ (reaction.post? session.user).toList }

/-- The reader acts on what it finds, if it looks out for anything. -/
def look (r : ReaderRun) (outlook : Outlook) : ReaderRun :=
  if r.isLooking then
    match r.find? outlook with
    | some (reading, inbox) => { r with inbox }.act reading
    | none => r
  else r

/-- The post whose answer is awaited. -/
def pending? (r : ReaderRun) : Option Post :=
  if r.session.reader.awaiting then r.posts.getLast? else none

/-- The answer to a post comes, if one is awaited. -/
def answer (r : ReaderRun) (result : Except PostError Unit) : ReaderRun :=
  match r.pending? with
  | some post =>
    let (session, hub) := r.session.answer r.hub post.conversation result
    { r with session, hub }
  | none => r

/-- Something happens elsewhere. -/
def elsewhere (r : ReaderRun) (event : HubEvent) : ReaderRun :=
  let hub := r.hub.after event
  { r with
    hub
    alarm := if !r.isSignalled && hub.isClosed r.connection then some r.now else r.alarm }

/-- A run after an event. -/
def step (r : ReaderRun) : ReaderEvent → ReaderRun
  | .elsewhere event => r.elsewhere event
  | .arrives arrival =>
    { r with
      inbox := r.inbox ++ [⟨r.now, arrival⟩]
      arrived := r.arrived ++ [⟨r.now, arrival⟩] }
  | .looks outlook => r.look outlook
  | .answered result => r.answer result
  | .passes span => { r with now := r.now + span }

/-- A run after further events. -/
def run (r : ReaderRun) (events : List ReaderEvent) : ReaderRun :=
  events.foldl step r

/-- A session starts as a run whose connection is registered first. -/
theorem start_register (hub : Hub) (user : UserId) (settings : Settings) (now : Duration) :
    let r := start hub user settings settings.queueCapacity now
    let registered := r.step (.elsewhere (.handle r.connection .register))
    Session.start hub user settings now = (registered.session, registered.hub) :=
  rfl

end ReaderRun

end Parley
