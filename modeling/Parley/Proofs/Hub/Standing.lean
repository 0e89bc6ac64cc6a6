import Parley.Proofs.Hub.Effect

/-!
# Runs of the hub, seen from one connection

A run is a list of `HubEvent`s in the order in which they happen. `Hub.standing?` is how a
connection stands on a hub: the connection itself and whether it is registered. What an event means
to a connection is a `Moment`, and `Standing.meet` is what the connection makes of it.

The theory says that nothing else counts. One event takes the standing of a connection to what it
makes of its moment (`standing?_after_of_some`), whatever the other connections are, and so a run
takes it through the moments of its `Life` (`standing?_run`, `received_run`).
-/

namespace Parley

/-- What is done with a connection, other than putting something into its mailbox. -/
inductive Handling where
  | register
  | unregister
  | close
  | markClosed
  | release
  | closeQueue
  | dropQueue
  | receive
  deriving DecidableEq, Repr

/-- What happens to a hub. -/
inductive HubEvent where
  | openFor (user : UserId) (capacity : Nat)
  | handle (id : ConnectionId) (handling : Handling)
  | enqueue (id : ConnectionId) (envelope : Envelope)
  | fanOut (users : List UserId) (envelope : Envelope)
  | broadcast (participants : Except LookupError (List UserId)) (conversation : ConversationId)
      (message : Json)

/-- What happens to one connection. -/
inductive Moment where
  | handled (handling : Handling)
  | enqueued (envelope : Envelope)
  /-- An envelope is fanned out to the user of the connection. -/
  | offered (envelope : Envelope)

/-! ### What a connection makes of a moment -/

namespace Connection

/-- Whether an envelope would be accepted. -/
def admits (c : Connection) : Bool :=
  !c.isClosed && c.mailbox.receiver = .listening && c.mailbox.queue.length < c.mailbox.capacity

/-- A connection after it was handled. -/
def handled (c : Connection) : Handling → Connection
  | .register => c
  | .unregister => c.close
  | .close => c.close
  | .markClosed => c.markClosed
  | .release => c.release
  | .closeQueue => c.closeQueue
  | .dropQueue => c.dropQueue
  | .receive => c.dequeue.elim c Prod.snd

/-- An envelope goes to the end of the queue if it is accepted, and otherwise the mailbox stays. -/
theorem mailbox_enqueue (c : Connection) (e : Envelope) :
    (c.enqueue e).2.mailbox =
      if c.admits then { c.mailbox with queue := c.mailbox.queue ++ [e] } else c.mailbox := by
  unfold Connection.enqueue admits Mailbox.offer
  by_cases hclosed : c.isClosed = true
  · simp [hclosed]
  · by_cases hlistening : c.mailbox.receiver = .listening
    · by_cases hroom : c.mailbox.queue.length < c.mailbox.capacity <;>
        simp [hclosed, hlistening, hroom]
    · simp [hclosed, hlistening]

/-- An offer leaves the user as it is. -/
@[simp] theorem user_enqueue (c : Connection) (e : Envelope) : (c.enqueue e).2.user = c.user :=
  (c.enqueue_frame e).1

/-- Taking an envelope out leaves the rest of the queue. -/
theorem dequeue_eq (c : Connection) :
    c.dequeue = match c.mailbox.queue with
      | [] => none
      | e :: rest => some (e, { c with mailbox := { c.mailbox with queue := rest } }) := by
  unfold dequeue Mailbox.take
  cases c.mailbox.queue <;> rfl

/-- Whatever is done to a connection, its user stays. -/
@[simp] theorem user_handled (c : Connection) (h : Handling) : (c.handled h).user = c.user := by
  cases h with
  | receive =>
      simp only [handled, dequeue_eq]
      cases c.mailbox.queue <;> rfl
  | _ => rfl

end Connection

/-- A connection, and whether it is registered. -/
structure Standing where
  connection : Connection
  registered : Bool

namespace Standing

/-- A connection that was just opened. -/
def new (user : UserId) (capacity : Nat) : Standing :=
  ⟨.new user capacity, false⟩

/-- The user of the connection. -/
def user (s : Standing) : UserId := s.connection.user

/-- What is queued. -/
def queue (s : Standing) : List Envelope := s.connection.mailbox.queue

/-- Whether a handled connection is registered. -/
def registeredAfter (s : Standing) : Handling → Bool
  | .register => s.registered || !s.connection.isClosed
  | .unregister => false
  | _ => s.registered

/-- Whether an envelope that is fanned out to the user comes to the connection. -/
def isReached (s : Standing) : Bool :=
  s.registered && s.connection.held

/-- A connection after a moment. -/
def meet (s : Standing) : Moment → Standing
  | .handled h => ⟨s.connection.handled h, s.registeredAfter h⟩
  | .enqueued e => { s with connection := (s.connection.enqueue e).2 }
  | .offered e => if s.isReached then { s with connection := (s.connection.enqueue e).2 } else s

/-- The envelope that is received in a moment. -/
def handed? (s : Standing) : Moment → Option Envelope
  | .handled .receive => s.connection.dequeue.map Prod.fst
  | _ => none

/-- The envelopes that are received in the course of moments. -/
def received (s : Standing) : List Moment → List Envelope
  | [] => []
  | m :: rest => (s.handed? m).toList ++ (s.meet m).received rest

/-- Only registering and unregistering make a difference to whether a connection is registered. -/
theorem registeredAfter_of_ne {s : Standing} {h : Handling} (hr : h ≠ .register)
    (hu : h ≠ .unregister) : s.registeredAfter h = s.registered := by
  cases h with
  | register => exact absurd rfl hr
  | unregister => exact absurd rfl hu
  | _ => rfl

/-- Whatever a connection meets with, its user stays. -/
@[simp] theorem user_meet (s : Standing) (m : Moment) : (s.meet m).user = s.user := by
  cases m with
  | handled h => exact s.connection.user_handled h
  | enqueued e => exact s.connection.user_enqueue e
  | offered e =>
      unfold meet
      split_ifs
      · exact s.connection.user_enqueue e
      · rfl

end Standing

/-! ### Events and runs -/

namespace Hub

/-- How a connection stands. -/
def standing? (hub : Hub) (c : ConnectionId) : Option Standing :=
  (hub.connection? c).map fun conn => ⟨conn, hub.isRegistered c⟩

/-- A hub after a connection was handled. -/
def handle (hub : Hub) (id : ConnectionId) : Handling → Hub
  | .register => hub.register id
  | .unregister => hub.unregister id
  | .close => hub.update id Connection.close
  | .markClosed => hub.update id Connection.markClosed
  | .release => hub.update id Connection.release
  | .closeQueue => hub.update id Connection.closeQueue
  | .dropQueue => hub.update id Connection.dropQueue
  | .receive => (hub.dequeue id).elim hub Prod.snd

/-- A hub after an event. -/
def after (hub : Hub) : HubEvent → Hub
  | .openFor user capacity => (hub.openFor user capacity).2
  | .handle id handling => hub.handle id handling
  | .enqueue id e => (hub.enqueue id e).2
  | .fanOut users e => (hub.fanOut users e).2
  | .broadcast participants conversation message =>
    (hub.broadcast participants conversation message).2

/-- A hub after a run. -/
def run (hub : Hub) (events : List HubEvent) : Hub :=
  events.foldl after hub

/-- The envelope that an event takes out of the mailbox of a connection. -/
def handed? (hub : Hub) (c : ConnectionId) : HubEvent → Option Envelope
  | .handle id .receive => if id = c then (hub.dequeue c).map Prod.fst else none
  | _ => none

/-- The envelopes that a run takes out of the mailbox of a connection, in their order. -/
def received (hub : Hub) (c : ConnectionId) : List HubEvent → List Envelope
  | [] => []
  | event :: rest => (hub.handed? c event).toList ++ (hub.after event).received c rest

end Hub

/-- What an event means to a connection of a user. -/
def HubEvent.moment? (c : ConnectionId) (user : UserId) : HubEvent → Option Moment
  | .openFor _ _ => none
  | .handle id handling => if id = c then some (.handled handling) else none
  | .enqueue id e => if id = c then some (.enqueued e) else none
  | .fanOut users e => if user ∈ users then some (.offered e) else none
  | .broadcast (.ok users) conversation message =>
    if user ∈ users then some (.offered (.newMessage conversation message)) else none
  | .broadcast (.error _) _ _ => none

/-- A connection is handled in a moment only if the event says so. -/
theorem HubEvent.eq_handle_of_moment? {c : ConnectionId} {user : UserId} {event : HubEvent}
    {h : Handling} (hm : event.moment? c user = some (.handled h)) : event = .handle c h := by
  cases event with
  | handle id handling =>
      rw [moment?] at hm
      split_ifs at hm with hc
      cases hm
      rw [hc]
  | broadcast participants conversation message =>
      cases participants with
      | error e => cases hm
      | ok users =>
          rw [moment?] at hm
          split_ifs at hm
          cases hm
  | openFor user capacity => cases hm
  | _ =>
      rw [moment?] at hm
      split_ifs at hm
      cases hm

/-- What a connection is opened with, and what happens to it from then on. -/
structure Life where
  user : UserId
  capacity : Nat
  moments : List Moment

namespace Life

/-- How a connection stands in the end. -/
def standing (life : Life) : Standing :=
  life.moments.foldl Standing.meet (.new life.user life.capacity)

/-- The envelopes that are received from a connection. -/
def received (life : Life) : List Envelope :=
  (Standing.new life.user life.capacity).received life.moments

end Life

/-- The life of a connection in the part of a run that begins when some connections are open
already, unless it is one of these. Ids are given in the order of opening. -/
def lifeFrom? (c : ConnectionId) (already : Nat) : List HubEvent → Option Life
  | [] => none
  | .openFor user capacity :: rest =>
    if already = c then some ⟨user, capacity, rest.filterMap (·.moment? c user)⟩
    else lifeFrom? c (already + 1) rest
  | _ :: rest => lifeFrom? c already rest

/-- The life of a connection in a run. -/
def life? (c : ConnectionId) (events : List HubEvent) : Option Life :=
  lifeFrom? c 0 events

namespace Hub

variable {hub : Hub}

/-! ### One event -/

/-- Handling concerns the connection that is handled, and no other. -/
theorem connection?_handle (id c : ConnectionId) (h : Handling) :
    (hub.handle id h).connection? c =
      if c = id then (hub.connection? c).map (·.handled h) else hub.connection? c := by
  cases h with
  | register =>
      rw [handle, connection?_register]
      simp [Connection.handled]
  | unregister => exact connection?_unregister id c
  | receive =>
      rw [handle, dequeue_eq]
      cases hconn : hub.connection? id with
      | none =>
          split_ifs with hc
          · rw [hc, hconn]
            exact hconn
          · rfl
      | some conn =>
          cases hdeq : conn.dequeue with
          | none =>
              split_ifs with hc
              · rw [hc, hconn, Option.map_some, Connection.handled, hdeq]
                simpa [hdeq] using hconn
              · simp [hdeq]
          | some p =>
              simp only [Option.bind_some, hdeq, Option.map_some, Option.elim_some,
                connection?_update]
              split_ifs with hc
              · simp [hc, hconn, Connection.handled, hdeq]
              · rfl
  | _ => exact connection?_update id c _

/-- Handling a connection changes nobody's user. -/
@[simp] theorem userOf?_handle (id c : ConnectionId) (h : Handling) :
    (hub.handle id h).userOf? c = hub.userOf? c := by
  unfold userOf?
  rw [connection?_handle]
  split_ifs
  · simp [Function.comp_def]
  · rfl

/-- The roster changes only when a connection is registered or unregistered. -/
theorem roster_handle (id : ConnectionId) {h : Handling} (hr : h ≠ .register)
    (hu : h ≠ .unregister) : (hub.handle id h).roster = hub.roster := by
  cases h with
  | register => exact absurd rfl hr
  | unregister => exact absurd rfl hu
  | receive =>
      rw [handle, dequeue_eq]
      cases hub.connection? id with
      | none => rfl
      | some conn =>
          simp only [Option.bind_some]
          cases conn.dequeue <;> rfl
  | _ => rfl

/-- Handling a connection keeps a hub tidy. -/
theorem Tidy.handle (tidy : hub.Tidy) (id : ConnectionId) (h : Handling) :
    (hub.handle id h).Tidy := by
  by_cases hr : h = .register
  · exact hr ▸ tidy.register id
  · by_cases hu : h = .unregister
    · exact hu ▸ tidy.unregister id
    · refine tidy.congr (roster_handle id hr hu) fun c u huser => ?_
      rwa [userOf?_handle]

/-- Whether connections are registered changes only when one is registered or unregistered. -/
theorem isRegistered_handle_of_ne (id c : ConnectionId) {h : Handling} (hr : h ≠ .register)
    (hu : h ≠ .unregister) : (hub.handle id h).isRegistered c = hub.isRegistered c :=
  isRegistered_congr (roster_handle id hr hu) (userOf?_handle id c h)

/-- A handled connection makes of it what it will, and no other connection notices. -/
theorem standing?_handle (tidy : hub.Tidy) (id c : ConnectionId) (h : Handling) :
    (hub.handle id h).standing? c =
      if c = id then (hub.standing? c).map (·.meet (.handled h)) else hub.standing? c := by
  have hreg : ∀ conn, hub.connection? c = some conn →
      (hub.handle id h).isRegistered c =
        if c = id then Standing.registeredAfter ⟨conn, hub.isRegistered c⟩ h
        else hub.isRegistered c := by
    intro conn hconn
    by_cases hr : h = .register
    · subst hr
      rw [handle, Bool.eq_iff_iff, isRegistered_register, hconn]
      split_ifs with hc <;> simp [hc, Standing.registeredAfter]
    · by_cases hu : h = .unregister
      · subst hu
        rw [handle, Bool.eq_iff_iff, isRegistered_unregister tidy]
        split_ifs with hc <;> simp [hc, Standing.registeredAfter]
      · rw [isRegistered_handle_of_ne id c hr hu, Standing.registeredAfter_of_ne hr hu, ite_self]
  unfold standing?
  rw [connection?_handle]
  cases hconn : hub.connection? c with
  | none => simp
  | some conn =>
      rw [hreg conn hconn]
      split_ifs <;> rfl

/-- Offering an envelope keeps a hub tidy. -/
theorem Tidy.enqueue (tidy : hub.Tidy) (id : ConnectionId) (e : Envelope) :
    (hub.enqueue id e).2.Tidy := by
  rw [enqueue_snd]
  refine tidy.congr rfl fun c u huser => ?_
  rwa [userOf?_update fun conn => conn.user_enqueue e]

/-- Offering an envelope registers and unregisters nobody. -/
@[simp] theorem isRegistered_enqueue (id c : ConnectionId) (e : Envelope) :
    (hub.enqueue id e).2.isRegistered c = hub.isRegistered c := by
  rw [enqueue_snd]
  exact isRegistered_congr rfl (userOf?_update (fun conn => conn.user_enqueue e) c)

/-- A connection meets with an offer made to it, and with no other. -/
theorem standing?_enqueue (id c : ConnectionId) (e : Envelope) :
    (hub.enqueue id e).2.standing? c =
      if c = id then (hub.standing? c).map (·.meet (.enqueued e)) else hub.standing? c := by
  unfold standing?
  rw [isRegistered_enqueue, connection?_enqueue]
  split_ifs
  · simp [Standing.meet, Function.comp_def]
  · rfl

/-- Fanning out keeps a hub tidy. -/
theorem Tidy.fanOut (tidy : hub.Tidy) (users : List UserId) (e : Envelope) :
    (hub.fanOut users e).2.Tidy := by
  refine tidy.congr (roster_fanOut users e) fun c u huser => ?_
  rwa [userOf?_fanOut tidy]

/-- Fanning out registers and unregisters nobody. -/
theorem isRegistered_fanOut (tidy : hub.Tidy) (users : List UserId) (e : Envelope)
    (c : ConnectionId) : (hub.fanOut users e).2.isRegistered c = hub.isRegistered c :=
  isRegistered_congr (roster_fanOut users e) (userOf?_fanOut tidy users e c)

/-- Of an envelope that is fanned out a connection notices whether its user is listed, and no
more. -/
theorem standing?_fanOut (tidy : hub.Tidy) (users : List UserId) (e : Envelope)
    (c : ConnectionId) :
    (hub.fanOut users e).2.standing? c =
      (hub.standing? c).map fun s => if s.user ∈ users then s.meet (.offered e) else s := by
  unfold standing?
  rw [isRegistered_fanOut tidy, connection?_fanOut tidy, Option.map_map, Option.map_map]
  congr 1
  funext conn
  simp only [Function.comp_apply, Standing.user, Standing.meet, Standing.isReached,
    Bool.and_eq_true]
  by_cases hu : conn.user ∈ users
  · by_cases hreach : hub.isRegistered c = true ∧ conn.held = true
    · simp only [hu, hreach, true_and, if_true]
    · rw [if_neg (fun h => hreach h.2), if_pos hu, if_neg hreach]
  · rw [if_neg (fun h => hu h.1), if_neg hu]

/-- Opening a connection keeps a hub tidy. -/
theorem Tidy.openFor (tidy : hub.Tidy) (user : UserId) (capacity : Nat) :
    (hub.openFor user capacity).2.Tidy := by
  refine tidy.congr rfl fun c u huser => ?_
  unfold userOf? at huser ⊢
  rw [connection?_openFor, if_neg]
  · exact huser
  · rintro rfl
    rw [connection?_eq_none_iff.mpr (Nat.le_refl _)] at huser
    exact absurd huser (by simp)

/-- A new connection is not registered: nothing stands on the roster that does not exist. -/
theorem isRegistered_openFor (tidy : hub.Tidy) (user : UserId) (capacity : Nat)
    (c : ConnectionId) :
    (hub.openFor user capacity).2.isRegistered c = hub.isRegistered c := by
  by_cases hc : c = hub.connections.length
  · have hnone : hub.connection? c = none :=
      connection?_eq_none_iff.mpr (Nat.le_of_eq hc.symm)
    have off : ∀ u, c ∉ hub.roster.idsOf u := by
      intro u hmem
      have hown := tidy.owned u c hmem
      rw [userOf?, hnone] at hown
      exact absurd hown (by simp)
    rw [Bool.eq_iff_iff, isRegistered_iff, isRegistered_iff]
    constructor
    · rintro ⟨u, -, hmem⟩
      exact absurd hmem (off u)
    · rintro ⟨u, -, hmem⟩
      exact absurd hmem (off u)
  · refine isRegistered_congr rfl ?_
    unfold userOf?
    rw [connection?_openFor, if_neg hc]

/-- A new connection is not registered, and the others stand as they did. -/
theorem standing?_openFor (tidy : hub.Tidy) (user : UserId) (capacity : Nat)
    (c : ConnectionId) :
    (hub.openFor user capacity).2.standing? c =
      if c = hub.connections.length then some (.new user capacity) else hub.standing? c := by
  unfold standing?
  rw [connection?_openFor, isRegistered_openFor tidy]
  split_ifs with hc
  · have hnone : hub.connection? c = none :=
      connection?_eq_none_iff.mpr (Nat.le_of_eq hc.symm)
    have hreg : hub.isRegistered c = false := by simp [isRegistered, hnone]
    rw [Option.map_some, hreg]
    rfl
  · rfl

/-- Every event keeps a hub tidy. -/
theorem Tidy.after (tidy : hub.Tidy) (event : HubEvent) : (hub.after event).Tidy := by
  cases event with
  | openFor user capacity => exact tidy.openFor user capacity
  | handle id h => exact tidy.handle id h
  | enqueue id e => exact tidy.enqueue id e
  | fanOut users e => exact tidy.fanOut users e
  | broadcast participants conversation message =>
      cases participants with
      | error e => exact tidy.congr rfl fun _ _ h => h
      | ok users => exact tidy.fanOut users _

/-- Every run keeps a hub tidy. -/
theorem Tidy.run (tidy : hub.Tidy) (events : List HubEvent) : (hub.run events).Tidy := by
  induction events generalizing hub with
  | nil => exact tidy
  | cons event rest ih => exact ih (tidy.after event)

/-! ### What an event means to a connection -/

/-- An event takes a connection to what it makes of its moment, and leaves it alone if the event
means nothing to it. -/
theorem standing?_after_of_some (tidy : hub.Tidy) {c : ConnectionId} {s : Standing}
    (hs : hub.standing? c = some s) (event : HubEvent) :
    (hub.after event).standing? c = some ((event.moment? c s.user).elim s s.meet) := by
  have offered : ∀ users e, (hub.fanOut users e).2.standing? c =
      some ((if s.user ∈ users then some (Moment.offered e) else none).elim s s.meet) := by
    intro users e
    rw [standing?_fanOut tidy, hs, Option.map_some]
    split_ifs <;> rfl
  cases event with
  | openFor user capacity =>
      have hc : c ≠ hub.connections.length := by
        rintro rfl
        rw [standing?, connection?_eq_none_iff.mpr (Nat.le_refl _)] at hs
        exact absurd hs (by simp)
      rw [after, standing?_openFor tidy, if_neg hc, hs]
      rfl
  | handle id h =>
      rw [after, standing?_handle tidy, hs, HubEvent.moment?]
      by_cases hc : c = id
      · rw [if_pos hc, if_pos hc.symm]
        rfl
      · rw [if_neg hc, if_neg (Ne.symm hc)]
        rfl
  | enqueue id e =>
      rw [after, standing?_enqueue, hs, HubEvent.moment?]
      by_cases hc : c = id
      · rw [if_pos hc, if_pos hc.symm]
        rfl
      · rw [if_neg hc, if_neg (Ne.symm hc)]
        rfl
  | fanOut users e => exact offered users e
  | broadcast participants conversation message =>
      cases participants with
      | error e => exact hs
      | ok users => exact offered users _

/-- Ids without a standing come after all others. -/
theorem standing?_eq_none_iff {c : ConnectionId} :
    hub.standing? c = none ↔ hub.connections.length ≤ c := by
  rw [standing?, Option.map_eq_none_iff, connection?_eq_none_iff]

/-- An event takes out of a mailbox what the connection hands out in its moment. -/
theorem handed?_of_some {c : ConnectionId} {s : Standing} (hs : hub.standing? c = some s)
    (event : HubEvent) : hub.handed? c event = (event.moment? c s.user).bind s.handed? := by
  obtain ⟨conn, hconn, rfl⟩ := Option.map_eq_some_iff.mp hs
  have offered : ∀ (users : List UserId) e,
      (if conn.user ∈ users then some (Moment.offered e) else none).bind
      (Standing.handed? ⟨conn, hub.isRegistered c⟩) = none := by
    intro users e
    split_ifs <;> rfl
  cases event with
  | openFor user capacity => rfl
  | handle id h =>
      rw [HubEvent.moment?]
      by_cases hc : id = c
      · rw [if_pos hc, Option.bind_some]
        cases h with
        | receive =>
            rw [handed?, if_pos hc, dequeue_eq, hconn, Option.bind_some, Standing.handed?,
              Option.map_map]
            rfl
        | _ => rfl
      · rw [if_neg hc]
        cases h with
        | receive => exact if_neg hc
        | _ => rfl
  | enqueue id e =>
      rw [HubEvent.moment?]
      split_ifs <;> rfl
  | fanOut users e => exact (offered users e).symm
  | broadcast participants conversation message =>
      cases participants with
      | error e => rfl
      | ok users => exact (offered users _).symm

/-- Nothing is taken from a connection that does not exist yet. -/
theorem handed?_of_none {c : ConnectionId} (hc : hub.connections.length ≤ c) (event : HubEvent) :
    hub.handed? c event = none := by
  cases event with
  | handle id h =>
      cases h with
      | receive =>
          rw [handed?, dequeue_eq, connection?_eq_none_iff.mpr hc]
          exact ite_self none
      | _ => rfl
  | _ => rfl

/-- Hubs with the same ids have equally many connections. -/
theorem length_eq_of_none_iff {hub' : Hub}
    (h : ∀ c, hub'.connection? c = none ↔ hub.connection? c = none) :
    hub'.connections.length = hub.connections.length := by
  simp only [connection?_eq_none_iff] at h
  exact Nat.le_antisymm ((h _).mpr (Nat.le_refl _)) ((h _).mp (Nat.le_refl _))

/-- Only opening adds a connection. -/
theorem length_after (tidy : hub.Tidy) {event : HubEvent}
    (h : ∀ user capacity, event ≠ .openFor user capacity) :
    (hub.after event).connections.length = hub.connections.length := by
  have fanOut : ∀ users e c, (hub.fanOut users e).2.connection? c = none ↔
      hub.connection? c = none := by
    intro users e c
    rw [connection?_fanOut tidy, Option.map_eq_none_iff]
  apply length_eq_of_none_iff
  intro c
  cases event with
  | openFor user capacity => exact absurd rfl (h user capacity)
  | handle id handling =>
      rw [after, connection?_handle]
      split_ifs
      · exact Option.map_eq_none_iff
      · exact Iff.rfl
  | enqueue id e =>
      rw [after, connection?_enqueue]
      split_ifs
      · exact Option.map_eq_none_iff
      · exact Iff.rfl
  | fanOut users e => exact fanOut users e c
  | broadcast participants conversation message =>
      cases participants with
      | error e => exact Iff.rfl
      | ok users => exact fanOut users _ c

/-! ### Runs -/

/-- A run takes an open connection through its moments. -/
theorem run_of_some (tidy : hub.Tidy) {c : ConnectionId} {s : Standing}
    (hs : hub.standing? c = some s) (events : List HubEvent) :
    (hub.run events).standing? c =
        some ((events.filterMap (·.moment? c s.user)).foldl Standing.meet s) ∧
      hub.received c events = s.received (events.filterMap (·.moment? c s.user)) := by
  induction events generalizing hub s with
  | nil => exact ⟨hs, rfl⟩
  | cons event rest ih =>
      have hafter := standing?_after_of_some tidy hs event
      have hhanded := handed?_of_some hs event
      cases hm : event.moment? c s.user with
      | none =>
          rw [hm] at hafter hhanded
          obtain ⟨hrun, hreceived⟩ := ih (tidy.after event) hafter
          rw [List.filterMap_cons_none hm]
          refine ⟨hrun, ?_⟩
          rw [received, hhanded, hreceived]
          rfl
      | some m =>
          rw [hm] at hafter hhanded
          obtain ⟨hrun, hreceived⟩ := ih (tidy.after event) hafter
          rw [Option.elim_some, Standing.user_meet] at hrun hreceived
          rw [List.filterMap_cons_some hm]
          refine ⟨hrun, ?_⟩
          rw [received, hhanded, hreceived]
          rfl

/-- A run takes a connection through its life, if it opens it. -/
theorem run_of_none (tidy : hub.Tidy) {c : ConnectionId} (hc : hub.connections.length ≤ c)
    (events : List HubEvent) :
    (hub.run events).standing? c =
        (lifeFrom? c hub.connections.length events).map Life.standing ∧
      hub.received c events =
        (lifeFrom? c hub.connections.length events).elim [] Life.received := by
  induction events generalizing hub with
  | nil => exact ⟨standing?_eq_none_iff.mpr hc, rfl⟩
  | cons event rest ih =>
      have hreceived : hub.received c (event :: rest) = (hub.after event).received c rest := by
        rw [received, handed?_of_none hc]
        rfl
      have same (hlen : (hub.after event).connections.length = hub.connections.length)
          (hlife : lifeFrom? c hub.connections.length (event :: rest) =
            lifeFrom? c hub.connections.length rest) := by
        have := ih (tidy.after event) (hlen ▸ hc)
        rwa [hlen, ← hlife, ← hreceived] at this
      cases event with
      | openFor user capacity =>
          rw [hreceived]
          have hlen : (hub.after (.openFor user capacity)).connections.length =
              hub.connections.length + 1 := List.length_append
          unfold lifeFrom?
          by_cases heq : hub.connections.length = c
          · have hnew : (hub.after (.openFor user capacity)).standing? c =
                some (.new user capacity) := by
              rw [after, standing?_openFor tidy, if_pos heq.symm]
            rw [if_pos heq]
            exact run_of_some (tidy.after _) hnew rest
          · rw [if_neg heq, ← hlen]
            exact ih (tidy.after _) (hlen ▸ Nat.lt_of_le_of_ne hc heq)
      | _ => exact same (length_after tidy (fun _ _ h => by cases h)) rfl

/-- How a connection stands after a run is what its life has made of it. -/
theorem standing?_run (c : ConnectionId) (events : List HubEvent) :
    (empty.run events).standing? c = (life? c events).map Life.standing :=
  (run_of_none tidy_empty (Nat.zero_le c) events).1

/-- What is received from a connection in a run is what its life has handed out. -/
theorem received_run (c : ConnectionId) (events : List HubEvent) :
    empty.received c events = (life? c events).elim [] Life.received :=
  (run_of_none tidy_empty (Nat.zero_le c) events).2

end Hub

end Parley
