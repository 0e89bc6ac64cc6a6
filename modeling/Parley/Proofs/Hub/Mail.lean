import Parley.Proofs.Hub.Isolation

/-!
# What passes through a mailbox

`Hub.accepted` is what an event adds at the end of the queue of a connection, read off the queue
before and after. It is the envelope of the event if the event reaches the connection and the
mailbox has room for it (`accepted_of_some`). Nothing else moves: what was queued and what comes in
is what goes out and what stays (`Standing.queue_meet`), until the receiving side is dropped.
-/

namespace Parley

namespace Standing

/-- The envelopes that come into the mailbox in a moment. -/
def accepted (s : Standing) : Moment → List Envelope
  | .handled _ => []
  | .enqueued e => if s.connection.admits then [e] else []
  | .offered e => if s.isReached && s.connection.admits then [e] else []

/-- Receiving takes the first envelope off the queue, if there is one. -/
theorem mailbox_receive (c : Connection) :
    (c.handled .receive).mailbox = { c.mailbox with queue := c.mailbox.queue.tail } := by
  simp only [Connection.handled, Connection.dequeue_eq]
  obtain ⟨-, ⟨-, queue, -⟩, -, -, -⟩ := c
  cases queue <;> rfl

/-- Offering an envelope to a connection queues it if it is accepted. -/
theorem queue_enqueue (c : Connection) (e : Envelope) :
    (c.enqueue e).2.mailbox.queue = c.mailbox.queue ++ if c.admits then [e] else [] := by
  rw [Connection.mailbox_enqueue]
  split_ifs
  · rfl
  · exact (List.append_nil _).symm

/-- What goes out and what stays is what was there and what comes in, at every moment but the one
in which the receiving side is dropped. -/
theorem queue_meet (s : Standing) {m : Moment} (h : m ≠ .handled .dropQueue) :
    (s.handed? m).toList ++ (s.meet m).queue = s.queue ++ s.accepted m := by
  cases m with
  | handled handling =>
      rw [accepted, List.append_nil]
      cases handling with
      | dropQueue => exact absurd rfl h
      | receive =>
          rw [handed?, queue, meet, mailbox_receive, queue, Connection.dequeue_eq]
          cases s.connection.mailbox.queue <;> rfl
      | _ => rfl
  | enqueued e => exact queue_enqueue s.connection e
  | offered e =>
      unfold meet accepted
      cases s.isReached with
      | true => exact queue_enqueue s.connection e
      | false => exact (List.append_nil _).symm

/-- When the receiving side is dropped, what is queued is gone. -/
theorem queue_drop (s : Standing) : (s.meet (.handled .dropQueue)).queue = [] := rfl

/-- What comes in stands behind what was there. -/
theorem drop_queue_meet (s : Standing) (m : Moment) :
    (s.meet m).queue.drop s.queue.length = s.accepted m := by
  by_cases h : m = .handled .dropQueue
  · rw [h, queue_drop]
    exact List.drop_nil
  · have hmeet := s.queue_meet h
    cases hm : s.handed? m with
    | none =>
        rw [hm, Option.toList_none, List.nil_append] at hmeet
        rw [hmeet, List.drop_left]
    | some e =>
        have hnone : s.accepted m = [] := by
          cases m with
          | handled handling => rfl
          | _ => exact absurd hm (by simp [handed?])
        rw [hm, hnone, List.append_nil] at hmeet
        rw [hnone, ← hmeet]
        exact List.drop_eq_nil_of_le (by simp)

/-- Nothing comes into the mailbox of a closed connection. -/
theorem accepted_of_not_admits {s : Standing} (h : s.connection.admits = false) (m : Moment) :
    s.accepted m = [] := by
  cases m <;> simp [accepted, h]

/-- A receiving side that was dropped stays so. -/
theorem receiver_meet_of_gone {s : Standing} (h : s.connection.mailbox.receiver = .gone)
    (m : Moment) : (s.meet m).connection.mailbox.receiver = .gone := by
  have enqueued : ∀ e, (s.connection.enqueue e).2.mailbox.receiver = .gone := by
    intro e
    rw [Connection.mailbox_enqueue]
    split_ifs <;> exact h
  cases m with
  | handled handling =>
      cases handling with
      | receive =>
          rw [meet, mailbox_receive]
          exact h
      | closeQueue => simp [meet, Connection.handled, Connection.closeQueue, Mailbox.close, h]
      | dropQueue => rfl
      | _ => exact h
  | enqueued e => exact enqueued e
  | offered e =>
      unfold meet
      split_ifs
      · exact enqueued e
      · exact h

end Standing

namespace Hub

variable {hub : Hub}

/-- What is queued for a connection. -/
def queueOf (hub : Hub) (c : ConnectionId) : List Envelope :=
  (hub.connection? c).elim [] (·.mailbox.queue)

/-- Whether the receiving side of the mailbox of a connection was dropped. -/
def isGone (hub : Hub) (c : ConnectionId) : Bool :=
  (hub.connection? c).any (·.mailbox.receiver = .gone)

/-- What an event adds at the end of the queue of a connection. -/
def accepted (hub : Hub) (c : ConnectionId) (event : HubEvent) : List Envelope :=
  ((hub.after event).queueOf c).drop (hub.queueOf c).length

/-- The queue of a connection is read off its standing. -/
theorem queueOf_eq_standing? (hub : Hub) (c : ConnectionId) :
    hub.queueOf c = (hub.standing? c).elim [] Standing.queue := by
  unfold queueOf standing?
  cases hub.connection? c <;> rfl

/-- The queue of a connection that stands. -/
theorem queueOf_of_some {c : ConnectionId} {s : Standing} (hs : hub.standing? c = some s) :
    hub.queueOf c = s.queue := by
  rw [queueOf_eq_standing?, hs, Option.elim_some]

/-- Nothing is queued for a connection that is not there. -/
theorem queueOf_of_none {c : ConnectionId} (hs : hub.standing? c = none) :
    hub.queueOf c = [] := by
  rw [queueOf_eq_standing?, hs, Option.elim_none]

/-- Whether the receiving side is dropped is read off the standing. -/
theorem isGone_eq_standing? (hub : Hub) (c : ConnectionId) :
    hub.isGone c = (hub.standing? c).any fun s => s.connection.mailbox.receiver = .gone := by
  rw [isGone, standing?, Option.any_map]

/-- Taking an envelope out of a mailbox, in terms of the queue. -/
theorem dequeue_eq_queueOf (hub : Hub) (c : ConnectionId) :
    hub.dequeue c = (hub.queueOf c).head?.map fun e => (e, hub.handle c .receive) := by
  unfold handle queueOf
  rw [dequeue_eq]
  cases hub.connection? c with
  | none => rfl
  | some conn =>
      rw [Option.bind_some, Option.elim_some, Connection.dequeue_eq]
      cases conn.mailbox.queue <;> rfl

/-- An event adds to a queue what the connection accepts in its moment. -/
theorem accepted_of_some (tidy : hub.Tidy) {c : ConnectionId} {s : Standing}
    (hs : hub.standing? c = some s) (event : HubEvent) :
    hub.accepted c event = (event.moment? c s.user).elim [] s.accepted := by
  rw [accepted, queueOf_of_some (standing?_after_of_some tidy hs event), queueOf_of_some hs]
  cases event.moment? c s.user with
  | none => exact List.drop_length
  | some m => exact s.drop_queue_meet m

/-- Before and just after it is opened, a connection has nothing queued. -/
theorem queueOf_after_of_none (tidy : hub.Tidy) {c : ConnectionId} (hs : hub.standing? c = none)
    (event : HubEvent) : (hub.after event).queueOf c = [] := by
  have hlen := standing?_eq_none_iff.mp hs
  by_cases hopen : ∃ user capacity, event = .openFor user capacity
  · obtain ⟨user, capacity, rfl⟩ := hopen
    rw [queueOf_eq_standing?, after, standing?_openFor tidy, hs]
    split_ifs <;> rfl
  · have hsame := length_after tidy fun user capacity h => hopen ⟨user, capacity, h⟩
    exact queueOf_of_none (standing?_eq_none_iff.mpr (hsame ▸ hlen))

/-- Nothing is accepted for a connection that is not there. -/
theorem accepted_of_none (tidy : hub.Tidy) {c : ConnectionId} (hs : hub.standing? c = none)
    (event : HubEvent) : hub.accepted c event = [] := by
  rw [accepted, queueOf_after_of_none tidy hs, List.drop_nil]

/-- Nothing comes into a mailbox whose receiving side was dropped. -/
theorem accepted_of_isGone (tidy : hub.Tidy) {c : ConnectionId} (gone : hub.isGone c = true)
    (event : HubEvent) : hub.accepted c event = [] := by
  rw [isGone_eq_standing?] at gone
  obtain ⟨s, hs, hgone⟩ := (Option.any_eq_true _ _).mp gone
  have hadmits : s.connection.admits = false := by
    simp [Connection.admits, of_decide_eq_true hgone]
  rw [accepted_of_some tidy hs]
  cases event.moment? c s.user with
  | none => rfl
  | some m => exact Standing.accepted_of_not_admits hadmits m

/-- Unless the receiving side is dropped, what goes out and what stays is what was there and what
comes in. -/
theorem queueOf_after_of_ne (tidy : hub.Tidy) {c : ConnectionId} {event : HubEvent}
    (h : event ≠ .handle c .dropQueue) :
    (hub.handed? c event).toList ++ (hub.after event).queueOf c =
      hub.queueOf c ++ hub.accepted c event := by
  cases hs : hub.standing? c with
  | none =>
      rw [handed?_of_none (standing?_eq_none_iff.mp hs), queueOf_after_of_none tidy hs,
        accepted_of_none tidy hs, queueOf_of_none hs]
      rfl
  | some s =>
      rw [accepted_of_some tidy hs, handed?_of_some hs, queueOf_of_some hs,
        queueOf_of_some (standing?_after_of_some tidy hs event)]
      cases hm : event.moment? c s.user with
      | none => exact (List.append_nil _).symm
      | some m =>
          refine s.queue_meet ?_
          rintro rfl
          exact h (HubEvent.eq_handle_of_moment? hm)

/-- A receiving side that was dropped stays so. -/
theorem isGone_after (tidy : hub.Tidy) {c : ConnectionId} (gone : hub.isGone c = true)
    (event : HubEvent) : (hub.after event).isGone c = true := by
  rw [isGone_eq_standing?] at gone ⊢
  obtain ⟨s, hs, hgone⟩ := (Option.any_eq_true _ _).mp gone
  rw [standing?_after_of_some tidy hs, Option.any_some]
  cases event.moment? c s.user with
  | none => exact hgone
  | some m => exact decide_eq_true (Standing.receiver_meet_of_gone (of_decide_eq_true hgone) m)

/-- Dropping the receiving side leaves nothing queued, and lets nothing in or out. -/
theorem queueOf_dropQueue (tidy : hub.Tidy) (c : ConnectionId) :
    (hub.after (.handle c .dropQueue)).queueOf c = [] ∧
      hub.accepted c (.handle c .dropQueue) = [] := by
  have hqueue : (hub.after (.handle c .dropQueue)).queueOf c = [] := by
    rw [queueOf_eq_standing?, after, standing?_handle tidy, if_pos rfl]
    cases hub.standing? c <;> rfl
  exact ⟨hqueue, by rw [accepted, hqueue, List.drop_nil]⟩

/-- Only a connection that does not exist stays listening when its receiving side is dropped. -/
theorem isGone_dropQueue (tidy : hub.Tidy) {c : ConnectionId}
    (h : (hub.after (.handle c .dropQueue)).isGone c = false) : hub.standing? c = none := by
  rw [isGone_eq_standing?, after, standing?_handle tidy, if_pos rfl] at h
  cases hs : hub.standing? c with
  | none => rfl
  | some s =>
      rw [hs] at h
      exact absurd h (by simp [Standing.meet, Connection.handled, Connection.dropQueue,
        Mailbox.discard])

/-- The account of a mailbox: what has been taken out, with what is queued, is a beginning of what
has come in, and all of it unless the receiving side was dropped. An event that takes something
out, puts something in or drops the receiving side leaves the account right. -/
theorem account_after (tidy : hub.Tidy) (c : ConnectionId) (event : HubEvent)
    {out come : List Envelope} (sent : out ++ hub.queueOf c <+: come)
    (all : hub.isGone c = false → out ++ hub.queueOf c = come) :
    out ++ (hub.handed? c event).toList ++ (hub.after event).queueOf c <+:
        come ++ hub.accepted c event ∧
      ((hub.after event).isGone c = false →
        out ++ (hub.handed? c event).toList ++ (hub.after event).queueOf c =
          come ++ hub.accepted c event) := by
  by_cases hdrop : event = .handle c .dropQueue
  · subst hdrop
    obtain ⟨hqueue, haccepted⟩ := queueOf_dropQueue tidy c
    have hhanded : hub.handed? c (.handle c .dropQueue) = none := rfl
    rw [hqueue, haccepted, hhanded, Option.toList_none, List.append_nil, List.append_nil,
      List.append_nil]
    refine ⟨(List.prefix_append out _).trans sent, fun h => ?_⟩
    have hs := isGone_dropQueue tidy h
    rw [← all (by rw [isGone_eq_standing?, hs]; rfl), queueOf_of_none hs, List.append_nil]
  · rw [List.append_assoc, queueOf_after_of_ne tidy hdrop, ← List.append_assoc]
    cases hgone : hub.isGone c with
    | false =>
        rw [all hgone]
        exact ⟨List.prefix_rfl, fun _ => rfl⟩
    | true =>
        rw [accepted_of_isGone tidy hgone, List.append_nil, List.append_nil,
          isGone_after tidy hgone]
        exact ⟨sent, fun h => absurd h (by simp)⟩

/-- Opening a connection puts nothing into a mailbox. -/
theorem accepted_openFor (tidy : hub.Tidy) (c : ConnectionId) (user : UserId)
    (capacity : Nat) : hub.accepted c (.openFor user capacity) = [] := by
  cases hs : hub.standing? c with
  | none => exact accepted_of_none tidy hs _
  | some s =>
      rw [accepted_of_some tidy hs]
      rfl

/-- Handling a connection puts nothing into a mailbox. -/
theorem accepted_handle (tidy : hub.Tidy) (c id : ConnectionId) (h : Handling) :
    hub.accepted c (.handle id h) = [] := by
  cases hs : hub.standing? c with
  | none => exact accepted_of_none tidy hs _
  | some s =>
      rw [accepted_of_some tidy hs, HubEvent.moment?]
      split_ifs <;> rfl

/-- An envelope that is fanned out is put into the mailboxes of the live registered connections of
the listed users that have room for it, once each, and into no other. -/
theorem accepted_fanOut (tidy : hub.Tidy) (c : ConnectionId) (users : List UserId)
    (e : Envelope) :
    hub.accepted c (.fanOut users e) =
      if (hub.connection? c).any fun conn =>
          conn.user ∈ users && hub.isRegistered c && conn.held && conn.admits
      then [e] else [] := by
  cases hconn : hub.connection? c with
  | none =>
      have hs : hub.standing? c = none := by rw [standing?, hconn, Option.map_none]
      exact accepted_of_none tidy hs _
  | some conn =>
      have hs : hub.standing? c = some ⟨conn, hub.isRegistered c⟩ := by
        rw [standing?, hconn, Option.map_some]
      rw [accepted_of_some tidy hs, HubEvent.moment?, Standing.user, Option.any_some]
      by_cases hu : conn.user ∈ users
      · simp [hu, Standing.accepted, Standing.isReached]
      · simp [hu]

end Hub

end Parley
