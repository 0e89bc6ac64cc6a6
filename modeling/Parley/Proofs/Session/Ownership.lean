import Parley.Proofs.Hub.Mail
import Parley.Proofs.Hub.Registration

/-!
# What the writer owns

The writer of a session owns the receiving side of the mailbox and holds the connection as long as
it runs. `HubEvent.isReserved` are the events that only it brings about. Whatever else happens
leaves the mailbox as it is, but for what comes in at the end of the queue
(`Hub.standing?_after_of_free`).

When the writer ends it retires the connection: the connection is taken off the roster, its socket
is released and its mailbox dropped. A retired connection stays retired (`Hub.Retired.after`).
-/

namespace Parley

/-- What only the writer does with its connection: it owns the receiving side of the mailbox,
holds the connection while it runs, and is the one who releases the socket. -/
def Handling.isReserved : Handling → Bool
  | .register | .unregister | .close => false
  | .markClosed | .release | .closeQueue | .dropQueue | .receive => true

/-- Whether an event is one that only the writer of a connection brings about. -/
def HubEvent.isReserved (c : ConnectionId) : HubEvent → Bool
  | .handle id handling => id = c && handling.isReserved
  | _ => false

namespace Standing

/-- A moment that is none of the writer's leaves the connection held and the mailbox as it is, but
for what comes in at the end of the queue. -/
theorem meet_of_free {s : Standing} {m : Moment}
    (free : ∀ h, m = .handled h → h.isReserved = false) :
    (s.meet m).connection.held = s.connection.held ∧
      (s.meet m).connection.mailbox =
        { s.connection.mailbox with queue := s.queue ++ s.accepted m } := by
  have enqueued : ∀ e, (s.connection.enqueue e).2.mailbox = { s.connection.mailbox with
      queue := s.queue ++ if s.connection.admits then [e] else [] } := by
    intro e
    rw [Connection.mailbox_enqueue]
    split_ifs
    · rfl
    · rw [List.append_nil]
      rfl
  cases m with
  | handled h =>
      rw [accepted, List.append_nil]
      cases h with
      | register | unregister | close => exact ⟨rfl, rfl⟩
      | _ => exact absurd (free _ rfl) (by simp [Handling.isReserved])
  | enqueued e => exact ⟨(s.connection.enqueue_frame e).2.1, enqueued e⟩
  | offered e =>
      cases hreached : s.isReached with
      | true =>
          simp only [meet, accepted, hreached, if_true, Bool.true_and]
          exact ⟨(s.connection.enqueue_frame e).2.1, enqueued e⟩
      | false => simp [meet, accepted, hreached, queue]

/-- The queue does not grow beyond the capacity. -/
theorem length_accepted_le {s : Standing} (room : s.queue.length ≤ s.connection.mailbox.capacity)
    (m : Moment) : (s.queue ++ s.accepted m).length ≤ s.connection.mailbox.capacity := by
  cases hadmits : s.connection.admits with
  | false => rwa [accepted_of_not_admits hadmits, List.append_nil]
  | true =>
      have hone : (s.accepted m).length ≤ 1 := by
        cases m with
        | handled h => exact Nat.zero_le 1
        | enqueued e => simp [accepted, hadmits]
        | offered e =>
            rw [accepted]
            split_ifs <;> simp
      have hroom : s.queue.length < s.connection.mailbox.capacity := by
        simp only [Connection.admits, Bool.and_eq_true, decide_eq_true_eq] at hadmits
        exact hadmits.2
      rw [List.length_append]
      omega

/-- A released socket stays released. -/
theorem phase_meet_of_closed {s : Standing} (closed : s.connection.phase = .closed) (m : Moment) :
    (s.meet m).connection.phase = .closed := by
  cases m with
  | handled h =>
      cases h with
      | receive =>
          simp only [meet, Connection.handled, Connection.dequeue_eq]
          cases s.connection.mailbox.queue <;> exact closed
      | unregister | close =>
          simp [meet, Connection.handled, Connection.close, Connection.raise, closed]
      | markClosed => rfl
      | _ => exact closed
  | enqueued e => exact (s.connection.enqueue_frame e).2.2.1.trans closed
  | offered e =>
      unfold meet
      split_ifs
      · exact (s.connection.enqueue_frame e).2.2.1.trans closed
      · exact closed

end Standing

namespace Hub

variable {hub : Hub} {c : ConnectionId} {s : Standing}

/-- What happens elsewhere leaves a connection held and its mailbox as it is, but for what comes in
at the end of the queue, which does not grow beyond the capacity. -/
theorem standing?_after_of_free (tidy : hub.Tidy) (hs : hub.standing? c = some s)
    {event : HubEvent} (free : event.isReserved c = false) :
    ∃ s', (hub.after event).standing? c = some s' ∧
      s'.connection.held = s.connection.held ∧
      s'.connection.mailbox =
        { s.connection.mailbox with queue := s.queue ++ hub.accepted c event } ∧
      (s.queue.length ≤ s.connection.mailbox.capacity →
        s'.queue.length ≤ s.connection.mailbox.capacity) := by
  rw [standing?_after_of_some tidy hs, accepted_of_some tidy hs]
  refine ⟨_, rfl, ?_⟩
  cases hm : event.moment? c s.user with
  | none =>
      refine ⟨rfl, ?_, fun room => room⟩
      rw [Option.elim_none, Option.elim_none, List.append_nil]
      rfl
  | some m =>
      have hfree : ∀ h, m = .handled h → h.isReserved = false := by
        rintro h rfl
        rw [HubEvent.eq_handle_of_moment? hm] at free
        simpa [HubEvent.isReserved] using free
      obtain ⟨hheld, hmailbox⟩ := Standing.meet_of_free hfree
      refine ⟨hheld, hmailbox, fun room => ?_⟩
      rw [Option.elim_some, Standing.queue, hmailbox]
      exact Standing.length_accepted_le room m

/-- Nothing comes into the mailbox of a connection whose receiving side is not listening. -/
theorem accepted_of_shut (tidy : hub.Tidy) (hs : hub.standing? c = some s)
    (shut : s.connection.mailbox.receiver ≠ .listening) (event : HubEvent) :
    hub.accepted c event = [] := by
  have hadmits : s.connection.admits = false := by simp [Connection.admits, shut]
  rw [accepted_of_some tidy hs]
  cases event.moment? c s.user with
  | none => rfl
  | some m => exact Standing.accepted_of_not_admits hadmits m

/-- What a connection is when its writer has ended: off the roster, its signal raised, its socket
released and its mailbox dropped. -/
structure Retired (hub : Hub) (c : ConnectionId) (s : Standing) : Prop where
  standing : hub.standing? c = some s
  off : s.registered = false
  signalled : s.connection.isClosed = true
  released : s.connection.phase = .closed
  gone : s.connection.mailbox.receiver = .gone

/-- What has been retired stays so. -/
theorem Retired.after (tidy : hub.Tidy) (retired : hub.Retired c s) (event : HubEvent) :
    ∃ s', (hub.after event).Retired c s' := by
  have hafter := standing?_after_of_some tidy retired.standing event
  cases hm : event.moment? c s.user with
  | none =>
      rw [hm] at hafter
      exact ⟨s, hafter, retired.off, retired.signalled, retired.released, retired.gone⟩
  | some m =>
      rw [hm] at hafter
      have signalled : (s.meet m).connection.isClosed = true := by
        rw [Standing.isClosed_meet, retired.signalled, Bool.true_or]
      exact ⟨s.meet m, hafter,
        Standing.registered_foldl_of_closed retired.signalled retired.off [m], signalled, Standing.phase_meet_of_closed retired.released m,
        Standing.receiver_meet_of_gone retired.gone m⟩

/-- What the writer does to its connection when it ends. -/
def retire (hub : Hub) (c : ConnectionId) : Hub :=
  ((hub.handle c .unregister).handle c .markClosed).handle c .dropQueue

/-- Retiring a connection keeps a hub tidy. -/
theorem tidy_retire (tidy : hub.Tidy) (c : ConnectionId) : (hub.retire c).Tidy :=
  ((tidy.handle c .unregister).handle c .markClosed).handle c .dropQueue

/-- What the writer does when it ends retires its connection. -/
theorem retired_retire (tidy : hub.Tidy) (hs : hub.standing? c = some s) :
    ∃ s', (hub.retire c).Retired c s' := by
  have hstanding : (hub.retire c).standing? c =
      some (((s.meet (.handled .unregister)).meet (.handled .markClosed)).meet
        (.handled .dropQueue)) := by
    rw [retire, standing?_handle ((tidy.handle c .unregister).handle c .markClosed), if_pos rfl,
      standing?_handle (tidy.handle c .unregister), if_pos rfl, standing?_handle tidy, if_pos rfl,
      hs]
    rfl
  exact ⟨_, hstanding, rfl, rfl, rfl, rfl⟩

end Hub

end Parley
