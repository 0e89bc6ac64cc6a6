import Parley.Proofs.Hub.FanOut

/-!
# A connection as a bounded queue that can be closed

A `Connection.Call` is something done with one connection: an envelope is offered to it, its closed
signal is raised in either of the two ways, or the receiving side of its mailbox takes an envelope,
closes or is dropped. Of each call one lemma says what it does to the signal, to the phase, to the
receiving side, to the queue and to the count of drops, and from these follows what a run of calls
comes to.

The signal and the phase are two stores, and what ties them together is an invariant of runs:
`Connection.Coherent` holds of a new connection, each call keeps it (`Coherent.call`), and so every
run does (`Coherent.after`).

`bounded_fifo` puts all this together. The signal and the phase can be read off the calls alone, and
so can the state of the receiving side; signal and receiving side decide, with the length of the
queue, how an offer is answered. What was accepted has been taken or is still queued, in order.
-/

namespace Parley

/-- How many steps a phase is away from the first. -/
def Phase.rank : Phase → Nat
  | .opened => 0
  | .closing => 1
  | .closed => 2

namespace Connection

/-- What is done with a connection, or with the receiving side of its mailbox. -/
inductive Call where
  | enqueue (envelope : Envelope)
  | close
  | markClosed
  | receive
  | closeQueue
  | dropQueue

/-- What is given back by a call. -/
inductive Reply where
  | done
  | offered (result : Except EnqueueError Unit)
  | taken (envelope : Option Envelope)

/-- The reply to a call, and the connection after it. -/
def call (c : Connection) : Call → Reply × Connection
  | .enqueue e => (.offered (c.enqueue e).1, (c.enqueue e).2)
  | .close => (.done, c.close)
  | .markClosed => (.done, c.markClosed)
  | .receive => (.taken (c.dequeue.map Prod.fst), c.dequeue.elim c Prod.snd)
  | .closeQueue => (.done, c.closeQueue)
  | .dropQueue => (.done, c.dropQueue)

/-- A connection after calls. -/
def after (c : Connection) (calls : List Call) : Connection :=
  calls.foldl (fun c call => (c.call call).2) c

/-- The calls of a run with their replies. -/
def transcript (c : Connection) : List Call → List (Call × Reply)
  | [] => []
  | call :: rest => (call, (c.call call).1) :: (c.call call).2.transcript rest

/-- The envelope that a call put into the queue. -/
def accepted? : Call × Reply → Option Envelope
  | (.enqueue e, .offered (.ok ())) => some e
  | _ => none

/-- The envelope that a call took out of the queue. -/
def received? : Call × Reply → Option Envelope
  | (.receive, .taken e) => e
  | _ => none

/-- Whether a call found the queue full. -/
def foundFull : Call × Reply → Bool
  | (.enqueue _, .offered (.error .full)) => true
  | _ => false

/-- Whether an envelope could be accepted if there were room: the closed signal is down and the
receiving side open. -/
def isLive (c : Connection) : Bool :=
  !c.isClosed && c.mailbox.receiver = .listening

variable (c : Connection)

/-- An offer is accepted by a live connection that has room. -/
theorem admits_eq :
    c.admits = (c.isLive && c.mailbox.queue.length < c.mailbox.capacity) := rfl

/-- An offer is counted as a drop by a live connection that has no room. -/
theorem overflows_eq :
    c.overflows = (c.isLive && c.mailbox.capacity ≤ c.mailbox.queue.length) := rfl

/-! ### One call -/

/-- The receiving side takes the first envelope of the queue, if there is one. -/
theorem call_receive :
    c.call .receive = (.taken c.mailbox.queue.head?,
      { c with mailbox := { c.mailbox with queue := c.mailbox.queue.tail } }) := by
  obtain ⟨-, ⟨-, queue, -⟩, -, -, -⟩ := c
  cases queue <;> rfl

/-- What a call does to the phase: closing takes only an open connection further. -/
theorem phase_call (x : Call) :
    (c.call x).2.phase = match x with
      | .close => if c.phase = .opened then .closing else c.phase
      | .markClosed => .closed
      | _ => c.phase := by
  cases x with
  | enqueue e => exact (c.enqueue_frame e).2.2.1
  | receive => rw [call_receive]
  | _ => rfl

/-- What a call does to the signal: the two ways of closing raise it. -/
theorem isClosed_call (x : Call) :
    (c.call x).2.isClosed = match x with
      | .close | .markClosed => true
      | _ => c.isClosed := by
  cases x with
  | enqueue e => exact (c.enqueue_frame e).2.2.2
  | receive =>
      rw [call_receive]
      rfl
  | _ => rfl

/-- What a call does to the receiving side, which does not open again. -/
theorem receiver_call (x : Call) :
    (c.call x).2.mailbox.receiver = match x with
      | .closeQueue =>
        if c.mailbox.receiver = .listening then .closed else c.mailbox.receiver
      | .dropQueue => .gone
      | _ => c.mailbox.receiver := by
  cases x with
  | enqueue e =>
      rw [call, mailbox_enqueue]
      split_ifs <;> rfl
  | receive => rw [call_receive]
  | _ => rfl

/-- The capacity is fixed when a connection is made. -/
theorem capacity_call (x : Call) : (c.call x).2.mailbox.capacity = c.mailbox.capacity := by
  cases x with
  | enqueue e =>
      rw [call, mailbox_enqueue]
      split_ifs <;> rfl
  | receive => rw [call_receive]
  | _ => rfl

/-- A call counts one drop more if it is an offer that finds the queue full. -/
theorem drops_call (x : Call) :
    (c.call x).2.drops = c.drops + UInt64.ofNat (foundFull (x, (c.call x).1)).toNat := by
  cases x with
  | enqueue e =>
      rw [call, enqueue_eq]
      split_ifs
      · exact (UInt64.add_zero _).symm
      · rfl
      · exact (UInt64.add_zero _).symm
  | receive =>
      rw [call_receive]
      exact (UInt64.add_zero _).symm
  | _ => exact (UInt64.add_zero _).symm

/-- What a call takes out and what it leaves is what was queued and what it puts in, unless it drops
the receiving side. -/
theorem queue_call {x : Call} (keeps : x ≠ .dropQueue) :
    (received? (x, (c.call x).1)).toList ++ (c.call x).2.mailbox.queue
      = c.mailbox.queue ++ (accepted? (x, (c.call x).1)).toList := by
  cases x with
  | enqueue e =>
      rw [call, enqueue_eq]
      split_ifs
      · rfl
      · exact (List.append_nil _).symm
      · exact (List.append_nil _).symm
  | receive =>
      rw [call_receive]
      cases c.mailbox.queue <;> simp [received?, accepted?]
  | dropQueue => exact absurd rfl keeps
  | _ => exact (List.append_nil _).symm

/-- Only an offer puts something into the queue, if the connection is live and there is room. -/
theorem accepted?_call (x : Call) (e : Envelope) :
    accepted? (x, (c.call x).1) = some e ↔ x = .enqueue e ∧ c.admits = true := by
  cases x with
  | enqueue f =>
      rw [call, enqueue_eq]
      split_ifs with room full
      · simp [accepted?, room]
      · simp [accepted?, room]
      · simp [accepted?, room]
  | _ => simp [accepted?]

/-- A call on a connection that is closed counts no drop and puts nothing into the queue. -/
theorem quiet_call (closed : c.isClosed = true) (x : Call) :
    (c.call x).2.dropped = c.dropped ∧ (c.call x).2.mailbox.queue <:+ c.mailbox.queue := by
  have shut : c.isLive = false := by rw [isLive, closed]; rfl
  have refused : ∀ e, c.enqueue e = (.error .closed, c) := by
    intro e
    rw [enqueue_eq, admits_eq, overflows_eq, shut]
    rfl
  cases x with
  | enqueue e =>
      rw [call, refused]
      exact ⟨rfl, List.suffix_rfl⟩
  | receive =>
      rw [call_receive]
      exact ⟨rfl, List.tail_suffix _⟩
  | dropQueue => exact ⟨rfl, List.nil_suffix⟩
  | _ => exact ⟨rfl, List.suffix_rfl⟩

/-- The queue does not grow beyond the capacity. -/
theorem room_call (room : c.mailbox.queue.length ≤ c.mailbox.capacity) (x : Call) :
    (c.call x).2.mailbox.queue.length ≤ c.mailbox.capacity := by
  by_cases drops : x = .dropQueue
  · subst drops
    exact Nat.zero_le _
  · have account := congrArg List.length (c.queue_call drops)
    rw [List.length_append, List.length_append] at account
    cases taken : accepted? (x, (c.call x).1) with
    | none =>
        rw [taken, Option.toList_none, List.length_nil] at account
        omega
    | some e =>
        have admits := ((c.accepted?_call x e).mp taken).2
        rw [admits_eq, Bool.and_eq_true, decide_eq_true_eq] at admits
        rw [taken, Option.toList_some, List.length_singleton] at account
        omega

/-! ### Signal and phase -/

/-- The signal is raised on those connections that are not open any more. -/
def Coherent : Prop := c.isClosed = true ↔ c.phase ≠ .opened

variable {c}

/-- A new connection is open, and its signal is down. -/
theorem coherent_new (user : UserId) (capacity : Nat) : (new user capacity).Coherent :=
  iff_of_false Bool.false_ne_true (not_not_intro rfl)

/-- Every call that takes the phase away from open raises the signal, and no other call does. -/
theorem Coherent.call (coherent : c.Coherent) (x : Call) : (c.call x).2.Coherent := by
  unfold Coherent at *
  rw [isClosed_call, phase_call]
  cases x with
  | close =>
      refine iff_of_true rfl ?_
      dsimp only
      split_ifs with opened
      · exact nofun
      · exact opened
  | markClosed => exact iff_of_true rfl nofun
  | _ => exact coherent

/-! ### Runs of calls -/

/-- Whatever is called, signal and phase go together. -/
theorem Coherent.after (coherent : c.Coherent) (calls : List Call) : (c.after calls).Coherent := by
  induction calls generalizing c with
  | nil => exact coherent
  | cons x rest ih => exact ih (coherent.call x)

variable (c)

/-- The signal is raised by closing and by marking closed, and by nothing else. -/
theorem isClosed_after_iff (calls : List Call) :
    (c.after calls).isClosed = true ↔
      c.isClosed = true ∨ .close ∈ calls ∨ .markClosed ∈ calls := by
  induction calls generalizing c with
  | nil => simp [after]
  | cons x rest ih =>
      rw [after, List.foldl_cons, ← after, ih, isClosed_call]
      cases x <;> simp

/-- The last phase is entered by marking closed. -/
theorem phase_after_eq_closed_iff (calls : List Call) :
    (c.after calls).phase = .closed ↔ c.phase = .closed ∨ .markClosed ∈ calls := by
  induction calls generalizing c with
  | nil => simp [after]
  | cons x rest ih =>
      rw [after, List.foldl_cons, ← after, ih, phase_call]
      cases x with
      | close => cases hphase : c.phase <;> simp
      | _ => simp

/-- The phase never goes back. -/
theorem rank_phase_le_after (calls : List Call) : c.phase.rank ≤ (c.after calls).phase.rank := by
  induction calls generalizing c with
  | nil => exact Nat.le_refl _
  | cons x rest ih =>
      refine Nat.le_trans ?_ (ih (c.call x).2)
      rw [phase_call]
      cases x with
      | close => cases c.phase <;> decide
      | markClosed => cases c.phase <;> decide
      | _ => exact Nat.le_refl _

/-- The receiving side stays open until it is closed or dropped. -/
theorem receiver_after_eq_listening_iff (calls : List Call) :
    (c.after calls).mailbox.receiver = .listening ↔
      c.mailbox.receiver = .listening ∧ .closeQueue ∉ calls ∧ .dropQueue ∉ calls := by
  induction calls generalizing c with
  | nil => simp [after]
  | cons x rest ih =>
      rw [after, List.foldl_cons, ← after, ih, receiver_call]
      cases x with
      | closeQueue => cases hreceiver : c.mailbox.receiver <;> simp
      | _ => simp

/-- The capacity stays as it was fixed. -/
theorem capacity_after (calls : List Call) :
    (c.after calls).mailbox.capacity = c.mailbox.capacity := by
  induction calls generalizing c with
  | nil => rfl
  | cons x rest ih => exact (ih _).trans (c.capacity_call x)

/-- The queue never grows beyond the capacity. -/
theorem room_after (room : c.mailbox.queue.length ≤ c.mailbox.capacity) (calls : List Call) :
    (c.after calls).mailbox.queue.length ≤ c.mailbox.capacity := by
  induction calls generalizing c with
  | nil => exact room
  | cons x rest ih =>
      have later := ih (c.call x).2 (by rw [capacity_call]; exact c.room_call room x)
      rwa [capacity_call] at later

/-- What is picked out of a run is what its first call gives, then what the rest gives. -/
theorem filterMap_transcript_cons (f : Call × Reply → Option Envelope) (x : Call)
    (rest : List Call) :
    (c.transcript (x :: rest)).filterMap f
      = (f (x, (c.call x).1)).toList ++ ((c.call x).2.transcript rest).filterMap f := by
  rw [transcript, List.filterMap_cons]
  cases f (x, (c.call x).1) <;> rfl

/-- What is taken out in a run and what is left is what was queued and what was put in, unless the
receiving side is dropped. -/
theorem queue_after {calls : List Call} (keeps : .dropQueue ∉ calls) :
    (c.transcript calls).filterMap received? ++ (c.after calls).mailbox.queue
      = c.mailbox.queue ++ (c.transcript calls).filterMap accepted? := by
  induction calls generalizing c with
  | nil => exact (List.append_nil _).symm
  | cons x rest ih =>
      obtain ⟨first, others⟩ := List.ne_and_not_mem_of_not_mem_cons keeps
      have later := ih (c.call x).2 others
      rw [filterMap_transcript_cons, filterMap_transcript_cons, List.append_assoc,
        ← List.append_assoc c.mailbox.queue, ← c.queue_call first.symm, List.append_assoc, ← later]
      rfl

/-- Nothing is put into the queue when the receiving side is not open. -/
theorem accepted_of_shut (shut : c.mailbox.receiver ≠ .listening) (calls : List Call) :
    (c.transcript calls).filterMap accepted? = [] := by
  induction calls generalizing c with
  | nil => rfl
  | cons x rest ih =>
      have stays : (c.call x).2.mailbox.receiver ≠ .listening := fun open' =>
        shut ((c.receiver_after_eq_listening_iff [x]).mp open').1
      have refused : accepted? (x, (c.call x).1) = none := by
        refine Option.eq_none_iff_forall_ne_some.mpr fun e taken => ?_
        have admits := ((c.accepted?_call x e).mp taken).2
        simp [admits_eq, isLive, shut] at admits
      rw [filterMap_transcript_cons, refused, ih _ stays]
      rfl

/-- What is taken out is in any case the beginning of what was queued and put in. When the receiving
side is dropped, what is queued is lost, and nothing is put in or taken out any more. -/
theorem received_prefix (calls : List Call) :
    (c.transcript calls).filterMap received? <+:
      c.mailbox.queue ++ (c.transcript calls).filterMap accepted? := by
  induction calls generalizing c with
  | nil => exact List.nil_prefix
  | cons x rest ih =>
      have later := ih (c.call x).2
      rw [filterMap_transcript_cons, filterMap_transcript_cons]
      by_cases drops : x = .dropQueue
      · -- what is queued is lost, and nothing comes in any more that could be taken out
        subst drops
        have nothing := (c.call .dropQueue).2.accepted_of_shut nofun rest
        rw [nothing] at later
        have none_taken : ((c.call .dropQueue).2.transcript rest).filterMap received? = [] :=
          List.prefix_nil.mp later
        rw [none_taken]
        exact List.nil_prefix
      · rw [← List.append_assoc, ← c.queue_call drops, List.append_assoc]
        exact (List.prefix_append_right_inj _).mpr later

/-- Every offer that found the queue full is counted, in 64 bits. -/
theorem drops_after (calls : List Call) :
    (c.after calls).drops = c.drops + UInt64.ofNat ((c.transcript calls).countP foundFull) := by
  induction calls generalizing c with
  | nil => exact (UInt64.add_zero _).symm
  | cons x rest ih =>
      rw [after, List.foldl_cons, ← after, ih, drops_call, transcript, List.countP_cons,
        UInt64.add_assoc, ← UInt64.ofNat_add, Nat.add_comm]
      cases foundFull (x, (c.call x).1) <;> rfl

/-- On a new connection the count is that of the offers that found the queue full, until it wraps
around. -/
theorem dropped_after_new (user : UserId) (capacity : Nat) (calls : List Call) :
    ((new user capacity).after calls).dropped =
      ((new user capacity).transcript calls).countP foundFull % Word.limit64 := by
  rw [dropped, drops_after]
  exact (congrArg UInt64.toNat (UInt64.zero_add _)).trans UInt64.toNat_ofNat'

/-- A closed connection stays closed. -/
theorem isClosed_after (closed : c.isClosed = true) (calls : List Call) :
    (c.after calls).isClosed = true :=
  (c.isClosed_after_iff calls).mpr (.inl closed)

/-- Once the signal is raised nothing is counted any more, and the queue only gets shorter. -/
theorem quiet_after (closed : c.isClosed = true) (calls : List Call) :
    (c.after calls).dropped = c.dropped ∧ (c.after calls).mailbox.queue <:+ c.mailbox.queue := by
  induction calls generalizing c with
  | nil => exact ⟨rfl, List.suffix_rfl⟩
  | cons x rest ih =>
      obtain ⟨dropped, queue⟩ := c.quiet_call closed x
      obtain ⟨laterDropped, laterQueue⟩ := ih _ (c.isClosed_after closed [x])
      exact ⟨laterDropped.trans dropped, laterQueue.trans queue⟩

/-! ### Offers -/

/-- An offer is accepted by a live connection that has room, finds the queue full on one that has
none, and is refused as closed by one that is not live. -/
theorem enqueue_iff (e : Envelope) :
    ((c.enqueue e).1 = .ok () ↔
      c.isLive = true ∧ c.mailbox.queue.length < c.mailbox.capacity) ∧
    ((c.enqueue e).1 = .error .full ↔
      c.isLive = true ∧ ¬c.mailbox.queue.length < c.mailbox.capacity) ∧
    ((c.enqueue e).1 = .error .closed ↔ c.isLive = false) := by
  rw [enqueue_eq, admits_eq, overflows_eq]
  by_cases room : c.mailbox.queue.length < c.mailbox.capacity
  · cases live : c.isLive <;> simp [room]
  · cases live : c.isLive <;> simp [room, Nat.le_of_not_lt room]

end Connection

/-- **A connection is a bounded queue that can be closed.** After any calls on a new connection,
whatever capacity it was given:

* its signal is raised exactly if it was closed or marked closed, and that is exactly if it is not
  in the first phase any more; it is in the last phase exactly if it was marked closed, and from any
  call on the phase goes forward only;
* no more envelopes are queued than the capacity, or one if that is zero;
* an offer is accepted exactly if the signal is down, the receiving side was neither closed nor
  dropped, and fewer envelopes than that are queued; it finds the queue full exactly if only the
  last fails, and is refused as closed otherwise;
* unless the receiving side was dropped, the envelopes taken and then those queued are the accepted
  ones in their order, and in any case those taken are the first of them;
* the count of drops is the number of the offers that found the queue full: it is exact up to
  2 ^ 64 of them, and wraps around there;
* once the signal is raised no call changes that count or adds to the queue. -/
theorem bounded_fifo (user : UserId) (capacity : Nat) (calls : List Connection.Call) :
    let c := (Connection.new user capacity).after calls
    let transcript := (Connection.new user capacity).transcript calls
    let places := max capacity 1
    ((c.isClosed = true ↔ .close ∈ calls ∨ .markClosed ∈ calls) ∧
      (c.isClosed = true ↔ c.phase ≠ .opened) ∧
      (c.phase = .closed ↔ .markClosed ∈ calls) ∧
      ∀ more, c.phase.rank ≤ (c.after more).phase.rank) ∧
    c.mailbox.queue.length ≤ places ∧
    (∀ e, ((c.enqueue e).1 = .ok () ↔
        (c.isClosed = false ∧ .closeQueue ∉ calls ∧ .dropQueue ∉ calls) ∧
          c.mailbox.queue.length < places) ∧
      ((c.enqueue e).1 = .error .full ↔
        (c.isClosed = false ∧ .closeQueue ∉ calls ∧ .dropQueue ∉ calls) ∧
          ¬c.mailbox.queue.length < places) ∧
      ((c.enqueue e).1 = .error .closed ↔
        ¬(c.isClosed = false ∧ .closeQueue ∉ calls ∧ .dropQueue ∉ calls))) ∧
    ((.dropQueue ∉ calls → transcript.filterMap Connection.received? ++ c.mailbox.queue
        = transcript.filterMap Connection.accepted?) ∧
      transcript.filterMap Connection.received? <+: transcript.filterMap Connection.accepted?) ∧
    (c.dropped = transcript.countP Connection.foundFull % Word.limit64 ∧
      (transcript.countP Connection.foundFull < Word.limit64 →
        c.dropped = transcript.countP Connection.foundFull)) ∧
    (c.isClosed = true → ∀ more, (c.after more).dropped = c.dropped ∧
      (c.after more).mailbox.queue <:+ c.mailbox.queue) := by
  intro c transcript places
  let new := Connection.new user capacity
  have bound : c.mailbox.capacity = places := new.capacity_after calls
  have room : c.mailbox.queue.length ≤ places := new.room_after (Nat.zero_le _) calls
  have raised : c.isClosed = true ↔ .close ∈ calls ∨ .markClosed ∈ calls :=
    (new.isClosed_after_iff calls).trans (or_iff_right Bool.false_ne_true)
  have coherent : c.Coherent := (Connection.coherent_new user capacity).after calls
  have marked : c.phase = .closed ↔ .markClosed ∈ calls :=
    (new.phase_after_eq_closed_iff calls).trans (or_iff_right nofun)
  have listening : c.mailbox.receiver = .listening ↔ .closeQueue ∉ calls ∧ .dropQueue ∉ calls :=
    (new.receiver_after_eq_listening_iff calls).trans (and_iff_right rfl)
  have count : c.dropped = transcript.countP Connection.foundFull % Word.limit64 :=
    Connection.dropped_after_new user capacity calls
  have live : c.isLive = true ↔
      c.isClosed = false ∧ .closeQueue ∉ calls ∧ .dropQueue ∉ calls := by
    rw [← listening, Connection.isLive, Bool.and_eq_true, Bool.not_eq_true', decide_eq_true_eq]
  refine ⟨⟨raised, coherent, marked, c.rank_phase_le_after⟩, room, fun e => ?answer,
    ⟨fun keeps => new.queue_after keeps, new.received_prefix calls⟩,
    ⟨count, fun few => count.trans (Nat.mod_eq_of_lt few)⟩, c.quiet_after⟩
  have answer := c.enqueue_iff e
  rwa [bound, ← Bool.not_eq_true c.isLive, live] at answer

/-- A connection of one place: an offer to the full queue is counted, one after the closing is not,
and what is queued is still there to be taken. -/
example (user : UserId) (e f : Envelope) :
    (Connection.new user 0).transcript
        [.enqueue e, .enqueue f, .close, .enqueue f, .closeQueue, .receive, .receive]
      = [(.enqueue e, .offered (.ok ())), (.enqueue f, .offered (.error .full)), (.close, .done),
        (.enqueue f, .offered (.error .closed)), (.closeQueue, .done), (.receive, .taken (some e)),
        (.receive, .taken none)] :=
  rfl

end Parley
