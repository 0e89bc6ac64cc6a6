import Parley.Proofs.Session.WriterRun

/-!
# The invariant of a writer

`WriterRun.Sound` is the invariant of a run of the writing side. It has a case for each stage of
the writer and one for a writer that has ended. While the writer runs, the payloads of what came
into the mailbox are the texts written, the text under way and what is queued, in this order
(`Running.account`).
-/

namespace Parley

namespace WriterRun

variable {capacity : Nat} {r : WriterRun} {s : Standing}

/-- The payloads of what came into the mailbox. -/
def payloads (r : WriterRun) : List String := r.accepted.map Envelope.payload

/-- Writes that succeeded, none of them of a closing frame. -/
def Clean (attempts : List Attempt) : Prop :=
  ∀ a ∈ attempts, a.fault = none ∧ a.frame.isClose = false

/-- No more text frames than the mailbox has places, and then at most the closing frame. -/
def IsFlush (capacity : Nat) (frames : List Frame) : Prop :=
  ∃ texts rest, frames = texts ++ rest ∧ (∀ f ∈ texts, f.text?.isSome = true) ∧
    texts.length ≤ max capacity 1 ∧ (rest = [] ∨ rest = [Frame.goodbye])

/-- A run whose writer has not ended. -/
structure Running (capacity : Nat) (r : WriterRun) (s : Standing) : Prop where
  tidy : r.hub.Tidy
  standing : r.hub.standing? r.connection = some s
  running : r.session.outbound = none
  held : s.connection.held = true
  places : s.connection.mailbox.capacity = max capacity 1
  room : s.queue.length ≤ max capacity 1
  account : r.payloads =
    r.texts ++ (r.underway.bind Frame.text?).toList ++ s.queue.map Envelope.payload
  clean : Clean r.attempts

/-- A run whose writer has ended: how, is said by the last write. -/
structure Ended (capacity : Nat) (r : WriterRun) (s : Standing) : Prop where
  tidy : r.hub.Tidy
  retired : r.hub.Retired r.connection s
  idle : r.underway = none
  sent : r.texts <+: r.payloads
  flush : IsFlush capacity r.flush
  last : ∃ before last, r.attempts = before ++ [last] ∧ Clean before ∧
    r.session.outbound = some (last.fault.elim .unregistered .failed) ∧
    (last.fault = none → last.frame = .goodbye ∧ r.texts = r.payloads)

/-- What holds of a run at any time, by the stage of the writer. -/
inductive Sound (capacity : Nat) (r : WriterRun) : Prop where
  | serving (s : Standing) (running : r.Running capacity s)
      (stage : r.session.writer.stage = .serving)
      (listening : s.connection.mailbox.receiver = .listening) (flush : r.flush = [])
      (talk : ∀ f ∈ r.underway, f.isClose = false)
  | draining (s : Standing) (running : r.Running capacity s)
      (stage : r.session.writer.stage = .draining)
      (shut : s.connection.mailbox.receiver ≠ .listening)
      (texts : ∀ f ∈ r.flush, f.text?.isSome = true)
      (room : r.flush.length + s.queue.length ≤ max capacity 1)
  | closing (s : Standing) (running : r.Running capacity s)
      (stage : r.session.writer.stage = .closing)
      (shut : s.connection.mailbox.receiver ≠ .listening) (emptied : s.queue = [])
      (underway : r.underway = some .goodbye) (flush : IsFlush capacity r.flush)
  | ended (s : Standing) (ended : r.Ended capacity s)

/-! ### The beginning -/

/-- A writer that has just been started serves, and has nothing to write. -/
theorem sound_start {hub : Hub} (tidy : hub.Tidy) (user : UserId) (settings : Settings)
    (capacity : Nat) (began : Duration) :
    (start hub user settings capacity began).Sound capacity := by
  have hstanding : (start hub user settings capacity began).hub.standing?
      (start hub user settings capacity began).connection = some (.new user capacity) := by
    change (hub.openFor user capacity).2.standing? hub.connections.length = _
    rw [Hub.standing?_openFor tidy, if_pos rfl]
  refine .serving _ ⟨tidy.openFor user capacity, hstanding, rfl, rfl, rfl, Nat.zero_le _, rfl, ?_⟩
    rfl rfl rfl ?_
  · exact fun a ha => absurd ha List.not_mem_nil
  · exact fun f hf => absurd hf (by simp [start, underway, Writer.start])

/-! ### Elsewhere -/

/-- What is not reserved to the session happens on the hub. -/
theorem elsewhere_of_free {event : HubEvent} (free : event.isReserved r.connection = false) :
    r.elsewhere event = { r with
      hub := r.hub.after event
      accepted := r.accepted ++ r.hub.accepted r.connection event } := by
  rw [elsewhere, free]
  rfl

/-- What happens elsewhere does not stop a writer, and leaves the receiving side of its mailbox
alone; once that is shut, the queue stays as it is too. -/
theorem Running.elsewhere (running : r.Running capacity s) {event : HubEvent}
    (free : event.isReserved r.connection = false) :
    ∃ s', (r.elsewhere event).Running capacity s' ∧
      s'.connection.mailbox.receiver = s.connection.mailbox.receiver ∧
      (s.connection.mailbox.receiver ≠ .listening → s'.queue = s.queue) := by
  obtain ⟨s', hs', hheld, hmailbox, hroom⟩ :=
    Hub.standing?_after_of_free running.tidy running.standing free
  have hqueue : s'.queue = s.queue ++ r.hub.accepted r.connection event := by
    rw [Standing.queue, hmailbox]
  rw [elsewhere_of_free free]
  refine ⟨s', ⟨running.tidy.after event, hs', running.running, hheld.trans running.held, ?_, ?_, ?_,
    running.clean⟩, ?_, fun shut => ?_⟩
  · rw [hmailbox]
    exact running.places
  · rw [← running.places]
    exact hroom (running.places ▸ running.room)
  · have haccount := running.account
    unfold payloads at haccount ⊢
    rw [List.map_append, haccount, hqueue, List.map_append, ← List.append_assoc]
    rfl
  · rw [hmailbox]
  · rw [hqueue, Hub.accepted_of_shut running.tidy running.standing shut, List.append_nil]

/-- A writer that has ended stays so when others act on the hub. -/
theorem Ended.elsewhere (ended : r.Ended capacity s) {event : HubEvent}
    (free : event.isReserved r.connection = false) :
    ∃ s', (r.elsewhere event).Ended capacity s' := by
  obtain ⟨s', hs'⟩ := ended.retired.after ended.tidy event
  have hnone : r.hub.accepted r.connection event = [] := by
    refine Hub.accepted_of_shut ended.tidy ended.retired.standing ?_ event
    rw [ended.retired.gone]
    decide
  rw [elsewhere_of_free free, hnone, List.append_nil]
  exact ⟨s', ended.tidy.after event, hs', ended.idle, ended.sent, ended.flush, ended.last⟩

/-- What happens elsewhere keeps a run sound. -/
theorem Sound.elsewhere (sound : r.Sound capacity) (event : HubEvent) :
    (r.elsewhere event).Sound capacity := by
  cases hreserved : event.isReserved r.connection with
  | true =>
      have hsame : r.elsewhere event = r := by rw [WriterRun.elsewhere, hreserved, if_pos rfl]
      rwa [hsame]
  | false =>
      have hkept := elsewhere_of_free hreserved
      cases sound with
      | serving s running stage listening flush talk =>
          obtain ⟨s', hrunning, hreceiver, -⟩ := running.elsewhere hreserved
          rw [hkept] at hrunning ⊢
          exact .serving s' hrunning stage (hreceiver.trans listening) flush talk
      | draining s running stage shut texts room =>
          obtain ⟨s', hrunning, hreceiver, hqueue⟩ := running.elsewhere hreserved
          rw [hkept] at hrunning ⊢
          exact .draining s' hrunning stage (hreceiver ▸ shut) texts (hqueue shut ▸ room)
      | closing s running stage shut emptied underway flush =>
          obtain ⟨s', hrunning, hreceiver, hqueue⟩ := running.elsewhere hreserved
          rw [hkept] at hrunning ⊢
          exact .closing s' hrunning stage (hreceiver ▸ shut) ((hqueue shut).trans emptied)
            underway flush
      | ended s ended =>
          obtain ⟨s', hended⟩ := ended.elsewhere hreserved
          exact .ended s' hended

/-! ### Turns -/

/-- Without a write under way, the frames written since the signal are those attempted. -/
theorem flush_of_idle (idle : r.underway = none) :
    r.flush = (r.attempts.filter Attempt.flushing).map Attempt.frame := by
  rw [flush, idle]
  exact (congrArg _ (ite_self [])).trans (List.append_nil _)

/-- A writer that has ended or is writing takes no turn. -/
theorem turn_of_busy (busy : (r.hasEnded || r.underway.isSome) = true) (now : Duration) :
    r.turn now = r := by
  rw [turn, if_pos busy]

/-- A writer that finds nothing takes no turn. -/
theorem turn_of_none (running : r.session.outbound = none) (idle : r.underway = none)
    {now : Duration} (h : r.session.turn? r.hub now = none) : r.turn now = r := by
  simp [turn, hasEnded, running, idle, h]

/-- A writer that finds something turns to it. -/
theorem turn_of_some (running : r.session.outbound = none) (idle : r.underway = none)
    {now : Duration} {writing : Writing} {hub : Hub}
    (h : r.session.turn? r.hub now = some (writing, hub)) :
    r.turn now = { r with
      session := (r.session.write hub now writing).1
      hub := (r.session.write hub now writing).2 } := by
  simp [turn, hasEnded, running, idle, h]

/-- A run whose writer has another state and whose hub another form. -/
def withWriter (r : WriterRun) (writer : Writer) (hub : Hub) : WriterRun :=
  { r with session := { r.session with writer }, hub }

/-- A writer that takes the oldest envelope out of the mailbox and begins to write it runs on. -/
theorem Running.dequeue (running : r.Running capacity s) (idle : r.underway = none) {e : Envelope}
    {rest : List Envelope} (hqueue : s.queue = e :: rest) (now : Duration) :
    ∃ s', (r.withWriter (r.session.writer.send now (.text e.payload))
        (r.hub.handle r.connection .receive)).Running capacity s' ∧
      s'.connection.mailbox.receiver = s.connection.mailbox.receiver ∧ s'.queue = rest := by
  have hstanding : (r.hub.handle r.connection .receive).standing? r.connection =
      some (s.meet (.handled .receive)) := by
    rw [Hub.standing?_handle running.tidy, if_pos rfl, running.standing]
    rfl
  have hmailbox := Standing.mailbox_receive s.connection
  have htail : (s.meet (.handled .receive)).queue = rest := by
    change (s.connection.handled .receive).mailbox.queue = rest
    rw [hmailbox]
    exact congrArg List.tail hqueue
  refine ⟨_, ⟨running.tidy.handle r.connection .receive, hstanding, running.running, ?_, ?_, ?_,
    ?_, running.clean⟩, ?_, htail⟩
  · have hframe : (s.connection.handled .receive).held = s.connection.held := by
      simp only [Connection.handled, Connection.dequeue_eq]
      cases s.connection.mailbox.queue <;> rfl
    exact hframe.trans running.held
  · change (s.connection.handled .receive).mailbox.capacity = _
    rw [hmailbox]
    exact running.places
  · have hroom := running.room
    rw [hqueue, List.length_cons] at hroom
    rw [htail]
    omega
  · have haccount := running.account
    rw [idle, hqueue] at haccount
    rw [htail]
    simpa [withWriter, underway, Writer.send, Frame.text?, payloads, texts] using haccount
  · change (s.connection.handled .receive).mailbox.receiver = _
    rw [hmailbox]

/-- A writer that begins to write a frame of its own runs on. -/
theorem Running.begin (running : r.Running capacity s) (idle : r.underway = none) {writer : Writer}
    {f : Frame} {now : Duration} (hwriting : writer.writing = some (f, now))
    (htext : f.text? = none) : (r.withWriter writer r.hub).Running capacity s := by
  refine ⟨running.tidy, running.standing, running.running, running.held, running.places,
    running.room, ?_, running.clean⟩
  have haccount := running.account
  rw [idle] at haccount
  simpa [withWriter, underway, hwriting, htext, payloads, texts] using haccount

/-- A writer that has seen the closed signal shuts its mailbox and runs on. -/
theorem Running.shut (running : r.Running capacity s) :
    (r.withWriter { r.session.writer with stage := .draining }
      (r.hub.handle r.connection .closeQueue)).Running capacity
        (s.meet (.handled .closeQueue)) := by
  have hstanding : (r.hub.handle r.connection .closeQueue).standing? r.connection =
      some (s.meet (.handled .closeQueue)) := by
    rw [Hub.standing?_handle running.tidy, if_pos rfl, running.standing]
    rfl
  exact ⟨running.tidy.handle r.connection .closeQueue, hstanding, running.running, running.held,
    running.places, running.room, running.account, running.clean⟩

/-- What a turn of the writer comes to, by what it turned to. -/
theorem turn_of_signal (running : r.session.outbound = none) (idle : r.underway = none)
    {now : Duration} {hub : Hub} (h : r.session.turn? r.hub now = some (.signal, hub)) :
    r.turn now = r.withWriter { r.session.writer with stage := .draining }
      (hub.handle r.connection .closeQueue) :=
  turn_of_some running idle h

/-- A writer that has taken an envelope begins to write it. -/
theorem turn_of_dequeued (running : r.session.outbound = none) (idle : r.underway = none)
    {now : Duration} {hub : Hub} {e : Envelope}
    (h : r.session.turn? r.hub now = some (.dequeued e, hub)) :
    r.turn now = r.withWriter (r.session.writer.send now (.text e.payload)) hub :=
  turn_of_some running idle h

/-- A writer that has emptied the mailbox begins to write the closing frame. -/
theorem turn_of_emptied (running : r.session.outbound = none) (idle : r.underway = none)
    {now : Duration} {hub : Hub} (h : r.session.turn? r.hub now = some (.emptied, hub)) :
    r.turn now =
      r.withWriter ({ r.session.writer with stage := .closing }.send now .goodbye) hub :=
  turn_of_some running idle h

/-- A writer that finds a ping due begins to write it. -/
theorem turn_of_tick (running : r.session.outbound = none) (idle : r.underway = none)
    {now : Duration} {hub : Hub} (h : r.session.turn? r.hub now = some (.tick, hub)) :
    r.turn now = r.withWriter
      ({ r.session.writer with
        pingDue := Writer.nextPing r.session.settings now r.session.writer.pingDue }.send now
          (.ping []))
      hub :=
  turn_of_some running idle h

/-- What is written before the signal is seen is no part of the flush. -/
theorem flush_withWriter_of_serving (idle : r.underway = none) (writer : Writer) (hub : Hub)
    (stage : writer.stage = .serving) : (r.withWriter writer hub).flush = r.flush := by
  have hserving : (r.withWriter writer hub).isFlushing = false := by
    simp [isFlushing, withWriter, stage]
  rw [flush_of_idle idle, flush, hserving, if_neg Bool.false_ne_true]
  exact List.append_nil _

/-- What is written after the signal was seen is. -/
theorem flush_withWriter_of_flushing (idle : r.underway = none) (writer : Writer) (hub : Hub)
    (stage : writer.stage ≠ .serving) :
    (r.withWriter writer hub).flush = r.flush ++ (writer.writing.map Prod.fst).toList := by
  have hflushing : (r.withWriter writer hub).isFlushing = true := by
    simp [isFlushing, withWriter, stage]
  rw [flush_of_idle idle, flush, hflushing, if_pos rfl]
  rfl

/-- A writer that sees the signal shuts its mailbox, and has not flushed anything yet. -/
theorem Running.turn_of_signal (running : r.Running capacity s) (idle : r.underway = none)
    (listening : s.connection.mailbox.receiver = .listening) (flush : r.flush = [])
    {now : Duration} (hturn : r.session.turn? r.hub now = some (.signal, r.hub)) :
    (r.turn now).Sound capacity := by
  have hnone := flush_withWriter_of_flushing idle { r.session.writer with stage := .draining }
    (r.hub.handle r.connection .closeQueue) (by simp)
  rw [flush, Option.map_eq_none_iff.mp idle] at hnone
  rw [WriterRun.turn_of_signal running.running idle hturn]
  refine .draining _ running.shut rfl ?_ ?_ ?_
  · simp [Standing.meet, Connection.handled, Connection.closeQueue, Mailbox.close, listening]
  · rw [hnone]
    exact fun f hf => absurd hf List.not_mem_nil
  · rw [hnone]
    exact (Nat.zero_add _).symm ▸ running.room

/-- The turn of an idle serving writer keeps a run sound: it sees the signal, begins to write the
oldest envelope or a ping, or has nothing to do. -/
theorem Running.turn_of_serving (running : r.Running capacity s) (idle : r.underway = none)
    (stage : r.session.writer.stage = .serving)
    (listening : s.connection.mailbox.receiver = .listening) (flush : r.flush = [])
    (now : Duration) : (r.turn now).Sound capacity := by
  have hturn := Session.turn?_of_serving running.standing stage running.held listening now
  cases hclosed : s.connection.isClosed with
  | true =>
      rw [hclosed, if_pos rfl] at hturn
      exact running.turn_of_signal idle listening flush hturn
  | false =>
      rw [hclosed, if_neg Bool.false_ne_true] at hturn
      cases hqueue : s.queue with
      | cons e rest =>
          rw [hqueue] at hturn
          rw [turn_of_dequeued running.running idle hturn]
          obtain ⟨s', hrunning, hreceiver, -⟩ := running.dequeue idle hqueue now
          have hstage : (r.session.writer.send now (.text e.payload)).stage = .serving := stage
          refine .serving s' hrunning hstage (hreceiver.trans listening) ?_ ?_
          · exact (flush_withWriter_of_serving idle _ _ hstage).trans flush
          · rintro f ⟨⟩
            rfl
      | nil =>
          rw [hqueue] at hturn
          by_cases hdue : r.session.writer.pingDue ≤ now
          · simp only [hdue, if_true] at hturn
            rw [turn_of_tick running.running idle hturn]
            refine .serving s (running.begin idle rfl rfl) stage listening ?_ ?_
            · refine (flush_withWriter_of_serving idle _ _ ?_).trans flush
              exact stage
            · rintro f ⟨⟩
              rfl
          · simp only [hdue, if_false] at hturn
            rw [turn_of_none running.running idle hturn]
            refine .serving s running stage listening flush ?_
            rw [idle]
            exact fun f hf => absurd hf (by simp)

/-- The turn of an idle draining writer keeps a run sound: it begins to write the oldest envelope,
or the closing frame. -/
theorem Running.turn_of_draining (running : r.Running capacity s) (idle : r.underway = none)
    (stage : r.session.writer.stage = .draining)
    (shut : s.connection.mailbox.receiver ≠ .listening)
    (texts : ∀ f ∈ r.flush, f.text?.isSome = true)
    (room : r.flush.length + s.queue.length ≤ max capacity 1) (now : Duration) :
    (r.turn now).Sound capacity := by
  cases hqueue : s.queue with
  | cons e rest =>
      have hturn : r.session.turn? r.hub now =
          some (.dequeued e, r.hub.handle r.connection .receive) := by
        rw [Session.turn?_of_draining running.standing stage, hqueue]
        rfl
      rw [turn_of_dequeued running.running idle hturn]
      obtain ⟨s', hrunning, hreceiver, hrest⟩ := running.dequeue idle hqueue now
      have hflush := flush_withWriter_of_flushing idle
        (r.session.writer.send now (.text e.payload)) (r.hub.handle r.connection .receive)
        (by simp [Writer.send, stage])
      refine .draining s' hrunning stage (hreceiver ▸ shut) ?_ ?_
      · rw [hflush]
        intro f hf
        rcases List.mem_append.mp hf with hf | hf
        · exact texts f hf
        · rw [List.mem_singleton.mp hf]
          rfl
      · rw [hqueue, List.length_cons] at room
        rw [hflush, hrest, List.length_append]
        simp only [Writer.send, Option.map_some, Option.toList_some, List.length_singleton]
        omega
  | nil =>
      have hturn : r.session.turn? r.hub now = some (.emptied, r.hub) := by
        rw [Session.turn?_of_draining running.standing stage, hqueue]
      rw [turn_of_emptied running.running idle hturn]
      have hflush := flush_withWriter_of_flushing idle
        ({ r.session.writer with stage := .closing }.send now .goodbye) r.hub
        (by simp [Writer.send])
      refine .closing s (running.begin idle rfl rfl) rfl shut hqueue rfl ?_
      rw [hqueue] at room
      exact ⟨r.flush, [Frame.goodbye], hflush, texts, room, Or.inr rfl⟩

/-- The writer's turn keeps a run sound. -/
theorem Sound.turn (sound : r.Sound capacity) (now : Duration) : (r.turn now).Sound capacity := by
  cases hbusy : r.hasEnded || r.underway.isSome with
  | true => rwa [turn_of_busy hbusy]
  | false =>
      have hidle : r.underway = none := by
        rw [Bool.or_eq_false_iff] at hbusy
        exact Option.isSome_eq_false_iff.mp hbusy.2 |> Option.isNone_iff_eq_none.mp
      cases sound with
      | serving s running stage listening flush talk =>
          exact running.turn_of_serving hidle stage listening flush now
      | draining s running stage shut texts room =>
          exact running.turn_of_draining hidle stage shut texts room now
      | closing s running stage shut emptied underway flush =>
          rw [hidle] at underway
          cases underway
      | ended s ended =>
          obtain ⟨before, last, -, -, houtbound, -⟩ := ended.last
          simp [hasEnded, houtbound] at hbusy

/-! ### Outcomes -/

/-- A write has no outcome where nothing is being written. -/
theorem outcome_of_idle (idle : r.underway = none) (now : Duration) (o : WriteOutcome) :
    r.outcome now o = r := by
  rw [outcome, idle]
  exact ite_self r

/-- The outcome of the write under way. -/
theorem outcome_of_underway (running : r.session.outbound = none) {f : Frame}
    (underway : r.underway = some f) (now : Duration) (o : WriteOutcome) :
    r.outcome now o = { r with
      session := (r.session.write r.hub now o.writing).1
      hub := (r.session.write r.hub now o.writing).2
      attempts := r.attempts ++ [⟨f, r.isFlushing, o.fault?⟩] } := by
  simp [outcome, hasEnded, running, underway]

/-- A frame that is written does not end a writer, but for the closing frame. -/
theorem outcome_of_done (running : r.session.outbound = none) {f : Frame}
    (underway : r.underway = some f) (stage : r.session.writer.stage ≠ .closing)
    (now : Duration) :
    r.outcome now .done = { r.withWriter { r.session.writer with writing := none } r.hub with
      attempts := r.attempts ++ [⟨f, r.isFlushing, none⟩] } := by
  rw [outcome_of_underway running underway]
  simp [Session.write, Writer.react, WriteOutcome.writing, WriteOutcome.fault?, stage, withWriter]

/-- A run whose writer has ended. -/
def withExit (r : WriterRun) (exit : SessionExit) : WriterRun :=
  { r with
    session := { r.session with
      writer := { r.session.writer with writing := none }, outbound := some exit }
    hub := r.hub.retire r.connection }

/-- The writer ends with a write that fails and with the closing frame. -/
theorem outcome_of_last (running : r.session.outbound = none) {f : Frame}
    (underway : r.underway = some f) (now : Duration) {o : WriteOutcome}
    (last : o.fault? = none → r.session.writer.stage = .closing) :
    r.outcome now o = { r.withExit (o.fault?.elim .unregistered .failed) with
      attempts := r.attempts ++ [⟨f, r.isFlushing, o.fault?⟩] } := by
  have hretire : (r.hub.unregister r.session.connection).update r.session.connection
      (fun c => c.markClosed.dropQueue) = r.hub.retire r.connection := by
    simp [Hub.retire, Hub.handle, Hub.update, connection, List.modify_modify_eq, Function.comp_def]
  rw [outcome_of_underway running underway]
  cases o with
  | done =>
      have hclosing := last rfl
      simp [Session.write, Writer.react, WriteOutcome.writing, WriteOutcome.fault?, hclosing,
        withExit, hretire]
  | refused reason =>
      simp [Session.write, Writer.react, WriteOutcome.writing, WriteOutcome.fault?, withExit,
        hretire]
  | overdue =>
      simp [Session.write, Writer.react, WriteOutcome.writing, WriteOutcome.fault?, withExit,
        hretire]

/-- A write that comes to its end has been part of the flush from its beginning, or never is. -/
theorem flush_of_finished {r' : WriterRun} {f : Frame} {fault : Option TransportFault}
    (underway : r.underway = some f) (idle : r'.underway = none)
    (attempts : r'.attempts = r.attempts ++ [⟨f, r.isFlushing, fault⟩]) : r'.flush = r.flush := by
  rw [flush_of_idle idle, attempts, List.filter_append, List.map_append, flush, underway]
  cases r.isFlushing <;> rfl

/-- A text is written when its write has succeeded. -/
theorem texts_of_finished {r' : WriterRun} {a : Attempt}
    (attempts : r'.attempts = r.attempts ++ [a]) : r'.texts = r.texts ++ a.text?.toList := by
  rw [texts, attempts, List.filterMap_append, texts]
  cases h : a.text? <;> simp [h]

/-- A writer that has written a frame, other than the closing frame, runs on. -/
theorem Running.done (running : r.Running capacity s) {f : Frame} (underway : r.underway = some f)
    (talk : f.isClose = false) :
    WriterRun.Running capacity
      { r.withWriter { r.session.writer with writing := none } r.hub with
        attempts := r.attempts ++ [⟨f, r.isFlushing, none⟩] } s := by
  refine ⟨running.tidy, running.standing, running.running, running.held, running.places,
    running.room, ?_, ?_⟩
  · have haccount := running.account
    rw [underway] at haccount
    rw [texts_of_finished (r := r) rfl]
    simpa [payloads, withWriter, WriterRun.underway, Attempt.text?] using haccount
  · intro a ha
    rcases List.mem_append.mp ha with ha | ha
    · exact running.clean a ha
    · rw [List.mem_singleton.mp ha]
      exact ⟨rfl, talk⟩

/-- A writer ends in order with the closing frame, when nothing is queued any more, and otherwise
with a write that failed. -/
theorem Running.exit (running : r.Running capacity s) {f : Frame} (underway : r.underway = some f)
    (flush : IsFlush capacity r.flush) {fault : Option TransportFault}
    (inOrder : fault = none → f = .goodbye ∧ s.queue = []) :
    ∃ s', WriterRun.Ended capacity
      { r.withExit (fault.elim .unregistered .failed) with
        attempts := r.attempts ++ [⟨f, r.isFlushing, fault⟩] } s' := by
  obtain ⟨s', retired⟩ := Hub.retired_retire running.tidy running.standing
  have haccount := running.account
  rw [underway, Option.bind_some] at haccount
  refine ⟨s', Hub.tidy_retire running.tidy _, retired, rfl, ?_, ?_,
    r.attempts, ⟨f, r.isFlushing, fault⟩, rfl, running.clean, rfl, fun hfault => ?_⟩
  · change _ <+: r.payloads
    rw [texts_of_finished (r := r) rfl, haccount]
    cases fault with
    | none => exact List.prefix_append _ _
    | some fault =>
        have hnone : Attempt.text? ⟨f, r.isFlushing, some fault⟩ = none := rfl
        rw [hnone, Option.toList_none, List.append_nil, List.append_assoc]
        exact List.prefix_append _ _
  · rw [flush_of_finished underway rfl rfl]
    exact flush
  · obtain ⟨hf, hqueue⟩ := inOrder hfault
    have hnone : Attempt.text? ⟨f, r.isFlushing, fault⟩ = none := by
      rw [hf]
      exact ite_self none
    refine ⟨hf, ?_⟩
    change _ = r.payloads
    rw [texts_of_finished (r := r) rfl, hnone, haccount, hqueue, hf]
    exact (List.append_nil _).symm

/-- A write that fails ends the writer. -/
theorem Running.outcome_failed (running : r.Running capacity s) {f : Frame}
    (underway : r.underway = some f) (flush : IsFlush capacity r.flush) (now : Duration)
    {o : WriteOutcome} (failed : o.fault? ≠ none) : (r.outcome now o).Sound capacity := by
  rw [outcome_of_last running.running underway now fun h => absurd h failed]
  obtain ⟨s', ended⟩ := running.exit underway flush fun h => absurd h failed
  exact .ended s' ended

/-- Text frames for which the mailbox has places are a flush. -/
theorem isFlush_of_texts {frames : List Frame} (texts : ∀ f ∈ frames, f.text?.isSome = true)
    (room : frames.length ≤ max capacity 1) : IsFlush capacity frames :=
  ⟨frames, [], (List.append_nil frames).symm, texts, room, Or.inl rfl⟩

/-- The end of the write under way keeps a run sound. -/
theorem Sound.outcome (sound : r.Sound capacity) (now : Duration) (o : WriteOutcome) :
    (r.outcome now o).Sound capacity := by
  cases hunderway : r.underway with
  | none => rwa [outcome_of_idle hunderway]
  | some f =>
      cases sound with
      | serving s running stage listening flush talk =>
          have hflush : IsFlush capacity r.flush := by
            rw [flush]
            exact isFlush_of_texts (fun f hf => absurd hf List.not_mem_nil) (Nat.zero_le _)
          cases o with
          | done =>
              rw [outcome_of_done running.running hunderway (by simp [stage])]
              refine .serving s (running.done hunderway (talk f hunderway)) stage listening ?_ ?_
              · exact (flush_of_finished hunderway rfl rfl).trans flush
              · exact fun f hf => absurd hf (by simp [underway, withWriter])
          | refused reason => exact running.outcome_failed hunderway hflush now nofun
          | overdue => exact running.outcome_failed hunderway hflush now nofun
      | draining s running stage shut texts room =>
          have hflush := isFlush_of_texts texts (Nat.le_of_add_right_le room)
          cases o with
          | done =>
              have htext : f.text?.isSome = true := by
                apply texts
                rw [WriterRun.flush, hunderway]
                simp [isFlushing, stage]
              rw [outcome_of_done running.running hunderway (by simp [stage])]
              refine .draining s (running.done hunderway (Frame.isClose_of_text? htext)) stage shut
                ?_ ?_
              · rw [flush_of_finished hunderway rfl rfl]
                exact texts
              · rw [flush_of_finished hunderway rfl rfl]
                exact room
          | refused reason => exact running.outcome_failed hunderway hflush now nofun
          | overdue => exact running.outcome_failed hunderway hflush now nofun
      | closing s running stage shut emptied underway flush =>
          rw [hunderway, Option.some_inj] at underway
          rw [outcome_of_last running.running hunderway now fun _ => stage]
          obtain ⟨s', ended⟩ := running.exit hunderway flush fun _ => ⟨underway, emptied⟩
          exact .ended s' ended
      | ended s ended =>
          rw [ended.idle] at hunderway
          cases hunderway

/-- Every event keeps a run sound. -/
theorem Sound.step (sound : r.Sound capacity) (event : WriterEvent) :
    (r.step event).Sound capacity := by
  cases event with
  | elsewhere event => exact sound.elsewhere event
  | turn now => exact sound.turn now
  | outcome now o => exact sound.outcome now o

/-- Every run goes on being sound. -/
theorem Sound.run (sound : r.Sound capacity) (events : List WriterEvent) :
    (r.run events).Sound capacity := by
  induction events generalizing r with
  | nil => exact sound
  | cons event rest ih => exact ih (sound.step event)

end WriterRun

end Parley
