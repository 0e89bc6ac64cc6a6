import Parley.Loopback.Line
import Parley.Proofs.Session.WriterRun

/-!
# The writer of a line

What the writer of a line does by itself is a `WriterRun`: each of its steps is a turn or the
outcome of a write (`Line.writeStep_eq_step`), and so is what it does until it waits
(`Line.runWriter_eq_run`). What holds of every run of a writer holds of every line.
-/

namespace Parley

/-- What the writer does by itself. -/
def WriterEvent.isOwn : WriterEvent → Bool
  | .elsewhere _ => false
  | .turn _ | .outcome _ _ => true

namespace Loopback.Line

variable {σ : Type} {env : Surroundings σ} {now : Duration}

/-- What a write on the socket comes to is an outcome. -/
theorem writing_of_writeOutcome? {line : Line} {frame : Frame} {began : Duration}
    {writing : Writing} (h : (line.writeOutcome? now frame began).1 = some writing) :
    ∃ o : WriteOutcome, o.writing = writing := by
  unfold writeOutcome? at h
  cases hwrite : line.socket.write now frame with
  | mk result socket =>
      rw [hwrite] at h
      cases result with
      | done => exact ⟨.done, Option.some.inj h⟩
      | refused reason => exact ⟨.refused reason, Option.some.inj h⟩
      | pending =>
          simp only at h
          split_ifs at h
          exact ⟨.overdue, Option.some.inj h⟩

/-- Each step of the writer of a line is a turn, or the outcome of a write. -/
theorem writeStep_eq_step (reads : ∀ state hub, env.hub (env.setHub state hub) = hub)
    {line later : Line} {state after : σ}
    (h : (line.writeStep env now state).2 = some (later, after)) {r : WriterRun}
    (session : r.session = line.session) (hub : r.hub = env.hub state) :
    ∃ event : WriterEvent, event.isOwn = true ∧ (r.step event).session = later.session ∧
      (r.step event).hub = env.hub after := by
  have applied : ∀ (line' : Line) hub' writing, line'.session = line.session →
      ((line'.apply now hub' writing).1, env.setHub state (line'.apply now hub' writing).2) =
        (later, after) →
      (r.session.write hub' now writing).1 = later.session ∧
        (r.session.write hub' now writing).2 = env.hub after := by
    intro line' hub' writing hline heq
    have hafter : env.setHub state (line'.apply now hub' writing).2 = after :=
      congrArg Prod.snd heq
    rw [session, ← hline, ← hafter, reads]
    exact ⟨congrArg (fun p => p.1.session) heq, rfl⟩
  unfold writeStep at h
  split_ifs at h with hstopped
  rw [Bool.or_eq_true, not_or, Option.not_isSome_iff_eq_none] at hstopped
  have hrunning : r.session.outbound = none := by
    rw [session]
    exact hstopped.2
  cases hwriting : line.session.writer.writing with
  | none =>
      rw [hwriting] at h
      obtain ⟨⟨writing, turned⟩, hturn, heq⟩ := Option.map_eq_some_iff.mp h
      rw [← session, ← hub] at hturn
      have hidle : r.underway = none := by
        rw [WriterRun.underway, session, hwriting, Option.map_none]
      refine ⟨.turn now, rfl, ?_⟩
      simpa [WriterRun.step, WriterRun.turn, WriterRun.hasEnded, hrunning, hidle, hturn]
        using applied line turned writing rfl heq
  | some p =>
      rw [hwriting] at h
      obtain ⟨writing, houtcome, heq⟩ := Option.map_eq_some_iff.mp h
      obtain ⟨o, rfl⟩ := writing_of_writeOutcome? houtcome
      have hunderway : r.underway = some p.1 := by
        rw [WriterRun.underway, session, hwriting, Option.map_some]
      have hlater := applied { line with socket := (line.writeOutcome? now p.1 p.2).2 } _ o.writing
        rfl heq
      rw [← hub] at hlater
      refine ⟨.outcome now o, rfl, ?_⟩
      simpa [WriterRun.step, WriterRun.outcome, WriterRun.hasEnded, hrunning, hunderway]
        using hlater

/-- A step of the writer changes the line in place only where it changes the socket. -/
theorem session_writeStep (line : Line) (env : Surroundings σ) (now : Duration) (state : σ) :
    (line.writeStep env now state).1.session = line.session := by
  unfold writeStep
  split_ifs
  · rfl
  · cases line.session.writer.writing <;> rfl

/-- What the writer of a line does until it waits are turns and outcomes. -/
theorem runWriter_eq_run (reads : ∀ state hub, env.hub (env.setHub state hub) = hub)
    (steps : Nat) (line : Line) (state : σ) {r : WriterRun} (session : r.session = line.session)
    (hub : r.hub = env.hub state) :
    ∃ events : List WriterEvent, (∀ event ∈ events, event.isOwn = true) ∧
      (r.run events).session = (line.runWriter env now steps state).1.session ∧
      (r.run events).hub = env.hub (line.runWriter env now steps state).2 := by
  induction steps generalizing line state r with
  | zero => exact ⟨[], fun _ h => absurd h List.not_mem_nil, session, hub⟩
  | succ steps ih =>
      unfold runWriter
      cases hstep : line.writeStep env now state with
      | mk kept next =>
          cases next with
          | none =>
              have hkept := line.session_writeStep env now state
              rw [hstep] at hkept
              exact ⟨[], fun _ h => absurd h List.not_mem_nil, session.trans hkept.symm, hub⟩
          | some p =>
              obtain ⟨event, hown, hsession, hhub⟩ :=
                writeStep_eq_step reads (congrArg Prod.snd hstep) session hub
              obtain ⟨events, howns, hlater⟩ := ih p.1 p.2 hsession hhub
              exact ⟨event :: events, List.forall_mem_cons.mpr ⟨hown, howns⟩, hlater⟩

end Loopback.Line

end Parley
