import Parley.Config
import Parley.Session.Writer

/-!
# When pings and pongs are due

A ping that is sent as soon as it is due leaves the peer `Settings.slack`, a tenth of the pong wait.
Two writes of less than half of that fit into it: one that was under way when the ping came due, and
that of the ping. `Timely` says of the times alone that nothing keeps the next pong from coming in
time: the deadline is late enough after the next ping is due (`Covered`), or the ping is being
written and will be done before the deadline. What may happen to these times keeps it so, as long as
no text is begun once a ping is due (`Timely.beginText`).

The settings of any configuration leave such a slack (`Config.paced`).
-/

namespace Parley

namespace Settings

/-- How long the peer has to answer a ping that is sent as soon as it is due. -/
def slack (s : Settings) : Duration := s.pongWait - s.pingPeriod

end Settings

/-! ### Times -/

/-- Whether the next pong is bound to come in time if the next ping is sent when it is due: the
deadline is late enough after that, or is about to be moved by a pong that has arrived. -/
def Covered (slack now due deadline : Nat) (ponged : Prop) : Prop :=
  due + slack ≤ deadline ∨ ponged ∧ now < due

/-- Nothing keeps the next pong from coming in time. That is a matter of the frame under way, of the
times at which the next ping is due and the next pong expected, and of whether a pong has arrived
and is not read. -/
inductive Timely (period slack now due deadline : Nat) (ponged : Prop) :
    Option (Frame × Nat) → Prop where
  | idle (covered : Covered slack now due deadline ponged) (soon : 2 * now < 2 * due + slack) :
      Timely period slack now due deadline ponged none
  | text {content : String} {began : Nat} (covered : Covered slack now due deadline ponged)
      (early : began < due) (begun : began ≤ now) (short : 2 * (now - began) < slack) :
      Timely period slack now due deadline ponged (some (.text content, began))
  | ping {bytes : List UInt8} {began : Nat} (awaited : 2 * began + slack ≤ 2 * deadline)
      (early : 2 * began + slack ≤ 2 * due) (begun : began ≤ now)
      (short : 2 * (now - began) < slack) :
      Timely period slack now due deadline ponged (some (.ping bytes, began))

section Timely

variable {period slack now due deadline later : Nat} {ponged ponged' : Prop}
  {writing : Option (Frame × Nat)}

/-- What covers the deadline still does with a pong more. -/
theorem Covered.mono (covered : Covered slack now due deadline ponged) (more : ponged → ponged') :
    Covered slack now due deadline ponged' :=
  covered.imp_right (And.imp_left more)

/-- A pong that is read moves the deadline on. -/
theorem covered_of_pong (recent : due ≤ now + period) :
    Covered slack now due (now + (period + slack)) ponged :=
  .inl (by omega)

/-- With no pong unread, it is the deadline itself that is late enough. -/
theorem Covered.of_not_ponged (covered : Covered slack now due deadline ponged) (none : ¬ponged) :
    due + slack ≤ deadline :=
  covered.resolve_right fun h => none h.1

namespace Timely

/-- All is timely at the start. -/
theorem start (pos : 0 < slack) :
    Timely period slack now (now + period) (now + (period + slack)) ponged none :=
  .idle (.inl (by omega)) (by omega)

/-- All stays timely with a pong more. -/
theorem mono (timely : Timely period slack now due deadline ponged writing)
    (more : ponged → ponged') : Timely period slack now due deadline ponged' writing := by
  cases timely with
  | idle covered soon => exact .idle (covered.mono more) soon
  | text covered early begun short => exact .text (covered.mono more) early begun short
  | ping awaited early begun short => exact .ping awaited early begun short

/-- A pong is read. -/
theorem pong (timely : Timely period slack now due deadline ponged writing)
    (recent : due ≤ now + period) :
    Timely period slack now due (now + (period + slack)) ponged' writing := by
  have covered : Covered slack now due (now + (period + slack)) ponged' := covered_of_pong recent
  cases timely with
  | idle _ soon => exact .idle covered soon
  | text _ early begun short => exact .text covered early begun short
  | ping _ early begun short => exact .ping (by omega) early begun short

/-- An idle writer begins to write a text before the ping is due. -/
theorem beginText (timely : Timely period slack now due deadline ponged none) (pos : 0 < slack)
    (early : now < due) (content : String) :
    Timely period slack now due deadline ponged (some (.text content, now)) := by
  cases timely with
  | idle covered _ => exact .text covered early (Nat.le_refl _) (by omega)

/-- An idle writer begins to write a ping that is due. The one after it is due a period later or
more. -/
theorem beginPing (timely : Timely period slack now due deadline ponged none) (pos : 0 < slack)
    (le : slack ≤ period) (isDue : due ≤ now) (next : due + period ≤ later) (bytes : List UInt8) :
    Timely period slack now later deadline ponged (some (.ping bytes, now)) := by
  cases timely with
  | idle covered soon =>
    have close : due + slack ≤ deadline := covered.resolve_right fun h => by omega
    exact .ping (by omega) (by omega) (Nat.le_refl _) (by omega)

/-- The frame under way has been written; a ping is answered. -/
theorem finish {frame : Frame} {began : Nat}
    (timely : Timely period slack now due deadline ponged (some (frame, began)))
    (answered : (∃ bytes, frame = .ping bytes) ∨ ponged → ponged') :
    Timely period slack now due deadline ponged' none := by
  cases timely with
  | text covered early begun short =>
    exact .idle (covered.mono fun h => answered (.inr h)) (by omega)
  | ping awaited early begun short =>
    exact .idle (.inr ⟨answered (.inl ⟨_, rfl⟩), by omega⟩) (by omega)

/-- Until a write has taken half of the slack, or the next ping is due, the deadline is not
reached. -/
theorem lt_deadline (timely : Timely period slack now due deadline ponged writing)
    (pos : 0 < slack) (unread : ¬ponged) (le : now ≤ later)
    (waits : ∀ w ∈ writing, 2 * (later - w.2) < slack) (idle : writing = none → later ≤ due) :
    later < deadline := by
  cases timely with
  | idle covered soon =>
    have close := covered.of_not_ponged unread
    have := idle rfl
    omega
  | text covered early begun short =>
    have close := covered.of_not_ponged unread
    have : 2 * (later - _) < slack := waits _ rfl
    omega
  | ping awaited early begun short =>
    have : 2 * (later - _) < slack := waits _ rfl
    omega

/-- Time passes. -/
theorem pass (timely : Timely period slack now due deadline ponged writing) (pos : 0 < slack)
    (unread : ¬ponged) (le : now ≤ later) (waits : ∀ w ∈ writing, 2 * (later - w.2) < slack)
    (idle : writing = none → later ≤ due) :
    Timely period slack later due deadline ponged writing := by
  cases timely with
  | idle covered soon =>
    have := idle rfl
    exact .idle (.inl (covered.of_not_ponged unread)) (by omega)
  | text covered early begun short =>
    exact .text (.inl (covered.of_not_ponged unread)) early (Nat.le_trans begun le) (waits _ rfl)
  | ping awaited early begun short =>
    exact .ping awaited early (Nat.le_trans begun le) (waits _ rfl)

end Timely

end Timely

/-! ### Settings of a configuration -/

namespace Settings

/-- Settings under which a ping can be answered in time: what the period leaves of the pong wait is
something, and no more than the period. -/
structure Paced (s : Settings) : Prop where
  pongWait : s.pongWait = s.effectivePingPeriod + s.slack
  pos : 0 < s.slack
  le : s.slack ≤ s.effectivePingPeriod

/-- Paced settings have a positive pong wait. -/
theorem Paced.pongWait_pos {s : Settings} (paced : s.Paced) : 0 < s.pongWait := by
  rw [paced.pongWait]
  exact Nat.lt_add_left _ paced.pos

end Settings

/-- The settings of a configuration are paced. -/
theorem Config.paced {config : Config} {s : Settings} (positive : 0 < config.pongWaitSecs)
    (given : config.settings? = some s) : s.Paced := by
  have inNanoseconds : ∀ n : Nat, 0 < n →
      n * 1000000000 = max (n * 1000000000 * 9 / 10) 1000000
        + (n * 1000000000 - n * 1000000000 * 9 / 10) ∧
      0 < n * 1000000000 - n * 1000000000 * 9 / 10 ∧
      n * 1000000000 - n * 1000000000 * 9 / 10 ≤ max (n * 1000000000 * 9 / 10) 1000000 := by
    omega
  obtain ⟨period, found, rfl⟩ := Option.map_eq_some_iff.mp given
  unfold Config.pingPeriod? Settings.pingPeriodFor at found
  split at found
  case isFalse => cases found
  case isTrue =>
    obtain rfl := Option.some.inj found
    obtain ⟨pongWait, pos, le⟩ := inNanoseconds config.pongWaitSecs positive
    exact ⟨pongWait, pos, le⟩

/-- After a ping that was due, the next is due a period later, counted from now at the latest. -/
theorem Writer.nextPing_mem (s : Settings) {now due : Duration} (isDue : due ≤ now) :
    due + s.effectivePingPeriod ≤ nextPing s now due ∧
      nextPing s now due ≤ now + s.effectivePingPeriod := by
  unfold nextPing
  split
  · exact ⟨Nat.add_le_add_right isDue _, Nat.le_refl _⟩
  · exact ⟨Nat.le_refl _, Nat.add_le_add_right isDue _⟩

end Parley
