import Parley.Loopback.Line

/-!
# Sessions in virtual time

A `World` is the lines that share a state, at some time. `World.settle` lets every side run until
all of them wait. `World.advance` moves the time on, from one timer to the next, and settles at
each.
-/

namespace Parley.Loopback

/-- The lines that share a state, at some time. -/
structure World (σ : Type) where
  now : Duration := 0
  lines : List Line := []
  state : σ

namespace World

variable {σ : Type}

/-- Gives every line its turn with the shared state. -/
def sweep (turn : Line → σ → Line × σ) : List Line → σ → List Line × σ
  | [], state => ([], state)
  | line :: rest, state =>
    let (line, state) := turn line state
    let (rest, state) := sweep turn rest state
    (line :: rest, state)

/-- All readers, then all writers, then the ends of sessions. -/
def round (env : Surroundings σ) (now : Duration) (lines : List Line) (state : σ) :
    List Line × σ :=
  let (lines, state) := sweep (fun line => line.readAll env now) lines state
  let (lines, state) := sweep (fun line => line.writeAll env now) lines state
  sweep (fun line => line.finish env now) lines state

/-- Lets every side run until all of them wait. A writer that fails in the first round ends its
reader in the second, and nothing follows from that. -/
def settleAt (env : Surroundings σ) (now : Duration) (lines : List Line) (state : σ) :
    List Line × σ :=
  let (lines, state) := round env now lines state
  let (lines, state) := round env now lines state
  round env now lines state

/-- Lets every side run until all of them wait. -/
def settle (env : Surroundings σ) (w : World σ) : World σ :=
  let (lines, state) := settleAt env w.now w.lines w.state
  { w with lines, state }

/-- The first timer after `now`, up to `target`. -/
def nextTimer? (lines : List Line) (now target : Duration) : Option Duration :=
  ((lines.flatMap Line.timers).filter fun t => now < t ∧ t ≤ target).min?

/-- Moves the time from `now` to `target`, settling at every timer. -/
def advanceFrom (env : Surroundings σ) (target now : Duration) (lines : List Line) (state : σ) :
    List Line × σ :=
  match nextTimer? lines now target with
  | none => settleAt env target lines state
  | some t =>
    if _h : now < t ∧ t ≤ target then
      let (lines, state) := settleAt env t lines state
      advanceFrom env target t lines state
    else (lines, state)
termination_by target - now
decreasing_by exact Nat.sub_lt_sub_left (Nat.lt_of_lt_of_le _h.1 _h.2) _h.1

/-- Moves the time on. -/
def advance (env : Surroundings σ) (w : World σ) (span : Duration) : World σ :=
  let target := w.now + span
  let (lines, state) := advanceFrom env target w.now w.lines w.state
  { now := target, lines, state }

/-- Changes the line of a number. -/
def modifyLine (w : World σ) (i : Nat) (f : Line → Line) : World σ :=
  { w with lines := w.lines.modify i f }

/-- Something happens on the socket of a line, and every side runs. -/
def onSocket (env : Surroundings σ) (w : World σ) (i : Nat) (f : Socket → Socket) : World σ :=
  (w.modifyLine i fun line => { line with socket := f line.socket }).settle env

/-- Something happens to the shared state, and every side runs. -/
def onState {α : Type} (env : Surroundings σ) (w : World σ) (f : σ → α × σ) : α × World σ :=
  let (result, state) := f w.state
  (result, { w with state }.settle env)

/-- What came out of the sinks since it was last taken, line by line, oldest first. -/
def takeSent (w : World σ) : List (List (Duration × Sent)) × World σ :=
  (w.lines.map fun line => line.socket.sent.reverse,
    { w with lines := w.lines.map fun line =>
      { line with socket := { line.socket with sent := [] } } })

/-- The notices since they were last taken, newest first. -/
def takeLog (env : Surroundings σ) (w : World σ) : List Notice × World σ :=
  let (log, hub) := (env.hub w.state).takeLog
  (log, { w with state := env.setHub w.state hub })

/-- Starts a session on a socket. -/
def connect (env : Surroundings σ) (w : World σ) (user : UserId) (settings : Settings)
    (socket : Socket) : World σ :=
  let (session, hub) := Session.start (env.hub w.state) user settings w.now
  { w with lines := w.lines ++ [{ session, socket }], state := env.setHub w.state hub }

end World

end Parley.Loopback
