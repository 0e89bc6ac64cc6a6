import Parley.Loopback.Socket

/-!
# Lines

A `Line` is a session with its socket. `Line.readStep` and `Line.writeStep` let one of its sides
take its next step if it has one to take, and are `none` where it has to wait; `Line.timers` are
the times at which waiting ends by itself.
-/

namespace Parley.Loopback

/-- What surrounds the sessions: a state with a hub in it, and how a post is stored there. -/
structure Surroundings (σ : Type) where
  hub : σ → Hub
  setHub : σ → Hub → σ
  post : ConversationId → UserId → String → σ → Except PostError Unit × σ
  /-- How long a post takes. -/
  delay : Duration := 0

/-- An answer to a post that is on its way. -/
structure Answer where
  due : Duration
  conversation : ConversationId
  result : Except PostError Unit

/-- A session with its socket. -/
structure Line where
  session : Session
  socket : Socket := {}
  /-- Whether the reader has been started. -/
  reads : Bool := true
  /-- Whether the writer has been started. -/
  writes : Bool := true
  answer : Option Answer := none
  /-- When the reader ended. -/
  inboundAt : Option Duration := none
  /-- When the writer ended. -/
  outboundAt : Option Duration := none
  /-- When the session was over. -/
  overAt : Option Duration := none

namespace Line

variable {σ : Type}

/-! ### Reading -/

/-- What the reader finds, if it finds anything. -/
def reading? (line : Line) (hub : Hub) (now : Duration) : Option (Reading × Socket) :=
  if line.session.isSignalled hub then some (.signal, line.socket)
  else
    match line.socket.next? now with
    | some (arrival, socket) => some (arrival.reading, socket)
    | none =>
      if line.session.reader.deadline ≤ now then some (.expired, line.socket) else none

/-- The reader gets the answer to its post. -/
def takeAnswer (env : Surroundings σ) (line : Line) (answer : Answer) (state : σ) : Line × σ :=
  let (session, hub) := line.session.answer (env.hub state) answer.conversation answer.result
  ({ line with session, answer := none }, env.setHub state hub)

/-- The reader acts on what it found. -/
def take (env : Surroundings σ) (now : Duration) (line : Line) (reading : Reading)
    (state : σ) : Line × σ :=
  let (reaction, session, hub) := line.session.read (env.hub state) now reading
  let state := env.setHub state hub
  let line := { line with session }
  match reaction with
  | .proceed => (line, state)
  | .stop _ => ({ line with inboundAt := some now }, state)
  | .post conversation content =>
    let (result, state) := env.post conversation session.user content state
    ({ line with answer := some { due := now + env.delay, conversation, result } }, state)

/-- The next step of the reader, if it need not wait. -/
def readStep (env : Surroundings σ) (now : Duration) (line : Line) (state : σ) :
    Option (Line × σ) :=
  if !line.reads || line.session.inbound.isSome then none
  else
    match line.answer with
    | some answer => if answer.due ≤ now then some (line.takeAnswer env answer state) else none
    | none =>
      (line.reading? (env.hub state) now).map fun (reading, socket) =>
        take env now { line with socket } reading state

/-! ### Writing -/

/-- What a write that is under way has come to, if it has come to anything. -/
def writeOutcome? (line : Line) (now : Duration) (frame : Frame) (began : Duration) :
    Option Writing × Socket :=
  match line.socket.write now frame with
  | (.done, socket) => (some .written, socket)
  | (.refused reason, socket) => (some (.refused reason), socket)
  | (.pending, socket) =>
    (if began + line.session.settings.writeWait ≤ now then some .overdue else none, socket)

/-- The writer acts on what happened. -/
def apply (line : Line) (now : Duration) (hub : Hub) (writing : Writing) : Line × Hub :=
  let (session, hub) := line.session.write hub now writing
  ({ line with
      session, outboundAt := if session.outbound.isSome then some now else line.outboundAt }, hub)

/-- The next step of the writer, if it need not wait. A frame that the sink has taken is gone from
the line even where its write is not finished. -/
def writeStep (env : Surroundings σ) (now : Duration) (line : Line) (state : σ) :
    Line × Option (Line × σ) :=
  if !line.writes || line.session.outbound.isSome then (line, none)
  else
    let hub := env.hub state
    match line.session.writer.writing with
    | some (frame, began) =>
      let (outcome, socket) := line.writeOutcome? now frame began
      let line := { line with socket }
      (line, outcome.map fun writing =>
        let (line, hub) := line.apply now hub writing
        (line, env.setHub state hub))
    | none =>
      (line, (line.session.turn? hub now).map fun (writing, hub) =>
        let (line, hub) := line.apply now hub writing
        (line, env.setHub state hub))

/-- Starts the writer. -/
def startWriter (line : Line) (now : Duration) : Line :=
  { line with
    writes := true
    session := { line.session with writer := .start line.session.settings now } }

/-! ### Running -/

/-- Lets the reader take up to `steps` steps. -/
def runReader (env : Surroundings σ) (now : Duration) : (steps : Nat) → Line → σ → Line × σ
  | 0, line, state => (line, state)
  | steps + 1, line, state =>
    match line.readStep env now state with
    | none => (line, state)
    | some (line, state) => runReader env now steps line state

/-- Lets the writer take up to `steps` steps. -/
def runWriter (env : Surroundings σ) (now : Duration) : (steps : Nat) → Line → σ → Line × σ
  | 0, line, state => (line, state)
  | steps + 1, line, state =>
    match line.writeStep env now state with
    | (line, none) => (line, state)
    | (_, some (line, state)) => runWriter env now steps line state

/-- Lets the reader read until it waits: two steps for each arrival, an answer that has come, and
an end. -/
def readAll (env : Surroundings σ) (now : Duration) (line : Line) (state : σ) : Line × σ :=
  line.runReader env now (2 * line.socket.inbox.length + 3) state

/-- Lets the writer write until it waits: two steps for each envelope, for a ping and for the
closing frame, one for the signal, and the end of a write under way. -/
def writeAll (env : Surroundings σ) (now : Duration) (line : Line) (state : σ) : Line × σ :=
  let waiting := ((env.hub state).connection? line.session.connection).elim 0
    (·.mailbox.queue.length)
  line.runWriter env now (2 * waiting + 7) state

/-- Ends the session if both sides have ended; the end of a WebSocket is seen by the peer. -/
def finish (env : Surroundings σ) (now : Duration) (line : Line) (state : σ) : Line × σ :=
  if line.session.isOver then (line, state)
  else
    let (session, hub) := line.session.finish (env.hub state)
    if session.isOver then
      let socket :=
        if line.socket.isFramed then line.socket.emit now .endOfStream else line.socket
      ({ line with session, socket, overAt := some now }, env.setHub state hub)
    else (line, state)

/-- The times at which waiting ends by itself. -/
def timers (line : Line) : List Duration :=
  let reader :=
    if !line.reads || line.session.inbound.isSome then []
    else
      match line.answer with
      | some answer => [answer.due]
      | none => [line.session.reader.deadline]
  let writer :=
    if !line.writes || line.session.outbound.isSome then []
    else
      match line.session.writer.writing with
      | some (_, began) => [began + line.session.settings.writeWait]
      | none => [line.session.writer.pingDue]
  reader ++ writer

end Line

end Parley.Loopback
