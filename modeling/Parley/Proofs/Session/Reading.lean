import Parley.Loopback.Socket
import Parley.Proofs.Session.Intake

/-!
# Readings

What a reading comes to depends on three things: whether it ends the reader (`Reading.exit?`),
whether it is a pong, and whether it carries a text (`Reading.content?`). A reader ends with the
exit that belongs to the reading and with no other, a pong moves its deadline and nothing else does,
and a text that is carried is dispatched (`Reader.react_eq`). No text ends a reader.
-/

namespace Parley

open Loopback (Arrival)

/-! ### What readings are -/

namespace Reading

/-- The exit of a reader to which the reading puts an end. -/
def exit? : Reading → Option SessionExit
  | .signal => some .unregistered
  | .expired => some (.failed .timedOut)
  | .ended => some .streamEnded
  | .failed reason => some (.failed (.read reason))
  | .frame (.close _) => some .closedByPeer
  | .frame (.text _) | .frame (.binary _) | .frame (.ping _) | .frame (.pong _) => none

/-- What was taken from the socket. -/
def arrival? : Reading → Option Arrival
  | .frame f => some (.frame f)
  | .failed reason => some (.failed reason)
  | .ended => some .ended
  | .signal | .expired => none

/-- The text that a reading carries. -/
def content? : Reading → Option String
  | .frame f => f.content?
  | _ => none

/-- Whether a reading is a pong. -/
def isPong : Reading → Bool
  | .frame (.pong _) => true
  | _ => false

/-- A reading that carries a text does not end the reader, and is no pong. -/
theorem of_content? {reading : Reading} {text : String} (carries : reading.content? = some text) :
    reading.exit? = none ∧ reading.isPong = false := by
  cases reading with
  | frame f =>
    cases f with
    | text content | binary bytes => exact ⟨rfl, rfl⟩
    | _ => cases carries
  | _ => cases carries

/-- A reading that came from the socket is the reading of what arrived. -/
theorem eq_of_arrival? {reading : Reading} {a : Arrival}
    (arrived : reading.arrival? = some a) : reading = a.reading := by
  cases reading <;> cases arrived <;> rfl

end Reading

/-- The reading of an arrival came from it. -/
@[simp] theorem Loopback.Arrival.arrival?_reading (a : Arrival) : a.reading.arrival? = some a := by
  cases a <;> rfl

/-- Nothing that arrives times a reader out. -/
theorem Loopback.Arrival.exit?_ne_timedOut (a : Arrival) :
    a.reading.exit? ≠ some (.failed .timedOut) := by
  cases a with
  | frame f => cases f <;> simp [reading, Reading.exit?]
  | _ => simp [reading, Reading.exit?]

/-! ### What a reader does with a reading -/

/-- The post that a decision asks for. -/
def Decision.post? (user : UserId) : Decision → Option Post
  | .post conversation content => some ⟨conversation, user, content⟩
  | _ => none

namespace Reaction

/-- The post that a reader asks for. -/
def post? (user : UserId) : Reaction → Option Post
  | .post conversation content => some ⟨conversation, user, content⟩
  | _ => none

/-- The exit of a reader that ends. -/
def exit? : Reaction → Option SessionExit
  | .stop exit => some exit
  | _ => none

/-- A reaction ends the reader exactly if it is to stop. -/
theorem exit?_eq_some_iff {reaction : Reaction} {exit : SessionExit} :
    reaction.exit? = some exit ↔ reaction = .stop exit := by
  cases reaction <;> simp [exit?]

end Reaction

/-- What texts have come to that were dispatched: what is left of the allowance, and what was asked
of the creator. -/
structure Dispatched where
  allowance : Allowance
  posts : List Post := []

/-- Dispatches a text. -/
def Dispatched.add (user : UserId) (d : Dispatched) (x : Incoming) : Dispatched where
  allowance := (Request.decide d.allowance x.time x.text).2
  posts := d.posts ++ ((Request.decide d.allowance x.time x.text).1.post? user).toList

namespace Reader

variable (s : Settings) (now : Duration) (r : Reader)

/-- A text never ends the reader, and is posted as the request decides. -/
theorem receive_fst (text : String) :
    (r.receive now text).1.exit? = none ∧
      ∀ user, (r.receive now text).1.post? user =
        (Request.decide r.allowance now text).1.post? user := by
  unfold receive
  cases Request.decide r.allowance now text with
  | mk decision allowance => cases decision <;> exact ⟨rfl, fun _ => rfl⟩

/-- A text leaves the deadline as it is, and the allowance as the request does. -/
theorem receive_snd (text : String) :
    (r.receive now text).2.deadline = r.deadline ∧
      (r.receive now text).2.allowance = (Request.decide r.allowance now text).2 := by
  unfold receive
  cases Request.decide r.allowance now text with
  | mk decision allowance => cases decision <;> exact ⟨rfl, rfl⟩

/-- A reader awaits an answer as soon as it asks for a post. -/
theorem awaiting_receive (text : String) (user : UserId) :
    (r.receive now text).2.awaiting =
      (r.awaiting || ((r.receive now text).1.post? user).isSome) := by
  unfold receive
  cases Request.decide r.allowance now text with
  | mk decision allowance =>
    cases decision with
    | post conversation content => exact (Bool.or_true _).symm
    | _ => exact (Bool.or_false _).symm

/-- A reader receives the text that a reading carries; otherwise it ends or goes on, and a pong
moves the deadline. -/
theorem react_eq (reading : Reading) :
    r.react s now reading =
      match reading.content? with
      | some text => r.receive now text
      | none => (reading.exit?.elim .proceed .stop,
          { r with deadline := if reading.isPong then now + s.pongWait else r.deadline }) := by
  cases reading with
  | frame f =>
    cases f with
    | binary bytes =>
      unfold react Reading.content? Frame.content?
      cases Utf8.decode? bytes <;> rfl
    | _ => rfl
  | _ => rfl

/-- Whether a reader ends depends on the reading alone. -/
theorem exit?_react (reading : Reading) : (r.react s now reading).1.exit? = reading.exit? := by
  rw [react_eq]
  cases carries : reading.content? with
  | some text => exact (r.receive_fst now text).1.trans (Reading.of_content? carries).1.symm
  | none => cases reading.exit? <;> rfl

/-- Only a pong moves the deadline. -/
theorem deadline_react (reading : Reading) :
    (r.react s now reading).2.deadline =
      if reading.isPong then now + s.pongWait else r.deadline := by
  rw [react_eq]
  cases carries : reading.content? with
  | some text =>
    rw [(Reading.of_content? carries).2]
    exact (r.receive_snd now text).1
  | none => rfl

/-- A reader awaits an answer to what it has posted. -/
theorem awaiting_react (reading : Reading) (user : UserId) :
    (r.react s now reading).2.awaiting =
      (r.awaiting || ((r.react s now reading).1.post? user).isSome) := by
  rw [react_eq]
  cases reading.content? with
  | some text => exact r.awaiting_receive now text user
  | none => cases reading.exit? <;> exact (Bool.or_false _).symm

/-- The text that a reading carries is dispatched, and nothing else is. -/
theorem dispatched_react (reading : Reading) (user : UserId) (posts : List Post) :
    (⟨(r.react s now reading).2.allowance,
        posts ++ ((r.react s now reading).1.post? user).toList⟩ : Dispatched) =
      (reading.content?.map fun text => (⟨now, text⟩ : Incoming)).toList.foldl
        (Dispatched.add user) ⟨r.allowance, posts⟩ := by
  rw [react_eq]
  cases reading.content? with
  | some text =>
    change _ = Dispatched.add user ⟨r.allowance, posts⟩ ⟨now, text⟩
    rw [(r.receive_snd now text).2, (r.receive_fst now text).2 user]
    rfl
  | none =>
    have nothing : ((reading.exit?.elim Reaction.proceed .stop).post? user) = none := by
      cases reading.exit? <;> rfl
    rw [nothing, Option.toList_none, List.append_nil]
    rfl

end Reader

/-- A reading that ends the reader takes the connection off the roster. -/
theorem Session.read_eq_exit? (s : Session) (hub : Hub) (now : Duration) (reading : Reading) :
    s.read hub now reading =
      let (reaction, reader) := s.reader.react s.settings now reading
      (reaction, { s with reader, inbound := reading.exit?.or s.inbound },
        if reading.exit?.isSome then hub.unregister s.connection else hub) := by
  rw [← s.reader.exit?_react s.settings now reading]
  unfold read
  cases s.reader.react s.settings now reading with
  | mk reaction reader => cases reaction <;> rfl

end Parley
