import Parley.Session.Basic

/-!
# What the steps of a session do to its sides

Each step of a session as a change of its fields; what it does to the hub besides is left out.
-/

namespace Parley.Session

variable (s : Session) (hub : Hub) (now : Duration)

/-- What a writing does to a session. -/
theorem write_eq (writing : Writing) :
    (s.write hub now writing).1 = { s with
      writer := (s.writer.react s.settings now writing).2
      outbound := (s.writer.react s.settings now writing).1.or s.outbound } := by
  unfold write
  cases s.writer.react s.settings now writing with
  | mk exit writer => cases exit <;> rfl

/-- What a reading does to a session. -/
theorem read_eq (reading : Reading) :
    (s.read hub now reading).2.1 = { s with
      reader := (s.reader.react s.settings now reading).2
      inbound :=
        match (s.reader.react s.settings now reading).1 with
        | .stop exit => some exit
        | _ => s.inbound } := by
  unfold read
  cases s.reader.react s.settings now reading with
  | mk reaction reader => cases reaction <;> rfl

/-- What an answer does to a session. -/
theorem answer_eq (conversation : ConversationId) (result : Except PostError Unit) :
    (s.answer hub conversation result).1 = { s with reader := s.reader.answered } := by
  unfold answer
  split <;> rfl

end Parley.Session
