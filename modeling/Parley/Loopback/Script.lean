import Parley.Loopback.World

/-!
# Scripted posts

A `Script` surrounds sessions with a hub, and answers their posts from a list that is fixed
beforehand. It keeps what was posted.
-/

namespace Parley.Loopback

/-- A text posted to a conversation. -/
structure Call where
  conversation : ConversationId
  sender : UserId
  content : String
  deriving DecidableEq, Repr

/-- A hub, the posts so far, oldest first, and the answers to come. -/
structure Script where
  hub : Hub := .empty
  calls : List Call := []
  answers : List (Except PostError Unit) := []

namespace Script

/-- The next answer and those after it. The last answer is given again and again, and a post
succeeds where there is none. -/
def nextAnswer : List (Except PostError Unit) →
    Except PostError Unit × List (Except PostError Unit)
  | [] => (.ok (), [])
  | [last] => (last, [last])
  | next :: rest => (next, rest)

/-- A post and its answer. -/
def post (conversation : ConversationId) (sender : UserId) (content : String) (s : Script) :
    Except PostError Unit × Script :=
  let (answer, answers) := nextAnswer s.answers
  (answer, { s with answers, calls := s.calls ++ [⟨conversation, sender, content⟩] })

/-- Changes the hub. -/
def mapHub {α : Type} (f : Hub → α × Hub) (s : Script) : α × Script :=
  let (result, hub) := f s.hub
  (result, { s with hub })

/-- The surroundings in which posts are answered after a delay. -/
def surroundings (delay : Duration) : Surroundings Script where
  hub s := s.hub
  setHub s hub := { s with hub }
  post := post
  delay := delay

end Script

end Parley.Loopback
