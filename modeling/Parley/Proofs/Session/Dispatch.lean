import Parley.Loopback.Line
import Parley.Proofs.Json.Accepted
import Parley.Proofs.Json.Fields
import Parley.Proofs.Session.RateLimit
import Parley.Proofs.Uuid

/-!
# Which texts are posted

`Request.Sends` says which texts ask for a content to be posted: they are JSON, and their tree is a
record with the type that is acted on, an id in any spelling and a content that is not empty. These
texts, as long as the allowance admits them, are handed to the creator of messages, each once
and unchanged, in the name of the user of the session; and no other text is (`dispatch_exact`).
-/

namespace Parley

namespace Request

/-- The fields of a request in their declared order. -/
def fieldNames : List String :=
  ["type", "conversation_id", "content"]

/-- The tree states the request: it is a record of the fields of requests, with a text in each, and
the conversation and the content are empty where they are left out. -/
structure Stated (r : Request) (node : Node) : Prop where
  record : node.IsRecord fieldNames
  type : node.HasField fieldNames "type" (.text (.ok r.type))
  conversation :
    node.HasField fieldNames "conversation_id" (.text (.ok r.conversation)) ∨
      (∀ value, ¬node.HasField fieldNames "conversation_id" value) ∧ "" = r.conversation
  content :
    node.HasField fieldNames "content" (.text (.ok r.content)) ∨
      (∀ value, ¬node.HasField fieldNames "content" value) ∧ "" = r.content

/-- The text asks for a content to be posted in a conversation. -/
def Sends (text : String) (conversation : ConversationId) (content : String) : Prop :=
  ∃ (node : Node) (r : Request), Json.StandsFor text.toList (.element node) ∧ r.Stated node ∧
    r.type = sendMessage ∧ conversation.Spells r.conversation.toList ∧ r.content = content ∧
      content ≠ ""

variable {r : Request} {node : Node} {text content : String} {conversation : ConversationId}

/-! ### The fields of a request -/

/-- The fields of a request have different names. -/
theorem nodup_fieldNames : fieldNames.Nodup := by
  decide

section Fields

variable {found : List (String × Node)} (collected : node.fields? fieldNames = some found)

include collected

/-- A text is required of a field that holds that text. -/
theorem require?_text_iff {name : String} (listed : name ∈ fieldNames) :
    Fields.require? found name Node.text? = some text ↔
      node.HasField fieldNames name (.text (.ok text)) := by
  rw [Node.require?_fields?_eq_some_iff nodup_fieldNames collected listed]
  simp only [Node.text?_eq_some_iff, exists_eq_right]

/-- A text with the empty one for default is that of its field, or empty without such a field. -/
theorem withDefault?_text_iff {name : String} (listed : name ∈ fieldNames) :
    Fields.withDefault? found name Node.text? "" = some text ↔
      node.HasField fieldNames name (.text (.ok text)) ∨
        (∀ value, ¬node.HasField fieldNames name value) ∧ "" = text := by
  rw [Node.withDefault?_fields?_eq_some_iff nodup_fieldNames collected listed]
  simp only [Node.text?_eq_some_iff, exists_eq_right]

end Fields

/-- The trees read as a request are those that state it. -/
theorem ofNode?_eq_some_iff : ofNode? node = some r ↔ r.Stated node := by
  constructor
  · intro read
    unfold ofNode? at read
    obtain ⟨found, collected, read⟩ := Option.bind_eq_some_iff.mp read
    obtain ⟨type, htype, read⟩ := Option.bind_eq_some_iff.mp read
    obtain ⟨conversation, hconversation, read⟩ := Option.bind_eq_some_iff.mp read
    obtain ⟨content, hcontent, read⟩ := Option.bind_eq_some_iff.mp read
    obtain rfl := Option.some.inj read
    constructor
    case record => exact Node.exists_fields?_iff.mp ⟨found, collected⟩
    case type => exact (require?_text_iff collected (by decide)).mp htype
    case conversation => exact (withDefault?_text_iff collected (by decide)).mp hconversation
    case content => exact (withDefault?_text_iff collected (by decide)).mp hcontent
  · intro stated
    obtain ⟨found, collected⟩ := Node.exists_fields?_iff.mpr stated.record
    have names : fieldNames = ["type", "conversation_id", "content"] := rfl
    unfold ofNode?
    rw [← names, collected, Option.bind_eq_bind, Option.bind_some,
      (require?_text_iff collected (by decide)).mpr stated.type,
      (withDefault?_text_iff collected (by decide)).mpr stated.conversation,
      (withDefault?_text_iff collected (by decide)).mpr stated.content]
    rfl

/-! ### What is decided -/

/-- A request posts to the conversation that it spells, unless its content is empty. -/
theorem target_eq_post_iff :
    r.target = .post conversation content ↔
      conversation.Spells r.conversation.toList ∧ r.content = content ∧ content ≠ "" := by
  rw [← Uuid.parse?_eq_some_iff]
  unfold target
  cases Uuid.parse? r.conversation with
  | none => simp
  | some id =>
    have isEmpty : r.content.isEmpty ↔ r.content = "" := String.isEmpty_iff
    dsimp only
    split_ifs with empty
    · constructor
      · intro invalid
        cases invalid
      · rintro ⟨-, rfl, some_content⟩
        exact absurd (isEmpty.mp empty) some_content
    · constructor
      · intro same
        obtain ⟨rfl, rfl⟩ := Decision.post.inj same
        exact ⟨rfl, rfl, fun nothing => empty (isEmpty.mpr nothing)⟩
      · rintro ⟨same, rfl, -⟩
        rw [Option.some.inj same]

/-- A content is to be posted exactly if the text asks for it and is within the allowance. -/
theorem judge_eq_post_iff {admitted : Bool} :
    judge admitted text = .post conversation content ↔
      admitted = true ∧ Sends text conversation content := by
  unfold judge
  cases said : parse? text with
  | none =>
    constructor
    · intro post
      cases post
    · rintro ⟨-, node, r, tree, stated, -⟩
      rw [parse?, Node.ofChars?_eq_some_iff.mpr tree, Option.bind_some,
        ofNode?_eq_some_iff.mpr stated] at said
      cases said
  | some r =>
    obtain ⟨node, tree, read⟩ := Option.bind_eq_some_iff.mp said
    have sends : Sends text conversation content ↔
        r.type = sendMessage ∧ r.target = .post conversation content := by
      rw [target_eq_post_iff]
      constructor
      · rintro ⟨other, r', tree', stated, asked⟩
        obtain rfl := Option.some.inj ((Node.ofChars?_eq_some_iff.mpr tree').symm.trans tree)
        obtain rfl := Option.some.inj ((ofNode?_eq_some_iff.mpr stated).symm.trans read)
        exact asked
      · intro asked
        exact ⟨node, r, Node.ofChars?_eq_some_iff.mp tree, ofNode?_eq_some_iff.mp read, asked⟩
    rw [sends]
    dsimp only
    by_cases send : r.type = sendMessage
    · cases admitted <;> simp [send]
    · simp [send]

/-! ### Requests that are written -/

/-- The members of a request to post a content. -/
def sending (conversation : ConversationId) (content : String) : List (String × Json) :=
  [("type", .text sendMessage), ("conversation_id", conversation.toJson),
    ("content", .text content)]

/-- A request to post a content is stated by what is written for it, in whichever order its members
stand. -/
theorem stated_toNode {members : List (String × Json)}
    (order : members.Perm (sending conversation content)) :
    Stated ⟨sendMessage, conversation.text, content⟩ (Json.object members).toNode := by
  have keys : (members.map Prod.fst).Perm fieldNames := order.map Prod.fst
  have has {name : String} {value : Json} (inside : (name, value) ∈ sending conversation content) :
      (Json.object members).toNode.HasField fieldNames name value.toNode := by
    rw [Node.toNode_object, Node.hasField_ofMembers]
    exact List.mem_map.mpr ⟨(name, value), order.mem_iff.mpr inside, rfl⟩
  constructor
  case record =>
    rw [Node.toNode_object, Node.isRecord_ofMembers]
    intro name _
    rw [List.map_map]
    exact List.nodup_iff_count_le_one.mp (keys.nodup_iff.mpr nodup_fieldNames) name
  case type => exact has (.head _)
  case conversation => exact .inl (has (.tail _ (.head _)))
  case content => exact .inl (has (.tail _ (.tail _ (.head _))))

/-- What is written asks for the content to be posted. -/
theorem sends_compact {members : List (String × Json)}
    (order : members.Perm (sending conversation content)) (some_content : content ≠ "") :
    Sends (Json.object members).compact conversation content := by
  refine ⟨_, _, ?_, stated_toNode order, rfl, ?_, rfl, some_content⟩
  · rw [← Node.ofChars?_eq_some_iff, Json.compact, String.toList_ofList, Node.ofChars?_render]
  · exact Uuid.parse?_eq_some_iff.mp conversation.parse?_text

end Request

/-! ### What is handed on -/

/-- The creator is asked to store what is to be posted, in the name of the user. -/
theorem Decision.asked_eq_some_iff {creator : Creator} {user : UserId} {posts : List Post}
    {x : Incoming} {d : Decision} {post : Post} :
    (d.verdict creator user posts x).asked = some post ↔
      post.sender = user ∧ d = .post post.conversation post.content := by
  obtain ⟨conversation, sender, content⟩ := post
  cases d with
  | post id text =>
    simp only [verdict, Option.some.injEq, Post.mk.injEq, Decision.post.injEq]
    tauto
  | _ => simp [verdict]

/-- A text counts as created exactly if the creator was asked and has stored it. -/
theorem Decision.outcome_eq_created_iff {creator : Creator} {user : UserId} {posts : List Post}
    {x : Incoming} {d : Decision} :
    (d.verdict creator user posts x).outcome = .created ↔
      ∃ post, (d.verdict creator user posts x).asked = some post ∧ creator posts post = .ok () := by
  cases d with
  | post conversation content =>
    cases answer : creator posts ⟨conversation, user, content⟩ <;>
      simp [verdict, answer, Outcome.ofAnswer]
  | _ => simp [verdict]

/-- A line that takes a text posts what is to be posted, once, and leaves the hub alone. -/
theorem Loopback.Line.take_text {σ : Type} (env : Surroundings σ) (line : Line) (now : Duration)
    (text : String) (state : σ) :
    (line.take env now (.frame (.text text)) state).2 =
      match (Request.decide line.session.reader.allowance now text).1 with
      | .post conversation content =>
        (env.post conversation line.session.user content (env.setHub state (env.hub state))).2
      | _ => env.setHub state (env.hub state) := by
  unfold take Session.read Reader.react Frame.content? Reader.receive
  dsimp only
  cases Request.decide line.session.reader.allowance now text with
  | mk decision allowance => cases decision <;> rfl

/-- **Which texts are posted.** A session in any state takes a text, in front of any creator.

* The creator is asked at most once.
* It is asked to store a post exactly if the allowance grants it, its sender is the user of the
  session and the text asks for its content to be posted in its conversation.
* The outcome is `created` exactly if the creator was asked and has stored the post.
* Every request that is written for a conversation and a content that is not empty, with its members
  in any order, is such a text: when it is granted, the creator is asked for just these.
* On a line, whatever surrounds it, what was asked is posted there, once, and nothing else is
  done. -/
theorem dispatch_exact (creator : Creator) (i : Intake) (x : Incoming) :
    let granted := (i.session.reader.allowance.attempt x.time).1
    let v := i.verdict creator x
    (i.take creator x).posts = i.posts ++ v.asked.toList ∧
    (∀ post, v.asked = some post ↔
      granted = true ∧ post.sender = i.session.user ∧
        Request.Sends x.text post.conversation post.content) ∧
    (v.outcome = .created ↔ ∃ post, v.asked = some post ∧ creator i.posts post = .ok ()) ∧
    (∀ (conversation : ConversationId) (content : String) (members : List (String × Json)),
      members.Perm (Request.sending conversation content) → content ≠ "" → granted = true →
        (i.verdict creator { x with text := (Json.object members).compact }).asked =
          some ⟨conversation, i.session.user, content⟩) ∧
    ∀ {σ : Type} (env : Loopback.Surroundings σ) (line : Loopback.Line) (state : σ),
      let line := { line with session := i.session }
      let idle := env.setHub state (env.hub state)
      (line.take env x.time (.frame (.text x.text)) state).2 =
        match v.asked with
        | some post => (env.post post.conversation post.sender post.content idle).2
        | none => idle := by
  intro granted v
  have asked_iff (text : String) (post : Post) :
      (i.verdict creator { x with text }).asked = some post ↔
        granted = true ∧ post.sender = i.session.user ∧
          Request.Sends text post.conversation post.content := by
    rw [Intake.verdict, Decision.asked_eq_some_iff, Request.decide_eq, Request.judge_eq_post_iff]
    tauto
  refine ⟨(Intake.take_eq creator i x).2.2, asked_iff x.text, Decision.outcome_eq_created_iff,
    ?_, ?_⟩
  · intro conversation content members order some_content grant
    rw [asked_iff]
    exact ⟨grant, rfl, Request.sends_compact order some_content⟩
  · intro σ env line state
    dsimp only
    rw [Loopback.Line.take_text]
    dsimp only [v, Intake.verdict]
    cases (Request.decide i.session.reader.allowance x.time x.text).1 <;> rfl

/-- With one text admitted, a request whose members stand in reverse is posted in the name of the
user of the session, blanks and all. -/
theorem dispatch_exact_reversed :
    let members := (Request.sending ⟨10⟩ " hi\n").reverse
    let i := Intake.start .empty ⟨1⟩ { rateLimitCount := 1 } 0
    (i.session.reader.allowance.attempt 5).1 = true ∧
      (i.verdict (fun _ _ => .ok ()) ⟨5, (Json.object members).compact⟩).asked =
        some ⟨⟨10⟩, ⟨1⟩, " hi\n"⟩ := by
  intro members i
  have granted : (i.session.reader.allowance.attempt 5).1 = true := by decide
  refine ⟨granted, ?_⟩
  exact (dispatch_exact _ i ⟨5, ""⟩).2.2.2.1 ⟨10⟩ " hi\n" members (List.reverse_perm _) (by decide)
    granted

end Parley
