import Parley.Hub.Envelope
import Parley.Proofs.Json.Canonical

/-!
# The wire form of envelopes

What is sent of an envelope is read back as an object with two members: the type, and the message in
its canonical form (`Envelope.payload_round_trip`). So what is sent tells the message, and depends
on nothing else. The object adds one level to the message, and that is where the reader, which
bounds how deep a value nests, begins to refuse it.
-/

namespace Parley

namespace Json

/-- A value whose numbers are whole is read back from its compact text unless it nests too deep. -/
theorem parse?_compact_eq {value : Json} (whole : value.isWhole = true) :
    parse? value.compact = if value.toNode.depth ≤ depthLimit then some value else none := by
  split_ifs with shallow
  · exact parse?_compact whole shallow
  · rw [parse?, compact, String.toList_ofList, Node.ofChars?_render]
    exact if_neg shallow

/-- Values whose numbers are whole are the same if their compact texts are, however deep they
nest. -/
theorem compact_inj {v w : Json} (whole : v.isWhole = true) (whole' : w.isWhole = true) :
    v.compact = w.compact ↔ v = w := by
  refine ⟨fun same => ?_, congrArg compact⟩
  have text : v.render = w.render := by
    rw [← String.toList_ofList (l := v.render), ← String.toList_ofList (l := w.render)]
    exact congrArg String.toList same
  have tree : v.toNode = w.toNode := by
    rw [← Option.some_inj, ← Node.ofChars?_render, text, Node.ofChars?_render]
  rw [← Option.some_inj, ← ofNode?_toNode whole, tree, ofNode?_toNode whole']

end Json

namespace Envelope

/-- What is sent of a whole message is whole. -/
theorem isWhole_wire {e : Envelope} (whole : e.message.isWhole = true) :
    e.wire.isWhole = true := by
  rw [wire, Json.isWhole, Json.haveWhole_iff]
  simpa [Json.isWhole] using whole

/-- What is sent nests one level deeper than the message. -/
theorem depth_wire (e : Envelope) : e.wire.toNode.depth = e.message.toNode.depth + 1 := by
  simp [wire, Json.toNode, Json.toMembers, Node.depth, Node.depthMembers]

/-- What is sent tells the message and nothing else. -/
theorem payload_inj {e f : Envelope} (whole : e.message.isWhole = true)
    (whole' : f.message.isWhole = true) : e.payload = f.payload ↔ e.message = f.message := by
  rw [payload, payload, Json.compact_inj (isWhole_wire whole) (isWhole_wire whole'), wire, wire]
  simp

/-- **The round trip of an envelope.** Every value whose numbers are integers of 64 bits is put into
an envelope in its canonical form, which is sorted and is the value itself if that is sorted. What
is sent is read back as the object whose members are the type and that message, exactly if the
object is no deeper than what a reader takes. And two envelopes, of whatever conversations, send the
same exactly if their messages are the same, however deep these are. -/
theorem payload_round_trip (conversation other : ConversationId) {v w : Json}
    (whole : v.isWhole = true) (whole' : w.isWhole = true) :
    let e := newMessage conversation v
    (e.conversation = conversation ∧ e.message = v.canonical ∧ v.canonical.Sorted ∧
      (v.Sorted → v.canonical = v)) ∧
    Json.parse? e.payload =
      (if v.canonical.toNode.depth + 1 ≤ Json.depthLimit then
        some (.object [("type", .text "new_message"), ("message", v.canonical)])
      else none) ∧
    (e.payload = (newMessage other w).payload ↔ v.canonical = w.canonical) := by
  intro e
  have message : e.message.isWhole = true := Json.isWhole_canonical whole
  refine ⟨⟨rfl, rfl, v.sorted_canonical, Json.Sorted.canonical_eq⟩, ?_, ?_⟩
  · rw [payload, Json.parse?_compact_eq (isWhole_wire message), depth_wire]
    rfl
  · exact payload_inj message (Json.isWhole_canonical whole')

/-- Members out of order and a key that is written twice are put right before anything is sent; the
integers are the least and the greatest there are, and the text needs every kind of escape. -/
theorem payload_round_trip_disordered :
    let bounds : Json :=
      .array [.integer (-9223372036854775808), .integer 18446744073709551615]
    let v : Json := .object [("b", bounds), ("a", .null), ("a", .text "\"\\\n\x01é")]
    let w : Json := .object [("a", .text "\"\\\n\x01é"), ("b", bounds)]
    v.isWhole = true ∧ w.isWhole = true ∧
      Json.parse? (newMessage ⟨1⟩ v).payload =
        some (.object [("type", .text "new_message"), ("message", w)]) ∧
      (newMessage ⟨1⟩ v).payload = (newMessage ⟨2⟩ w).payload := by
  intro bounds v w
  have whole : v.isWhole = true := by decide
  have whole' : w.isWhole = true := by decide
  have ordered : v.canonical = w := rfl
  have unchanged : w.canonical = w := rfl
  obtain ⟨-, read, same⟩ := payload_round_trip ⟨1⟩ ⟨2⟩ whole whole'
  rw [ordered, unchanged] at same
  rw [ordered] at read
  exact ⟨whole, whole', read, same.mpr rfl⟩

end Envelope

end Parley
