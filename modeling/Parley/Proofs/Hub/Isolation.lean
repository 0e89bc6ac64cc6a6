import Parley.Proofs.Hub.Standing

/-!
# Connections do not disturb one another

What happens to a connection is decided by its own life: the events that name it, and the
envelopes fanned out to its user. `isolation` compares two runs in which a connection has the same
life, under whatever id, and which may differ in everything else. The other connections may be
more or fewer, full or closed, registered or not, and of the same user; at the end of both runs the
connection is the same, it has handed out the same envelopes, and it is registered in both or in
neither.
-/

namespace Parley

namespace Hub

/-- The connection, as part of how it stands. -/
theorem connection?_eq_standing? (hub : Hub) (c : ConnectionId) :
    hub.connection? c = (hub.standing? c).map Standing.connection := by
  rw [standing?, Option.map_map]
  exact Option.map_id_apply.symm

/-- What is registered, as part of how connections stand. -/
theorem isRegistered_eq_standing? (hub : Hub) (c : ConnectionId) :
    hub.isRegistered c = (hub.standing? c).elim false Standing.registered := by
  unfold standing?
  cases hconn : hub.connection? c with
  | none => simp [isRegistered, hconn]
  | some conn => rfl

end Hub

/-- **Isolation.** Two runs in which a connection has the same life leave the same connection, with
the same queue, phase and count of drops; they have handed out the same envelopes; and the
connection is registered after both or after neither. -/
theorem isolation (c₁ c₂ : ConnectionId) (run₁ run₂ : List HubEvent)
    (same : life? c₁ run₁ = life? c₂ run₂) :
    (Hub.empty.run run₁).connection? c₁ = (Hub.empty.run run₂).connection? c₂ ∧
      Hub.empty.received c₁ run₁ = Hub.empty.received c₂ run₂ ∧
      (Hub.empty.run run₁).isRegistered c₁ = (Hub.empty.run run₂).isRegistered c₂ := by
  have standing : (Hub.empty.run run₁).standing? c₁ = (Hub.empty.run run₂).standing? c₂ := by
    rw [Hub.standing?_run, Hub.standing?_run, same]
  refine ⟨?_, ?_, ?_⟩
  · rw [Hub.connection?_eq_standing?, Hub.connection?_eq_standing?, standing]
  · rw [Hub.received_run, Hub.received_run, same]
  · rw [Hub.isRegistered_eq_standing?, Hub.isRegistered_eq_standing?, standing]

namespace Isolation

/-- One of two users. -/
def ada : UserId := ⟨1⟩

/-- The other user. -/
def bob : UserId := ⟨2⟩

/-- One of two envelopes of a conversation. -/
def first : Envelope := .newMessage ⟨7⟩ (.text "first")

/-- The other envelope. -/
def second : Envelope := .newMessage ⟨7⟩ (.text "second")

/-- A connection of Ada that has the hub to itself. -/
def alone : List HubEvent :=
  [.openFor ada 2, .handle 0 .register, .fanOut [ada] first, .handle 0 .receive,
    .fanOut [ada] second, .enqueue 0 first, .fanOut [ada] second]

/-- The same with two more connections: one of Ada that is full from the first envelope on and is
dropped later, and one of Bob, who takes part as well and closes. -/
def crowded : List HubEvent :=
  [.openFor ada 1, .openFor bob 1, .handle 0 .register, .openFor ada 2, .handle 1 .register,
    .handle 2 .register, .fanOut [bob, ada, bob] first, .handle 1 .close, .handle 2 .receive,
    .fanOut [ada, bob] second, .handle 0 .release, .enqueue 2 first, .enqueue 0 first,
    .fanOut [bob] first, .fanOut [ada, ada] second, .handle 1 .unregister]

end Isolation

/-- The connection that stands alone has the same life among full, closed and dropped ones, and so
ends the same. -/
theorem isolation_in_a_crowd :
    life? 0 Isolation.alone = life? 2 Isolation.crowded ∧
      (Hub.empty.run Isolation.alone).connection? 0 =
        (Hub.empty.run Isolation.crowded).connection? 2 ∧
      Hub.empty.received 0 Isolation.alone = Hub.empty.received 2 Isolation.crowded ∧
      (Hub.empty.run Isolation.alone).isRegistered 0 =
        (Hub.empty.run Isolation.crowded).isRegistered 2 :=
  ⟨rfl, isolation 0 2 Isolation.alone Isolation.crowded rfl⟩

end Parley
