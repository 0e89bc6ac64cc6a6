import Parley.Hub.Connection

/-!
# The roster

A `Roster` lists the connections registered for each user. A user without connections is not on
it.
-/

namespace Parley

/-- Users and their registered connections. -/
structure Roster where
  entries : List (UserId × List ConnectionId)

namespace Roster

/-- The roster without users. -/
def empty : Roster := ⟨[]⟩

/-- The connections registered for a user. -/
def idsOf (r : Roster) (user : UserId) : List ConnectionId :=
  (r.entries.lookup user).getD []

/-- Whether a connection is registered for a user. -/
def contains (r : Roster) (user : UserId) (id : ConnectionId) : Bool :=
  id ∈ r.idsOf user

/-- Adds a connection to the entry of a user. -/
def addTo (user : UserId) (id : ConnectionId) :
    List (UserId × List ConnectionId) → List (UserId × List ConnectionId)
  | [] => [(user, [id])]
  | (u, ids) :: rest =>
    if u = user then (u, id :: ids) :: rest else (u, ids) :: addTo user id rest

/-- Takes a connection out of the entry of a user, and the entry out if it was the last. -/
def removeFrom (user : UserId) (id : ConnectionId) :
    List (UserId × List ConnectionId) → List (UserId × List ConnectionId)
  | [] => []
  | (u, ids) :: rest =>
    if u = user then
      let left := ids.erase id
      if left.isEmpty then rest else (u, left) :: rest
    else (u, ids) :: removeFrom user id rest

/-- Registers a connection, and says whether it was not registered before. -/
def insert (r : Roster) (user : UserId) (id : ConnectionId) : Bool × Roster :=
  if r.contains user id then (false, r) else (true, ⟨addTo user id r.entries⟩)

/-- Takes a connection off the roster, and says whether it was on it. -/
def remove (r : Roster) (user : UserId) (id : ConnectionId) : Bool × Roster :=
  if r.contains user id then (true, ⟨removeFrom user id r.entries⟩) else (false, r)

/-- How many users have connections. -/
def userCount (r : Roster) : Nat := r.entries.length

/-- How many connections are registered. -/
def connectionCount (r : Roster) : Nat :=
  r.entries.foldr (fun entry n => entry.2.length + n) 0

end Roster

end Parley
