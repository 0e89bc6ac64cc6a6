import Mathlib.Data.List.Nodup
import Parley.Hub.Roster

/-!
# Laws of the roster

A roster is read through `Roster.idsOf`, the connections registered for a user. `Roster.Tidy` says
that every user stands on it once, with at least one connection and none of them twice; both
`Roster.insert` and `Roster.remove` keep it so. What they do is said once, by `mem_idsOf_insert`
and `mem_idsOf_remove`, and what they count by `connectionCount_insert` and
`connectionCount_remove`.
-/

namespace Parley.Roster

/-- A roster that lists every user once, with at least one connection and none of them twice. -/
structure Tidy (r : Roster) : Prop where
  users : (r.entries.map Prod.fst).Nodup
  occupied : ∀ entry ∈ r.entries, entry.2 ≠ []
  once : ∀ entry ∈ r.entries, entry.2.Nodup

/-- The empty roster is tidy. -/
theorem tidy_empty : Tidy empty :=
  ⟨List.nodup_nil, fun _ h => absurd h List.not_mem_nil, fun _ h => absurd h List.not_mem_nil⟩

/-- Tidiness, one entry at a time. -/
theorem tidy_cons {user : UserId} {ids : List ConnectionId}
    {rest : List (UserId × List ConnectionId)} :
    Tidy ⟨(user, ids) :: rest⟩ ↔
      user ∉ rest.map Prod.fst ∧ ids ≠ [] ∧ ids.Nodup ∧ Tidy ⟨rest⟩ := by
  constructor
  · rintro ⟨users, occupied, once⟩
    rw [List.map_cons, List.nodup_cons] at users
    exact ⟨users.1, occupied _ List.mem_cons_self, once _ List.mem_cons_self,
      users.2, fun e he => occupied e (List.mem_cons_of_mem _ he),
      fun e he => once e (List.mem_cons_of_mem _ he)⟩
  · rintro ⟨fresh, nonempty, nodup, tidy⟩
    refine ⟨?_, ?_, ?_⟩
    · rw [List.map_cons, List.nodup_cons]
      exact ⟨fresh, tidy.users⟩
    · exact List.forall_mem_cons.mpr ⟨nonempty, tidy.occupied⟩
    · exact List.forall_mem_cons.mpr ⟨nodup, tidy.once⟩

/-! ### Reading entries -/

/-- The connections of a user, when the first entry is another user's or this one's. -/
theorem idsOf_cons (user u : UserId) (ids : List ConnectionId)
    (rest : List (UserId × List ConnectionId)) :
    idsOf ⟨(u, ids) :: rest⟩ user = if user = u then ids else idsOf ⟨rest⟩ user := by
  unfold idsOf
  rw [List.lookup_cons]
  by_cases h : user = u
  · simp [h]
  · simp [h, beq_eq_false_iff_ne.mpr h]

/-- A user who does not stand on the roster has no connections on it. -/
theorem idsOf_of_not_mem {entries : List (UserId × List ConnectionId)} {user : UserId}
    (h : user ∉ entries.map Prod.fst) : idsOf ⟨entries⟩ user = [] := by
  induction entries with
  | nil => rfl
  | cons entry rest ih =>
      obtain ⟨u, ids⟩ := entry
      rw [List.map_cons, List.mem_cons, not_or] at h
      rw [idsOf_cons, if_neg h.1, ih h.2]

/-- On a tidy roster an entry is what its user reads. -/
theorem idsOf_of_mem {r : Roster} (tidy : r.Tidy) {entry : UserId × List ConnectionId}
    (h : entry ∈ r.entries) : r.idsOf entry.1 = entry.2 := by
  obtain ⟨entries⟩ := r
  induction entries with
  | nil => exact absurd h List.not_mem_nil
  | cons first rest ih =>
      obtain ⟨u, ids⟩ := first
      obtain ⟨fresh, -, -, tidyRest⟩ := tidy_cons.mp tidy
      rw [idsOf_cons]
      rcases List.mem_cons.mp h with rfl | hrest
      · rw [if_pos rfl]
      · have hne : entry.1 ≠ u := by
          rintro rfl
          exact fresh (List.mem_map_of_mem hrest)
        rw [if_neg hne]
        exact ih tidyRest hrest

/-- What a user reads stands in one of the entries. -/
theorem mem_entries_of_mem_idsOf {r : Roster} {user : UserId} {id : ConnectionId}
    (h : id ∈ r.idsOf user) : (user, r.idsOf user) ∈ r.entries := by
  obtain ⟨entries⟩ := r
  induction entries with
  | nil => exact absurd h List.not_mem_nil
  | cons first rest ih =>
      obtain ⟨u, ids⟩ := first
      rw [idsOf_cons] at h ⊢
      by_cases hu : user = u
      · subst hu
        simp
      · rw [if_neg hu] at h ⊢
        exact List.mem_cons_of_mem _ (ih h)

/-- On a tidy roster no connection is read twice. -/
theorem nodup_idsOf {r : Roster} (tidy : r.Tidy) (user : UserId) : (r.idsOf user).Nodup := by
  cases h : r.idsOf user with
  | nil => exact List.nodup_nil
  | cons id ids =>
      have hmem : id ∈ r.idsOf user := by rw [h]; exact List.mem_cons_self
      rw [← h]
      exact tidy.once _ (mem_entries_of_mem_idsOf hmem)

/-- A roster contains a connection under a user who reads it there. -/
theorem contains_iff {r : Roster} {user : UserId} {id : ConnectionId} :
    r.contains user id = true ↔ id ∈ r.idsOf user := by
  simp [contains]

/-! ### Adding a connection -/

/-- The users after an addition. -/
theorem mem_users_addTo {user v : UserId} {id : ConnectionId}
    {entries : List (UserId × List ConnectionId)} :
    v ∈ (addTo user id entries).map Prod.fst ↔ v = user ∨ v ∈ entries.map Prod.fst := by
  induction entries with
  | nil => simp [addTo]
  | cons entry rest ih =>
      obtain ⟨u, ids⟩ := entry
      unfold addTo
      by_cases hu : u = user
      · subst hu
        simp
      · rw [if_neg hu, List.map_cons, List.map_cons, List.mem_cons, List.mem_cons, ih]
        tauto

/-- An addition is read by its user, and by nobody else. -/
theorem idsOf_addTo (user v : UserId) (id : ConnectionId)
    (entries : List (UserId × List ConnectionId)) :
    idsOf ⟨addTo user id entries⟩ v =
      if v = user then id :: idsOf ⟨entries⟩ user else idsOf ⟨entries⟩ v := by
  induction entries with
  | nil =>
      rw [addTo, idsOf_cons]
      rfl
  | cons entry rest ih =>
      obtain ⟨u, ids⟩ := entry
      unfold addTo
      by_cases hu : u = user
      · subst hu
        rw [if_pos rfl]
        simp only [idsOf_cons, if_true]
        split_ifs <;> rfl
      · rw [if_neg hu, idsOf_cons, idsOf_cons, idsOf_cons, ih, if_neg (Ne.symm hu)]
        by_cases hv : v = u
        · rw [if_pos hv, if_pos hv, if_neg (hv ▸ hu)]
        · rw [if_neg hv, if_neg hv]

/-- A roster stays tidy when a connection is added that its user does not read yet. -/
theorem tidy_addTo {user : UserId} {id : ConnectionId}
    {entries : List (UserId × List ConnectionId)} (tidy : Tidy ⟨entries⟩)
    (h : id ∉ idsOf ⟨entries⟩ user) : Tidy ⟨addTo user id entries⟩ := by
  induction entries with
  | nil => exact tidy_cons.mpr ⟨by simp, by simp, by simp, tidy⟩
  | cons entry rest ih =>
      obtain ⟨u, ids⟩ := entry
      obtain ⟨fresh, nonempty, nodup, tidyRest⟩ := tidy_cons.mp tidy
      rw [idsOf_cons] at h
      unfold addTo
      by_cases hu : u = user
      · subst hu
        rw [if_pos rfl] at h ⊢
        exact tidy_cons.mpr ⟨fresh, by simp, List.nodup_cons.mpr ⟨h, nodup⟩, tidyRest⟩
      · rw [if_neg (Ne.symm hu)] at h
        rw [if_neg hu]
        refine tidy_cons.mpr ⟨?_, nonempty, nodup, ih tidyRest h⟩
        rw [mem_users_addTo]
        exact not_or.mpr ⟨hu, fresh⟩

/-! ### Taking a connection off -/

/-- Taking a connection off brings in no new user. -/
theorem mem_users_of_mem_users_removeFrom {user v : UserId} {id : ConnectionId}
    {entries : List (UserId × List ConnectionId)}
    (h : v ∈ (removeFrom user id entries).map Prod.fst) : v ∈ entries.map Prod.fst := by
  induction entries with
  | nil => exact h
  | cons entry rest ih =>
      obtain ⟨u, ids⟩ := entry
      unfold removeFrom at h
      rw [List.map_cons, List.mem_cons]
      by_cases hu : u = user
      · rw [if_pos hu] at h
        by_cases hempty : (ids.erase id).isEmpty
        · rw [if_pos hempty] at h
          exact Or.inr h
        · rw [if_neg hempty] at h
          exact List.mem_cons.mp h
      · rw [if_neg hu, List.map_cons, List.mem_cons] at h
        exact h.imp_right ih

/-- A removal is read by its user, and by nobody else. That the entry may go altogether makes no
difference, as no other entry of the user comes to light behind it. -/
theorem idsOf_removeFrom {user : UserId} {id : ConnectionId}
    {entries : List (UserId × List ConnectionId)} (tidy : Tidy ⟨entries⟩) (v : UserId) :
    idsOf ⟨removeFrom user id entries⟩ v =
      if v = user then (idsOf ⟨entries⟩ user).erase id else idsOf ⟨entries⟩ v := by
  induction entries with
  | nil => simp [removeFrom, idsOf]
  | cons entry rest ih =>
      obtain ⟨u, ids⟩ := entry
      obtain ⟨fresh, -, -, tidyRest⟩ := tidy_cons.mp tidy
      unfold removeFrom
      by_cases hu : u = user
      · subst hu
        simp only [if_true, idsOf_cons, List.isEmpty_iff]
        by_cases hempty : ids.erase id = []
        · rw [if_pos hempty, hempty]
          by_cases hv : v = u
          · rw [if_pos hv, hv, idsOf_of_not_mem fresh]
          · rw [if_neg hv, if_neg hv]
        · rw [if_neg hempty, idsOf_cons]
          by_cases hv : v = u
          · rw [if_pos hv, if_pos hv]
          · rw [if_neg hv, if_neg hv, if_neg hv]
      · rw [if_neg hu, idsOf_cons, idsOf_cons, idsOf_cons, ih tidyRest, if_neg (Ne.symm hu)]
        by_cases hv : v = u
        · rw [if_pos hv, if_pos hv, if_neg (hv ▸ hu)]
        · rw [if_neg hv, if_neg hv]

/-- A roster stays tidy when a connection is taken off, since an entry that is left empty goes too.
-/
theorem tidy_removeFrom {user : UserId} {id : ConnectionId}
    {entries : List (UserId × List ConnectionId)} (tidy : Tidy ⟨entries⟩) :
    Tidy ⟨removeFrom user id entries⟩ := by
  induction entries with
  | nil => exact tidy
  | cons entry rest ih =>
      obtain ⟨u, ids⟩ := entry
      obtain ⟨fresh, nonempty, nodup, tidyRest⟩ := tidy_cons.mp tidy
      unfold removeFrom
      by_cases hu : u = user
      · rw [if_pos hu]
        by_cases hempty : (ids.erase id).isEmpty
        · rw [if_pos hempty]
          exact tidyRest
        · rw [if_neg hempty]
          exact tidy_cons.mpr
            ⟨fresh, fun h => hempty (List.isEmpty_iff.mpr h), nodup.erase id, tidyRest⟩
      · rw [if_neg hu]
        exact tidy_cons.mpr
          ⟨fun h => fresh (mem_users_of_mem_users_removeFrom h), nonempty, nodup, ih tidyRest⟩

/-! ### Counting -/

/-- Connections are counted entry by entry. -/
theorem connectionCount_cons (user : UserId) (ids : List ConnectionId)
    (rest : List (UserId × List ConnectionId)) :
    connectionCount ⟨(user, ids) :: rest⟩ = ids.length + connectionCount ⟨rest⟩ := rfl

/-- The count is the number of ids on the roster. -/
theorem connectionCount_eq_length (r : Roster) :
    r.connectionCount = (r.entries.flatMap Prod.snd).length := by
  obtain ⟨entries⟩ := r
  induction entries with
  | nil => rfl
  | cons entry rest ih =>
      obtain ⟨u, ids⟩ := entry
      rw [connectionCount_cons, ih, List.flatMap_cons, List.length_append]

/-- An addition counts for one. -/
theorem connectionCount_addTo (user : UserId) (id : ConnectionId)
    (entries : List (UserId × List ConnectionId)) :
    connectionCount ⟨addTo user id entries⟩ = connectionCount ⟨entries⟩ + 1 := by
  induction entries with
  | nil => rfl
  | cons entry rest ih =>
      obtain ⟨u, ids⟩ := entry
      unfold addTo
      split_ifs
      · simp only [connectionCount_cons, List.length_cons]
        omega
      · rw [connectionCount_cons, connectionCount_cons, ih]
        omega

/-- A removal counts for one, if the user read the connection. -/
theorem connectionCount_removeFrom {user : UserId} {id : ConnectionId}
    {entries : List (UserId × List ConnectionId)} (h : id ∈ idsOf ⟨entries⟩ user) :
    connectionCount ⟨removeFrom user id entries⟩ + 1 = connectionCount ⟨entries⟩ := by
  induction entries with
  | nil => exact absurd h List.not_mem_nil
  | cons entry rest ih =>
      obtain ⟨u, ids⟩ := entry
      rw [idsOf_cons] at h
      unfold removeFrom
      by_cases hu : u = user
      · rw [if_pos hu.symm] at h
        have hlen : (ids.erase id).length + 1 = ids.length := by
          rw [List.length_erase_of_mem h]
          have := List.length_pos_of_mem h
          omega
        rw [if_pos hu]
        by_cases hempty : ids.erase id = []
        · rw [hempty, List.length_nil] at hlen
          rw [if_pos (List.isEmpty_iff.mpr hempty), connectionCount_cons]
          omega
        · rw [if_neg (mt List.isEmpty_iff.mp hempty), connectionCount_cons, connectionCount_cons]
          omega
      · rw [if_neg (Ne.symm hu)] at h
        have := ih h
        rw [if_neg hu, connectionCount_cons, connectionCount_cons]
        omega

/-! ### Registering and unregistering -/

/-- Registering keeps a roster tidy. -/
theorem Tidy.insert {r : Roster} (tidy : r.Tidy) (user : UserId) (id : ConnectionId) :
    (r.insert user id).2.Tidy := by
  unfold Roster.insert
  split_ifs with h
  · exact tidy
  · exact tidy_addTo tidy (mt contains_iff.mpr h)

/-- Unregistering keeps a roster tidy. -/
theorem Tidy.remove {r : Roster} (tidy : r.Tidy) (user : UserId) (id : ConnectionId) :
    (r.remove user id).2.Tidy := by
  unfold Roster.remove
  split_ifs
  · exact tidy_removeFrom tidy
  · exact tidy

/-- A registered connection is read by its user from then on, and nothing else changes. -/
theorem mem_idsOf_insert (r : Roster) (user v : UserId) (id d : ConnectionId) :
    d ∈ (r.insert user id).2.idsOf v ↔ d ∈ r.idsOf v ∨ (v = user ∧ d = id) := by
  unfold Roster.insert
  split_ifs with h
  · refine ⟨Or.inl, ?_⟩
    rintro (hd | ⟨rfl, rfl⟩)
    · exact hd
    · exact contains_iff.mp h
  · rw [idsOf_addTo]
    split_ifs with hv
    · subst hv
      rw [List.mem_cons]
      tauto
    · tauto

/-- An unregistered connection is read by its user no longer, and nothing else changes. -/
theorem mem_idsOf_remove {r : Roster} (tidy : r.Tidy) (user v : UserId) (id d : ConnectionId) :
    d ∈ (r.remove user id).2.idsOf v ↔ d ∈ r.idsOf v ∧ ¬(v = user ∧ d = id) := by
  unfold Roster.remove
  split_ifs with h
  · rw [idsOf_removeFrom tidy]
    split_ifs with hv
    · subst hv
      rw [(nodup_idsOf tidy v).mem_erase_iff]
      tauto
    · tauto
  · refine ⟨fun hd => ⟨hd, ?_⟩, And.left⟩
    rintro ⟨rfl, rfl⟩
    exact h (contains_iff.mpr hd)

/-- One more is counted when the connection is new. -/
theorem connectionCount_insert (r : Roster) (user : UserId) (id : ConnectionId) :
    (r.insert user id).2.connectionCount =
      r.connectionCount + (r.insert user id).1.toNat := by
  unfold Roster.insert
  split_ifs
  · rfl
  · exact connectionCount_addTo user id r.entries

/-- One less is counted when the connection was there. -/
theorem connectionCount_remove (r : Roster) (user : UserId) (id : ConnectionId) :
    (r.remove user id).2.connectionCount + (r.remove user id).1.toNat =
      r.connectionCount := by
  unfold Roster.remove
  split_ifs with h
  · exact connectionCount_removeFrom (contains_iff.mp h)
  · rfl

end Parley.Roster
