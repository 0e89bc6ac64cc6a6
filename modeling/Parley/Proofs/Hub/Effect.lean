import Mathlib.Data.List.Nodup
import Parley.Hub.Basic
import Parley.Proofs.Hub.Roster

/-!
# What the operations of the hub do

A hub is read through three views: the connection of an id, what is registered, and the log.
`Hub.Tidy` says that the roster is tidy and lists every connection under its own user. On a tidy
hub the effect of each operation on the views is one lemma, and every operation keeps the hub tidy.

An envelope that is fanned out goes once over `Hub.audience`, the live registered connections of
the listed users (`fanOut_eq_offerAll`). No connection is met twice on the way, so
`connection?_fanOut` can say what becomes of each of them without speaking of the others.
-/

namespace Parley

/-- The user is fixed when a connection is made. -/
@[simp] theorem Connection.user_close (c : Connection) : c.close.user = c.user := rfl

/-- Closing lets go of nothing. -/
@[simp] theorem Connection.held_close (c : Connection) : c.close.held = c.held := rfl

/-- Closing raises the closed signal. -/
@[simp] theorem Connection.isClosed_close (c : Connection) : c.close.isClosed = true := rfl

/-- Offering an envelope changes neither the user of a connection nor who holds it, and neither its
phase nor its signal. -/
theorem Connection.enqueue_frame (c : Connection) (e : Envelope) :
    (c.enqueue e).2.user = c.user ∧ (c.enqueue e).2.held = c.held ∧
      (c.enqueue e).2.phase = c.phase ∧ (c.enqueue e).2.isClosed = c.isClosed := by
  unfold Connection.enqueue
  split_ifs
  · exact ⟨rfl, rfl, rfl, rfl⟩
  · split <;> exact ⟨rfl, rfl, rfl, rfl⟩

namespace Hub

variable {hub : Hub}

/-- The user of a connection. -/
def userOf? (hub : Hub) (id : ConnectionId) : Option UserId :=
  (hub.connection? id).map Connection.user

/-- A hub whose roster is tidy and lists every connection under its own user. -/
structure Tidy (hub : Hub) : Prop where
  roster : hub.roster.Tidy
  owned : ∀ user, ∀ id ∈ hub.roster.idsOf user, hub.userOf? id = some user

/-- The empty hub is tidy. -/
theorem tidy_empty : Tidy empty :=
  ⟨Roster.tidy_empty, fun _ _ h => absurd h List.not_mem_nil⟩

/-- A registered connection is one that its own user reads. -/
theorem isRegistered_iff {id : ConnectionId} :
    hub.isRegistered id = true ↔
      ∃ user, hub.userOf? id = some user ∧ id ∈ hub.roster.idsOf user := by
  unfold isRegistered userOf?
  cases hub.connection? id with
  | none => simp
  | some c => simp [Roster.contains]

/-- What a user reads on a tidy hub are the registered connections of that user. -/
theorem Tidy.mem_idsOf_iff (tidy : hub.Tidy) {user : UserId} {id : ConnectionId} :
    id ∈ hub.roster.idsOf user ↔ hub.isRegistered id = true ∧ hub.userOf? id = some user := by
  constructor
  · intro h
    exact ⟨isRegistered_iff.mpr ⟨user, tidy.owned user id h, h⟩, tidy.owned user id h⟩
  · rintro ⟨hreg, huser⟩
    obtain ⟨u, hu, hmem⟩ := isRegistered_iff.mp hreg
    rw [huser, Option.some_inj] at hu
    exact hu ▸ hmem

/-! ### Reading after writing -/

/-- A note concerns no connection. -/
@[simp] theorem connection?_note (n : Notice) (id : ConnectionId) :
    (hub.note n).connection? id = hub.connection? id := rfl

/-- A note leaves the roster as it is. -/
@[simp] theorem roster_note (n : Notice) : (hub.note n).roster = hub.roster := rfl

/-- A note is the newest of the log. -/
@[simp] theorem log_note (n : Notice) : (hub.note n).log = n :: hub.log := rfl

/-- A change to a connection leaves the roster as it is. -/
@[simp] theorem roster_update (id : ConnectionId) (f : Connection → Connection) :
    (hub.update id f).roster = hub.roster := rfl

/-- A change to a connection is not noted. -/
@[simp] theorem log_update (id : ConnectionId) (f : Connection → Connection) :
    (hub.update id f).log = hub.log := rfl

/-- A change to one connection is read there, and nowhere else. -/
theorem connection?_update (id c : ConnectionId) (f : Connection → Connection) :
    (hub.update id f).connection? c =
      if c = id then (hub.connection? c).map f else hub.connection? c := by
  unfold update connection?
  rw [List.getElem?_modify]
  by_cases h : c = id
  · simp [h]
  · simp [h, Ne.symm h]

/-- A new connection has the next id, and the others are as they were. -/
theorem connection?_openFor (user : UserId) (capacity : Nat) (c : ConnectionId) :
    (hub.openFor user capacity).2.connection? c =
      if c = hub.connections.length then some (.new user capacity) else hub.connection? c := by
  unfold openFor connection?
  rcases Nat.lt_trichotomy c hub.connections.length with hlt | rfl | hgt
  · rw [List.getElem?_append_left hlt, if_neg (Nat.ne_of_lt hlt)]
  · simp
  · rw [if_neg (Nat.ne_of_gt hgt), List.getElem?_eq_none (Nat.le_of_lt hgt)]
    apply List.getElem?_eq_none
    rw [List.length_append]
    exact hgt

/-- Ids without a connection come after all others. -/
theorem connection?_eq_none_iff {c : ConnectionId} :
    hub.connection? c = none ↔ hub.connections.length ≤ c :=
  List.getElem?_eq_none_iff

/-- Two hubs with the same roster, on which a connection has the same user, agree on whether it is
registered. -/
theorem isRegistered_congr {hub' : Hub} {c : ConnectionId} (roster : hub'.roster = hub.roster)
    (user : hub'.userOf? c = hub.userOf? c) : hub'.isRegistered c = hub.isRegistered c := by
  rw [Bool.eq_iff_iff, isRegistered_iff, isRegistered_iff, roster, user]

/-- A hub stays tidy as long as the roster and the users of connections stay. -/
theorem Tidy.congr {hub' : Hub} (tidy : hub.Tidy) (roster : hub'.roster = hub.roster)
    (user : ∀ c u, hub.userOf? c = some u → hub'.userOf? c = some u) : hub'.Tidy :=
  ⟨roster ▸ tidy.roster, fun u c h => user c u (tidy.owned u c (roster ▸ h))⟩

/-- A change that leaves the user of a connection alone changes nobody's user. -/
theorem userOf?_update {id : ConnectionId} {f : Connection → Connection}
    (h : ∀ conn, (f conn).user = conn.user) (c : ConnectionId) :
    (hub.update id f).userOf? c = hub.userOf? c := by
  unfold userOf?
  rw [connection?_update]
  split_ifs
  · simp [Function.comp_def, h]
  · rfl

/-! ### Registering -/

/-- Registering either does nothing, or puts an open connection on the roster that was not there
and notes it. -/
theorem register_cases (hub : Hub) (id : ConnectionId) :
    (hub.register id = hub ∧
      ∀ c, hub.connection? id = some c → c.isClosed = false → hub.isRegistered id = true) ∨
    ∃ c, hub.connection? id = some c ∧ c.isClosed = false ∧ hub.isRegistered id = false ∧
      hub.register id = { hub with
        roster := (hub.roster.insert c.user id).2, log := .registered id c.user :: hub.log } ∧
      (hub.roster.insert c.user id).1 = true := by
  unfold register enroll isRegistered
  cases hconn : hub.connection? id with
  | none => exact Or.inl ⟨rfl, fun c h => absurd h (by simp)⟩
  | some c =>
      cases hclosed : c.isClosed with
      | true => exact Or.inl ⟨by simp [hclosed], fun d h => by cases h; simp [hclosed]⟩
      | false =>
          cases hthere : hub.roster.contains c.user id with
          | true =>
              refine Or.inl ⟨?_, fun d h _ => by cases h; simpa using hthere⟩
              simp [hclosed, Roster.insert, hthere]
          | false =>
              refine Or.inr ⟨c, rfl, hclosed, by simpa using hthere, ?_, ?_⟩ <;>
                simp [hclosed, Roster.insert, hthere, note]

/-- Registering changes no connection. -/
@[simp] theorem connection?_register (id c : ConnectionId) :
    (hub.register id).connection? c = hub.connection? c := by
  rcases register_cases hub id with ⟨h, -⟩ | ⟨_, -, -, -, h, -⟩
  · rw [h]
  · rw [h]
    rfl

/-- Registering changes nobody's user. -/
@[simp] theorem userOf?_register (id c : ConnectionId) :
    (hub.register id).userOf? c = hub.userOf? c := by
  unfold userOf?
  rw [connection?_register]

/-- Registering keeps a hub tidy. -/
theorem Tidy.register (tidy : hub.Tidy) (id : ConnectionId) : (hub.register id).Tidy := by
  rcases register_cases hub id with ⟨h, -⟩ | ⟨conn, hconn, -, -, h, -⟩
  · rwa [h]
  · rw [h]
    refine ⟨tidy.roster.insert conn.user id, fun u d hd => ?_⟩
    rcases (Roster.mem_idsOf_insert hub.roster conn.user u id d).mp hd with hold | ⟨rfl, rfl⟩
    · exact tidy.owned u d hold
    · exact congrArg (Option.map Connection.user) hconn

/-- Registering puts an open connection on the roster, and concerns no other. -/
theorem isRegistered_register (id c : ConnectionId) :
    (hub.register id).isRegistered c = true ↔
      hub.isRegistered c = true ∨
        (c = id ∧ ∃ conn, hub.connection? c = some conn ∧ conn.isClosed = false) := by
  rcases register_cases hub id with ⟨h, hthere⟩ | ⟨conn, hconn, hopen, -, h, -⟩
  · rw [h]
    refine ⟨Or.inl, ?_⟩
    rintro (hreg | ⟨rfl, conn, hconn, hopen⟩)
    · exact hreg
    · exact hthere conn hconn hopen
  · have hread : ∀ u, c ∈ (hub.register id).roster.idsOf u ↔
        c ∈ hub.roster.idsOf u ∨ (u = conn.user ∧ c = id) := by
      intro u
      rw [h]
      exact Roster.mem_idsOf_insert hub.roster conn.user u id c
    rw [isRegistered_iff, isRegistered_iff]
    simp only [userOf?_register, hread]
    constructor
    · rintro ⟨u, hu, hold | ⟨rfl, rfl⟩⟩
      · exact Or.inl ⟨u, hu, hold⟩
      · exact Or.inr ⟨rfl, conn, hconn, hopen⟩
    · rintro (⟨u, hu, hold⟩ | ⟨rfl, _, -, -⟩)
      · exact ⟨u, hu, Or.inl hold⟩
      · exact ⟨conn.user, congrArg (Option.map Connection.user) hconn, Or.inr ⟨rfl, rfl⟩⟩

/-- Registering one connection leaves the others on or off the roster. -/
theorem isRegistered_register_of_ne {id c : ConnectionId} (h : c ≠ id) :
    (hub.register id).isRegistered c = hub.isRegistered c := by
  rw [Bool.eq_iff_iff, isRegistered_register]
  exact or_iff_left fun hcid => h hcid.1

/-! ### Unregistering -/

/-- A change to an id without a connection changes nothing. -/
theorem update_of_none {id : ConnectionId} (h : hub.connection? id = none)
    (f : Connection → Connection) : hub.update id f = hub := by
  rw [update, List.modify_eq_self (connection?_eq_none_iff.mp h)]

/-- Unregistering closes the connection, and if it was on the roster takes it off and notes it. -/
theorem unregister_cases (hub : Hub) (id : ConnectionId) :
    (hub.isRegistered id = false ∧ hub.unregister id = hub.update id Connection.close) ∨
    ∃ c, hub.connection? id = some c ∧ hub.isRegistered id = true ∧
      hub.unregister id = { hub.update id Connection.close with
        roster := (hub.roster.remove c.user id).2
        log := .unregistered id c.user c.dropped :: hub.log } ∧
      (hub.roster.remove c.user id).1 = true := by
  unfold unregister strike isRegistered
  cases hconn : hub.connection? id with
  | none => exact Or.inl ⟨rfl, (update_of_none hconn _).symm⟩
  | some c =>
      cases hthere : hub.roster.contains c.user id with
      | false =>
          refine Or.inl ⟨by simpa using hthere, ?_⟩
          simp [Roster.remove, hthere, update]
      | true =>
          refine Or.inr ⟨c, rfl, by simpa using hthere, ?_, ?_⟩ <;>
            simp [Roster.remove, hthere, update, note]

/-- Unregistering raises the closed signal of the connection, and concerns no other. -/
theorem connection?_unregister (id c : ConnectionId) :
    (hub.unregister id).connection? c =
      if c = id then (hub.connection? c).map Connection.close else hub.connection? c := by
  rcases unregister_cases hub id with ⟨-, h⟩ | ⟨_, -, -, h, -⟩
  · rw [h]
    exact connection?_update id c Connection.close
  · rw [h]
    exact connection?_update id c Connection.close

/-- Unregistering changes nobody's user. -/
@[simp] theorem userOf?_unregister (id c : ConnectionId) :
    (hub.unregister id).userOf? c = hub.userOf? c := by
  unfold userOf?
  rw [connection?_unregister]
  split_ifs
  · simp [Function.comp_def]
  · rfl

/-- Unregistering keeps a hub tidy. -/
theorem Tidy.unregister (tidy : hub.Tidy) (id : ConnectionId) : (hub.unregister id).Tidy := by
  rcases unregister_cases hub id with ⟨-, h⟩ | ⟨conn, -, -, h, -⟩
  · rw [h]
    refine tidy.congr rfl fun c u huser => ?_
    rwa [userOf?_update Connection.user_close]
  · refine ⟨?_, fun u d hd => ?_⟩
    · rw [h]
      exact tidy.roster.remove conn.user id
    · rw [userOf?_unregister]
      rw [h] at hd
      exact tidy.owned u d ((Roster.mem_idsOf_remove tidy.roster conn.user u id d).mp hd).1

/-- Unregistering takes the connection off the roster, and concerns no other. -/
theorem isRegistered_unregister (tidy : hub.Tidy) (id c : ConnectionId) :
    (hub.unregister id).isRegistered c = true ↔ hub.isRegistered c = true ∧ c ≠ id := by
  rcases unregister_cases hub id with ⟨hoff, h⟩ | ⟨conn, hconn, -, h, -⟩
  · have hsame : (hub.unregister id).isRegistered c = hub.isRegistered c :=
      isRegistered_congr (by rw [h]; rfl) (userOf?_unregister id c)
    rw [hsame]
    refine ⟨fun hreg => ⟨hreg, ?_⟩, And.left⟩
    rintro rfl
    rw [hoff] at hreg
    exact absurd hreg (by simp)
  · have hread : ∀ u, c ∈ (hub.unregister id).roster.idsOf u ↔
        c ∈ hub.roster.idsOf u ∧ ¬(u = conn.user ∧ c = id) := by
      intro u
      rw [h]
      exact Roster.mem_idsOf_remove tidy.roster conn.user u id c
    rw [isRegistered_iff, isRegistered_iff]
    simp only [userOf?_unregister, hread]
    constructor
    · rintro ⟨u, hu, hmem, hne⟩
      refine ⟨⟨u, hu, hmem⟩, ?_⟩
      rintro rfl
      refine hne ⟨?_, rfl⟩
      rw [userOf?, hconn] at hu
      exact (Option.some.inj hu).symm
    · rintro ⟨⟨u, hu, hmem⟩, hne⟩
      exact ⟨u, hu, hmem, fun h => hne h.2⟩

/-- What was unregistered is off the roster. -/
theorem isRegistered_unregister_self (tidy : hub.Tidy) (id : ConnectionId) :
    (hub.unregister id).isRegistered id = false := by
  rw [Bool.eq_false_iff, Ne, isRegistered_unregister tidy]
  exact fun h => h.2 rfl

/-- Unregistering one connection leaves the others on or off the roster. -/
theorem isRegistered_unregister_of_ne (tidy : hub.Tidy) {id c : ConnectionId} (h : c ≠ id) :
    (hub.unregister id).isRegistered c = hub.isRegistered c := by
  rw [Bool.eq_iff_iff, isRegistered_unregister tidy]
  exact and_iff_left h

/-! ### One envelope and one connection -/

/-- An envelope offered to one connection concerns no other, and neither roster nor log. -/
theorem enqueue_snd (hub : Hub) (id : ConnectionId) (e : Envelope) :
    (hub.enqueue id e).2 = hub.update id fun conn => (conn.enqueue e).2 := by
  unfold enqueue
  cases hconn : hub.connection? id with
  | none => exact (update_of_none hconn _).symm
  | some conn =>
      simp only [update, List.modify_eq_set_getElem?, Option.map_eq_map]
      unfold connection? at hconn
      simp [hconn]

/-- An envelope offered to one connection is read there, and nowhere else. -/
theorem connection?_enqueue (id c : ConnectionId) (e : Envelope) :
    (hub.enqueue id e).2.connection? c =
      if c = id then (hub.connection? c).map fun conn => (conn.enqueue e).2
      else hub.connection? c := by
  rw [enqueue_snd, connection?_update]

/-- Taking an envelope out of one mailbox concerns no other connection, and neither roster nor
log. -/
theorem dequeue_eq (hub : Hub) (id : ConnectionId) :
    hub.dequeue id = (hub.connection? id).bind fun conn =>
      conn.dequeue.map fun p => (p.1, hub.update id fun _ => p.2) := by
  unfold dequeue
  cases hub.connection? id with
  | none => rfl
  | some conn =>
      cases hconn : conn.dequeue with
      | none => simp [hconn]
      | some p => simp [hconn]

/-! ### One envelope and many connections -/

/-- A list without repetitions of what a list holds. -/
theorem nodup_eraseDups (users : List UserId) : users.eraseDups.Nodup := by
  match users with
  | [] => exact List.nodup_nil
  | user :: rest =>
      rw [List.eraseDups_cons, List.nodup_cons]
      refine ⟨?_, nodup_eraseDups _⟩
      rw [List.mem_eraseDups, List.mem_filter]
      simp
termination_by users.length
decreasing_by exact Nat.lt_succ_of_le (List.length_filter_le _ rest)

/-- Whom an envelope for the listed users is offered to: their live registered connections. -/
def audience (hub : Hub) (users : List UserId) : List (UserId × ConnectionId) :=
  users.eraseDups.flatMap fun user => (hub.connectionsOf user).map (Prod.mk user)

/-- Offers an envelope to each member of an audience in turn. -/
def offerAll (e : Envelope) (state : Delivery × Hub) (members : List (UserId × ConnectionId)) :
    Delivery × Hub :=
  members.foldl (fun state member => deliver e member.1 state member.2) state

/-- Fanning out goes once over the audience. -/
theorem fanOut_eq_offerAll (hub : Hub) (users : List UserId) (e : Envelope) :
    hub.fanOut users e = offerAll e ({}, hub) (hub.audience users) := by
  simp only [fanOut, offerAll, audience, List.foldl_flatMap, List.foldl_map]

/-- An audience are the listed users' connections on the roster that are held. -/
theorem mem_audience {users : List UserId} {user : UserId} {c : ConnectionId} :
    (user, c) ∈ hub.audience users ↔
      user ∈ users ∧ c ∈ hub.roster.idsOf user ∧ hub.isHeld c = true := by
  simp only [audience, connectionsOf, List.mem_flatMap, List.mem_map, List.mem_filter,
    List.mem_eraseDups, Prod.mk.injEq]
  constructor
  · rintro ⟨u, hu, d, hd, rfl, rfl⟩
    exact ⟨hu, hd⟩
  · rintro ⟨hu, hc⟩
    exact ⟨user, hu, c, hc, rfl, rfl⟩

/-- On a tidy hub an audience are the registered connections of the listed users that are held. -/
theorem Tidy.mem_audience_iff (tidy : hub.Tidy) {users : List UserId} {user : UserId}
    {c : ConnectionId} :
    (user, c) ∈ hub.audience users ↔ ∃ conn, hub.connection? c = some conn ∧ conn.user = user ∧
      user ∈ users ∧ hub.isRegistered c = true ∧ conn.held = true := by
  rw [mem_audience, tidy.mem_idsOf_iff]
  constructor
  · rintro ⟨hlisted, ⟨hreg, huser⟩, hheld⟩
    obtain ⟨conn, hconn, rfl⟩ := Option.map_eq_some_iff.mp huser
    rw [isHeld, hconn, Option.any_some] at hheld
    exact ⟨conn, hconn, rfl, hlisted, hreg, hheld⟩
  · rintro ⟨conn, hconn, rfl, hlisted, hreg, hheld⟩
    refine ⟨hlisted, ⟨hreg, congrArg (Option.map Connection.user) hconn⟩, ?_⟩
    rw [isHeld, hconn]
    exact hheld

/-- On a tidy hub nobody is met twice in an audience: not under one user, whose connections are
listed once, and not under two, since a connection has one user. -/
theorem Tidy.nodup_audience (tidy : hub.Tidy) (users : List UserId) :
    ((hub.audience users).map Prod.snd).Nodup := by
  have hids : (hub.audience users).map Prod.snd = users.eraseDups.flatMap hub.connectionsOf := by
    simp [audience, List.map_flatMap, Function.comp_def]
  rw [hids, List.nodup_flatMap]
  refine ⟨fun user _ => (Roster.nodup_idsOf tidy.roster user).filter _, ?_⟩
  refine (nodup_eraseDups users).imp fun {u v} hne => ?_
  intro c hu hv
  have hcu := tidy.owned u c (List.mem_filter.mp hu).1
  have hcv := tidy.owned v c (List.mem_filter.mp hv).1
  exact hne (Option.some.inj (hcu.symm.trans hcv))

/-- One delivery enqueues on its connection, and at most notes that the queue was full. -/
theorem deliver_snd (e : Envelope) (user : UserId) (state : Delivery × Hub) (id : ConnectionId) :
    (deliver e user state id).2 = (state.2.enqueue id e).2 ∨
      (deliver e user state id).2 = ((state.2.enqueue id e).2).note (.queueFull id user) := by
  obtain ⟨d, hub⟩ := state
  dsimp only [deliver]
  rcases hub.enqueue id e with ⟨error | ⟨⟩, after⟩
  · cases error with
    | full => exact Or.inr rfl
    | closed => exact Or.inl rfl
  · exact Or.inl rfl

/-- A delivery offers the envelope to its connection, and concerns no other. -/
theorem connection?_deliver (e : Envelope) (user : UserId) (state : Delivery × Hub)
    (id c : ConnectionId) :
    (deliver e user state id).2.connection? c =
      if c = id then (state.2.connection? c).map fun conn => (conn.enqueue e).2
      else state.2.connection? c := by
  rw [← connection?_enqueue]
  rcases deliver_snd e user state id with h | h <;> rw [h]
  rfl

/-- A delivery leaves the roster as it is. -/
theorem roster_deliver (e : Envelope) (user : UserId) (state : Delivery × Hub)
    (id : ConnectionId) : (deliver e user state id).2.roster = state.2.roster := by
  rcases deliver_snd e user state id with h | h <;> rw [h, enqueue_snd] <;> rfl

/-- Deliveries leave the roster as it is. -/
theorem roster_offerAll (e : Envelope) (state : Delivery × Hub)
    (members : List (UserId × ConnectionId)) :
    (offerAll e state members).2.roster = state.2.roster := by
  induction members generalizing state with
  | nil => rfl
  | cons member rest ih => exact (ih _).trans (roster_deliver e member.1 state member.2)

/-- A connection that is met once is offered the envelope once, and one that is not met stays as
it was. -/
theorem connection?_offerAll (e : Envelope) (state : Delivery × Hub)
    {members : List (UserId × ConnectionId)} (nodup : (members.map Prod.snd).Nodup)
    (c : ConnectionId) :
    (offerAll e state members).2.connection? c =
      if c ∈ members.map Prod.snd then
        (state.2.connection? c).map fun conn => (conn.enqueue e).2
      else state.2.connection? c := by
  induction members generalizing state with
  | nil => rfl
  | cons member rest ih =>
      rw [List.map_cons, List.nodup_cons] at nodup
      have hrest := ih (deliver e member.1 state member.2) nodup.2
      rw [connection?_deliver] at hrest
      change (offerAll e (deliver e member.1 state member.2) rest).2.connection? c = _
      rw [hrest, List.map_cons]
      by_cases hc : c = member.2
      · subst hc
        rw [if_neg nodup.1, if_pos rfl, if_pos List.mem_cons_self]
      · simp only [hc, if_false, List.mem_cons, false_or]

/-- Only full queues are noted while an envelope goes round. -/
theorem log_offerAll (e : Envelope) (state : Delivery × Hub)
    (members : List (UserId × ConnectionId)) :
    ∃ notices, (offerAll e state members).2.log = notices ++ state.2.log ∧
      ∀ n ∈ notices, ∃ id user, n = .queueFull id user := by
  induction members generalizing state with
  | nil => exact ⟨[], rfl, fun _ h => absurd h List.not_mem_nil⟩
  | cons member rest ih =>
      obtain ⟨later, hlog, hlater⟩ := ih (deliver e member.1 state member.2)
      change ∃ notices, (offerAll e (deliver e member.1 state member.2) rest).2.log = _ ∧ _
      rw [hlog]
      rcases deliver_snd e member.1 state member.2 with h | h
      · refine ⟨later, ?_, hlater⟩
        rw [h, enqueue_snd]
        rfl
      · refine ⟨later ++ [.queueFull member.2 member.1], ?_, ?_⟩
        · rw [h, enqueue_snd, List.append_assoc]
          rfl
        · intro n hn
          rcases List.mem_append.mp hn with hn | hn
          · exact hlater n hn
          · exact ⟨member.2, member.1, List.mem_singleton.mp hn⟩

/-! ### Fanning out -/

/-- Fanning out leaves the roster as it is. -/
@[simp] theorem roster_fanOut (users : List UserId) (e : Envelope) :
    (hub.fanOut users e).2.roster = hub.roster := by
  rw [fanOut_eq_offerAll]
  exact roster_offerAll e ({}, hub) (hub.audience users)

/-- An envelope fanned out reaches a connection through its own state alone: whether its user is
listed, whether it is registered, and whether it is held. -/
theorem connection?_fanOut (tidy : hub.Tidy) (users : List UserId) (e : Envelope)
    (c : ConnectionId) :
    (hub.fanOut users e).2.connection? c =
      (hub.connection? c).map fun conn =>
        if conn.user ∈ users ∧ hub.isRegistered c = true ∧ conn.held = true then
          (conn.enqueue e).2
        else conn := by
  rw [fanOut_eq_offerAll, connection?_offerAll e _ (tidy.nodup_audience users)]
  cases hconn : hub.connection? c with
  | none => simp
  | some conn =>
      have hmem : c ∈ (hub.audience users).map Prod.snd ↔
          conn.user ∈ users ∧ hub.isRegistered c = true ∧ conn.held = true := by
        rw [List.mem_map]
        constructor
        · rintro ⟨⟨u, d⟩, hmem, rfl⟩
          obtain ⟨conn', hconn', rfl, hreached⟩ := tidy.mem_audience_iff.mp hmem
          obtain rfl := Option.some.inj (hconn.symm.trans hconn')
          exact hreached
        · intro hreached
          exact ⟨(conn.user, c), tidy.mem_audience_iff.mpr ⟨conn, hconn, rfl, hreached⟩, rfl⟩
      simp only [hmem, Option.map_some]
      split_ifs <;> rfl

/-- Fanning out changes nobody's user. -/
theorem userOf?_fanOut (tidy : hub.Tidy) (users : List UserId) (e : Envelope)
    (c : ConnectionId) : (hub.fanOut users e).2.userOf? c = hub.userOf? c := by
  unfold userOf?
  rw [connection?_fanOut tidy, Option.map_map]
  congr 1
  funext conn
  simp only [Function.comp_apply]
  split_ifs
  · exact (conn.enqueue_frame e).1
  · rfl

/-- Fanning out notes full queues only. -/
theorem log_fanOut (hub : Hub) (users : List UserId) (e : Envelope) :
    ∃ notices, (hub.fanOut users e).2.log = notices ++ hub.log ∧
      ∀ n ∈ notices, ∃ id user, n = .queueFull id user := by
  rw [fanOut_eq_offerAll]
  exact log_offerAll e ({}, hub) (hub.audience users)

end Hub

end Parley
