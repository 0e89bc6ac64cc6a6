import Mathlib.Data.List.Perm.Basic
import Parley.Proofs.Hub.Mail

/-!
# The account of an envelope that is fanned out

`Hub.reached` lists the connections that an envelope for some users comes to. It looks at the
connections one by one and at the users only through membership, whereas the hub goes from user to
user; on a tidy hub the two visit the same connections (`Tidy.audience_perm`).

What one delivery does to the counts and to the log depends on the connection alone
(`deliver_eq`), and no delivery concerns another member of the audience. Counts and notices of a
whole round are therefore read off the hub before it (`outcome_offerAll`, `log_offerAll_eq`), and
`Hub.FannedOut` puts them together with what becomes of the connections.
-/

namespace Parley

namespace Connection

/-- Whether an envelope would be dropped because the queue is full. A connection that is closed, or
whose receiving side is, has no room either but refuses the envelope for that reason. -/
def overflows (c : Connection) : Bool :=
  !c.isClosed && c.mailbox.receiver = .listening && c.mailbox.capacity ≤ c.mailbox.queue.length

/-- A full queue takes nothing. -/
theorem not_admits_of_overflows {c : Connection} (h : c.overflows = true) : c.admits = false := by
  unfold overflows at h
  unfold admits
  simp only [Bool.and_eq_true, decide_eq_true_eq] at h
  simp [h.1.1, h.1.2, h.2]

/-- An envelope is queued at the end, or counted as dropped, or refused without a trace. -/
theorem enqueue_eq (c : Connection) (e : Envelope) :
    c.enqueue e =
      if c.admits then
        (.ok (), { c with mailbox := { c.mailbox with queue := c.mailbox.queue ++ [e] } })
      else if c.overflows then (.error .full, { c with drops := c.drops + 1 })
      else (.error .closed, c) := by
  unfold Connection.enqueue admits overflows Mailbox.offer
  by_cases hclosed : c.isClosed = true
  · simp [hclosed]
  · by_cases hlistening : c.mailbox.receiver = .listening
    · by_cases hroom : c.mailbox.queue.length < c.mailbox.capacity
      · simp [hclosed, hlistening, hroom]
      · simp [hclosed, hlistening, hroom, Nat.le_of_not_lt hroom]
    · simp [hclosed, hlistening]

end Connection

namespace Hub

variable {hub : Hub}

/-- Whether the connection of an id would accept an envelope. -/
def admits (hub : Hub) (id : ConnectionId) : Bool :=
  (hub.connection? id).any Connection.admits

/-- Whether the connection of an id would drop an envelope because its queue is full. -/
def overflows (hub : Hub) (id : ConnectionId) : Bool :=
  (hub.connection? id).any Connection.overflows

/-! ### Counting deliveries -/

/-- An envelope is answered for as the connection stands. -/
theorem enqueue_fst (hub : Hub) (id : ConnectionId) (e : Envelope) :
    (hub.enqueue id e).1 =
      if hub.admits id then .ok ()
      else if hub.overflows id then .error .full else .error .closed := by
  unfold enqueue admits overflows
  cases hub.connection? id with
  | none => rfl
  | some c =>
      simp only [Connection.enqueue_eq, Option.any_some]
      split_ifs <;> rfl

/-- A full queue takes nothing. -/
theorem not_admits_of_overflows {id : ConnectionId} (h : hub.overflows id = true) :
    hub.admits id = false := by
  unfold overflows at h
  unfold admits
  cases hconn : hub.connection? id with
  | none => rfl
  | some c =>
      rw [hconn] at h
      exact Connection.not_admits_of_overflows h

/-- One delivery counts a recipient, and whether it took the envelope; a full queue is noted. -/
theorem deliver_eq (e : Envelope) (user : UserId) (state : Delivery × Hub) (id : ConnectionId) :
    deliver e user state id =
      (⟨state.1.recipients + 1, state.1.delivered + (state.2.admits id).toNat,
          state.1.dropped + (!state.2.admits id).toNat⟩,
        if state.2.overflows id then (state.2.enqueue id e).2.note (.queueFull id user)
        else (state.2.enqueue id e).2) := by
  obtain ⟨d, hub⟩ := state
  have hanswer := hub.enqueue_fst id e
  dsimp only [deliver]
  generalize hub.enqueue id e = result at hanswer ⊢
  obtain ⟨answer, after⟩ := result
  cases hfull : hub.overflows id with
  | true =>
      rw [not_admits_of_overflows hfull, hfull] at hanswer
      change answer = .error .full at hanswer
      rw [hanswer, not_admits_of_overflows hfull]
      rfl
  | false =>
      rw [hfull] at hanswer
      cases hadmits : hub.admits id with
      | true =>
          rw [hadmits] at hanswer
          change answer = .ok () at hanswer
          rw [hanswer]
          rfl
      | false =>
          rw [hadmits] at hanswer
          change answer = .error .closed at hanswer
          rw [hanswer]
          rfl

/-- Where nobody is met twice, a delivery to the first leaves the others as they stand. -/
theorem any_deliver_of_nodup (e : Envelope) (state : Delivery × Hub)
    {member : UserId × ConnectionId} {rest : List (UserId × ConnectionId)} (nodup : ((member :: rest).map Prod.snd).Nodup)
    (p : Connection → Bool) {c : ConnectionId} (hc : c ∈ rest.map Prod.snd) :
    ((deliver e member.1 state member.2).2.connection? c).any p =
      (state.2.connection? c).any p := by
  have hne : c ≠ member.2 := by
    rintro rfl
    exact (List.nodup_cons.mp nodup).1 hc
  rw [connection?_deliver, if_neg hne]

/-- A round counts its members, those that take the envelope and those that do not, as they stand
before it. -/
theorem outcome_offerAll (e : Envelope) (state : Delivery × Hub)
    {members : List (UserId × ConnectionId)} (nodup : (members.map Prod.snd).Nodup) :
    (offerAll e state members).1 =
      ⟨state.1.recipients + members.length,
        state.1.delivered + (members.map Prod.snd).countP state.2.admits,
        state.1.dropped + (members.map Prod.snd).countP fun c => !state.2.admits c⟩ := by
  induction members generalizing state with
  | nil => rfl
  | cons member rest ih =>
      have hsame : ∀ c ∈ rest.map Prod.snd,
          (deliver e member.1 state member.2).2.admits c = state.2.admits c :=
        fun c hc => any_deliver_of_nodup e state nodup Connection.admits hc
      have htook : (rest.map Prod.snd).countP (deliver e member.1 state member.2).2.admits =
          (rest.map Prod.snd).countP state.2.admits :=
        List.countP_congr fun c hc => by rw [hsame c hc]
      have hleft : (rest.map Prod.snd).countP
            (fun c => !(deliver e member.1 state member.2).2.admits c) =
          (rest.map Prod.snd).countP fun c => !state.2.admits c :=
        List.countP_congr fun c hc => by rw [hsame c hc]
      change (offerAll e (deliver e member.1 state member.2) rest).1 = _
      rw [ih _ nodup.of_cons, htook, hleft, deliver_eq, List.map_cons, List.countP_cons,
        List.countP_cons, List.length_cons]
      cases state.2.admits member.2 <;> simp <;> omega

/-- A round notes the members whose queue is full before it, the last of them on top. -/
theorem log_offerAll_eq (e : Envelope) (state : Delivery × Hub)
    {members : List (UserId × ConnectionId)} (nodup : (members.map Prod.snd).Nodup) :
    (offerAll e state members).2.log =
      ((members.filter fun m => state.2.overflows m.2).map fun m =>
        Notice.queueFull m.2 m.1).reverse ++ state.2.log := by
  induction members generalizing state with
  | nil => rfl
  | cons member rest ih =>
      have hsame : ∀ m ∈ rest,
          (deliver e member.1 state member.2).2.overflows m.2 = state.2.overflows m.2 :=
        fun m hm => any_deliver_of_nodup e state nodup Connection.overflows (List.mem_map_of_mem hm)
      have hlog : (deliver e member.1 state member.2).2.log =
          if state.2.overflows member.2 then .queueFull member.2 member.1 :: state.2.log
          else state.2.log := by
        rw [deliver_eq]
        split_ifs <;> simp [enqueue_snd]
      change (offerAll e (deliver e member.1 state member.2) rest).2.log = _
      rw [ih _ nodup.of_cons, List.filter_congr hsame, hlog, List.filter_cons]
      split_ifs
      · rw [List.map_cons, List.reverse_cons, List.append_assoc]
        rfl
      · rfl

/-! ### The connections that are reached -/

/-- Whether an envelope for the listed users comes to a connection: its user is listed, and it is
registered and still held. -/
def reaches (hub : Hub) (users : List UserId) (c : ConnectionId) (conn : Connection) : Bool :=
  conn.user ∈ users && hub.isRegistered c && conn.held

/-- The connections that an envelope for the listed users comes to, each with its id, in the order
of opening. -/
def reached (hub : Hub) (users : List UserId) : List (Connection × ConnectionId) :=
  hub.connections.zipIdx.filter fun m => hub.reaches users m.2 m.1

/-- An envelope comes to the connections there are that it reaches. -/
theorem mem_reached {users : List UserId} {conn : Connection} {c : ConnectionId} :
    (conn, c) ∈ hub.reached users ↔
      hub.connection? c = some conn ∧ hub.reaches users c conn = true := by
  rw [reached, List.mem_filter, List.mem_zipIdx_iff_getElem?]
  rfl

/-- An envelope reaches a registered connection of a listed user that is held. -/
theorem reaches_iff {users : List UserId} {conn : Connection} {c : ConnectionId} :
    hub.reaches users c conn = true ↔
      conn.user ∈ users ∧ hub.isRegistered c = true ∧ conn.held = true := by
  simp only [reaches, Bool.and_eq_true, decide_eq_true_eq, and_assoc]

/-- Only who is listed counts, not how often or where. -/
theorem reaches_congr {users users' : List UserId} (same : ∀ u, u ∈ users' ↔ u ∈ users) :
    hub.reaches users' = hub.reaches users := by
  funext c conn
  simp only [reaches, same]

/-- An envelope comes to no connection twice. -/
theorem nodup_reached (hub : Hub) (users : List UserId) :
    ((hub.reached users).map Prod.snd).Nodup := by
  have hids : (hub.connections.zipIdx.map Prod.snd).Nodup := by
    rw [List.zipIdx_map_snd]
    exact List.nodup_range' 1
  exact hids.sublist (List.filter_sublist.map Prod.snd)

/-- The connections that are met on the way from user to user are those that are reached. -/
theorem Tidy.audience_perm (tidy : hub.Tidy) (users : List UserId) :
    (hub.audience users).Perm ((hub.reached users).map fun m => (m.1.user, m.2)) := by
  have hreached : ((hub.reached users).map fun m => (m.1.user, m.2)).Nodup := by
    refine List.Nodup.of_map Prod.snd ?_
    rw [List.map_map]
    exact nodup_reached hub users
  rw [List.perm_ext_iff_of_nodup ((tidy.nodup_audience users).of_map Prod.snd) hreached]
  rintro ⟨user, c⟩
  rw [tidy.mem_audience_iff, List.mem_map]
  constructor
  · rintro ⟨conn, hconn, rfl, hreached⟩
    exact ⟨(conn, c), mem_reached.mpr ⟨hconn, reaches_iff.mpr hreached⟩, rfl⟩
  · rintro ⟨⟨conn, d⟩, hm, heq⟩
    obtain ⟨rfl, rfl⟩ := Prod.mk.inj heq
    obtain ⟨hconn, hreaches⟩ := mem_reached.mp hm
    exact ⟨conn, hconn, rfl, reaches_iff.mp hreaches⟩

/-! ### The account -/

/-- What it is for an envelope to have been fanned out from a hub to the listed users, where `d`
is the account that is given of it and `later` the hub that is left. -/
structure FannedOut (hub : Hub) (users : List UserId) (e : Envelope) (d : Delivery)
    (later : Hub) : Prop where
  /-- The envelope is offered once to each connection that is reached, and to no other. -/
  once : ∃ members, offerAll e ({}, hub) members = (d, later) ∧
    (members.map Prod.snd).Nodup ∧
    members.Perm ((hub.reached users).map fun m => (m.1.user, m.2))
  recipients : d.recipients = (hub.reached users).length
  delivered : d.delivered = (hub.reached users).countP fun m => m.1.admits
  dropped : d.delivered + d.dropped = d.recipients
  /-- A connection that is reached takes the envelope at the end of its queue, or drops and counts
  it because the queue is full. Any other is as it was, also one that is closed. -/
  connection? : ∀ c, later.connection? c = (hub.connection? c).map fun conn =>
    if hub.reaches users c conn && conn.admits then
      { conn with mailbox := { conn.mailbox with queue := conn.mailbox.queue ++ [e] } }
    else if hub.reaches users c conn && conn.overflows then
      { conn with drops := conn.drops + 1 }
    else conn
  /-- The queues that grew by the envelope are those counted as delivered. -/
  grew : ∀ c, later.queueOf c = hub.queueOf c ++ [e] ↔
    ∃ conn, (conn, c) ∈ hub.reached users ∧ conn.admits = true
  /-- There is one line in the log for each connection that dropped the envelope. -/
  noted : ∃ notices, later.log = notices ++ hub.log ∧
    notices.Perm (((hub.reached users).filter fun m => m.1.overflows).map fun m =>
      Notice.queueFull m.2 m.1.user)
  roster : later.roster = hub.roster

/-- The connections that are reached stand on the hub as they are listed. -/
theorem any_of_mem_reached {users : List UserId} {m : Connection × ConnectionId}
    (hm : m ∈ hub.reached users) (p : Connection → Bool) :
    (hub.connection? m.2).any p = p m.1 := by
  rw [(mem_reached.mp hm).1, Option.any_some]

/-- What becomes of a connection while an envelope is fanned out. -/
theorem Tidy.connection?_fannedOut (tidy : hub.Tidy) (users : List UserId) (e : Envelope)
    (c : ConnectionId) :
    (hub.fanOut users e).2.connection? c = (hub.connection? c).map fun conn =>
      if hub.reaches users c conn && conn.admits then
        { conn with mailbox := { conn.mailbox with queue := conn.mailbox.queue ++ [e] } }
      else if hub.reaches users c conn && conn.overflows then
        { conn with drops := conn.drops + 1 }
      else conn := by
  rw [connection?_fanOut tidy]
  refine congrArg (Option.map · _) (funext fun conn => ?_)
  simp only [← reaches_iff, Connection.enqueue_eq]
  cases hub.reaches users c conn with
  | false => simp
  | true =>
      simp only [Bool.true_and, if_true]
      split_ifs <;> rfl

/-- The queues that grow by the envelope are those of the connections that are reached and have
room for it. -/
theorem Tidy.queueOf_fanOut_iff (tidy : hub.Tidy) (users : List UserId) (e : Envelope)
    (c : ConnectionId) :
    (hub.fanOut users e).2.queueOf c = hub.queueOf c ++ [e] ↔
      ∃ conn, (conn, c) ∈ hub.reached users ∧ conn.admits = true := by
  simp only [mem_reached]
  unfold queueOf
  rw [tidy.connection?_fannedOut]
  cases hub.connection? c with
  | none => simp
  | some conn =>
      simp only [Option.map_some, Option.elim_some, Option.some_inj, and_assoc]
      constructor
      · intro hgrew
        by_cases htook : (hub.reaches users c conn && conn.admits) = true
        · exact ⟨conn, rfl, Bool.and_eq_true_iff.mp htook⟩
        · rw [if_neg htook] at hgrew
          split_ifs at hgrew <;> simp at hgrew
      · rintro ⟨_, rfl, htook⟩
        rw [if_pos (Bool.and_eq_true_iff.mpr htook)]

/-- A tidy hub fans out as it should. -/
theorem Tidy.fannedOut (tidy : hub.Tidy) (users : List UserId) (e : Envelope) :
    FannedOut hub users e (hub.fanOut users e).1 (hub.fanOut users e).2 := by
  have hnodup := tidy.nodup_audience users
  have hperm := tidy.audience_perm users
  have hids : ((hub.audience users).map Prod.snd).Perm ((hub.reached users).map Prod.snd) := by
    have hmap := hperm.map Prod.snd
    rwa [List.map_map] at hmap
  have hlength : (hub.audience users).length = (hub.reached users).length := by
    simpa using hperm.length_eq
  have hfan := fanOut_eq_offerAll hub users e
  have houtcome : (hub.fanOut users e).1 = ⟨_, _, _⟩ := hfan ▸ outcome_offerAll e ({}, hub) hnodup
  have hlog : (hub.fanOut users e).2.log = _ := hfan ▸ log_offerAll_eq e ({}, hub) hnodup
  constructor
  case once => exact ⟨hub.audience users, hfan.symm, hnodup, hperm⟩
  case recipients =>
    rw [houtcome]
    exact (Nat.zero_add _).trans hlength
  case delivered =>
    rw [houtcome]
    refine (Nat.zero_add _).trans ?_
    rw [hids.countP_eq, List.countP_map]
    exact List.countP_congr fun m hm => by rw [Function.comp_apply, admits, any_of_mem_reached hm]
  case dropped =>
    rw [houtcome]
    have hall : ((hub.audience users).map Prod.snd).length = _ :=
      List.length_eq_countP_add_countP hub.admits
    rw [List.length_map] at hall
    simpa using hall.symm
  case connection? => exact tidy.connection?_fannedOut users e
  case grew => exact tidy.queueOf_fanOut_iff users e
  case noted =>
    refine ⟨_, hlog, (List.reverse_perm _).trans ?_⟩
    refine ((hperm.filter _).map _).trans (.of_eq ?_)
    rw [List.filter_map, List.map_map]
    refine congrArg (List.map _) (List.filter_congr fun m hm => ?_)
    exact any_of_mem_reached hm Connection.overflows
  case roster => exact roster_fanOut users e

/-- The account settles all there is to an envelope that is fanned out, but for the order of the
lines in the log; and it knows the users that were listed through membership alone. -/
theorem FannedOut.unique {users users' : List UserId} {e : Envelope} {d d' : Delivery}
    {later later' : Hub} (h : FannedOut hub users e d later)
    (h' : FannedOut hub users' e d' later') (same : ∀ u, u ∈ users' ↔ u ∈ users) :
    d' = d ∧ later'.connections = later.connections ∧ later'.roster = later.roster ∧
      later'.log.Perm later.log := by
  have hreaches : hub.reaches users' = hub.reaches users := reaches_congr same
  have hreached : hub.reached users' = hub.reached users := by
    unfold reached
    rw [hreaches]
  have hrecipients : d'.recipients = d.recipients := by
    rw [h'.recipients, hreached, h.recipients]
  have hdelivered : d'.delivered = d.delivered := by
    rw [h'.delivered, hreached, h.delivered]
  have hdropped : d'.dropped = d.dropped := by
    have hsum := h.dropped
    have hsum' := h'.dropped
    omega
  refine ⟨?_, List.ext_getElem? fun c => ?_, h'.roster.trans h.roster.symm, ?_⟩
  · calc d' = ⟨d'.recipients, d'.delivered, d'.dropped⟩ := rfl
      _ = ⟨d.recipients, d.delivered, d.dropped⟩ := by rw [hrecipients, hdelivered, hdropped]
  · change later'.connection? c = later.connection? c
    rw [h'.connection?, h.connection?, hreaches]
  · obtain ⟨notices, hlog, hnotices⟩ := h.noted
    obtain ⟨notices', hlog', hnotices'⟩ := h'.noted
    rw [hlog, hlog']
    rw [hreached] at hnotices'
    exact (hnotices'.trans hnotices.symm).append_right hub.log

/-- On every hub that a run leads to, an envelope is fanned out as it should: once to each live
registered connection of each listed user, with an account that agrees with what becomes of these,
and the same whatever the order and the repetitions of the users. If the participants cannot be
found out, nothing is offered and only that is noted. -/
theorem fanOut_accounts (events : List HubEvent) (users : List UserId) (e : Envelope) :
    let hub := empty.run events
    FannedOut hub users e (hub.fanOut users e).1 (hub.fanOut users e).2 ∧
      (∀ users', (∀ u, u ∈ users' ↔ u ∈ users) →
        (hub.fanOut users' e).1 = (hub.fanOut users e).1 ∧
          (hub.fanOut users' e).2.connections = (hub.fanOut users e).2.connections ∧
          (hub.fanOut users' e).2.roster = (hub.fanOut users e).2.roster ∧
          (hub.fanOut users' e).2.log.Perm (hub.fanOut users e).2.log) ∧
      ∀ error conversation message,
        hub.broadcast (.error error) conversation message =
          ({}, hub.note (.broadcastDropped error)) := by
  intro hub
  have tidy : hub.Tidy := tidy_empty.run events
  refine ⟨tidy.fannedOut users e, fun users' same => ?_, fun _ _ _ => rfl⟩
  exact (tidy.fannedOut users e).unique (tidy.fannedOut users' e) same

/-- Of five connections of two users, one takes the envelope; one is full, one closed while on the
roster and one without a receiving side; and one that nobody holds is not counted at all. -/
example :
    let hub := empty.run <|
      [1, 1, 2, 2, 2].map (fun user => HubEvent.openFor ⟨user⟩ 1) ++
      (List.range 5).map (HubEvent.handle · .register) ++
      [.enqueue 1 ⟨⟨7⟩, .null⟩, .handle 2 .close, .handle 3 .dropQueue, .handle 4 .release]
    (hub.fanOut [⟨2⟩, ⟨1⟩, ⟨2⟩, ⟨3⟩, ⟨1⟩] ⟨⟨7⟩, .null⟩).1 = ⟨4, 1, 3⟩ := by
  decide +kernel

end Hub

end Parley
