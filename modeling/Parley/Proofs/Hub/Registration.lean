import Mathlib.Data.List.Induction
import Parley.Proofs.Hub.Isolation

/-!
# The life cycle of registrations

After any run of the hub the roster, the counts and the log tell the same story
(`registry_lifecycle`). Whether a connection is registered can be read off its life: it was
registered while its closed signal was not raised, and not unregistered since
(`registered_standing_iff`). The roster holds every registered connection once and under its own
user, so what is counted on it are the registered connections and their users.

`Hub.Booked` is the invariant that ties the log to the roster. A connection is noted as registered
at most once, because it is noted only while it is open, and once it was unregistered it is not.
-/

namespace Parley

/-! ### Registration in the life of a connection -/

/-- Whether the closed signal is raised in a moment. -/
def Moment.raisesSignal : Moment → Bool
  | .handled .unregister | .handled .close | .handled .markClosed => true
  | _ => false

namespace Standing

/-- The closed signal is raised in certain moments and stays raised. -/
theorem isClosed_meet (s : Standing) (m : Moment) :
    (s.meet m).connection.isClosed = (s.connection.isClosed || m.raisesSignal) := by
  have enqueued : ∀ e, (s.connection.enqueue e).2.isClosed = s.connection.isClosed := by
    intro e
    exact (s.connection.enqueue_frame e).2.2.2
  cases m with
  | handled h =>
      cases h with
      | receive =>
          simp only [meet, Connection.handled, Connection.dequeue_eq]
          cases s.connection.mailbox.queue <;> exact (Bool.or_false _).symm
      | unregister | close =>
          exact s.connection.isClosed_close.trans (Bool.or_true _).symm
      | markClosed => exact (Bool.or_true _).symm
      | _ => exact (Bool.or_false _).symm
  | enqueued e => exact (enqueued e).trans (Bool.or_false _).symm
  | offered e =>
      refine Eq.trans ?_ (Bool.or_false _).symm
      unfold meet
      split_ifs
      · exact enqueued e
      · rfl

/-- The closed signal is raised once any of the moments raises it. -/
theorem isClosed_foldl (s : Standing) (moments : List Moment) :
    (moments.foldl meet s).connection.isClosed =
      (s.connection.isClosed || moments.any Moment.raisesSignal) := by
  induction moments generalizing s with
  | nil => exact (Bool.or_false _).symm
  | cons m rest ih => rw [List.foldl_cons, ih, isClosed_meet, List.any_cons, Bool.or_assoc]

/-- Whether a connection is registered changes when it is registered or unregistered, and at no
other moment. -/
theorem registered_meet (s : Standing) (m : Moment) :
    (s.meet m).registered = true ↔
      (s.registered = true ∧ m ≠ .handled .unregister) ∨
        (m = .handled .register ∧ s.connection.isClosed = false) := by
  cases m with
  | handled h => cases h <;> simp [meet, registeredAfter]
  | enqueued e => simp [meet]
  | offered e =>
      unfold meet
      split_ifs <;> simp

/-- Once closed and off the roster, a connection stays off it. -/
theorem registered_foldl_of_closed {s : Standing} (closed : s.connection.isClosed = true)
    (off : s.registered = false) (moments : List Moment) :
    (moments.foldl meet s).registered = false := by
  induction moments generalizing s with
  | nil => exact off
  | cons m rest ih =>
      apply ih
      · rw [isClosed_meet, closed, Bool.true_or]
      · rw [Bool.eq_false_iff, Ne, registered_meet, off, closed]
        simp

end Standing

/-- A life in which the connection was registered before its closed signal was raised, and was not
unregistered since. -/
def Life.Enrolled (life : Life) : Prop :=
  ∃ before since, life.moments = before ++ .handled .register :: since ∧
    (∀ m ∈ before, m.raisesSignal = false) ∧ .handled .unregister ∉ since

/-- A connection is registered exactly when its life says so. The induction is on the moments from
the last one back, since that one decides. -/
theorem registered_standing_iff (life : Life) :
    life.standing.registered = true ↔ life.Enrolled := by
  obtain ⟨user, capacity, moments⟩ := life
  unfold Life.standing Life.Enrolled
  induction moments using List.reverseRecOn with
  | nil => simp [Standing.new]
  | append_singleton moments m ih =>
      have hclosed : (moments.foldl Standing.meet (.new user capacity)).connection.isClosed = false
          ↔ ∀ m ∈ moments, m.raisesSignal = false := by
        rw [Standing.isClosed_foldl]
        simp [Standing.new, Connection.new, Connection.isClosed]
      rw [List.foldl_append, List.foldl_cons, List.foldl_nil, Standing.registered_meet, ih,
        hclosed]
      constructor
      · rintro (⟨⟨before, since, rfl, hbefore, hsince⟩, hm⟩ | ⟨rfl, hopen⟩)
        · refine ⟨before, since ++ [m], by simp, hbefore, ?_⟩
          rw [List.mem_append, List.mem_singleton]
          exact not_or.mpr ⟨hsince, Ne.symm hm⟩
        · exact ⟨moments, [], rfl, hopen, List.not_mem_nil⟩
      · rintro ⟨before, since, heq, hbefore, hsince⟩
        rcases List.eq_nil_or_concat since with rfl | ⟨since, last, rfl⟩
        · obtain ⟨rfl, hm⟩ := List.append_inj' heq rfl
          exact Or.inr ⟨List.singleton_inj.mp hm, hbefore⟩
        · rw [List.concat_eq_append] at heq hsince
          have hsplit : moments ++ [m] = (before ++ .handled .register :: since) ++ [last] :=
            heq.trans (by simp)
          obtain ⟨rfl, hm⟩ := List.append_inj' hsplit rfl
          obtain rfl := List.singleton_inj.mp hm
          rw [List.mem_append, List.mem_singleton, not_or] at hsince
          exact Or.inl ⟨⟨before, since, rfl, hbefore, hsince.1⟩, Ne.symm hsince.2⟩

namespace Hub

variable {hub : Hub}

/-! ### What is counted -/

/-- The registered connections, in the order of opening. -/
def registered (hub : Hub) : List ConnectionId :=
  (List.range hub.connections.length).filter hub.isRegistered

/-- The users who have registered connections, each once. -/
def owners (hub : Hub) : List UserId :=
  (hub.registered.filterMap hub.userOf?).eraseDups

/-- Those listed as registered are those on the roster. -/
theorem mem_registered {c : ConnectionId} : c ∈ hub.registered ↔ hub.isRegistered c = true := by
  rw [registered, List.mem_filter, List.mem_range]
  refine ⟨And.right, fun h => ⟨?_, h⟩⟩
  by_contra hge
  have hnone : hub.connection? c = none := connection?_eq_none_iff.mpr (Nat.le_of_not_lt hge)
  rw [isRegistered, hnone] at h
  exact absurd h (by simp)

/-- No connection is listed as registered twice. -/
theorem nodup_registered (hub : Hub) : hub.registered.Nodup :=
  List.nodup_range.filter _

/-- No user is listed as an owner twice. -/
theorem nodup_owners (hub : Hub) : hub.owners.Nodup :=
  nodup_eraseDups _

/-- On a tidy roster an entry lists the registered connections of its user. -/
theorem Tidy.mem_entry_iff (tidy : hub.Tidy) {entry : UserId × List ConnectionId}
    (hentry : entry ∈ hub.roster.entries) {c : ConnectionId} :
    c ∈ entry.2 ↔ hub.isRegistered c = true ∧ hub.userOf? c = some entry.1 := by
  rw [← tidy.mem_idsOf_iff, Roster.idsOf_of_mem tidy.roster hentry]

/-- The connections on a tidy roster are the registered ones. -/
theorem Tidy.mem_flatMap_entries_iff (tidy : hub.Tidy) {c : ConnectionId} :
    c ∈ hub.roster.entries.flatMap Prod.snd ↔ hub.isRegistered c = true := by
  rw [List.mem_flatMap]
  constructor
  · rintro ⟨entry, hentry, hc⟩
    exact ((tidy.mem_entry_iff hentry).mp hc).1
  · intro hreg
    obtain ⟨user, -, hmem⟩ := isRegistered_iff.mp hreg
    exact ⟨_, Roster.mem_entries_of_mem_idsOf hmem, hmem⟩

/-- No connection stands twice on a tidy roster: not in one entry, and not in the entries of two
users, as it has only one. -/
theorem Tidy.nodup_flatMap_entries (tidy : hub.Tidy) :
    (hub.roster.entries.flatMap Prod.snd).Nodup := by
  rw [List.nodup_flatMap]
  refine ⟨tidy.roster.once, ?_⟩
  have users := List.pairwise_map.mp tidy.roster.users
  refine users.imp_of_mem fun {a b} ha hb hne => ?_
  intro c hca hcb
  have huser := ((tidy.mem_entry_iff ha).mp hca).2
  rw [((tidy.mem_entry_iff hb).mp hcb).2, Option.some_inj] at huser
  exact hne huser.symm

/-- The users on a tidy roster are those with registered connections. -/
theorem Tidy.mem_users_iff (tidy : hub.Tidy) {user : UserId} :
    user ∈ hub.roster.entries.map Prod.fst ↔ user ∈ hub.owners := by
  rw [owners, List.mem_eraseDups, List.mem_map, List.mem_filterMap]
  constructor
  · rintro ⟨entry, hentry, rfl⟩
    obtain ⟨c, hc⟩ := List.exists_mem_of_ne_nil _ (tidy.roster.occupied entry hentry)
    obtain ⟨hreg, huser⟩ := (tidy.mem_entry_iff hentry).mp hc
    exact ⟨c, mem_registered.mpr hreg, huser⟩
  · rintro ⟨c, hc, huser⟩
    obtain ⟨u, hu, hmem⟩ := isRegistered_iff.mp (mem_registered.mp hc)
    rw [huser, Option.some_inj] at hu
    exact ⟨_, Roster.mem_entries_of_mem_idsOf hmem, hu.symm⟩

/-- On a tidy hub the count of connections is that of the registered ones. -/
theorem Tidy.connectionCount_eq (tidy : hub.Tidy) :
    hub.connectionCount = hub.registered.length := by
  rw [connectionCount, Roster.connectionCount_eq_length]
  apply List.Perm.length_eq
  apply (List.perm_ext_iff_of_nodup tidy.nodup_flatMap_entries hub.nodup_registered).mpr
  intro c
  rw [tidy.mem_flatMap_entries_iff, mem_registered]

/-- On a tidy hub the count of users is that of the owners of registered connections. -/
theorem Tidy.userCount_eq (tidy : hub.Tidy) : hub.userCount = hub.owners.length := by
  rw [userCount, Roster.userCount, ← List.length_map (f := Prod.fst)]
  apply List.Perm.length_eq
  apply (List.perm_ext_iff_of_nodup tidy.roster.users hub.nodup_owners).mpr
  intro user
  exact tidy.mem_users_iff

end Hub

/-! ### What is noted -/

namespace Notice

/-- Whether a notice says that a connection was registered. -/
def registers (c : ConnectionId) : Notice → Bool
  | .registered d _ => d = c
  | _ => false

/-- Whether a notice says that a connection was unregistered. -/
def unregisters (c : ConnectionId) : Notice → Bool
  | .unregistered d _ _ => d = c
  | _ => false

/-- Whether a notice says that some connection was registered. -/
def isRegistration : Notice → Bool
  | .registered _ _ => true
  | _ => false

/-- Whether a notice says that some connection was unregistered. -/
def isUnregistration : Notice → Bool
  | .unregistered _ _ _ => true
  | _ => false

/-- Whether a notice is about something other than registrations. -/
def isQuiet (n : Notice) : Bool :=
  !n.isRegistration && !n.isUnregistration

/-- Quiet notices count for nothing. -/
theorem countP_quiet {p : Notice → Bool} (hp : ∀ n, n.isQuiet = true → p n = false)
    {notices : List Notice} (quiet : ∀ n ∈ notices, n.isQuiet = true) (log : List Notice) :
    (notices ++ log).countP p = log.countP p := by
  rw [List.countP_append, List.countP_eq_zero.mpr, Nat.zero_add]
  intro n hn
  simp [hp n (quiet n hn)]

/-- A quiet notice registers nobody. -/
theorem registers_of_quiet (c : ConnectionId) (n : Notice) (h : n.isQuiet = true) :
    n.registers c = false := by
  cases n with
  | registered _ _ => exact absurd h (by simp [isQuiet, isRegistration])
  | _ => rfl

/-- A quiet notice unregisters nobody. -/
theorem unregisters_of_quiet (c : ConnectionId) (n : Notice) (h : n.isQuiet = true) :
    n.unregisters c = false := by
  cases n with
  | unregistered _ _ _ => exact absurd h (by simp [isQuiet, isRegistration, isUnregistration])
  | _ => rfl

/-- A quiet notice is no registration. -/
theorem isRegistration_of_quiet (n : Notice) (h : n.isQuiet = true) :
    n.isRegistration = false := by
  rw [isQuiet, Bool.and_eq_true, Bool.not_eq_true', Bool.not_eq_true'] at h
  exact h.1

/-- A quiet notice is no unregistration. -/
theorem isUnregistration_of_quiet (n : Notice) (h : n.isQuiet = true) :
    n.isUnregistration = false := by
  rw [isQuiet, Bool.and_eq_true, Bool.not_eq_true', Bool.not_eq_true'] at h
  exact h.2

end Notice

namespace Hub

variable {hub : Hub}

/-- Whether the closed signal of a connection is raised. -/
def isClosed (hub : Hub) (c : ConnectionId) : Bool :=
  (hub.connection? c).any Connection.isClosed

/-- A hub whose log agrees with its roster: it notes one registration more than unregistrations
for every registered connection and equally many for every other, at most one registration of
each, and an unregistration of none that is open. -/
structure Booked (hub : Hub) : Prop where
  total : hub.connectionCount + hub.log.countP Notice.isUnregistration =
    hub.log.countP Notice.isRegistration
  each : ∀ c, (hub.isRegistered c).toNat + hub.log.countP (Notice.unregisters c) =
    hub.log.countP (Notice.registers c)
  once : ∀ c, hub.log.countP (Notice.registers c) ≤ 1
  closed : ∀ c, hub.isClosed c = false → hub.log.countP (Notice.unregisters c) = 0

/-- On the empty hub log and roster agree. -/
theorem booked_empty : Booked empty :=
  ⟨rfl, fun _ => rfl, fun _ => Nat.zero_le 1, fun _ _ => rfl⟩

/-- Whether the closed signal is raised is read off the standing. -/
theorem isClosed_eq_standing? (hub : Hub) (c : ConnectionId) :
    hub.isClosed c = (hub.standing? c).any fun s => s.connection.isClosed := by
  rw [isClosed, standing?, Option.any_map]

/-- A closed signal stays raised. -/
theorem isClosed_after (tidy : hub.Tidy) {c : ConnectionId} (closed : hub.isClosed c = true)
    (event : HubEvent) : (hub.after event).isClosed c = true := by
  rw [isClosed_eq_standing?] at closed ⊢
  obtain ⟨s, hs, hclosed⟩ := (Option.any_eq_true _ _).mp closed
  rw [standing?_after_of_some tidy hs]
  cases event.moment? c s.user with
  | none => exact hclosed
  | some m => simp [Standing.isClosed_meet, hclosed]

/-- A log that agrees with the roster still does when quiet notices are added and the roster
stays. -/
theorem Booked.of_quiet (booked : hub.Booked) {hub' : Hub} (notices : List Notice)
    (log : hub'.log = notices ++ hub.log) (quiet : ∀ n ∈ notices, n.isQuiet = true)
    (roster : hub'.roster = hub.roster)
    (registered : ∀ c, hub'.isRegistered c = hub.isRegistered c)
    (closed : ∀ c, hub.isClosed c = true → hub'.isClosed c = true) : hub'.Booked where
  total := by
    rw [connectionCount, roster, log, Notice.countP_quiet Notice.isUnregistration_of_quiet quiet,
      Notice.countP_quiet Notice.isRegistration_of_quiet quiet]
    exact booked.total
  each c := by
    rw [registered, log, Notice.countP_quiet (Notice.unregisters_of_quiet c) quiet,
      Notice.countP_quiet (Notice.registers_of_quiet c) quiet]
    exact booked.each c
  once c := by
    rw [log, Notice.countP_quiet (Notice.registers_of_quiet c) quiet]
    exact booked.once c
  closed c hc := by
    rw [log, Notice.countP_quiet (Notice.unregisters_of_quiet c) quiet]
    refine booked.closed c (Bool.eq_false_iff.mpr fun h => ?_)
    rw [closed c h] at hc
    exact absurd hc (by simp)

/-- Handling notes nothing unless it registers or unregisters. -/
theorem log_handle (id : ConnectionId) {h : Handling} (hr : h ≠ .register)
    (hu : h ≠ .unregister) : (hub.handle id h).log = hub.log := by
  cases h with
  | register => exact absurd rfl hr
  | unregister => exact absurd rfl hu
  | receive =>
      rw [handle, dequeue_eq]
      cases hub.connection? id with
      | none => rfl
      | some conn =>
          simp only [Option.bind_some]
          cases conn.dequeue <;> rfl
  | _ => rfl

/-- A registration is booked: the connection was not registered, and as it is open no
unregistration of it was noted, so none of its registrations was either. -/
theorem Booked.register (booked : hub.Booked) (id : ConnectionId) :
    (hub.register id).Booked := by
  rcases register_cases hub id with ⟨h, -⟩ | ⟨conn, hconn, hopen, hoff, h, hnew⟩
  · rwa [h]
  · have hclosed : ∀ c, (hub.register id).isClosed c = hub.isClosed c := by
      intro c
      rw [isClosed, connection?_register, isClosed]
    have hisopen : hub.isClosed id = false := by simp [isClosed, hconn, hopen]
    have hlog : (hub.register id).log = .registered id conn.user :: hub.log := by rw [h]
    have hnone : hub.log.countP (Notice.registers id) = 0 := by
      rw [← booked.each id, hoff, booked.closed id hisopen]
      rfl
    refine ⟨?_, fun c => ?_, fun c => ?_, fun c hc => ?_⟩
    · have hcount : (hub.register id).connectionCount = hub.connectionCount + 1 := by
        rw [h, connectionCount, Roster.connectionCount_insert, hnew]
        rfl
      rw [hcount, hlog, List.countP_cons, List.countP_cons, ← booked.total]
      simp only [Notice.isUnregistration, Notice.isRegistration]
      simp
      omega
    · rw [hlog, List.countP_cons, List.countP_cons, ← booked.each c]
      by_cases hc : c = id
      · have hreg : (hub.register id).isRegistered c = true :=
          (isRegistered_register id c).mpr (Or.inr ⟨hc, conn, hc ▸ hconn, hopen⟩)
        rw [hreg, hc, hoff]
        simp [Notice.registers, Notice.unregisters]
        omega
      · rw [isRegistered_register_of_ne hc]
        simp [Notice.registers, Notice.unregisters, Ne.symm hc]
    · rw [hlog, List.countP_cons]
      by_cases hc : c = id
      · rw [hc, hnone]
        split_ifs <;> simp
      · have := booked.once c
        simp [Notice.registers, Ne.symm hc, this]
    · rw [hclosed] at hc
      rw [hlog, List.countP_cons, booked.closed c hc]
      simp [Notice.unregisters]

/-- An unregistration is booked if the connection was registered, and closes it. -/
theorem Booked.unregister (booked : hub.Booked) (tidy : hub.Tidy) (id : ConnectionId) :
    (hub.unregister id).Booked := by
  have hopen : ∀ c, (hub.unregister id).isClosed c = false → hub.isClosed c = false := by
    intro c hc
    rw [Bool.eq_false_iff] at hc ⊢
    exact fun h => hc (isClosed_after tidy h (.handle id .unregister))
  rcases unregister_cases hub id with ⟨hoff, h⟩ | ⟨conn, hconn, hreg, h, hwas⟩
  · have hsame : ∀ c, (hub.unregister id).isRegistered c = hub.isRegistered c :=
      fun c => isRegistered_congr (by rw [h]; rfl) (userOf?_unregister id c)
    refine booked.of_quiet [] ?_ (fun _ hn => absurd hn List.not_mem_nil) ?_ hsame
      (fun c hc => isClosed_after tidy hc (.handle id .unregister))
    · rw [h]
      rfl
    · rw [h]
      rfl
  · have hlog : (hub.unregister id).log = .unregistered id conn.user conn.dropped :: hub.log := by
      rw [h]
    -- being registered, it was noted so once, and has not been unregistered since
    have hone : hub.log.countP (Notice.registers id) = 1 ∧
        hub.log.countP (Notice.unregisters id) = 0 := by
      have heach := booked.each id
      have honce := booked.once id
      rw [hreg, Bool.toNat_true] at heach
      omega
    refine ⟨?_, fun c => ?_, fun c => ?_, fun c hc => ?_⟩
    · have hcount : (hub.unregister id).connectionCount + 1 = hub.connectionCount := by
        have := Roster.connectionCount_remove hub.roster conn.user id
        rw [hwas, Bool.toNat_true] at this
        rw [h]
        exact this
      have htotal := booked.total
      rw [hlog, List.countP_cons, List.countP_cons]
      simp only [Notice.isUnregistration, Notice.isRegistration, Bool.false_eq_true, if_true,
        if_false]
      omega
    · rw [hlog, List.countP_cons, List.countP_cons]
      by_cases hc : c = id
      · rw [hc, isRegistered_unregister_self tidy, hone.1, hone.2]
        simp [Notice.registers, Notice.unregisters]
      · rw [isRegistered_unregister_of_ne tidy hc, ← booked.each c]
        simp [Notice.registers, Notice.unregisters, Ne.symm hc]
    · rw [hlog, List.countP_cons]
      simpa [Notice.registers] using booked.once c
    · have hne : c ≠ id := by
        rintro rfl
        rw [isClosed, connection?_unregister, if_pos rfl, hconn] at hc
        simp at hc
      rw [hlog, List.countP_cons, booked.closed c (hopen c hc)]
      simp [Notice.unregisters, Ne.symm hne]

/-- Every event is booked. -/
theorem Booked.after (booked : hub.Booked) (tidy : hub.Tidy) (event : HubEvent) :
    (hub.after event).Booked := by
  have closed := fun c (hc : hub.isClosed c = true) => isClosed_after tidy hc event
  have nothing : ∀ n ∈ ([] : List Notice), n.isQuiet = true :=
    fun _ hn => absurd hn List.not_mem_nil
  have full : ∀ {notices : List Notice}, (∀ n ∈ notices, ∃ id user, n = .queueFull id user) →
      ∀ n ∈ notices, n.isQuiet = true := by
    intro notices hfull n hn
    obtain ⟨id, user, rfl⟩ := hfull n hn
    rfl
  cases event with
  | openFor user capacity =>
      exact booked.of_quiet [] rfl nothing rfl (isRegistered_openFor tidy user capacity) closed
  | handle id h =>
      by_cases hr : h = .register
      · exact hr ▸ booked.register id
      · by_cases hu : h = .unregister
        · exact hu ▸ booked.unregister tidy id
        · exact booked.of_quiet [] (log_handle id hr hu) nothing
            (roster_handle id hr hu) (fun c => isRegistered_handle_of_ne id c hr hu) closed
  | enqueue id e =>
      refine booked.of_quiet [] ?_ nothing ?_ (fun c => isRegistered_enqueue id c e)
        closed
      · rw [Hub.after, enqueue_snd]
        rfl
      · rw [Hub.after, enqueue_snd]
        rfl
  | fanOut users e =>
      obtain ⟨notices, hlog, hfull⟩ := log_fanOut hub users e
      exact booked.of_quiet notices hlog (full hfull) (roster_fanOut users e)
        (isRegistered_fanOut tidy users e) closed
  | broadcast participants conversation message =>
      cases participants with
      | error e =>
          refine booked.of_quiet [.broadcastDropped e] rfl ?_ rfl (fun _ => rfl) closed
          exact List.forall_mem_singleton.mpr rfl
      | ok users =>
          obtain ⟨notices, hlog, hfull⟩ :=
            log_fanOut hub users (.newMessage conversation message)
          exact booked.of_quiet notices hlog (full hfull) (roster_fanOut users _)
            (isRegistered_fanOut tidy users _) closed

/-- Every run is booked. -/
theorem Booked.run (booked : hub.Booked) (tidy : hub.Tidy) (events : List HubEvent) :
    (hub.run events).Booked := by
  induction events generalizing hub with
  | nil => exact booked
  | cons event rest ih => exact ih (booked.after tidy event) (tidy.after event)

/-- A connection that is closed and off the roster does not come back onto it. -/
theorem isRegistered_run_of_closed (tidy : hub.Tidy) {c : ConnectionId}
    (closed : hub.isClosed c = true) (off : hub.isRegistered c = false)
    (events : List HubEvent) : (hub.run events).isRegistered c = false := by
  rw [isClosed_eq_standing?] at closed
  obtain ⟨s, hs, hclosed⟩ := (Option.any_eq_true _ _).mp closed
  rw [isRegistered_eq_standing?, hs] at off
  rw [isRegistered_eq_standing?, (run_of_some tidy hs events).1]
  exact Standing.registered_foldl_of_closed hclosed off _

end Hub

/-- **The life cycle of registrations.** After every run of the hub

* every user on the roster has a connection there, every connection stands on it once, and only
  under its own user;
* a connection is registered exactly if it was registered before its closed signal was first
  raised and was not unregistered since, and one that is closed and off the roster stays off it,
  whatever happens later;
* what is counted are the registered connections, dropped ones included, and the users who own
  them;
* the registrations noted exceed the unregistrations noted by the number of connections, and there
  is at most one of each for any connection. -/
theorem registry_lifecycle (events : List HubEvent) :
    let hub := Hub.empty.run events
    ((∀ entry ∈ hub.roster.entries, entry.2 ≠ []) ∧
      (hub.roster.entries.map Prod.fst).Nodup ∧
      (hub.roster.entries.flatMap Prod.snd).Nodup ∧
      ∀ entry ∈ hub.roster.entries, ∀ c ∈ entry.2, hub.userOf? c = some entry.1) ∧
    ((∀ c, hub.isRegistered c = true ↔ ∃ life, life? c events = some life ∧ life.Enrolled) ∧
      ∀ c, hub.isClosed c = true → hub.isRegistered c = false →
        ∀ later, (hub.run later).isRegistered c = false) ∧
    (hub.connectionCount = hub.registered.length ∧ hub.userCount = hub.owners.length) ∧
    (hub.connectionCount + hub.log.countP Notice.isUnregistration =
        hub.log.countP Notice.isRegistration ∧
      ∀ c, hub.log.countP (Notice.registers c) ≤ 1 ∧
        hub.log.countP (Notice.unregisters c) ≤ 1) := by
  intro hub
  have tidy : hub.Tidy := Hub.tidy_empty.run events
  have booked : hub.Booked := Hub.booked_empty.run Hub.tidy_empty events
  refine ⟨⟨tidy.roster.occupied, tidy.roster.users, tidy.nodup_flatMap_entries, ?_⟩, ⟨?_, ?_⟩,
    ⟨tidy.connectionCount_eq, tidy.userCount_eq⟩, booked.total, fun c => ⟨booked.once c, ?_⟩⟩
  · intro entry hentry c hc
    exact ((tidy.mem_entry_iff hentry).mp hc).2
  · intro c
    rw [Hub.isRegistered_eq_standing?, Hub.standing?_run]
    cases life? c events with
    | none => simp
    | some life => simpa using registered_standing_iff life
  · intro c closed off later
    exact Hub.isRegistered_run_of_closed tidy closed off later
  · have heach := booked.each c
    have honce := booked.once c
    omega

end Parley
