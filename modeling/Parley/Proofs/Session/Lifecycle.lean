import Mathlib.Data.List.Induction
import Parley.Proofs.Hub.Isolation
import Parley.Proofs.Session.Switchboard
import Parley.Web.Routes

/-!
# The life of a session on its hub

Two things are shown of every run of a switchboard (`session_lifecycle`). As long as nobody panics,
a started session is registered exactly until its signal is raised, and until then both its sides
run; so the count of connections that the health report gives is that of the sessions that run. And
a session that is over has left nothing behind, panic of its writer or not: the hub is, to all
others, as if the session had been added and removed and had done nothing in between.

The second is a matter of two runs, one with what concerns the session and one without. They stay
alike to all other sessions (`Alike.own`, `Alike.both`).
-/

namespace Parley

namespace Hub

variable {hub : Hub}

/-- The user of a connection is read off its standing. -/
theorem userOf?_eq_standing? (hub : Hub) (c : ConnectionId) :
    hub.userOf? c = (hub.standing? c).map Standing.user := by
  rw [userOf?, standing?, Option.map_map]
  rfl

end Hub

/-- Whether an event is a step of a session, or something done to its connection alone. -/
def SwitchEvent.concerns (c : ConnectionId) : SwitchEvent → Bool
  | .session id _ => id = c
  | .elsewhere (.handle id _) => id = c
  | .elsewhere (.enqueue id _) => id = c
  | _ => false

namespace Switchboard

/-- Two switchboards that are alike to all sessions but one, which has the same user. -/
structure Alike (c : ConnectionId) (b b' : Switchboard) : Prop where
  sound : b.Sound
  sound' : b'.Sound
  length : b.sessions.length = b'.sessions.length
  sessions : ∀ d, d ≠ c → b.sessions[d]? = b'.sessions[d]?
  standing : ∀ d, d ≠ c → b.hub.standing? d = b'.hub.standing? d
  user : b.hub.userOf? c = b'.hub.userOf? c

namespace Alike

variable {c : ConnectionId} {b b' : Switchboard}

/-- A switchboard is like itself. -/
theorem refl (sound : b.Sound) (c : ConnectionId) : Alike c b b :=
  ⟨sound, sound, rfl, fun _ _ => rfl, fun _ _ => rfl, rfl⟩

/-- Being alike goes both ways. -/
theorem symm (alike : Alike c b b') : Alike c b' b where
  sound := alike.sound'
  sound' := alike.sound
  length := alike.length.symm
  sessions d hd := (alike.sessions d hd).symm
  standing d hd := (alike.standing d hd).symm
  user := alike.user.symm

/-- Being alike is passed on. -/
theorem trans {b'' : Switchboard} (alike : Alike c b b') (alike' : Alike c b' b'') :
    Alike c b b'' where
  sound := alike.sound
  sound' := alike'.sound'
  length := alike.length.trans alike'.length
  sessions d hd := (alike.sessions d hd).trans (alike'.sessions d hd)
  standing d hd := (alike.standing d hd).trans (alike'.standing d hd)
  user := alike.user.trans alike'.user

end Alike

/-- A step of a session changes that session and the standing of its connection, and no user. -/
theorem alike_session {b : Switchboard} (sound : b.Sound) (c : ConnectionId)
    (event : SessionEvent) : Alike c b (b.step (.session c event)) := by
  have after := sound.step (.session c event)
  cases found : b.sessions[c]? with
  | none =>
    rw [step_session_of_none found]
    exact .refl sound c
  | some a =>
    obtain ⟨own, t, hs, -⟩ := sound.each c a found
    obtain ⟨a', l, steps⟩ := a.exists_steps t event
    obtain ⟨sessions, handled⟩ := step_session_of_some sound.tidy found own hs steps
    refine ⟨sound, after, by simp [sessions], fun d hd => ?_, fun d hd => ?_, ?_⟩
    · rw [sessions, List.getElem?_set_ne (Ne.symm hd)]
    · rw [handled.standing, if_neg hd]
    · rw [Hub.userOf?_eq_standing?, Hub.userOf?_eq_standing?, handled.standing, if_pos rfl, hs]
      simp

/-- What becomes of a connection when something happens elsewhere. -/
def metElsewhere (c : ConnectionId) (event : HubEvent) (s : Standing) : Standing :=
  if event.isOutside then (event.moment? c s.user).elim s s.meet else s

/-- What happens elsewhere changes nobody's user. -/
@[simp] theorem user_metElsewhere (c : ConnectionId) (event : HubEvent) (s : Standing) :
    (metElsewhere c event s).user = s.user := by
  unfold metElsewhere
  split
  · cases event.moment? c s.user <;> simp
  · rfl

/-- Every connection meets with what happens elsewhere on its own. -/
theorem standing?_elsewhere {b : Switchboard} (sound : b.Sound) (event : HubEvent)
    (c : ConnectionId) :
    (b.step (.elsewhere event)).hub.standing? c
      = (b.hub.standing? c).map (metElsewhere c event) := by
  unfold step metElsewhere
  by_cases outside : event.isOutside = true
  · simp only [outside, if_true]
    cases hs : b.hub.standing? c with
    | none =>
      have same : (b.hub.after event).connections.length = b.hub.connections.length := by
        apply Hub.length_after sound.tidy
        rintro user capacity rfl
        cases outside
      rw [Option.map_none, Hub.standing?_eq_none_iff, same]
      exact Hub.standing?_eq_none_iff.mp hs
    | some s => exact Hub.standing?_after_of_some sound.tidy hs event
  · simp [outside]

/-- What happens elsewhere changes no session. -/
theorem sessions_elsewhere (b : Switchboard) (event : HubEvent) :
    (b.step (.elsewhere event)).sessions = b.sessions := by
  rw [step]
  split <;> rfl

/-- What happens elsewhere changes no user on the hub. -/
theorem userOf?_elsewhere {b : Switchboard} (sound : b.Sound) (event : HubEvent)
    (c : ConnectionId) : (b.step (.elsewhere event)).hub.userOf? c = b.hub.userOf? c := by
  rw [Hub.userOf?_eq_standing?, Hub.userOf?_eq_standing?, standing?_elsewhere sound, Option.map_map]
  congr 1
  funext s
  exact user_metElsewhere c event s

/-- An event that concerns one connection alone is nothing to any other. -/
theorem metElsewhere_of_concerns {c d : ConnectionId} (hd : d ≠ c) {event : HubEvent}
    (concerns : (SwitchEvent.elsewhere event).concerns c = true) (s : Standing) :
    metElsewhere d event s = s := by
  have nothing : event.moment? d s.user = none := by
    cases event with
    | handle id h =>
      obtain rfl : id = c := by simpa [SwitchEvent.concerns] using concerns
      exact if_neg (Ne.symm hd)
    | enqueue id e =>
      obtain rfl : id = c := by simpa [SwitchEvent.concerns] using concerns
      exact if_neg (Ne.symm hd)
    | _ => cases concerns
  simp [metElsewhere, nothing]

/-- What concerns a session changes that session and how its connection stands, and no user. -/
theorem Alike.own {c : ConnectionId} {b b' : Switchboard} (alike : Alike c b b')
    {event : SwitchEvent} (concerns : event.concerns c = true) : Alike c (b.step event) b' := by
  refine Alike.trans (Alike.symm ?_) alike
  cases event with
  | start user settings now => cases concerns
  | session id event =>
    obtain rfl : id = c := by simpa [SwitchEvent.concerns] using concerns
    exact alike_session alike.sound id event
  | elsewhere event =>
    refine ⟨alike.sound, alike.sound.step _, ?_, fun d _ => ?_, fun d hd => ?_, ?_⟩
    · rw [sessions_elsewhere]
    · rw [sessions_elsewhere]
    · rw [standing?_elsewhere alike.sound]
      have same : metElsewhere d event = id := funext (metElsewhere_of_concerns hd concerns)
      rw [same, Option.map_id_fun, id]
    · rw [userOf?_elsewhere alike.sound]

/-- Switchboards that are alike have opened equally many connections. -/
theorem Alike.hubs {c : ConnectionId} {b b' : Switchboard} (alike : Alike c b b') :
    b.hub.connections.length = b'.hub.connections.length := by
  rw [alike.sound.length, alike.sound'.length, alike.length]

/-- They stay alike when a session is started on both. -/
theorem Alike.start {c : ConnectionId} {b b' : Switchboard} (alike : Alike c b b') (user : UserId)
    (settings : Settings) (now : Duration) :
    Alike c (b.step (.start user settings now)) (b'.step (.start user settings now)) := by
  have session : (Session.start b.hub user settings now).1
      = (Session.start b'.hub user settings now).1 := by
    simp [Session.start, Hub.openFor, alike.hubs]
  refine ⟨alike.sound.step _, alike.sound'.step _, ?_, fun d hd => ?_, fun d hd => ?_, ?_⟩
  · simp [step, alike.length]
  · simp only [step]
    rw [List.getElem?_append, List.getElem?_append, session, alike.length, alike.sessions d hd]
  · rw [standing?_start b alike.sound.tidy, standing?_start b' alike.sound'.tidy, alike.hubs,
      alike.standing d hd]
  · rw [Hub.userOf?_eq_standing?, Hub.userOf?_eq_standing?, standing?_start b alike.sound.tidy,
      standing?_start b' alike.sound'.tidy, alike.hubs]
    split
    · rfl
    · rw [← Hub.userOf?_eq_standing?, ← Hub.userOf?_eq_standing?, alike.user]

/-- They stay alike when another session takes the same step on both. -/
theorem Alike.session {c : ConnectionId} {b b' : Switchboard} (alike : Alike c b b')
    {d : ConnectionId} (hd : d ≠ c) (event : SessionEvent) :
    Alike c (b.step (.session d event)) (b'.step (.session d event)) := by
  have same := alike.sessions d hd
  cases found : b.sessions[d]? with
  | none => rwa [step_session_of_none found, step_session_of_none (same ▸ found)]
  | some a =>
    obtain ⟨own, t, hs, -⟩ := alike.sound.each d a found
    obtain ⟨a', l, steps⟩ := a.exists_steps t event
    obtain ⟨sessions, handled⟩ := step_session_of_some alike.sound.tidy found own hs steps
    obtain ⟨sessions', handled'⟩ := step_session_of_some alike.sound'.tidy (same ▸ found) own
      (alike.standing d hd ▸ hs) steps
    refine ⟨alike.sound.step _, alike.sound'.step _, by simp [sessions, sessions', alike.length],
      fun e he => ?_, fun e he => ?_, ?_⟩
    · rw [sessions, sessions', List.getElem?_set, List.getElem?_set, alike.length,
        alike.sessions e he]
    · rw [handled.standing, handled'.standing, alike.standing d hd, alike.standing e he]
    · rw [Hub.userOf?_eq_standing?, Hub.userOf?_eq_standing?, handled.standing, handled'.standing,
        if_neg (Ne.symm hd), if_neg (Ne.symm hd), ← Hub.userOf?_eq_standing?,
        ← Hub.userOf?_eq_standing?, alike.user]

/-- What does not concern a session is the same on both sides to all others. -/
theorem Alike.both {c : ConnectionId} {b b' : Switchboard} (alike : Alike c b b')
    {event : SwitchEvent} (other : event.concerns c = false) :
    Alike c (b.step event) (b'.step event) := by
  cases event with
  | start user settings now => exact alike.start user settings now
  | session id event =>
    have hd : id ≠ c := by simpa [SwitchEvent.concerns] using other
    exact alike.session hd event
  | elsewhere event =>
    refine ⟨alike.sound.step _, alike.sound'.step _, ?_, fun d hd => ?_, fun d hd => ?_, ?_⟩
    · rw [sessions_elsewhere, sessions_elsewhere, alike.length]
    · rw [sessions_elsewhere, sessions_elsewhere, alike.sessions d hd]
    · rw [standing?_elsewhere alike.sound, standing?_elsewhere alike.sound', alike.standing d hd]
    · rw [userOf?_elsewhere alike.sound, userOf?_elsewhere alike.sound', alike.user]

/-- A run and the run without what concerns a session are alike to all others. -/
theorem Alike.run {c : ConnectionId} {b b' : Switchboard} (alike : Alike c b b')
    (events : List SwitchEvent) :
    Alike c (b.run events) (b'.run (events.filter fun event => !event.concerns c)) := by
  induction events generalizing b b' with
  | nil => exact alike
  | cons event rest ih =>
    cases concerns : event.concerns c with
    | true =>
      rw [List.filter_cons_of_neg (by simp [concerns])]
      exact ih (alike.own concerns)
    | false =>
      rw [List.filter_cons_of_pos (by simp [concerns])]
      exact ih (alike.both concerns)

/-! ### What is read from the roster -/

/-- Two hubs that are alike to all connections but one have the same roster if that one is on
neither. -/
theorem Alike.rosters {c : ConnectionId} {b b' : Switchboard} (alike : Alike c b b')
    (off : b.hub.isRegistered c = false) (off' : b'.hub.isRegistered c = false) :
    (∀ user, (b.hub.roster.idsOf user).Perm (b'.hub.roster.idsOf user)) ∧
      b.hub.connectionCount = b'.hub.connectionCount ∧ b.hub.userCount = b'.hub.userCount := by
  have registered : b.hub.isRegistered = b'.hub.isRegistered := by
    funext d
    by_cases hd : d = c
    · rw [hd, off, off']
    · rw [Hub.isRegistered_eq_standing?, Hub.isRegistered_eq_standing?, alike.standing d hd]
  have users : b.hub.userOf? = b'.hub.userOf? := by
    funext d
    by_cases hd : d = c
    · rw [hd, alike.user]
    · rw [Hub.userOf?_eq_standing?, Hub.userOf?_eq_standing?, alike.standing d hd]
  have ids : b.hub.registered = b'.hub.registered := by
    rw [Hub.registered, Hub.registered, alike.hubs, registered]
  refine ⟨fun user => ?_, ?_, ?_⟩
  · apply (List.perm_ext_iff_of_nodup (Roster.nodup_idsOf alike.sound.tidy.roster user)
      (Roster.nodup_idsOf alike.sound'.tidy.roster user)).mpr
    intro d
    rw [alike.sound.tidy.mem_idsOf_iff, alike.sound'.tidy.mem_idsOf_iff, registered, users]
  · rw [alike.sound.tidy.connectionCount_eq, alike.sound'.tidy.connectionCount_eq, ids]
  · rw [alike.sound.tidy.userCount_eq, alike.sound'.tidy.userCount_eq, Hub.owners, Hub.owners, ids,
      users]

/-! ### Sessions that run -/

/-- Without panics no session has one. -/
theorem sane_run {b : Switchboard} (sound : b.Sound) {events : List SwitchEvent}
    (calm : ∀ event ∈ events, event.isPanic = false)
    (sane : ∀ a ∈ b.sessions, a.readerPanic = false ∧ a.writerPanic = none) :
    ∀ a ∈ (b.run events).sessions, a.readerPanic = false ∧ a.writerPanic = none := by
  induction events generalizing b with
  | nil => exact sane
  | cons event rest ih =>
    refine ih (sound.step event) (fun e he => calm e (List.mem_cons_of_mem _ he)) ?_
    have calmly := calm event List.mem_cons_self
    cases event with
    | start user settings now =>
      intro a inside
      rcases List.mem_append.mp inside with earlier | new
      · exact sane a earlier
      · rw [List.mem_singleton.mp new]
        exact ⟨rfl, rfl⟩
    | elsewhere event =>
      rw [sessions_elsewhere]
      exact sane
    | session id event =>
      cases found : b.sessions[id]? with
      | none =>
        rw [step_session_of_none found]
        exact sane
      | some a =>
        obtain ⟨own, t, hs, -⟩ := sound.each id a found
        obtain ⟨a', l, steps⟩ := a.exists_steps t event
        obtain ⟨sessions, -⟩ := step_session_of_some sound.tidy found own hs steps
        rw [sessions]
        intro a'' inside
        rcases List.mem_or_eq_of_mem_set inside with other | rfl
        · exact sane a'' other
        · obtain ⟨reader, writer⟩ := steps.sane calmly
          rw [reader, writer]
          exact sane a (List.mem_of_getElem? found)

/-- Whether both sides of a session run and its signal is down. -/
def isLive (hub : Hub) (a : Attended) : Bool :=
  a.readerRuns && a.writerRuns && !a.session.isSignalled hub

/-- Counting ids whose items have a property is counting these items. -/
theorem length_filter_range {α : Type} (items : List α) (p : α → Bool) (q : Nat → Bool)
    (same : ∀ i a, items[i]? = some a → q i = p a) :
    ((List.range items.length).filter q).length = items.countP p := by
  induction items using List.reverseRecOn with
  | nil => rfl
  | append_singleton items a ih =>
    have earlier := ih fun i a found => same i a (by
      rw [List.getElem?_append_left (List.getElem?_eq_some_iff.mp found).1, found])
    have last := same items.length a List.getElem?_concat_length
    rw [List.length_append, List.length_singleton, List.range_succ, List.filter_append,
      List.length_append, earlier, List.countP_append, List.countP_singleton, List.filter_singleton,
      last]
    cases p a <;> rfl

/-- A session without panics is registered exactly until its signal is raised, and both its sides
run until then. -/
theorem Sound.registered_iff {b : Switchboard} (sound : b.Sound) {c : ConnectionId} {a : Attended}
    (found : b.sessions[c]? = some a) (sane : a.readerPanic = false ∧ a.writerPanic = none) :
    (b.hub.isRegistered c = true ↔ a.session.isSignalled b.hub = false) ∧
      (b.hub.isRegistered c = true → a.readerRuns = true ∧ a.writerRuns = true) := by
  obtain ⟨own, t, hs, fits⟩ := sound.each c a found
  have registered : b.hub.isRegistered c = t.registered := by
    rw [Hub.isRegistered_eq_standing?, hs]
    rfl
  have signal : a.session.isSignalled b.hub = t.connection.isClosed :=
    a.session.isSignalled_eq (own ▸ hs : b.hub.standing? a.connection = some t)
  rw [registered, signal]
  refine ⟨fits.registered, fun on => ?_⟩
  have down := fits.registered.mp on
  have inbound : a.session.inbound = none := by
    by_contra ended
    rw [fits.inbound (Option.isSome_iff_ne_none.mpr ended)] at down
    cases down
  have outbound : a.session.outbound = none := by
    by_contra ended
    rw [fits.outbound (Option.isSome_iff_ne_none.mpr ended)] at down
    cases down
  exact ⟨by simp [Attended.readerRuns, inbound, sane.1],
    by simp [Attended.writerRuns, outbound, sane.2]⟩

/-- The connections counted by the hub are the sessions that are live. -/
theorem Sound.connectionCount_eq {b : Switchboard} (sound : b.Sound)
    (sane : ∀ a ∈ b.sessions, a.readerPanic = false ∧ a.writerPanic = none) :
    b.hub.connectionCount = b.sessions.countP (isLive b.hub) := by
  rw [sound.tidy.connectionCount_eq, Hub.registered, sound.length]
  apply length_filter_range
  intro c a found
  obtain ⟨signal, running⟩ := sound.registered_iff found (sane a (List.mem_of_getElem? found))
  cases on : b.hub.isRegistered c with
  | true => simp [isLive, running on, signal.mp on]
  | false =>
    have raised : a.session.isSignalled b.hub = true := by
      rw [← Bool.not_eq_false, ← signal, on]
      decide
    simp [isLive, raised]

/-- The connection of a session that is over is closed and off the roster. -/
theorem Sound.gone_of_isOver {b : Switchboard} (sound : b.Sound) {c : ConnectionId} {a : Attended}
    (found : b.sessions[c]? = some a) (ended : a.session.isOver = true) :
    b.hub.isClosed c = true ∧ b.hub.isRegistered c = false := by
  obtain ⟨-, t, hs, fits⟩ := sound.each c a found
  have closed := fits.inbound (fits.isOver ended).1
  rw [Hub.isClosed_eq_standing?, Hub.isRegistered_eq_standing?, hs]
  refine ⟨closed, Bool.eq_false_iff.mpr fun on => ?_⟩
  rw [fits.registered.mp on] at closed
  cases closed

/-- The life of sessions on a hub, in any number and in any order of their steps.

Every session attends the connection of its id. If nobody panics, it is registered exactly until the
signal of its connection is raised, and both its sides run until then; so the connections counted by
the hub and its health report are the sessions that are live. And in every run the connection of a
session that is over is closed and off the roster, and to all other sessions, and to all who read
the roster, the hub is as if this one had been added and removed and nothing more. -/
theorem session_lifecycle (events : List SwitchEvent) :
    let b := empty.run events
    (∀ (c : ConnectionId) (a : Attended), b.sessions[c]? = some a → a.connection = c) ∧
    ((∀ event ∈ events, event.isPanic = false) →
      (∀ c a, b.sessions[c]? = some a →
        (b.hub.isRegistered c = true ↔ a.session.isSignalled b.hub = false) ∧
        (b.hub.isRegistered c = true → a.readerRuns = true ∧ a.writerRuns = true)) ∧
      b.hub.connectionCount = b.sessions.countP (isLive b.hub) ∧
      Web.Site.healthReport b.hub = Web.Response.json .ok (.object
        [("connections", .integer (b.sessions.countP (isLive b.hub))), ("status", .text "healthy"),
          ("users", .integer b.hub.userCount)])) ∧
    ∀ c a, b.sessions[c]? = some a → a.session.isOver = true →
      let alone := empty.run
        (events.filter (fun event => !event.concerns c) ++ [.elsewhere (.handle c .unregister)])
      b.hub.isClosed c = true ∧ b.hub.isRegistered c = false ∧
      (∀ d, d ≠ c → b.sessions[d]? = alone.sessions[d]? ∧
        b.hub.standing? d = alone.hub.standing? d) ∧
      (∀ user, (b.hub.roster.idsOf user).Perm (alone.hub.roster.idsOf user)) ∧
      b.hub.connectionCount = alone.hub.connectionCount ∧
      b.hub.userCount = alone.hub.userCount := by
  intro b
  have sound : b.Sound := sound_empty.run events
  refine ⟨fun c a found => (sound.each c a found).1, fun calm => ?_, fun c a found ended => ?_⟩
  · have sane := sane_run sound_empty calm (by simp [empty])
    have count := sound.connectionCount_eq sane
    refine ⟨fun c a found => ?_, count, ?_⟩
    · exact sound.registered_iff found (sane a (List.mem_of_getElem? found))
    · rw [Web.Site.healthReport, count]
  · obtain ⟨closed, off⟩ := sound.gone_of_isOver found ended
    have removal : (SwitchEvent.elsewhere (.handle c .unregister)).concerns c = true := by
      simp [SwitchEvent.concerns]
    have alike := ((Alike.refl sound_empty c).run events).symm.own removal
    intro alone
    have aloneEq : alone = ((empty.run (events.filter fun event => !event.concerns c)).step
        (.elsewhere (.handle c .unregister))) := by
      simp [alone, run]
    rw [← aloneEq] at alike
    have offAlone : alone.hub.isRegistered c = false := by
      rw [aloneEq]
      exact Hub.isRegistered_unregister_self
        (sound_empty.run (events.filter fun event => !event.concerns c)).tidy c
    exact ⟨closed, off, fun d hd => ⟨alike.symm.sessions d hd, alike.symm.standing d hd⟩,
      alike.symm.rosters off offAlone⟩

end Switchboard

end Parley
