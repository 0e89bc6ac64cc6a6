import Parley.Proofs.Session.WriterRun

/-!
# What a session does to the hub

All that a session does to the hub, notices aside, is to handle its own connection. `Hub.Handled`
says so of two hubs, before and after: the connection has been through some handlings, and every
other connection stands as it did. `Session.Moves` says which handlings go with a step of a session:
one that ends a side takes the connection off the roster, the socket is released only together with
that, and nothing puts a connection back on the roster.

Whether a connection that was registered until its signal was raised still is so depends on nothing
else (`Standing.meetAll_registered`).
-/

namespace Parley

/-! ### Handlings in a row -/

namespace Standing

/-- A connection after handlings. -/
def meetAll (s : Standing) (handlings : List Handling) : Standing :=
  handlings.foldl (fun s h => s.meet (.handled h)) s

/-- Without handlings a connection stays as it is. -/
@[simp] theorem meetAll_nil (s : Standing) : s.meetAll [] = s := rfl

/-- Handlings are met one after the other. -/
theorem meetAll_append (s : Standing) (xs ys : List Handling) :
    s.meetAll (xs ++ ys) = (s.meetAll xs).meetAll ys := by
  simp [meetAll]

/-- Handlings are moments. -/
theorem meetAll_eq_foldl (s : Standing) (handlings : List Handling) :
    s.meetAll handlings = (handlings.map Moment.handled).foldl meet s := by
  rw [meetAll, List.foldl_map]

/-- A connection stays registered until it is unregistered, if nothing registers it. -/
theorem registered_meetAll {s : Standing} {handlings : List Handling}
    (noRegister : .register ∉ handlings) :
    (s.meetAll handlings).registered = true ↔ s.registered = true ∧ .unregister ∉ handlings := by
  induction handlings generalizing s with
  | nil => simp
  | cons h rest ih =>
    simp only [List.mem_cons, not_or] at noRegister ⊢
    have first := s.registered_meet (.handled h)
    simp only [ne_eq, Moment.handled.injEq, Ne.symm noRegister.1, false_and, or_false] at first
    have later := @ih (s.meet (.handled h)) noRegister.2
    rw [first, and_assoc, eq_comm (a := h)] at later
    exact later

/-- The signal is raised by an unregistration, where nothing else closes the connection. -/
theorem isClosed_meetAll {s : Standing} {handlings : List Handling} (noClose : .close ∉ handlings)
    (released : .markClosed ∈ handlings → .unregister ∈ handlings) :
    (s.meetAll handlings).connection.isClosed = true ↔
      s.connection.isClosed = true ∨ .unregister ∈ handlings := by
  rw [meetAll_eq_foldl, isClosed_foldl, Bool.or_eq_true, List.any_map, List.any_eq_true]
  refine or_congr Iff.rfl ⟨?_, fun inside => ⟨_, inside, rfl⟩⟩
  rintro ⟨h, inside, raises⟩
  cases h with
  | unregister => exact inside
  | close => exact absurd inside noClose
  | markClosed => exact released inside
  | _ => cases raises

/-- Handlings leave the user as it is. -/
@[simp] theorem user_meetAll (s : Standing) (handlings : List Handling) :
    (s.meetAll handlings).user = s.user := by
  induction handlings generalizing s with
  | nil => rfl
  | cons h rest ih => exact (ih _).trans (s.user_meet _)

end Standing

namespace Hub

/-- A hub on which only one connection was handled, notices aside. -/
structure Handled (hub : Hub) (c : ConnectionId) (handlings : List Handling) (hub' : Hub) :
    Prop where
  tidy : hub'.Tidy
  length : hub'.connections.length = hub.connections.length
  standing : ∀ d, hub'.standing? d =
    if d = c then (hub.standing? c).map (·.meetAll handlings) else hub.standing? d

namespace Handled

variable {hub hub' hub'' : Hub} {c : ConnectionId} {xs ys : List Handling}

/-- Without handlings a hub stays as it is. -/
theorem refl (tidy : hub.Tidy) (c : ConnectionId) : Handled hub c [] hub where
  tidy := tidy
  length := rfl
  standing d := by
    split_ifs with hd
    · simp [hd]
    · rfl

/-- Handlings of one connection are done one after the other. -/
theorem trans (first : Handled hub c xs hub') (second : Handled hub' c ys hub'') :
    Handled hub c (xs ++ ys) hub'' where
  tidy := second.tidy
  length := second.length.trans first.length
  standing d := by
    rw [second.standing, first.standing c, if_pos rfl, first.standing d]
    split_ifs with hd
    · simp [Standing.meetAll_append, Function.comp_def]
    · rfl

/-- One handling of a connection. -/
theorem of_handle (tidy : hub.Tidy) (c : ConnectionId) (h : Handling) :
    Handled hub c [h] (hub.handle c h) where
  tidy := tidy.handle c h
  length := length_after tidy fun user capacity =>
    (nofun : HubEvent.handle c h ≠ .openFor user capacity)
  standing d := by
    rw [standing?_handle tidy]
    split_ifs with hd
    · rw [hd]
      rfl
    · rfl

/-- What the writer does to its connection when it ends. -/
theorem retire (tidy : hub.Tidy) (c : ConnectionId) :
    Handled hub c [.unregister, .markClosed, .dropQueue]
      ((hub.unregister c).update c fun conn => conn.markClosed.dropQueue) := by
  have released := tidy.handle c .unregister
  have handled := ((of_handle tidy c .unregister).trans (of_handle released c .markClosed)).trans
    (of_handle (released.handle c .markClosed) c .dropQueue)
  have joined : ((hub.unregister c).update c fun conn => conn.markClosed.dropQueue)
      = ((hub.handle c .unregister).handle c .markClosed).handle c .dropQueue := by
    simp [handle, update, List.modify_modify_eq, Function.comp_def]
  rw [joined]
  exact handled

/-- A notice changes nothing that is handled. -/
theorem note (handled : Handled hub c xs hub') (n : Notice) : Handled hub c xs (hub'.note n) where
  tidy := handled.tidy.congr rfl fun _ _ h => h
  length := handled.length
  standing := handled.standing

end Handled

end Hub

/-! ### Steps of a session -/

namespace Session

/-- What a step of a session may do to its connection, and with it. -/
structure Moves (s : Session) (handlings : List Handling) (s' : Session) : Prop where
  connection : s'.connection = s.connection
  noRegister : Handling.register ∉ handlings
  noClose : Handling.close ∉ handlings
  released : Handling.markClosed ∈ handlings → Handling.unregister ∈ handlings
  inbound : s'.inbound = s.inbound ∨ s'.inbound.isSome ∧ Handling.unregister ∈ handlings
  outbound : s'.outbound = s.outbound ∨ s'.outbound.isSome ∧ Handling.unregister ∈ handlings
  isOver : s'.isOver = s.isOver ∨ s'.inbound.isSome ∧ s'.outbound.isSome

variable {s s' s'' : Session} {xs ys : List Handling}

/-- A step that ends no side and releases nothing. -/
theorem Moves.of_same (connection : s'.connection = s.connection) (inbound : s'.inbound = s.inbound)
    (outbound : s'.outbound = s.outbound) (isOver : s'.isOver = s.isOver)
    (harmless : ∀ h ∈ xs, h = .receive ∨ h = .closeQueue ∨ h = .dropQueue) : s.Moves xs s' where
  connection := connection
  noRegister inside := by simpa using harmless _ inside
  noClose inside := by simpa using harmless _ inside
  released inside := by simpa using harmless _ inside
  inbound := .inl inbound
  outbound := .inl outbound
  isOver := .inl isOver

/-- Two steps of a session make one. -/
theorem Moves.trans (first : s.Moves xs s') (second : s'.Moves ys s'') :
    s.Moves (xs ++ ys) s'' where
  connection := second.connection.trans first.connection
  noRegister := by simp [first.noRegister, second.noRegister]
  noClose := by simp [first.noClose, second.noClose]
  released inside := by
    rcases List.mem_append.mp inside with early | late
    · exact List.mem_append_left _ (first.released early)
    · exact List.mem_append_right _ (second.released late)
  inbound := by
    rcases second.inbound with same | ⟨ended, off⟩
    · rw [same]
      exact first.inbound.imp id fun h => ⟨h.1, List.mem_append_left _ h.2⟩
    · exact .inr ⟨ended, List.mem_append_right _ off⟩
  outbound := by
    rcases second.outbound with same | ⟨ended, off⟩
    · rw [same]
      exact first.outbound.imp id fun h => ⟨h.1, List.mem_append_left _ h.2⟩
    · exact .inr ⟨ended, List.mem_append_right _ off⟩
  isOver := by
    rcases second.isOver with same | both
    · rw [same]
      refine first.isOver.imp id fun both => ⟨?_, ?_⟩
      · exact second.inbound.elim (fun h => h ▸ both.1) And.left
      · exact second.outbound.elim (fun h => h ▸ both.2) And.left
    · exact .inr both

/-- A step of a session depends only on how its connection stands, and does nothing but to handle
that connection. -/
def Acts (s : Session) (t : Standing) (step : Hub → Session × Hub) : Prop :=
  ∃ s' handlings, s.Moves handlings s' ∧
    ∀ hub : Hub, hub.Tidy → hub.standing? s.connection = some t →
      (step hub).1 = s' ∧ hub.Handled s.connection handlings (step hub).2

/-- Nothing is done. -/
theorem acts_nothing (s : Session) (t : Standing) : s.Acts t fun hub => (s, hub) :=
  ⟨s, [], .of_same rfl rfl rfl rfl (by simp), fun _ tidy _ => ⟨rfl, .refl tidy _⟩⟩

/-- What the reader does with a reading is local to its session. -/
theorem acts_read (s : Session) (t : Standing) (now : Duration) (reading : Reading) :
    s.Acts t fun hub => (s.read hub now reading).2 := by
  unfold read
  cases hreact : s.reader.react s.settings now reading with
  | mk reaction reader =>
    cases reaction with
    | stop exit =>
      refine ⟨_, [.unregister], ?_, fun hub tidy _ => ⟨rfl, .of_handle tidy _ .unregister⟩⟩
      exact ⟨rfl, by simp, by simp, by simp, .inr ⟨rfl, by simp⟩, .inl rfl, .inl rfl⟩
    | _ =>
      refine ⟨_, [], ?_, fun hub tidy _ => ⟨rfl, .refl tidy _⟩⟩
      exact .of_same rfl rfl rfl rfl (by simp)

/-- What the reader does with an answer is local to its session. -/
theorem acts_answer (s : Session) (t : Standing) (conversation : ConversationId)
    (result : Except PostError Unit) : s.Acts t fun hub => s.answer hub conversation result := by
  refine ⟨{ s with reader := s.reader.answered }, [], .of_same rfl rfl rfl rfl (by simp),
    fun hub tidy _ => ?_⟩
  unfold answer
  split
  · exact ⟨rfl, (Hub.Handled.refl tidy _).note _⟩
  · exact ⟨rfl, .refl tidy _⟩

/-- What is done to the mailbox before the writer acts: on the signal it is closed. -/
theorem exists_before_write (s : Session) (writing : Writing) :
    ∃ (first : Hub → Hub) (before : List Handling),
      (∀ h ∈ before, h = .receive ∨ h = .closeQueue ∨ h = .dropQueue) ∧
      (∀ hub : Hub, hub.Tidy → hub.Handled s.connection before (first hub)) ∧
      ∀ (now : Duration) (hub : Hub) (exit : Option SessionExit) (writer : Writer),
        s.writer.react s.settings now writing = (exit, writer) →
        s.write hub now writing = exit.elim ({ s with writer }, first hub) fun exit =>
          ({ s with writer, outbound := some exit },
            ((first hub).unregister s.connection).update s.connection fun c =>
              c.markClosed.dropQueue) := by
  cases writing with
  | signal =>
    refine ⟨fun hub => hub.update s.connection Connection.closeQueue, [.closeQueue], by simp,
      fun hub tidy => .of_handle tidy _ .closeQueue, fun now hub exit writer hreact => ?_⟩
    rw [write, hreact]
    cases exit <;> rfl
  | _ =>
    refine ⟨id, [], by simp, fun hub tidy => .refl tidy _, fun now hub exit writer hreact => ?_⟩
    unfold write
    rw [hreact]
    cases exit <;> rfl

/-- What the writer does is local to its session. -/
theorem acts_write (s : Session) (t : Standing) (now : Duration) (writing : Writing) :
    s.Acts t fun hub => s.write hub now writing := by
  obtain ⟨first, before, harmless, begun, written⟩ := s.exists_before_write writing
  cases hreact : s.writer.react s.settings now writing with
  | mk exit writer =>
    rw [funext fun hub => written now hub exit writer hreact]
    cases exit with
    | none =>
      exact ⟨{ s with writer }, before, .of_same rfl rfl rfl rfl harmless,
        fun hub tidy _ => ⟨rfl, begun hub tidy⟩⟩
    | some exit =>
      refine ⟨{ s with writer, outbound := some exit }, before ++ _,
        .trans (.of_same rfl rfl rfl rfl harmless : s.Moves before s) ?_,
        fun hub tidy _ => ⟨rfl, (begun hub tidy).trans (.retire (begun hub tidy).tidy _)⟩⟩
      exact ⟨rfl, by simp, by simp, by simp, .inl rfl, .inr ⟨rfl, by simp⟩, .inl rfl⟩

/-- A panic of the writer is local to its session. -/
theorem acts_crash (s : Session) (t : Standing) (reason : String) :
    s.Acts t fun hub => s.crash hub reason := by
  refine ⟨{ s with outbound := some .unregistered }, [.unregister, .dropQueue], ?_,
    fun hub tidy _ => ⟨rfl, ?_⟩⟩
  · exact ⟨rfl, by simp, by simp, by simp, .inl rfl, .inr ⟨rfl, by simp⟩, .inl rfl⟩
  · have noted := (Hub.Handled.refl tidy s.connection).note (.writerFailed s.connection reason)
    have off := noted.trans (.of_handle noted.tidy _ .unregister)
    exact off.trans (.of_handle off.tidy _ .dropQueue)

/-- The end of a session is local to it. -/
theorem acts_finish (s : Session) (t : Standing) : s.Acts t fun hub => s.finish hub := by
  unfold finish
  split
  case h_1 inbound outbound running hinbound houtbound =>
    refine ⟨{ s with isOver := true }, [.release], ?_, fun hub tidy _ => ⟨rfl, ?_⟩⟩
    · exact ⟨rfl, by simp, by simp, by simp, .inl rfl, .inl rfl,
        .inr ⟨by simp [hinbound], by simp [houtbound]⟩⟩
    · have noted := (Hub.Handled.refl tidy s.connection).note
        (.sessionEnded s.connection s.user inbound outbound)
      exact noted.trans (.of_handle noted.tidy _ .release)
  case h_2 => exact acts_nothing s t

/-- One step after another. -/
theorem Acts.andThen {t : Standing} {first : Hub → Session × Hub}
    {second : Session → Hub → Session × Hub} (acts : s.Acts t first)
    (later : ∀ (s' : Session) (t' : Standing), s'.Acts t' (second s')) :
    s.Acts t fun hub => second (first hub).1 (first hub).2 := by
  obtain ⟨s', xs, moves, acts⟩ := acts
  obtain ⟨s'', ys, moves', acts'⟩ := later s' (t.meetAll xs)
  refine ⟨s'', xs ++ ys, moves.trans moves', fun hub tidy hs => ?_⟩
  obtain ⟨same, handled⟩ := acts hub tidy hs
  have hs' : (first hub).2.standing? s'.connection = some (t.meetAll xs) := by
    rw [moves.connection, handled.standing, if_pos rfl, hs]
    rfl
  obtain ⟨same', handled'⟩ := acts' _ handled.tidy hs'
  rw [moves.connection] at handled'
  dsimp only
  rw [same]
  exact ⟨same', handled.trans handled'⟩

/-- What an idle writer turns to when its connection stands in some way, and whether it takes that
out of the mailbox. -/
def turning? (s : Session) (t : Standing) (now : Duration) : Option (Writing × Bool) :=
  match s.writer.stage with
  | .serving =>
    if t.connection.isClosed then some (.signal, false)
    else
      match t.queue with
      | e :: _ => some (.dequeued e, true)
      | [] =>
        if t.connection.isDisconnected then some (.disconnected, false)
        else if s.writer.pingDue ≤ now then some (.tick, false)
        else none
  | .draining =>
    match t.queue with
    | e :: _ => some (.dequeued e, true)
    | [] => some (.emptied, false)
  | .closing => none

/-- Whether the signal is raised is read off the standing of the connection. -/
theorem isSignalled_eq (s : Session) {hub : Hub} {t : Standing}
    (hs : hub.standing? s.connection = some t) : s.isSignalled hub = t.connection.isClosed := by
  rw [isSignalled, Hub.connection?_eq_standing?, hs]
  rfl

/-- What the writer turns to is read off the standing of its connection. -/
theorem turn?_eq (s : Session) {hub : Hub} {t : Standing}
    (hs : hub.standing? s.connection = some t) (now : Duration) :
    s.turn? hub now = (s.turning? t now).map fun (writing, taken) =>
      (writing, if taken then hub.handle s.connection .receive else hub) := by
  have hdisconnected : hub.isDisconnected s.connection = t.connection.isDisconnected := by
    rw [Hub.isDisconnected, Hub.connection?_eq_standing?, hs]
    rfl
  unfold turn? turning?
  rw [s.isSignalled_eq hs, hdisconnected, Hub.dequeue_eq_queueOf, Hub.queueOf_of_some hs]
  cases s.writer.stage with
  | serving => cases t.queue <;> dsimp <;> split_ifs <;> rfl
  | draining => cases t.queue <;> rfl
  | closing => rfl

/-- The writer takes its turn, if there is anything to turn to. -/
def takeTurn (s : Session) (hub : Hub) (now : Duration) : Session × Hub :=
  match s.turn? hub now with
  | none => (s, hub)
  | some (writing, hub) => s.write hub now writing

/-- A turn of the writer is local to its session. -/
theorem acts_takeTurn (s : Session) (t : Standing) (now : Duration) :
    s.Acts t fun hub => s.takeTurn hub now := by
  have congr : ∀ {step step' : Hub → Session × Hub},
      (∀ hub, hub.standing? s.connection = some t → step hub = step' hub) →
      s.Acts t step' → s.Acts t step := by
    rintro step step' same ⟨s', xs, moves, acts⟩
    refine ⟨s', xs, moves, fun hub tidy hs => ?_⟩
    rw [same hub hs]
    exact acts hub tidy hs
  cases hturning : s.turning? t now with
  | none =>
    refine congr (fun hub hs => ?_) (acts_nothing s t)
    rw [takeTurn, s.turn?_eq hs, hturning]
    rfl
  | some found =>
    obtain ⟨writing, taken⟩ := found
    have take :
        s.Acts t fun hub => (s, if taken then hub.handle s.connection .receive else hub) := by
      cases taken with
      | false => exact acts_nothing s t
      | true =>
        exact ⟨s, [.receive], .of_same rfl rfl rfl rfl (by simp),
          fun hub tidy _ => ⟨rfl, .of_handle tidy _ .receive⟩⟩
    refine congr (fun hub hs => ?_) (take.andThen fun s' t' => s'.acts_write t' now writing)
    rw [takeTurn, s.turn?_eq hs, hturning]
    rfl

end Session

end Parley
