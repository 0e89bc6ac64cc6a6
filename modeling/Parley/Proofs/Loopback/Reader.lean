import Parley.Application
import Parley.Loopback.Script
import Parley.Proofs.Session.ReaderTrace
import Parley.Proofs.Session.Steps

/-!
# The reader of a line

What the reader of a line does by itself is a `ReaderRun` in which nothing arrives and no time
passes. It takes looks and answers, and besides there is only what its posts do on the hub
(`Line.readStep_follows`); and so is what it does until it waits (`Line.runReader_follows`). What
holds of every run of a reader holds of every line.
-/

namespace Parley

/-- What a reader does by itself, or what is done elsewhere meanwhile. -/
def ReaderEvent.isInstant : ReaderEvent → Bool
  | .elsewhere _ | .looks _ | .answered _ => true
  | .arrives _ | .passes _ => false

/-- A reader that acts on a reading awaits the answer to what it posts, if it posts anything. -/
theorem ReaderRun.pending?_act {r : ReaderRun} (idle : r.session.reader.awaiting = false)
    (reading : Reading) :
    let post := (r.session.read r.hub r.now reading).1.post? r.session.user
    (r.act reading).session.reader.awaiting = post.isSome ∧ (r.act reading).pending? = post := by
  intro post
  have reaction : post = (r.session.reader.react r.session.settings r.now reading).1.post?
      r.session.user := by
    dsimp only [post]
    rw [Session.read_eq_exit?]
  have awaiting : (r.act reading).session.reader.awaiting = post.isSome := by
    rw [act_eq, reaction]
    exact (Reader.awaiting_react _ _ _ _ r.session.user).trans (by rw [idle, Bool.false_or])
  refine ⟨awaiting, ?_⟩
  rw [pending?, awaiting, act_eq, ← reaction]
  cases post with
  | none => rfl
  | some p => exact List.getLast?_concat

namespace Loopback

/-- What posts do on the hub is what may be done on it. -/
def Surroundings.Lawful {σ : Type} (env : Surroundings σ) : Prop :=
  (∀ state hub, env.hub (env.setHub state hub) = hub) ∧
    ∀ conversation user content state, ∃ events : List HubEvent,
      env.hub (env.post conversation user content state).2 = (env.hub state).run events

/-- Scripted posts do nothing on the hub. -/
theorem Script.lawful_surroundings (delay : Duration) : (Script.surroundings delay).Lawful :=
  ⟨fun _ _ => rfl, fun _ _ _ _ => ⟨[], rfl⟩⟩

/-- A post on a backend sends its message out, or does nothing on the hub. -/
theorem lawful_backend (now : Timestamp) : (Backend.surroundings now).Lawful := by
  refine ⟨fun _ _ => rfl, fun conversation user content b => ?_⟩
  change ∃ events, (b.post now conversation user content).2.hub = b.hub.run events
  unfold Backend.post MessageService.post MessageService.create
  cases draftOf (Backend.service.conversations b) conversation user content with
  | error failure => exact ⟨[], rfl⟩
  | ok draft =>
    exact ⟨[.broadcast (b.directory.source.participantsOf conversation) conversation _], rfl⟩

/-- A run that stands as the reader of a line does. -/
structure Follows (r : ReaderRun) (now : Duration) (line : Line) (hub : Hub) : Prop where
  now : r.now = now
  session : r.session = line.session
  hub : r.hub = hub
  inbox : r.inbox.map Timed.what = line.socket.inbox
  awaiting : r.session.reader.awaiting = line.answer.isSome
  pending : r.pending?.map Post.conversation = line.answer.map Answer.conversation

variable {σ : Type} {env : Surroundings σ} {now : Duration} {r : ReaderRun} {line : Line}
  {hub : Hub}

/-- A run still stands as the reader does when others act on the hub. -/
theorem Follows.elsewhere (follows : Follows r now line hub) (events : List HubEvent) :
    Follows (r.run (events.map .elsewhere)) now line (hub.run events) := by
  induction events generalizing r hub with
  | nil => exact follows
  | cons event rest ih =>
    obtain ⟨sameTime, session, rfl, inbox, awaiting, pending⟩ := follows
    exact ih ⟨sameTime, session, rfl, inbox, awaiting, pending⟩

/-- A reading that the reader of a line acts on. -/
theorem Follows.take (lawful : env.Lawful) {state : σ}
    (follows : Follows r now line (env.hub state)) (idle : line.answer = none) (reading : Reading) :
    ∃ events : List HubEvent, Follows ((r.act reading).run (events.map .elsewhere)) now
      (line.take env now reading state).1 (env.hub (line.take env now reading state).2) := by
  obtain ⟨reads, posts⟩ := lawful
  obtain ⟨rfl, session, sameHub, inbox, awaiting, -⟩ := follows
  rw [idle] at awaiting
  obtain ⟨awaiting', pending⟩ := ReaderRun.pending?_act awaiting reading
  have session' : (r.act reading).session = (r.session.read r.hub r.now reading).2.1 := rfl
  have hub' : (r.act reading).hub = (r.session.read r.hub r.now reading).2.2 := rfl
  rw [session, sameHub] at awaiting' pending session' hub'
  unfold Line.take
  cases read : line.session.read (env.hub state) r.now reading with
  | mk reaction after =>
    rw [read] at awaiting' pending session' hub'
    cases reaction with
    | post conversation content =>
      obtain ⟨events, posted⟩ := posts conversation after.1.user content
        (env.setHub state after.2)
      rw [reads] at posted
      refine ⟨events, Eq.subst posted.symm (Follows.elsewhere ?_ events)⟩
      exact ⟨rfl, session', hub', inbox, awaiting', congrArg _ pending⟩
    | proceed =>
      refine ⟨[], rfl, session', hub'.trans (reads _ _).symm, inbox, ?_, ?_⟩
      · exact awaiting'.trans (by rw [idle]; rfl)
      · exact (congrArg _ pending).trans (by rw [idle]; rfl)
    | stop exit =>
      refine ⟨[], rfl, session', hub'.trans (reads _ _).symm, inbox, ?_, ?_⟩
      · exact awaiting'.trans (by rw [idle]; rfl)
      · exact (congrArg _ pending).trans (by rw [idle]; rfl)

/-- What a socket does by itself leaves the arrivals alone. -/
theorem Socket.next?_eq (s : Socket) (now : Duration) :
    (s.next? now).map (fun p => (p.1, p.2.inbox)) =
      match s.inbox with
      | [] => none
      | arrival :: rest => some (arrival, rest) := by
  have reflex : ∀ (s : Socket) (arrival : Arrival), (s.reflex now arrival).inbox = s.inbox := by
    intro s arrival
    unfold Socket.reflex
    split
    · split <;> rfl
    · rfl
    · rfl
  unfold Socket.next?
  cases s.inbox with
  | nil => rfl
  | cons arrival rest =>
    simp only [Option.map_some]
    split_ifs
    · rw [reflex]
    · rfl

/-- What the reader of a line finds, it finds at its signal, on its socket or at its clock. -/
theorem Follows.find? (follows : Follows r now line hub) {reading : Reading} {socket : Socket}
    (found : line.reading? hub now = some (reading, socket)) :
    ∃ outlook inbox, r.find? outlook = some (reading, inbox) ∧
      inbox.map Timed.what = socket.inbox := by
  obtain ⟨rfl, session, rfl, inbox, -, -⟩ := follows
  have signal : r.isSignalled = line.session.isSignalled r.hub := by rw [← session]; rfl
  unfold Line.reading? at found
  rw [← signal, ← session] at found
  by_cases up : r.isSignalled = true
  · rw [if_pos up] at found
    cases found
    exact ⟨.signal, r.inbox, if_pos up, inbox⟩
  rw [if_neg up] at found
  have next := line.socket.next?_eq r.now
  rw [← inbox] at next
  cases arrived : line.socket.next? r.now with
  | some p =>
    rw [arrived] at found next
    cases found
    cases first : r.inbox with
    | nil =>
      rw [first] at next
      cases next
    | cons a rest =>
      rw [first, Option.map_some, List.map_cons, Option.some_inj, Prod.mk.injEq] at next
      refine ⟨.socket, rest, ?_, next.2.symm⟩
      rw [ReaderRun.find?, first, next.1]
  | none =>
    rw [arrived] at found
    dsimp only at found
    split_ifs at found with expired
    cases found
    exact ⟨.clock, r.inbox, if_pos expired, inbox⟩

/-- Each step of the reader of a line is a look, with what a post does on the hub, or the answer to
a post. -/
theorem Line.readStep_follows (lawful : env.Lawful) {later : Line} {state after : σ}
    (follows : Follows r now line (env.hub state))
    (step : line.readStep env now state = some (later, after)) :
    ∃ events : List ReaderEvent, (∀ event ∈ events, event.isInstant = true) ∧
      Follows (r.run events) now later (env.hub after) := by
  unfold Line.readStep at step
  split_ifs at step with stopped
  rw [Bool.or_eq_true, not_or, Option.not_isSome_iff_eq_none] at stopped
  have running : r.session.inbound = none := by
    rw [follows.session]
    exact stopped.2
  cases awaited : line.answer with
  | some answer =>
    rw [awaited] at step
    dsimp only at step
    split_ifs at step with due
    cases step
    obtain ⟨sameTime, session, sameHub, inbox, -, pending⟩ := follows
    rw [awaited, Option.map_some, Option.map_eq_some_iff] at pending
    obtain ⟨post, pending, conversation⟩ := pending
    have answered : r.run [.answered answer.result] = { r with
        session := (line.session.answer (env.hub state) answer.conversation answer.result).1
        hub := (line.session.answer (env.hub state) answer.conversation answer.result).2 } := by
      change r.answer answer.result = _
      rw [ReaderRun.answer, pending, ← session, ← sameHub, ← conversation]
    have idle : (line.session.answer (env.hub state) answer.conversation
        answer.result).1.reader.awaiting = false := by
      rw [Session.answer_eq]
      rfl
    refine ⟨[.answered answer.result], by simp [ReaderEvent.isInstant], ?_⟩
    rw [answered]
    refine ⟨sameTime, rfl, (lawful.1 _ _).symm, inbox, idle, ?_⟩
    rw [ReaderRun.pending?, idle]
    rfl
  | none =>
    rw [awaited] at step
    obtain ⟨⟨reading, socket⟩, found, taken⟩ := Option.map_eq_some_iff.mp step
    obtain ⟨outlook, inbox, found, left⟩ := follows.find? found
    have looking : r.isLooking = true := by
      rw [ReaderRun.isLooking, follows.awaiting, awaited, ReaderRun.hasEnded, running]
      rfl
    have left' : Follows { r with inbox } now { line with socket } (env.hub state) :=
      ⟨follows.now, follows.session, follows.hub, left, follows.awaiting, follows.pending⟩
    obtain ⟨events, acts⟩ := left'.take lawful awaited reading
    rw [awaited] at acts
    dsimp only at taken
    rw [taken] at acts
    refine ⟨.looks outlook :: events.map .elsewhere, ?_, ?_⟩
    · simp [ReaderEvent.isInstant]
    · have looks : r.look outlook = { r with inbox }.act reading := by
        rw [ReaderRun.look, if_pos looking, found]
      change Follows ((r.look outlook).run _) _ _ _
      rw [looks]
      exact acts

/-- What the reader of a line does until it waits are looks, with what its posts do on the hub, and
answers. -/
theorem Line.runReader_follows (lawful : env.Lawful) (steps : Nat) {state : σ}
    (follows : Follows r now line (env.hub state)) :
    ∃ events : List ReaderEvent, (∀ event ∈ events, event.isInstant = true) ∧
      Follows (r.run events) now (line.runReader env now steps state).1
        (env.hub (line.runReader env now steps state).2) := by
  induction steps generalizing line state r with
  | zero => exact ⟨[], nofun, follows⟩
  | succ steps ih =>
    unfold Line.runReader
    cases step : line.readStep env now state with
    | none => exact ⟨[], nofun, follows⟩
    | some next =>
      obtain ⟨first, instant, follows'⟩ := readStep_follows lawful follows step
      obtain ⟨rest, instants, follows''⟩ := ih follows'
      refine ⟨first ++ rest, List.forall_mem_append.mpr ⟨instant, instants⟩, ?_⟩
      rw [ReaderRun.run, List.foldl_append]
      exact follows''

end Loopback

end Parley
