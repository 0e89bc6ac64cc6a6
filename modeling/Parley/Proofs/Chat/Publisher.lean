import Mathlib.Logic.Function.Basic
import Mathlib.Tactic.SplitIfs
import Parley.Chat.Event

/-!
# Publishers that share their handlers

A publisher does not own the list of its handlers but refers to it, and a clone refers to the list
of the publisher that it was cloned from. `Publishers` are lists and names that refer to them, as a
program with any number of publishers leaves them; beside them stands what the handlers act on, with
a record of every call.

The other side is `derivation`, which knows nothing of lists that are shared: it goes back through
the program along one publisher's own origin and collects the handlers added there. What carries the
theory is that a list is never changed once it is made (`Publishers.publisher?_put`), so that each
step of a program shows in the publishers it names and in no other (`Agrees.step`).
-/

namespace Parley

/-- What handlers act on, and a record of which was called with what; oldest first. -/
structure World (η σ : Type) where
  state : σ
  calls : List (η × Event) := []

namespace World

variable {η σ : Type} (handle : η → Handler σ)

/-- A handler is called, and the call is recorded. -/
def call (handler : η) : Handler (World η σ) := fun event w =>
  { state := handle handler event w.state, calls := w.calls ++ [(handler, event)] }

/-- The world after some calls. -/
def afterCalls (w : World η σ) (calls : List (η × Event)) : World η σ where
  state := calls.foldl (fun state c => handle c.1 c.2 state) w.state
  calls := w.calls ++ calls

/-- Publishing calls each handler once for every time that it is listed, in the order of the list
and with the event. -/
theorem publish_call (handlers : List η) (event : Event) (w : World η σ) :
    (Publisher.mk (handlers.map (call handle))).publish event w =
      w.afterCalls handle (handlers.map fun handler => (handler, event)) := by
  unfold Publisher.publish
  dsimp only
  induction handlers generalizing w with
  | nil => simp [afterCalls]
  | cons handler rest ih =>
    rw [List.map_cons, List.foldl_cons, ih]
    simp [afterCalls, call]

/-- Calls are made one after the other. -/
theorem afterCalls_append (w : World η σ) (first second : List (η × Event)) :
    (w.afterCalls handle first).afterCalls handle second =
      w.afterCalls handle (first ++ second) := by
  simp [afterCalls]

end World

/-- A step of a program whose publishers bear names. -/
inductive PublisherStep (ν η : Type) where
  | make (name : ν)
  | makeDefault (name : ν)
  | clone (source name : ν)
  /-- A publisher is used up, and the one with one more handler takes a name, be it the same. -/
  | withHandler (source name : ν) (handler : η)
  | publish (name : ν) (event : Event)

/-- The names that a step gives or takes away. -/
def PublisherStep.renames {ν η : Type} : PublisherStep ν η → List ν
  | .make name | .makeDefault name | .clone _ name => [name]
  | .withHandler source name _ => [source, name]
  | .publish _ _ => []

variable {ν η σ : Type} [DecidableEq ν]

/-- The handlers added to a publisher and to those that it came from, in the order in which they
were added; none where nothing bears the name. The program is given with its last step first. -/
def derivation : List (PublisherStep ν η) → ν → Option (List η)
  | [], _ => none
  | .make name :: earlier, p => if p = name then some [] else derivation earlier p
  | .makeDefault name :: earlier, p => if p = name then some [] else derivation earlier p
  | .clone source name :: earlier, p => derivation earlier (if p = name then source else p)
  | .withHandler source name handler :: earlier, p =>
    if p = name then (derivation earlier source).map (· ++ [handler])
    else if p = source then none
    else derivation earlier p
  | .publish _ _ :: earlier, p => derivation earlier p

/-- The calls that a program makes: every publishing calls what its publisher derives from. The
program is given with its last step first. -/
def callsOf : List (PublisherStep ν η) → List (η × Event)
  | [] => []
  | .publish p event :: earlier =>
    callsOf earlier ++ ((derivation earlier p).getD []).map fun handler => (handler, event)
  | _ :: earlier => callsOf earlier

/-- Lists of handlers, and names of publishers that refer to them. -/
structure Publishers (ν η σ : Type) where
  /-- The lists ever made; publishers that refer to the same one share it. -/
  lists : List (Publisher (World η σ))
  refers : ν → Option Nat
  world : World η σ

namespace Publishers

/-- Nothing has been made yet. -/
def empty (state : σ) : Publishers ν η σ := ⟨[], fun _ => none, { state }⟩

/-- The publisher of a name: the list that it refers to. -/
def publisher? (m : Publishers ν η σ) (p : ν) : Option (Publisher (World η σ)) :=
  (m.refers p).bind fun place => m.lists[place]?

/-- A name is given to a publisher with a list of its own, or taken away. -/
def put (m : Publishers ν η σ) (name : ν) : Option (Publisher (World η σ)) → Publishers ν η σ
  | none => { m with refers := Function.update m.refers name none }
  | some list =>
    { m with
      lists := m.lists ++ [list]
      refers := Function.update m.refers name (some m.lists.length) }

/-- A name is given to a publisher that shares the list of another. -/
def share (m : Publishers ν η σ) (source name : ν) : Publishers ν η σ :=
  { m with refers := Function.update m.refers name (m.refers source) }

variable (handle : η → Handler σ)

/-- What a step of a program does. A name that nothing bears passes for nothing. -/
def step (m : Publishers ν η σ) : PublisherStep ν η → Publishers ν η σ
  | .make name => m.put name (some .empty)
  | .makeDefault name => m.put name (some default)
  | .clone source name => m.share source name
  | .withHandler source name handler =>
    (m.put source none).put name
      ((m.publisher? source).map fun list => list.withHandler (World.call handle handler))
  | .publish p event =>
    match m.publisher? p with
    | none => m
    | some list => { m with world := list.publish event m.world }

/-- What a program leaves, given with its last step first. -/
def after (state : σ) : List (PublisherStep ν η) → Publishers ν η σ
  | [] => empty state
  | last :: earlier => (after state earlier).step handle last

/-! ### What names refer to -/

/-- Every name in use refers to a list that has been made. -/
def Placed (m : Publishers ν η σ) : Prop :=
  ∀ p place, m.refers p = some place → place < m.lists.length

variable {m : Publishers ν η σ}

/-- Giving a name a list of its own, or none, keeps every reference within the lists. -/
theorem Placed.put (placed : m.Placed) (name : ν) (list : Option (Publisher (World η σ))) :
    (m.put name list).Placed := by
  intro p place h
  cases list with
  | none =>
    simp only [Publishers.put, Function.update_apply] at h
    split_ifs at h
    exact placed p place h
  | some list =>
    simp only [Publishers.put, Function.update_apply] at h
    simp only [Publishers.put, List.length_append, List.length_singleton]
    split_ifs at h with here
    · cases h
      omega
    · have earlier := placed p place h
      omega

/-- Sharing a list keeps every reference within the lists. -/
theorem Placed.share (placed : m.Placed) (source name : ν) : (m.share source name).Placed := by
  intro p place h
  simp only [Publishers.share, Function.update_apply] at h
  split_ifs at h
  · exact placed source place h
  · exact placed p place h

/-- Giving or taking away a name leaves all other publishers, since no list is changed. -/
theorem publisher?_put (placed : m.Placed) (name : ν) (list : Option (Publisher (World η σ)))
    (p : ν) : (m.put name list).publisher? p = if p = name then list else m.publisher? p := by
  unfold publisher?
  cases list with
  | none =>
    simp only [put, Function.update_apply]
    split_ifs <;> rfl
  | some list =>
    simp only [put, Function.update_apply]
    split_ifs with here
    · simp
    · cases h : m.refers p with
      | none => rfl
      | some place => simp [List.getElem?_append_left (placed p place h)]

/-- A name that shares a list is read as the name that it shares with. -/
theorem publisher?_share (m : Publishers ν η σ) (source name p : ν) :
    (m.share source name).publisher? p = m.publisher? (if p = name then source else p) := by
  simp only [publisher?, share, Function.update_apply]
  split_ifs <;> rfl

/-- Making a publisher calls no handler. -/
theorem world_put (m : Publishers ν η σ) (name : ν)
    (list : Option (Publisher (World η σ))) : (m.put name list).world = m.world := by
  cases list <;> rfl

/-! ### Programs -/

/-- Publishers stand as a program leaves them: each has the handlers of its own derivation, and what
has been called is what the program calls. -/
structure Agrees (state : σ) (program : List (PublisherStep ν η)) (m : Publishers ν η σ) :
    Prop where
  placed : m.Placed
  publisher : ∀ p, m.publisher? p =
    (derivation program p).map fun handlers => ⟨handlers.map (World.call handle)⟩
  world : m.world = World.afterCalls handle { state } (callsOf program)

variable {handle} {state : σ} {program : List (PublisherStep ν η)}

/-- A publisher and the handlers of its derivation, with one more. -/
theorem Agrees.withHandler (agrees : Agrees handle state program m) (source : ν) (handler : η) :
    ((m.publisher? source).map fun list => list.withHandler (World.call handle handler)) =
      ((derivation program source).map (· ++ [handler])).map
        fun handlers => ⟨handlers.map (World.call handle)⟩ := by
  rw [agrees.publisher, Option.map_map, Option.map_map]
  congr 1
  funext handlers
  simp [Publisher.withHandler]

/-- Publishing calls the handlers of the publisher's derivation. -/
theorem Agrees.publish (agrees : Agrees handle state program m) (p : ν) (event : Event) :
    (m.step handle (.publish p event)).world =
      World.afterCalls handle { state } (callsOf (.publish p event :: program)) := by
  have found := agrees.publisher p
  rw [callsOf, ← World.afterCalls_append, ← agrees.world]
  cases h : derivation program p with
  | none =>
    rw [h, Option.map_none] at found
    simp [step, found, World.afterCalls]
  | some handlers =>
    rw [h, Option.map_some] at found
    simp only [step, found, World.publish_call, Option.getD_some]

/-- One more step of a program keeps the publishers in agreement with what they derive from. -/
theorem Agrees.step (agrees : Agrees handle state program m) (next : PublisherStep ν η) :
    Agrees handle state (next :: program) (m.step handle next) := by
  cases next with
  | make name =>
    refine ⟨agrees.placed.put name (some .empty), fun p => ?_, (world_put ..).trans agrees.world⟩
    rw [Publishers.step, publisher?_put agrees.placed, derivation, agrees.publisher]
    split_ifs <;> rfl
  | makeDefault name =>
    refine ⟨agrees.placed.put name (some default), fun p => ?_, (world_put ..).trans agrees.world⟩
    rw [Publishers.step, publisher?_put agrees.placed, derivation, agrees.publisher]
    split_ifs <;> rfl
  | clone source name =>
    refine ⟨agrees.placed.share source name, fun p => ?_, agrees.world⟩
    rw [Publishers.step, publisher?_share, derivation, agrees.publisher]
  | withHandler source name handler =>
    refine ⟨(agrees.placed.put source none).put name _, fun p => ?_, ?_⟩
    · rw [Publishers.step, publisher?_put (agrees.placed.put source none),
        publisher?_put agrees.placed, derivation, agrees.withHandler, agrees.publisher]
      split_ifs <;> rfl
    · rw [Publishers.step, world_put, world_put]
      exact agrees.world
  | publish p event =>
    have same : (m.step handle (.publish p event)).lists = m.lists ∧
        (m.step handle (.publish p event)).refers = m.refers := by
      rw [Publishers.step]
      cases m.publisher? p <;> exact ⟨rfl, rfl⟩
    refine ⟨?_, fun q => ?_, agrees.publish p event⟩
    · unfold Placed
      rw [same.1, same.2]
      exact agrees.placed
    · rw [publisher?, same.1, same.2]
      exact agrees.publisher q

/-- After any program the publishers agree with what they derive from. -/
theorem agrees_after (handle : η → Handler σ) (state : σ) (program : List (PublisherStep ν η)) :
    Agrees handle state program (after handle state program) := by
  induction program with
  | nil => exact ⟨nofun, fun _ => rfl, rfl⟩
  | cons next earlier ih => exact ih.step next

end Publishers

/-- A name that no step gives or takes away keeps its derivation. -/
theorem derivation_append {later : List (PublisherStep ν η)} {p : ν}
    (apart : ∀ next ∈ later, p ∉ next.renames) (program : List (PublisherStep ν η)) :
    derivation (later ++ program) p = derivation program p := by
  induction later with
  | nil => rfl
  | cons next rest ih =>
    have here : p ∉ next.renames := apart next List.mem_cons_self
    have same := ih fun other inside => apart other (List.mem_cons_of_mem _ inside)
    rw [List.cons_append]
    cases next <;> simp_all [derivation, PublisherStep.renames]

/-- A publisher counts and calls some handlers, whenever it publishes whatever event. -/
structure Publisher.Calls (handle : η → Handler σ) (p : Publisher (World η σ))
    (handlers : List η) : Prop where
  count : p.handlerCount = handlers.length
  publish : ∀ event w, p.publish event w =
    w.afterCalls handle (handlers.map fun handler => (handler, event))

/-- A list of calls calls the handlers that it was made from. -/
theorem Publisher.calls_map (handle : η → Handler σ) (handlers : List η) :
    Publisher.Calls handle ⟨handlers.map (World.call handle)⟩ handlers :=
  ⟨List.length_map _, World.publish_call handle handlers⟩

/-- **Publishers are values.** After any program over any number of publishers, whose handlers may
do anything and whose clones refer to one list:

* the names in use are those that have a derivation, and the publisher of each counts the handlers
  of its derivation and calls them when it publishes: each as often as it was added, in the order in
  which they were added, with the event that is published;
* these are the only calls there have been: each publishing has made those of its publisher's
  derivation at that time, and the state is what they made of it;
* a publisher whose name no later step gives or takes away stays the same in every respect, whatever
  is published and whatever is made of the clones that share its list. -/
theorem publishers_are_values (handle : η → Handler σ) (state : σ)
    (program : List (PublisherStep ν η)) :
    let m := Publishers.after handle state program
    (∀ p, Option.Rel (Publisher.Calls handle) (m.publisher? p) (derivation program p)) ∧
    m.world = World.afterCalls handle { state } (callsOf program) ∧
    ∀ later p, (∀ next ∈ later, p ∉ PublisherStep.renames next) →
      (Publishers.after handle state (later ++ program)).publisher? p = m.publisher? p := by
  intro m
  have agrees : Publishers.Agrees handle state program m :=
    Publishers.agrees_after handle state program
  refine ⟨fun p => ?_, agrees.world, fun later p apart => ?_⟩
  · rw [agrees.publisher]
    cases derivation program p with
    | none => exact .none
    | some handlers => exact .some (Publisher.calls_map handle handlers)
  · have later := Publishers.agrees_after handle state (later ++ program)
    rw [later.publisher, derivation_append apart, agrees.publisher]

/-- Two publishers share a list, and one of them is given a handler that it already has: it calls
that handler twice, and the other still calls it once. -/
theorem publishers_are_values_of_clones :
    let event : Event := .messageCreated ⟨1⟩ .null
    let handle : String → Handler Nat := fun _ _ told => told + 1
    let program : List (PublisherStep String String) :=
      [.clone "base" "wide", .withHandler "base" "base" "hub", .makeDefault "base"]
    let later : List (PublisherStep String String) :=
      [.publish "base" event, .publish "wide" event, .withHandler "wide" "wide" "hub"]
    let m := Publishers.after handle 0 (later ++ program)
    (Publishers.after handle 0 program).refers "base" =
        (Publishers.after handle 0 program).refers "wide" ∧
      (∀ next ∈ later, "base" ∉ next.renames) ∧
      m.publisher? "base" = (Publishers.after handle 0 program).publisher? "base" ∧
      m.world = ⟨3, [("hub", event), ("hub", event), ("hub", event)]⟩ ∧
      (m.publisher? "wide").map Publisher.handlerCount = some 2 := by
  intro event handle program later m
  have apart : ∀ next ∈ later, "base" ∉ next.renames := by decide
  obtain ⟨-, -, kept⟩ := publishers_are_values handle 0 program
  obtain ⟨calls, world, -⟩ := publishers_are_values handle 0 (later ++ program)
  refine ⟨by decide, apart, kept later "base" apart, world, ?_⟩
  have wide : derivation (later ++ program) "wide" = some ["hub", "hub"] := by decide
  have two : Option.Rel (Publisher.Calls handle) (m.publisher? "wide") (some ["hub", "hub"]) :=
    wide ▸ calls "wide"
  generalize m.publisher? "wide" = found at two
  cases two with
  | some two => exact congrArg some two.count

end Parley
