import Mathlib.Tactic.ByContra
import Parley.Proofs.Session.Intake
import Parley.Proofs.Session.Steps

/-!
# The limit on posts over a whole run

A session that takes texts at times that do not go back gives the verdicts of a ledger that never
forgets (`Intake.Follows.verdicts_eq`). From that follows what the limit means over a run
(`allowance_governs_run`): how many texts pass in any window, which requests are discarded for it,
and that a text which does not pass might as well not have been sent.
-/

namespace Parley

namespace Ledger

variable {creator : Creator} {user : UserId} {limit window : Nat} {l : Ledger}

/-- Enters the verdicts of a run. -/
def addAll (l : Ledger) (vs : List Verdict) : Ledger := vs.foldl add l

/-- Entered verdicts add the times of those texts that passed. -/
theorem passed_addAll (vs : List Verdict) :
    (l.addAll vs).passed = l.passed ++ (vs.filter Verdict.passes).map fun v => v.time := by
  induction vs generalizing l with
  | nil => exact (List.append_nil _).symm
  | cons v rest ih =>
    refine ih.trans ?_
    by_cases passes : v.passes = true
    · simp [add, passes]
    · simp [add, passes]

/-- Entered verdicts add what the creator was asked. -/
theorem posts_addAll (vs : List Verdict) :
    (l.addAll vs).posts = l.posts ++ vs.filterMap Verdict.asked := by
  induction vs generalizing l with
  | nil => exact (List.append_nil _).symm
  | cons v rest ih =>
    refine ih.trans ?_
    cases hasked : v.asked <;> simp [add, hasked]

/-- A verdict of a run is the one that the ledger gives with all earlier verdicts entered. -/
theorem eq_verdict_of_verdicts {xs : List Incoming} {before after : List Verdict} {v : Verdict}
    (split : l.verdicts creator user limit window xs = before ++ v :: after) :
    v = (l.addAll before).verdict creator user limit window v.toIncoming := by
  induction before generalizing l xs with
  | nil =>
    cases xs with
    | nil => cases split
    | cons x rest =>
      obtain ⟨rfl, -⟩ := List.cons.inj split
      rw [toIncoming_verdict]
      rfl
  | cons b before ih =>
    cases xs with
    | nil => cases split
    | cons x rest =>
      obtain ⟨rfl, remaining⟩ := List.cons.inj split
      exact ih remaining

/-- The verdicts of a run are on its texts, in order. -/
theorem map_toIncoming_verdicts (xs : List Incoming) :
    (l.verdicts creator user limit window xs).map Verdict.toIncoming = xs := by
  induction xs generalizing l with
  | nil => rfl
  | cons x rest ih => rw [verdicts, List.map_cons, toIncoming_verdict, ih]

/-- In a run too, the creator is asked about texts that passed, and about no other. -/
theorem passes_of_asked {xs : List Incoming} {v : Verdict}
    (hv : v ∈ l.verdicts creator user limit window xs) (asked : v.asked.isSome = true) :
    v.passes = true := by
  obtain ⟨before, after, split⟩ := List.append_of_mem hv
  have verdict := eq_verdict_of_verdicts split
  rw [verdict] at asked ⊢
  exact Decision.passes_of_asked _ _ _ _ _ asked

/-- So what the creator was asked can be read off the verdicts on the texts that passed. -/
theorem filterMap_asked {xs : List Incoming} {vs : List Verdict}
    (sub : vs ⊆ l.verdicts creator user limit window xs) :
    (vs.filter Verdict.passes).filterMap Verdict.asked = vs.filterMap Verdict.asked := by
  rw [List.filterMap_filter]
  apply List.filterMap_congr
  intro v hv
  cases passes : v.passes with
  | true => rfl
  | false =>
    cases asked : v.asked with
    | none => rfl
    | some post =>
      have := passes_of_asked (sub hv) (by rw [asked]; rfl)
      exact absurd (this.symm.trans passes) (by simp)

/-! ### What the limit means over a run -/

/-- How many texts count at some time can be read off the times of those that passed. -/
theorem length_counting (vs : List Verdict) (now : Nat) :
    (Allowance.counting window now ((vs.filter Verdict.passes).map fun v => v.time)).length
      = (vs.filter fun v => v.counts window now).length := by
  unfold Allowance.counting Verdict.counts
  rw [List.filter_map, List.length_map, List.filter_filter]
  congr 2
  funext v
  exact Bool.and_comm ..

/-- How many texts a window holds can be read off the times of those that passed. -/
theorem length_within (vs : List Verdict) (start : Nat) :
    (Allowance.within window start ((vs.filter Verdict.passes).map fun v => v.time)).length
      = (vs.filter fun v => v.passes && v.isWithin window start).length := by
  unfold Allowance.within Verdict.isWithin
  rw [List.filter_map, List.length_map, List.filter_filter]
  congr 2
  funext v
  exact Bool.and_comm ..

/-- What a verdict of a run says about the text, and about the texts before it. -/
theorem outcome_iff {xs : List Incoming} {before after : List Verdict} {v : Verdict}
    (split : Ledger.verdicts creator user limit window {} xs = before ++ v :: after) :
    (v.outcome = .undecodable ∨ v.outcome = .ignored ↔ Request.isSend v.text = false) ∧
      (v.outcome = .rateLimited ↔ Request.isSend v.text = true ∧
        limit ≤ (before.filter fun w => w.counts window v.time).length) := by
  have same := eq_verdict_of_verdicts split
  obtain ⟨-, other, limited⟩ :=
    Request.verdict_judge creator user (addAll {} before).posts v.toIncoming
      (decide ((Allowance.counting window v.time (addAll {} before).passed).length < limit)) v.text
  change v = Decision.verdict _ _ _ _ _ at same
  rw [← same] at other limited
  refine ⟨other, limited.trans (and_congr_right fun _ => ?_)⟩
  rw [passed_addAll, List.nil_append, length_counting, decide_eq_false_iff_not, Nat.not_lt]

/-- The limit is kept over every run. -/
theorem sparse_addAll_verdicts (creator : Creator) (user : UserId)
    (sparse : Allowance.Sparse limit window l.passed) (xs : List Incoming) :
    Allowance.Sparse limit window
      (l.addAll (l.verdicts creator user limit window xs)).passed := by
  induction xs generalizing l with
  | nil => exact sparse
  | cons x rest ih =>
    apply ih
    unfold add
    by_cases passes : (l.verdict creator user limit window x).passes = true
    · rw [if_pos passes]
      have admitted := (Request.verdict_judge creator user l.posts x _ x.text).1.symm.trans passes
      rw [Bool.and_eq_true, decide_eq_true_eq] at admitted
      have time : (l.verdict creator user limit window x).time = x.time :=
        congrArg Incoming.time (toIncoming_verdict x)
      rw [time]
      exact sparse.concat admitted.2
    · rw [if_neg passes]
      exact sparse

end Ledger

namespace Intake

variable {user : UserId} {limit window : Nat} {i : Intake} {now : Nat} {l : Ledger}
  (creator : Creator)

/-- What a text makes of a session, besides what it does to the hub. -/
theorem take_eq (i : Intake) (x : Incoming) :
    (i.take creator x).session.user = i.session.user ∧
      (i.take creator x).session.reader.allowance
        = (Request.decide i.session.reader.allowance x.time x.text).2 ∧
      (i.take creator x).posts = i.posts ++ (i.verdict creator x).asked.toList := by
  unfold take verdict Session.read Reader.react Frame.content? Reader.receive
  dsimp only
  cases Request.decide i.session.reader.allowance x.time x.text with
  | mk decision allowance =>
    cases decision with
    | post conversation content =>
      dsimp only
      rw [Session.answer_eq]
      exact ⟨rfl, rfl, rfl⟩
    | _ => exact ⟨rfl, rfl, (List.append_nil _).symm⟩

/-- A session agrees with a ledger at some time: its allowance recalls the texts that have passed,
and the creator was asked the same. -/
structure Follows (user : UserId) (limit window : Nat) (i : Intake) (now : Nat) (l : Ledger) :
    Prop where
  user : i.session.user = user
  limit : i.session.reader.allowance.limit = limit
  window : i.session.reader.allowance.window = window
  recalls : i.session.reader.allowance.Recalls now l.passed
  posts : i.posts = l.posts

/-- A reader follows its ledger from the start. -/
theorem follows_start (hub : Hub) (user : UserId) (settings : Settings) (began : Duration) :
    (start hub user settings began).Follows user settings.rateLimitCount settings.rateLimitWindow
      0 {} :=
  ⟨rfl, rfl, rfl, Allowance.recalls_new .., rfl⟩

/-- They give the same verdict on a text that comes later. -/
theorem Follows.verdict_eq (follows : i.Follows user limit window now l) {x : Incoming}
    (le : now ≤ x.time) : i.verdict creator x = l.verdict creator user limit window x := by
  unfold verdict Ledger.verdict
  rw [Request.decide_eq, (follows.recalls.mono le).admits_iff, follows.user, follows.limit,
    follows.window, follows.posts]

/-- They agree still after such a text. -/
theorem Follows.take (follows : i.Follows user limit window now l) {x : Incoming}
    (le : now ≤ x.time) :
    (i.take creator x).Follows user limit window x.time
      (l.add (l.verdict creator user limit window x)) := by
  obtain ⟨same_user, same_allowance, same_posts⟩ := take_eq creator i x
  have recalls := follows.recalls.mono le
  have admits := recalls.admits_iff
  rw [follows.limit, follows.window] at admits
  have passes : (l.verdict creator user limit window x).passes =
      (Request.isSend x.text && (i.session.reader.allowance.attempt x.time).1) := by
    rw [admits]
    exact (Request.verdict_judge creator user l.posts x _ x.text).1
  have time : (l.verdict creator user limit window x).time = x.time :=
    congrArg Incoming.time (Ledger.toIncoming_verdict x)
  rw [Request.decide_eq] at same_allowance
  refine ⟨same_user.trans follows.user, ?_, ?_, ?_, ?_⟩
  · rw [same_allowance]
    dsimp only
    split
    · exact (Allowance.limit_attempt ..).trans follows.limit
    · exact follows.limit
  · rw [same_allowance]
    dsimp only
    split
    · exact (Allowance.window_attempt ..).trans follows.window
    · exact follows.window
  · rw [same_allowance]
    unfold Ledger.add
    rw [passes, time]
    dsimp only
    cases Request.isSend x.text with
    | false => exact recalls
    | true => exact recalls.attempt
  · rw [same_posts, follows.verdict_eq creator le, follows.posts]
    rfl

/-- They give the same verdicts on texts that come later, at times that do not go back, and agree
at the end. -/
theorem Follows.verdicts_eq (follows : i.Follows user limit window now l) {xs : List Incoming}
    (inOrder : xs.Pairwise fun x y => x.time ≤ y.time) (later : ∀ x ∈ xs, now ≤ x.time) :
    i.verdicts creator xs = l.verdicts creator user limit window xs ∧
      (i.run creator xs).posts =
        (l.addAll (l.verdicts creator user limit window xs)).posts := by
  induction xs generalizing i now l with
  | nil => exact ⟨rfl, follows.posts⟩
  | cons x rest ih =>
    have le : now ≤ x.time := later x List.mem_cons_self
    obtain ⟨first, inOrder⟩ := List.pairwise_cons.mp inOrder
    obtain ⟨verdicts, posts⟩ := ih (follows.take creator le) inOrder first
    refine ⟨?_, posts⟩
    rw [Intake.verdicts, Ledger.verdicts, follows.verdict_eq creator le, verdicts]

end Intake

/-- **The limit over a run.** A session takes the texts of its peer at times that do not go back.
Whatever the creator answers to posts, by those that it was asked before:

* in no window do more texts pass than the limit, and no more posts are asked for;
* a text is undecodable or ignored exactly if it is no request to post, and a request to post is
  discarded for the limit exactly if as many texts as the limit have passed less than a window
  before; among these are the texts found invalid and the posts rejected;
* the posts asked for are those in the verdicts, and where any texts that did not pass are left
  out, the verdicts on all others are the same, and so are the posts. -/
theorem allowance_governs_run (creator : Creator) (hub : Hub) (user : UserId) (settings : Settings)
    (began : Duration) (xs : List Incoming) (inOrder : xs.Pairwise fun x y => x.time ≤ y.time) :
    let i := Intake.start hub user settings began
    let limit := settings.rateLimitCount
    let window := settings.rateLimitWindow
    let vs := i.verdicts creator xs
    (∀ start, (vs.filter fun v => v.passes && v.isWithin window start).length ≤ limit ∧
      (vs.filter fun v => v.asked.isSome && v.isWithin window start).length ≤ limit) ∧
    (∀ before v after, vs = before ++ v :: after →
      (v.outcome = .undecodable ∨ v.outcome = .ignored ↔ Request.isSend v.text = false) ∧
      (v.outcome = .rateLimited ↔ Request.isSend v.text = true ∧
        limit ≤ (before.filter fun w => w.counts window v.time).length)) ∧
    (i.run creator xs).posts = vs.filterMap Verdict.asked ∧
    ∀ kept : List Verdict, kept.Sublist vs →
      kept.filter Verdict.passes = vs.filter Verdict.passes →
      i.verdicts creator (kept.map Verdict.toIncoming) = kept ∧
        (i.run creator (kept.map Verdict.toIncoming)).posts = (i.run creator xs).posts := by
  intro i limit window vs
  have follows : i.Follows user limit window 0 {} := Intake.follows_start hub user settings began
  have ledger : ∀ ys : List Incoming, (ys.Pairwise fun x y => x.time ≤ y.time) →
      i.verdicts creator ys = Ledger.verdicts creator user limit window {} ys ∧
        (i.run creator ys).posts = (i.verdicts creator ys).filterMap Verdict.asked := by
    intro ys inOrder
    obtain ⟨verdicts, posts⟩ :=
      follows.verdicts_eq creator inOrder fun x _ => Nat.zero_le x.time
    refine ⟨verdicts, ?_⟩
    rw [posts, Ledger.posts_addAll, verdicts]
    rfl
  obtain ⟨verdicts, posts⟩ := ledger xs inOrder
  refine ⟨fun start => ?_, fun before v after split => ?_, posts, fun kept sub passed => ?_⟩
  · have passes : (vs.filter fun v => v.passes && v.isWithin window start).length ≤ limit := by
      have nothing : Allowance.Sparse limit window ({} : Ledger).passed :=
        Allowance.sparse_nil limit window
      have sparse := Ledger.sparse_addAll_verdicts creator user nothing xs start
      rwa [Ledger.passed_addAll, ← verdicts, List.nil_append, Ledger.length_within] at sparse
    refine ⟨passes, Nat.le_trans ?_ passes⟩
    rw [← List.countP_eq_length_filter, ← List.countP_eq_length_filter]
    apply List.countP_mono_left
    intro v hv asked
    rw [show vs = _ from verdicts] at hv
    rw [Bool.and_eq_true] at asked ⊢
    exact ⟨Ledger.passes_of_asked hv asked.1, asked.2⟩
  · exact Ledger.outcome_iff (verdicts.symm.trans split)
  · have fewer : (kept.map Verdict.toIncoming).Sublist xs := by
      have mapped := sub.map Verdict.toIncoming
      rwa [show vs = _ from verdicts, Ledger.map_toIncoming_verdicts] at mapped
    obtain ⟨again, posts'⟩ := ledger _ (inOrder.sublist fewer)
    rw [show vs = _ from verdicts] at sub passed
    have same : i.verdicts creator (kept.map Verdict.toIncoming) = kept :=
      again.trans (Ledger.verdicts_of_sublist sub passed)
    refine ⟨same, ?_⟩
    rw [posts', posts, same, ← Ledger.filterMap_asked sub.subset, passed,
      Ledger.filterMap_asked (List.Subset.refl _), verdicts]

/-- With one text in ten seconds, a text without a proper id and a post that is rejected use up the
allowance, one that comes too early and one of another type do not, and can be left out. -/
theorem allowance_governs_hasty_peer :
    let lost := "\x7b\"type\":\"send_message\",\"conversation_id\":\"lobby\",\"content\":\"hi\"\x7d"
    let sent := "\x7b\"type\":\"send_message\",\"content\":\"hi\",\"conversation_id\":"
      ++ "\"00000000-0000-0000-0000-0000000000c1\"\x7d"
    let xs : List Incoming :=
      [⟨0, lost⟩, ⟨.seconds 5, sent⟩, ⟨.seconds 10, sent⟩,
        ⟨.seconds 11, "\x7b\"type\":\"typing\"\x7d"⟩, ⟨.seconds 20, sent⟩]
    let creator : Creator := fun asked _ => if asked = [] then .error .notParticipant else .ok ()
    let i := Intake.start .empty ⟨1⟩ { rateLimitCount := 1, rateLimitWindow := .seconds 10 } 0
    let vs := i.verdicts creator xs
    (xs.Pairwise fun x y => x.time ≤ y.time) ∧
      vs.map (fun v => v.outcome) = [.invalid, .rateLimited, .rejected, .ignored, .created] ∧
      i.verdicts creator ((vs.filter Verdict.passes).map Verdict.toIncoming)
        = vs.filter Verdict.passes := by
  refine ⟨?inOrder, by decide +kernel, ?leftOut⟩
  case inOrder => simp [Duration.seconds]
  case leftOut =>
    refine ((allowance_governs_run _ _ _ _ _ _ ?inOrder).2.2.2 _ List.filter_sublist ?passed).1
    case inOrder => simp [Duration.seconds]
    case passed =>
      rw [List.filter_filter]
      simp only [Bool.and_self]

end Parley
