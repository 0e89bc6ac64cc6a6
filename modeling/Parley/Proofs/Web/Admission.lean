import Parley.Application
import Parley.Proofs.Hub.Effect
import Parley.Proofs.Web.Authentication

/-!
# Who is admitted to a session

A `GET` of `/ws` is answered in the name of the user whose token it presents, or not at all
(`upgrade_gate`): it is unauthorized exactly if there is no such user, nothing has changed then but
the log, and a session is only started for this user.
-/

namespace Parley

/-- Notes go to the front of the log one by one. -/
theorem Hub.foldl_note (notices : List Notice) (hub : Hub) :
    notices.foldl Hub.note hub = { hub with log := notices.reverse ++ hub.log } := by
  induction notices generalizing hub with
  | nil => rfl
  | cons n rest ih =>
    rw [List.foldl_cons, ih, List.reverse_cons, List.append_assoc]
    rfl

/-- A session starts on a connection of its user. -/
theorem Session.userOf?_start (hub : Hub) (user : UserId) (settings : Settings) (now : Duration) :
    (start hub user settings now).2.userOf? (start hub user settings now).1.connection
      = some user := by
  unfold start
  rw [Hub.userOf?_register, Hub.userOf?, Hub.connection?_openFor]
  exact congrArg (Option.map Connection.user) (if_pos rfl)

/-- Whatever an access token is refused for is a fault of the token. -/
theorem Refusal.exists_fault (refusal : Refusal) :
    ∃ fault, refusal.toFailure.cause = .auth fault := by
  cases refusal with
  | faulty fault => exact ⟨_, rfl⟩
  | wrongType => exact ⟨_, rfl⟩
  | malformedUser => exact ⟨_, rfl⟩

namespace Web

/-- Faults of tokens are the failures that are answered as unauthorized. -/
theorem unauthorized_failureResponse {f : Failure} :
    (failureResponse f).status = .unauthorized ↔ ∃ fault, f.cause = .auth fault := by
  unfold failureResponse
  cases f.cause with
  | auth fault => cases fault <;> exact iff_of_true rfl ⟨_, rfl⟩
  | entity fault =>
    cases fault <;> exact iff_of_false (fun status => nomatch status) (by rintro ⟨_, ⟨⟩⟩)
  | config => exact iff_of_false (fun status => nomatch status) (by rintro ⟨_, ⟨⟩⟩)
  | other text => exact iff_of_false (fun status => nomatch status) (by rintro ⟨_, ⟨⟩⟩)

/-- The verifier of access tokens accepts what they accept. -/
theorem accessVerifier_eq_ok {tokens : AccessTokens} {time : Nat} {token : String}
    {user : UserId} :
    accessVerifier tokens time token = .ok user ↔ tokens.verify time token = .ok user := by
  unfold accessVerifier
  cases tokens.verify time token with
  | error refusal => exact iff_of_false (by rintro ⟨⟩) (by rintro ⟨⟩)
  | ok found => exact ⟨fun h => by cases h; rfl, fun h => by cases h; rfl⟩

/-- A request fails because of its token if it presents none, or if the one presented is refused. -/
theorem Request.refused_iff {r : Request} {tokens : AccessTokens} {time : Nat} :
    (∃ rejection fault, r.authenticate (accessVerifier tokens time) = .error rejection ∧
        rejection.failure.cause = .auth fault) ↔
      (∀ token, ¬r.Presents token) ∨
        ∃ token refusal, r.Presents token ∧ tokens.verify time token = .error refusal := by
  by_cases nothing : ∀ token, ¬r.Presents token
  case pos =>
    refine iff_of_true ⟨_, _, authenticate_of_none nothing _, rfl⟩ (.inl nothing)
  case neg =>
    obtain ⟨token, presents⟩ := not_forall_not.mp nothing
    rw [authenticate_of_presents presents, or_iff_right nothing]
    constructor
    · rintro ⟨rejection, _, failed, -⟩
      refine ⟨token, ?_⟩
      cases verified : tokens.verify time token with
      | error refusal => exact ⟨refusal, presents, rfl⟩
      | ok user => cases (accessVerifier_eq_ok.mpr verified).symm.trans failed
    · rintro ⟨other, refusal, presents_other, refused⟩
      obtain rfl := presents.unique presents_other
      obtain ⟨fault, cause⟩ := refusal.exists_fault
      refine ⟨.ofRefusal refusal, fault, ?_, cause⟩
      rw [accessVerifier, refused]
      rfl

/-- A user is found if the token presented is accepted as that user's. -/
theorem Request.accepted_iff {r : Request} {tokens : AccessTokens} {time : Nat} {user : UserId} :
    r.authenticate (accessVerifier tokens time) = .ok user ↔
      ∃ token, r.Presents token ∧ tokens.verify time token = .ok user := by
  constructor
  · intro found
    by_cases nothing : ∀ token, ¬r.Presents token
    case pos => cases (authenticate_of_none nothing _).symm.trans found
    case neg =>
      obtain ⟨token, presents⟩ := not_forall_not.mp nothing
      rw [authenticate_of_presents presents] at found
      exact ⟨token, presents, accessVerifier_eq_ok.mp found⟩
  · rintro ⟨token, presents, accepted⟩
    rw [authenticate_of_presents presents]
    exact accessVerifier_eq_ok.mpr accepted

/-- More headers leave the status as it is. -/
theorem Response.status_withHeaders (response : Response) (headers : List (String × String)) :
    (response.withHeaders headers).status = response.status := rfl

namespace Site

variable {site : Site} {r : Request}

/-- A `GET` of `/ws` is answered by the route, with some headers more. -/
theorem answer_socket (hub : Hub) (get : r.method = .get) (path : r.path = "/ws") :
    site.answer hub r = { site.openSocket r with
      response := (site.openSocket r).response.withHeaders (site.origins.headers r) } := by
  have route : Route.ofPath? r.path = some .socket := by
    rw [path]
    rfl
  unfold answer dispatch
  rw [route, get]
  rfl

/-- The answer is unauthorized if no user is found because of a fault of the token. Once a user is
found, whatever is missing for a WebSocket is answered otherwise. -/
theorem unauthorized_openSocket :
    (site.openSocket r).response.status = .unauthorized ↔ ∃ rejection fault,
      r.authenticate site.verify = .error rejection ∧ rejection.failure.cause = .auth fault := by
  unfold openSocket
  cases r.authenticate site.verify with
  | error rejection =>
    refine unauthorized_failureResponse.trans ⟨fun ⟨fault, cause⟩ => ⟨_, fault, rfl, cause⟩, ?_⟩
    rintro ⟨_, fault, ⟨⟩, cause⟩
    exact ⟨fault, cause⟩
  | ok user =>
    refine iff_of_false ?_ (by rintro ⟨_, _, ⟨⟩, _⟩)
    cases Handshake.check r site.upgradable with
    | error fault => cases fault <;> exact fun status => nomatch status
    | ok key => exact fun status => nomatch status

/-- A session is opened for the user who was found. -/
theorem authenticate_of_session {user : UserId}
    (opened : (site.openSocket r).session = some user) :
    r.authenticate site.verify = .ok user := by
  unfold openSocket at opened
  cases found : r.authenticate site.verify with
  | error rejection =>
    rw [found] at opened
    cases opened
  | ok other =>
    rw [found] at opened
    dsimp only at opened
    cases check : Handshake.check r site.upgradable with
    | error fault =>
      rw [check] at opened
      cases opened
    | ok key =>
      rw [check] at opened
      exact congrArg Except.ok (Option.some_inj.mp opened)

end Site

end Web

namespace Loopback.World

/-- Nothing has changed from one world to another but that something may have been noted. -/
def OnlyNoted (w later : World Backend) : Prop :=
  ∃ notices, later =
    { w with state := w.state.mapHub fun hub => { hub with log := notices ++ hub.log } }

/-- A session of a user has been added to a world, on a connection of that user, and neither
conversations nor messages have changed. -/
structure Joined (w later : World Backend) (user : UserId) : Prop where
  line : ∃ line, later.lines = w.lines ++ [line] ∧ line.session.user = user ∧
    later.state.hub.userOf? line.session.connection = some user
  directory : later.state.directory = w.state.directory
  messages : later.state.messages = w.state.messages

variable (now : Timestamp) (w : World Backend) (site : Web.Site) (settings : Settings)
  (r : Web.Request)

/-- A request is answered by the site, and changes the world only if that opens a session. -/
theorem request_cases :
    let outcome := w.request (Backend.surroundings now) site settings r
    outcome.1 = site.answer w.state.hub r ∧
      match (site.answer w.state.hub r).session with
      | none => w.OnlyNoted outcome.2
      | some user => w.Joined outcome.2 user := by
  unfold request
  have hub : (Backend.surroundings now).hub w.state = w.state.hub := rfl
  dsimp only
  rw [hub, Hub.foldl_note]
  generalize site.answer w.state.hub r = answer
  cases answer.session with
  | none => exact ⟨rfl, answer.notices.reverse, rfl⟩
  | some user =>
    have owned := Session.userOf?_start
      { w.state.hub with log := answer.notices.reverse ++ w.state.hub.log } user settings w.now
    exact ⟨rfl, ⟨_, rfl, rfl, owned⟩, rfl, rfl⟩

end Loopback.World

/-- **Who is admitted.** A `GET` of `/ws` to an application, with whatever query and headers, among
any running sessions:

* if the request presents a token, any verifier is asked about this token, and otherwise none is;
* the answer is unauthorized and nothing but the log has changed, exactly if no token is presented
  or the one presented is refused, whatever else the request carries;
* the world changes otherwise only by the session that the answer starts, and that is the session of
  the user whose token it is;
* a token that stands in the query is the one presented, in whichever form it is written, such as
  with all its bytes escaped, and whichever fields of other names stand before and after it. -/
theorem upgrade_gate (app : Application) (time : Nat) (upgradable : Bool) (now : Timestamp)
    (w : Loopback.World Backend) (settings : Settings) (r : Web.Request) (get : r.method = .get)
    (path : r.path = "/ws") :
    let site : Web.Site := { (app.site time).1 with upgradable }
    let outcome := w.request (Backend.surroundings now) site settings r
    (∀ verify : Web.Verifier,
      (∀ token, r.Presents token → r.authenticate verify = verify token) ∧
      ((∀ token, ¬r.Presents token) →
        r.authenticate verify = .error { failure := .auth .missingToken })) ∧
    (outcome.1.response.status = .unauthorized ∧ w.OnlyNoted outcome.2 ↔
      (∀ token, ¬r.Presents token) ∨
        ∃ token refusal, r.Presents token ∧ app.tokens.verify time token = .error refusal) ∧
    (match outcome.1.session with
      | none => w.OnlyNoted outcome.2
      | some user => w.Joined outcome.2 user ∧
          ∃ token, r.Presents token ∧ app.tokens.verify time token = .ok user) ∧
    ∀ token : String, Form.Spells (Form.encode token) (Utf8.encode token.toList) ∧
      ∀ (written : List Char) (before after : List (List Char)), token ≠ "" →
        Form.Spells written (Utf8.encode token.toList) →
        (∀ f ∈ before ++ after, '&' ∉ f ∧ '#' ∉ f ∧ (Form.field (Utf8.encode f)).1 ≠ "token") →
        r.target = "/ws?" ++ String.ofList
          (['&'].intercalate (before ++ ("token=".toList ++ written) :: after)) →
        r.Presents token := by
  intro site outcome
  obtain ⟨answered, changed⟩ := Loopback.World.request_cases now w site settings r
  have socket : site.answer w.state.hub r = _ := Web.Site.answer_socket w.state.hub get path
  have verify : site.verify = Web.accessVerifier app.tokens time := rfl
  have session : outcome.1.session = (site.openSocket r).session := by
    rw [answered, socket]
  have status : outcome.1.response.status = (site.openSocket r).response.status := by
    rw [answered, socket, Web.Response.status_withHeaders]
  replace changed : match outcome.1.session with
      | none => w.OnlyNoted outcome.2
      | some user => w.Joined outcome.2 user := by
    rw [answered]
    exact changed
  refine ⟨fun verifier => ?asked, ?refused, ?joined, ?arrives⟩
  case asked =>
    exact ⟨fun token presents => r.authenticate_of_presents presents verifier,
      fun nothing => r.authenticate_of_none nothing verifier⟩
  case refused =>
    rw [status, Web.Site.unauthorized_openSocket, verify, Web.Request.refused_iff]
    refine ⟨And.left, fun refused => ⟨refused, ?_⟩⟩
    cases opened : outcome.1.session with
    | none =>
      rw [opened] at changed
      exact changed
    | some user =>
      have found := Web.Site.authenticate_of_session (session.symm.trans opened)
      obtain ⟨_, _, failed, -⟩ := Web.Request.refused_iff.mpr refused
      cases found.symm.trans failed
  case joined =>
    cases opened : outcome.1.session with
    | none =>
      rw [opened] at changed
      exact changed
    | some user =>
      have found := Web.Site.authenticate_of_session (session.symm.trans opened)
      rw [opened] at changed
      exact ⟨changed, Web.Request.accepted_iff.mp found⟩
  case arrives =>
    intro token
    refine ⟨Form.spells_encode token, ?_⟩
    intro written before after some_character spells others target
    exact Web.Request.presents_of_target some_character spells others target

/-- A token in the query that is none of ours is refused, in whichever way it is written, and it
does not help that the header bears another one. -/
theorem upgrade_gate_stranger :
    let app : Application := { config := {}, tokens := .ofSecret "secret" }
    let midnight : Timestamp :=
      ⟨⟨1970, 1, 1, by decide, by decide⟩, 0, 0, by decide, by decide, by decide⟩
    let r : Web.Request :=
      { target := "/ws?lang=de&token=%C3%bc+b&token2=x"
        headers := [("Authorization", Utf8.encode "Bearer other".toList)] }
    let w : Loopback.World Backend := { state := .empty }
    let outcome := w.request (Backend.surroundings midnight) (app.site 0).1 {} r
    r.method = .get ∧ r.path = "/ws" ∧ r.Presents "ü b" ∧
      outcome.1.response.status = .unauthorized ∧ w.OnlyNoted outcome.2 := by
  intro app midnight r w outcome
  have get : r.method = .get := rfl
  have path : r.path = "/ws" := by decide
  obtain ⟨-, refused, -, arrives⟩ := upgrade_gate app 0 true midnight w {} r get path
  have spells : Form.Spells "%C3%bc+b".toList (Utf8.encode "ü b".toList) :=
    .escape (a := 12) (b := 3) rfl rfl
      (.escape (a := 11) (b := 12) rfl rfl (.space (.plain (by decide) .nil)))
  have presents : r.Presents "ü b" :=
    (arrives "ü b").2 _ ["lang=de".toList] ["token2=x".toList] (by decide) spells (by decide) rfl
  exact ⟨get, path, presents, refused.mpr (.inr ⟨_, .faulty .parts, presents, rfl⟩)⟩

end Parley
