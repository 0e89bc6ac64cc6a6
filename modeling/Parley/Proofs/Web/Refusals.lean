import Parley.Proofs.Token.Issue
import Parley.Proofs.Web.Admission

/-!
# Refused tokens look alike

A token may be refused for many reasons, from a text that is no token at all to one that is signed
and in force and names no user. Each of them is a fault of the token (`Refusal.cause_mem`), and all
of these are answered by one response, `Web.invalidToken` (`Web.failureResponse_toFailure`). So two
requests whose tokens are refused cannot be told apart by their answers (`refusals_alike`): whether
a token was signed, whom it was for and when it ran out stays with the server.
-/

namespace Parley

/-- Whatever an access token is refused for is reported as an invalid token, an expired one or one
of the wrong type. -/
theorem Refusal.cause_mem (refusal : Refusal) :
    refusal.toFailure.cause ∈
      [Cause.auth .invalidToken, .auth .expired, .auth .wrongTokenType] := by
  cases refusal with
  | faulty fault => cases fault <;> decide
  | wrongType => decide
  | malformedUser => decide

namespace Web

/-- The answer to a request whose token is refused. -/
def invalidToken : Response :=
  refusal .unauthorized "invalid token"

/-- What a refused token is answered with. -/
theorem body_invalidToken : invalidToken.body = "\x7b\"error\":\"invalid token\"\x7d" := by
  decide

/-- It does not say what the token is refused for. -/
theorem failureResponse_toFailure (refusal : Refusal) :
    failureResponse refusal.toFailure = invalidToken := by
  cases refusal with
  | faulty fault => cases fault <;> rfl
  | wrongType => rfl
  | malformedUser => rfl

namespace Site

variable {site : Site} {r : Request}

/-- A request whose token is refused is answered so, and no session starts. -/
theorem openSocket_of_refused {tokens : AccessTokens} {time : Nat} {token : String}
    {refusal : Refusal} (verify : site.verify = accessVerifier tokens time)
    (presents : r.Presents token) (refused : tokens.verify time token = .error refusal) :
    site.openSocket r =
      { response := invalidToken, notices := (Rejection.ofRefusal refusal).notices } := by
  have rejected : r.authenticate site.verify = .error (Rejection.ofRefusal refusal) := by
    rw [Request.authenticate_of_presents presents, verify, accessVerifier, refused]
    rfl
  unfold openSocket
  rw [rejected]
  exact congrArg (fun response => Answer.mk response none _) (failureResponse_toFailure refusal)

/-- The answer to a request for `/ws` depends on its method, on the origin it names and on how the
route would answer it, and on nothing else. -/
theorem response_socket_congr {other : Site} {s : Request} (hub hub' : Hub)
    (origins : site.origins = other.origins) (path : r.path = "/ws") (path' : s.path = "/ws")
    (method : r.method = s.method) (origin : r.header? "origin" = s.header? "origin")
    (route : (site.openSocket r).response = (other.openSocket s).response) :
    (site.answer hub r).response = (other.answer hub' s).response := by
  have found : ∀ q : Request, q.path = "/ws" → Route.ofPath? q.path = some .socket := by
    intro q path
    rw [path]
    rfl
  have dispatched : (site.dispatch hub r).response = (other.dispatch hub' s).response := by
    unfold dispatch
    rw [found r path, found s path', method]
    cases s.method with
    | get => exact route
    | head => exact congrArg Response.withoutBody route
    | options => rfl
    | other => rfl
  have told : site.origins.headers r = other.origins.headers s := by
    unfold Origins.headers Origins.allowOrigin
    rw [origins, origin]
  change (site.dispatch hub r).response.withHeaders _ =
    (other.dispatch hub' s).response.withHeaders _
  rw [dispatched, told]

end Site

end Web

/-- **Refusals tell nothing.** Two tokens, each refused for whatever reason, now or at another time,
and two requests for `/ws` with the same method and from the same origin that present them, in
whichever way and whatever else they carry. The answers are the same, whatever goes on in the hub:
no session starts, and to a `GET` the status is 401 and the body says that the token is invalid.

No text is refused as anything but an invalid token, an expired one or one of the wrong type. -/
theorem refusals_alike (app : Application) (upgradable : Bool) {time₁ time₂ : Nat}
    {token₁ token₂ : String} {refusal₁ refusal₂ : Refusal}
    (refused₁ : app.tokens.verify time₁ token₁ = .error refusal₁)
    (refused₂ : app.tokens.verify time₂ token₂ = .error refusal₂) {r₁ r₂ : Web.Request}
    (presents₁ : r₁.Presents token₁) (presents₂ : r₂.Presents token₂) (path₁ : r₁.path = "/ws")
    (path₂ : r₂.path = "/ws") (method : r₁.method = r₂.method)
    (origin : r₁.header? "origin" = r₂.header? "origin") (hub₁ hub₂ : Hub) :
    let answer₁ := Web.Site.answer { (app.site time₁).1 with upgradable } hub₁ r₁
    let answer₂ := Web.Site.answer { (app.site time₂).1 with upgradable } hub₂ r₂
    answer₁.response = answer₂.response ∧
    (r₁.method = .get →
      answer₁.response.status.code = 401 ∧
      answer₁.response.body = "\x7b\"error\":\"invalid token\"\x7d" ∧
      answer₁.session = none ∧ answer₂.session = none) ∧
    ∀ time token refusal, app.tokens.verify time token = .error refusal →
      refusal.toFailure.cause ∈
        [Cause.auth .invalidToken, .auth .expired, .auth .wrongTokenType] := by
  intro answer₁ answer₂
  let site (time : Nat) : Web.Site := { (app.site time).1 with upgradable }
  have opened₁ : (site time₁).openSocket r₁ = _ :=
    Web.Site.openSocket_of_refused rfl presents₁ refused₁
  have opened₂ : (site time₂).openSocket r₂ = _ :=
    Web.Site.openSocket_of_refused rfl presents₂ refused₂
  refine ⟨?same, fun get => ?said, fun _ _ refusal _ => refusal.cause_mem⟩
  case same =>
    refine Web.Site.response_socket_congr hub₁ hub₂ rfl path₁ path₂ method origin ?_
    exact (congrArg Web.Answer.response opened₁).trans (congrArg Web.Answer.response opened₂).symm
  case said =>
    have socket₁ : answer₁ = _ := @Web.Site.answer_socket (site time₁) r₁ hub₁ get path₁
    have socket₂ : answer₂ = _ :=
      @Web.Site.answer_socket (site time₂) r₂ hub₂ (method ▸ get) path₂
    rw [socket₁, socket₂, opened₁, opened₂]
    exact ⟨rfl, Web.body_invalidToken, rfl, rfl⟩

/-- A token issued is refused as expired once its time is over. -/
theorem AccessTokens.verify_issue_of_late (tokens : AccessTokens) {now ttl time : Nat}
    (user : UserId) (inside : now + ttl < Word.limit64) (late : now + ttl < time) :
    tokens.verify time (tokens.issue now ttl user) = .error (.faulty .expired) := by
  let claims := issuedClaims now ttl user
  have issued : now < Word.limit64 := by omega
  have stated : (tokens.issueClaims claims).States claims :=
    (states_issueClaims_iff rfl issued inside).mpr rfl
  have expired : tokens.open? time (tokens.issue now ttl user) = .error .expired :=
    open?_eq_expired_iff.mpr ⟨_, _, signed_issue_iff.mpr ⟨rfl, rfl⟩, stated, late⟩
  rw [verify, expired]

/-- The request for `/ws` with a token in its query. -/
def Web.Request.asking (token : String) : Web.Request where
  target := "/ws?" ++ String.ofList (['&'].intercalate ["token=".toList ++ Form.encode token])

/-- A request that asks for a session with a token presents it. -/
theorem Web.Request.presents_asking {token : String} (some_character : token ≠ "") :
    (asking token).Presents token ∧ (asking token).path = "/ws" := by
  have spells := Form.spells_encode token
  have query_chars : '#' ∉ "token=".toList ++ Form.encode token :=
    List.not_mem_append (by decide) (spells.not_mem (by decide))
  refine ⟨@presents_of_target _ _ _ [] [] some_character spells (by simp) rfl, ?_⟩
  refine (path_and_query "/ws".toList rfl (by decide) query_chars ?_).1
  simp [asking]

/-- A token that was good for an hour and a text that never was a token, the one in the query and
the other in the header, are refused for different reasons and get the same answer. -/
theorem refusals_alike_expired_and_foreign :
    let app : Application := { config := {}, tokens := .ofSecret "gut gehütet" }
    let expired := app.tokens.issue 1700000000 3600 ⟨7⟩
    let r : Web.Request := .asking expired
    let s : Web.Request :=
      { target := "/ws", headers := [("Authorization", Utf8.encode "Bearer open.sesame".toList)] }
    app.tokens.verify 1700003601 expired = .error (.faulty .expired) ∧
      app.tokens.verify 0 "open.sesame" = .error (.faulty .parts) ∧
      r.Presents expired ∧ s.Presents "open.sesame" ∧
      ((app.site 1700003601).1.answer .empty r).response
        = ((app.site 0).1.answer .empty s).response := by
  intro app expired r s
  have late : app.tokens.verify 1700003601 expired = .error (.faulty .expired) :=
    app.tokens.verify_issue_of_late ⟨7⟩ (by decide) (by decide)
  have foreign : app.tokens.verify 0 "open.sesame" = .error (.faulty .parts) := by
    decide
  have some_character : expired ≠ "" := by
    intro nothing
    rw [nothing] at late
    cases late
  obtain ⟨presents, path⟩ := Web.Request.presents_asking some_character
  have presents' : s.Presents "open.sesame" := by
    have no_field : s.tokenFields = [] := by decide
    have visible : ∀ c ∈ "open.sesame".toList, Web.Request.isVisible c = true :=
      List.all_eq_true.mp (by decide)
    refine .bearer (by decide) (fun value only => ?_) visible (by decide +kernel)
    rw [no_field] at only
    cases only
  have origin : r.header? "origin" = s.header? "origin" := by decide +kernel
  have alike := refusals_alike app true late foreign presents presents' path (by decide) rfl origin
    .empty .empty
  exact ⟨late, foreign, presents, presents', alike.1⟩

end Parley
