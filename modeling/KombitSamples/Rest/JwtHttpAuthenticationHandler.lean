import KombitSamples.Rest.ConfirmationJwtSecurityTokenHandler

/-!
# KombitSamples.Rest.JwtHttpAuthenticationHandler

The message handler in front of the REST API.  A request to the API is
answered at once unless its token is accepted; then the handler records the
principal and hands the request on.  Any other request is handed on as it is.

* `accepted_of_authenticate` — what is known of a request that a principal is set for;
* `failsClosed_iff` — when a request that is not accepted is answered.
-/

namespace KombitSamples.Rest

open Fallible

/-! ## Settings and responses -/

structure Constants where
  jwtCvr : Option String
  jwtIssuer : Option String
  /-- Loaded from the certificate store on every use. -/
  jwtSigningCertificate : Except Exception X509Certificate2

structure ErrorResponse where
  status : Nat
  error : String
deriving DecidableEq, Repr

inductive HttpContent where
  | errorResponse (response : ErrorResponse)
  | text (content : String)
deriving DecidableEq, Repr

structure HttpResponseMessage where
  statusCode : Nat
  content : Option HttpContent := none
deriving DecidableEq, Repr

/-! ## The surroundings of a request -/

structure HttpContext where
  user : Option ClaimsPrincipal
deriving DecidableEq, Repr

/-- What the code can reach outside its arguments: `Thread.CurrentPrincipal`
and `HttpContext.Current`, which may be null. -/
structure Ambient where
  currentPrincipal : Option ClaimsPrincipal
  current : Option HttpContext
deriving DecidableEq, Repr

/-! ## SendAsync -/

def canHandle (request : HttpRequestMessage) : Bool :=
  Text.containsIgnoreCase request.absolutePath "/api/"

def authorizationRequired : Exception := .argument "Authorization is required"

/-- `Validate`.  Its test for a null principal comes too late to matter: the
token handler has read the claims by then. -/
def validate (constants : Constants) (lib : Libraries) (now : DateTime)
    (request : HttpRequestMessage) : Except Exception ClaimsPrincipal := do
  let authorization ← deref authorizationRequired request.authorization
  ensure authorizationRequired (!authorization.scheme.isEmpty)
  let issuerSigningKey ← constants.jwtSigningCertificate
  validateToken lib now (some request) {
    validIssuer := constants.jwtIssuer
    validateAudience := false
    issuerSigningKey := issuerSigningKey }

def isWhiteSpace (s : String) : Bool := s.toList.all Char.isWhitespace

/-- The name that `SetPrincipal` looks up and does not use.  Without a name
it takes the first claim, and fails when there is none. -/
def principalName (identity : ClaimsIdentity) (principal : ClaimsPrincipal) :
    Except Exception String :=
  match identity.name with
  | some name => if isWhiteSpace name then firstValue else .ok name
  | none => firstValue
where
  firstValue : Except Exception String := do
    let claim ← deref (.invalidOperation "Sequence contains no elements") principal.claims.head?
    pure claim.value

/-- The body of the `try` block: the principal to set, or none when it is
not authenticated. -/
def authenticate (constants : Constants) (lib : Libraries) (now : DateTime)
    (request : HttpRequestMessage) : Except Exception (Option ClaimsPrincipal) := do
  let claimsPrincipal ← validate constants lib now request
  let identity ← deref .nullReference claimsPrincipal.identity
  if !identity.isAuthenticated then pure none
  else do
    let _ ← principalName identity claimsPrincipal
    pure (some claimsPrincipal)

/-- `SetPrincipal`, for an authenticated principal. -/
def setPrincipal (ambient : Ambient) (principal : ClaimsPrincipal) : Ambient where
  currentPrincipal := some principal
  current := ambient.current.map fun context => { context with user := some principal }

/-- `HandleExceptionResponse`; it reads `HttpContext.Current`. -/
def handleExceptionResponse (ambient : Ambient) : Except Exception HttpResponseMessage := do
  let _ ← deref .nullReference ambient.current
  pure {
    statusCode := 401
    content := some (.errorResponse ⟨401, "Security Token Invalid"⟩) }

/-- What becomes of a request: it is answered, or handed on. -/
inductive Disposition where
  | respond (response : HttpResponseMessage)
  | forward
deriving DecidableEq, Repr

/-- `SendAsync`. -/
def sendAsync (constants : Constants) (lib : Libraries) (now : DateTime)
    (request : HttpRequestMessage) (ambient : Ambient) :
    Ambient × Except Exception Disposition :=
  if !canHandle request then (ambient, .ok .forward)
  else
    match authenticate constants lib now request with
    | .ok (some principal) => (setPrincipal ambient principal, .ok .forward)
    | .ok none => (ambient, .ok (.respond { statusCode := 403 }))
    | .error _ => (ambient, (handleExceptionResponse ambient).map .respond)

/-! ## What is known of a request that a principal is set for -/

/-- The token of a request was accepted at an instant under the configured issuer
and signing key, for this principal, and the request is confirmed by its client
certificate. -/
structure Accepted (constants : Constants) (lib : Libraries) (now : DateTime)
    (request : HttpRequestMessage) (principal : ClaimsPrincipal) : Prop where
  scheme : ∃ authorization, request.authorization = some authorization ∧ authorization.scheme ≠ ""
  token : ∃ issuerSigningKey, constants.jwtSigningCertificate = .ok issuerSigningKey ∧
    lib.validateToken ⟨constants.jwtIssuer, false, issuerSigningKey⟩ now request.token =
      .ok (some principal)
  confirmed : Confirmed lib request principal.claims

variable {constants : Constants} {lib : Libraries} {now : DateTime}
  {request : HttpRequestMessage}

/-- Everything that validation asks of a request: a scheme, the signing key
of the settings, the consent of the library and a confirmed certificate. -/
def Validates (constants : Constants) (lib : Libraries) (now : DateTime)
    (request : HttpRequestMessage) (principal : ClaimsPrincipal) : Prop :=
  ∃ authorization issuerSigningKey, request.authorization = some authorization ∧
    authorization.scheme ≠ "" ∧ constants.jwtSigningCertificate = .ok issuerSigningKey ∧
    lib.validateToken ⟨constants.jwtIssuer, false, issuerSigningKey⟩ now authorization.parameter =
      .ok (some principal) ∧
    Confirmed lib request principal.claims

theorem validate_eq_ok_iff {principal : ClaimsPrincipal} :
    validate constants lib now request = .ok principal ↔
      Validates constants lib now request principal := by
  simp only [validate, Validates, bind_eq_ok, deref_eq_ok, ensure_eq_ok, validateToken_eq_ok_iff]
  constructor
  · intro h
    obtain ⟨authorization, hauth, -, hscheme, issuerSigningKey, hkey, authorization', hauth', hlib,
      hconfirmed⟩ := h
    obtain rfl : authorization = authorization' := Option.some.inj (hauth.symm.trans hauth')
    exact ⟨authorization, issuerSigningKey, hauth, by simpa using hscheme, hkey, hlib, hconfirmed⟩
  · intro h
    obtain ⟨authorization, issuerSigningKey, hauth, hscheme, hkey, hlib, hconfirmed⟩ := h
    exact ⟨authorization, hauth, (), by simpa using hscheme, issuerSigningKey, hkey, authorization,
      hauth, hlib, hconfirmed⟩

theorem accepted_of_validate {principal : ClaimsPrincipal}
    (h : validate constants lib now request = .ok principal) :
    Accepted constants lib now request principal := by
  obtain ⟨authorization, issuerSigningKey, hauth, hscheme, hkey, hlib, hconfirmed⟩ :=
    validate_eq_ok_iff.mp h
  refine ⟨⟨authorization, hauth, hscheme⟩, ⟨issuerSigningKey, hkey, ?_⟩, hconfirmed⟩
  rw [HttpRequestMessage.token, hauth, Option.bind_some]
  exact hlib

theorem accepted_of_authenticate {principal : ClaimsPrincipal}
    (h : authenticate constants lib now request = .ok (some principal)) :
    Accepted constants lib now request principal := by
  simp only [authenticate, bind_eq_ok] at h
  obtain ⟨claimsPrincipal, hvalidate, identity, -, hrest⟩ := h
  split at hrest
  · simp at hrest
  · simp only [bind_eq_ok, pure_eq_ok, Option.some.injEq] at hrest
    obtain ⟨-, -, rfl⟩ := hrest
    exact accepted_of_validate hvalidate

/-! ## What becomes of a request that is not accepted -/

/-- An authenticated principal that `SetPrincipal` finds a name for. -/
def Named (principal : ClaimsPrincipal) : Prop :=
  ∃ identity, principal.identity = some identity ∧ identity.isAuthenticated = true ∧
    ((∃ name, identity.name = some name ∧ isWhiteSpace name = false) ∨ principal.claims ≠ [])

def Unauthenticated (principal : ClaimsPrincipal) : Prop :=
  ∃ identity, principal.identity = some identity ∧ identity.isAuthenticated = false

/-- A name is found unless the identity has none, or only white space, and
there is no claim. -/
theorem returns_principalName_iff {identity : ClaimsIdentity} {principal : ClaimsPrincipal} :
    Returns (principalName identity principal) ↔
      (∃ name, identity.name = some name ∧ isWhiteSpace name = false) ∨ principal.claims ≠ [] := by
  have hfirst : Returns (principalName.firstValue principal) ↔ principal.claims ≠ [] := by
    simp only [principalName.firstValue, returns_bind, deref_eq_ok, returns_pure, and_true,
      ← Option.ne_none_iff_exists', ne_eq, List.head?_eq_none_iff]
  unfold principalName
  cases identity.name with
  | none => simp [hfirst]
  | some name =>
      cases hspace : isWhiteSpace name with
      | true => simp [hspace, hfirst]
      | false => simp [hspace]

/-- The `try` block ends with a principal exactly when the request validates
to a named one. -/
theorem authenticate_eq_ok_some_iff {principal : ClaimsPrincipal} :
    authenticate constants lib now request = .ok (some principal) ↔
      Validates constants lib now request principal ∧ Named principal := by
  simp only [authenticate, bind_eq_ok, deref_eq_ok, validate_eq_ok_iff]
  constructor
  · intro h
    obtain ⟨principal', hvalid, identity, hidentity, hrest⟩ := h
    cases hauthenticated : identity.isAuthenticated with
    | false => simp [hauthenticated] at hrest
    | true =>
        simp only [hauthenticated, Bool.not_true, Bool.false_eq_true, if_false, bind_eq_ok,
          pure_eq_ok, Option.some.injEq] at hrest
        obtain ⟨name, hname, rfl⟩ := hrest
        exact ⟨hvalid, identity, hidentity, hauthenticated,
          returns_principalName_iff.mp ⟨name, hname⟩⟩
  · intro h
    obtain ⟨hvalid, identity, hidentity, hauthenticated, hnamed⟩ := h
    obtain ⟨name, hname⟩ := returns_principalName_iff.mpr hnamed
    refine ⟨principal, hvalid, identity, hidentity, ?_⟩
    rw [hauthenticated, hname]
    rfl

/-- It ends without one exactly when the request validates to a principal
that is not authenticated. -/
theorem authenticate_eq_ok_none_iff :
    authenticate constants lib now request = .ok none ↔
      ∃ principal, Validates constants lib now request principal ∧ Unauthenticated principal := by
  simp only [authenticate, bind_eq_ok, deref_eq_ok, validate_eq_ok_iff]
  constructor
  · intro h
    obtain ⟨principal, hvalid, identity, hidentity, hrest⟩ := h
    cases hauthenticated : identity.isAuthenticated with
    | false => exact ⟨principal, hvalid, identity, hidentity, hauthenticated⟩
    | true =>
        simp only [hauthenticated, Bool.not_true, Bool.false_eq_true, if_false, bind_eq_ok,
          pure_eq_ok, reduceCtorEq, and_false, exists_false] at hrest
  · intro h
    obtain ⟨principal, hvalid, identity, hidentity, hauthenticated⟩ := h
    refine ⟨principal, hvalid, identity, hidentity, ?_⟩
    rw [hauthenticated]
    rfl

/-- Any other request ends up in the error path. -/
theorem sendAsync_of_rejected {ambient : Ambient} (hpath : canHandle request = true)
    (hnone : ∀ principal, Validates constants lib now request principal →
      ¬ Named principal ∧ ¬ Unauthenticated principal) :
    sendAsync constants lib now request ambient =
      (ambient, (handleExceptionResponse ambient).map .respond) := by
  simp only [sendAsync, hpath, Bool.not_true, Bool.false_eq_true, if_false]
  cases hauth : authenticate constants lib now request with
  | error ex => rfl
  | ok result =>
      cases result with
      | none =>
          obtain ⟨principal, hvalid, hunauthenticated⟩ := authenticate_eq_ok_none_iff.mp hauth
          exact absurd hunauthenticated (hnone principal hvalid).2
      | some principal =>
          obtain ⟨hvalid, hnamed⟩ := authenticate_eq_ok_some_iff.mp hauth
          exact absurd hnamed (hnone principal hvalid).1

/-- A request to the API that is not accepted is answered without changing
the surroundings: a principal that is not authenticated is forbidden, and
everything else is unauthorized. -/
structure FailsClosed (constants : Constants) (lib : Libraries) (now : DateTime)
    (request : HttpRequestMessage) (ambient : Ambient) : Prop where
  forbidden : canHandle request = true → ∀ principal,
    Validates constants lib now request principal → Unauthenticated principal →
    sendAsync constants lib now request ambient = (ambient, .ok (.respond { statusCode := 403 }))
  unauthorized : canHandle request = true →
    (∀ principal, Validates constants lib now request principal →
      ¬ Named principal ∧ ¬ Unauthenticated principal) →
    sendAsync constants lib now request ambient = (ambient, .ok (.respond {
      statusCode := 401
      content := some (.errorResponse ⟨401, "Security Token Invalid"⟩) }))

/-- **Failing closed.** The handler fails closed unless it has to answer with
401 outside of an HTTP context: `HandleExceptionResponse` reads the context
that `SetPrincipal` knows may be null. -/
theorem failsClosed_iff (constants : Constants) (lib : Libraries) (now : DateTime)
    (request : HttpRequestMessage) (ambient : Ambient) :
    FailsClosed constants lib now request ambient ↔
      ambient.current ≠ none ∨ canHandle request = false ∨
        ∃ principal, Validates constants lib now request principal ∧
          (Named principal ∨ Unauthenticated principal) := by
  constructor
  · intro h
    cases hpath : canHandle request with
    | false => exact Or.inr (Or.inl rfl)
    | true =>
        by_cases hprincipal : ∃ principal, Validates constants lib now request principal ∧
            (Named principal ∨ Unauthenticated principal)
        · exact Or.inr (Or.inr hprincipal)
        · have hnone : ∀ principal, Validates constants lib now request principal →
              ¬ Named principal ∧ ¬ Unauthenticated principal :=
            fun principal hvalid => not_or.mp fun hor => hprincipal ⟨principal, hvalid, hor⟩
          refine Or.inl fun hcurrent => ?_
          have hanswer := h.unauthorized hpath hnone
          rw [sendAsync_of_rejected hpath hnone, handleExceptionResponse, hcurrent] at hanswer
          simp [Except.map] at hanswer
  · intro h
    refine ⟨fun hpath principal hvalid hunauthenticated => ?_, fun hpath hnone => ?_⟩
    · have hauth : authenticate constants lib now request = .ok none :=
        authenticate_eq_ok_none_iff.mpr ⟨principal, hvalid, hunauthenticated⟩
      simp [sendAsync, hpath, hauth]
    · rw [sendAsync_of_rejected hpath hnone]
      rcases h with hcurrent | hfalse | ⟨principal, hvalid, hor⟩
      · obtain ⟨context, hcontext⟩ := Option.ne_none_iff_exists'.mp hcurrent
        rw [handleExceptionResponse, hcontext]
        rfl
      · rw [hpath] at hfalse
        cases hfalse
      · obtain ⟨hnamed, hunauthenticated⟩ := hnone principal hvalid
        exact absurd hor (not_or.mpr ⟨hnamed, hunauthenticated⟩)

/-- A request without credentials is not answered in a host without an HTTP
context: the error path fails. -/
theorem sendAsync_selfHosted_fails :
    ¬ FailsClosed ⟨none, none, .ok { thumbprint := "AB" }⟩
      ⟨fun _ _ _ => .ok none, fun _ _ => .ok none⟩ 0 { absolutePath := "/rest/api/demo" }
      ⟨none, none⟩ := by
  intro h
  have hanswer := h.unauthorized (by decide) ?_
  · revert hanswer
    decide
  · intro principal h'
    obtain ⟨authorization, issuerSigningKey, hauth, -⟩ := h'
    cases hauth

end KombitSamples.Rest
