import KombitSamples.JwtConsumer.StsOAuthConsumer
import KombitSamples.Rest.Answer

/-!
# KombitSamples.JwtConsumer.RestApi

The consumer calls the REST API with a token that it has requested, once with
the certificate that it requested the token with, and once with another one.
For each of the two calls it requests a token of its own.

The endpoint that grants the tokens is not part of the repository; it is the
parameter `OAuthEndpoint`.  What it grants depends on the instant of the request.

* `answer_otherCertificate` — what a token is worth to the holder of another
  certificate;
* `restApiTests_iff` — when both calls are answered as the consumer expects, and
  what that says about the second token.
-/

namespace KombitSamples.JwtConsumer

open Fallible Rest

/-! ## SendRESTOAuthRequest -/

structure OAuthErrorResponse where
  error : Option String
  errorDescription : Option String

/-- The body of a request for a token. -/
structure TokenRequest where
  clientId : String
  grantType : String
  scope : String

/-- What is read of a response of the endpoint. -/
structure OAuthResponseMessage where
  isSuccessStatusCode : Bool
  content : String

structure OAuthEndpoint where
  /-- `ApiWebRequest.Post` at an instant, with the client certificate of the connection. -/
  post : DateTime → X509Certificate2 → TokenRequest → Except Exception OAuthResponseMessage
  deserializeError : String → Except Exception (Option OAuthErrorResponse)
  deserializeToken : String → Except Exception (Option AccessTokenResponse)

/-- The settings of the tests. -/
structure Constants where
  stsOAuthClientId : String
  stsOAuthScope : String
  /-- The path of `TestRestAPIEndpoint`. -/
  testRestAPIEndpoint : String
  clientCertificate : X509Certificate2
  clientCertificate2 : X509Certificate2

/-- `SendRESTOAuthRequest` at an instant: the token, and the error. -/
def sendRESTOAuthRequest (constants : Constants) (endpoint : OAuthEndpoint) (sent : DateTime)
    (appliesTo scope : String) (grantType : String := "client_credentials") :
    Except Exception (Option AccessTokenResponse × Option OAuthErrorResponse) := do
  let httpResponse ← endpoint.post sent constants.clientCertificate ⟨appliesTo, grantType, scope⟩
  if !httpResponse.isSuccessStatusCode then do
    let errorResponse ← endpoint.deserializeError httpResponse.content
    pure (none, errorResponse)
  else do
    let token ← endpoint.deserializeToken httpResponse.content
    pure (token, none)

/-! ## The two calls -/

/-- The API as it is deployed: its settings and libraries, the user that its host
sets, and how it answers when a request fails. -/
structure RestApi where
  constants : Rest.Constants
  lib : Rest.Libraries
  user : Option ClaimsPrincipal
  notAuthenticated : NotAuthenticated user
  serverError : Exception → HttpResponseMessage

/-- The request of `client.GetAsync(Constants.TestRestAPIEndpoint)`. -/
def requestOf (constants : Constants) (accessToken : Option String)
    (certificate : X509Certificate2) : HttpRequestMessage where
  absolutePath := constants.testRestAPIEndpoint
  authorization := some ⟨"Holder-of-key", accessToken⟩
  clientCertificate := some certificate

/-- Its response. -/
def getAsync (constants : Constants) (api : RestApi) (now : DateTime) (accessToken : Option String)
    (certificate : X509Certificate2) : HttpResponseMessage :=
  match answer api.constants api.lib now true (requestOf constants accessToken certificate)
    api.user with
  | .ok response => response
  | .error ex => api.serverError ex

/-- `Content.ReadAsStringAsync`: contents are written as JSON. -/
def readAsString : Option HttpContent → String
  | none => ""
  | some (.text content) => "\"" ++ content ++ "\""
  | some (.errorResponse response) =>
      "\x7b\"Status\":" ++ toString response.status ++ ",\"Error\":\"" ++ response.error ++ "\"\x7d"

/-- `SendOAuthRequestAndCallRESTAPISuccessfully`: the token is requested at the
one instant, and the API called at the other. -/
def callRESTAPISuccessfully (constants : Constants) (lib : Libraries) (endpoint : OAuthEndpoint)
    (api : RestApi) (sent now : DateTime) : Except Exception Unit := do
  let (token, _) ←
    sendRESTOAuthRequest constants endpoint sent constants.stsOAuthClientId constants.stsOAuthScope
  let token ← deref (.other "Assert.True() Failure") token
  let response := getAsync constants api now token.accessToken constants.clientCertificate
  ensure (.other "Assert.Contains() Failure")
    (lib.contains "Congratulations!" (readAsString response.content))

/-- `SendOAuthRequestAndCallRESTAPIFailedBecauseOfWrongClientCertificateX5t`. -/
def callRESTAPIFailedBecauseOfWrongClientCertificateX5t (constants : Constants) (lib : Libraries)
    (endpoint : OAuthEndpoint) (api : RestApi) (sent now : DateTime) : Except Exception Unit := do
  let (token, _) ←
    sendRESTOAuthRequest constants endpoint sent constants.stsOAuthClientId constants.stsOAuthScope
  let token ← deref (.other "Assert.True() Failure") token
  let response := getAsync constants api now token.accessToken constants.clientCertificate2
  ensure (.other "Assert.Equal() Failure") (response.statusCode == 401)
  ensure (.other "Assert.Contains() Failure")
    (lib.contains "Security Token Invalid" (readAsString response.content))

/-! ## Another certificate -/

section Possession

variable {constants : Rest.Constants} {lib : Rest.Libraries} {now : DateTime}
  {user : Option ClaimsPrincipal} {request : HttpRequestMessage}
  {certificate certificate' : X509Certificate2} {principal : ClaimsPrincipal}

/-- The token of a request is bound to its certificate: it has a confirmation
claim, and the other certificate has another hash. -/
def BoundAgainst (principal : ClaimsPrincipal) (certificate certificate' : X509Certificate2) :
    Prop :=
  firstClaim confirmationClaimType principal.claims ≠ none ∧
    certificate'.certHashSha256 ≠ certificate.certHashSha256

instance (principal : ClaimsPrincipal) (certificate certificate' : X509Certificate2) :
    Decidable (BoundAgainst principal certificate certificate') :=
  inferInstanceAs (Decidable (_ ∧ _))

/-- With another certificate the same token validates for the same principal,
unless it is bound. -/
theorem validates_otherCertificate_iff
    (h : Validates constants lib now { request with clientCertificate := some certificate }
      principal) :
    Validates constants lib now { request with clientCertificate := some certificate' } principal ↔
      ¬ BoundAgainst principal certificate certificate' := by
  obtain ⟨authorization, issuerSigningKey, hauth, hscheme, hkey, hlib, hconfirmed⟩ := h
  have hvalidates : Validates constants lib now
      { request with clientCertificate := some certificate' } principal ↔
      Confirmed lib { request with clientCertificate := some certificate' } principal.claims := by
    constructor
    · intro h
      obtain ⟨_, _, _, _, _, _, hconfirmed⟩ := h
      exact hconfirmed
    · intro hconfirmed
      exact ⟨authorization, issuerSigningKey, hauth, hscheme, hkey, hlib, hconfirmed⟩
  rw [hvalidates, BoundAgainst]
  unfold Confirmed at hconfirmed ⊢
  cases hcnf : firstClaim confirmationClaimType principal.claims with
  | none => simp
  | some cnf =>
      obtain ⟨certificate₀, hcertificate, hselect⟩ := hconfirmed cnf hcnf
      have hself : certificate₀ = certificate := (Option.some.inj hcertificate).symm
      rw [hself] at hselect
      have hiff : Base64Url.encode certificate.certHashSha256 =
          Base64Url.encode certificate'.certHashSha256 ↔
          certificate.certHashSha256 = certificate'.certHashSha256 :=
        Base64Url.encode_injective.eq_iff
      simp only [Option.some.injEq, exists_eq_left', hselect, Except.ok.injEq, forall_eq', hiff,
        ne_eq, reduceCtorEq, not_false_eq_true, true_and, not_not]
      exact eq_comm

/-- Validation finds one principal in a token. -/
theorem principal_unique {principal' : ClaimsPrincipal}
    (h : Validates constants lib now { request with clientCertificate := some certificate }
      principal)
    (h' : Validates constants lib now { request with clientCertificate := some certificate' }
      principal') : principal' = principal := by
  obtain ⟨authorization, issuerSigningKey, hauth, -, hkey, hlib, -⟩ := h
  obtain ⟨authorization', issuerSigningKey', hauth', -, hkey', hlib', -⟩ := h'
  obtain rfl : authorization' = authorization := Option.some.inj (hauth'.symm.trans hauth)
  obtain rfl : issuerSigningKey' = issuerSigningKey := Except.ok.inj (hkey'.symm.trans hkey)
  exact Option.some.inj (Except.ok.inj (hlib'.symm.trans hlib))

/-- Within an HTTP context a request to the API is served, unauthorized or
forbidden. -/
theorem answer_toApi (constants : Rest.Constants) (lib : Rest.Libraries) (now : DateTime)
    (user : Option ClaimsPrincipal) (hpath : canHandle request = true) :
    (∃ principal, Validates constants lib now request principal ∧ Authorized constants principal) ∧
        answer constants lib now true request user = .ok ping ∨
      Rejected constants lib now request ∧
        answer constants lib now true request user = .ok unauthorized ∨
      (∃ principal, Validates constants lib now request principal ∧
          ¬ Authorized constants principal ∧ (Named principal ∨ Unauthenticated principal)) ∧
        answer constants lib now true request user ∈ [.ok forbidden, .ok accessDenied] := by
  rcases validation_cases constants lib now request with
    hrejected | ⟨principal, hvalid, hunauth⟩ | ⟨principal, hvalid, hnamed⟩
  · exact .inr (.inl ⟨hrejected, answer_of_rejected hpath hrejected true⟩)
  · have hnot : ¬ Authorized constants principal := fun h =>
      not_unauthenticated_of_named (named_of_authorized h) hunauth
    rw [answer_of_unauthenticated hpath hvalid hunauth]
    exact .inr (.inr ⟨⟨principal, hvalid, hnot, .inr hunauth⟩, by simp⟩)
  · rw [answer_of_named hpath hvalid hnamed, if_pos rfl]
    rcases filterAndAct_named constants hnamed with ⟨hauth, heq⟩ | ⟨hnot, heq⟩
    · exact .inl ⟨⟨principal, hvalid, hauth⟩, heq⟩
    · rw [heq]
      exact .inr (.inr ⟨⟨principal, hvalid, hnot, .inl hnamed⟩, by simp⟩)

theorem served_iff (hpath : canHandle request = true) :
    answer constants lib now true request user = .ok ping ↔
      ∃ principal, Validates constants lib now request principal ∧
        Authorized constants principal := by
  rcases answer_toApi constants lib now user hpath with
    ⟨hserved, heq⟩ | ⟨hrejected, heq⟩ | ⟨⟨p, hvalid, hnot, -⟩, hmem⟩
  · simp [heq, hserved]
  · have hnone : ¬ ∃ principal, Validates constants lib now request principal ∧
        Authorized constants principal := by
      intro h
      obtain ⟨principal, hvalid, hauth⟩ := h
      exact (hrejected principal hvalid).1 (named_of_authorized hauth)
    simp [heq, hnone, ping, unauthorized]
  · rw [exists_validates_iff hvalid]
    rcases List.mem_pair.mp hmem with heq | heq
    · simp [heq, hnot, ping, forbidden]
    · simp [heq, hnot, ping, accessDenied]

theorem unauthorized_iff (hpath : canHandle request = true) :
    answer constants lib now true request user = .ok unauthorized ↔
      Rejected constants lib now request := by
  rcases answer_toApi constants lib now user hpath with
    ⟨⟨p, hvalid, hauth⟩, heq⟩ | ⟨hrejected, heq⟩ | ⟨⟨p, hvalid, -, hor⟩, hmem⟩
  · simp [heq, rejected_iff hvalid, named_of_authorized hauth, ping, unauthorized]
  · simp [heq, hrejected]
  · have hnot : ¬ Rejected constants lib now request := by
      rw [rejected_iff hvalid]
      tauto
    rcases List.mem_pair.mp hmem with heq | heq
    · simp [heq, hnot, unauthorized, forbidden]
    · simp [heq, hnot, unauthorized, accessDenied]

/-- A token that is served with a certificate is rejected with another one
exactly when it is bound. -/
theorem rejected_otherCertificate_iff
    (h : Validates constants lib now { request with clientCertificate := some certificate }
      principal) (hauth : Authorized constants principal) :
    Rejected constants lib now { request with clientCertificate := some certificate' } ↔
      BoundAgainst principal certificate certificate' := by
  have hother := @validates_otherCertificate_iff constants lib now request certificate certificate'
    principal h
  constructor
  · intro hrejected
    by_contra hfree
    exact (hrejected principal (hother.mpr hfree)).1 (named_of_authorized hauth)
  · intro hbound principal' hvalid
    rw [principal_unique h hvalid, hother] at hvalid
    exact absurd hbound hvalid

/-- **Holder of key.** With another certificate, a request that the API serves is at
the same instant served again when its token is not bound, and unauthorized when it
is. -/
theorem answer_otherCertificate (hpath : canHandle request = true)
    (h : answer constants lib now true { request with clientCertificate := some certificate } user =
      .ok ping) (certificate' : X509Certificate2) :
    ∃ principal,
      Validates constants lib now { request with clientCertificate := some certificate }
        principal ∧
      (¬ BoundAgainst principal certificate certificate' →
        answer constants lib now true { request with clientCertificate := some certificate' } user =
          .ok ping) ∧
      (BoundAgainst principal certificate certificate' →
        answer constants lib now true { request with clientCertificate := some certificate' } user =
          .ok unauthorized) := by
  have hpath' (c : X509Certificate2) :
      canHandle { request with clientCertificate := some c } = true := hpath
  obtain ⟨principal, hvalid, hauth⟩ := (served_iff (hpath' certificate)).mp h
  refine ⟨principal, hvalid, ?_, ?_⟩
  · intro hfree
    have hother := (validates_otherCertificate_iff hvalid).mpr hfree
    exact (served_iff (hpath' certificate')).mpr ⟨principal, hother, hauth⟩
  · intro hbound
    have hrejected := (rejected_otherCertificate_iff hvalid hauth).mpr hbound
    exact (unauthorized_iff (hpath' certificate')).mpr hrejected

end Possession

/-! ## The tests -/

/-- The answers of the API to the calls. -/
def apiAnswers : List HttpResponseMessage := [ping, unauthorized, forbidden, accessDenied]

theorem isPlain_readAsString :
    ∀ response ∈ apiAnswers, IsPlain (readAsString response.content) := by
  decide

section Tests

variable {constants : Constants} {lib : Libraries} {endpoint : OAuthEndpoint} {api : RestApi}
  {sent now sent' now' : DateTime}

/-- The endpoint grants the consumer a token at an instant. -/
def Grants (constants : Constants) (endpoint : OAuthEndpoint) (sent : DateTime)
    (token : AccessTokenResponse) : Prop :=
  ∃ errorResponse, sendRESTOAuthRequest constants endpoint sent constants.stsOAuthClientId
    constants.stsOAuthScope = .ok (some token, errorResponse)

/-- The API answers every call of the consumer. -/
theorem answer_mem (hpath : Text.containsIgnoreCase constants.testRestAPIEndpoint "/api/" = true)
    (accessToken : Option String) (certificate : X509Certificate2) :
    ∃ response ∈ apiAnswers,
      answer api.constants api.lib now true (requestOf constants accessToken certificate)
        api.user = .ok response := by
  have hpath' : canHandle (requestOf constants accessToken certificate) = true := hpath
  rcases answer_toApi api.constants api.lib now api.user hpath' with
    ⟨-, heq⟩ | ⟨-, heq⟩ | ⟨-, hmem⟩
  · exact ⟨ping, by simp [apiAnswers], heq⟩
  · exact ⟨unauthorized, by simp [apiAnswers], heq⟩
  · rw [List.mem_pair] at hmem
    rcases hmem with heq | heq
    · exact ⟨forbidden, by simp [apiAnswers], heq⟩
    · exact ⟨accessDenied, by simp [apiAnswers], heq⟩

theorem contains_congratulations_iff (hsearch : lib.SearchesPlainText)
    {response : HttpResponseMessage} (h : response ∈ apiAnswers) :
    lib.contains "Congratulations!" (readAsString response.content) = true ↔ response = ping := by
  rw [hsearch.contains_iff _ _ (by decide) (isPlain_readAsString response h)]
  revert h
  revert response
  decide

theorem contains_invalid_iff (hsearch : lib.SearchesPlainText)
    {response : HttpResponseMessage} (h : response ∈ apiAnswers) :
    response.statusCode = 401 ∧
        lib.contains "Security Token Invalid" (readAsString response.content) = true ↔
      response = unauthorized := by
  rw [hsearch.contains_iff _ _ (by decide) (isPlain_readAsString response h)]
  revert h
  revert response
  decide

/-- The first test: the API serves the token with the certificate of the client. -/
theorem returns_callRESTAPISuccessfully_iff (hsearch : lib.SearchesPlainText)
    (hpath : Text.containsIgnoreCase constants.testRestAPIEndpoint "/api/" = true) :
    Returns (callRESTAPISuccessfully constants lib endpoint api sent now) ↔
      ∃ token, Grants constants endpoint sent token ∧
        answer api.constants api.lib now true
          (requestOf constants token.accessToken constants.clientCertificate) api.user =
            .ok ping := by
  simp only [callRESTAPISuccessfully, returns_bind, deref_eq_ok, Prod.exists]
  constructor
  · intro h
    obtain ⟨_, errorResponse, hsent, token, rfl, _, hcontains⟩ := h
    obtain ⟨response, hmem, heq⟩ := answer_mem hpath token.accessToken constants.clientCertificate
    rw [getAsync, heq, ensure_eq_ok, contains_congratulations_iff hsearch hmem] at hcontains
    refine ⟨token, ⟨errorResponse, hsent⟩, ?_⟩
    rw [heq, hcontains]
  · intro h
    obtain ⟨token, ⟨errorResponse, hsent⟩, heq⟩ := h
    have hcontains :=
      (contains_congratulations_iff hsearch (by simp [apiAnswers])).mpr (@rfl _ ping)
    refine ⟨_, errorResponse, hsent, token, rfl, (), ?_⟩
    rw [getAsync, heq, ensure_eq_ok]
    exact hcontains

/-- The second test: it is unauthorized with the other certificate. -/
theorem returns_wrongCertificate_iff (hsearch : lib.SearchesPlainText)
    (hpath : Text.containsIgnoreCase constants.testRestAPIEndpoint "/api/" = true) :
    Returns (callRESTAPIFailedBecauseOfWrongClientCertificateX5t constants lib endpoint api sent
        now) ↔
      ∃ token, Grants constants endpoint sent token ∧
        answer api.constants api.lib now true
          (requestOf constants token.accessToken constants.clientCertificate2) api.user =
            .ok unauthorized := by
  simp only [callRESTAPIFailedBecauseOfWrongClientCertificateX5t, returns_bind, deref_eq_ok,
    Prod.exists, ensure_eq_ok, beq_iff_eq]
  constructor
  · intro h
    obtain ⟨_, errorResponse, hsent, token, rfl, _, hstatus, _, hcontains⟩ := h
    obtain ⟨response, hmem, heq⟩ := answer_mem hpath token.accessToken constants.clientCertificate2
    rw [getAsync, heq, ensure_eq_ok] at hcontains
    rw [getAsync, heq] at hstatus
    refine ⟨token, ⟨errorResponse, hsent⟩, ?_⟩
    rw [heq, (contains_invalid_iff hsearch hmem).mp ⟨hstatus, hcontains⟩]
  · intro h
    obtain ⟨token, ⟨errorResponse, hsent⟩, heq⟩ := h
    obtain ⟨hstatus, hcontains⟩ :=
      (contains_invalid_iff hsearch (by simp [apiAnswers])).mpr (@rfl _ unauthorized)
    refine ⟨_, errorResponse, hsent, token, rfl, (), ?_, (), ?_⟩
    · rw [getAsync, heq]
      exact hstatus
    · rw [getAsync, heq, ensure_eq_ok]
      exact hcontains

/-- **The tests of the API** both pass exactly when the token that is granted for
the first one validates for an authorized principal with the certificate of the
client, and the token that is granted for the second one is rejected with the
other certificate.  A token that would be served to the client at that instant
is rejected exactly when it is bound against the other certificate. -/
theorem restApiTests_iff (hsearch : lib.SearchesPlainText)
    (hpath : Text.containsIgnoreCase constants.testRestAPIEndpoint "/api/" = true) :
    (Returns (callRESTAPISuccessfully constants lib endpoint api sent now) ∧
        Returns (callRESTAPIFailedBecauseOfWrongClientCertificateX5t constants lib endpoint api
          sent' now') ↔
      (∃ token principal, Grants constants endpoint sent token ∧
        Validates api.constants api.lib now
          (requestOf constants token.accessToken constants.clientCertificate) principal ∧
        Authorized api.constants principal) ∧
      ∃ token, Grants constants endpoint sent' token ∧
        Rejected api.constants api.lib now'
          (requestOf constants token.accessToken constants.clientCertificate2)) ∧
      ∀ token principal,
        Validates api.constants api.lib now'
          (requestOf constants token constants.clientCertificate) principal →
        Authorized api.constants principal →
        (Rejected api.constants api.lib now'
            (requestOf constants token constants.clientCertificate2) ↔
          BoundAgainst principal constants.clientCertificate constants.clientCertificate2) := by
  have hcan (token : AccessTokenResponse) (certificate : X509Certificate2) :
      canHandle (requestOf constants token.accessToken certificate) = true := hpath
  constructor
  · simp only [returns_callRESTAPISuccessfully_iff hsearch hpath, served_iff (hcan _ _),
      returns_wrongCertificate_iff hsearch hpath, unauthorized_iff (hcan _ _),
      exists_and_left]
  · intro token principal hvalid hauth
    exact @rejected_otherCertificate_iff api.constants api.lib now'
      (requestOf constants token constants.clientCertificate) _ _ principal hvalid hauth

end Tests

/-! ### A token that is bound -/

/-- The API that knows one token, confirmed by a certificate. -/
def sampleApi : RestApi where
  constants := Rest.sampleConstants
  lib := Rest.sampleLibraries
  user := none
  notAuthenticated := notAuthenticated_none
  serverError ex := ⟨500, some (.text ex.message)⟩

def sampleConstants : Constants where
  stsOAuthClientId := "https://kombit0001.service.com/serviceid.svc"
  stsOAuthScope := sampleScope
  testRestAPIEndpoint := "/rest/api/demo"
  clientCertificate := { thumbprint := "CD", certHashSha256 := [1, 2, 3] }
  clientCertificate2 := { thumbprint := "EF", certHashSha256 := [4, 5, 6] }

/-- An endpoint that grants that token at first, and a token that nobody knows
later on. -/
def sampleEndpoint : OAuthEndpoint where
  post sent _ _ := .ok ⟨true, if sent ≤ 0 then "jwt" else "later"⟩
  deserializeError _ := .ok none
  deserializeToken content := .ok (some (responseOf content))

/-- The client is served, and the holder of the other certificate is not. -/
theorem answer_otherCertificate_sample :
    answer Rest.sampleConstants Rest.sampleLibraries 0 true
      { Rest.sampleHttpRequest with clientCertificate := some sampleConstants.clientCertificate2 }
      none = .ok unauthorized := by
  have hserved : answer Rest.sampleConstants Rest.sampleLibraries 0 true
      { Rest.sampleHttpRequest with clientCertificate := some sampleConstants.clientCertificate }
      none = .ok ping := by decide
  obtain ⟨principal, hvalid, -, hbound⟩ :=
    answer_otherCertificate (by decide) hserved sampleConstants.clientCertificate2
  obtain ⟨authorization, issuerSigningKey, hauth, -, -, hlib, -⟩ := hvalid
  obtain rfl := Option.some.inj hauth
  obtain rfl := Option.some.inj (Except.ok.inj hlib)
  exact hbound (by decide)

theorem restApiTests_sample :
    Returns (callRESTAPISuccessfully sampleConstants (readsOne "jwt" []) sampleEndpoint sampleApi
      0 0) ∧
      Returns (callRESTAPIFailedBecauseOfWrongClientCertificateX5t sampleConstants
        (readsOne "jwt" []) sampleEndpoint sampleApi 0 1) := by
  have htests := @restApiTests_iff sampleConstants (readsOne "jwt" []) sampleEndpoint sampleApi
    0 0 0 1 (searchesPlainText_readsOne "jwt" []) (by decide)
  have hvalid (now : DateTime) : ∃ principal,
      Validates sampleApi.constants sampleApi.lib now
        (requestOf sampleConstants (some "jwt") sampleConstants.clientCertificate) principal ∧
      Authorized sampleApi.constants principal ∧
      BoundAgainst principal sampleConstants.clientCertificate sampleConstants.clientCertificate2 :=
    ⟨_, ⟨_, _, rfl, by decide, rfl, rfl, fun _ _ => ⟨_, rfl, rfl⟩⟩,
      ⟨⟨_, rfl, by decide⟩, _, rfl, rfl⟩, by decide⟩
  obtain ⟨principal, hvalid₀, hauth₀, -⟩ := hvalid 0
  obtain ⟨principal', hvalid₁, hauth₁, hbound⟩ := hvalid 1
  exact htests.1.mpr ⟨⟨responseOf "jwt", principal, ⟨none, rfl⟩, hvalid₀, hauth₀⟩,
    responseOf "jwt", ⟨none, rfl⟩, (htests.2 _ _ hvalid₁ hauth₁).mpr hbound⟩

/-- The second test passes with a token that is refused to the client, too. -/
example : Returns (callRESTAPIFailedBecauseOfWrongClientCertificateX5t sampleConstants
    (readsOne "jwt" []) sampleEndpoint sampleApi 1 1) ∧
    getAsync sampleConstants sampleApi 1 (some "later") sampleConstants.clientCertificate =
      unauthorized := by
  decide

end KombitSamples.JwtConsumer
