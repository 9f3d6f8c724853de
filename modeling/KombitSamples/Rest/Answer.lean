import KombitSamples.Rest.DemoController
import KombitSamples.Rest.Host

/-!
# KombitSamples.Rest.Answer

The answer to one request of the REST API, taken through the message handler,
the filter and the action by itself.

`answers` lists the answers there are and says exactly when each of them is
given.
-/

namespace KombitSamples.Rest

open Fallible

/-! ## One request by itself -/

/-- What the filter, and the action after it, make of a principal. -/
def filterAndAct (constants : Constants) (principal : Option ClaimsPrincipal) :
    Except Exception HttpResponseMessage := do
  let denied ← onAuthorizationAsync constants principal
  pure (denied.getD ping)

/-- The answer to a request whose context starts out with a user.  There is no
`HttpContext.Current` for the handler unless `hasContext`. -/
def answer (constants : Constants) (lib : Libraries) (now : DateTime) (hasContext : Bool)
    (request : HttpRequestMessage) (user : Option ClaimsPrincipal) :
    Except Exception HttpResponseMessage := do
  let result := sendAsync constants lib now request
    ⟨none, if hasContext then some ⟨user⟩ else none⟩
  match ← result.2 with
  | .respond response => pure response
  | .forward => filterAndAct constants (result.1.current.getD ⟨user⟩).user

/-- The answer to a request that cannot be authenticated. -/
def unauthorized : HttpResponseMessage where
  statusCode := 401
  content := some (.errorResponse ⟨401, "Security Token Invalid"⟩)

/-- The answer to a request whose principal is not authenticated. -/
def forbidden : HttpResponseMessage where
  statusCode := 403

section Answer

variable {constants : Constants} {lib : Libraries} {now : DateTime}
  {request : HttpRequestMessage} {user : Option ClaimsPrincipal}

/-! ## The filter -/

/-- A user that the filter can read: there is a principal, with an identity. -/
def Identified (user : Option ClaimsPrincipal) : Prop :=
  ∃ principal identity, user = some principal ∧ principal.identity = some identity

theorem notAuthenticated_none : NotAuthenticated none := by
  intro principal identity h
  cases h

/-- The filter denies a user that is not authenticated, and fails for one it
cannot read. -/
theorem filterAndAct_notAuthenticated (constants : Constants) (h : NotAuthenticated user) :
    Identified user ∧ filterAndAct constants user = .ok accessDenied ∨
      ¬ Identified user ∧ filterAndAct constants user = .error .nullReference := by
  cases user with
  | none =>
      have hnone : ¬ Identified none := by simp [Identified]
      exact .inr ⟨hnone, rfl⟩
  | some principal =>
      cases hidentity : principal.identity with
      | none =>
          refine .inr ⟨?_, ?_⟩
          · intro hidentified
            obtain ⟨p, identity, hp, hsome⟩ := hidentified
            obtain rfl := Option.some.inj hp
            rw [hidentity] at hsome
            cases hsome
          · simp [filterAndAct, onAuthorizationAsync, hidentity]
      | some identity =>
          have hfalse := h principal identity rfl hidentity
          refine .inl ⟨⟨principal, identity, rfl, hidentity⟩, ?_⟩
          simp [filterAndAct, onAuthorizationAsync, hidentity, hfalse, pure, Except.pure]

/-- It lets through exactly the authorized principals among the named ones. -/
theorem filterAndAct_named (constants : Constants) {principal : ClaimsPrincipal}
    (h : Named principal) :
    Authorized constants principal ∧ filterAndAct constants (some principal) = .ok ping ∨
      ¬ Authorized constants principal ∧
        filterAndAct constants (some principal) = .ok accessDenied := by
  obtain ⟨identity, hidentity, hauthenticated, -⟩ := h
  by_cases hauthorized : Authorized constants principal
  · have hnone := onAuthorizationAsync_eq_none_iff.mpr ⟨principal, rfl, hauthorized⟩
    exact .inl ⟨hauthorized, by simp [filterAndAct, hnone, pure, Except.pure]⟩
  · refine .inr ⟨hauthorized, ?_⟩
    have hdenied : onAuthorizationAsync constants (some principal) = .ok (some accessDenied) := by
      simp only [onAuthorizationAsync, deref_some, ok_bind, hidentity, hauthenticated,
        Bool.not_true, Bool.false_eq_true, if_false]
      cases hcvr : firstClaim cvrClaimType principal.claims with
      | none => rfl
      | some cvrClaim =>
          have hvalue : some cvrClaim.value ≠ constants.jwtCvr := fun heq =>
            hauthorized ⟨⟨identity, hidentity, hauthenticated⟩, cvrClaim, hcvr, heq⟩
          simp [hvalue, pure, Except.pure]
    simp [filterAndAct, hdenied, pure, Except.pure]

/-! ## Which answer is given -/

/-- A request validates for one principal at most. -/
theorem Validates.unique {principal principal' : ClaimsPrincipal}
    (h : Validates constants lib now request principal)
    (h' : Validates constants lib now request principal') : principal = principal' :=
  Except.ok.inj ((validate_eq_ok_iff.mpr h).symm.trans (validate_eq_ok_iff.mpr h'))

/-- The request validates for no principal that the handler can set or forbid. -/
def Rejected (constants : Constants) (lib : Libraries) (now : DateTime)
    (request : HttpRequestMessage) : Prop :=
  ∀ principal, Validates constants lib now request principal →
    ¬ Named principal ∧ ¬ Unauthenticated principal

/-- A named principal is authenticated. -/
theorem not_unauthenticated_of_named {principal : ClaimsPrincipal} (h : Named principal) :
    ¬ Unauthenticated principal := by
  obtain ⟨identity, hidentity, hauthenticated, -⟩ := h
  intro h'
  obtain ⟨identity', hidentity', hfalse⟩ := h'
  obtain rfl := Option.some.inj (hidentity.symm.trans hidentity')
  rw [hauthenticated] at hfalse
  cases hfalse

/-- An authorized principal has a claim, and with it a name. -/
theorem named_of_authorized {principal : ClaimsPrincipal} (h : Authorized constants principal) :
    Named principal := by
  obtain ⟨⟨identity, hidentity, hauthenticated⟩, cvrClaim, hcvr, -⟩ := h
  have hmem := List.mem_of_find?_eq_some hcvr
  exact ⟨identity, hidentity, hauthenticated, .inr (List.ne_nil_of_mem hmem)⟩

/-- A request to the API is rejected, forbidden, or validates for a named
principal. -/
theorem validation_cases (constants : Constants) (lib : Libraries) (now : DateTime)
    (request : HttpRequestMessage) :
    Rejected constants lib now request ∨
      (∃ principal, Validates constants lib now request principal ∧ Unauthenticated principal) ∨
      ∃ principal, Validates constants lib now request principal ∧ Named principal := by
  by_cases hrejected : Rejected constants lib now request
  · exact .inl hrejected
  · simp only [Rejected, not_forall, not_and_or, not_not] at hrejected
    obtain ⟨principal, hvalid, hnamed | hunauthenticated⟩ := hrejected
    · exact .inr (.inr ⟨principal, hvalid, hnamed⟩)
    · exact .inr (.inl ⟨principal, hvalid, hunauthenticated⟩)

/-- The answers, and when each of them is given to a request. -/
structure Answers (constants : Constants) (lib : Libraries) (now : DateTime) (hasContext : Bool)
    (request : HttpRequestMessage) (user : Option ClaimsPrincipal)
    (result : Except Exception HttpResponseMessage) : Prop where
  exhaustive : result ∈ [.ok ping, .ok unauthorized, .ok forbidden, .ok accessDenied,
    .error .nullReference]
  served_iff : result = .ok ping ↔ hasContext = true ∧ canHandle request = true ∧
    ∃ principal, Validates constants lib now request principal ∧ Authorized constants principal
  unauthorized_iff : result = .ok unauthorized ↔ hasContext = true ∧ canHandle request = true ∧
    Rejected constants lib now request
  forbidden_iff : result = .ok forbidden ↔ canHandle request = true ∧
    ∃ principal, Validates constants lib now request principal ∧ Unauthenticated principal
  denied_iff : result = .ok accessDenied ↔
    (canHandle request = true ∧ hasContext = true ∧ ∃ principal,
      Validates constants lib now request principal ∧ Named principal ∧
      ¬ Authorized constants principal) ∨
    (Identified user ∧ (canHandle request = false ∨ hasContext = false ∧ ∃ principal,
      Validates constants lib now request principal ∧ Named principal))

/-- The answer to a request that is not one to the API. -/
theorem answer_of_not_canHandle (hpath : canHandle request = false) (hasContext : Bool) :
    answer constants lib now hasContext request user = filterAndAct constants user := by
  cases hasContext <;> simp [answer, sendAsync, hpath]

/-- The answer to a rejected request. -/
theorem answer_of_rejected (hpath : canHandle request = true)
    (h : Rejected constants lib now request) (hasContext : Bool) :
    answer constants lib now hasContext request user =
      if hasContext then .ok unauthorized else .error .nullReference := by
  cases hasContext <;>
    simp [answer, sendAsync_of_rejected hpath h, handleExceptionResponse, Except.map, unauthorized,
      pure, Except.pure]

/-- The answer to a request with an unauthenticated principal. -/
theorem answer_of_unauthenticated (hpath : canHandle request = true) {principal : ClaimsPrincipal}
    (hvalid : Validates constants lib now request principal) (h : Unauthenticated principal)
    (hasContext : Bool) :
    answer constants lib now hasContext request user = .ok forbidden := by
  have hauth := authenticate_eq_ok_none_iff.mpr ⟨principal, hvalid, h⟩
  simp [answer, sendAsync, hpath, hauth, forbidden, pure, Except.pure]

/-- The answer to a request with a named principal. -/
theorem answer_of_named (hpath : canHandle request = true) {principal : ClaimsPrincipal}
    (hvalid : Validates constants lib now request principal) (h : Named principal)
    (hasContext : Bool) :
    answer constants lib now hasContext request user =
      filterAndAct constants (if hasContext then some principal else user) := by
  have hauth := authenticate_eq_ok_some_iff.mpr ⟨hvalid, h⟩
  cases hasContext <;> simp [answer, sendAsync, hpath, hauth, setPrincipal]

/-! ## The table of answers -/

/-- Of two principals that a request validates for, what is said of the one is
said of the other. -/
theorem exists_validates_iff {principal : ClaimsPrincipal} {P : ClaimsPrincipal → Prop}
    (hvalid : Validates constants lib now request principal) :
    (∃ p, Validates constants lib now request p ∧ P p) ↔ P principal := by
  constructor
  · intro h
    obtain ⟨p, hp, hP⟩ := h
    rw [hvalid.unique hp]
    exact hP
  · intro hP
    exact ⟨principal, hvalid, hP⟩

/-- A request that validates is rejected exactly when its principal can
neither be set nor forbidden. -/
theorem rejected_iff {principal : ClaimsPrincipal}
    (hvalid : Validates constants lib now request principal) :
    Rejected constants lib now request ↔ ¬ Named principal ∧ ¬ Unauthenticated principal := by
  constructor
  · intro h
    exact h principal hvalid
  · intro h p hp
    rw [← hvalid.unique hp]
    exact h

theorem answers_of_not_canHandle (h : NotAuthenticated user) (hpath : canHandle request = false)
    (hasContext : Bool) : Answers constants lib now hasContext request user
      (answer constants lib now hasContext request user) := by
  rw [answer_of_not_canHandle hpath]
  rcases filterAndAct_notAuthenticated constants h with ⟨hid, heq⟩ | ⟨hid, heq⟩
  all_goals
    rw [heq]
    constructor <;> simp [hpath, hid, ping, unauthorized, forbidden, accessDenied]

theorem answers_of_rejected (hpath : canHandle request = true)
    (hrejected : Rejected constants lib now request) (hasContext : Bool) :
    Answers constants lib now hasContext request user
      (answer constants lib now hasContext request user) := by
  have hnone (P : ClaimsPrincipal → Prop) (hP : ∀ p, P p → Named p ∨ Unauthenticated p) :
      ¬ ∃ p, Validates constants lib now request p ∧ P p := by
    intro hp
    obtain ⟨p, hvalid, hPp⟩ := hp
    have hnot := hrejected p hvalid
    have hor := hP p hPp
    tauto
  have hserved := hnone (Authorized constants) (fun p hp => .inl (named_of_authorized hp))
  have hforbidden := hnone Unauthenticated (fun p hp => .inr hp)
  have hnamed := hnone Named (fun p hp => .inl hp)
  have hdenied := hnone (fun p => Named p ∧ ¬ Authorized constants p)
    (fun p hp => .inl hp.1)
  rw [answer_of_rejected hpath hrejected]
  cases hasContext <;> constructor <;>
    simp [hpath, hrejected, hserved, hforbidden, hnamed, hdenied, ping, unauthorized, forbidden,
      accessDenied]

theorem answers_of_unauthenticated (hpath : canHandle request = true)
    {principal : ClaimsPrincipal} (hvalid : Validates constants lib now request principal)
    (hunauth : Unauthenticated principal) (hasContext : Bool) :
    Answers constants lib now hasContext request user
      (answer constants lib now hasContext request user) := by
  have hnamed : ¬ Named principal := fun hn => not_unauthenticated_of_named hn hunauth
  have hserved : ¬ Authorized constants principal := fun ha => hnamed (named_of_authorized ha)
  rw [answer_of_unauthenticated hpath hvalid hunauth]
  constructor <;>
    simp [hpath, rejected_iff hvalid, exists_validates_iff hvalid, hnamed, hserved, hunauth,
      ping, unauthorized, forbidden, accessDenied]

/-- Here the filter decides: on the principal that the handler set, or, without
a context to set it in, on the user that the request started out with. -/
theorem answers_of_named (h : NotAuthenticated user) (hpath : canHandle request = true)
    {principal : ClaimsPrincipal} (hvalid : Validates constants lib now request principal)
    (hnamed : Named principal) (hasContext : Bool) :
    Answers constants lib now hasContext request user
      (answer constants lib now hasContext request user) := by
  have hunauth := not_unauthenticated_of_named hnamed
  have hrejected := rejected_iff hvalid
  have hexists := @exists_validates_iff constants lib now request principal
  rw [answer_of_named hpath hvalid hnamed]
  cases hasContext with
  | false =>
      rw [if_neg Bool.false_ne_true]
      rcases filterAndAct_notAuthenticated constants h with
        ⟨hid, heq⟩ | ⟨hid, heq⟩
      all_goals
        rw [heq]
        constructor <;>
          simp [hpath, hid, hrejected, hexists hvalid, hnamed, hunauth, ping, unauthorized,
            forbidden, accessDenied]
  | true =>
      rw [if_pos rfl]
      rcases filterAndAct_named constants hnamed with
        ⟨hauth, heq⟩ | ⟨hauth, heq⟩
      all_goals
        rw [heq]
        constructor <;>
          simp [hpath, hauth, hrejected, hexists hvalid, hnamed, hunauth, ping, unauthorized,
            forbidden, accessDenied]

/-- A request is served exactly if it is one to the API, in an HTTP context, and
validates for an authorized principal. -/
theorem answer_eq_ping_iff (h : NotAuthenticated user) (constants : Constants) (lib : Libraries)
    (now : DateTime) (hasContext : Bool) (request : HttpRequestMessage) :
    answer constants lib now hasContext request user = .ok ping ↔
      hasContext = true ∧ canHandle request = true ∧ ∃ principal,
        Validates constants lib now request principal ∧ Authorized constants principal := by
  by_cases hpath : canHandle request = true
  · rcases validation_cases constants lib now request with
      hrejected | ⟨principal, hvalid, hunauth⟩ | ⟨principal, hvalid, hnamed⟩
    · exact (answers_of_rejected hpath hrejected hasContext).served_iff
    · exact (answers_of_unauthenticated hpath hvalid hunauth hasContext).served_iff
    · exact (answers_of_named h hpath hvalid hnamed hasContext).served_iff
  · exact (answers_of_not_canHandle h (Bool.not_eq_true _ ▸ hpath) hasContext).served_iff

/-- **The answers of the API.** For every request, with or without an HTTP
context, the answer is one of five, and each is given exactly when the table
says so. -/
theorem answers (h : NotAuthenticated user) (constants : Constants) (lib : Libraries)
    (now : DateTime) (hasContext : Bool) (request : HttpRequestMessage) :
    Answers constants lib now hasContext request user
      (answer constants lib now hasContext request user) := by
  cases hpath : canHandle request with
  | false => exact answers_of_not_canHandle h hpath hasContext
  | true =>
      rcases validation_cases constants lib now request with
        hrejected | ⟨principal, hvalid, hunauth⟩ | ⟨principal, hvalid, hnamed⟩
      · exact answers_of_rejected hpath hrejected hasContext
      · exact answers_of_unauthenticated hpath hvalid hunauth hasContext
      · exact answers_of_named h hpath hvalid hnamed hasContext

end Answer

/-- The sample request is served, so its token was validated for an authorized
principal; outside of an HTTP context it is not. -/
theorem answers_sample :
    (∃ principal, Validates sampleConstants sampleLibraries 0 sampleHttpRequest principal ∧
      Authorized sampleConstants principal) ∧
    answer sampleConstants sampleLibraries 0 false sampleHttpRequest none ≠ .ok ping := by
  have hserved : answer sampleConstants sampleLibraries 0 true sampleHttpRequest none =
      .ok ping := by decide
  have htable := answers notAuthenticated_none sampleConstants sampleLibraries 0
  exact ⟨((htable true sampleHttpRequest).served_iff.mp hserved).2.2, fun h =>
    Bool.false_ne_true ((htable false sampleHttpRequest).served_iff.mp h).1⟩

end KombitSamples.Rest
