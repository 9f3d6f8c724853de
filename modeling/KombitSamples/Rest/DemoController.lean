import KombitSamples.Rest.JwtHttpAuthenticationHandler

/-!
# KombitSamples.Rest.DemoController

The action of the REST API and the authorization filter in front of it.
-/

namespace KombitSamples.Rest

open Fallible

def cvrClaimType : String := "cvr"

/-- The response of `DenyRequest`. -/
def accessDenied : HttpResponseMessage where
  statusCode := 403
  content := some (.errorResponse ⟨403, "Access denied."⟩)

/-- `DemoRestApiAuthorizationFilter.OnAuthorizationAsync`, given
`RequestContext.Principal`: the response that it sets, if any. -/
def onAuthorizationAsync (constants : Constants) (principal : Option ClaimsPrincipal) :
    Except Exception (Option HttpResponseMessage) := do
  let principal ← deref .nullReference principal
  let identity ← deref .nullReference principal.identity
  if !identity.isAuthenticated then pure (some accessDenied)
  else
    match firstClaim cvrClaimType principal.claims with
    | none => pure (some accessDenied)
    | some cvrClaim =>
        if some cvrClaim.value ≠ constants.jwtCvr then pure (some accessDenied) else pure none

/-- `DemoController.Ping`. -/
def ping : HttpResponseMessage where
  statusCode := 200
  content := some (.text "Congratulations!")

/-- A principal that the filter lets through. -/
structure Authorized (constants : Constants) (principal : ClaimsPrincipal) : Prop where
  authenticated : ∃ identity, principal.identity = some identity ∧ identity.isAuthenticated = true
  cvr : ∃ cvrClaim, firstClaim cvrClaimType principal.claims = some cvrClaim ∧
    some cvrClaim.value = constants.jwtCvr

theorem onAuthorizationAsync_eq_none_iff {constants : Constants}
    {principal : Option ClaimsPrincipal} :
    onAuthorizationAsync constants principal = .ok none ↔
      ∃ p, principal = some p ∧ Authorized constants p := by
  simp only [onAuthorizationAsync, bind_eq_ok, deref_eq_ok]
  constructor
  · intro h
    obtain ⟨p, hp, identity, hidentity, h⟩ := h
    refine ⟨p, hp, ?_⟩
    split at h
    · simp at h
    · next hauth =>
        split at h
        · simp at h
        · next cvrClaim hcvr =>
            split at h
            · simp at h
            · next hvalue =>
                exact ⟨⟨identity, hidentity, by simpa using hauth⟩, cvrClaim, hcvr,
                  by simpa using hvalue⟩
  · intro h
    obtain ⟨p, hp, ⟨identity, hidentity, hauth⟩, cvrClaim, hcvr, hvalue⟩ := h
    refine ⟨p, hp, identity, hidentity, ?_⟩
    simp [hauth, hcvr, hvalue]

end KombitSamples.Rest
