import KombitSamples.Documented
import KombitSamples.Sts.Issue
import KombitSamples.Sts.OutputClaims

/-!
# KombitSamples.Sts.TokenLifetime

The two expiries of an issued assertion: that of its conditions, which the
base class computes from the configuration of the service, and that of its
confirmation data, which `createToken` computes from the application
settings.
-/

namespace KombitSamples.Sts

open Fallible Saml2SecurityTokenHandler SecurityTokenService

/-- The confirmation data expires no later than the conditions. -/
def ConfirmationWithinConditions (token : Saml2SecurityToken) : Prop :=
  ∃ confirmation conditions,
    token.confirmationData.bind (·.notOnOrAfter) = some confirmation ∧
    token.assertion.conditions.bind (·.notOnOrAfter) = some conditions ∧
    confirmation ≤ conditions

section Expiry

variable {constants : Constants} {im : IdentityModel} {clock : IssueClock}
  {principal : ClaimsPrincipal} {request : RequestSecurityToken} {token : Saml2SecurityToken}

theorem confirmationData_expiry (h : issue constants im clock principal request = .ok token) :
    token.confirmationData.bind (·.notOnOrAfter) =
      some (confirmationExpiry constants im.timeZone clock.createToken request.lifetime) := by
  obtain ⟨i⟩ := issue_eq_ok_iff.mp h
  rw [i.createdFrom.confirmationData_eq, ← lifetime_withSecondaryParameters request]
  rfl

theorem conditions_expiry (hlifetime : im.service.ComputesLifetime)
    (hconditions : im.saml2.CopiesConditions im.newUri)
    (h : issue constants im clock principal request = .ok token) :
    token.assertion.conditions.bind (·.notOnOrAfter) =
      some (expiresOf (wsTrustServiceConfiguration constants im) clock.tokenLifetime
        request.lifetime) := by
  obtain ⟨i⟩ := issue_eq_ok_iff.mp h
  obtain ⟨audiences, hcopy, -⟩ := hconditions.eq_of_ok _ _ _ _ i.createdFrom.conditions_eq
  rw [i.createdFrom.assertion_conditions_eq, hcopy, hlifetime.eq_of_ok _ _ _ _ i.lifetime_eq]
  rfl

/-- **The two lifetimes** agree exactly when the request says when the token
expires, or when the configured lifetime of the confirmation data, with what
the wall clock is set back by meanwhile, ends within the ten minutes that the
conditions are given. -/
theorem confirmationWithinConditions_iff (hlifetime : im.service.ComputesLifetime)
    (hconditions : im.saml2.CopiesConditions im.newUri)
    (h : issue constants im clock principal request = .ok token) :
    ConfirmationWithinConditions token ↔
      (∃ expires, request.lifetime.bind (·.expires) = some expires) ∨
      clock.createToken + TimeSpan.fromMinutes constants.maximumTokenLifetime +
          im.timeZone.setBack clock.createToken
            (TimeSpan.fromMinutes constants.maximumTokenLifetime) ≤
        createdOf clock.tokenLifetime request.lifetime + TimeSpan.fromMinutes 10 := by
  simp only [ConfirmationWithinConditions, confirmationData_expiry h,
    conditions_expiry hlifetime hconditions h, Option.some.injEq, exists_and_left,
    exists_eq_left', confirmationExpiry, expiresOf, TimeZoneInfo.toUniversalTime_add]
  cases request.lifetime.bind (·.expires) with
  | some expires => simp
  | none => simp [wsTrustServiceConfiguration]

/-- Where the wall clock is not set back or forward meanwhile, its conversions
cancel. -/
theorem confirmationExpiry_of_steady {zone : TimeZoneInfo} {now : DateTime}
    (h : zone.toLocalTime (now + TimeSpan.fromMinutes constants.maximumTokenLifetime) =
      (zone.toLocalTime now).add (TimeSpan.fromMinutes constants.maximumTokenLifetime)) :
    confirmationExpiry constants zone now none =
      now + TimeSpan.fromMinutes constants.maximumTokenLifetime := by
  have hsetBack := zone.setBack_eq_zero h
  simp only [confirmationExpiry, Option.bind_none, Option.getD_none, zone.toUniversalTime_add,
    hsetBack, Int.add_zero]

end Expiry

/-- A zone whose wall clock is set back by an hour at the instant 0: the readings
of the hour before are passed through twice. -/
def autumn : TimeZoneInfo where
  utcOffset utc := TimeSpan.fromMinutes (if utc < 0 then 120 else 60)
  isAmbiguousDst utc := -TimeSpan.fromMinutes 60 ≤ utc ∧ utc < 0
  localOffset reading := TimeSpan.fromMinutes
    (if reading.ticks < TimeSpan.fromMinutes 60 ∨
      reading.ticks < TimeSpan.fromMinutes 120 ∧ reading.isAmbiguousDst then 120 else 60)
  localOffset_reading utc := by
    refine congrArg TimeSpan.fromMinutes (if_congr ?_ rfl rfl)
    simp only [TimeSpan.fromMinutes, TimeSpan.fromSeconds]
    split <;> grind

/-- Three minutes before that instant, a lifetime of five minutes ends an hour
later than five minutes from now. -/
example : confirmationExpiry { sampleConstants with maximumTokenLifetime := 5 } autumn
    (-TimeSpan.fromMinutes 3) none = TimeSpan.fromMinutes 62 := by decide

/-- A request that says when the token expires. -/
def fiveMinuteRequest : RequestSecurityToken :=
  { sampleRequest with lifetime := some { expires := some (TimeSpan.fromMinutes 5) } }

theorem confirmationWithinConditions_fiveMinutes :
    ∃ token, issue sampleConstants Documented.identityModel ⟨0, 0, 0⟩ sampleClient
        fiveMinuteRequest = .ok token ∧ ConfirmationWithinConditions token := by
  obtain ⟨token, h⟩ : Returns (issue sampleConstants Documented.identityModel ⟨0, 0, 0⟩
      sampleClient fiveMinuteRequest) := by decide
  exact ⟨token, h, (confirmationWithinConditions_iff Documented.computesLifetime
    Documented.copiesConditions h).mpr (Or.inl ⟨_, rfl⟩)⟩

/-- Without a lifetime the shipped setting of an hour outlives the
conditions. -/
theorem not_confirmationWithinConditions_noLifetime :
    ∃ token, issue sampleConstants Documented.identityModel ⟨0, 0, 0⟩ sampleClient sampleRequest =
        .ok token ∧ ¬ ConfirmationWithinConditions token := by
  obtain ⟨token, h⟩ : Returns (issue sampleConstants Documented.identityModel ⟨0, 0, 0⟩
      sampleClient sampleRequest) := by decide
  refine ⟨token, h, ?_⟩
  intro h'
  obtain ⟨confirmation, conditions, hconfirmation, hconditions, hle⟩ := h'
  rw [confirmationData_expiry h] at hconfirmation
  rw [conditions_expiry Documented.computesLifetime Documented.copiesConditions h] at hconditions
  cases hconfirmation
  cases hconditions
  exact absurd hle (by decide)

end KombitSamples.Sts
