import KombitSamples.Trust

/-!
# KombitSamples.Documented

An instance of `IdentityModel` that does what the library documents, so
that the laws the results assume can be seen to hold together, and so that
runs of the modelled code can be evaluated.

The methods follow the base classes on the inputs those are given here:
canonical absolute URIs, claims of pairwise distinct types, and proof keys
of the bearer kind.
-/

namespace KombitSamples.Documented

open Fallible Saml2SecurityTokenHandler

/-! ## Creating assertions -/

/-- A bearer confirmation, or one that holds the proof key. -/
def confirmationOf (d : SecurityTokenDescriptor) : Saml2SubjectConfirmation :=
  match d.proof with
  | none => { method := ConfirmationMethods.bearer }
  | some key => {
      method := ConfirmationMethods.holderOfKey
      subjectConfirmationData := some { keyIdentifiers := [key] } }

def createSamlSubject (d : SecurityTokenDescriptor) : Except Exception Saml2Subject :=
  match nameIdentifiers d with
  | [] => .ok { subjectConfirmations := [confirmationOf d] }
  | [c] =>
      if h : c.value = "" then .error (.argumentNull "name")
      else .ok {
        nameId := some ⟨c.value, (c.properties.lookup samlNameIdentifierFormat).map Uri.mk, h⟩
        subjectConfirmations := [confirmationOf d] }
  | _ => .error (.invalidOperation "ID4139")

def createIssuerNameIdentifier (d : SecurityTokenDescriptor) :
    Except Exception Saml2NameIdentifier :=
  if h : d.tokenIssuerName = "" then .error (.invalidOperation "ID4138")
  else .ok ⟨d.tokenIssuerName, none, h⟩

def newUri (text : String) : Except Exception Uri :=
  if Text.contains text "://" then .ok ⟨text⟩ else .error (.other "Invalid URI")

/-- The lifetime ends after it starts, where it has both instants. -/
def checkLifetime (lifetime : Option Lifetime) : Except Exception Unit :=
  ensure (.argument "ID4116") <| lifetime.all fun l =>
    l.created.all fun created => l.expires.all fun expires => created < expires

def audiencesOf (address : String) : Except Exception (List (List Uri)) :=
  if address = "" then .ok []
  else do
    let audience ← newUri address
    pure [[audience]]

def createConditions (lifetime : Option Lifetime) (address : String) (_ : SecurityTokenDescriptor) :
    Except Exception (Option Saml2Conditions) := do
  checkLifetime lifetime
  let audiences ← audiencesOf address
  if lifetime.isNone && address = "" then pure none
  else pure (some ⟨lifetime.bind (·.created), lifetime.bind (·.expires), audiences⟩)

/-- An attribute for each claim that is not about the name or the
authentication of the subject. -/
def attributesOf (claims : List Claim) : List Saml2Attribute :=
  (claims.filter fun c => !notAttributes.contains c.type).map fun c =>
    { name := c.type, values := [c.value] }

theorem attributesOf_cons (c : Claim) (claims : List Claim) :
    attributesOf (c :: claims) =
      if c.type ∈ notAttributes then attributesOf claims
      else { name := c.type, values := [c.value] } :: attributesOf claims := by
  unfold attributesOf
  split <;> simp [*]

def createStatements (d : SecurityTokenDescriptor) : Except Exception (List Saml2Statement) :=
  .ok [.attributeStatement (attributesOf d.subject.claims)]

/-! ## Checking assertions -/

def checkAudience (configuration : SecurityTokenHandlerConfiguration)
    (conditions : Option Saml2Conditions) : Except Exception Unit :=
  match conditions with
  | none => .error (.securityTokenValidation "ID1035")
  | some conditions =>
      ensure (.securityTokenValidation "ID1038")
        (!conditions.audienceRestrictions.isEmpty && conditions.audienceRestrictions.all fun audiences =>
          audiences.any fun audience =>
            configuration.allowedAudienceUris.any fun allowed => allowed.equals audience.leftPart)

def validateConditions (configuration : SecurityTokenHandlerConfiguration) (now : DateTime)
    (conditions : Option Saml2Conditions) : Except Exception Unit := do
  ensure (.securityTokenValidation "ID4147")
    (conditions.all fun c => c.notBefore.all fun t => t ≤ now + configuration.maxClockSkew)
  ensure (.securityTokenValidation "ID4148")
    (conditions.all fun c => c.notOnOrAfter.all fun t => now - configuration.maxClockSkew < t)
  if configuration.audienceMode = .always then checkAudience configuration conditions else pure ()

def validateIssuer (configuration : SecurityTokenHandlerConfiguration) (_ : DateTime)
    (issuer : IssuerToken) (_ : Saml2NameIdentifier) : Except Exception String :=
  match issuer with
  | .x509 certificate =>
      deref (.securityTokenValidation "ID4175")
        (configuration.trustedIssuers.lookup certificate.thumbprint)
  | .other _ => .error (.securityTokenValidation "ID4175")

def createClaims (_issuer : String) (nameId : Option Saml2NameIdentifier)
    (statements : List Saml2Statement) : Except Exception ClaimsIdentity :=
  .ok {
    claims := nameId.toList.map (fun n => { type := ClaimTypes.nameIdentifier, value := n.value }) ++
      statements.flatMap fun
        | .attributeStatement attributes => attributes.flatMap fun a =>
            a.values.map fun v => { type := a.name, value := v }
        | .other _ => []
    authenticationType := "Federation" }

def saml2 : Saml2SecurityTokenHandler where
  createSamlSubject := createSamlSubject
  createIssuerNameIdentifier := createIssuerNameIdentifier
  getSigningCredentials d := .ok d.signingCredentials
  createConditions := createConditions
  createAdvice _ := .ok none
  createStatements := createStatements
  validateConditions := validateConditions
  validateIssuer := validateIssuer
  createClaims := createClaims

/-! ## The token service -/

open SecurityTokenService in
def getTokenLifetime (configuration : SecurityTokenServiceConfiguration) (now : DateTime)
    (requested : Option Lifetime) : Except Exception Lifetime := do
  let created := createdOf now requested
  let expires := expiresOf configuration now requested
  ensure (.other "ID2075") (now ≤ expires + configuration.maxClockSkew)
  ensure (.other "ID2076") (created ≤ now + TimeSpan.fromMinutes 1440 + configuration.maxClockSkew)
  ensure (.other "ID2077") (created < expires)
  ensure (.other "ID2078") (expires - created ≤ configuration.maximumTokenLifetime)
  pure ⟨some created, some expires⟩

def bearerKeyType : String := "http://schemas.microsoft.com/idfx/keytype/bearer"

def service : SecurityTokenService where
  getTokenLifetime := getTokenLifetime
  getProofToken request := .ok (if request.keyType = some bearerKeyType then none else some "key")

def validateX509 (certificate : X509Certificate2) : Except Exception (List ClaimsIdentity) :=
  .ok [{
    claims := [
      { type := "http://schemas.xmlsoap.org/ws/2005/05/identity/claims/x500distinguishedname",
        value := certificate.subjectName },
      { type := "http://schemas.xmlsoap.org/ws/2005/05/identity/claims/thumbprint",
        value := certificate.thumbprint }]
    authenticationType := authenticationTypeX509 }]

/-- No issuer is trusted until one is configured. -/
def defaultHandlers : SecurityTokenHandlerCollection where
  configuration := {}
  saml2 configuration now token :=
    saml2.validateToken (validateConfirmationData configuration now) configuration now token
  x509 _ _ certificate := do
    let identities ← validateX509 certificate
    deref .nullReference identities.head?
  other _ _ kind := .error (.other ("ID4008: " ++ kind))

/-- The library as documented. -/
def identityModel : IdentityModel where
  saml2 := saml2
  service := service
  validateX509 := validateX509
  defaultHandlers := defaultHandlers
  resolveIssuerToken assertion := assertion.signingCredentials.map fun c => .x509 c.certificate
  newUri := newUri
  formatInstant _ := "0001-01-01T00:00:00.000Z"
  exceptionText ex := ex.message
  timeZone := TimeZoneInfo.utc

/-! ## The laws hold -/

theorem namesSubject : NamesSubject saml2 where
  returns_iff d := by
    change Returns (createSamlSubject d) ↔ _
    unfold createSamlSubject
    split
    · next h => simp [h]
    · next c h => split <;> simp [*]
    · next h0 h1 =>
        have hlength : ¬ (nameIdentifiers d).length ≤ 1 := by
          intro hle
          cases Nat.le_one_iff_eq_zero_or_eq_one.mp hle with
          | inl hzero => exact h0 (List.length_eq_zero_iff.mp hzero)
          | inr hone =>
              obtain ⟨c, hc⟩ := List.length_eq_one_iff.mp hone
              exact h1 c hc
        simp [hlength]
  nameId_eq d subject h := by
    change createSamlSubject d = .ok subject at h
    unfold createSamlSubject at h
    split at h
    · next hn => cases h; simp [hn]
    · next c hn =>
        split at h
        · contradiction
        · cases h; simp [hn]
    · contradiction

/-- The values an attribute statement gives a type are those of the claims
of that type. -/
theorem valuesOf_attributesOf {type : String} (htype : type ∉ notAttributes) (claims : List Claim) :
    valuesOf type (attributesOf claims) = (claimsOfType type claims).map (·.value) := by
  induction claims with
  | nil => rfl
  | cons c claims ih =>
      rw [attributesOf_cons]
      by_cases hc : c.type = type
      · rw [claimsOfType_cons_self hc, if_neg (by rwa [hc]), valuesOf_cons, if_pos hc, ih]
        rfl
      · rw [claimsOfType_cons_of_ne hc, ← ih]
        split
        · rfl
        · rw [valuesOf_cons, if_neg hc]

theorem statesAttributes : StatesAttributes saml2 where
  attributeValues_eq d statements h type htype := by
    change createStatements d = .ok statements at h
    cases h
    rw [attributeValues, attributeValues, List.append_nil]
    exact valuesOf_attributesOf htype d.subject.claims

theorem copiesConditions : CopiesConditions newUri saml2 where
  eq_of_ok lifetime address d conditions h := by
    change createConditions (some lifetime) address d = .ok conditions at h
    simp only [createConditions, Option.isNone_some, Bool.false_and, Bool.false_eq_true, if_false,
      bind_eq_ok, pure_eq_ok, Option.bind_some] at h
    obtain ⟨-, -, audiences, haudiences, rfl⟩ := h
    refine ⟨audiences, rfl, fun hne => ?_⟩
    simp only [audiencesOf, if_neg hne, bind_eq_ok, pure_eq_ok] at haudiences
    obtain ⟨audience, haudience, rfl⟩ := haudiences
    exact ⟨audience, haudience, rfl⟩

theorem returnsOnIssuerName : ReturnsOnIssuerName newUri saml2 where
  createIssuerNameIdentifier d := by
    change Returns (createIssuerNameIdentifier d) ↔ _
    unfold createIssuerNameIdentifier
    split <;> simp [*]
  getSigningCredentials d := rfl
  createConditions created expires d hlt h := by
    obtain ⟨audience, haudience⟩ := h
    change Returns (createConditions _ d.appliesToAddress d)
    have hlifetime : checkLifetime (some ⟨some created, some expires⟩) = .ok () := by
      simp [checkLifetime, hlt]
    have haudiences : Returns (audiencesOf d.appliesToAddress) := by
      unfold audiencesOf
      split
      · simp
      · simp [haudience]
    obtain ⟨audiences, haudiences⟩ := haudiences
    simp [createConditions, hlifetime, haudiences]
  createAdvice d := ⟨none, rfl⟩
  createStatements d := ⟨_, rfl⟩

theorem raisesNoFault : RaisesNoFault saml2 where
  createSamlSubject d := by
    change FailsOnly _ (createSamlSubject d)
    unfold createSamlSubject
    split
    · simp
    · split <;> simp [Exception.isFault]
    · simp [Exception.isFault]
  createIssuerNameIdentifier d := by
    change FailsOnly _ (createIssuerNameIdentifier d)
    unfold createIssuerNameIdentifier
    split <;> simp [Exception.isFault]
  getSigningCredentials d := failsOnly_ok _
  createConditions lifetime address d := by
    have huri : FailsOnly (·.isFault = false) (newUri address) := by
      unfold newUri
      split <;> simp [Exception.isFault]
    have haudiences : FailsOnly (·.isFault = false) (audiencesOf address) := by
      unfold audiencesOf
      split
      · simp
      · simp only [failsOnly_bind, huri, failsOnly_pure, implies_true, and_self]
    change FailsOnly _ (createConditions lifetime address d)
    simp only [createConditions, failsOnly_bind, checkLifetime, failsOnly_ensure]
    refine ⟨fun _ => rfl, fun _ _ => ⟨haudiences, fun _ _ => ?_⟩⟩
    split <;> simp
  createAdvice d := failsOnly_ok _
  createStatements d := failsOnly_ok _

theorem getTokenLifetime_eq_ok_iff {configuration : SecurityTokenServiceConfiguration}
    {now : DateTime} {requested : Option Lifetime} {lifetime : Lifetime} :
    getTokenLifetime configuration now requested = .ok lifetime ↔
      now ≤ SecurityTokenService.expiresOf configuration now requested + configuration.maxClockSkew ∧
      SecurityTokenService.createdOf now requested ≤
        now + TimeSpan.fromMinutes 1440 + configuration.maxClockSkew ∧
      SecurityTokenService.createdOf now requested <
        SecurityTokenService.expiresOf configuration now requested ∧
      SecurityTokenService.expiresOf configuration now requested -
        SecurityTokenService.createdOf now requested ≤ configuration.maximumTokenLifetime ∧
      ⟨some (SecurityTokenService.createdOf now requested),
        some (SecurityTokenService.expiresOf configuration now requested)⟩ = lifetime := by
  simp only [getTokenLifetime, bind_eq_ok, ensure_eq_ok, pure_eq_ok, decide_eq_true_eq]
  constructor
  · intro h
    obtain ⟨-, h1, -, h2, -, h3, -, h4, h5⟩ := h
    exact ⟨h1, h2, h3, h4, h5⟩
  · intro h
    obtain ⟨h1, h2, h3, h4, h5⟩ := h
    exact ⟨(), h1, (), h2, (), h3, (), h4, h5⟩

theorem computesLifetime : service.ComputesLifetime where
  eq_of_ok _ _ _ _ h := (getTokenLifetime_eq_ok_iff.mp h).2.2.2.2.symm
  created_lt_expires _ _ _ h := (getTokenLifetime_eq_ok_iff.mp h.choose_spec).2.2.1
  le_maximumTokenLifetime _ _ _ h := (getTokenLifetime_eq_ok_iff.mp h.choose_spec).2.2.2.1

theorem checksByConfiguration : ChecksByConfiguration saml2 where
  returns_validateConditions_iff configuration now conditions hmode := by
    change Returns (validateConditions configuration now (some conditions)) ↔ _
    simp only [Returns, validateConditions, if_pos hmode, checkAudience, bind_eq_ok, ensure_eq_ok,
      exists_const, Option.all_some, Option.all_eq_true, decide_eq_true_eq, Bool.and_eq_true,
      Bool.not_eq_true', List.isEmpty_eq_false_iff, List.all_eq_true, List.any_eq_true,
      InConditionsWindow, and_assoc]
  returns_validateIssuer_iff configuration now certificate issuer := by
    change Returns (deref _ _) ↔ _
    rw [returns_deref]
  returns_createClaims issuer nameId statements := ⟨_, rfl⟩

theorem resolvesSigner : identityModel.ResolvesSigner := by
  intro assertion credentials h
  change assertion.signingCredentials.map _ = _
  rw [h]
  rfl

end KombitSamples.Documented
