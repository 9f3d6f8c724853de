import KombitSamples.Platform

/-!
# KombitSamples.Saml2

The part of `System.IdentityModel` that the repository builds on: SAML 2.0
assertions, security tokens, token descriptors, and the base class
`Saml2SecurityTokenHandler` of its three handlers.

The base class is not part of the repository.  The methods that the
handlers call or override are the fields of `Saml2SecurityTokenHandler`, a
parameter of the model, and what the repository relies on in them is stated
once, as the laws `NamesSubject`, `StatesAttributes`, `CopiesConditions` and
`ReturnsOnIssuerName`.  `ValidateToken` is the exception: the handlers
override the method it calls in the middle, so its skeleton is spelled out
(`validateToken`) with that method as an argument.
-/

namespace KombitSamples

open Fallible

/-! ## Assertions -/

structure SigningCredentials where
  certificate : X509Certificate2
  signatureAlgorithm : String
  digestAlgorithm : String
deriving DecidableEq, Repr

/-- The constructor, and the setter of `Value`, reject an empty name. -/
structure Saml2NameIdentifier where
  value : String
  format : Option Uri := none
  value_ne_empty : value ≠ ""
deriving DecidableEq, Repr

namespace ConfirmationMethods

def bearer : Uri := ⟨"urn:oasis:names:tc:SAML:2.0:cm:bearer"⟩

def holderOfKey : Uri := ⟨"urn:oasis:names:tc:SAML:2.0:cm:holder-of-key"⟩

end ConfirmationMethods

structure Saml2SubjectConfirmationData where
  address : Option String := none
  inResponseTo : Option String := none
  recipient : Option Uri := none
  notBefore : Option DateTime := none
  notOnOrAfter : Option DateTime := none
  keyIdentifiers : List String := []
deriving DecidableEq, Repr

structure Saml2SubjectConfirmation where
  method : Uri
  nameIdentifier : Option Saml2NameIdentifier := none
  subjectConfirmationData : Option Saml2SubjectConfirmationData := none
deriving DecidableEq, Repr

structure Saml2Subject where
  nameId : Option Saml2NameIdentifier := none
  subjectConfirmations : List Saml2SubjectConfirmation := []
deriving DecidableEq, Repr

structure Saml2Attribute where
  name : String
  nameFormat : Option Uri := none
  values : List String
deriving DecidableEq, Repr

inductive Saml2Statement where
  | attributeStatement (attributes : List Saml2Attribute)
  | other (kind : String)
deriving DecidableEq, Repr

structure Saml2Conditions where
  notBefore : Option DateTime := none
  notOnOrAfter : Option DateTime := none
  audienceRestrictions : List (List Uri) := []
deriving DecidableEq, Repr

structure Saml2Advice where
  references : List String
deriving DecidableEq, Repr

structure Saml2Assertion where
  issuer : Saml2NameIdentifier
  subject : Option Saml2Subject := none
  signingCredentials : Option SigningCredentials := none
  conditions : Option Saml2Conditions := none
  advice : Option Saml2Advice := none
  statements : List Saml2Statement := []
deriving DecidableEq, Repr

/-- The values a list of attributes gives a name, in order. -/
def valuesOf (name : String) (attributes : List Saml2Attribute) : List String :=
  (attributes.filter (·.name == name)).flatMap (·.values)

theorem valuesOf_cons (name : String) (a : Saml2Attribute) (attributes : List Saml2Attribute) :
    valuesOf name (a :: attributes) =
      if a.name = name then a.values ++ valuesOf name attributes else valuesOf name attributes := by
  unfold valuesOf
  split <;> simp [*]

/-- The values that the attribute statements give a name, in order. -/
def attributeValues (name : String) : List Saml2Statement → List String
  | [] => []
  | .attributeStatement attributes :: statements =>
      valuesOf name attributes ++ attributeValues name statements
  | .other _ :: statements => attributeValues name statements

/-! ## Security tokens -/

/-- The token an assertion was signed with, as far as the code tells kinds
of issuer tokens apart. -/
inductive IssuerToken where
  | x509 (certificate : X509Certificate2)
  | other (kind : String)
deriving DecidableEq, Repr

/-- `issuerToken` is null for an unsigned assertion, and for a token that
was just created. -/
structure Saml2SecurityToken where
  assertion : Saml2Assertion
  issuerToken : Option IssuerToken := none
deriving DecidableEq, Repr

namespace Saml2SecurityToken

/-- The name of the subject. -/
def nameId (token : Saml2SecurityToken) : Option Saml2NameIdentifier :=
  token.assertion.subject.bind (·.nameId)

/-- The first confirmation of the subject. -/
def firstConfirmation (token : Saml2SecurityToken) : Option Saml2SubjectConfirmation :=
  token.assertion.subject.bind (·.subjectConfirmations.head?)

/-- The data of the first confirmation. -/
def confirmationData (token : Saml2SecurityToken) : Option Saml2SubjectConfirmationData :=
  token.firstConfirmation.bind (·.subjectConfirmationData)

theorem confirmationData_eq {token : Saml2SecurityToken} {subject : Saml2Subject}
    {confirmation : Saml2SubjectConfirmation} (hsubject : token.assertion.subject = some subject)
    (hhead : subject.subjectConfirmations.head? = some confirmation) :
    token.confirmationData = confirmation.subjectConfirmationData := by
  rw [confirmationData, firstConfirmation, hsubject, Option.bind_some, hhead, Option.bind_some]

end Saml2SecurityToken

/-- A security token, as far as the code tells kinds apart: user name
tokens, Kerberos tickets, SAML 1.1 assertions and so on are `other`. -/
inductive SecurityToken where
  | saml2 (token : Saml2SecurityToken)
  | x509 (certificate : X509Certificate2)
  | other (kind : String)
deriving DecidableEq, Repr

/-- A token that travels as an XML element.  `getSecurityToken` only
deserialises the element, and gives the same answer on every call. -/
structure SecurityTokenElement where
  getSecurityToken : Except Exception SecurityToken

/-! ## References to tokens -/

/-- The `ID` of an assertion: an XML name, so never empty. -/
@[ext] structure Saml2Id where
  value : String
  value_ne_empty : value ≠ ""
deriving DecidableEq, Repr

inductive SecurityKeyIdentifierClause where
  | saml2Assertion (id : String)
  | localId (localId : String)
  | other (kind : String)
deriving DecidableEq, Repr

namespace SecurityKeyIdentifierClause

/-- `Id`, which other kinds of clauses leave unset. -/
def id : SecurityKeyIdentifierClause → Option String
  | .saml2Assertion id => some id
  | _ => none

/-- The static `Saml2AssertionKeyIdentifierClause.Matches`. -/
def matchesAssertion (assertionId : String) (clause : SecurityKeyIdentifierClause) : Bool :=
  !assertionId.isEmpty && clause == .saml2Assertion assertionId

/-- `MatchesKeyIdentifierClause` of the base class, for a token with the given `Id`. -/
def matchesToken (tokenId : String) (clause : SecurityKeyIdentifierClause) : Bool :=
  matchesAssertion tokenId clause || clause == .localId tokenId

end SecurityKeyIdentifierClause

/-- The `SecurityTokenReference` element of a message. -/
structure SecurityTokenReference where
  tokenType : String
  valueType : String
  keyIdentifier : String
deriving DecidableEq, Repr

/-! ## Token descriptors -/

structure Lifetime where
  created : Option DateTime := none
  expires : Option DateTime := none
deriving DecidableEq, Repr

structure SecurityTokenDescriptor where
  appliesToAddress : String
  tokenIssuerName : String
  lifetime : Option Lifetime := none
  signingCredentials : Option SigningCredentials := none
  /-- The key identifier of the proof token. -/
  proof : Option String := none
  subject : ClaimsIdentity
deriving DecidableEq, Repr

/-! ## The base class of the handlers -/

inductive AudienceUriMode where
  | never
  | always
  | bearerKeyOnly
deriving DecidableEq, Repr

/-- `trustedIssuers` are the thumbprint and name pairs of the issuer name
registry; the clock skew cannot be negative. -/
structure SecurityTokenHandlerConfiguration where
  audienceMode : AudienceUriMode := .always
  allowedAudienceUris : List Uri := []
  trustedIssuers : List (String × String) := []
  maxClockSkew : Nat := 3000000000
deriving DecidableEq, Repr

/-- The methods of the base `Saml2SecurityTokenHandler`: those that build an
assertion from a descriptor, and those that check one. -/
structure Saml2SecurityTokenHandler where
  createSamlSubject : SecurityTokenDescriptor → Except Exception Saml2Subject
  createIssuerNameIdentifier : SecurityTokenDescriptor → Except Exception Saml2NameIdentifier
  getSigningCredentials : SecurityTokenDescriptor → Except Exception (Option SigningCredentials)
  createConditions : Option Lifetime → String → SecurityTokenDescriptor →
    Except Exception (Option Saml2Conditions)
  createAdvice : SecurityTokenDescriptor → Except Exception (Option Saml2Advice)
  createStatements : SecurityTokenDescriptor → Except Exception (List Saml2Statement)
  validateConditions : SecurityTokenHandlerConfiguration → DateTime → Option Saml2Conditions →
    Except Exception Unit
  validateIssuer : SecurityTokenHandlerConfiguration → DateTime → IssuerToken →
    Saml2NameIdentifier → Except Exception String
  createClaims : String → Option Saml2NameIdentifier → List Saml2Statement →
    Except Exception ClaimsIdentity

namespace Saml2SecurityTokenHandler

/-- The base `ValidateConfirmationData`: the checks in their order, each
with the identifier of its message. -/
def validateConfirmationData (configuration : SecurityTokenHandlerConfiguration) (now : DateTime)
    (data : Saml2SubjectConfirmationData) : Except Exception Unit := do
  ensure (.securityTokenValidation "ID4153") data.address.isNone
  ensure (.securityTokenValidation "ID4154") data.inResponseTo.isNone
  ensure (.securityTokenValidation "ID4157") data.recipient.isNone
  ensure (.securityTokenValidation "ID4176")
    (data.notBefore.all fun t => t ≤ now + configuration.maxClockSkew)
  ensure (.securityTokenValidation "ID4177")
    (data.notOnOrAfter.all fun t => now - configuration.maxClockSkew < t)

/-- Check the data of a confirmation, when there is data. -/
def checkConfirmation
    (validateConfirmationData : Saml2SubjectConfirmationData → Except Exception Unit)
    (confirmation : Saml2SubjectConfirmation) : Except Exception Unit :=
  match confirmation.subjectConfirmationData with
  | some data => validateConfirmationData data
  | none => .ok ()

theorem returns_checkConfirmation_iff
    {validateConfirmationData : Saml2SubjectConfirmationData → Except Exception Unit}
    {confirmation : Saml2SubjectConfirmation} :
    Returns (checkConfirmation validateConfirmationData confirmation) ↔
      ∀ data, confirmation.subjectConfirmationData = some data →
        Returns (validateConfirmationData data) := by
  unfold checkConfirmation
  cases confirmation.subjectConfirmationData with
  | none => simp
  | some data => simp

/-- The base `ValidateToken`.  It calls the overridable
`ValidateConfirmationData` on the data of the first subject confirmation. -/
def validateToken (base : Saml2SecurityTokenHandler)
    (validateConfirmationData : Saml2SubjectConfirmationData → Except Exception Unit)
    (configuration : SecurityTokenHandlerConfiguration) (now : DateTime)
    (token : Saml2SecurityToken) : Except Exception ClaimsIdentity := do
  let assertion := token.assertion
  let issuerToken ← deref (.securityTokenValidation "ID4152") token.issuerToken
  base.validateConditions configuration now assertion.conditions
  let subject ← deref .nullReference assertion.subject
  let confirmation ← deref (.argument "index") subject.subjectConfirmations.head?
  checkConfirmation validateConfirmationData confirmation
  let issuer ← base.validateIssuer configuration now issuerToken assertion.issuer
  base.createClaims issuer subject.nameId assertion.statements

/-- An instant within the limits of the confirmation data, give or take the
clock skew. -/
def InWindow (configuration : SecurityTokenHandlerConfiguration) (now : DateTime)
    (data : Saml2SubjectConfirmationData) : Prop :=
  (∀ t, data.notBefore = some t → t ≤ now + configuration.maxClockSkew) ∧
    ∀ t, data.notOnOrAfter = some t → now - configuration.maxClockSkew < t

/-- All five checks. -/
theorem validateConfirmationData_eq_ok_iff {configuration : SecurityTokenHandlerConfiguration}
    {now : DateTime} {data : Saml2SubjectConfirmationData} {u : Unit} :
    validateConfirmationData configuration now data = .ok u ↔
      data.address = none ∧ data.inResponseTo = none ∧ data.recipient = none ∧
        InWindow configuration now data := by
  simp only [validateConfirmationData, bind_eq_ok, ensure_eq_ok, Option.isNone_iff_eq_none,
    Option.all_eq_true, decide_eq_true_eq, InWindow]
  constructor
  · intro h
    obtain ⟨-, haddress, -, hresponse, -, hrecipient, -, hbefore, hafter⟩ := h
    exact ⟨haddress, hresponse, hrecipient, hbefore, hafter⟩
  · intro h
    obtain ⟨haddress, hresponse, hrecipient, hbefore, hafter⟩ := h
    exact ⟨(), haddress, (), hresponse, (), hrecipient, (), hbefore, hafter⟩

/-- The errors of the base method, in the order of its checks. -/
def confirmationErrors : List Exception :=
  ["ID4153", "ID4154", "ID4157", "ID4176", "ID4177"].map Exception.securityTokenValidation

/-- The complaint about a recipient is raised exactly when the two checks
before it pass, and there is a recipient. -/
theorem validateConfirmationData_eq_error {configuration : SecurityTokenHandlerConfiguration}
    {now : DateTime} {data : Saml2SubjectConfirmationData} {ex : Exception}
    (h : validateConfirmationData configuration now data = .error ex) :
    ex ∈ confirmationErrors ∧ (ex = .securityTokenValidation "ID4157" ↔
      data.address = none ∧ data.inResponseTo = none ∧ data.recipient ≠ none) := by
  simp only [validateConfirmationData, bind_eq_error, ensure_eq_error, ensure_eq_ok,
    Option.isNone_eq_false_iff, Option.isNone_iff_eq_none, Option.isSome_iff_ne_none] at h
  -- One case for each check that can be the first to fail.
  rcases h with ⟨haddress, rfl⟩ | ⟨-, haddress, h⟩
  · simp [confirmationErrors, haddress]
  rcases h with ⟨hresponse, rfl⟩ | ⟨-, hresponse, h⟩
  · simp [confirmationErrors, hresponse]
  rcases h with ⟨hrecipient, rfl⟩ | ⟨-, hrecipient, h⟩
  · simp [confirmationErrors, haddress, hresponse, hrecipient]
  rcases h with ⟨-, rfl⟩ | ⟨-, -, -, rfl⟩
  · simp [confirmationErrors, hrecipient]
  · simp [confirmationErrors, hrecipient]

/-- The checks of `ValidateToken` other than that of the confirmation data. -/
def OtherChecks (base : Saml2SecurityTokenHandler)
    (configuration : SecurityTokenHandlerConfiguration) (now : DateTime)
    (token : Saml2SecurityToken) : Prop :=
  ∃ issuerToken subject issuer, token.issuerToken = some issuerToken ∧
    Returns (base.validateConditions configuration now token.assertion.conditions) ∧
    token.assertion.subject = some subject ∧ subject.subjectConfirmations ≠ [] ∧
    base.validateIssuer configuration now issuerToken token.assertion.issuer = .ok issuer ∧
    Returns (base.createClaims issuer subject.nameId token.assertion.statements)

/-- A token is accepted exactly when it passes the other checks, and its
first confirmation has no data or data that is accepted. -/
theorem returns_validateToken_iff {base : Saml2SecurityTokenHandler}
    {validateConfirmationData : Saml2SubjectConfirmationData → Except Exception Unit}
    {configuration : SecurityTokenHandlerConfiguration} {now : DateTime}
    {token : Saml2SecurityToken} :
    Returns (base.validateToken validateConfirmationData configuration now token) ↔
      OtherChecks base configuration now token ∧
        ∀ data, token.confirmationData = some data → Returns (validateConfirmationData data) := by
  simp only [validateToken, returns_bind, deref_eq_ok, OtherChecks]
  constructor
  · intro h
    obtain ⟨issuerToken, htoken, u, hconditions, subject, hsubject, confirmation, hhead, v, hcheck,
      issuer, hissuer, hclaims⟩ := h
    have hne : subject.subjectConfirmations ≠ [] :=
      List.ne_nil_of_mem (List.mem_of_mem_head? hhead)
    have hdata := returns_checkConfirmation_iff.mp ⟨v, hcheck⟩
    rw [← Saml2SecurityToken.confirmationData_eq hsubject hhead] at hdata
    exact ⟨⟨issuerToken, subject, issuer, htoken, ⟨u, hconditions⟩, hsubject, hne, hissuer,
      hclaims⟩, hdata⟩
  · intro h
    obtain ⟨⟨issuerToken, subject, issuer, htoken, ⟨u, hconditions⟩, hsubject, hne, hissuer,
      hclaims⟩, hdata⟩ := h
    obtain ⟨confirmation, rest, hcons⟩ := List.exists_cons_of_ne_nil hne
    have hhead : subject.subjectConfirmations.head? = some confirmation := by
      rw [hcons, List.head?_cons]
    rw [Saml2SecurityToken.confirmationData_eq hsubject hhead] at hdata
    obtain ⟨v, hcheck⟩ := returns_checkConfirmation_iff.mpr hdata
    exact ⟨issuerToken, htoken, u, hconditions, subject, hsubject, confirmation, hhead, v, hcheck,
      issuer, hissuer, hclaims⟩

/-! ## What the repository relies on in the base class -/

/-- The `NameIdentifier` claims of a descriptor's subject. -/
def nameIdentifiers (d : SecurityTokenDescriptor) : List Claim :=
  claimsOfType ClaimTypes.nameIdentifier d.subject.claims

/-- `CreateSamlSubject` names the subject after the descriptor's only
`NameIdentifier` claim; it rejects a second one and an empty name. -/
structure NamesSubject (base : Saml2SecurityTokenHandler) : Prop where
  returns_iff : ∀ d, Returns (base.createSamlSubject d) ↔
    (nameIdentifiers d).length ≤ 1 ∧ ∀ c ∈ nameIdentifiers d, c.value ≠ ""
  nameId_eq : ∀ d subject, base.createSamlSubject d = .ok subject →
    subject.nameId.map (·.value) = (nameIdentifiers d).head?.map (·.value)

/-- The claim types that `CreateStatements` does not turn into attributes. -/
def notAttributes : List String :=
  [ClaimTypes.nameIdentifier, ClaimTypes.authenticationInstant, ClaimTypes.authenticationMethod]

/-- `CreateStatements` states every other claim of the subject as an
attribute of its type and value. -/
structure StatesAttributes (base : Saml2SecurityTokenHandler) : Prop where
  attributeValues_eq : ∀ d statements, base.createStatements d = .ok statements →
    ∀ type ∉ notAttributes,
      attributeValues type statements = (claimsOfType type d.subject.claims).map (·.value)

/-- `CreateConditions` copies the lifetime, and makes the address, read by
the URI constructor, the only audience. -/
structure CopiesConditions (newUri : String → Except Exception Uri)
    (base : Saml2SecurityTokenHandler) : Prop where
  eq_of_ok : ∀ lifetime address d conditions,
    base.createConditions (some lifetime) address d = .ok conditions →
    ∃ audiences, conditions = some ⟨lifetime.created, lifetime.expires, audiences⟩ ∧
      (address ≠ "" → ∃ audience, newUri address = .ok audience ∧ audiences = [[audience]])

/-- The other methods return for a descriptor with an issuer name, a
lifetime that ends after it starts and an address that is a URI. -/
structure ReturnsOnIssuerName (newUri : String → Except Exception Uri)
    (base : Saml2SecurityTokenHandler) : Prop where
  createIssuerNameIdentifier : ∀ d,
    Returns (base.createIssuerNameIdentifier d) ↔ d.tokenIssuerName ≠ ""
  getSigningCredentials : ∀ d, base.getSigningCredentials d = .ok d.signingCredentials
  createConditions : ∀ created expires d, created < expires → Returns (newUri d.appliesToAddress) →
    Returns (base.createConditions (some ⟨some created, some expires⟩) d.appliesToAddress d)
  createAdvice : ∀ d, Returns (base.createAdvice d)
  createStatements : ∀ d, Returns (base.createStatements d)

/-- None of them raises a `FaultException`, which belongs to the service
framework and not to this library. -/
structure RaisesNoFault (base : Saml2SecurityTokenHandler) : Prop where
  createSamlSubject : ∀ d, FailsOnly (·.isFault = false) (base.createSamlSubject d)
  createIssuerNameIdentifier : ∀ d,
    FailsOnly (·.isFault = false) (base.createIssuerNameIdentifier d)
  getSigningCredentials : ∀ d, FailsOnly (·.isFault = false) (base.getSigningCredentials d)
  createConditions : ∀ lifetime address d,
    FailsOnly (·.isFault = false) (base.createConditions lifetime address d)
  createAdvice : ∀ d, FailsOnly (·.isFault = false) (base.createAdvice d)
  createStatements : ∀ d, FailsOnly (·.isFault = false) (base.createStatements d)

/-- An instant within the conditions of an assertion, give or take `skew`. -/
def InConditionsWindow (skew : Nat) (now : DateTime) (conditions : Saml2Conditions) : Prop :=
  (∀ t, conditions.notBefore = some t → t ≤ now + skew) ∧
    ∀ t, conditions.notOnOrAfter = some t → now - skew < t

/-- The clock skew only widens the window. -/
theorem InConditionsWindow.mono {now : DateTime} {conditions : Saml2Conditions}
    (h : InConditionsWindow 0 now conditions) (skew : Nat) :
    InConditionsWindow skew now conditions := by
  have hskew : ((0 : Nat) : Int) ≤ skew := Int.ofNat_le.mpr (Nat.zero_le skew)
  exact ⟨fun t ht => Int.le_trans (h.1 t ht) (Int.add_le_add_left hskew now),
    fun t ht => Int.lt_of_le_of_lt (Int.sub_le_sub_left hskew now) (h.2 t ht)⟩

/-- `ValidateToken` goes by its configuration: the instant is in the window
of the conditions, every audience restriction names an allowed audience, up to
query and fragment, and the issuer is in the name registry. -/
structure ChecksByConfiguration (base : Saml2SecurityTokenHandler) : Prop where
  returns_validateConditions_iff : ∀ configuration now conditions,
    configuration.audienceMode = .always →
    (Returns (base.validateConditions configuration now (some conditions)) ↔
      InConditionsWindow configuration.maxClockSkew now conditions ∧
      conditions.audienceRestrictions ≠ [] ∧
      ∀ audiences ∈ conditions.audienceRestrictions, ∃ audience ∈ audiences,
        ∃ allowed ∈ configuration.allowedAudienceUris, allowed.equals audience.leftPart = true)
  returns_validateIssuer_iff : ∀ configuration now certificate issuer,
    Returns (base.validateIssuer configuration now (.x509 certificate) issuer) ↔
      configuration.trustedIssuers.lookup certificate.thumbprint ≠ none
  returns_createClaims : ∀ issuer nameId statements,
    Returns (base.createClaims issuer nameId statements)

end Saml2SecurityTokenHandler

end KombitSamples
