import KombitSamples.Sts.CustomSaml2SecurityTokenHandler
import KombitSamples.Sts.OutputClaims

/-!
# KombitSamples.Sts.Assembly

What the handler leaves of the parts that the base class makes for an
assertion: it decorates the first confirmation of the subject and the format of
the attributes, and nothing else.

* `assembled_of_createToken` — the parts of a created token, by those of the
  base class.
-/

namespace KombitSamples.Sts

open Fallible Saml2SecurityTokenHandler

/-! ## The parts of an assertion -/

/-- The key type that a request asks for: that of the secondary parameters,
unless it is empty. -/
def effectiveKeyType (request : RequestSecurityToken) : Option String :=
  ((request.secondaryParameters.bind (·.keyType)).filter (· ≠ "")).or request.keyType

/-- The data of the base confirmation, with a recipient and, where the request
has one, its expiry. -/
structure DecoratedData (request : RequestSecurityToken)
    (base data : Saml2SubjectConfirmationData) : Prop where
  recipient : ∃ appliesTo, request.appliesTo = some appliesTo ∧ data.recipient = some appliesTo.uri
  notOnOrAfter : ∀ expires, request.lifetime.bind (·.expires) = some expires →
    data.notOnOrAfter = some expires
  kept : { data with recipient := base.recipient, notOnOrAfter := base.notOnOrAfter } = base

/-- The confirmations of the base subject, with data in the first; if there is
none, one is made. -/
structure DecoratedConfirmations (constants : Constants) (request : RequestSecurityToken)
    (base confirmations : List Saml2SubjectConfirmation) : Prop where
  length_eq : confirmations.length = max 1 base.length
  made : base = [] → confirmations.map (·.method) =
    [if effectiveKeyType request = some constants.symmetricKeyType
      then ConfirmationMethods.holderOfKey else ConfirmationMethods.bearer]
  first_method : base ≠ [] → confirmations.head?.map (·.method) = base.head?.map (·.method)
  first_data : ∃ data, confirmations.head?.bind (·.subjectConfirmationData) = some data ∧
    DecoratedData request ((base.head?.bind (·.subjectConfirmationData)).getD {}) data
  later : confirmations.tail = base.tail

/-- The attribute of the base class, in the basic name format. -/
structure DecoratedAttribute (base saml2Attribute : Saml2Attribute) : Prop where
  name : saml2Attribute.name = base.name
  values : saml2Attribute.values = base.values
  nameFormat : saml2Attribute.nameFormat = some basicNameFormat

/-- The statement of the base class, with its attributes decorated. -/
inductive DecoratedStatement : Saml2Statement → Saml2Statement → Prop where
  | attributeStatement {base attributes : List Saml2Attribute}
      (h : List.Forall₂ DecoratedAttribute base attributes) :
      DecoratedStatement (.attributeStatement base) (.attributeStatement attributes)
  | other (kind : String) : DecoratedStatement (.other kind) (.other kind)

/-- The assertion has the parts that the base class makes for the descriptor,
with the confirmations and the statements decorated. -/
structure Assembled (constants : Constants) (im : IdentityModel) (request : RequestSecurityToken)
    (tokenDescriptor : SecurityTokenDescriptor) (assertion : Saml2Assertion) : Prop where
  subject : ∃ base subject, im.saml2.createSamlSubject tokenDescriptor = .ok base ∧
    assertion.subject = some subject ∧
    DecoratedConfirmations constants request base.subjectConfirmations subject.subjectConfirmations
  statements : ∃ base, im.saml2.createStatements tokenDescriptor = .ok base ∧
    List.Forall₂ DecoratedStatement base assertion.statements
  conditions : im.saml2.createConditions tokenDescriptor.lifetime
    tokenDescriptor.appliesToAddress tokenDescriptor = .ok assertion.conditions
  signingCredentials : im.saml2.getSigningCredentials tokenDescriptor =
    .ok assertion.signingCredentials
  advice : im.saml2.createAdvice tokenDescriptor = .ok assertion.advice

/-! ## The request -/

/-- `GetScope` leaves the effective key type in the request. -/
theorem keyType_withSecondaryParameters (request : RequestSecurityToken) :
    (withSecondaryParameters request).keyType = effectiveKeyType request := by
  unfold withSecondaryParameters effectiveKeyType
  cases request.secondaryParameters with
  | none => rfl
  | some secondary =>
      change unlessEmpty secondary.keyType request.keyType = _
      unfold unlessEmpty
      rw [Option.bind_some]
      cases secondary.keyType with
      | none => rfl
      | some keyType => by_cases hempty : keyType = "" <;> simp [hempty, Option.filter]

/-! ## The statements -/

theorem decoratedAttribute_withBasicNameFormat (saml2Attribute : Saml2Attribute) :
    DecoratedAttribute saml2Attribute (withBasicNameFormat saml2Attribute) := ⟨rfl, rfl, rfl⟩

theorem decoratedStatement_formatStatement (statement : Saml2Statement) :
    DecoratedStatement statement (formatStatement statement) := by
  cases statement with
  | attributeStatement attributes =>
      refine .attributeStatement (List.forall₂_map_right_iff.mpr (List.forall₂_same.mpr ?_))
      exact fun saml2Attribute _ => decoratedAttribute_withBasicNameFormat saml2Attribute
  | other kind => exact .other kind

theorem decoratedStatements (statements : List Saml2Statement) :
    List.Forall₂ DecoratedStatement statements (statements.map formatStatement) :=
  List.forall₂_map_right_iff.mpr
    (List.forall₂_same.mpr fun statement _ => decoratedStatement_formatStatement statement)

/-! ## The confirmations -/

/-- The branch on `OnBehalfOf` only changes names. -/
theorem kept_of_nameOnBehalfOf {constants : Constants} {onBehalfOf : Option SecurityTokenElement}
    {subject renamed : Saml2Subject} {first subjectConfirmation : Saml2SubjectConfirmation}
    (h : nameOnBehalfOf constants onBehalfOf subject first = .ok (renamed, subjectConfirmation)) :
    renamed.subjectConfirmations = subject.subjectConfirmations ∧
      subjectConfirmation.method = first.method := by
  cases onBehalfOf with
  | none =>
      rw [nameOnBehalfOf_none, Except.ok.injEq, Prod.mk.injEq] at h
      obtain ⟨rfl, rfl⟩ := h
      exact ⟨rfl, rfl⟩
  | some element =>
      obtain ⟨sender, token, name, -, -, -, hresult⟩ := nameOnBehalfOf_some_eq_ok_iff.mp h
      obtain ⟨rfl, rfl⟩ := Prod.mk.inj hresult
      exact ⟨rfl, rfl⟩

section Confirmations

variable {constants : Constants} {zone : TimeZoneInfo} {now : DateTime}
  {request : RequestSecurityToken} {appliesTo : EndpointReference}

/-- The data gets the address of the relying party, and the requested expiry. -/
theorem decoratedData_withSecondaryParameters (happ : request.appliesTo = some appliesTo)
    (subjectConfirmation : Saml2SubjectConfirmation) :
    DecoratedData request (subjectConfirmation.subjectConfirmationData.getD {})
      (decoratedData constants zone now (withSecondaryParameters request) appliesTo
        subjectConfirmation) where
  recipient := ⟨appliesTo, happ, rfl⟩
  notOnOrAfter expires hexpires := by
    rw [decoratedData, confirmationExpiry, lifetime_withSecondaryParameters, hexpires]
    rfl
  kept := rfl

/-- The confirmations that a subject ends up with, when the first one is
replaced. -/
theorem decoratedConfirmations {subject : Saml2Subject}
    {subjectConfirmation : Saml2SubjectConfirmation} {data : Saml2SubjectConfirmationData}
    (hmethod : subjectConfirmation.method =
      (firstConfirmation constants (withSecondaryParameters request) subject).method)
    (hdata : DecoratedData request ((firstConfirmation constants (withSecondaryParameters request)
      subject).subjectConfirmationData.getD {}) data) :
    DecoratedConfirmations constants request subject.subjectConfirmations
      ({ subjectConfirmation with subjectConfirmationData := some data } ::
        subject.subjectConfirmations.tail) := by
  unfold firstConfirmation at hmethod hdata
  cases hbase : subject.subjectConfirmations with
  | nil =>
      rw [hbase, List.headD_nil] at hmethod hdata
      refine ⟨rfl, fun _ => ?_, fun hne => absurd rfl hne, ⟨data, rfl, hdata⟩, rfl⟩
      rw [List.tail_nil, List.map_singleton, hmethod, confirmationMethod,
        keyType_withSecondaryParameters]
  | cons first later =>
      rw [hbase, List.headD_cons] at hmethod hdata
      refine ⟨?_, fun hnil => absurd hnil (List.cons_ne_nil _ _), fun _ => ?_,
        ⟨data, rfl, hdata⟩, rfl⟩
      · rw [List.tail_cons, List.length_cons, List.length_cons]
        omega
      · exact congrArg some hmethod

end Confirmations

/-- **Assembly.** A token that is created for a request after its scope was
found has the parts that the base class makes; only its first confirmation and
the format of its attributes are decorated. -/
theorem assembled_of_createToken {constants : Constants} {im : IdentityModel} {now : DateTime}
    {request clientRequest : RequestSecurityToken} {scope : Scope}
    {tokenDescriptor : SecurityTokenDescriptor} {token : Saml2SecurityToken}
    (hscope : getScope constants request = .ok (scope, clientRequest))
    (h : createToken constants im now clientRequest tokenDescriptor = .ok token) :
    Assembled constants im request tokenDescriptor token.assertion := by
  obtain ⟨appliesTo, happ, -, -, rfl⟩ := (getScope_eq_ok_iff _ _ _ _).mp hscope
  obtain ⟨c⟩ := createToken_eq_ok_iff.mp h
  obtain ⟨base, hbase, hsubject⟩ := createSamlSubject_eq_ok_iff.mp c.subject_eq
  have hconfirmations : c.subject.subjectConfirmations = base.subjectConfirmations := by
    rw [hsubject]
  obtain ⟨hkept, hmethod⟩ := kept_of_nameOnBehalfOf c.renamed_eq
  have happ' : request.appliesTo = some c.appliesTo := by
    rw [← appliesTo_withSecondaryParameters]
    exact c.appliesTo_eq
  have hdata := @decoratedData_withSecondaryParameters constants im.timeZone now request c.appliesTo
    happ'
    (firstConfirmation constants (withSecondaryParameters request) c.subject)
  have hfirst := decoratedConfirmations hmethod hdata
  rw [hconfirmations] at hfirst
  rw [c.token_eq]
  refine ⟨⟨base, _, hbase, rfl, ?_⟩, ⟨c.statements, c.statements_eq, decoratedStatements _⟩,
    c.conditions_eq, c.signingCredentials_eq, c.advice_eq⟩
  rw [hkept, hconfirmations]
  exact hfirst

/-- A request whose secondary parameters ask for a symmetric key. -/
def symmetricRequest : RequestSecurityToken :=
  { sampleRequest with
    keyType := some Documented.bearerKeyType
    lifetime := some { expires := some (TimeSpan.fromMinutes 5) }
    secondaryParameters := some { keyType := some sampleConstants.symmetricKeyType } }

/-- A descriptor for the relying party. -/
def sampleDescriptor : SecurityTokenDescriptor where
  appliesToAddress := "https://service.example/svc"
  tokenIssuerName := sampleConstants.baseAddress
  lifetime := some ⟨some 0, some (TimeSpan.fromMinutes 5)⟩
  signingCredentials := some sampleConstants.signingCredentials
  proof := some "key"
  subject := clientIdentity sampleConstants sampleConstants.aValidClientCertificate []

/-- A base class that makes no confirmation. -/
def unconfirmed : IdentityModel :=
  { Documented.identityModel with
    saml2 := { Documented.saml2 with
      createSamlSubject := fun d => do
        let subject ← Documented.saml2.createSamlSubject d
        pure { subject with subjectConfirmations := [] } } }

/-- The confirmation that the handler makes then asks for a key. -/
theorem assembled_symmetricRequest :
    ∃ token, createToken sampleConstants unconfirmed 0 (withSecondaryParameters symmetricRequest)
        sampleDescriptor = .ok token ∧
      token.firstConfirmation.map (·.method) = some ConfirmationMethods.holderOfKey ∧
      Assembled sampleConstants unconfirmed symmetricRequest sampleDescriptor token.assertion := by
  obtain ⟨token, h, hmethod⟩ : ∃ token, createToken sampleConstants unconfirmed 0
      (withSecondaryParameters symmetricRequest) sampleDescriptor = .ok token ∧
      token.firstConfirmation.map (·.method) = some ConfirmationMethods.holderOfKey :=
    ⟨_, rfl, by decide⟩
  exact ⟨token, h, hmethod, assembled_of_createToken rfl h⟩

end KombitSamples.Sts
