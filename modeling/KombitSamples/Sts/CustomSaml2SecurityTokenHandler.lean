import KombitSamples.Sts.CustomCertificateSecurityTokenHandler

/-!
# KombitSamples.Sts.CustomSaml2SecurityTokenHandler

The handler that creates the issued assertion.

`createToken` takes the subject of the base class and decorates it: the
first confirmation is given data, a request on behalf of someone else moves
the requestor into that confirmation and puts the name of the other token in
the subject, and the data is given a recipient and an expiry.  The attributes
and the issuer get their formats.  `createToken_eq_ok_iff` lists what a
created token consists of.
-/

namespace KombitSamples.Sts

open Fallible Saml2SecurityTokenHandler

/-! ## The subject -/

def x509SubjectNameUri : Uri := ⟨x509SubjectNameFormat⟩

def entityFormat : Uri := ⟨"urn:oasis:names:tc:SAML:2.0:nameidformat:entity"⟩

def basicNameFormat : Uri := ⟨"urn:oasis:names:tc:SAML:2.0:attrname-format:basic"⟩

/-- `CreateSamlSubject`: the base subject, with the format of its name set. -/
def createSamlSubject (im : IdentityModel) (tokenDescriptor : SecurityTokenDescriptor) :
    Except Exception Saml2Subject := do
  let result ← im.saml2.createSamlSubject tokenDescriptor
  pure { result with
    nameId := result.nameId.map fun n => { n with format := some x509SubjectNameUri } }

/-- The method of a confirmation that the handler has to make itself. -/
def confirmationMethod (constants : Constants) (rst : RequestSecurityToken) : Uri :=
  if rst.keyType = some constants.symmetricKeyType then ConfirmationMethods.holderOfKey
  else ConfirmationMethods.bearer

/-- The first confirmation of the subject, or a new one. -/
def firstConfirmation (constants : Constants) (rst : RequestSecurityToken)
    (subject : Saml2Subject) : Saml2SubjectConfirmation :=
  subject.subjectConfirmations.headD { method := confirmationMethod constants rst }

/-- The name that a token gives its owner.  For a token of another kind the
subject keeps the name it has. -/
def subjectNameOf (constants : Constants) (current : Saml2NameIdentifier) :
    SecurityToken → Except Exception Saml2NameIdentifier
  | .saml2 saml2SecurityToken => do
      let subject ← deref .nullReference saml2SecurityToken.assertion.subject
      deref .nullReference subject.nameId
  | .x509 certificate =>
      .ok ⟨constants.getSubjectNameId certificate, some x509SubjectNameUri,
        constants.getSubjectNameId_ne_empty certificate⟩
  | .other _ => .ok current

/-- The branch on `OnBehalfOf`: the message sender moves into the
confirmation, and the subject is named after the on-behalf-of token. -/
def nameOnBehalfOf (constants : Constants) (onBehalfOf : Option SecurityTokenElement)
    (subject : Saml2Subject) (subjectConfirmation : Saml2SubjectConfirmation) :
    Except Exception (Saml2Subject × Saml2SubjectConfirmation) :=
  match onBehalfOf with
  | none => .ok (subject, subjectConfirmation)
  | some element => do
      let sender ← deref .nullReference subject.nameId
      let subjectConfirmation :=
        { subjectConfirmation with
          nameIdentifier := some { sender with format := some entityFormat } }
      let token ← element.getSecurityToken
      let name ← subjectNameOf constants sender token
      pure ({ subject with nameId := some name }, subjectConfirmation)

/-- The expiry of the confirmation data: the requested one, or the configured lifetime on
from the reading of the wall clock.  The setter of `NotOnOrAfter` converts it. -/
def confirmationExpiry (constants : Constants) (zone : TimeZoneInfo) (now : DateTime)
    (lifetime : Option Lifetime) : DateTime :=
  (lifetime.bind (·.expires)).getD (zone.toUniversalTime
    ((zone.toLocalTime now).add (TimeSpan.fromMinutes constants.maximumTokenLifetime)))

/-! ## The statements -/

def withBasicNameFormat (saml2Attribute : Saml2Attribute) : Saml2Attribute :=
  { saml2Attribute with nameFormat := some basicNameFormat }

/-- One turn of the loop over the statements: the attributes of an attribute
statement get the basic name format. -/
def formatStatement : Saml2Statement → Saml2Statement
  | .attributeStatement attributes => .attributeStatement (attributes.map withBasicNameFormat)
  | .other kind => .other kind

/-! ## CreateToken -/

/-- `CreateToken`. -/
def createToken (constants : Constants) (im : IdentityModel) (now : DateTime)
    (rst : RequestSecurityToken) (tokenDescriptor : SecurityTokenDescriptor) :
    Except Exception Saml2SecurityToken := do
  let subject ← createSamlSubject im tokenDescriptor
  let subjectConfirmation := firstConfirmation constants rst subject
  let subjectConfirmationData := subjectConfirmation.subjectConfirmationData.getD {}
  let (subject, subjectConfirmation) ←
    nameOnBehalfOf constants rst.onBehalfOf subject subjectConfirmation
  let appliesTo ← deref .nullReference rst.appliesTo
  let subjectConfirmationData := { subjectConfirmationData with
    recipient := some appliesTo.uri
    notOnOrAfter := some (confirmationExpiry constants im.timeZone now rst.lifetime) }
  let subjectConfirmation :=
    { subjectConfirmation with subjectConfirmationData := some subjectConfirmationData }
  -- The confirmation is changed in place, at the head of the subject's list.
  let subject := { subject with
    subjectConfirmations := subjectConfirmation :: subject.subjectConfirmations.tail }
  let issuer ← im.saml2.createIssuerNameIdentifier tokenDescriptor
  let signingCredentials ← im.saml2.getSigningCredentials tokenDescriptor
  let conditions ← im.saml2.createConditions tokenDescriptor.lifetime
    tokenDescriptor.appliesToAddress tokenDescriptor
  let advice ← im.saml2.createAdvice tokenDescriptor
  let statements ← im.saml2.createStatements tokenDescriptor
  pure { assertion := {
    issuer := { issuer with format := some entityFormat }
    subject := some subject
    signingCredentials := signingCredentials
    conditions := conditions
    advice := advice
    statements := statements.map formatStatement } }

/-! ## What a created token consists of -/

/-- Formatting the statements changes no value. -/
@[simp] theorem attributeValues_map_formatStatement (name : String)
    (statements : List Saml2Statement) :
    attributeValues name (statements.map formatStatement) = attributeValues name statements := by
  have hattr (attributes : List Saml2Attribute) :
      valuesOf name (attributes.map withBasicNameFormat) = valuesOf name attributes := by
    induction attributes with
    | nil => rfl
    | cons a attributes ih =>
        rw [List.map_cons, valuesOf_cons, valuesOf_cons, ih]
        rfl
  induction statements with
  | nil => rfl
  | cons statement statements ih =>
      cases statement with
      | attributeStatement attributes =>
          rw [List.map_cons, formatStatement, attributeValues, attributeValues, ih, hattr]
      | other kind => rw [List.map_cons, formatStatement, attributeValues, attributeValues, ih]

/-- Setting the format keeps the value of the name. -/
theorem createSamlSubject_eq_ok_iff {im : IdentityModel} {tokenDescriptor : SecurityTokenDescriptor}
    {subject : Saml2Subject} :
    createSamlSubject im tokenDescriptor = .ok subject ↔
      ∃ result, im.saml2.createSamlSubject tokenDescriptor = .ok result ∧
        subject = { result with
          nameId := result.nameId.map fun n => { n with format := some x509SubjectNameUri } } := by
  simp only [createSamlSubject, bind_eq_ok, pure_eq_ok, eq_comm (a := subject)]

theorem value_of_createSamlSubject {im : IdentityModel} (hnames : im.saml2.NamesSubject)
    {tokenDescriptor : SecurityTokenDescriptor} {subject : Saml2Subject}
    (h : createSamlSubject im tokenDescriptor = .ok subject) :
    subject.nameId.map (·.value) =
      (nameIdentifiers tokenDescriptor).head?.map (·.value) := by
  obtain ⟨result, hresult, rfl⟩ := createSamlSubject_eq_ok_iff.mp h
  rw [← hnames.nameId_eq tokenDescriptor result hresult, Option.map_map]
  rfl

/-- The token is not a SAML 2.0 token without a name.  A certificate always has
one, and a token of another kind names nobody: the subject keeps its name. -/
def NamedIfSaml2 : SecurityToken → Prop
  | .saml2 token => ∃ subject, token.assertion.subject = some subject ∧ subject.nameId ≠ none
  | .x509 _ => True
  | .other _ => True

theorem returns_subjectNameOf_iff {constants : Constants} {current : Saml2NameIdentifier}
    {token : SecurityToken} :
    Returns (subjectNameOf constants current token) ↔ NamedIfSaml2 token := by
  cases token with
  | saml2 token =>
      simp only [subjectNameOf, returns_bind, deref_eq_ok, returns_deref, NamedIfSaml2]
  | x509 certificate => simp [subjectNameOf, NamedIfSaml2]
  | other kind => simp [subjectNameOf, NamedIfSaml2]

/-- Without an on-behalf-of element nothing is renamed. -/
@[simp] theorem nameOnBehalfOf_none (constants : Constants) (subject : Saml2Subject)
    (subjectConfirmation : Saml2SubjectConfirmation) :
    nameOnBehalfOf constants none subject subjectConfirmation =
      .ok (subject, subjectConfirmation) := rfl

/-- With one, the sender's name ends up in the confirmation and the other
token's name in the subject; both have to exist. -/
theorem nameOnBehalfOf_some_eq_ok_iff {constants : Constants} {element : SecurityTokenElement}
    {subject : Saml2Subject} {subjectConfirmation : Saml2SubjectConfirmation}
    {result : Saml2Subject × Saml2SubjectConfirmation} :
    nameOnBehalfOf constants (some element) subject subjectConfirmation = .ok result ↔
      ∃ sender token name, subject.nameId = some sender ∧
        element.getSecurityToken = .ok token ∧ subjectNameOf constants sender token = .ok name ∧
        result = ({ subject with nameId := some name },
          { subjectConfirmation with
            nameIdentifier := some { sender with format := some entityFormat } }) := by
  simp only [nameOnBehalfOf, bind_eq_ok, deref_eq_ok, pure_eq_ok]
  constructor
  · intro h
    obtain ⟨sender, hsender, token, htoken, name, hname, rfl⟩ := h
    exact ⟨sender, token, name, hsender, htoken, hname, rfl⟩
  · intro h
    obtain ⟨sender, token, name, hsender, htoken, hname, rfl⟩ := h
    exact ⟨sender, hsender, token, htoken, name, hname, rfl⟩

/-- Renaming succeeds when the sender has a name, and the token can be read and
is not a SAML 2.0 token without one. -/
theorem returns_nameOnBehalfOf_iff {constants : Constants}
    {onBehalfOf : Option SecurityTokenElement} {subject : Saml2Subject}
    {subjectConfirmation : Saml2SubjectConfirmation} :
    Returns (nameOnBehalfOf constants onBehalfOf subject subjectConfirmation) ↔
      ∀ element, onBehalfOf = some element → subject.nameId ≠ none ∧
        ∃ token, element.getSecurityToken = .ok token ∧ NamedIfSaml2 token := by
  cases onBehalfOf with
  | none => simp
  | some element =>
      simp only [nameOnBehalfOf, returns_bind, deref_eq_ok, returns_pure, and_true,
        Option.some.injEq, forall_eq']
      change (∃ sender, _ ∧ ∃ token, _ ∧ Returns (subjectNameOf constants sender token)) ↔ _
      simp only [returns_subjectNameOf_iff, ← Option.ne_none_iff_exists', exists_and_right]

/-- The data that the first confirmation of a created token ends up with. -/
def decoratedData (constants : Constants) (zone : TimeZoneInfo) (now : DateTime)
    (rst : RequestSecurityToken) (appliesTo : EndpointReference)
    (subjectConfirmation : Saml2SubjectConfirmation) : Saml2SubjectConfirmationData :=
  { subjectConfirmation.subjectConfirmationData.getD {} with
    recipient := some appliesTo.uri
    notOnOrAfter := some (confirmationExpiry constants zone now rst.lifetime) }

/-- The pieces a created token is put together from. -/
structure CreatedFrom (constants : Constants) (im : IdentityModel) (now : DateTime)
    (rst : RequestSecurityToken) (tokenDescriptor : SecurityTokenDescriptor)
    (token : Saml2SecurityToken) where
  subject : Saml2Subject
  renamed : Saml2Subject
  subjectConfirmation : Saml2SubjectConfirmation
  appliesTo : EndpointReference
  issuer : Saml2NameIdentifier
  signingCredentials : Option SigningCredentials
  conditions : Option Saml2Conditions
  advice : Option Saml2Advice
  statements : List Saml2Statement
  subject_eq : createSamlSubject im tokenDescriptor = .ok subject
  renamed_eq : nameOnBehalfOf constants rst.onBehalfOf subject
    (firstConfirmation constants rst subject) = .ok (renamed, subjectConfirmation)
  appliesTo_eq : rst.appliesTo = some appliesTo
  issuer_eq : im.saml2.createIssuerNameIdentifier tokenDescriptor = .ok issuer
  signingCredentials_eq : im.saml2.getSigningCredentials tokenDescriptor = .ok signingCredentials
  conditions_eq : im.saml2.createConditions tokenDescriptor.lifetime
    tokenDescriptor.appliesToAddress tokenDescriptor = .ok conditions
  advice_eq : im.saml2.createAdvice tokenDescriptor = .ok advice
  statements_eq : im.saml2.createStatements tokenDescriptor = .ok statements
  token_eq : token = { assertion := {
    issuer := { issuer with format := some entityFormat }
    subject := some { renamed with
      subjectConfirmations := { subjectConfirmation with
        subjectConfirmationData := some (decoratedData constants im.timeZone now rst appliesTo
          (firstConfirmation constants rst subject)) } :: renamed.subjectConfirmations.tail }
    signingCredentials := signingCredentials
    conditions := conditions
    advice := advice
    statements := statements.map formatStatement } }

/-- `CreateToken` succeeds exactly when all the pieces can be made. -/
theorem createToken_eq_ok_iff {constants : Constants} {im : IdentityModel} {now : DateTime}
    {rst : RequestSecurityToken} {tokenDescriptor : SecurityTokenDescriptor}
    {token : Saml2SecurityToken} :
    createToken constants im now rst tokenDescriptor = .ok token ↔
      Nonempty (CreatedFrom constants im now rst tokenDescriptor token) := by
  simp only [createToken, bind_eq_ok, deref_eq_ok, pure_eq_ok, Prod.exists]
  constructor
  · rintro ⟨subject, hsubject, renamed, confirmation, hrenamed, appliesTo, happ, issuer, hissuer,
      signing, hsigning, conditions, hconditions, advice, hadvice, statements, hstatements, rfl⟩
    exact ⟨⟨subject, renamed, confirmation, appliesTo, issuer, signing, conditions, advice,
      statements, hsubject, hrenamed, happ, hissuer, hsigning, hconditions, hadvice, hstatements,
      rfl⟩⟩
  · intro h
    obtain ⟨c⟩ := h
    exact ⟨c.subject, c.subject_eq, c.renamed, c.subjectConfirmation, c.renamed_eq, c.appliesTo,
      c.appliesTo_eq, c.issuer, c.issuer_eq, c.signingCredentials, c.signingCredentials_eq,
      c.conditions, c.conditions_eq, c.advice, c.advice_eq, c.statements, c.statements_eq,
      c.token_eq.symm⟩

namespace CreatedFrom

variable {constants : Constants} {im : IdentityModel} {now : DateTime}
  {rst : RequestSecurityToken} {tokenDescriptor : SecurityTokenDescriptor}
  {token : Saml2SecurityToken} (c : CreatedFrom constants im now rst tokenDescriptor token)

theorem nameId_eq : token.nameId = c.renamed.nameId :=
  congrArg Saml2SecurityToken.nameId c.token_eq

theorem firstConfirmation_eq : token.firstConfirmation = some { c.subjectConfirmation with
    subjectConfirmationData := some (decoratedData constants im.timeZone now rst c.appliesTo
      (firstConfirmation constants rst c.subject)) } :=
  congrArg Saml2SecurityToken.firstConfirmation c.token_eq

theorem confirmationData_eq : token.confirmationData = some (decoratedData constants im.timeZone
    now rst c.appliesTo (firstConfirmation constants rst c.subject)) :=
  congrArg Saml2SecurityToken.confirmationData c.token_eq

theorem assertion_conditions_eq : token.assertion.conditions = c.conditions :=
  congrArg (·.assertion.conditions) c.token_eq

theorem assertion_signingCredentials_eq :
    token.assertion.signingCredentials = c.signingCredentials :=
  congrArg (·.assertion.signingCredentials) c.token_eq

include c in
/-- There is a subject, with a confirmation. -/
theorem exists_subject :
    ∃ subject, token.assertion.subject = some subject ∧ subject.subjectConfirmations ≠ [] :=
  ⟨_, congrArg (·.assertion.subject) c.token_eq, List.cons_ne_nil _ _⟩

/-- The values of the attributes are those of the base class. -/
theorem attributeValues_eq (name : String) :
    attributeValues name token.assertion.statements = attributeValues name c.statements := by
  rw [← attributeValues_map_formatStatement name c.statements]
  exact congrArg (fun t => attributeValues name t.assertion.statements) c.token_eq

end CreatedFrom

/-! ## Whose names a created token carries -/

/-- The name a token gives the user on whose behalf a request is made. -/
def onBehalfOfName (constants : Constants) : SecurityToken → Option Saml2NameIdentifier
  | .saml2 token => token.nameId
  | .x509 certificate => some ⟨constants.getSubjectNameId certificate, some x509SubjectNameUri,
      constants.getSubjectNameId_ne_empty certificate⟩
  | .other _ => none

theorem subjectNameOf_eq_ok {constants : Constants} {current name : Saml2NameIdentifier}
    {token : SecurityToken} (h : subjectNameOf constants current token = .ok name) :
    name = (onBehalfOfName constants token).getD current := by
  cases token with
  | saml2 token =>
      simp only [subjectNameOf, bind_eq_ok, deref_eq_ok] at h
      obtain ⟨subject, hsubject, hname⟩ := h
      simp [onBehalfOfName, Saml2SecurityToken.nameId, hsubject, hname]
  | x509 certificate => exact (Except.ok.inj h).symm
  | other kind => exact (Except.ok.inj h).symm

section Names

variable {constants : Constants} {im : IdentityModel} {now : DateTime}
  {rst : RequestSecurityToken} {tokenDescriptor : SecurityTokenDescriptor}
  {token : Saml2SecurityToken}

/-- A direct request is answered in the name of the requestor. -/
theorem name_of_createToken_direct (hnames : im.saml2.NamesSubject) (hobo : rst.onBehalfOf = none)
    (h : createToken constants im now rst tokenDescriptor = .ok token) :
    token.nameId.map (·.value) = (nameIdentifiers tokenDescriptor).head?.map (·.value) := by
  obtain ⟨c⟩ := createToken_eq_ok_iff.mp h
  have hrenamed := c.renamed_eq
  rw [hobo, nameOnBehalfOf_none, Except.ok.injEq, Prod.mk.injEq] at hrenamed
  rw [← value_of_createSamlSubject hnames c.subject_eq, c.nameId_eq, hrenamed.1]

/-- A request on behalf of someone is answered in the name that the token
gives, or else that of the requestor, who is also named in the first
confirmation. -/
theorem names_of_createToken_onBehalfOf (hnames : im.saml2.NamesSubject)
    {element : SecurityTokenElement} {onBehalfOf : SecurityToken}
    (hobo : rst.onBehalfOf = some element) (hget : element.getSecurityToken = .ok onBehalfOf)
    (h : createToken constants im now rst tokenDescriptor = .ok token) :
    ∃ sender confirmation,
      some sender.value = (nameIdentifiers tokenDescriptor).head?.map (·.value) ∧
      token.nameId = some ((onBehalfOfName constants onBehalfOf).getD sender) ∧
      token.firstConfirmation = some confirmation ∧
      confirmation.nameIdentifier = some { sender with format := some entityFormat } := by
  obtain ⟨c⟩ := createToken_eq_ok_iff.mp h
  have hrenamed := c.renamed_eq
  rw [hobo, nameOnBehalfOf_some_eq_ok_iff] at hrenamed
  obtain ⟨sender, obo, name, hsender, hobo', hname, hresult⟩ := hrenamed
  obtain rfl : onBehalfOf = obo := Except.ok.inj (hget.symm.trans hobo')
  obtain ⟨hrenamed, hconfirmation⟩ := Prod.mk.inj hresult
  refine ⟨sender, _, ?_, ?_, c.firstConfirmation_eq, ?_⟩
  · rw [← value_of_createSamlSubject hnames c.subject_eq, hsender]
    rfl
  · rw [c.nameId_eq, hrenamed, ← subjectNameOf_eq_ok hname]
  · rw [hconfirmation]

end Names

/-! ## When a token can be created -/

section Returns

variable {constants : Constants} {im : IdentityModel} {tokenDescriptor : SecurityTokenDescriptor}

/-- The created subject has a name exactly when the descriptor names one. -/
theorem nameId_ne_none_iff (hnames : im.saml2.NamesSubject) {subject : Saml2Subject}
    (h : createSamlSubject im tokenDescriptor = .ok subject) :
    subject.nameId ≠ none ↔ nameIdentifiers tokenDescriptor ≠ [] := by
  have hvalue := value_of_createSamlSubject hnames h
  rw [← Option.isSome_iff_ne_none, ← Option.isSome_map, hvalue, Option.isSome_map,
    Option.isSome_iff_ne_none, ne_eq, List.head?_eq_none_iff]

theorem returns_createSamlSubject_iff (hnames : im.saml2.NamesSubject) :
    Returns (createSamlSubject im tokenDescriptor) ↔
      (nameIdentifiers tokenDescriptor).length ≤ 1 ∧
        ∀ c ∈ nameIdentifiers tokenDescriptor, c.value ≠ "" := by
  rw [← hnames.returns_iff]
  simp only [createSamlSubject, returns_bind, returns_pure, and_true]
  rfl

/-- A token is created exactly when the issuer and, at most once, the
subject have a name, and so does an on-behalf-of token that is a SAML 2.0
token. -/
theorem returns_createToken_iff (hnames : im.saml2.NamesSubject)
    (hreturns : im.saml2.ReturnsOnIssuerName im.newUri)
    (hconditions : Returns (im.saml2.createConditions tokenDescriptor.lifetime
      tokenDescriptor.appliesToAddress tokenDescriptor))
    {now : DateTime} {rst : RequestSecurityToken} (happ : rst.appliesTo ≠ none) :
    Returns (createToken constants im now rst tokenDescriptor) ↔
      tokenDescriptor.tokenIssuerName ≠ "" ∧
      ((nameIdentifiers tokenDescriptor).length ≤ 1 ∧
        ∀ c ∈ nameIdentifiers tokenDescriptor, c.value ≠ "") ∧
      ∀ element, rst.onBehalfOf = some element → nameIdentifiers tokenDescriptor ≠ [] ∧
        ∃ token, element.getSecurityToken = .ok token ∧ NamedIfSaml2 token := by
  simp only [Returns, createToken_eq_ok_iff]
  constructor
  · intro h
    obtain ⟨token, ⟨c⟩⟩ := h
    refine ⟨(hreturns.createIssuerNameIdentifier _).mp ⟨_, c.issuer_eq⟩,
      (returns_createSamlSubject_iff hnames).mp ⟨_, c.subject_eq⟩, ?_⟩
    rw [← nameId_ne_none_iff hnames c.subject_eq]
    exact returns_nameOnBehalfOf_iff.mp ⟨_, c.renamed_eq⟩
  · intro h
    obtain ⟨hissuer, hids, hobo⟩ := h
    obtain ⟨appliesTo, happ⟩ := Option.ne_none_iff_exists'.mp happ
    obtain ⟨subject, hsubject⟩ := (returns_createSamlSubject_iff hnames).mpr hids
    have hrename : Returns (nameOnBehalfOf constants rst.onBehalfOf subject
        (firstConfirmation constants rst subject)) := by
      rw [returns_nameOnBehalfOf_iff, nameId_ne_none_iff hnames hsubject]
      exact hobo
    obtain ⟨⟨renamed, subjectConfirmation⟩, hrenamed⟩ := hrename
    obtain ⟨issuer, hissuer⟩ := (hreturns.createIssuerNameIdentifier tokenDescriptor).mpr hissuer
    obtain ⟨conditions, hconditions⟩ := hconditions
    obtain ⟨advice, hadvice⟩ := hreturns.createAdvice tokenDescriptor
    obtain ⟨statements, hstatements⟩ := hreturns.createStatements tokenDescriptor
    exact ⟨_, ⟨⟨subject, renamed, subjectConfirmation, appliesTo, issuer, _, conditions, advice,
      statements, hsubject, hrenamed, happ, hissuer, hreturns.getSigningCredentials _,
      hconditions, hadvice, hstatements, rfl⟩⟩⟩

end Returns

end KombitSamples.Sts
