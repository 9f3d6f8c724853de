import KombitSamples.Sts.Issue
import KombitSamples.Sts.OutputClaims

/-!
# KombitSamples.Sts.OnBehalfOf

Requests on behalf of someone else: whether the token they carry is
authentic, and whose name and attributes the issued assertion carries.

The token is read twice and never validated, and one that is neither a
SAML 2.0 nor an X.509 token passes both readings.

* `authenticatesOnBehalfOf_iff` — the token is authentic only where it would
  have been accepted anyway;
* `subjectOnBehalfOf_iff` — the subject is the on-behalf-of user only for the
  two known kinds, and for a user other than the requestor.
-/

namespace KombitSamples.Sts

open Fallible Saml2SecurityTokenHandler

/-! ## Authenticity -/

/-- A token is issued only if the handlers registered for on-behalf-of
tokens accept the one the request carries. -/
def AuthenticatesOnBehalfOf (constants : Constants) (im : IdentityModel) (clock : IssueClock)
    (validatedAt : DateTime) (principal : ClaimsPrincipal) (request : RequestSecurityToken) : Prop :=
  Returns (issue constants im clock principal request) →
    ∀ element, request.onBehalfOf = some element → Returns
      (element.getIdentities (wsTrustServiceConfiguration constants im).onBehalfOf validatedAt)

theorem returns_getIdentities_iff {constants : Constants} {im : IdentityModel} {now : DateTime}
    {element : SecurityTokenElement} :
    Returns (element.getIdentities (wsTrustServiceConfiguration constants im).onBehalfOf now) ↔
      ∃ token, element.getSecurityToken = .ok token ∧ AcceptedOnBehalfOf im now token := by
  simp only [SecurityTokenElement.getIdentities, returns_bind,
    ← returns_validateToken_onBehalfOf_iff]
  rfl

/-- **On-behalf-of authenticity** holds exactly where the token passes the
checks of the registered handlers by itself, and where nothing is issued for
another reason: no step of issuing runs these checks. -/
theorem authenticatesOnBehalfOf_iff {constants : Constants} {im : IdentityModel}
    (hnames : im.saml2.NamesSubject) (hreturns : im.saml2.ReturnsOnIssuerName im.newUri)
    (hlifetime : im.service.ComputesLifetime) {clock : IssueClock} {validatedAt : DateTime}
    {principal : ClaimsPrincipal} {request : RequestSecurityToken}
    (haddress : AddressIsUri im request) :
    AuthenticatesOnBehalfOf constants im clock validatedAt principal request ↔
      (∀ element, request.onBehalfOf = some element →
        ∃ token, element.getSecurityToken = .ok token ∧ AcceptedOnBehalfOf im validatedAt token) ∨
      ¬ Issuable constants im clock principal request := by
  rw [AuthenticatesOnBehalfOf, returns_issue_iff hnames hreturns hlifetime haddress]
  simp only [returns_getIdentities_iff]
  exact imp_iff_or_not

/-! ### Two requests of the client -/

theorem addressIsUri_requestOnBehalfOf (token : SecurityToken) :
    AddressIsUri Documented.identityModel (requestOnBehalfOf token) := by
  intro appliesTo h
  cases h
  exact ⟨by decide, by decide⟩

/-- An assertion about the on-behalf-of user that nobody signed. -/
def unsignedToken : Saml2SecurityToken where
  assertion := {
    issuer := ⟨"https://issuer.example/", none, by decide⟩
    subject := some {
      nameId := some ⟨otherSubjectNameId, none, by decide⟩
      subjectConfirmations := [{ method := ConfirmationMethods.bearer }] } }

/-- The certificate of the on-behalf-of user is accepted. -/
theorem authenticatesOnBehalfOf_certificate :
    AuthenticatesOnBehalfOf sampleConstants Documented.identityModel ⟨0, 0, 0⟩ 0 sampleClient
      (requestOnBehalfOf (.x509 sampleConstants.aValidOnBehalfOfCertificate)) := by
  refine (authenticatesOnBehalfOf_iff Documented.namesSubject Documented.returnsOnIssuerName
    Documented.computesLifetime (addressIsUri_requestOnBehalfOf _)).mpr (Or.inl ?_)
  intro element h
  cases h
  exact ⟨_, rfl, _, rfl⟩

/-- The unsigned assertion is not, and the request is issued a token. -/
theorem not_authenticatesOnBehalfOf_unsigned :
    ¬ AuthenticatesOnBehalfOf sampleConstants Documented.identityModel ⟨0, 0, 0⟩ 0 sampleClient
      (requestOnBehalfOf (.saml2 unsignedToken)) := by
  intro h
  have hissue : Returns (issue sampleConstants Documented.identityModel ⟨0, 0, 0⟩ sampleClient
      (requestOnBehalfOf (.saml2 unsignedToken))) := by
    decide
  obtain ⟨token, ⟨⟩, haccepted⟩ := returns_getIdentities_iff.mp (h hissue _ rfl)
  exact not_acceptedOnBehalfOf_unsigned _ _ _ haccepted

/-! ## The subject and its attributes -/

/-- The name of the requestor. -/
def requestorName (principal : ClaimsPrincipal) : Option String :=
  (firstClaim ClaimTypes.nameIdentifier principal.claims).map (·.value)

/-- The issued assertion is about the on-behalf-of user, names the requestor
as the one who confirms it, and never gives the requestor's own name the
attributes of the on-behalf-of user. -/
structure SubjectOnBehalfOf (constants : Constants) (principal : ClaimsPrincipal)
    (onBehalfOf : SecurityToken) (token : Saml2SecurityToken) : Prop where
  nameId_eq : ∃ name, onBehalfOfName constants onBehalfOf = some name ∧ token.nameId = some name
  requestor_eq : ∃ confirmation name, token.firstConfirmation = some confirmation ∧
    confirmation.nameIdentifier = some name ∧ some name.value = requestorName principal
  not_mixed : ¬ (token.nameId.map (·.value) = requestorName principal ∧
    "4" ∈ attributeValues assuranceLevel token.assertion.statements)

section Subject

variable {constants : Constants} {im : IdentityModel} {clock : IssueClock}
  {principal : ClaimsPrincipal} {request : RequestSecurityToken} {token : Saml2SecurityToken}
  {element : SecurityTokenElement} {onBehalfOf : SecurityToken}

/-- Whatever its kind, the token leads to a subject: its own name, or else
the requestor's. -/
theorem names_of_issue (hnames : im.saml2.NamesSubject) (hobo : request.onBehalfOf = some element)
    (hget : element.getSecurityToken = .ok onBehalfOf)
    (h : issue constants im clock principal request = .ok token) :
    ∃ sender confirmation, some sender.value = requestorName principal ∧
      token.nameId = some ((onBehalfOfName constants onBehalfOf).getD sender) ∧
      token.firstConfirmation = some confirmation ∧
      confirmation.nameIdentifier = some { sender with format := some entityFormat } := by
  obtain ⟨i⟩ := issue_eq_ok_iff.mp h
  obtain ⟨sender, confirmation, hsender, hnameId, hfirst, hconfirmation⟩ :=
    names_of_createToken_onBehalfOf hnames
      ((onBehalfOf_withSecondaryParameters request).trans hobo) hget
      (createToken_eq_ok_iff.mpr ⟨i.createdFrom⟩)
  rw [nameIdentifiers_descriptorOf, ← firstClaim_eq_head?] at hsender
  exact ⟨sender, confirmation, hsender, hnameId, hfirst, hconfirmation⟩

/-- The on-behalf-of user's assurance level is stated whatever the token. -/
theorem assuranceLevel_of_issue (hstates : im.saml2.StatesAttributes)
    (hobo : request.onBehalfOf = some element)
    (h : issue constants im clock principal request = .ok token) :
    attributeValues assuranceLevel token.assertion.statements = ["4"] := by
  obtain ⟨i⟩ := issue_eq_ok_iff.mp h
  rw [i.attributeValues_eq hstates (by decide), hobo]
  rfl

/-- The subject is the on-behalf-of user exactly for the kinds of tokens
that are known to give a name. -/
theorem nameId_of_issue_iff (hnames : im.saml2.NamesSubject)
    (hobo : request.onBehalfOf = some element) (hget : element.getSecurityToken = .ok onBehalfOf)
    (h : issue constants im clock principal request = .ok token) :
    (∃ name, onBehalfOfName constants onBehalfOf = some name ∧ token.nameId = some name) ↔
      onBehalfOfName constants onBehalfOf ≠ none := by
  obtain ⟨sender, -, -, hnameId, -⟩ := names_of_issue hnames hobo hget h
  rw [hnameId]
  cases hname : onBehalfOfName constants onBehalfOf with
  | none => simp
  | some name => simp

/-- **The on-behalf-of subject.** An issued assertion is about the
on-behalf-of user exactly when the token gives that user a name, which only
SAML 2.0 and X.509 tokens do, and the name is not the requestor's own. -/
theorem subjectOnBehalfOf_iff (hnames : im.saml2.NamesSubject)
    (hstates : im.saml2.StatesAttributes) (hobo : request.onBehalfOf = some element)
    (hget : element.getSecurityToken = .ok onBehalfOf)
    (h : issue constants im clock principal request = .ok token) :
    SubjectOnBehalfOf constants principal onBehalfOf token ↔
      ∃ name, onBehalfOfName constants onBehalfOf = some name ∧
        some name.value ≠ requestorName principal := by
  obtain ⟨sender, confirmation, hsender, hnameId, hfirst, hconfirmation⟩ :=
    names_of_issue hnames hobo hget h
  have hlevel : "4" ∈ attributeValues assuranceLevel token.assertion.statements := by
    rw [assuranceLevel_of_issue hstates hobo h]
    decide
  constructor
  · intro h'
    obtain ⟨⟨name, hname, htoken⟩, -, hmixed⟩ := h'
    refine ⟨name, hname, fun heq => hmixed ⟨?_, hlevel⟩⟩
    rw [htoken]
    exact heq
  · intro h'
    obtain ⟨name, hname, hne⟩ := h'
    rw [hname, Option.getD_some] at hnameId
    refine ⟨⟨name, hname, hnameId⟩, ⟨confirmation, _, hfirst, hconfirmation, hsender⟩, ?_⟩
    intro h'
    obtain ⟨heq, -⟩ := h'
    rw [hnameId] at heq
    exact hne heq

end Subject

/-- A request of the client on behalf of the owner of the other certificate
is answered about that owner. -/
theorem subjectOnBehalfOf_certificate :
    let request := requestOnBehalfOf (.x509 sampleConstants.aValidOnBehalfOfCertificate)
    ∃ token, issue sampleConstants Documented.identityModel ⟨0, 0, 0⟩ sampleClient request =
        .ok token ∧
      SubjectOnBehalfOf sampleConstants sampleClient
        (.x509 sampleConstants.aValidOnBehalfOfCertificate) token := by
  intro request
  obtain ⟨token, h⟩ : Returns (issue sampleConstants Documented.identityModel ⟨0, 0, 0⟩
      sampleClient request) := by decide
  exact ⟨token, h, (subjectOnBehalfOf_iff Documented.namesSubject Documented.statesAttributes rfl
    rfl h).mpr ⟨_, rfl, by decide⟩⟩

/-- One on behalf of the owner of a user name token is answered about the
client itself. -/
theorem not_subjectOnBehalfOf_userName :
    let request := requestOnBehalfOf (.other "UserNameSecurityToken")
    ∃ token, issue sampleConstants Documented.identityModel ⟨0, 0, 0⟩ sampleClient request =
        .ok token ∧
      ¬ SubjectOnBehalfOf sampleConstants sampleClient (.other "UserNameSecurityToken") token := by
  intro request
  obtain ⟨token, h⟩ : Returns (issue sampleConstants Documented.identityModel ⟨0, 0, 0⟩
      sampleClient request) := by decide
  refine ⟨token, h, ?_⟩
  intro h'
  obtain ⟨⟨name, hname, -⟩, -, -⟩ := h'
  cases hname

end KombitSamples.Sts
