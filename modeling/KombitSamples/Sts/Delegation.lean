import KombitSamples.Sts.OnBehalfOf
import KombitSamples.TokenXml

/-!
# KombitSamples.Sts.Delegation

Tokens that are issued on behalf of the owners of tokens, which may have been
issued on behalf of others themselves.

* `Chain.attests` — what a token says that such a chain leads to;
* `Chain.forgets_between` — a request on behalf of the owner of such a token is
  answered by the first token of the chain alone;
* `returns_issue_onBehalfOf_iff` — which requests continue a chain;
* `exists_chain` — a chain goes on for as long as the requestor is issued tokens
  of its own, whatever it started with.
-/

namespace KombitSamples.Sts

open Fallible Saml2SecurityTokenHandler

/-! ## Chains -/

/-- The element reads as a SAML 2.0 token with the assertion of another one, as that is
read. -/
def Carries (element : SecurityTokenElement) (token : Saml2SecurityToken) : Prop :=
  ∃ onBehalfOf, element.getSecurityToken = .ok (.saml2 onBehalfOf) ∧
    onBehalfOf.assertion = token.assertion.onWire

/-- The token `token'` was issued to `principal` on behalf of the owner of the
assertion of `token`. -/
def DelegatedTo (constants : Constants) (im : IdentityModel) (principal : ClaimsPrincipal)
    (token token' : Saml2SecurityToken) : Prop :=
  ∃ clock request element, request.onBehalfOf = some element ∧ Carries element token ∧
    issue constants im clock principal request = .ok token'

/-- The tokens that the requestors of a list, the last one first, were issued one
after the other lead from `root` to a token. -/
inductive Chain (constants : Constants) (im : IdentityModel) (root : Saml2SecurityToken) :
    List ClaimsPrincipal → Saml2SecurityToken → Prop where
  | root : Chain constants im root [] root
  | delegate {principals : List ClaimsPrincipal} {principal : ClaimsPrincipal}
      {token token' : Saml2SecurityToken} (h : Chain constants im root principals token)
      (hdelegated : DelegatedTo constants im principal token token') :
      Chain constants im root (principal :: principals) token'

/-- What a token says that ends a chain: its subject is the owner of the first
token, with the attributes of any on-behalf-of user, and the last requestor
confirms it. -/
structure Attests (principal : ClaimsPrincipal) (root token : Saml2SecurityToken) : Prop where
  named : root.nameId ≠ none
  nameId_eq : token.nameId = root.nameId
  attributeValues_eq : ∀ type ∈ userClaimTypes,
    attributeValues type token.assertion.statements =
      (claimsOfType type onBehalfOfClaims).map (·.value)
  confirmed_by : ∃ confirmation name, token.firstConfirmation = some confirmation ∧
    confirmation.nameIdentifier = some name ∧ name.format = some entityFormat ∧
    some name.value = requestorName principal

section Chains

variable {constants : Constants} {im : IdentityModel} {principal : ClaimsPrincipal}
  {root token token' : Saml2SecurityToken}

/-- No token is issued on behalf of one that names nobody. -/
theorem namedIfSaml2_of_issue {clock : IssueClock} {request : RequestSecurityToken}
    {element : SecurityTokenElement} {onBehalfOf : SecurityToken}
    (hobo : request.onBehalfOf = some element) (hget : element.getSecurityToken = .ok onBehalfOf)
    (h : issue constants im clock principal request = .ok token) : NamedIfSaml2 onBehalfOf := by
  obtain ⟨i⟩ := issue_eq_ok_iff.mp h
  have hrenamed := returns_nameOnBehalfOf_iff.mp ⟨_, i.createdFrom.renamed_eq⟩
  rw [onBehalfOf_withSecondaryParameters] at hrenamed
  obtain ⟨-, onBehalfOf', hget', hnames⟩ := hrenamed element hobo
  rw [Except.ok.inj (hget.symm.trans hget')]
  exact hnames

theorem namedIfSaml2_saml2_iff : NamedIfSaml2 (.saml2 token) ↔ token.nameId ≠ none := by
  unfold NamedIfSaml2 Saml2SecurityToken.nameId
  cases hsubject : token.assertion.subject with
  | none => simp [hsubject]
  | some subject => simp [hsubject]

/-- One link of a chain. -/
theorem DelegatedTo.attests (hnames : im.saml2.NamesSubject) (hstates : im.saml2.StatesAttributes)
    (h : DelegatedTo constants im principal token token') : Attests principal token token' := by
  obtain ⟨clock, request, element, hobo, ⟨onBehalfOf, hget, hassertion⟩, hissue⟩ := h
  have hname : onBehalfOf.nameId = token.nameId := Saml2SecurityToken.nameId_of_onWire hassertion
  have hnamed : token.nameId ≠ none := by
    rw [← hname]
    exact namedIfSaml2_saml2_iff.mp (namedIfSaml2_of_issue hobo hget hissue)
  obtain ⟨sender, confirmation, hsender, hnameId, hfirst, hconfirmation⟩ :=
    names_of_issue hnames hobo hget hissue
  obtain ⟨i⟩ := issue_eq_ok_iff.mp hissue
  have hvalues (type : String) (htype : type ∈ userClaimTypes) :=
    i.attributeValues_eq hstates htype
  rw [hobo] at hvalues
  refine ⟨hnamed, ?_, hvalues, confirmation, _, hfirst, hconfirmation, rfl, hsender⟩
  obtain ⟨name, hsome⟩ := Option.ne_none_iff_exists'.mp hnamed
  rw [hnameId, onBehalfOfName, hname, hsome, Option.getD_some]

/-- The subject is handed down a chain. -/
theorem Chain.nameId_eq (hnames : im.saml2.NamesSubject) (hstates : im.saml2.StatesAttributes)
    {principals : List ClaimsPrincipal} (h : Chain constants im root principals token) :
    token.nameId = root.nameId := by
  induction h with
  | root => rfl
  | delegate h hdelegated ih => rw [(hdelegated.attests hnames hstates).nameId_eq, ih]

/-- What a chain of at least one link leads to. -/
theorem Chain.attests (hnames : im.saml2.NamesSubject) (hstates : im.saml2.StatesAttributes)
    {principals : List ClaimsPrincipal}
    (h : Chain constants im root (principal :: principals) token) :
    Attests principal root token := by
  cases h with
  | delegate hchain hdelegated =>
      have hlink := hdelegated.attests hnames hstates
      have hkept := hchain.nameId_eq hnames hstates
      refine ⟨?_, ?_, hlink.attributeValues_eq, hlink.confirmed_by⟩
      · rw [← hkept]
        exact hlink.named
      · rw [hlink.nameId_eq, hkept]

end Chains

/-! ## What of a chain counts -/

/-- The proof token does not depend on the on-behalf-of element. -/
def ProofIgnoresOnBehalfOf (service : SecurityTokenService) : Prop :=
  ∀ request onBehalfOf, service.getProofToken { request with onBehalfOf := onBehalfOf } =
    service.getProofToken request

theorem withSecondaryParameters_onBehalfOf (request : RequestSecurityToken)
    (onBehalfOf : Option SecurityTokenElement) :
    withSecondaryParameters { request with onBehalfOf := onBehalfOf } =
      { withSecondaryParameters request with onBehalfOf := onBehalfOf } := by
  obtain ⟨-, -, -, -, -, -, secondaryParameters⟩ := request
  cases secondaryParameters <;> rfl

section Between

variable {constants : Constants} {im : IdentityModel} {clock : IssueClock}
  {principal : ClaimsPrincipal} {request : RequestSecurityToken}
  {element element' : SecurityTokenElement} {root token token' : Saml2SecurityToken}

/-- Of an element that reads as a SAML 2.0 token, renaming uses the name. -/
theorem nameOnBehalfOf_of_carries (hcarries : Carries element token) (subject : Saml2Subject)
    (subjectConfirmation : Saml2SubjectConfirmation) :
    nameOnBehalfOf constants (some element) subject subjectConfirmation =
      (deref .nullReference subject.nameId).bind fun sender =>
        (deref .nullReference token.nameId).bind fun name =>
          .ok ({ subject with nameId := some name },
            { subjectConfirmation with
              nameIdentifier := some { sender with format := some entityFormat } }) := by
  obtain ⟨onBehalfOf, hget, hassertion⟩ := hcarries
  have hname (sender : Saml2NameIdentifier) :
      subjectNameOf constants sender (.saml2 onBehalfOf) = deref .nullReference token.nameId := by
    rw [subjectNameOf, hassertion, Saml2Assertion.subject_onWire, Saml2SecurityToken.nameId]
    cases token.assertion.subject <;> rfl
  simp only [nameOnBehalfOf, hget, ok_bind, hname]
  rfl

/-- Two elements with one name lead to the same token. -/
theorem createToken_of_carries (hcarries : Carries element token)
    (hcarries' : Carries element' token') (hname : token.nameId = token'.nameId) (now : DateTime)
    (tokenDescriptor : SecurityTokenDescriptor) :
    createToken constants im now { request with onBehalfOf := some element } tokenDescriptor =
      createToken constants im now { request with onBehalfOf := some element' }
        tokenDescriptor := by
  simp only [createToken, firstConfirmation, confirmationMethod,
    nameOnBehalfOf_of_carries hcarries, nameOnBehalfOf_of_carries hcarries', hname]

theorem getOutputClaimsIdentity_of_carries (hcarries : Carries element token)
    (hcarries' : Carries element' token') (utcNow : DateTime) :
    getOutputClaimsIdentity constants im utcNow principal
        { request with onBehalfOf := some element } =
      getOutputClaimsIdentity constants im utcNow principal
        { request with onBehalfOf := some element' } := by
  obtain ⟨onBehalfOf, hget, -⟩ := hcarries
  obtain ⟨onBehalfOf', hget', -⟩ := hcarries'
  simp only [getOutputClaimsIdentity, addUserClaims, readOnBehalfOf, hget, hget']

theorem getScope_onBehalfOf (onBehalfOf : Option SecurityTokenElement) :
    getScope constants { request with onBehalfOf := onBehalfOf } =
      (getScope constants request).map fun result =>
        (result.1, { result.2 with onBehalfOf := onBehalfOf }) := by
  simp only [getScope, withSecondaryParameters_onBehalfOf]
  cases checkIfErrorShouldBeThrown request.appliesTo with
  | error ex => rfl
  | ok => cases request.appliesTo <;> rfl

/-- A request is answered the same, with a token or an error, on behalf of the
owners of two tokens with one name. -/
theorem issue_of_carries (hproof : ProofIgnoresOnBehalfOf im.service)
    (hcarries : Carries element token) (hcarries' : Carries element' token')
    (hname : token.nameId = token'.nameId) :
    issue constants im clock principal { request with onBehalfOf := some element } =
      issue constants im clock principal { request with onBehalfOf := some element' } := by
  simp only [issue, getScope_onBehalfOf]
  cases getScope constants request with
  | error ex => rfl
  | ok result =>
      obtain ⟨scope, clientRequest⟩ := result
      have hsame := (hproof clientRequest (some element)).trans
        (hproof clientRequest (some element')).symm
      simp only [Except.map, ok_bind, hsame,
        getOutputClaimsIdentity_of_carries hcarries hcarries',
        createToken_of_carries hcarries hcarries' hname]

/-- **Nobody in between is recorded.** After two chains from the same token, of
any lengths and through any requestors, a request on behalf of the owner of the
token that the one ends in is answered as it is on behalf of the owner of the
other's: with the same error, or with the same token, which names the owner of
the first one, with the attributes of any on-behalf-of user, and is confirmed by
the requestor. -/
theorem Chain.forgets_between (hnames : im.saml2.NamesSubject)
    (hstates : im.saml2.StatesAttributes) (hproof : ProofIgnoresOnBehalfOf im.service)
    {principals principals' : List ClaimsPrincipal} (h : Chain constants im root principals token)
    (h' : Chain constants im root principals' token') (hcarries : Carries element token)
    (hcarries' : Carries element' token') :
    issue constants im clock principal { request with onBehalfOf := some element } =
        issue constants im clock principal { request with onBehalfOf := some element' } ∧
      ∀ issued, issue constants im clock principal { request with onBehalfOf := some element } =
        .ok issued → Attests principal root issued := by
  have hname : token.nameId = token'.nameId := by
    rw [h.nameId_eq hnames hstates, h'.nameId_eq hnames hstates]
  refine ⟨issue_of_carries hproof hcarries hcarries' hname, ?_⟩
  intro issued hissue
  exact (h.delegate ⟨clock, _, element, rfl, hcarries, hissue⟩).attests hnames hstates

end Between

/-! ## Continuing a chain -/

section Continuing

variable {constants : Constants} {im : IdentityModel} {clock : IssueClock}
  {principal : ClaimsPrincipal} {request : RequestSecurityToken}

/-- The request of the requestor for itself. -/
def forItself (request : RequestSecurityToken) : RequestSecurityToken :=
  { request with onBehalfOf := none }

/-- A request on behalf of someone is issuable exactly when it would be without,
the requestor has a name and the element one that can be read. -/
theorem issuable_onBehalfOf_iff (hproof : ProofIgnoresOnBehalfOf im.service)
    {element : SecurityTokenElement} (hobo : request.onBehalfOf = some element) :
    Issuable constants im clock principal request ↔
      Issuable constants im clock principal (forItself request) ∧
        claimsOfType ClaimTypes.nameIdentifier principal.claims ≠ [] ∧
        ∃ token, element.getSecurityToken = .ok token ∧ NamedIfSaml2 token := by
  have hsame : im.service.getProofToken (withSecondaryParameters (forItself request)) =
      im.service.getProofToken (withSecondaryParameters request) := by
    rw [forItself, withSecondaryParameters_onBehalfOf, hproof]
  constructor
  · intro h
    have hnone : ∀ element, (forItself request).onBehalfOf = some element →
        claimsOfType ClaimTypes.nameIdentifier principal.claims ≠ [] ∧
          ∃ token, element.getSecurityToken = .ok token ∧ NamedIfSaml2 token := by
      simp [forItself]
    have hproof' := h.proof
    rw [← hsame] at hproof'
    exact ⟨⟨h.appliesTo, h.lifetime, hproof', h.requestor, h.claims, h.bppValue, h.issuerName,
      h.nameIdentifier, hnone⟩, h.onBehalfOf element hobo⟩
  · intro h
    obtain ⟨h, hreadable⟩ := h
    have hproof' := h.proof
    rw [hsame] at hproof'
    refine ⟨h.appliesTo, h.lifetime, hproof', h.requestor, h.claims, h.bppValue, h.issuerName,
      h.nameIdentifier, ?_⟩
    intro element' hobo'
    rw [← Option.some.inj (hobo.symm.trans hobo')]
    exact hreadable

/-- **Which requests continue a chain.** A requestor with a name is issued a
token on behalf of someone exactly when it is issued one for itself and the
element reads as a token that is not a SAML 2.0 token without a name.  Who
signed that token, for whom and until when makes no difference. -/
theorem returns_issue_onBehalfOf_iff (hnames : im.saml2.NamesSubject)
    (hreturns : im.saml2.ReturnsOnIssuerName im.newUri) (hlifetime : im.service.ComputesLifetime)
    (hproof : ProofIgnoresOnBehalfOf im.service) (haddress : AddressIsUri im request)
    {element : SecurityTokenElement} (hobo : request.onBehalfOf = some element) :
    Returns (issue constants im clock principal request) ↔
      Returns (issue constants im clock principal (forItself request)) ∧
        claimsOfType ClaimTypes.nameIdentifier principal.claims ≠ [] ∧
        ∃ token, element.getSecurityToken = .ok token ∧ NamedIfSaml2 token := by
  have haddress' : AddressIsUri im (forItself request) := haddress
  rw [returns_issue_iff hnames hreturns hlifetime haddress,
    returns_issue_iff hnames hreturns hlifetime haddress', issuable_onBehalfOf_iff hproof hobo]

/-- The conditions that a request leads to at an instant. -/
def freshConditions (constants : Constants) (im : IdentityModel) (clock : IssueClock)
    (lifetime : Option Lifetime) (appliesTo : EndpointReference) : Saml2Conditions where
  notBefore := some (SecurityTokenService.createdOf clock.tokenLifetime lifetime)
  notOnOrAfter := some (SecurityTokenService.expiresOf (wsTrustServiceConfiguration constants im)
    clock.tokenLifetime lifetime)
  audienceRestrictions := [[appliesTo.uri]]

/-- An issued token is valid for the lifetime of its own request. -/
theorem conditions_of_issue (hcopies : im.saml2.CopiesConditions im.newUri)
    (hlifetime : im.service.ComputesLifetime) (haddress : AddressIsUri im request)
    {appliesTo : EndpointReference} (happ : request.appliesTo = some appliesTo)
    {token : Saml2SecurityToken} (h : issue constants im clock principal request = .ok token) :
    token.assertion.conditions =
      some (freshConditions constants im clock request.lifetime appliesTo) := by
  obtain ⟨i⟩ := issue_eq_ok_iff.mp h
  obtain rfl : i.appliesTo = appliesTo := Option.some.inj (i.appliesTo_eq.symm.trans happ)
  rw [i.conditions_eq hcopies (haddress _ happ), hlifetime.eq_of_ok _ _ _ _ i.lifetime_eq]
  rfl

/-- One more link, at an instant at which the requestor is issued a token for
itself. -/
theorem exists_delegatedTo (hnames : im.saml2.NamesSubject)
    (hreturns : im.saml2.ReturnsOnIssuerName im.newUri) (hlifetime : im.service.ComputesLifetime)
    (hcopies : im.saml2.CopiesConditions im.newUri) (hproof : ProofIgnoresOnBehalfOf im.service)
    (haddress : AddressIsUri im request) {appliesTo : EndpointReference}
    (happ : request.appliesTo = some appliesTo)
    (hitself : Issuable constants im clock principal (forItself request))
    (hname : claimsOfType ClaimTypes.nameIdentifier principal.claims ≠ [])
    {token : Saml2SecurityToken} (hnamed : token.nameId ≠ none) :
    ∃ token', DelegatedTo constants im principal token token' ∧
      token'.assertion.conditions =
        some (freshConditions constants im clock request.lifetime appliesTo) := by
  let onBehalfOf : Saml2SecurityToken := ⟨token.assertion.onWire, none⟩
  have hread : onBehalfOf.nameId ≠ none := by
    have hsame : onBehalfOf.nameId = token.nameId := Saml2SecurityToken.nameId_of_onWire rfl
    rwa [hsame]
  have haddress' : AddressIsUri im { request with onBehalfOf := some ⟨.ok (.saml2 onBehalfOf)⟩ } :=
    haddress
  have hissuable : Issuable constants im clock principal
      { request with onBehalfOf := some ⟨.ok (.saml2 onBehalfOf)⟩ } :=
    (issuable_onBehalfOf_iff hproof rfl).mpr
      ⟨hitself, hname, .saml2 onBehalfOf, rfl, namedIfSaml2_saml2_iff.mpr hread⟩
  obtain ⟨token', hissue⟩ :=
    (returns_issue_iff hnames hreturns hlifetime haddress').mpr hissuable
  exact ⟨token', ⟨clock, _, _, rfl, ⟨onBehalfOf, rfl, rfl⟩, hissue⟩,
    conditions_of_issue hcopies hlifetime haddress' happ hissue⟩

/-- **A chain goes on.** From any token that names its owner, expired or not
and signed by whomever, a requestor with a name can have itself issued tokens on
behalf of that owner, one on behalf of the other, at all instants at which it is
issued a token for itself; the last one is valid as if it was the first. -/
theorem exists_chain (hnames : im.saml2.NamesSubject) (hstates : im.saml2.StatesAttributes)
    (hreturns : im.saml2.ReturnsOnIssuerName im.newUri) (hlifetime : im.service.ComputesLifetime)
    (hcopies : im.saml2.CopiesConditions im.newUri) (hproof : ProofIgnoresOnBehalfOf im.service)
    (haddress : AddressIsUri im request) {appliesTo : EndpointReference}
    (happ : request.appliesTo = some appliesTo)
    (hname : claimsOfType ClaimTypes.nameIdentifier principal.claims ≠ [])
    {root : Saml2SecurityToken} (hnamed : root.nameId ≠ none) (clocks : List IssueClock)
    (hitself : ∀ clock ∈ clocks,
      Returns (issue constants im clock principal (forItself request))) :
    ∃ token, Chain constants im root (clocks.map fun _ => principal) token ∧
      token.nameId = root.nameId ∧
      ∀ last, clocks.head? = some last → token.assertion.conditions =
        some (freshConditions constants im last request.lifetime appliesTo) := by
  induction clocks with
  | nil => exact ⟨root, .root, rfl, by simp⟩
  | cons clock clocks ih =>
      obtain ⟨token, hchain, hkept, -⟩ :=
        ih fun clock' hmem => hitself clock' (List.mem_cons_of_mem clock hmem)
      have hnamed' : token.nameId ≠ none := by
        rw [hkept]
        exact hnamed
      have haddress' : AddressIsUri im (forItself request) := haddress
      have hissuable := (returns_issue_iff hnames hreturns hlifetime haddress').mp
        (hitself clock List.mem_cons_self)
      obtain ⟨token', hdelegated, hconditions⟩ := exists_delegatedTo hnames hreturns hlifetime
        hcopies hproof haddress happ hissuable hname hnamed'
      have hchain' := Chain.delegate hchain hdelegated
      refine ⟨token', hchain', hchain'.nameId_eq hnames hstates, ?_⟩
      intro last hlast
      rw [List.head?_cons, Option.some.injEq] at hlast
      rw [← hlast]
      exact hconditions

end Continuing

/-! ### Chains from an assertion that nobody signed -/

theorem proofIgnoresOnBehalfOf_documented :
    ProofIgnoresOnBehalfOf Documented.identityModel.service := fun _ _ => rfl

/-- What the client is issued on behalf of the owner of the unsigned assertion. -/
theorem delegatedTo_unsignedToken :
    ∃ token, DelegatedTo sampleConstants Documented.identityModel sampleClient unsignedToken
      token := by
  obtain ⟨token, h⟩ : Returns (issue sampleConstants Documented.identityModel ⟨0, 0, 0⟩ sampleClient
      (requestOnBehalfOf (.saml2 unsignedToken))) := by decide
  exact ⟨token, _, _, _, rfl, ⟨unsignedToken, rfl, rfl⟩, h⟩

/-- On behalf of the owner of a token that was renewed, the client is issued what it
is issued on behalf of the owner of the assertion that nobody signed. -/
theorem forgets_between_unsigned :
    ∃ token, Chain sampleConstants Documented.identityModel unsignedToken [sampleClient] token ∧
      issue sampleConstants Documented.identityModel ⟨0, 0, 0⟩ sampleClient
          (requestOnBehalfOf (.saml2 ⟨token.assertion.onWire, none⟩)) =
        issue sampleConstants Documented.identityModel ⟨0, 0, 0⟩ sampleClient
          (requestOnBehalfOf (.saml2 unsignedToken)) := by
  obtain ⟨token, hdelegated⟩ := delegatedTo_unsignedToken
  have hchain := Chain.delegate Chain.root hdelegated
  exact ⟨token, hchain, (Chain.forgets_between Documented.namesSubject Documented.statesAttributes
    proofIgnoresOnBehalfOf_documented hchain Chain.root ⟨_, rfl, rfl⟩
    ⟨unsignedToken, rfl, rfl⟩).1⟩

/-- The client is issued a token on behalf of that owner, as it is for itself. -/
theorem returns_issue_onBehalfOf_unsigned :
    Returns (issue sampleConstants Documented.identityModel ⟨0, 0, 0⟩ sampleClient
      (requestOnBehalfOf (.saml2 unsignedToken))) :=
  (returns_issue_onBehalfOf_iff Documented.namesSubject Documented.returnsOnIssuerName
    Documented.computesLifetime proofIgnoresOnBehalfOf_documented
    (addressIsUri_requestOnBehalfOf _) rfl).mpr
    ⟨by decide, by decide, .saml2 unsignedToken, rfl, namedIfSaml2_saml2_iff.mpr (by decide)⟩

/-- It can have that token renewed an hour later. -/
theorem exists_chain_unsigned :
    ∃ token, Chain sampleConstants Documented.identityModel unsignedToken
        [sampleClient, sampleClient] token ∧ token.nameId = unsignedToken.nameId := by
  have hnamed : unsignedToken.nameId ≠ none := by decide
  have hitself : ∀ clock ∈ [IssueClock.mk (TimeSpan.fromMinutes 60) 0 0, ⟨0, 0, 0⟩],
      Returns (issue sampleConstants Documented.identityModel clock sampleClient
        (forItself sampleRequest)) := by
    intro clock hmem
    simp only [List.mem_cons, List.not_mem_nil, or_false] at hmem
    rcases hmem with rfl | rfl <;> decide
  have haddress : AddressIsUri Documented.identityModel sampleRequest :=
    addressIsUri_requestOnBehalfOf (.saml2 unsignedToken)
  obtain ⟨token, hchain, hname, -⟩ := exists_chain Documented.namesSubject
    Documented.statesAttributes Documented.returnsOnIssuerName Documented.computesLifetime
    Documented.copiesConditions proofIgnoresOnBehalfOf_documented haddress rfl (by decide) hnamed
    [IssueClock.mk (TimeSpan.fromMinutes 60) 0 0, ⟨0, 0, 0⟩] hitself
  exact ⟨token, hchain, hname⟩

end KombitSamples.Sts
