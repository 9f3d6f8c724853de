import KombitSamples.TokenXml
import KombitSamples.Consumer.Consumer

/-!
# KombitSamples.Consumer.TokenTransport

What arrives of an issued token.  The channel hands it out as the XML that it
received.

The channel is not part of the repository.  It is a parameter of the model,
`TokenTransport`, and what the tests rely on in it is stated once, as the laws
`ReadsWhatIsSent`.  The consumer's check does not look at what the XML leaves out
(`validateIssuedToken_onWire`).
-/

namespace KombitSamples.Consumer

open Fallible

/-! ## The channel -/

/-- `Issue`, which makes a token of the response at an instant, and the constructor of
`SecurityTokenElement` for such a token. -/
structure TokenTransport where
  received : DateTime → Saml2SecurityToken → GenericXmlSecurityToken
  elementOf : GenericXmlSecurityToken → SecurityTokenElement

/-- What is documented of them.  The response has the lifetime of the conditions, and
where it says nothing the token is valid from now; the XML is that of the response; an
element is sent as the XML of its token.  A token without a subject is not written. -/
structure TokenTransport.ReadsWhatIsSent (transport : TokenTransport) : Prop where
  validFrom_eq : ∀ utcNow token, (transport.received utcNow token).validFrom =
    ((token.assertion.conditions.bind (·.notBefore)).map (·.onWire)).getD utcNow
  tokenXml_eq : ∀ utcNow token, token.assertion.subject ≠ none →
    ∃ issuerToken, (transport.received utcNow token).tokenXml =
      .saml2 ⟨token.assertion.onWire, issuerToken⟩
  getSecurityToken_eq : ∀ token saml2Token, token.tokenXml = .saml2 saml2Token →
    ∃ issuerToken, (transport.elementOf token).getSecurityToken =
      .ok (.saml2 ⟨saml2Token.assertion, issuerToken⟩)

/-- The check reads no instant of the assertion, and not who signed it. -/
theorem validateIssuedToken_onWire (utcNow validFrom : DateTime) (token : Saml2SecurityToken)
    (issuerToken : Option IssuerToken) (appliesTo : String)
    (mustHaveAttribute : List Saml2Attribute) :
    validateIssuedToken utcNow
        (some ⟨validFrom, .saml2 ⟨token.assertion.onWire, issuerToken⟩⟩) appliesTo
        mustHaveAttribute =
      validateIssuedToken utcNow (some ⟨validFrom, .saml2 token⟩) appliesTo mustHaveAttribute := by
  simp only [validateIssuedToken, deref_some, ok_bind, Saml2Assertion.statements_onWire,
    Saml2Assertion.subject_onWire]
  cases token.assertion.subject with
  | none => rfl
  | some subject =>
      simp only [Option.map_some, deref_some, ok_bind, Saml2Subject.nameId_onWire,
        Saml2Subject.subjectConfirmations_onWire]
      cases subject.subjectConfirmations with
      | nil => rfl
      | cons confirmation confirmations =>
          cases hdata : confirmation.subjectConfirmationData with
          | none => simp [Saml2SubjectConfirmation.onWire, hdata]
          | some data => simp [Saml2SubjectConfirmation.onWire, hdata,
              Saml2SubjectConfirmationData.onWire]

end KombitSamples.Consumer
