import KombitSamples.Saml2

/-!
# KombitSamples.Consumer.StrReferenceSaml2SecurityTokenHandler

How the consumer refers to a token in a message.  The clause of an assertion
has an id with the prefix `_str`; the reference that is written has the id
without it.
-/

namespace KombitSamples.Consumer

open Fallible Replace

def strPrefix : String := "_str"

/-- The cast `clause as Saml2AssertionKeyIdentifierClause`, and its `Id`. -/
def saml2ClauseId : SecurityKeyIdentifierClause → Option String
  | .saml2Assertion id => some id
  | _ => none

/-- What an `XmlWriter` has written, last first. -/
abbrev XmlWriter := List SecurityTokenReference

/-- `WriteKeyIdentifierClause`.  A clause without the prefix is left to the
base class. -/
def writeKeyIdentifierClause
    (base : XmlWriter → SecurityKeyIdentifierClause → Except Exception XmlWriter)
    (writer : Option XmlWriter) (securityKeyIdentifierClause : Option SecurityKeyIdentifierClause) :
    Except Exception XmlWriter := do
  let writer ← deref (.argumentNull "writer") writer
  let clause ← deref (.argumentNull "securityKeyIdentifierClause") securityKeyIdentifierClause
  let id ← deref .nullReference clause.id
  if !Text.startsWith id strPrefix then base writer clause
  else do
    let samlClauseId ← deref .nullReference (saml2ClauseId clause)
    let reference : SecurityTokenReference := {
      tokenType := "http://docs.oasis-open.org/wss/oasis-wss-saml-token-profile-1.1#SAMLV2.0"
      valueType := "http://docs.oasis-open.org/wss/oasis-wss-saml-token-profile-1.1#SAMLID"
      keyIdentifier := Text.replace samlClauseId strPrefix "" }
    pure (reference :: writer)

/-- The clause that the binding makes for an assertion. -/
def customisedClause (assertionId : Saml2Id) : SecurityKeyIdentifierClause :=
  .saml2Assertion (strPrefix ++ assertionId.value)

/-- The text of the reference to an assertion: the prefix is erased, and so
is every other occurrence of it. -/
def keyIdentifierOf (assertionId : Saml2Id) : String :=
  Text.replace (strPrefix ++ assertionId.value) strPrefix ""

/-- The customised clause is written with that text. -/
theorem writeKeyIdentifierClause_customisedClause
    (base : XmlWriter → SecurityKeyIdentifierClause → Except Exception XmlWriter)
    (writer : XmlWriter) (assertionId : Saml2Id) :
    ∃ reference, writeKeyIdentifierClause base (some writer) (some (customisedClause assertionId)) =
        .ok (reference :: writer) ∧ reference.keyIdentifier = keyIdentifierOf assertionId := by
  have hstarts := Text.startsWith_append strPrefix assertionId.value
  simp only [writeKeyIdentifierClause, customisedClause, deref_some, ok_bind,
    SecurityKeyIdentifierClause.id, saml2ClauseId, hstarts, Bool.not_true, Bool.false_eq_true,
    if_false]
  exact ⟨_, rfl, rfl⟩

theorem toList_keyIdentifierOf (assertionId : Saml2Id) :
    (keyIdentifierOf assertionId).toList = eraseAll strPrefix.toList assertionId.value.toList := by
  rw [keyIdentifierOf, Text.toList_replace_empty, String.toList_append]
  exact replaceAll_append _ [] (by decide) _

end KombitSamples.Consumer
