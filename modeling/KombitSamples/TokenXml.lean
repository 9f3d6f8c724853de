import KombitSamples.Saml2

/-!
# KombitSamples.TokenXml

Assertions as XML, as far as that changes them: their instants are written with no more
than milliseconds.
-/

namespace KombitSamples

/-! ## Instants -/

/-- An instant, written as `yyyy-MM-ddTHH:mm:ss.fffZ` and read again. -/
def DateTime.onWire (instant : DateTime) : DateTime := instant - instant % 10000

theorem DateTime.onWire_add_fromMinutes (instant : DateTime) (m : Int) :
    (instant + TimeSpan.fromMinutes m).onWire = instant.onWire + TimeSpan.fromMinutes m := by
  have hmod : (instant + TimeSpan.fromMinutes m) % 10000 = instant % 10000 := by
    have hspan : TimeSpan.fromMinutes m = 10000 * (m * 60000) := by
      rw [TimeSpan.fromMinutes, TimeSpan.fromSeconds]
      grind
    rw [hspan, Int.add_mul_emod_self_left]
  rw [DateTime.onWire, DateTime.onWire, hmod]
  exact Int.add_right_comm _ _ _

theorem DateTime.onWire_le_onWire {instant later : DateTime} (h : instant ≤ later) :
    instant.onWire ≤ later.onWire := by
  unfold DateTime.onWire
  grind

/-! ## Assertions -/

def Saml2Conditions.onWire (conditions : Saml2Conditions) : Saml2Conditions :=
  { conditions with
    notBefore := conditions.notBefore.map (·.onWire)
    notOnOrAfter := conditions.notOnOrAfter.map (·.onWire) }

def Saml2SubjectConfirmationData.onWire (data : Saml2SubjectConfirmationData) :
    Saml2SubjectConfirmationData :=
  { data with
    notBefore := data.notBefore.map (·.onWire)
    notOnOrAfter := data.notOnOrAfter.map (·.onWire) }

def Saml2SubjectConfirmation.onWire (confirmation : Saml2SubjectConfirmation) :
    Saml2SubjectConfirmation :=
  { confirmation with
    subjectConfirmationData := confirmation.subjectConfirmationData.map (·.onWire) }

def Saml2Subject.onWire (subject : Saml2Subject) : Saml2Subject :=
  { subject with subjectConfirmations := subject.subjectConfirmations.map (·.onWire) }

/-- The assertion that is read where this one was written. -/
def Saml2Assertion.onWire (assertion : Saml2Assertion) : Saml2Assertion :=
  { assertion with
    subject := assertion.subject.map (·.onWire)
    conditions := assertion.conditions.map (·.onWire) }

section Fields

variable (assertion : Saml2Assertion)

@[simp] theorem Saml2Assertion.statements_onWire :
    assertion.onWire.statements = assertion.statements := rfl

@[simp] theorem Saml2Assertion.subject_onWire :
    assertion.onWire.subject = assertion.subject.map (·.onWire) := rfl

@[simp] theorem Saml2Assertion.conditions_onWire :
    assertion.onWire.conditions = assertion.conditions.map (·.onWire) := rfl

@[simp] theorem Saml2Subject.nameId_onWire (subject : Saml2Subject) :
    subject.onWire.nameId = subject.nameId := rfl

@[simp] theorem Saml2Subject.subjectConfirmations_onWire (subject : Saml2Subject) :
    subject.onWire.subjectConfirmations = subject.subjectConfirmations.map (·.onWire) := rfl

end Fields

/-- A token that was read names the subject of the one that was written. -/
theorem Saml2SecurityToken.nameId_of_onWire {token written : Saml2SecurityToken}
    (h : token.assertion = written.assertion.onWire) : token.nameId = written.nameId := by
  rw [nameId, nameId, h, Saml2Assertion.subject_onWire]
  cases written.assertion.subject with
  | none => rfl
  | some subject => rfl

end KombitSamples
