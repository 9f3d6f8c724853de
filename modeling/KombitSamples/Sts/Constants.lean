import KombitSamples.Trust

/-!
# KombitSamples.Sts.Constants

The settings of the token service (`Constants.cs`), as loaded from its
configuration file and certificate store, and the fake name it gives to
the owner of a certificate.
-/

namespace KombitSamples.Sts

inductive SigningAlgorithmMethod where
  | sha1
  | sha256
deriving DecidableEq, Repr

structure Constants where
  bppValue : Option String
  baseAddress : String
  signingCertificate : X509Certificate2
  signingAlgorithm : SigningAlgorithmMethod := .sha256
  stsServiceCertificate : X509Certificate2
  aValidClientCertificate : X509Certificate2
  aValidOnBehalfOfCertificate : X509Certificate2
  /-- In minutes. -/
  maximumTokenLifetime : Int
  /-- `KeyTypes.Symmetric` of the library `Kombit.Samples.Common`. -/
  symmetricKeyType : String
deriving DecidableEq, Repr

/-- The claim type that stores the thumbprint of the requestor's
certificate. -/
def requestorCertificateClaimType : String := "kombit:requestor:certificate:thumbprint"

/-- The subject name of the valid client certificate. -/
def clientSubjectNameId : String := "C=DK,O=20688092,CN=Hans Jensen,Serial=123abc456"

/-- The subject name of every other certificate. -/
def otherSubjectNameId : String := "C=DK,O=39788093,CN=Maren Jensdatter,Serial=987abc654"

namespace Constants

def signingCredentials (constants : Constants) : SigningCredentials :=
  match constants.signingAlgorithm with
  | .sha256 => ⟨constants.signingCertificate, "http://www.w3.org/2001/04/xmldsig-more#rsa-sha256",
      "http://www.w3.org/2001/04/xmlenc#sha256"⟩
  | .sha1 => ⟨constants.signingCertificate, "http://www.w3.org/2000/09/xmldsig#rsa-sha1",
      "http://www.w3.org/2000/09/xmldsig#sha1"⟩

def getSubjectNameId (constants : Constants) (cert : X509Certificate2) : String :=
  if cert.thumbprint = constants.aValidClientCertificate.thumbprint then clientSubjectNameId
  else otherSubjectNameId

/-- Whatever the algorithm, tokens are signed with the signing certificate. -/
@[simp] theorem certificate_signingCredentials (constants : Constants) :
    constants.signingCredentials.certificate = constants.signingCertificate := by
  unfold signingCredentials
  cases constants.signingAlgorithm <;> rfl

/-- Only the client certificate is given the client's name. -/
theorem getSubjectNameId_eq_client_iff (constants : Constants) (cert : X509Certificate2) :
    constants.getSubjectNameId cert = clientSubjectNameId ↔
      cert.thumbprint = constants.aValidClientCertificate.thumbprint := by
  have hne : otherSubjectNameId ≠ clientSubjectNameId := by decide
  unfold getSubjectNameId
  split <;> simp_all

/-- The names are not empty. -/
theorem getSubjectNameId_ne_empty (constants : Constants) (cert : X509Certificate2) :
    constants.getSubjectNameId cert ≠ "" := by
  unfold getSubjectNameId
  split <;> decide

/-- The certificates and the lifetime of the shipped `Web.config`, with a
given privilege profile. -/
def shipped (bppValue : String) : Constants where
  bppValue := some bppValue
  baseAddress := "https://adgangsstyring.projekt-stoettesystemerne.dk/sts/"
  signingCertificate := { thumbprint := "01699B6C50396AC060C8AE9BC3D4B343C9B57EB1" }
  stsServiceCertificate := { thumbprint := "01699B6C50396AC060C8AE9BC3D4B343C9B57EB1" }
  aValidClientCertificate := { thumbprint := "4678237245FEDC8059D113675955DFB870D36BF4" }
  aValidOnBehalfOfCertificate := { thumbprint := "153E971C6BAECC4E4EC68D8269303901654A02A6" }
  maximumTokenLifetime := 60
  symmetricKeyType := "http://docs.oasis-open.org/ws-sx/ws-trust/200512/SymmetricKey"

/-- The certificates that decide over a requestor are different ones. -/
structure DistinctCertificates (constants : Constants) : Prop where
  client_ne_onBehalfOf : constants.aValidClientCertificate.thumbprint ≠
    constants.aValidOnBehalfOfCertificate.thumbprint
  client_ne_sts : constants.aValidClientCertificate.thumbprint ≠
    constants.stsServiceCertificate.thumbprint
  onBehalfOf_ne_sts : constants.aValidOnBehalfOfCertificate.thumbprint ≠
    constants.stsServiceCertificate.thumbprint

theorem distinctCertificates_shipped (bppValue : String) :
    (shipped bppValue).DistinctCertificates where
  client_ne_onBehalfOf := by simp [shipped]
  client_ne_sts := by simp [shipped]
  onBehalfOf_ne_sts := by simp [shipped]

end Constants

end KombitSamples.Sts
