import KombitSamples.Saml2

/-!
# KombitSamples.Trust

The WS-Trust part of `System.IdentityModel`: requests for security tokens,
scopes, the configuration of a token service and its collections of token
handlers.

`IdentityModel` gathers everything the repository calls in that library
and in the base classes it derives from.  It is a parameter of the model;
the laws that a result needs are hypotheses of that result.
-/

namespace KombitSamples

open Fallible

/-! ## Requests -/

structure EndpointReference where
  uri : Uri
deriving DecidableEq, Repr

structure RequestClaim where
  claimType : String
  isOptional : Bool := false
  value : Option String := none
deriving DecidableEq, Repr

/-- What `GetScope` reads of the secondary parameters. -/
structure SecondaryParameters where
  keyType : Option String := none
  tokenType : Option String := none
deriving DecidableEq, Repr

structure RequestSecurityToken where
  appliesTo : Option EndpointReference := none
  keyType : Option String := none
  tokenType : Option String := none
  lifetime : Option Lifetime := none
  claims : Option (List RequestClaim) := none
  onBehalfOf : Option SecurityTokenElement := none
  secondaryParameters : Option SecondaryParameters := none

/-- What the service knows about the relying party of a request. -/
structure Scope where
  appliesToAddress : String
  signingCredentials : SigningCredentials
  tokenEncryptionRequired : Bool := true
  symmetricKeyEncryptionRequired : Bool := true
deriving DecidableEq, Repr

/-! ## Handler collections -/

/-- A collection of token handlers: the handler it holds for each kind of
token, and the configuration they share. -/
structure SecurityTokenHandlerCollection where
  configuration : SecurityTokenHandlerConfiguration
  saml2 : SecurityTokenHandlerConfiguration → DateTime → Saml2SecurityToken →
    Except Exception ClaimsIdentity
  x509 : SecurityTokenHandlerConfiguration → DateTime → X509Certificate2 →
    Except Exception ClaimsIdentity
  other : SecurityTokenHandlerConfiguration → DateTime → String → Except Exception ClaimsIdentity

namespace SecurityTokenHandlerCollection

/-- `ValidateToken`: the handler of the token's kind validates it. -/
def validateToken (handlers : SecurityTokenHandlerCollection) (now : DateTime) :
    SecurityToken → Except Exception ClaimsIdentity
  | .saml2 token => handlers.saml2 handlers.configuration now token
  | .x509 certificate => handlers.x509 handlers.configuration now certificate
  | .other kind => handlers.other handlers.configuration now kind

end SecurityTokenHandlerCollection

/-- `SecurityTokenElement.GetIdentities`: read the token and have the
handlers validate it. -/
def SecurityTokenElement.getIdentities (element : SecurityTokenElement)
    (handlers : SecurityTokenHandlerCollection) (now : DateTime) : Except Exception ClaimsIdentity := do
  let token ← element.getSecurityToken
  handlers.validateToken now token

/-! ## The token service -/

structure SecurityTokenServiceConfiguration where
  tokenIssuerName : String
  defaultTokenLifetime : TimeSpan
  maximumTokenLifetime : TimeSpan
  maxClockSkew : TimeSpan
  signingCredentials : SigningCredentials
  /-- The handlers registered for the usage `OnBehalfOf`. -/
  onBehalfOf : SecurityTokenHandlerCollection

/-- The parts of the base `SecurityTokenService` that fill in a token
descriptor. -/
structure SecurityTokenService where
  getTokenLifetime : SecurityTokenServiceConfiguration → DateTime → Option Lifetime →
    Except Exception Lifetime
  getProofToken : RequestSecurityToken → Except Exception (Option String)

namespace SecurityTokenService

/-- The instant a requested lifetime starts at: now, unless it says. -/
def createdOf (now : DateTime) (requested : Option Lifetime) : DateTime :=
  (requested.bind (·.created)).getD now

/-- The instant a requested lifetime ends at: the default after its start,
unless it says. -/
def expiresOf (configuration : SecurityTokenServiceConfiguration) (now : DateTime)
    (requested : Option Lifetime) : DateTime :=
  (requested.bind (·.expires)).getD (createdOf now requested + configuration.defaultTokenLifetime)

/-- `GetTokenLifetime` computes the lifetime from the requested one, and
refuses one that ends before it starts or is longer than the configured
maximum. -/
structure ComputesLifetime (service : SecurityTokenService) : Prop where
  eq_of_ok : ∀ configuration now requested lifetime,
    service.getTokenLifetime configuration now requested = .ok lifetime →
    lifetime = ⟨some (createdOf now requested), some (expiresOf configuration now requested)⟩
  created_lt_expires : ∀ configuration now requested,
    Returns (service.getTokenLifetime configuration now requested) →
    createdOf now requested < expiresOf configuration now requested
  le_maximumTokenLifetime : ∀ configuration now requested,
    Returns (service.getTokenLifetime configuration now requested) →
    expiresOf configuration now requested - createdOf now requested ≤
      configuration.maximumTokenLifetime

end SecurityTokenService

/-! ## The library as a whole -/

/-- Everything the repository calls outside itself to issue and to validate
tokens. -/
structure IdentityModel where
  saml2 : Saml2SecurityTokenHandler
  service : SecurityTokenService
  /-- The base `X509SecurityTokenHandler.ValidateToken`. -/
  validateX509 : X509Certificate2 → Except Exception (List ClaimsIdentity)
  /-- `SecurityTokenHandlerCollection.CreateDefaultSecurityTokenHandlerCollection`. -/
  defaultHandlers : SecurityTokenHandlerCollection
  /-- The token that `TryResolveIssuerToken` finds an assertion signed with. -/
  resolveIssuerToken : Saml2Assertion → Option IssuerToken
  /-- `new Uri(text)`. -/
  newUri : String → Except Exception Uri
  /-- `XmlConvert.ToString` of an instant, in `yyyy-MM-ddTHH:mm:ss.fffZ`. -/
  formatInstant : DateTime → String
  /-- `Exception.ToString()`. -/
  exceptionText : Exception → String
  /-- `TimeZoneInfo.Local`, through which `DateTime.Now` is read and the setters of the
  library convert a local time. -/
  timeZone : TimeZoneInfo

/-- An assertion signed with a certificate resolves to that certificate. -/
def IdentityModel.ResolvesSigner (im : IdentityModel) : Prop :=
  ∀ assertion credentials, assertion.signingCredentials = some credentials →
    im.resolveIssuerToken assertion = some (.x509 credentials.certificate)

end KombitSamples
