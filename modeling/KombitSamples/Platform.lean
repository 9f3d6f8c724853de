import KombitSamples.Replace
import KombitSamples.Removal
import Mathlib.Data.List.DropRight

/-!
# KombitSamples.Platform

The .NET types the repository is written against: strings and URIs,
instants, exceptions, certificates, claims and principals.

Strings follow the ordinal, code-point-wise operations of .NET; the
case-insensitive comparisons fold ASCII letters, which is what they do on
the percent-encoded text of a URI.  Instants and spans count ticks of
100 ns.  A reference that may be `null` is an `Option`.
-/

namespace KombitSamples

/-! ## Strings -/

namespace Text

open Replace

/-- `String.Replace(oldValue, newValue)`. -/
def replace (s oldValue newValue : String) : String :=
  String.ofList (replaceAll oldValue.toList newValue.toList s.toList)

/-- `String.StartsWith(value)`. -/
def startsWith (s value : String) : Bool := value.toList.isPrefixOf s.toList

theorem startsWith_append (value s : String) : startsWith (value ++ s) value = true := by
  simp [startsWith]

/-- `String.Replace(value, string.Empty)` erases. -/
theorem toList_replace_empty (s value : String) :
    (replace s value "").toList = eraseAll value.toList s.toList := by
  simp [replace, eraseAll]

/-- `String.Contains(value)`. -/
def contains (s value : String) : Bool := decide (value.toList <:+: s.toList)

/-- `s.IndexOf(value, StringComparison.OrdinalIgnoreCase) >= 0`. -/
def containsIgnoreCase (s value : String) : Bool :=
  decide (value.toList.map Char.toUpper <:+: s.toList.map Char.toUpper)

/-- `s.Equals(value, StringComparison.InvariantCultureIgnoreCase)`. -/
def equalsIgnoreCase (s value : String) : Bool :=
  decide (s.toList.map Char.toUpper = value.toList.map Char.toUpper)

/-- `s.TrimEnd(new[] {c})`. -/
def trimEnd (s : String) (c : Char) : String := String.ofList (s.toList.rdropWhile (· == c))

/-- `s.Trim(new[] {c})`. -/
def trim (s : String) (c : Char) : String := trimEnd (String.ofList (s.toList.dropWhile (· == c))) c

end Text

/-! ## URIs -/

/-- An absolute `System.Uri`, held as its canonical text. -/
structure Uri where
  absoluteUri : String
deriving DecidableEq, Repr

namespace Uri

/-- `GetLeftPart(UriPartial.Path)`: the URI without query and fragment. -/
def leftPart (u : Uri) : Uri :=
  ⟨String.ofList (u.absoluteUri.toList.takeWhile fun c => c != '?' && c != '#')⟩

/-- The text without the user information of its authority. -/
def dropUserInfo (text : List Char) : List Char :=
  let scheme := text.takeWhile (· != ':')
  let rest := text.dropWhile (· != ':')
  if [':', '/', '/'].isPrefixOf rest then
    let authority := (rest.drop 3).takeWhile fun c => c != '/' && c != '?'
    let path := (rest.drop 3).dropWhile fun c => c != '/' && c != '?'
    scheme ++ [':', '/', '/'] ++ authority.rtakeWhile (· != '@') ++ path
  else text

/-- What `Uri.Equals` compares: everything but the fragment and the user
information. -/
def comparable (u : Uri) : List Char :=
  dropUserInfo (u.absoluteUri.toList.takeWhile (· != '#'))

/-- `Uri.Equals`. -/
def equals (u v : Uri) : Bool := u.comparable == v.comparable

end Uri

/-! ## Instants -/

/-- An instant, in ticks. -/
abbrev DateTime := Int

/-- A length of time, in ticks. -/
abbrev TimeSpan := Int

def TimeSpan.fromSeconds (s : Int) : TimeSpan := s * 10000000

def TimeSpan.fromMinutes (m : Int) : TimeSpan := TimeSpan.fromSeconds (m * 60)

/-! ### The wall clock -/

/-- A `DateTime` of the local kind: a reading of the wall clock, in ticks, and the flag
that tells the first of two passages through an hour from the second. -/
structure LocalDateTime where
  ticks : Int
  isAmbiguousDst : Bool
deriving DecidableEq, Repr

/-- `Add`: only the reading moves. -/
def LocalDateTime.add (dateTime : LocalDateTime) (value : TimeSpan) : LocalDateTime :=
  { dateTime with ticks := dateTime.ticks + value }

/-- `TimeZoneInfo.Local`: the offset of the wall clock at an instant, and the one that a
reading of it is converted back with.  A reading that was taken at an instant has the
offset of that instant. -/
structure TimeZoneInfo where
  utcOffset : DateTime → TimeSpan
  isAmbiguousDst : DateTime → Bool
  localOffset : LocalDateTime → TimeSpan
  localOffset_reading : ∀ utc,
    localOffset ⟨utc + utcOffset utc, isAmbiguousDst utc⟩ = utcOffset utc

namespace TimeZoneInfo

variable (zone : TimeZoneInfo)

/-- `ToLocalTime`, and so `DateTime.Now`. -/
def toLocalTime (utc : DateTime) : LocalDateTime :=
  ⟨utc + zone.utcOffset utc, zone.isAmbiguousDst utc⟩

/-- `ToUniversalTime`. -/
def toUniversalTime (dateTime : LocalDateTime) : DateTime :=
  dateTime.ticks - zone.localOffset dateTime

/-- What the wall clock is set back by, between its reading at an instant and the reading
that lies a span further on. -/
def setBack (utc : DateTime) (span : TimeSpan) : TimeSpan :=
  zone.utcOffset utc - zone.localOffset ((zone.toLocalTime utc).add span)

theorem toUniversalTime_add (utc : DateTime) (span : TimeSpan) :
    zone.toUniversalTime ((zone.toLocalTime utc).add span) =
      utc + span + zone.setBack utc span := by
  simp only [toUniversalTime, setBack, LocalDateTime.add, toLocalTime]
  grind

/-- It is not set back where the reading further on is that of the instant further on. -/
theorem setBack_eq_zero {utc : DateTime} {span : TimeSpan}
    (h : zone.toLocalTime (utc + span) = (zone.toLocalTime utc).add span) :
    zone.setBack utc span = 0 := by
  have hoffset : zone.localOffset (zone.toLocalTime (utc + span)) = zone.utcOffset (utc + span) :=
    zone.localOffset_reading (utc + span)
  have hticks : utc + span + zone.utcOffset (utc + span) = utc + zone.utcOffset utc + span :=
    congrArg LocalDateTime.ticks h
  rw [setBack, ← h, hoffset]
  grind

/-- `TimeZoneInfo.Utc`. -/
def utc : TimeZoneInfo := ⟨fun _ => 0, fun _ => false, fun _ => 0, fun _ => rfl⟩

end TimeZoneInfo

/-! ## Exceptions -/

/-- The exceptions the modelled code throws, catches or lets through. -/
inductive Exception where
  | argumentNull (paramName : String)
  | argument (message : String)
  | invalidOperation (message : String)
  | invalidCast (message : String)
  | nullReference
  | fault (message code : String)
  | securityTokenValidation (message : String)
  | other (message : String)
deriving DecidableEq, Repr

namespace Exception

/-- `Exception.Message`. -/
def message : Exception → String
  | .argumentNull paramName => "Value cannot be null.\r\nParameter name: " ++ paramName
  | .nullReference => "Object reference not set to an instance of an object."
  | .argument m | .invalidOperation m | .invalidCast m | .fault m _
  | .securityTokenValidation m | .other m => m

/-- The exception is a `FaultException`. -/
def isFault : Exception → Bool
  | .fault .. => true
  | _ => false

/-- `new FaultException(reason)`: a fault built from a message alone has the
code name `Sender`. -/
def faultOf (message : String) : Exception := .fault message "Sender"

end Exception

/-- `s.Substring(startIndex)`. -/
def Text.substring (s : String) (startIndex : Nat) : Except Exception String :=
  if startIndex ≤ s.length then .ok (String.ofList (s.toList.drop startIndex))
  else .error (.argument "startIndex cannot be larger than length of string.")

/-! ## Certificates -/

/-- What the code reads of an `X509Certificate2`. -/
structure X509Certificate2 where
  thumbprint : String
  subjectName : String := ""
  /-- `GetCertHash(HashAlgorithmName.SHA256)`. -/
  certHashSha256 : List UInt8 := []
deriving DecidableEq, Repr

/-! ## Claims and principals -/

namespace ClaimTypes

def name : String := "http://schemas.xmlsoap.org/ws/2005/05/identity/claims/name"

def role : String := "http://schemas.microsoft.com/ws/2008/06/identity/claims/role"

def nameIdentifier : String :=
  "http://schemas.xmlsoap.org/ws/2005/05/identity/claims/nameidentifier"

def authenticationInstant : String :=
  "http://schemas.microsoft.com/ws/2008/06/identity/claims/authenticationinstant"

def authenticationMethod : String :=
  "http://schemas.microsoft.com/ws/2008/06/identity/claims/authenticationmethod"

end ClaimTypes

/-- `ClaimProperties.SamlNameIdentifierFormat`. -/
def samlNameIdentifierFormat : String :=
  "http://schemas.xmlsoap.org/ws/2005/05/identity/claimproperties/format"

/-- `AuthenticationTypes.X509`. -/
def authenticationTypeX509 : String := "X509"

/-- `AuthenticationMethods.X509`. -/
def authenticationMethodX509 : String :=
  "http://schemas.microsoft.com/ws/2008/06/identity/authenticationmethod/x509"

/-- `System.Security.Claims.Claim`; its constructor rejects a null type or
value. -/
structure Claim where
  type : String
  value : String
  valueType : String := "http://www.w3.org/2001/XMLSchema#string"
  properties : List (String × String) := []
deriving DecidableEq, Repr

structure ClaimsIdentity where
  claims : List Claim := []
  authenticationType : String := ""
  nameClaimType : String := ClaimTypes.name
  roleClaimType : String := ClaimTypes.role
deriving DecidableEq, Repr

namespace ClaimsIdentity

/-- `IsAuthenticated`: an identity is authenticated when it names its
authentication type. -/
def isAuthenticated (identity : ClaimsIdentity) : Bool := !identity.authenticationType.isEmpty

/-- `Name`: the value of the first claim of the name claim type. -/
def name (identity : ClaimsIdentity) : Option String :=
  (identity.claims.find? (·.type == identity.nameClaimType)).map (·.value)

/-- `AddClaim`. -/
def addClaim (identity : ClaimsIdentity) (claim : Claim) : ClaimsIdentity :=
  { identity with claims := identity.claims ++ [claim] }

end ClaimsIdentity

structure ClaimsPrincipal where
  identities : List ClaimsIdentity
deriving DecidableEq, Repr

namespace ClaimsPrincipal

/-- `Claims`: the claims of all identities, in order. -/
def claims (principal : ClaimsPrincipal) : List Claim :=
  principal.identities.flatMap (·.claims)

theorem claims_singleton (identity : ClaimsIdentity) :
    claims ⟨[identity]⟩ = identity.claims := by
  rw [claims, List.flatMap_singleton]

/-- `Identity`: the first identity, null when there is none. -/
def identity (principal : ClaimsPrincipal) : Option ClaimsIdentity := principal.identities.head?

end ClaimsPrincipal

/-- `claims.FirstOrDefault(c => c.Type == type)`. -/
def firstClaim (type : String) (claims : List Claim) : Option Claim :=
  claims.find? (·.type == type)

/-- The claims of one type, in order. -/
def claimsOfType (type : String) (claims : List Claim) : List Claim :=
  claims.filter (·.type == type)

@[simp] theorem claimsOfType_nil (type : String) : claimsOfType type [] = [] := rfl

@[simp] theorem claimsOfType_append (type : String) (xs ys : List Claim) :
    claimsOfType type (xs ++ ys) = claimsOfType type xs ++ claimsOfType type ys :=
  List.filter_append _ _

@[simp] theorem claimsOfType_cons_self {type : String} {c : Claim} (h : c.type = type)
    (claims : List Claim) : claimsOfType type (c :: claims) = c :: claimsOfType type claims := by
  simp [claimsOfType, h]

@[simp] theorem claimsOfType_cons_of_ne {type : String} {c : Claim} (h : c.type ≠ type)
    (claims : List Claim) : claimsOfType type (c :: claims) = claimsOfType type claims := by
  simp [claimsOfType, h]

/-- The first claim of a type is the head of the claims of that type. -/
theorem firstClaim_eq_head? (type : String) (claims : List Claim) :
    firstClaim type claims = (claimsOfType type claims).head? := by
  rw [firstClaim, claimsOfType, List.head?_filter]

/-- Removing the first claim of a type leaves the other claims of it. -/
theorem claimsOfType_eraseP_self (type : String) (claims : List Claim) :
    claimsOfType type (claims.eraseP (·.type == type)) = (claimsOfType type claims).tail := by
  induction claims with
  | nil => rfl
  | cons c claims ih =>
      by_cases h : c.type = type
      · rw [List.eraseP_cons_of_pos (by simpa using h), claimsOfType_cons_self h, List.tail_cons]
      · rw [List.eraseP_cons_of_neg (by simpa using h), claimsOfType_cons_of_ne h, ih,
          claimsOfType_cons_of_ne h]

/-- Removing the first claim of a type touches no claim of another type. -/
theorem claimsOfType_eraseP_of_ne {type other : String} (hne : type ≠ other)
    (claims : List Claim) :
    claimsOfType type (claims.eraseP (·.type == other)) = claimsOfType type claims := by
  refine Removal.filter_eraseP_of_disjoint fun c _ hc => ?_
  rw [beq_iff_eq] at hc
  rw [hc]
  exact beq_eq_false_iff_ne.mpr hne.symm

end KombitSamples
