import KombitSamples.Authority
import KombitSamples.Simulation
import KombitSamples.TokenXml
import KombitSamples.Service.Service
import KombitSamples.Service.ServiceServiceHostFactory
import KombitSamples.Sts.Attestation

/-!
# KombitSamples.Federation

The token service and the sample service together, with anyone in between.

Whoever has a certificate can have tokens issued, and whoever has seen a token
can present it, as often as he likes, and the service reads what was written of it;
what nobody can make is an assertion that is signed by the token service, which only
the token service does.

* `simulates_authority` — the two programs follow the abstract authority;
* `served_justified` — a call is served only for a token that was issued
  before, to one of the two users and for the service, and that has not expired,
  give or take the clock skew;
* `reply_of_served` — what the service answers, from the settings of the token
  service.
-/

namespace KombitSamples.Federation

open Fallible Trace Saml2SecurityTokenHandler
open Sts (IssueClock issueFor)

/-! ## The two programs and what lies between -/

/-- The settings of both programs; `configuration` is that of the service's
token handlers. -/
structure Settings where
  sts : Sts.Constants
  service : Service.Constants
  configuration : SecurityTokenHandlerConfiguration
  responseMessage : Option String
  contracts : Service.Contracts

structure Issuance where
  cert : X509Certificate2
  request : RequestSecurityToken
  clock : IssueClock
  token : Saml2SecurityToken

/-- A call of the service, with the assertion that is read in its security header. -/
structure Call where
  assertion : Saml2Assertion
  now : DateTime
  messageId : Option Service.UniqueId
  request : Service.Ping

inductive Action (im : IdentityModel) where
  | issue (cert : X509Certificate2) (request : RequestSecurityToken) (clock : IssueClock)
      (addressIsUri : Sts.AddressIsUri im request)
  | call (call : Call)

inductive Event where
  | issued (issuance : Issuance)
  | served (call : Call) (reply : Service.Reply)

section Machine

variable (settings : Settings) (im : IdentityModel)

/-- The assertion is signed with the certificate that the service takes for
that of the token service. -/
def isSignedBySts (assertion : Saml2Assertion) : Bool :=
  match im.resolveIssuerToken assertion with
  | some (.x509 certificate) =>
      certificate.thumbprint == settings.service.stsSigningCertificate.thumbprint
  | _ => false

/-- Anyone can present any assertion, except that a signature of the token
service is found only on what it issued, as that is read. -/
def canBePresented (issuances : List Issuance) (assertion : Saml2Assertion) : Bool :=
  !isSignedBySts settings im assertion ||
    issuances.any (·.token.assertion.onWire == assertion)

/-- The service on a call: it validates the token, and the operation runs with
the identity of the token. -/
def serve (call : Call) : Except Exception Service.Reply := do
  let identity ← Service.validateToken settings.service im settings.configuration call.now
    (.saml2 (Service.readToken im call.assertion))
  Service.ping settings.responseMessage settings.contracts ⟨some ⟨[identity]⟩, call.messageId⟩
    call.request

/-- The tokens issued so far are all that either program and those in between
have to go by. -/
def machine : Machine (List Issuance) (Action im) Event where
  step issuances
    | .issue cert request clock _ =>
        match issueFor settings.sts im clock cert request with
        | .ok token =>
            let issuance := ⟨cert, request, clock, token⟩
            (issuances ++ [issuance], [.issued issuance])
        | .error _ => (issuances, [])
    | .call call =>
        if canBePresented settings im issuances call.assertion then
          match serve settings im call with
          | .ok reply => (issuances, [.served call reply])
          | .error _ => (issuances, [])
        else (issuances, [])

end Machine

/-! ## What one call tells -/

/-- The token service issued it, for an address that is a URI. -/
structure Issuance.Sound (settings : Settings) (im : IdentityModel) (i : Issuance) : Prop where
  issueFor_eq : issueFor settings.sts im i.clock i.cert i.request = .ok i.token
  addressIsUri : Sts.AddressIsUri im i.request

/-- The conditions of an assertion are met, as far as the service goes. -/
def Good (settings : Settings) (im : IdentityModel) (assertion : Saml2Assertion)
    (now : DateTime) : Prop :=
  ∃ conditions, assertion.conditions = some conditions ∧
    InConditionsWindow settings.configuration.maxClockSkew now conditions ∧
    ∀ audiences ∈ conditions.audienceRestrictions, ∃ audience ∈ audiences,
      ∃ address, Service.IsServiceAddress settings.service im address ∧
        address.equals audience.leftPart = true

/-- What the service has made sure of when it serves a call. -/
structure Served (settings : Settings) (im : IdentityModel) (call : Call)
    (reply : Service.Reply) : Prop where
  signed : isSignedBySts settings im call.assertion = true
  conditions : Returns (im.saml2.validateConditions settings.configuration call.now
    call.assertion.conditions)
  answered : ∃ issuer nameId identity,
    im.saml2.createClaims issuer nameId call.assertion.statements = .ok identity ∧
    Service.ping settings.responseMessage settings.contracts ⟨some ⟨[identity]⟩, call.messageId⟩
      call.request = .ok reply

section Calls

variable {settings : Settings} {im : IdentityModel} {call : Call} {reply : Service.Reply}

/-- The identity of a validated token is that of its statements. -/
theorem createClaims_of_validateToken {constants : Service.Constants}
    {configuration : SecurityTokenHandlerConfiguration} {now : DateTime}
    {token : Saml2SecurityToken} {identity : ClaimsIdentity}
    (h : Service.validateToken constants im configuration now (.saml2 token) = .ok identity) :
    ∃ issuer nameId,
      im.saml2.createClaims issuer nameId token.assertion.statements = .ok identity := by
  simp only [Service.validateToken, Service.asSaml2, deref_some, ok_bind, bind_eq_ok,
    Saml2SecurityTokenHandler.validateToken] at h
  obtain ⟨-, -, -, -, -, -, -, -, subject, -, -, -, -, -, issuer, -, hclaims⟩ := h
  exact ⟨issuer, subject.nameId, hclaims⟩

theorem served_of_serve (h : serve settings im call = .ok reply) :
    Served settings im call reply := by
  simp only [serve, bind_eq_ok] at h
  obtain ⟨identity, hvalid, hping⟩ := h
  obtain ⟨issuer, nameId, hclaims⟩ := createClaims_of_validateToken hvalid
  obtain ⟨token, htoken, ⟨certificate, hissuer, hthumb⟩, hother⟩ :=
    Service.returns_validateToken_iff_checks.mp ⟨identity, hvalid⟩
  obtain rfl := SecurityToken.saml2.inj htoken
  obtain ⟨-, -, -, -, hconditions, -⟩ := hother
  have hresolved : im.resolveIssuerToken call.assertion = some (.x509 certificate) := hissuer
  exact {
    signed := by simp [isSignedBySts, hresolved, hthumb]
    conditions := hconditions
    answered := ⟨issuer, nameId, identity, hclaims, hping⟩ }

/-- So the token of a call that is served was issued. -/
theorem mem_of_served {issuances : List Issuance} (h : Served settings im call reply)
    (hpresented : canBePresented settings im issuances call.assertion = true) :
    ∃ i ∈ issuances, i.token.assertion.onWire = call.assertion := by
  simpa [canBePresented, h.signed] using hpresented

/-- What an event says that has happened. -/
def Event.Sound (settings : Settings) (im : IdentityModel) : Event → Prop
  | .issued i => i.Sound settings im
  | .served call reply => Served settings im call reply ∧
      ∃ i : Issuance, i.Sound settings im ∧ i.token.assertion.onWire = call.assertion

/-- Every event of a run says what has happened. -/
theorem keeps_sound : (machine settings im).Keeps
    (fun issuances => ∀ i ∈ issuances, i.Sound settings im) (Event.Sound settings im) where
  step_inv issuances action h := by
    cases action with
    | issue cert request clock haddress =>
        simp only [machine]
        split
        · next token hissue =>
            have hsound : Issuance.Sound settings im ⟨cert, request, clock, token⟩ :=
              ⟨hissue, haddress⟩
            intro i hmem
            rw [List.mem_append, List.mem_singleton] at hmem
            rcases hmem with hmem | rfl
            · exact h i hmem
            · exact hsound
        · exact h
    | call call =>
        simp only [machine]
        split
        · split <;> exact h
        · exact h
  step_events issuances action h := by
    cases action with
    | issue cert request clock haddress =>
        simp only [machine]
        split
        · next token hissue =>
            have hsound : Issuance.Sound settings im ⟨cert, request, clock, token⟩ :=
              ⟨hissue, haddress⟩
            simpa [Event.Sound] using hsound
        · simp
    | call call =>
        simp only [machine]
        split
        · next hpresented =>
            cases hserve : serve settings im call with
            | error ex => simp
            | ok reply =>
                have hserved := served_of_serve hserve
                obtain ⟨i, hmem, heq⟩ := mem_of_served hserved hpresented
                simpa [Event.Sound] using And.intro hserved ⟨i, h i hmem, heq⟩
        · simp

theorem sound_of_mem_events {actions : List (Action im)} {event : Event}
    (h : event ∈ (machine settings im).events [] actions) : event.Sound settings im :=
  keeps_sound.of_mem_events actions [] (by simp) event h

end Calls

/-! ## The abstract authority -/

section Simulation

variable {settings : Settings} {im : IdentityModel}
  {idConfig : SecurityTokenHandlerConfiguration}

/-- An issued token is read with the conditions of its request. -/
theorem Issuance.Sound.conditions_eq {i : Issuance} (h : i.Sound settings im)
    (hcopies : im.saml2.CopiesConditions im.newUri) (hlifetime : im.service.ComputesLifetime) :
    ∃ appliesTo, i.request.appliesTo = some appliesTo ∧
      i.token.assertion.onWire.conditions = some {
        notBefore := some
          (SecurityTokenService.createdOf i.clock.tokenLifetime i.request.lifetime).onWire
        notOnOrAfter := some (SecurityTokenService.expiresOf
          (Sts.wsTrustServiceConfiguration settings.sts im) i.clock.tokenLifetime
          i.request.lifetime).onWire
        audienceRestrictions := [[appliesTo.uri]] } := by
  have hissue := h.issueFor_eq
  simp only [issueFor, bind_eq_ok, Sts.issue_eq_ok_iff] at hissue
  obtain ⟨identities, -, ⟨made⟩⟩ := hissue
  refine ⟨made.appliesTo, made.appliesTo_eq, ?_⟩
  rw [Saml2Assertion.conditions_onWire,
    made.conditions_eq hcopies (h.addressIsUri _ made.appliesTo_eq),
    hlifetime.eq_of_ok _ _ _ _ made.lifetime_eq]
  rfl

/-- A call that is served for an issued token meets its conditions. -/
theorem good_of_served (hcopies : im.saml2.CopiesConditions im.newUri)
    (hchecks : im.saml2.ChecksByConfiguration) (hlifetime : im.service.ComputesLifetime)
    (hnone : Service.NoAudienceSettings idConfig)
    (hhost : Service.createServiceHost settings.service im idConfig = .ok settings.configuration)
    {call : Call} {reply : Service.Reply} (h : Served settings im call reply) {i : Issuance}
    (hsound : i.Sound settings im) (heq : i.token.assertion.onWire = call.assertion) :
    Good settings im call.assertion call.now := by
  obtain ⟨hallowed, -, hmode⟩ := Service.of_createServiceHost hnone hhost
  obtain ⟨appliesTo, -, hconditions⟩ := hsound.conditions_eq hcopies hlifetime
  rw [heq] at hconditions
  have hvalid := h.conditions
  rw [hconditions, hchecks.returns_validateConditions_iff _ _ _ hmode] at hvalid
  obtain ⟨hwindow, -, haudience⟩ := hvalid
  refine ⟨_, hconditions, hwindow, ?_⟩
  intro audiences hmem
  obtain ⟨audience, haud, address, haddress, hequals⟩ := haudience audiences hmem
  exact ⟨audience, haud, address, (hallowed address).mp haddress, hequals⟩

/-- What an event shows of grants and their use. -/
def visible : Event → List (Authority.Event Saml2Assertion DateTime)
  | .issued i => [.granted i.token.assertion.onWire]
  | .served call _ => [.used call.assertion call.now]

/-- The grants are the assertions issued so far, as they are read. -/
structure Represents (settings : Settings) (im : IdentityModel) (issuances : List Issuance)
    (grants : Set Saml2Assertion) : Prop where
  sound : ∀ i ∈ issuances, i.Sound settings im
  mem_iff : ∀ assertion,
    assertion ∈ grants ↔ ∃ i ∈ issuances, i.token.assertion.onWire = assertion

/-- **The two programs follow the authority**: issuing a token grants its
assertion, and serving a call uses it. -/
theorem simulates_authority (hcopies : im.saml2.CopiesConditions im.newUri)
    (hchecks : im.saml2.ChecksByConfiguration) (hlifetime : im.service.ComputesLifetime)
    (hnone : Service.NoAudienceSettings idConfig)
    (hhost : Service.createServiceHost settings.service im idConfig = .ok settings.configuration) :
    (machine settings im).Simulates (Authority.machine (Good settings im))
      (Represents settings im) visible where
  step issuances grants action hrel := by
    have hidle : ∃ matching, Represents settings im issuances
        ((Authority.machine (Good settings im)).after grants matching) ∧
        (Authority.machine (Good settings im)).events grants matching = [] :=
      ⟨[], hrel, rfl⟩
    cases action with
    | issue cert request clock haddress =>
        simp only [machine]
        cases hissue : issueFor settings.sts im clock cert request with
        | error ex => exact hidle
        | ok token =>
            refine ⟨[.grant token.assertion.onWire], ⟨?_, ?_⟩, rfl⟩
            · intro i hmem
              rw [List.mem_append, List.mem_singleton] at hmem
              rcases hmem with hmem | rfl
              · exact hrel.sound i hmem
              · exact ⟨hissue, haddress⟩
            · intro assertion
              change assertion ∈ insert token.assertion.onWire grants ↔ _
              rw [Set.mem_insert_iff, hrel.mem_iff]
              simp only [List.mem_append, List.mem_singleton, or_and_right, exists_or,
                exists_eq_left, eq_comm (b := token.assertion.onWire)]
              exact or_comm
    | call call =>
        simp only [machine]
        split
        · next hpresented =>
            cases hserve : serve settings im call with
            | error ex => exact hidle
            | ok reply =>
                have hserved := served_of_serve hserve
                obtain ⟨i, hmem, heq⟩ := mem_of_served hserved hpresented
                have hgood := good_of_served hcopies hchecks hlifetime hnone hhost hserved
                  (hrel.sound i hmem) heq
                have huse := Authority.step_use_of_good
                  ((hrel.mem_iff _).mpr ⟨i, hmem, heq⟩) hgood
                refine ⟨[.use call.assertion call.now], ?_, ?_⟩
                · rw [Machine.after_cons, huse]
                  exact hrel
                · rw [Machine.events_cons, huse]
                  rfl
        · exact hidle

/-! ## Whole runs -/

/-- What an issuance that a call is served for comes down to: it was made for
one of the two users and for the address of the service, the call is within the
lifetime that is read of it, give or take the clock skew of the service, and that is
no longer than twenty minutes. -/
structure Entitles (settings : Settings) (im : IdentityModel) (i : Issuance) (now : DateTime) :
    Prop where
  sound : i.Sound settings im
  requestor : i.cert.thumbprint = settings.sts.aValidClientCertificate.thumbprint ∨
    i.cert.thumbprint = settings.sts.aValidOnBehalfOfCertificate.thumbprint
  relyingParty : ∃ appliesTo address, i.request.appliesTo = some appliesTo ∧
    Service.IsServiceAddress settings.service im address ∧
    address.equals appliesTo.uri.leftPart = true
  lifetime : ∃ created expires,
    i.token.assertion.onWire.conditions.bind (·.notBefore) = some created ∧
    i.token.assertion.onWire.conditions.bind (·.notOnOrAfter) = some expires ∧
    created ≤ now + settings.configuration.maxClockSkew ∧
    now < expires + settings.configuration.maxClockSkew ∧
    expires ≤ created + TimeSpan.fromMinutes 20

/-- The token service issues tokens to the two users only. -/
theorem Issuance.Sound.requestor {i : Issuance} (h : i.Sound settings im)
    (hbase : Sts.NoRequestorClaim im) :
    i.cert.thumbprint = settings.sts.aValidClientCertificate.thumbprint ∨
      i.cert.thumbprint = settings.sts.aValidOnBehalfOfCertificate.thumbprint := by
  have hissue := h.issueFor_eq
  simp only [issueFor, bind_eq_ok, Sts.validateToken_eq_ok_iff, Sts.issue_eq_ok_iff] at hissue
  obtain ⟨-, ⟨hvalid, validatedClaims, hclaims, rfl⟩, ⟨made⟩⟩ := hissue
  have hsts := made.requestor_ne
  rw [Sts.requestor_of_clientIdentity (hbase _ validatedClaims hclaims) made.requestor_eq] at hsts
  exact Sts.isUser_of_isValidThumbprint hvalid hsts

/-- No lifetime is read to be longer than the configured maximum. -/
theorem Issuance.Sound.short {i : Issuance} (h : i.Sound settings im)
    (hlifetime : im.service.ComputesLifetime) :
    (SecurityTokenService.expiresOf (Sts.wsTrustServiceConfiguration settings.sts im)
        i.clock.tokenLifetime i.request.lifetime).onWire ≤
      (SecurityTokenService.createdOf i.clock.tokenLifetime i.request.lifetime).onWire +
        TimeSpan.fromMinutes 20 := by
  have hissue := h.issueFor_eq
  simp only [issueFor, bind_eq_ok, Sts.issue_eq_ok_iff] at hissue
  obtain ⟨identities, -, ⟨made⟩⟩ := hissue
  have hshort := hlifetime.le_maximumTokenLifetime _ _ _ ⟨_, made.lifetime_eq⟩
  rw [← DateTime.onWire_add_fromMinutes]
  exact DateTime.onWire_le_onWire (Int.le_add_of_sub_left_le hshort)

theorem entitles_of_good (hcopies : im.saml2.CopiesConditions im.newUri)
    (hlifetime : im.service.ComputesLifetime) (hbase : Sts.NoRequestorClaim im) {i : Issuance}
    {now : DateTime} (hsound : i.Sound settings im)
    (hgood : Good settings im i.token.assertion.onWire now) : Entitles settings im i now := by
  obtain ⟨appliesTo, happ, hconditions⟩ := hsound.conditions_eq hcopies hlifetime
  obtain ⟨conditions, heq, ⟨hstart, hend⟩, haudience⟩ := hgood
  obtain rfl := Option.some.inj (hconditions.symm.trans heq)
  have hshort := hsound.short hlifetime
  have hcreated := hstart _ rfl
  have hexpires := hend _ rfl
  obtain ⟨audience, hmem, address, haddress, hequals⟩ := haudience _ List.mem_cons_self
  rw [List.mem_singleton] at hmem
  rw [hmem] at hequals
  refine ⟨hsound, hsound.requestor hbase, ⟨appliesTo, address, happ, haddress, hequals⟩, _, _, ?_,
    ?_, hcreated, Int.lt_add_of_sub_right_lt hexpires, hshort⟩
  · rw [hconditions]
    rfl
  · rw [hconditions]
    rfl

/-- **Access control across the two programs.** In every run of the token
service, the service and whoever is in between, a call is served only after the
assertion it carries was issued; and that was to the client or the on-behalf-of
user, for the address of the service, and for a lifetime of at most twenty
minutes, in which the call falls, give or take the clock skew. -/
theorem served_justified (hcopies : im.saml2.CopiesConditions im.newUri)
    (hchecks : im.saml2.ChecksByConfiguration) (hlifetime : im.service.ComputesLifetime)
    (hbase : Sts.NoRequestorClaim im) (hnone : Service.NoAudienceSettings idConfig)
    (hhost : Service.createServiceHost settings.service im idConfig = .ok settings.configuration)
    (actions : List (Action im)) {before rest : List Event} {call : Call} {reply : Service.Reply}
    (h : (machine settings im).events [] actions = before ++ .served call reply :: rest) :
    ∃ i, .issued i ∈ before ∧ i.token.assertion.onWire = call.assertion ∧
      Entitles settings im i call.now := by
  have hinitial : Represents settings im [] ∅ := ⟨by simp, by simp⟩
  have hjustified := (simulates_authority hcopies hchecks hlifetime hnone hhost).of_events hinitial
    Authority.justified_events actions
  rw [h, List.flatMap_append, List.flatMap_cons] at hjustified
  obtain ⟨hgranted, hgood⟩ := hjustified _ _ _ _ rfl
  obtain ⟨event, hmem, hvisible⟩ := List.mem_flatMap.mp hgranted
  cases event with
  | served call' reply' => simp [visible] at hvisible
  | issued i =>
      have heq : call.assertion = i.token.assertion.onWire := by simpa [visible] using hvisible
      have hissued : .issued i ∈ (machine settings im).events [] actions := by
        rw [h]
        exact List.mem_append_left _ hmem
      rw [heq] at hgood
      exact ⟨i, hmem, heq.symm,
        entitles_of_good hcopies hlifetime hbase (sound_of_mem_events hissued) hgood⟩

end Simulation

/-! ## What the service answers -/

/-- `ClaimTypes.Actor`. -/
def actorClaimType : String := "http://schemas.xmlsoap.org/ws/2009/09/identity/claims/actor"

/-- `CreateClaims` makes a claim of each value of an attribute, except for those
about the name, the authentication and the actor of the subject. -/
def CreatesClaims (base : Saml2SecurityTokenHandler) : Prop :=
  ∀ issuer nameId statements identity, base.createClaims issuer nameId statements = .ok identity →
    ∀ type ∉ actorClaimType :: notAttributes,
      (claimsOfType type identity.claims).map (·.value) = attributeValues type statements

section Reply

variable {settings : Settings} {im : IdentityModel}

/-- An issued identity has one privilege claim, that of the settings. -/
theorem claimsOfType_privileges_outputIdentity (constants : Sts.Constants) (utcNow : DateTime)
    (principal : ClaimsPrincipal) (thumbprint : String) (onBehalfOf : Option SecurityTokenElement)
    (bppValue : String) :
    claimsOfType Sts.privilegesIntermediate (Sts.outputIdentity constants im utcNow principal
        thumbprint onBehalfOf bppValue).claims =
      [{ type := Sts.privilegesIntermediate, value := bppValue }] := by
  have hnames : claimsOfType Sts.privilegesIntermediate
      (claimsOfType ClaimTypes.nameIdentifier principal.claims) = [] := by
    have hne : Sts.privilegesIntermediate ≠ ClaimTypes.nameIdentifier := by decide
    simp only [claimsOfType, List.filter_filter, List.filter_eq_nil_iff, Bool.and_eq_true,
      beq_iff_eq, not_and]
    intro claim _ htype
    rw [htype]
    exact hne
  have hselected : claimsOfType Sts.privilegesIntermediate
      (Sts.selectedClaims constants thumbprint onBehalfOf) = [] := by
    cases onBehalfOf with
    | some element => rfl
    | none =>
        rw [Sts.selectedClaims]
        split <;> split <;> rfl
  have hauthentication : claimsOfType Sts.privilegesIntermediate
      [Sts.authenticationInstantClaim im utcNow, Sts.authenticationMethodClaim] = [] := by
    have hinstant :
        (Sts.authenticationInstantClaim im utcNow).type ≠ Sts.privilegesIntermediate := by
      change ClaimTypes.authenticationInstant ≠ _
      decide
    have hmethod : Sts.authenticationMethodClaim.type ≠ Sts.privilegesIntermediate := by decide
    rw [claimsOfType_cons_of_ne hinstant, claimsOfType_cons_of_ne hmethod, claimsOfType_nil]
  simp only [Sts.outputIdentity, claimsOfType_append, hnames, hselected, hauthentication]
  rfl

/-- The privileges of an issued assertion are those of the settings. -/
theorem Issuance.Sound.privileges {i : Issuance} (h : i.Sound settings im)
    (hstates : im.saml2.StatesAttributes) :
    ∃ bppValue, settings.sts.bppValue = some bppValue ∧
      attributeValues Service.bppClaimType i.token.assertion.statements = [bppValue] := by
  have hissue := h.issueFor_eq
  simp only [issueFor, bind_eq_ok, Sts.issue_eq_ok_iff] at hissue
  obtain ⟨identities, -, ⟨made⟩⟩ := hissue
  refine ⟨made.bppValue, made.bppValue_eq, ?_⟩
  have hnot : Service.bppClaimType ∉ notAttributes := by decide
  rw [made.createdFrom.attributeValues_eq,
    hstates.attributeValues_eq _ _ made.createdFrom.statements_eq _ hnot]
  change (claimsOfType Sts.privilegesIntermediate (Sts.outputIdentity ..).claims).map _ = _
  rw [claimsOfType_privileges_outputIdentity]
  rfl

/-- The reply of the operation to a caller with one privilege claim. -/
theorem reply_of_privileges {call : Call} {reply : Service.Reply} {identity : ClaimsIdentity}
    {bppValue : String}
    (hclaims : (claimsOfType Service.bppClaimType identity.claims).map (·.value) = [bppValue])
    (h : Service.ping settings.responseMessage settings.contracts
      ⟨some ⟨[identity]⟩, call.messageId⟩ call.request = .ok reply) :
    ∃ groups json, settings.contracts.parse bppValue = .ok groups ∧
      settings.contracts.toJsonString groups = .ok json ∧
      reply = ⟨⟨settings.contracts.newFramework, call.request.messageToPing.getD "" ++
        ("MessageId: " ++ Service.textOf call.messageId ++ ".\nBpp: " ++ json)⟩,
        Service.insertWsAddressingMessageIdOnResponse⟩ := by
  obtain ⟨bpp, hbpp, rfl⟩ : ∃ bpp, firstClaim Service.bppClaimType identity.claims = some bpp ∧
      bpp.value = bppValue := by
    obtain ⟨bpp, hcons, hvalue⟩ := List.map_eq_singleton_iff.mp hclaims
    refine ⟨bpp, ?_, hvalue⟩
    rw [firstClaim_eq_head?, hcons]
    rfl
  simp only [Service.ping, Service.processBusinessLogic, ClaimsPrincipal.identity, deref_some,
    ok_bind, List.head?_cons, hbpp, bind_eq_ok, pure_eq_ok] at h
  obtain ⟨-, -, text, ⟨groups, hgroups, json, hjson, rfl⟩, rfl⟩ := h
  exact ⟨groups, json, hgroups, hjson, rfl⟩

/-- **The privileges go from the settings of the token service into the
reply.** In every run, the reply to a call that is served is made from the
message, its id and the privilege profile that the token service is configured
with: whoever calls, and on whoever's behalf, the reply is the same. -/
theorem reply_of_served (hstates : im.saml2.StatesAttributes) (hcreates : CreatesClaims im.saml2)
    (actions : List (Action im)) {call : Call} {reply : Service.Reply}
    (h : .served call reply ∈ (machine settings im).events [] actions) :
    ∃ bppValue groups json, settings.sts.bppValue = some bppValue ∧
      settings.contracts.parse bppValue = .ok groups ∧
      settings.contracts.toJsonString groups = .ok json ∧
      reply = ⟨⟨settings.contracts.newFramework, call.request.messageToPing.getD "" ++
        ("MessageId: " ++ Service.textOf call.messageId ++ ".\nBpp: " ++ json)⟩,
        Service.insertWsAddressingMessageIdOnResponse⟩ := by
  obtain ⟨hserved, i, hsound, heq⟩ := sound_of_mem_events h
  obtain ⟨issuer, nameId, identity, hclaims, hping⟩ := hserved.answered
  obtain ⟨bppValue, hbpp, hvalues⟩ := hsound.privileges hstates
  have hcreated := hcreates _ _ _ _ hclaims Service.bppClaimType (by decide)
  rw [← heq, Saml2Assertion.statements_onWire, hvalues] at hcreated
  obtain ⟨groups, json, hgroups, hjson, hreply⟩ := reply_of_privileges hcreated hping
  exact ⟨bppValue, groups, json, hbpp, hgroups, hjson, hreply⟩

end Reply

/-! ### A run with one issued token -/

/-- The values of an attribute are those of its claims. -/
theorem values_flatMap_attributes (type : String) (attributes : List Saml2Attribute) :
    (claimsOfType type (attributes.flatMap fun a =>
        a.values.map fun v => ({ type := a.name, value := v } : Claim))).map (·.value) =
      valuesOf type attributes := by
  induction attributes with
  | nil => rfl
  | cons a attributes ih =>
      rw [List.flatMap_cons, claimsOfType_append, List.map_append, ih, valuesOf_cons]
      by_cases hname : a.name = type
      · have hall : claimsOfType type
            (a.values.map fun v => ({ type := a.name, value := v } : Claim)) =
            a.values.map fun v => { type := a.name, value := v } := by
          simp [claimsOfType, hname]
        rw [if_pos hname, hall, List.map_map]
        congr 1
        exact List.map_id' a.values
      · have hnone : claimsOfType type
            (a.values.map fun v => ({ type := a.name, value := v } : Claim)) = [] := by
          simp [claimsOfType, hname]
        rw [if_neg hname, hnone]
        rfl

theorem createsClaims_documented : CreatesClaims Documented.saml2 := by
  intro issuer nameId statements identity h type htype
  obtain rfl := Except.ok.inj h
  clear h
  have hne : type ≠ ClaimTypes.nameIdentifier := by
    rintro rfl
    exact htype (by decide)
  have hname : claimsOfType type (nameId.toList.map fun n =>
      ({ type := ClaimTypes.nameIdentifier, value := n.value } : Claim)) = [] := by
    simp [claimsOfType, hne.symm]
  simp only [claimsOfType_append, hname, List.nil_append]
  induction statements with
  | nil => rfl
  | cons statement statements ih =>
      rw [List.flatMap_cons, claimsOfType_append, List.map_append, ih]
      cases statement with
      | attributeStatement attributes =>
          rw [values_flatMap_attributes]
          rfl
      | other kind => rfl

def sampleConfiguration : SecurityTokenHandlerConfiguration where
  allowedAudienceUris := [⟨Service.sampleConstants.serviceAddress⟩,
    ⟨Service.sampleConstants.serviceAddress ++ "/"⟩]
  trustedIssuers := [(Service.sampleConstants.stsSigningCertificate.thumbprint, "CN=STS")]

def sampleSettings : Settings where
  sts := Sts.sampleConstants
  service := Service.sampleConstants
  configuration := sampleConfiguration
  responseMessage := none
  contracts := Service.sampleContracts

theorem createServiceHost_sample :
    Service.createServiceHost sampleSettings.service Documented.identityModel {} =
      .ok sampleSettings.configuration := by decide

theorem addressIsUri_serviceRequest :
    Sts.AddressIsUri Documented.identityModel Service.serviceRequest := by
  intro appliesTo h
  cases h
  exact ⟨by decide, by decide⟩

/-- The token that the client is issued. -/
def sampleToken : Saml2SecurityToken :=
  match issueFor Sts.sampleConstants Documented.identityModel ⟨0, 0, 0⟩
    Sts.sampleConstants.aValidClientCertificate Service.serviceRequest with
  | .ok token => token
  | .error _ => Service.expiredToken

def sampleIssuance : Issuance :=
  ⟨Sts.sampleConstants.aValidClientCertificate, Service.serviceRequest, ⟨0, 0, 0⟩, sampleToken⟩

/-- A call with that token, at the instant it was issued. -/
def sampleCall : Call where
  assertion := sampleToken.assertion.onWire
  now := 0
  messageId := none
  request := ⟨some ⟨some Service.basicProfile⟩, some "Hello"⟩

/-- The client has a token issued, and calls the service with it. -/
def sampleActions : List (Action Documented.identityModel) :=
  [.issue Sts.sampleConstants.aValidClientCertificate Service.serviceRequest ⟨0, 0, 0⟩
      addressIsUri_serviceRequest,
    .call sampleCall]

/-- The call is served. -/
theorem events_sampleActions :
    ∃ reply, (machine sampleSettings Documented.identityModel).events [] sampleActions =
      [.issued sampleIssuance] ++ .served sampleCall reply :: [] := by
  have hissue : issueFor sampleSettings.sts Documented.identityModel ⟨0, 0, 0⟩
      Sts.sampleConstants.aValidClientCertificate Service.serviceRequest = .ok sampleToken := by
    decide
  have hpresented : canBePresented sampleSettings Documented.identityModel [sampleIssuance]
      sampleCall.assertion = true := by
    decide
  obtain ⟨reply, hserve⟩ : Returns (serve sampleSettings Documented.identityModel sampleCall) := by
    decide
  refine ⟨reply, ?_⟩
  simp only [sampleActions, Machine.events_cons, Machine.events_nil, machine, hissue]
  change _ ++ ((if canBePresented _ _ [sampleIssuance] _ then _ else _ : _ × _).2 ++ _) = _
  rw [if_pos hpresented, hserve]
  rfl

theorem served_justified_sample :
    ∃ i reply, (machine sampleSettings Documented.identityModel).events [] sampleActions =
        [.issued i] ++ .served sampleCall reply :: [] ∧
      Entitles sampleSettings Documented.identityModel i 0 := by
  obtain ⟨reply, h⟩ := events_sampleActions
  obtain ⟨i, hmem, -, hentitles⟩ := served_justified Documented.copiesConditions
    Documented.checksByConfiguration Documented.computesLifetime Sts.noRequestorClaim_documented
    ⟨rfl, rfl⟩ createServiceHost_sample sampleActions h
  obtain rfl : i = sampleIssuance := by simpa using hmem
  exact ⟨_, reply, h, hentitles⟩

theorem reply_of_served_sample :
    ∃ reply, Event.served sampleCall reply ∈
        (machine sampleSettings Documented.identityModel).events [] sampleActions ∧
      reply.response.messageToResponse = "HelloMessageId: .\nBpp: []" := by
  obtain ⟨reply, h⟩ := events_sampleActions
  have hmem : Event.served sampleCall reply ∈
      (machine sampleSettings Documented.identityModel).events [] sampleActions := by
    rw [h]
    exact List.mem_append_right _ List.mem_cons_self
  obtain ⟨bppValue, groups, json, -, -, hjson, rfl⟩ :=
    reply_of_served Documented.statesAttributes createsClaims_documented _ hmem
  obtain rfl : json = "[]" := (Except.ok.inj hjson).symm
  refine ⟨_, hmem, ?_⟩
  decide

end KombitSamples.Federation
