import KombitSamples.Sts.Constants

/-!
# KombitSamples.Consumer.ConnectionHelper

The channel of the consumer to the token service, and the inspector that logs
and modifies the messages on their way.

The modifier of a channel is given to the inspector only, and the inspector is
there only when messages are logged.

* `send_generated` — what such a channel hands on for sending;
* `modifiedAlike_iff` — when that does not depend on the log.
-/

namespace KombitSamples.Consumer

open Fallible

/-! ## Logging and modifying -/

/-- What the log is written with: the text of a message, `Message.ToString`, and
`File.WriteAllText`. -/
structure SoapMessageLog (Message : Type) where
  toText : Message → String
  writeAllText : String → String → Except Exception Unit

/-- `Func<Message, Message>`. -/
abbrev MessageFunc (Message : Type) := Message → Except Exception Message

structure LogStsMessageClientMessageInspector (Message : Type) where
  messesagModifier : Option (MessageFunc Message)
  receivedSoapMessageLogFile : String

namespace LogStsMessageClientMessageInspector

variable {Message : Type}

/-- The constructor, with the setting `SoapMessageLogLocation`. -/
def create (soapMessageLogLocation : Option String)
    (messesagModifier : Option (MessageFunc Message)) :
    LogStsMessageClientMessageInspector Message where
  messesagModifier := messesagModifier
  receivedSoapMessageLogFile := soapMessageLogLocation.getD "c:\\Temp\\"

/-- Where the request is logged. -/
def path (inspector : LogStsMessageClientMessageInspector Message) : String :=
  inspector.receivedSoapMessageLogFile ++ "Kombit.Consumer.SentRequestToSTS.xml"

/-- Where the modified request is logged. -/
def path1 (inspector : LogStsMessageClientMessageInspector Message) : String :=
  inspector.receivedSoapMessageLogFile ++ "Kombit.Consumer.SentRequestToSTS-modified.xml"

/-- `BeforeSendRequest`, with the request that it leaves. -/
def beforeSendRequest (log : SoapMessageLog Message)
    (inspector : LogStsMessageClientMessageInspector Message) (request : Message) :
    Except Exception Message := do
  log.writeAllText inspector.path (log.toText request)
  match inspector.messesagModifier with
  | none => pure request
  | some messesagModifier => do
      let request ← messesagModifier request
      log.writeAllText inspector.path1 (log.toText request)
      pure request

end LogStsMessageClientMessageInspector

/-! ## The channel -/

/-- The settings of the consumer that a channel is built from. -/
structure Constants where
  stsCertificateEndpointUri : Uri
  stsServiceEndpointIdentity : String
  headerSigningAlgorithm : Sts.SigningAlgorithmMethod := .sha256
  stsServiceCertificate : X509Certificate2
  enableSoapMessageLog : Bool
  soapMessageLogLocation : Option String := none

structure EndpointAddress where
  uri : Uri
  dnsIdentity : String

/-- `MutualCertificateWithMessageSecurityBinding`; the factory makes its element
for the encoding of messages. -/
structure MessageSecurityBinding (Encoding : Type) where
  signingAlgorithm : Sts.SigningAlgorithmMethod
  messageEncodingElementFactory : Option (Unit → Encoding)
  /-- `LocalClientSettings.TimestampValidityDuration`, where it is set. -/
  timestampValidityDuration : Option TimeSpan := none

inductive TrustVersion where
  | wsTrustFeb2005
  | wsTrust13

inductive ProtectionLevel where
  | none
  | sign
  | encryptAndSign

inductive X509CertificateValidationMode where
  | none
  | peerTrust
  | chainTrust
  | peerOrChainTrust
  | custom

inductive X509RevocationMode where
  | noCheck
  | online
  | offline

structure ClientCredentials where
  clientCertificate : X509Certificate2
  scopedCertificates : List (Uri × X509Certificate2)
  certificateValidationMode : X509CertificateValidationMode
  revocationMode : X509RevocationMode

/-- The endpoint behaviours of the consumer. -/
inductive EndpointBehavior (Message : Type) where
  | hookLogStsMessageBehavior (messesagModifier : Option (MessageFunc Message))

structure WSTrustChannelFactory (Message Encoding : Type) where
  binding : MessageSecurityBinding Encoding
  address : EndpointAddress
  trustVersion : TrustVersion
  credentials : ClientCredentials
  protectionLevel : ProtectionLevel
  behaviors : List (EndpointBehavior Message) := []

/-- A channel, with the inspectors of its client runtime. -/
structure WSTrustChannel (Message Encoding : Type) where
  factory : WSTrustChannelFactory Message Encoding
  messageInspectors : List (LogStsMessageClientMessageInspector Message)

section Channel

variable {Message Encoding : Type}

/-- `ApplyClientBehavior`: the inspectors of the client runtime after it. -/
def applyClientBehavior (constants : Constants)
    (messageInspectors : List (LogStsMessageClientMessageInspector Message)) :
    EndpointBehavior Message → List (LogStsMessageClientMessageInspector Message)
  | .hookLogStsMessageBehavior messesagModifier =>
      messageInspectors ++ [.create constants.soapMessageLogLocation messesagModifier]

/-- `CreateChannel`: the client runtime is built from the behaviours. -/
def createChannel (constants : Constants) (factory : WSTrustChannelFactory Message Encoding) :
    WSTrustChannel Message Encoding where
  factory := factory
  messageInspectors := factory.behaviors.foldl (applyClientBehavior constants) []

/-- The message that a channel hands on for sending: the inspectors see it one
after the other. -/
def WSTrustChannel.send (channel : WSTrustChannel Message Encoding) (log : SoapMessageLog Message)
    (request : Message) : Except Exception Message :=
  channel.messageInspectors.foldlM
    (fun request inspector => inspector.beforeSendRequest log request) request

/-- `GenerateStsCertificateClientChannel`. -/
def generateStsCertificateClientChannel (constants : Constants)
    (clientCertificate : X509Certificate2) (messesagModifier : Option (MessageFunc Message))
    (messageEncodingElementFactory : Option (Unit → Encoding)) (timestampDuration : Int) :
    WSTrustChannel Message Encoding :=
  let stsAddress : EndpointAddress :=
    ⟨constants.stsCertificateEndpointUri, constants.stsServiceEndpointIdentity⟩
  let binding : MessageSecurityBinding Encoding :=
    { signingAlgorithm := constants.headerSigningAlgorithm
      messageEncodingElementFactory := messageEncodingElementFactory }
  let binding :=
    if 0 < timestampDuration then
      { binding with timestampValidityDuration := some (TimeSpan.fromSeconds timestampDuration) }
    else binding
  let factory : WSTrustChannelFactory Message Encoding :=
    { binding := binding
      address := stsAddress
      trustVersion := .wsTrust13
      credentials := {
        clientCertificate := clientCertificate
        scopedCertificates := [(stsAddress.uri, constants.stsServiceCertificate)]
        certificateValidationMode := .none
        revocationMode := .noCheck }
      protectionLevel := .sign }
  let factory :=
    if constants.enableSoapMessageLog then
      { factory with
        behaviors := factory.behaviors ++ [.hookLogStsMessageBehavior messesagModifier] }
    else factory
  createChannel constants factory

/-! ## What is sent -/

/-- The request with the modifier applied, if there is one. -/
def modified (messesagModifier : Option (MessageFunc Message)) (request : Message) :
    Except Exception Message :=
  match messesagModifier with
  | none => .ok request
  | some messesagModifier => messesagModifier request

variable {constants : Constants} {clientCertificate : X509Certificate2}
  {messesagModifier : Option (MessageFunc Message)}
  {messageEncodingElementFactory : Option (Unit → Encoding)} {timestampDuration : Int}
  {log : SoapMessageLog Message} {request : Message}

/-- The channel hands on what its inspector leaves, when messages are logged,
and the request itself when they are not. -/
theorem send_generated :
    (generateStsCertificateClientChannel constants clientCertificate messesagModifier
        messageEncodingElementFactory timestampDuration).send log request =
      if constants.enableSoapMessageLog then
        (LogStsMessageClientMessageInspector.create constants.soapMessageLogLocation
          messesagModifier).beforeSendRequest log request
      else .ok request := by
  cases hlog : constants.enableSoapMessageLog with
  | true =>
      simp [generateStsCertificateClientChannel, createChannel, applyClientBehavior,
        WSTrustChannel.send, hlog]
  | false =>
      simp [generateStsCertificateClientChannel, createChannel, WSTrustChannel.send, hlog, pure,
        Except.pure]

/-- What an inspector leaves: the request with the modifier applied, when both
can be logged. -/
theorem beforeSendRequest_eq_ok_iff {inspector : LogStsMessageClientMessageInspector Message}
    {request' : Message} :
    inspector.beforeSendRequest log request = .ok request' ↔
      modified inspector.messesagModifier request = .ok request' ∧
        Returns (log.writeAllText inspector.path (log.toText request)) ∧
        (inspector.messesagModifier ≠ none →
          Returns (log.writeAllText inspector.path1 (log.toText request'))) := by
  cases hmodifier : inspector.messesagModifier with
  | none =>
      simp only [LogStsMessageClientMessageInspector.beforeSendRequest, hmodifier, bind_eq_ok,
        pure_eq_ok, modified, Except.ok.injEq, ne_eq, not_true_eq_false, false_implies, and_true,
        exists_and_right]
      exact and_comm
  | some messesagModifier =>
      simp only [LogStsMessageClientMessageInspector.beforeSendRequest, hmodifier, bind_eq_ok,
        pure_eq_ok, modified, ne_eq, reduceCtorEq, not_false_eq_true, true_implies]
      constructor
      · intro h
        obtain ⟨_, hlog, _, hmodified, _, hlog1, rfl⟩ := h
        exact ⟨hmodified, ⟨_, hlog⟩, ⟨_, hlog1⟩⟩
      · intro h
        obtain ⟨hmodified, ⟨_, hlog⟩, ⟨_, hlog1⟩⟩ := h
        exact ⟨_, hlog, _, hmodified, _, hlog1, rfl⟩

/-- The request can be logged, also in the place of the modified one. -/
structure Loggable (constants : Constants) (messesagModifier : Option (MessageFunc Message))
    (log : SoapMessageLog Message) (request : Message) : Prop where
  sent : Returns (log.writeAllText (LogStsMessageClientMessageInspector.create
    constants.soapMessageLogLocation messesagModifier).path (log.toText request))
  modified : messesagModifier ≠ none →
    Returns (log.writeAllText (LogStsMessageClientMessageInspector.create
      constants.soapMessageLogLocation messesagModifier).path1 (log.toText request))

/-- Whether messages are logged or not, the channel hands on the request with
the modifier applied. -/
def ModifiedAlike (constants : Constants) (clientCertificate : X509Certificate2)
    (messesagModifier : Option (MessageFunc Message))
    (messageEncodingElementFactory : Option (Unit → Encoding)) (timestampDuration : Int)
    (log : SoapMessageLog Message) (request : Message) : Prop :=
  ∀ enableSoapMessageLog,
    (generateStsCertificateClientChannel
      { constants with enableSoapMessageLog := enableSoapMessageLog } clientCertificate
      messesagModifier messageEncodingElementFactory timestampDuration).send log request =
    modified messesagModifier request

/-- **Independence of the log.** The channel hands on the request with the
modifier applied, logged or not, exactly when the modifier changes nothing and
the request can be logged. -/
theorem modifiedAlike_iff :
    ModifiedAlike constants clientCertificate messesagModifier messageEncodingElementFactory
        timestampDuration log request ↔
      modified messesagModifier request = .ok request ∧
        Loggable constants messesagModifier log request := by
  unfold ModifiedAlike
  simp only [send_generated]
  constructor
  · intro h
    have hsame := (h false).symm
    have hlogged := h true
    rw [hsame, if_pos rfl, if_neg Bool.false_ne_true, beforeSendRequest_eq_ok_iff] at hlogged
    exact ⟨hsame, ⟨hlogged.2.1, hlogged.2.2⟩⟩
  · intro h enableSoapMessageLog
    obtain ⟨hsame, hlog, hlog1⟩ := h
    rw [hsame]
    cases enableSoapMessageLog with
    | true => exact beforeSendRequest_eq_ok_iff.mpr ⟨hsame, hlog, hlog1⟩
    | false => rfl

end Channel

/-- A log that takes everything. -/
def anyLog : SoapMessageLog String where
  toText := id
  writeAllText _ _ := .ok ()

/-- The settings of the consumer, with a log. -/
def sampleConstants : Constants where
  stsCertificateEndpointUri := ⟨"https://adgangsstyring.test-stoettesystemerne.dk/" ++
    "runtime/services/kombittrust/14/certificatemixed"⟩
  stsServiceEndpointIdentity := "KOMBIT"
  stsServiceCertificate := { thumbprint := "01699B6C50396AC060C8AE9BC3D4B343C9B57EB1" }
  enableSoapMessageLog := true
  soapMessageLogLocation := some "c:\\Temp\\"

/-- A modifier that empties the request is not applied where no messages are
logged. -/
theorem modifiedAlike_emptied_fails :
    ¬ ModifiedAlike sampleConstants { thumbprint := "21AD7D2D4280765BFE113B7DD5D62736C34E37BD" }
      (some fun _ => .ok "<trust:RequestSecurityToken />") (none : Option (Unit → Unit)) 0 anyLog
      "<trust:RequestSecurityToken><wsp:AppliesTo /></trust:RequestSecurityToken>" := by
  intro h
  have hoff := h false
  rw [send_generated, if_neg Bool.false_ne_true] at hoff
  exact absurd (Except.ok.inj hoff) (by decide)

end KombitSamples.Consumer
