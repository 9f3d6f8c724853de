import KombitSamples.Platform
import KombitSamples.Trace

/-!
# KombitSamples.Service.Service

The service that tokens are issued for.  `ping` answers a request with a
message, and gives the response a message id.

The message contracts and the parser of privilege groups come from a package;
the code's use of them is the parameter `Contracts`.

`nodup_messageIds_iff` — when the responses of a run have distinct ids.
-/

namespace KombitSamples.Service

open Fallible

/-! ## Messages -/

structure LibertyFrameworkHeader where
  profile : Option String
deriving DecidableEq, Repr

structure Ping where
  framework : Option LibertyFrameworkHeader
  messageToPing : Option String
deriving DecidableEq, Repr

structure PingResponse where
  framework : LibertyFrameworkHeader
  messageToResponse : String
deriving DecidableEq, Repr

/-- `System.Guid`. -/
abbrev Guid := BitVec 128

namespace Guid

/-- `new Guid()`: all zero. -/
def zero : Guid := 0

def hexDigit (n : Nat) : Char := "0123456789abcdef".toList.getD n '0'

/-- The `count` hexadecimal digits after the first `start` of them. -/
def digits (guid : Guid) (start count : Nat) : String :=
  String.ofList
    ((List.range' start count).map fun i => hexDigit ((guid.toNat >>> (4 * (31 - i))) % 16))

/-- `ToString()`: the digits, in groups of 8, 4, 4, 4 and 12. -/
def toText (guid : Guid) : String :=
  guid.digits 0 8 ++ "-" ++ guid.digits 8 4 ++ "-" ++ guid.digits 12 4 ++ "-" ++
    guid.digits 16 4 ++ "-" ++ guid.digits 20 12

example : zero.toText = "00000000-0000-0000-0000-000000000000" := by decide

end Guid

/-- `System.Xml.UniqueId`, held as its text. -/
structure UniqueId where
  text : String
deriving DecidableEq, Repr

/-- `new UniqueId(guid)`. -/
def UniqueId.ofGuid (guid : Guid) : UniqueId := ⟨"urn:uuid:" ++ guid.toText⟩

/-- What the code reads of `OperationContext.Current`. -/
structure OperationContext where
  claimsPrincipal : Option ClaimsPrincipal
  /-- The message id of the request, null when it has none. -/
  messageId : Option UniqueId := none
deriving DecidableEq, Repr

/-- A response, and the message id among its outgoing headers. -/
structure Reply where
  response : PingResponse
  messageId : UniqueId
deriving DecidableEq, Repr

/-! ## Ping -/

structure Contracts where
  /-- `new LibertyFrameworkHeader()`. -/
  newFramework : LibertyFrameworkHeader
  PrivilegeGroup : Type
  /-- `PrivilegeGroupParser.Parse`. -/
  parse : String → Except Exception (List PrivilegeGroup)
  /-- `PrivilegeGroupParser.ToJsonString`. -/
  toJsonString : List PrivilegeGroup → Except Exception String

def frameworkFault (reason : String) : Exception := .fault reason "FrameworkVersionMismatch"

def basicProfile : String := "urn:liberty:sb:profile:basic"

def validateLibertyFrameworkHeader (framework : Option LibertyFrameworkHeader) :
    Except Exception Unit := do
  let framework ← deref (frameworkFault "Missing frameworkheader") framework
  ensure (frameworkFault "Wrong profile") (framework.profile == some basicProfile)

def bppClaimType : String := "dk:gov:saml:attribute:Privileges_intermediate"

/-- The text of a reference in a composite format, empty when it is null. -/
def textOf : Option UniqueId → String
  | some id => id.text
  | none => ""

/-- `ProcessBusinessLogic`; `responseMessage` is the setting of that name.  A
null string counts as an empty one when it is appended. -/
def processBusinessLogic (responseMessage : Option String) (contracts : Contracts)
    (context : OperationContext) (messageToPing : Option String) : Except Exception String := do
  let principal ← deref .nullReference context.claimsPrincipal
  let identity ← deref .nullReference principal.identity
  match firstClaim bppClaimType identity.claims with
  | none => pure (messageToPing.getD "" ++ responseMessage.getD "")
  | some bpp =>
      let bppGroupList ← contracts.parse bpp.value
      let json ← contracts.toJsonString bppGroupList
      pure (messageToPing.getD "" ++
        ("MessageId: " ++ textOf context.messageId ++ ".\nBpp: " ++ json))

/-- `InsertWsAddressingMessageIdOnResponse`. -/
def insertWsAddressingMessageIdOnResponse : UniqueId := .ofGuid Guid.zero

/-- `Ping`. -/
def ping (responseMessage : Option String) (contracts : Contracts) (context : OperationContext)
    (pingRequest : Ping) : Except Exception Reply := do
  validateLibertyFrameworkHeader pingRequest.framework
  let businessResponse ←
    processBusinessLogic responseMessage contracts context pingRequest.messageToPing
  pure {
    response := {
      framework := contracts.newFramework
      messageToResponse := businessResponse }
    messageId := insertWsAddressingMessageIdOnResponse }

/-! ## Which calls succeed -/

/-- A call of the service: a request in its context. -/
structure Call where
  context : OperationContext
  request : Ping
deriving DecidableEq, Repr

/-- A call with the basic profile, by a caller with an identity, whose
privileges can be read if it has any. -/
structure Accepted (contracts : Contracts) (call : Call) : Prop where
  framework : ∃ framework, call.request.framework = some framework ∧
    framework.profile = some basicProfile
  identity : ∃ principal identity, call.context.claimsPrincipal = some principal ∧
    principal.identity = some identity ∧
    ∀ bpp, firstClaim bppClaimType identity.claims = some bpp →
      ∃ groups, contracts.parse bpp.value = .ok groups ∧ Returns (contracts.toJsonString groups)

section Calls

variable {responseMessage : Option String} {contracts : Contracts}

theorem returns_processBusinessLogic_iff {context : OperationContext}
    {messageToPing : Option String} :
    Returns (processBusinessLogic responseMessage contracts context messageToPing) ↔
      ∃ principal identity, context.claimsPrincipal = some principal ∧
        principal.identity = some identity ∧
        ∀ bpp, firstClaim bppClaimType identity.claims = some bpp →
          ∃ groups, contracts.parse bpp.value = .ok groups ∧
            Returns (contracts.toJsonString groups) := by
  simp only [processBusinessLogic, returns_bind, deref_eq_ok]
  constructor
  · intro h
    obtain ⟨principal, hprincipal, identity, hidentity, hrest⟩ := h
    refine ⟨principal, identity, hprincipal, hidentity, fun bpp hbpp => ?_⟩
    simp only [hbpp, returns_bind] at hrest
    obtain ⟨groups, hgroups, json, hjson, -⟩ := hrest
    exact ⟨groups, hgroups, json, hjson⟩
  · intro h
    obtain ⟨principal, identity, hprincipal, hidentity, hbpp⟩ := h
    refine ⟨principal, hprincipal, identity, hidentity, ?_⟩
    cases hclaim : firstClaim bppClaimType identity.claims with
    | none => exact returns_pure _
    | some bpp =>
        obtain ⟨groups, hgroups, json, hjson⟩ := hbpp bpp hclaim
        simp only [returns_bind]
        exact ⟨groups, hgroups, json, hjson, returns_pure _⟩

theorem returns_validateLibertyFrameworkHeader_iff {framework : Option LibertyFrameworkHeader} :
    Returns (validateLibertyFrameworkHeader framework) ↔
      ∃ header, framework = some header ∧ header.profile = some basicProfile := by
  simp only [validateLibertyFrameworkHeader, returns_bind, deref_eq_ok]
  simp only [Returns, ensure_eq_ok, beq_iff_eq, exists_const]

/-- An accepted call is answered, with the one id that every response gets. -/
theorem ping_of_accepted (responseMessage : Option String) {call : Call}
    (h : Accepted contracts call) :
    ∃ response, ping responseMessage contracts call.context call.request =
      .ok ⟨response, insertWsAddressingMessageIdOnResponse⟩ := by
  obtain ⟨u, hframework⟩ := returns_validateLibertyFrameworkHeader_iff.mpr h.framework
  have hbusiness : Returns (processBusinessLogic responseMessage contracts call.context
      call.request.messageToPing) := returns_processBusinessLogic_iff.mpr h.identity
  obtain ⟨text, htext⟩ := hbusiness
  exact ⟨⟨contracts.newFramework, text⟩, by simp [ping, hframework, htext, pure, Except.pure]⟩

/-- Only an accepted call is answered. -/
theorem accepted_of_ping {call : Call} {reply : Reply}
    (h : ping responseMessage contracts call.context call.request = .ok reply) :
    Accepted contracts call := by
  simp only [ping, bind_eq_ok] at h
  obtain ⟨u, hframework, text, htext, -⟩ := h
  exact ⟨returns_validateLibertyFrameworkHeader_iff.mp ⟨u, hframework⟩,
    returns_processBusinessLogic_iff.mp ⟨text, htext⟩⟩

end Calls

/-! ## Runs of the service -/

/-- The service keeps nothing from one call to the next.  The events of a run
are the message ids of its responses. -/
def machine (responseMessage : Option String) (contracts : Contracts) :
    Trace.Machine Unit Call UniqueId where
  step _ call :=
    match ping responseMessage contracts call.context call.request with
    | .ok reply => ((), [reply.messageId])
    | .error _ => ((), [])

/-- The message ids of the responses to a list of calls. -/
def messageIds (responseMessage : Option String) (contracts : Contracts) (calls : List Call) :
    List UniqueId :=
  (machine responseMessage contracts).events () calls

section Runs

variable {responseMessage : Option String} {contracts : Contracts}

@[simp] theorem messageIds_nil : messageIds responseMessage contracts [] = [] := rfl

theorem messageIds_cons_of_accepted {call : Call} (h : Accepted contracts call)
    (calls : List Call) :
    messageIds responseMessage contracts (call :: calls) =
      insertWsAddressingMessageIdOnResponse :: messageIds responseMessage contracts calls := by
  obtain ⟨response, hping⟩ := ping_of_accepted responseMessage h
  simp [messageIds, Trace.Machine.events_cons, machine, hping]

theorem messageIds_cons_of_not_accepted {call : Call} (h : ¬ Accepted contracts call)
    (calls : List Call) :
    messageIds responseMessage contracts (call :: calls) =
      messageIds responseMessage contracts calls := by
  cases hping : ping responseMessage contracts call.context call.request with
  | ok reply => exact absurd (accepted_of_ping hping) h
  | error ex => simp [messageIds, Trace.Machine.events_cons, machine, hping]

/-- Every response of a run has the same id. -/
theorem mem_messageIds_iff {id : UniqueId} {calls : List Call} :
    id ∈ messageIds responseMessage contracts calls ↔
      id = insertWsAddressingMessageIdOnResponse ∧ ∃ call ∈ calls, Accepted contracts call := by
  induction calls with
  | nil => simp
  | cons call calls ih =>
      by_cases h : Accepted contracts call
      · rw [messageIds_cons_of_accepted h, List.mem_cons, ih]
        simp only [List.mem_cons, exists_eq_or_imp, h, true_or, and_true]
        exact ⟨fun hid => hid.elim (fun heq => heq) And.left, Or.inl⟩
      · rw [messageIds_cons_of_not_accepted h, ih]
        simp [h]

/-- **Message ids.** The responses of a run have distinct message ids exactly
when no two of its calls are accepted: the id is made from `new Guid()`, which
is always zero. -/
theorem nodup_messageIds_iff (responseMessage : Option String) (contracts : Contracts)
    (calls : List Call) :
    (messageIds responseMessage contracts calls).Nodup ↔
      calls.Pairwise fun call call' => ¬ (Accepted contracts call ∧ Accepted contracts call') := by
  induction calls with
  | nil => simp
  | cons call calls ih =>
      rw [List.pairwise_cons]
      by_cases h : Accepted contracts call
      · rw [messageIds_cons_of_accepted h, List.nodup_cons, mem_messageIds_iff, ih]
        simp [h]
      · rw [messageIds_cons_of_not_accepted h, ih]
        simp [h]

end Runs

def sampleContracts : Contracts where
  newFramework := ⟨some basicProfile⟩
  PrivilegeGroup := Unit
  parse _ := .ok []
  toJsonString _ := .ok "[]"

def sampleCall : Call where
  context := { claimsPrincipal := some ⟨[{ authenticationType := "Federation" }]⟩ }
  request := ⟨some ⟨some basicProfile⟩, some "Hello"⟩

/-- Two calls are answered with one message id. -/
theorem messageIds_repeated :
    ¬ (messageIds (some "Congratulations!") sampleContracts [sampleCall, sampleCall]).Nodup := by
  have hids : messageIds (some "Congratulations!") sampleContracts [sampleCall, sampleCall] =
      [.ofGuid Guid.zero, .ofGuid Guid.zero] := rfl
  rw [hids]
  simp

end KombitSamples.Service
