import KombitSamples.Rest.DemoController
import KombitSamples.Trace

/-!
# KombitSamples.Rest.Host

The REST API in its web host.

The host takes requests through the message handler, the authorization
filter and the action.  Any number of requests are under way at a time; their
steps interleave in any order and on any threads, and threads are used again.
Each request has an `HttpContext` of its own, whose user the host sets to a
principal that is not authenticated, and from which the filter reads the
principal.

A run is read from the actions that the host did: `Handled` is the receipt of a
request and the first pass of the message handler over it.
-/

namespace KombitSamples.Rest

open Fallible Trace

/-! ## The host -/

/-- How far a request has got. -/
inductive Stage where
  | received
  | forwarded
  | authorized
  | done (result : Except Exception HttpResponseMessage)

structure Exchange where
  request : HttpRequestMessage
  context : HttpContext
  stage : Stage

/-- `Thread.CurrentPrincipal` of every thread, and the requests under way. -/
structure Host where
  threads : Nat → Option ClaimsPrincipal
  exchanges : List Exchange

/-- A principal that is not authenticated, or none. -/
def NotAuthenticated (user : Option ClaimsPrincipal) : Prop :=
  ∀ principal identity, user = some principal → principal.identity = some identity →
    identity.isAuthenticated = false

/-- What the host does next. -/
inductive Action where
  /-- Take in a request, with the user it starts out with. -/
  | receive (request : HttpRequestMessage) (user : Option ClaimsPrincipal)
      (notAuthenticated : NotAuthenticated user)
  /-- Run the message handler on a thread; `HttpContext.Current` is null
  there unless `hasContext`. -/
  | sendAsync (index thread : Nat) (hasContext : Bool) (now : DateTime)
  | onAuthorization (index : Nat)
  | ping (index : Nat)

/-- The action `Ping` ran for a request, the one at an index. -/
structure Served where
  index : Nat
  request : HttpRequestMessage
deriving DecidableEq, Repr

/-- The surroundings of a request on a thread. -/
def ambientOf (host : Host) (thread : Nat) (hasContext : Bool) (context : HttpContext) :
    Ambient where
  currentPrincipal := host.threads thread
  current := if hasContext then some context else none

/-- The stage that the message handler takes a request to. -/
def stageOfSendAsync : Except Exception Disposition → Stage
  | .ok .forward => .forwarded
  | .ok (.respond response) => .done (.ok response)
  | .error ex => .done (.error ex)

/-- The stage that the filter takes a request to. -/
def stageOfOnAuthorization : Except Exception (Option HttpResponseMessage) → Stage
  | .ok none => .authorized
  | .ok (some response) => .done (.ok response)
  | .error ex => .done (.error ex)

/-- A request after the message handler. -/
def afterSendAsync (request : HttpRequestMessage) (context : HttpContext)
    (result : Ambient × Except Exception Disposition) : Exchange where
  request := request
  context := result.1.current.getD context
  stage := stageOfSendAsync result.2

section Step

variable (constants : Constants) (lib : Libraries) (host : Host) (index : Nat)

/-- The message handler takes a request that was received. -/
def stepSendAsync (thread : Nat) (hasContext : Bool) (now : DateTime) : Host × List Served :=
  match host.exchanges[index]? with
  | some ⟨request, context, .received⟩ =>
      let result := sendAsync constants lib now request (ambientOf host thread hasContext context)
      ({ threads := fun t => if t = thread then result.1.currentPrincipal else host.threads t
         exchanges := host.exchanges.set index (afterSendAsync request context result) }, [])
  | _ => (host, [])

/-- The filter takes a request that was handed on, with the principal of the
request's own context. -/
def stepOnAuthorization : Host × List Served :=
  match host.exchanges[index]? with
  | some ⟨request, context, .forwarded⟩ =>
      let stage := stageOfOnAuthorization (onAuthorizationAsync constants context.user)
      ({ host with exchanges := host.exchanges.set index ⟨request, context, stage⟩ }, [])
  | _ => (host, [])

/-- The action runs for a request that the filter let through. -/
def stepPing : Host × List Served :=
  match host.exchanges[index]? with
  | some ⟨request, context, .authorized⟩ =>
      ({ host with exchanges := host.exchanges.set index ⟨request, context, .done (.ok ping)⟩ },
        [⟨index, request⟩])
  | _ => (host, [])

end Step

/-- One step.  An action for a request that is not at its stage does nothing. -/
def step (constants : Constants) (lib : Libraries) (host : Host) : Action → Host × List Served
  | .receive request user _ =>
      ({ host with exchanges := host.exchanges ++ [⟨request, ⟨user⟩, .received⟩] }, [])
  | .sendAsync index thread hasContext now =>
      stepSendAsync constants lib host index thread hasContext now
  | .onAuthorization index => stepOnAuthorization constants host index
  | .ping index => stepPing host index

def machine (constants : Constants) (lib : Libraries) : Machine Host Action Served :=
  ⟨step constants lib⟩

/-! ## What the host did -/

/-- The action takes in a request. -/
def Action.receives : Action → Bool
  | .receive .. => true
  | _ => false

/-- The action runs the message handler for the request at an index. -/
def Action.sends (index : Nat) : Action → Bool
  | .sendAsync index' _ _ _ => index' == index
  | _ => false

/-- The request was the one that the host took in at the index, with the user; the
message handler has not run for it since. -/
def Awaits (actions : List Action) (index : Nat) (request : HttpRequestMessage)
    (user : Option ClaimsPrincipal) : Prop :=
  ∃ before notAuthenticated later,
    actions = before ++ .receive request user notAuthenticated :: later ∧
    before.countP Action.receives = index ∧ ∀ action ∈ later, action.sends index = false

/-- How the message handler took a request: the user that the request came with, and
the thread, the context and the instant of the handler. -/
structure Handling where
  user : Option ClaimsPrincipal
  thread : Nat
  hasContext : Bool
  now : DateTime

/-- The host took in the request at the index, and this is how the message handler
first took it after that. -/
def Handled (actions : List Action) (index : Nat) (request : HttpRequestMessage)
    (handling : Handling) : Prop :=
  ∃ before later, Awaits before index request handling.user ∧
    actions = before ++
      .sendAsync index handling.thread handling.hasContext handling.now :: later

section Histories

variable {actions : List Action} {index : Nat} {request : HttpRequestMessage}
  {user : Option ClaimsPrincipal} {handling : Handling}

/-- A request that was just taken in. -/
theorem awaits_receive (actions : List Action) (request : HttpRequestMessage)
    (notAuthenticated : NotAuthenticated user) :
    Awaits (actions ++ [.receive request user notAuthenticated])
      (actions.countP Action.receives) request user :=
  ⟨actions, notAuthenticated, [], rfl, rfl, by simp⟩

theorem Awaits.notAuthenticated (h : Awaits actions index request user) :
    NotAuthenticated user := by
  obtain ⟨_, notAuthenticated, _⟩ := h
  exact notAuthenticated

/-- It waits until the message handler runs for it. -/
theorem Awaits.concat (h : Awaits actions index request user) {action : Action}
    (hsends : action.sends index = false) : Awaits (actions ++ [action]) index request user := by
  obtain ⟨before, notAuthenticated, later, rfl, hindex, hlater⟩ := h
  refine ⟨before, notAuthenticated, later ++ [action], by simp, hindex, ?_⟩
  intro action' hmem
  rcases List.mem_append.mp hmem with hmem | hmem
  · exact hlater action' hmem
  · rw [List.mem_singleton.mp hmem]
    exact hsends

/-- Then it has been handled. -/
theorem Awaits.handled (h : Awaits actions index request user) (thread : Nat) (hasContext : Bool)
    (now : DateTime) :
    Handled (actions ++ [.sendAsync index thread hasContext now]) index request
      ⟨user, thread, hasContext, now⟩ :=
  ⟨actions, [], h, rfl⟩

/-- What was handled stays so. -/
theorem Handled.concat (h : Handled actions index request handling) (action : Action) :
    Handled (actions ++ [action]) index request handling := by
  obtain ⟨before, later, hawaits, rfl⟩ := h
  exact ⟨before, later ++ [action], hawaits, by simp⟩

theorem Handled.notAuthenticated (h : Handled actions index request handling) :
    NotAuthenticated handling.user := by
  obtain ⟨_, _, hawaits, _⟩ := h
  exact hawaits.notAuthenticated

end Histories

/-! ### One request -/

def sampleConstants : Constants where
  jwtCvr := some "12345678"
  jwtIssuer := some "https://sts.example/"
  jwtSigningCertificate := .ok { thumbprint := "AB" }

/-- Libraries that know one token, confirmed by a certificate. -/
def sampleLibraries : Libraries where
  validateToken _ _ token :=
    if token = some "jwt" then
      .ok (some ⟨[{
        claims := [{ type := "cvr", value := "12345678" }, { type := "cnf", value := "json" }]
        authenticationType := "AuthenticationTypes.Federation" }]⟩)
    else .error (.argument "IDX12741")
  selectToken _ _ := .ok (some "AQID")

theorem readsClaims_sampleLibraries : sampleLibraries.ReadsClaims := by
  intro parameters parameters' now now' token principal principal' h h'
  have heq : Except.ok (some principal) = Except.ok (ε := Exception) (some principal') :=
    h.symm.trans h'
  rw [Option.some.inj (Except.ok.inj heq)]

def sampleHttpRequest : HttpRequestMessage where
  absolutePath := "/rest/API/demo"
  authorization := some ⟨"Holder-of-key", some "jwt"⟩
  clientCertificate := some { thumbprint := "CD", certHashSha256 := [1, 2, 3] }

end KombitSamples.Rest
