import KombitSamples.Sts.Attestation
import KombitSamples.Trace

/-!
# KombitSamples.Sts.Runs

The token service with many requests under way.  A service object keeps the
request that it last found a scope for in a field, from which it makes the handler
that creates the token; the host may use an object again, as long as it serves
one request at a time.

* `issue_eq_fillIn` — issuing, in the steps between which others may run;
* `done_of_receive` — whatever runs in between, and whatever a service object has
  kept, a request ends as it would alone.
-/

namespace KombitSamples.Sts

open Fallible Trace

/-! ## The steps of issuing -/

section Steps

variable (constants : Constants) (im : IdentityModel)

/-- The descriptor that the base class fills in, with `GetOutputClaimsIdentity`. -/
def fillIn (clock : IssueClock) (principal : ClaimsPrincipal) (scope : Scope)
    (request : RequestSecurityToken) : Except Exception SecurityTokenDescriptor := do
  let configuration := wsTrustServiceConfiguration constants im
  let lifetime ← im.service.getTokenLifetime configuration clock.tokenLifetime request.lifetime
  let proof ← im.service.getProofToken request
  let subject ← getOutputClaimsIdentity constants im clock.authenticationInstant principal request
  pure {
    appliesToAddress := scope.appliesToAddress
    tokenIssuerName := configuration.tokenIssuerName
    lifetime := some lifetime
    signingCredentials := some scope.signingCredentials
    proof := proof
    subject := subject }

/-- Issuing finds the scope, fills in the descriptor and creates the token. -/
theorem issue_eq_fillIn (clock : IssueClock) (principal : ClaimsPrincipal)
    (request : RequestSecurityToken) :
    issue constants im clock principal request = (do
      let (scope, request) ← getScope constants request
      let tokenDescriptor ← fillIn constants im clock principal scope request
      createToken constants im clock.createToken request tokenDescriptor) := by
  unfold issue fillIn
  cases getScope constants request with
  | error ex => rfl
  | ok result =>
      obtain ⟨scope, request⟩ := result
      simp only [ok_bind]
      cases im.service.getTokenLifetime (wsTrustServiceConfiguration constants im)
        clock.tokenLifetime request.lifetime with
      | error ex => rfl
      | ok lifetime =>
          cases im.service.getProofToken request with
          | error ex => rfl
          | ok proof =>
              cases getOutputClaimsIdentity constants im clock.authenticationInstant principal
                request with
              | error ex => rfl
              | ok subject => rfl

/-- `CreateToken` of a handler that was made for the request in the field. -/
def createTokenFor (now : DateTime) (clientRequest : Option RequestSecurityToken)
    (tokenDescriptor : SecurityTokenDescriptor) : Except Exception Saml2SecurityToken := do
  let rst ← deref .nullReference clientRequest
  createToken constants im now rst tokenDescriptor

end Steps

/-! ## The host -/

/-- How far a request has come. -/
inductive Stage where
  | received
  | authenticated (principal : ClaimsPrincipal)
  | located (principal : ClaimsPrincipal) (scope : Scope) (request : RequestSecurityToken)
  /-- `GetSecurityTokenHandler` has read the field. -/
  | handled (principal : ClaimsPrincipal) (scope : Scope) (request : RequestSecurityToken)
      (clientRequest : Option RequestSecurityToken)
  | described (tokenDescriptor : SecurityTokenDescriptor)
      (clientRequest : Option RequestSecurityToken)
  | done (result : Except Exception Saml2SecurityToken)

def Stage.isDone : Stage → Bool
  | .done _ => true
  | _ => false

/-- A request, and the service object that it is given to. -/
structure Exchange where
  service : Nat
  cert : X509Certificate2
  request : RequestSecurityToken
  clock : IssueClock
  stage : Stage

/-- The field `clientRequest` of each service object, and the requests. -/
structure Host where
  clientRequest : Nat → Option RequestSecurityToken
  exchanges : List Exchange

inductive Action where
  | receive (service : Nat) (cert : X509Certificate2) (request : RequestSecurityToken)
      (clock : IssueClock)
  | advance (index : Nat)

/-- No request is under way on the service object. -/
def Host.isFree (host : Host) (service : Nat) : Bool :=
  host.exchanges.all fun exchange => exchange.service != service || exchange.stage.isDone

section Machine

variable (constants : Constants) (im : IdentityModel)

/-- The next step of a request, and the field of its service object after it. -/
def advance (clientRequest : Option RequestSecurityToken) (exchange : Exchange) :
    Option RequestSecurityToken × Stage :=
  match exchange.stage with
  | .received =>
      match validateToken constants im (some (.x509 exchange.cert)) with
      | .ok identities => (clientRequest, .authenticated ⟨identities⟩)
      | .error ex => (clientRequest, .done (.error ex))
  | .authenticated principal =>
      match getScope constants exchange.request with
      | .ok (scope, request) => (some request, .located principal scope request)
      | .error ex => (clientRequest, .done (.error ex))
  | .located principal scope request =>
      (clientRequest, .handled principal scope request clientRequest)
  | .handled principal scope request handled =>
      match fillIn constants im exchange.clock principal scope request with
      | .ok tokenDescriptor => (clientRequest, .described tokenDescriptor handled)
      | .error ex => (clientRequest, .done (.error ex))
  | .described tokenDescriptor handled =>
      (clientRequest,
        .done (createTokenFor constants im exchange.clock.createToken handled tokenDescriptor))
  | .done result => (clientRequest, .done result)

/-- A request for a service object that is not free is not taken in. -/
def step (host : Host) : Action → Host
  | .receive service cert request clock =>
      if host.isFree service then
        { host with exchanges := host.exchanges ++ [⟨service, cert, request, clock, .received⟩] }
      else host
  | .advance index =>
      match host.exchanges[index]? with
      | none => host
      | some exchange =>
          let next := advance constants im (host.clientRequest exchange.service) exchange
          { clientRequest := Function.update host.clientRequest exchange.service next.1
            exchanges := host.exchanges.set index { exchange with stage := next.2 } }

def machine : Machine Host Action Empty where
  step host action := (step constants im host action, [])

end Machine

/-! ## On its way to the token -/

section Tracks

variable {constants : Constants} {im : IdentityModel}
  {clientRequest clientRequest' : Option RequestSecurityToken} {exchange : Exchange} {host : Host}

/-- The requestor was let in as the principal. -/
def Exchange.LetIn (constants : Constants) (im : IdentityModel) (exchange : Exchange)
    (principal : ClaimsPrincipal) : Prop :=
  validateToken constants im (some (.x509 exchange.cert)) = .ok principal.identities

/-- The scope of the request was found, and the request changed. -/
def Exchange.InScope (constants : Constants) (im : IdentityModel) (exchange : Exchange)
    (principal : ClaimsPrincipal) (scope : Scope) (request : RequestSecurityToken) : Prop :=
  exchange.LetIn constants im principal ∧
    getScope constants exchange.request = .ok (scope, request)

/-- What holds, at each stage, of a request that ends as it would alone. -/
def Exchange.OnTrack (constants : Constants) (im : IdentityModel)
    (clientRequest : Option RequestSecurityToken) (exchange : Exchange) : Prop :=
  match exchange.stage with
  | .received => True
  | .authenticated principal => exchange.LetIn constants im principal
  | .located principal scope request =>
      exchange.InScope constants im principal scope request ∧ clientRequest = some request
  | .handled principal scope request handled =>
      exchange.InScope constants im principal scope request ∧ handled = some request
  | .described tokenDescriptor handled => ∃ principal scope request,
      exchange.InScope constants im principal scope request ∧ handled = some request ∧
        fillIn constants im exchange.clock principal scope request = .ok tokenDescriptor
  | .done result =>
      result = issueFor constants im exchange.clock exchange.cert exchange.request

theorem Exchange.LetIn.issueFor_eq {principal : ClaimsPrincipal}
    (h : exchange.LetIn constants im principal) :
    issueFor constants im exchange.clock exchange.cert exchange.request =
      issue constants im exchange.clock principal exchange.request := by
  rw [issueFor, h, ok_bind]

theorem Exchange.InScope.issueFor_eq {principal : ClaimsPrincipal} {scope : Scope}
    {request : RequestSecurityToken} (h : exchange.InScope constants im principal scope request) :
    issueFor constants im exchange.clock exchange.cert exchange.request = (do
      let tokenDescriptor ← fillIn constants im exchange.clock principal scope request
      createToken constants im exchange.clock.createToken request tokenDescriptor) := by
  rw [h.1.issueFor_eq, issue_eq_fillIn, h.2, ok_bind]

/-- A step keeps a request on track. -/
theorem onTrack_advance (h : exchange.OnTrack constants im clientRequest) :
    Exchange.OnTrack constants im (advance constants im clientRequest exchange).1
      { exchange with stage := (advance constants im clientRequest exchange).2 } := by
  obtain ⟨service, cert, request, clock, stage⟩ := exchange
  cases stage with
  | received =>
      cases hvalid : validateToken constants im (some (.x509 cert)) with
      | ok identities =>
          simp only [advance, hvalid, Exchange.OnTrack]
          exact hvalid
      | error ex =>
          simp only [advance, hvalid, Exchange.OnTrack]
          rw [issueFor, hvalid, error_bind]
  | authenticated principal =>
      have hletIn : Exchange.LetIn constants im
        ⟨service, cert, request, clock, .authenticated principal⟩ principal := h
      cases hscope : getScope constants request with
      | ok result =>
          obtain ⟨scope, changed⟩ := result
          simp only [advance, hscope, Exchange.OnTrack]
          exact ⟨⟨h, hscope⟩, trivial⟩
      | error ex =>
          have hissue := hletIn.issueFor_eq
          rw [issue_eq_fillIn, hscope, error_bind] at hissue
          simp only [advance, hscope, Exchange.OnTrack]
          exact hissue.symm
  | located principal scope changed => exact h
  | handled principal scope changed handled =>
      obtain ⟨hinScope, hhandled⟩ := h
      have hissue := hinScope.issueFor_eq
      cases hfill : fillIn constants im clock principal scope changed with
      | ok tokenDescriptor =>
          simp only [advance, hfill, Exchange.OnTrack]
          exact ⟨principal, scope, changed, hinScope, hhandled, hfill⟩
      | error ex =>
          rw [hfill, error_bind] at hissue
          simp only [advance, hfill, Exchange.OnTrack]
          exact hissue.symm
  | described tokenDescriptor handled =>
      obtain ⟨principal, scope, changed, hinScope, hhandled, hfill⟩ := h
      have hissue := hinScope.issueFor_eq
      rw [hfill, ok_bind] at hissue
      simp only [advance, Exchange.OnTrack]
      rw [hhandled, createTokenFor, deref_some, ok_bind]
      exact hissue.symm
  | done result => exact h

/-- Once a request is done, nothing changes it, nor does it change anything. -/
theorem advance_of_isDone (h : exchange.stage.isDone = true) :
    advance constants im clientRequest exchange = (clientRequest, exchange.stage) := by
  obtain ⟨service, cert, request, clock, stage⟩ := exchange
  cases stage with
  | done result => rfl
  | _ => simp [Stage.isDone] at h

/-- The field matters to a request that is under way only. -/
theorem Exchange.OnTrack.congr (h : exchange.OnTrack constants im clientRequest)
    (hfield : exchange.stage.isDone = false → clientRequest' = clientRequest) :
    exchange.OnTrack constants im clientRequest' := by
  obtain ⟨service, cert, request, clock, stage⟩ := exchange
  cases stage with
  | located principal scope changed =>
      rw [hfield rfl]
      exact h
  | _ => exact h

/-- Of two requests for one service object at least one is done. -/
def Apart (exchanges : List Exchange) : Prop :=
  AllAt (fun i (e : Exchange) => AllAt (fun j (f : Exchange) =>
    i ≠ j → e.service = f.service → e.stage.isDone = true ∨ f.stage.isDone = true)
      exchanges) exchanges

/-- Every request is on track, and no two are in each other's way. -/
structure Host.Inv (constants : Constants) (im : IdentityModel) (host : Host) : Prop where
  onTrack : AllAt (fun _ exchange =>
    exchange.OnTrack constants im (host.clientRequest exchange.service)) host.exchanges
  apart : Apart host.exchanges

theorem Host.isDone_of_isFree {service i : Nat} (h : host.isFree service = true)
    (hget : host.exchanges[i]? = some exchange) (hservice : exchange.service = service) :
    exchange.stage.isDone = true := by
  have hmem := List.mem_of_getElem? hget
  have hfree := List.all_eq_true.mp h exchange hmem
  simpa [hservice] using hfree

/-- A request joins others that are done, or are given to other objects. -/
theorem Apart.concat {exchanges : List Exchange} (h : Apart exchanges) (new : Exchange)
    (hnew : ∀ (i : Nat) (e : Exchange), exchanges[i]? = some e → e.service = new.service →
      e.stage.isDone = true) :
    Apart (exchanges ++ [new]) := by
  apply AllAt.concat
  · intro i e hi
    apply (h i e hi).concat
    intro hij hservice
    exact Or.inl (hnew i e hi hservice)
  · apply AllAt.concat
    · intro j f hj hij hservice
      exact Or.inr (hnew j f hj hservice.symm)
    · intro hij
      exact absurd rfl hij

/-- A request is taken in for an object that no other is under way on. -/
theorem Host.Inv.receive (h : host.Inv constants im) (service : Nat) (cert : X509Certificate2)
    (request : RequestSecurityToken) (clock : IssueClock) :
    (step constants im host (.receive service cert request clock)).Inv constants im := by
  rw [step]
  split
  · rename_i hfree
    exact ⟨h.onTrack.concat trivial,
      h.apart.concat _ fun i e hget => host.isDone_of_isFree hfree hget⟩
  · exact h

theorem step_advance {index : Nat} (hget : host.exchanges[index]? = some exchange) :
    step constants im host (.advance index) =
      { clientRequest := Function.update host.clientRequest exchange.service
          (advance constants im (host.clientRequest exchange.service) exchange).1
        exchanges := host.exchanges.set index { exchange with
          stage := (advance constants im (host.clientRequest exchange.service) exchange).2 } } := by
  simp only [step, hget]

/-- A request takes a step, and the others do not notice. -/
theorem Host.Inv.onTrack_advance (h : host.Inv constants im) {index : Nat}
    (hget : host.exchanges[index]? = some exchange) :
    AllAt (fun _ e => e.OnTrack constants im
        (Function.update host.clientRequest exchange.service
          (Sts.advance constants im (host.clientRequest exchange.service) exchange).1 e.service))
      (host.exchanges.set index { exchange with
        stage := (Sts.advance constants im (host.clientRequest exchange.service) exchange).2 }) := by
  intro i e hi
  by_cases hindex : index = i
  · subst hindex
    rw [List.getElem?_set_self (List.getElem?_eq_some_iff.mp hget).1] at hi
    have hnext := Sts.onTrack_advance (h.onTrack index exchange hget)
    rw [← Option.some.inj hi]
    dsimp only
    rw [Function.update_self]
    exact hnext
  · rw [List.getElem?_set_ne hindex] at hi
    apply (h.onTrack i e hi).congr
    intro hunder
    by_cases hservice : e.service = exchange.service
    · have hapart := h.apart index exchange hget i e hi hindex hservice.symm
      rw [hunder] at hapart
      have hdone := hapart.resolve_right Bool.false_ne_true
      rw [advance_of_isDone hdone, Function.update_eq_self]
    · rw [Function.update_of_ne hservice]

/-- A request that is done stays so. -/
theorem isDone_advance (h : exchange.stage.isDone = true) :
    (Sts.advance constants im clientRequest exchange).2.isDone = true := by
  rw [advance_of_isDone h]
  exact h

theorem Apart.set {exchanges : List Exchange} (h : Apart exchanges) {index : Nat}
    (hget : exchanges[index]? = some exchange) {stage : Stage}
    (hstage : exchange.stage.isDone = true → stage.isDone = true) :
    Apart (exchanges.set index { exchange with stage := stage }) := by
  apply AllAt.set
  · intro i e hi
    apply (h i e hi).set
    intro hij hservice
    exact (h i e hi index exchange hget hij hservice).imp_right hstage
  · apply AllAt.set
    · intro j f hj hij hservice
      exact (h index exchange hget j f hj hij hservice).imp_left hstage
    · intro hij
      exact absurd rfl hij

/-- A step keeps every request on track. -/
theorem Host.Inv.advance (h : host.Inv constants im) {index : Nat} :
    (step constants im host (.advance index)).Inv constants im := by
  cases hget : host.exchanges[index]? with
  | none =>
      simp only [step, hget]
      exact h
  | some exchange =>
      rw [step_advance hget]
      exact ⟨h.onTrack_advance hget, h.apart.set hget isDone_advance⟩

/-- Every step keeps the invariant. -/
theorem keeps_inv (constants : Constants) (im : IdentityModel) :
    (machine constants im).Keeps (Host.Inv constants im) (fun _ => True) where
  step_inv host action h := by
    cases action with
    | receive service cert request clock => exact h.receive service cert request clock
    | advance index => exact h.advance
  step_events _ _ _ _ _ := trivial

/-! ## To the end -/

/-- How many steps a request is away from its end. -/
def Stage.remaining : Stage → Nat
  | .received => 5
  | .authenticated _ => 4
  | .located _ _ _ => 3
  | .handled _ _ _ _ => 2
  | .described _ _ => 1
  | .done _ => 0

variable (constants im clientRequest exchange) in
theorem remaining_advance :
    (advance constants im clientRequest exchange).2.remaining ≤ exchange.stage.remaining - 1 := by
  obtain ⟨service, cert, request, clock, stage⟩ := exchange
  cases stage with
  | received | authenticated | handled =>
      simp only [advance]
      split <;> simp [Stage.remaining]
  | located | described | done => simp [advance, Stage.remaining]

/-- The request has its place, whatever stage it is at. -/
def Host.Holds (index : Nat) (exchange : Exchange) (host : Host) : Prop :=
  ∃ stage, host.exchanges[index]? = some { exchange with stage := stage }

/-- How many steps the request at a place is away from its end. -/
def Host.remainingAt (index : Nat) (host : Host) : Nat :=
  (host.exchanges[index]?.map (·.stage.remaining)).getD 0

def Action.isAdvance (index : Nat) : Action → Bool
  | .advance i => i == index
  | .receive .. => false

variable (constants im) in
/-- Another request is taken in behind it. -/
theorem getElem?_receive {index : Nat} (hget : host.exchanges[index]? = some exchange)
    (service : Nat) (cert : X509Certificate2) (request : RequestSecurityToken)
    (clock : IssueClock) :
    (step constants im host (.receive service cert request clock)).exchanges[index]? =
      some exchange := by
  have hlt := (List.getElem?_eq_some_iff.mp hget).1
  rw [step]
  split
  · rw [List.getElem?_append_left hlt, hget]
  · exact hget

variable (constants im host) in
theorem getElem?_advance_of_ne {index other : Nat} (hne : other ≠ index) :
    (step constants im host (.advance other)).exchanges[index]? = host.exchanges[index]? := by
  simp only [step]
  split
  · rfl
  · rw [List.getElem?_set_ne hne]

variable (constants im) in
theorem getElem?_advance {index : Nat} (hget : host.exchanges[index]? = some exchange) :
    (step constants im host (.advance index)).exchanges[index]? = some { exchange with
      stage := (advance constants im (host.clientRequest exchange.service) exchange).2 } := by
  have hlt := (List.getElem?_eq_some_iff.mp hget).1
  rw [step_advance hget, List.getElem?_set_self hlt]

variable (constants im) in
/-- A step leaves the request at its place. -/
theorem Host.Holds.step {index : Nat} (h : host.Holds index exchange) (action : Action) :
    (Sts.step constants im host action).Holds index exchange := by
  obtain ⟨stage, hget⟩ := h
  cases action with
  | receive service cert request clock =>
      exact ⟨stage, getElem?_receive constants im hget service cert request clock⟩
  | advance other =>
      by_cases hindex : other = index
      · have hafter := getElem?_advance constants im hget
        rw [hindex]
        exact ⟨_, hafter⟩
      · have hafter := getElem?_advance_of_ne constants im host hindex
        exact ⟨stage, hafter.trans hget⟩

/-- Its own steps bring it nearer to its end, and the others' steps do not move it. -/
theorem remainingAt_step {index : Nat} (h : host.Holds index exchange) (action : Action) :
    (step constants im host action).remainingAt index ≤
      host.remainingAt index - [action].countP (Action.isAdvance index) := by
  obtain ⟨stage, hget⟩ := h
  cases action with
  | receive service cert request clock =>
      have hafter := getElem?_receive constants im hget service cert request clock
      simp [Host.remainingAt, Action.isAdvance, hafter, hget]
  | advance other =>
      by_cases hindex : other = index
      · subst hindex
        have hafter := getElem?_advance constants im hget
        have hle := remaining_advance constants im (host.clientRequest exchange.service)
          { exchange with stage := stage }
        simpa [Host.remainingAt, Action.isAdvance, hafter, hget] using hle
      · have hafter := getElem?_advance_of_ne constants im host hindex
        simp [Host.remainingAt, Action.isAdvance, hafter, hget, hindex]

variable (constants im) in
theorem keeps_holds (index : Nat) (exchange : Exchange) :
    (machine constants im).Keeps (Host.Holds index exchange) (fun _ => True) where
  step_inv _ action h := h.step constants im action
  step_events _ _ _ _ _ := trivial

variable (constants im) in
/-- A run brings a request as near to its end as it takes steps. -/
theorem remainingAt_after {index : Nat} (h : host.Holds index exchange) (actions : List Action) :
    ((machine constants im).after host actions).remainingAt index ≤
      host.remainingAt index - actions.countP (Action.isAdvance index) :=
  Machine.after_le_sub_countP _ _ (keeps_holds constants im index exchange).step_inv
    (fun _ action hs => remainingAt_step hs action) actions host h

/-- At its end, a request on track has what it would have alone. -/
theorem Host.Inv.done_of_remainingAt (h : host.Inv constants im) {index : Nat}
    (hholds : host.Holds index exchange) (hremaining : host.remainingAt index = 0) :
    host.exchanges[index]? = some { exchange with
      stage := .done (issueFor constants im exchange.clock exchange.cert exchange.request) } := by
  obtain ⟨stage, hget⟩ := hholds
  have honTrack := h.onTrack index _ hget
  rw [Host.remainingAt, hget] at hremaining
  cases stage with
  | done result =>
      have hresult : result =
        issueFor constants im exchange.clock exchange.cert exchange.request := honTrack
      rw [hget, hresult]
  | _ => simp [Stage.remaining] at hremaining

end Tracks

/-- **A kept request is never another's.** After any run, a request that is given
to a free service object ends, with its five steps and whatever others in between,
in what it would end in alone. -/
theorem done_of_receive (constants : Constants) (im : IdentityModel)
    (clientRequest : Nat → Option RequestSecurityToken) (before between : List Action)
    {host : Host} (hhost : (machine constants im).after ⟨clientRequest, []⟩ before = host)
    {service : Nat} (hfree : host.isFree service = true) (cert : X509Certificate2)
    (request : RequestSecurityToken) (clock : IssueClock)
    (hsteps : 5 ≤ between.countP (Action.isAdvance host.exchanges.length)) :
    ((machine constants im).after host
        (.receive service cert request clock :: between)).exchanges[host.exchanges.length]? =
      some ⟨service, cert, request, clock, .done (issueFor constants im clock cert request)⟩ := by
  have hinitial : Host.Inv constants im ⟨clientRequest, []⟩ := ⟨allAt_nil, allAt_nil⟩
  have hbefore := (keeps_inv constants im).after_inv before _ hinitial
  rw [hhost] at hbefore
  have hreceived : (step constants im host
      (.receive service cert request clock)).exchanges[host.exchanges.length]? =
        some ⟨service, cert, request, clock, .received⟩ := by
    simp [step, hfree]
  have hholds : (step constants im host (.receive service cert request clock)).Holds
    host.exchanges.length ⟨service, cert, request, clock, .received⟩ := ⟨.received, hreceived⟩
  have hremaining := remainingAt_after constants im hholds between
  have hfirst : (step constants im host (.receive service cert request clock)).remainingAt
      host.exchanges.length = 5 := by
    rw [Host.remainingAt, hreceived]
    rfl
  rw [hfirst] at hremaining
  have hafter := (keeps_inv constants im).after_inv between _
    (hbefore.receive service cert request clock)
  have hheld := (keeps_holds constants im _ _).after_inv between _ hholds
  rw [Machine.after_cons]
  exact hafter.done_of_remainingAt hheld (by omega)

/-! ### Two requests

The second one is taken in while the first is under way, by an object that has
kept the first one's request. -/

def sampleBetween : List Action :=
  [.advance 1, .advance 0, .advance 1, .advance 0, .advance 0, .advance 1, .advance 1,
    .advance 0, .advance 1]

/-- The user that asks on behalf of the client is issued what it would be alone. -/
theorem done_of_receive_onBehalfOf :
    ∃ host, (machine sampleConstants Documented.identityModel).after
        ⟨fun _ => some sampleRequest, []⟩
        [.receive 0 sampleConstants.aValidClientCertificate sampleRequest ⟨0, 0, 0⟩, .advance 0] =
          host ∧
      ((machine sampleConstants Documented.identityModel).after host
        (.receive 1 sampleConstants.aValidOnBehalfOfCertificate
          (requestOnBehalfOf (.x509 sampleConstants.aValidClientCertificate)) ⟨0, 0, 0⟩ ::
          sampleBetween)).exchanges[1]? =
        some ⟨1, sampleConstants.aValidOnBehalfOfCertificate,
          requestOnBehalfOf (.x509 sampleConstants.aValidClientCertificate), ⟨0, 0, 0⟩,
          .done (issueFor sampleConstants Documented.identityModel ⟨0, 0, 0⟩
            sampleConstants.aValidOnBehalfOfCertificate
            (requestOnBehalfOf (.x509 sampleConstants.aValidClientCertificate)))⟩ := by
  refine ⟨_, rfl, ?_⟩
  exact done_of_receive sampleConstants Documented.identityModel (fun _ => some sampleRequest)
    [.receive 0 sampleConstants.aValidClientCertificate sampleRequest ⟨0, 0, 0⟩, .advance 0]
    sampleBetween rfl rfl sampleConstants.aValidOnBehalfOfCertificate
    (requestOnBehalfOf (.x509 sampleConstants.aValidClientCertificate)) ⟨0, 0, 0⟩ (by decide)

end KombitSamples.Sts
