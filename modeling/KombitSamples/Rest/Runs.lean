import KombitSamples.Rest.Answer

/-!
# KombitSamples.Rest.Runs

Whole runs of the REST API in its web host, against the answer that a request
gets by itself.

* `answer_of_done` — a request under way among others gets the answer that it
  gets alone;
* `ping_once` — when the action has run for a request;
* `ping_sound` — which requests the action ran for;
* `currentPrincipal_after` — what the threads remember.
-/

namespace KombitSamples.Rest

open Fallible Trace

/-! ## The message handler, whatever its thread remembers -/

section SendAsync

variable (constants : Constants) (lib : Libraries) (now : DateTime)
  (request : HttpRequestMessage)

/-- What the handler makes of a request depends on its surroundings only
through the HTTP context. -/
theorem sendAsync_of_current_eq {ambient ambient' : Ambient}
    (h : ambient.current = ambient'.current) :
    (sendAsync constants lib now request ambient).2 =
        (sendAsync constants lib now request ambient').2 ∧
      (sendAsync constants lib now request ambient).1.current =
        (sendAsync constants lib now request ambient').1.current := by
  unfold sendAsync
  split
  · exact ⟨rfl, h⟩
  · split
    · simp [setPrincipal, h]
    · exact ⟨rfl, h⟩
    · simp [handleExceptionResponse, h]

/-- The principal of the thread is left alone, or it becomes one that was
accepted for a request to the API. -/
theorem sendAsync_currentPrincipal (ambient : Ambient) :
    (sendAsync constants lib now request ambient).1.currentPrincipal =
        ambient.currentPrincipal ∨
      canHandle request = true ∧ ∃ principal, Accepted constants lib now request principal ∧
        (sendAsync constants lib now request ambient).1.currentPrincipal = some principal := by
  unfold sendAsync
  split
  · exact .inl rfl
  · next hpath =>
      split
      · next principal hauth =>
          have haccepted := accepted_of_authenticate hauth
          exact .inr ⟨by simpa using hpath, principal, haccepted, rfl⟩
      · exact .inl rfl
      · exact .inl rfl

/-- The handler itself never answers with what the action answers. -/
theorem sendAsync_ne_ping (ambient : Ambient) :
    (sendAsync constants lib now request ambient).2 ≠ .ok (.respond ping) := by
  unfold sendAsync
  split
  · simp
  · split
    · simp
    · simp [ping]
    · unfold handleExceptionResponse
      cases ambient.current <;> simp [Except.map, ping, pure, Except.pure]

/-- Nor does the filter. -/
theorem onAuthorizationAsync_ne_ping (user : Option ClaimsPrincipal) :
    onAuthorizationAsync constants user ≠ .ok (some ping) := by
  intro h
  simp only [onAuthorizationAsync, bind_eq_ok, deref_eq_ok] at h
  obtain ⟨principal, -, identity, -, h⟩ := h
  split at h
  · simp [accessDenied, ping] at h
  · split at h
    · simp [accessDenied, ping] at h
    · split at h <;> simp [accessDenied, ping] at h

/-- The answer to a request is the handler's own, or that of the filter and the
action to the user that the handler leaves. -/
theorem answer_eq (host : Host) (thread : Nat) (hasContext : Bool) (context : HttpContext) :
    answer constants lib now hasContext request context.user =
      match (sendAsync constants lib now request (ambientOf host thread hasContext context)).2 with
      | .ok (.respond response) => .ok response
      | .ok .forward => filterAndAct constants
          ((sendAsync constants lib now request
            (ambientOf host thread hasContext context)).1.current.getD context).user
      | .error ex => .error ex := by
  have hcurrent : (Ambient.mk none (if hasContext then some ⟨context.user⟩ else none)).current =
      (ambientOf host thread hasContext context).current := rfl
  have hsame := sendAsync_of_current_eq constants lib now request hcurrent
  unfold answer
  simp only [hsame.1, hsame.2]
  cases (sendAsync constants lib now request (ambientOf host thread hasContext context)).2 with
  | error ex => rfl
  | ok disposition => cases disposition <;> rfl

end SendAsync

/-! ## On its way to the answer -/

/-- The host took in the request at the index and ran the message handler for it,
and the result is the answer to the request by itself: at that instant, in that
context, from the user that it came with. -/
def Answered (constants : Constants) (lib : Libraries) (actions : List Action) (index : Nat)
    (request : HttpRequestMessage) (result : Except Exception HttpResponseMessage) : Prop :=
  ∃ handling, Handled actions index request handling ∧
    answer constants lib handling.now handling.hasContext request handling.user = result

/-- What holds, at each stage, of a request that is on its way to the answer it
gets by itself. -/
def Exchange.OnTrack (constants : Constants) (lib : Libraries) (actions : List Action)
    (index : Nat) (exchange : Exchange) : Prop :=
  match exchange.stage with
  | .received => Awaits actions index exchange.request exchange.context.user
  | .forwarded => Answered constants lib actions index exchange.request
      (filterAndAct constants exchange.context.user)
  | .authorized => Answered constants lib actions index exchange.request (.ok ping)
  | .done result => Answered constants lib actions index exchange.request result

/-- The action has run for the request of the exchange. -/
def Exchange.Acted (exchange : Exchange) : Prop := exchange.stage = .done (.ok ping)

/-- What holds of a host after a list of actions that emitted a list of events: its
requests are those it took in, on track, and the action ran, once, for those that
have its answer. -/
structure Host.OnTrack (constants : Constants) (lib : Libraries) (actions : List Action)
    (emitted : List Served) (host : Host) : Prop where
  received : actions.countP Action.receives = host.exchanges.length
  onTrack : AllAt (Exchange.OnTrack constants lib actions) host.exchanges
  served_iff : ∀ served, served ∈ emitted ↔ ∃ exchange,
    host.exchanges[served.index]? = some exchange ∧ exchange.request = served.request ∧
      exchange.Acted
  nodup : (emitted.map Served.index).Nodup

section Runs

variable {constants : Constants} {lib : Libraries} {actions : List Action} {emitted : List Served}
  {host : Host}

theorem Answered.concat {index : Nat} {request : HttpRequestMessage}
    {result : Except Exception HttpResponseMessage}
    (h : Answered constants lib actions index request result) (action : Action) :
    Answered constants lib (actions ++ [action]) index request result := by
  obtain ⟨handling, hhandled, hanswer⟩ := h
  exact ⟨handling, hhandled.concat action, hanswer⟩

/-- A request stays on track while others are taken further. -/
theorem Exchange.OnTrack.concat {index : Nat} {exchange : Exchange}
    (h : exchange.OnTrack constants lib actions index) {action : Action}
    (hsends : exchange.stage = .received → action.sends index = false) :
    exchange.OnTrack constants lib (actions ++ [action]) index := by
  obtain ⟨request, context, stage⟩ := exchange
  cases stage with
  | received => exact Awaits.concat h (hsends rfl)
  | forwarded | authorized | done => exact Answered.concat h action

/-- The message handler takes a request to its answer, or to the filter. -/
theorem onTrack_afterSendAsync {request : HttpRequestMessage} {context : HttpContext}
    {index thread : Nat} {hasContext : Bool} {now : DateTime}
    (h : Awaits actions index request context.user) :
    (afterSendAsync request context (sendAsync constants lib now request
      (ambientOf host thread hasContext context))).OnTrack constants lib
        (actions ++ [.sendAsync index thread hasContext now]) index := by
  have hanswered : Answered constants lib (actions ++ [.sendAsync index thread hasContext now])
      index request (answer constants lib now hasContext request context.user) :=
    ⟨_, h.handled thread hasContext now, rfl⟩
  rw [answer_eq constants lib now request host thread hasContext context] at hanswered
  unfold Exchange.OnTrack afterSendAsync stageOfSendAsync
  cases hresult : (sendAsync constants lib now request
      (ambientOf host thread hasContext context)).2 with
  | error ex =>
      rw [hresult] at hanswered
      exact hanswered
  | ok disposition =>
      rw [hresult] at hanswered
      cases disposition <;> exact hanswered

/-- The filter takes it to its answer, or to the action. -/
theorem onTrack_afterOnAuthorization {request : HttpRequestMessage} {context : HttpContext}
    {index : Nat} (h : Answered constants lib actions index request
      (filterAndAct constants context.user)) :
    Exchange.OnTrack constants lib actions index ⟨request, context,
      stageOfOnAuthorization (onAuthorizationAsync constants context.user)⟩ := by
  unfold Exchange.OnTrack stageOfOnAuthorization
  unfold filterAndAct at h
  match hresult : onAuthorizationAsync constants context.user with
  | .error ex | .ok none | .ok (some response) =>
      rw [hresult] at h
      exact h

/-- The message handler does not act for a request, -/
theorem not_acted_afterSendAsync (request : HttpRequestMessage) (context : HttpContext)
    (now : DateTime) (ambient : Ambient) :
    ¬ (afterSendAsync request context (sendAsync constants lib now request ambient)).Acted := by
  have hne := sendAsync_ne_ping constants lib now request ambient
  unfold afterSendAsync stageOfSendAsync Exchange.Acted
  match hresult : (sendAsync constants lib now request ambient).2 with
  | .error ex | .ok .forward => simp
  | .ok (.respond response) =>
      rw [hresult] at hne
      simpa using hne

/-- nor does the filter. -/
theorem not_acted_afterOnAuthorization (request : HttpRequestMessage) (context : HttpContext)
    (user : Option ClaimsPrincipal) :
    ¬ Exchange.Acted ⟨request, context,
      stageOfOnAuthorization (onAuthorizationAsync constants user)⟩ := by
  have hne := onAuthorizationAsync_ne_ping constants user
  unfold stageOfOnAuthorization Exchange.Acted
  match hresult : onAuthorizationAsync constants user with
  | .error ex | .ok none => simp
  | .ok (some response) =>
      rw [hresult] at hne
      simpa using hne

/-! ## One step -/

/-- Where the action has run is the same after a request that it has not run for is
taken further. -/
theorem served_iff_set {exchanges : List Exchange} {index : Nat} {exchange exchange' : Exchange}
    (hget : exchanges[index]? = some exchange) (hacted : ¬ exchange.Acted)
    (hacted' : ¬ exchange'.Acted) (served : Served) :
    (∃ e, (exchanges.set index exchange')[served.index]? = some e ∧ e.request = served.request ∧
        e.Acted) ↔
      ∃ e, exchanges[served.index]? = some e ∧ e.request = served.request ∧ e.Acted := by
  by_cases hindex : served.index = index
  · have hlt := (List.getElem?_eq_some_iff.mp hget).1
    rw [hindex, List.getElem?_set_self hlt, hget]
    simp [hacted, hacted']
  · rw [List.getElem?_set_ne (Ne.symm hindex)]

/-- A request is taken further, but not to the action. -/
theorem Host.OnTrack.set (h : host.OnTrack constants lib actions emitted)
    {action : Action} {index : Nat} {exchange exchange' : Exchange}
    (hget : host.exchanges[index]? = some exchange) (hacted : ¬ exchange.Acted)
    (hacted' : ¬ exchange'.Acted) (hreceives : action.receives = false)
    (hsends : ∀ index', index' ≠ index → action.sends index' = false)
    (htrack : exchange'.OnTrack constants lib (actions ++ [action]) index)
    (threads : Nat → Option ClaimsPrincipal) :
    Host.OnTrack constants lib (actions ++ [action]) (emitted ++ [])
      ⟨threads, host.exchanges.set index exchange'⟩ where
  received := by
    rw [List.countP_append, List.countP_singleton, hreceives, h.received, List.length_set]
    rfl
  onTrack := allAt_set (fun index' _ hne hget' =>
    (h.onTrack index' _ hget').concat fun _ => hsends index' hne) htrack
  served_iff served := by
    rw [List.append_nil, h.served_iff, served_iff_set hget hacted hacted']
  nodup := by
    rw [List.append_nil]
    exact h.nodup

/-- Nothing is done. -/
theorem Host.OnTrack.idle (h : host.OnTrack constants lib actions emitted) {action : Action}
    (hreceives : action.receives = false)
    (hsends : ∀ index exchange, host.exchanges[index]? = some exchange →
      exchange.stage = .received → action.sends index = false) :
    host.OnTrack constants lib (actions ++ [action]) (emitted ++ []) where
  received := by
    rw [List.countP_append, List.countP_singleton, hreceives, h.received]
    rfl
  onTrack index exchange hget := (h.onTrack index exchange hget).concat (hsends index exchange hget)
  served_iff served := by rw [List.append_nil, h.served_iff]
  nodup := by
    rw [List.append_nil]
    exact h.nodup

theorem onTrack_receive (h : host.OnTrack constants lib actions emitted)
    (request : HttpRequestMessage) {user : Option ClaimsPrincipal}
    (notAuthenticated : NotAuthenticated user) :
    Host.OnTrack constants lib (actions ++ [.receive request user notAuthenticated])
      (emitted ++ [])
      { host with exchanges := host.exchanges ++ [⟨request, ⟨user⟩, .received⟩] } where
  received := by
    rw [List.countP_append, h.received, List.length_append]
    rfl
  onTrack := by
    refine AllAt.concat (fun index exchange hget => (h.onTrack index exchange hget).concat
      fun _ => rfl) ?_
    rw [← h.received]
    exact awaits_receive actions request notAuthenticated
  served_iff served := by
    rw [List.append_nil, h.served_iff]
    constructor
    · rintro ⟨exchange, hget, hrest⟩
      have hlt := (List.getElem?_eq_some_iff.mp hget).1
      exact ⟨exchange, by rw [List.getElem?_append_left hlt, hget], hrest⟩
    · rintro ⟨exchange, hget, hrequest, hacted⟩
      rcases Nat.lt_or_ge served.index host.exchanges.length with hlt | hge
      · rw [List.getElem?_append_left hlt] at hget
        exact ⟨exchange, hget, hrequest, hacted⟩
      · -- The request that was just taken in has not been acted for.
        rw [List.getElem?_append_right hge] at hget
        have hmem := List.mem_singleton.mp (List.mem_of_getElem? hget)
        rw [hmem] at hacted
        cases hacted
  nodup := by
    rw [List.append_nil]
    exact h.nodup

theorem onTrack_stepSendAsync (h : host.OnTrack constants lib actions emitted) (index thread : Nat)
    (hasContext : Bool) (now : DateTime) :
    (stepSendAsync constants lib host index thread hasContext now).1.OnTrack constants lib
      (actions ++ [.sendAsync index thread hasContext now])
      (emitted ++ (stepSendAsync constants lib host index thread hasContext now).2) := by
  unfold stepSendAsync
  split
  · next request context hget =>
      have hawaits : Awaits actions index request context.user := h.onTrack _ _ hget
      refine h.set hget (by simp [Exchange.Acted]) (not_acted_afterSendAsync _ _ _ _) rfl ?_
        (onTrack_afterSendAsync hawaits) _
      intro index' hne
      simpa [Action.sends] using Ne.symm hne
  · next hnone =>
      refine h.idle rfl ?_
      intro index' exchange hget hstage
      obtain ⟨request, context, stage⟩ := exchange
      have hne : index ≠ index' := by
        rintro rfl
        obtain rfl : stage = .received := hstage
        exact hnone request context hget
      simpa [Action.sends] using hne

theorem onTrack_stepOnAuthorization (h : host.OnTrack constants lib actions emitted)
    (index : Nat) :
    (stepOnAuthorization constants host index).1.OnTrack constants lib
      (actions ++ [.onAuthorization index])
      (emitted ++ (stepOnAuthorization constants host index).2) := by
  unfold stepOnAuthorization
  split
  · next request context hget =>
      have hforwarded : Answered constants lib actions index request
        (filterAndAct constants context.user) := h.onTrack _ _ hget
      exact h.set hget (by simp [Exchange.Acted]) (not_acted_afterOnAuthorization _ _ _) rfl
        (fun _ _ => rfl) (onTrack_afterOnAuthorization (hforwarded.concat _)) _
  · exact h.idle rfl fun _ _ _ _ => rfl

/-- The action runs for a request that it has not run for. -/
theorem onTrack_stepPing (h : host.OnTrack constants lib actions emitted) (index : Nat) :
    (stepPing host index).1.OnTrack constants lib (actions ++ [.ping index])
      (emitted ++ (stepPing host index).2) := by
  unfold stepPing
  split
  · next request context hget =>
      have hauthorized : Answered constants lib actions index request (.ok ping) :=
        h.onTrack _ _ hget
      have hlt := (List.getElem?_eq_some_iff.mp hget).1
      exact {
        received := by
          rw [List.countP_append, h.received, List.length_set]
          rfl
        onTrack := allAt_set (fun index' _ _ hget' => (h.onTrack index' _ hget').concat
          fun _ => rfl) (hauthorized.concat (.ping index))
        served_iff := by
          intro served
          rw [List.mem_append, h.served_iff, List.mem_singleton]
          by_cases hindex : served.index = index
          · rw [hindex, List.getElem?_set_self hlt, hget]
            obtain ⟨index', request'⟩ := served
            obtain rfl : index' = index := hindex
            simp [Exchange.Acted, eq_comm]
          · rw [List.getElem?_set_ne (Ne.symm hindex)]
            have hne : served ≠ ⟨index, request⟩ := fun heq => hindex (congrArg Served.index heq)
            simp [hne]
        nodup := by
          rw [List.map_append, List.map_singleton, List.nodup_append_comm]
          refine List.nodup_cons.mpr ⟨?_, h.nodup⟩
          intro hmem
          obtain ⟨served, hserved, hindex⟩ := List.mem_map.mp hmem
          obtain ⟨exchange, hget', -, hacted⟩ := (h.served_iff served).mp hserved
          rw [hindex, hget] at hget'
          rw [← Option.some.inj hget'] at hacted
          cases hacted }
  · exact h.idle rfl fun _ _ _ _ => rfl

/-- **A step** keeps every request on track. -/
theorem onTrack_step (h : host.OnTrack constants lib actions emitted) (action : Action) :
    Host.OnTrack constants lib (actions ++ [action])
      (emitted ++ ((machine constants lib).step host action).2)
      ((machine constants lib).step host action).1 := by
  cases action with
  | receive request user notAuthenticated => exact onTrack_receive h request notAuthenticated
  | sendAsync index thread hasContext now =>
      exact onTrack_stepSendAsync h index thread hasContext now
  | onAuthorization index => exact onTrack_stepOnAuthorization h index
  | ping index => exact onTrack_stepPing h index

/-! ## Whole runs -/

theorem onTrack_initial (constants : Constants) (lib : Libraries)
    (threads : Nat → Option ClaimsPrincipal) : Host.OnTrack constants lib [] [] ⟨threads, []⟩ where
  received := rfl
  onTrack := allAt_nil
  served_iff := by simp
  nodup := List.nodup_nil

theorem onTrack_after (constants : Constants) (lib : Libraries)
    (threads : Nat → Option ClaimsPrincipal) (actions : List Action) :
    ((machine constants lib).after ⟨threads, []⟩ actions).OnTrack constants lib actions
      ((machine constants lib).events ⟨threads, []⟩ actions) := by
  exact Machine.run_inv (R := Host.OnTrack constants lib)
    (fun _ _ _ action h => onTrack_step h action) (onTrack_initial constants lib threads) actions

/-- **Requests do not meet.** In every run, a request that is done has the answer
it gets by itself, at the instant at which the message handler took it and from
the user it came with: neither the order of the steps, nor the other requests, nor
what the threads remember makes a difference. -/
theorem answer_of_done (constants : Constants) (lib : Libraries)
    (threads : Nat → Option ClaimsPrincipal) (actions : List Action) {index : Nat}
    {request : HttpRequestMessage} {context : HttpContext}
    {result : Except Exception HttpResponseMessage}
    (h : ((machine constants lib).after ⟨threads, []⟩ actions).exchanges[index]? =
      some ⟨request, context, .done result⟩) :
    ∃ handling, Handled actions index request handling ∧
      answer constants lib handling.now handling.hasContext request handling.user = result :=
  (onTrack_after constants lib threads actions).onTrack index _ h

/-! ## When the action runs -/

/-- **The action runs once.** In every run, the action has run at most once for a
request that was taken in; when the request is done, it has run exactly if the
message handler took the request in an HTTP context, the request is one to the API,
and its token validated, at the instant of the handler, for an authorized
principal. -/
theorem ping_once (constants : Constants) (lib : Libraries)
    (threads : Nat → Option ClaimsPrincipal) (actions : List Action) :
    (((machine constants lib).events ⟨threads, []⟩ actions).map Served.index).Nodup ∧
    ∀ index request context result,
      ((machine constants lib).after ⟨threads, []⟩ actions).exchanges[index]? =
        some ⟨request, context, .done result⟩ →
      ∃ handling, Handled actions index request handling ∧
        (⟨index, request⟩ ∈ (machine constants lib).events ⟨threads, []⟩ actions ↔
          handling.hasContext = true ∧ canHandle request = true ∧ ∃ principal,
            Validates constants lib handling.now request principal ∧
            Authorized constants principal) := by
  have hrun := onTrack_after constants lib threads actions
  refine ⟨hrun.nodup, ?_⟩
  intro index request context result hdone
  have hanswered : Answered constants lib actions index request result := hrun.onTrack _ _ hdone
  obtain ⟨handling, hhandled, hanswer⟩ := hanswered
  refine ⟨handling, hhandled, ?_⟩
  rw [← answer_eq_ping_iff hhandled.notAuthenticated, hanswer, hrun.served_iff]
  simp [hdone, Exchange.Acted]

/-- A request that may reach the action: it is one to the API, its token was
accepted, at an instant, for a principal with the configured CVR number, and it is
confirmed by its client certificate. -/
structure Entitled (constants : Constants) (lib : Libraries) (now : DateTime)
    (request : HttpRequestMessage) : Prop where
  path : Text.containsIgnoreCase request.absolutePath "/api/" = true
  accepted : ∃ principal, Accepted constants lib now request principal ∧
    Authorized constants principal

/-- A token with a confirmation claim. -/
def CarriesConfirmation (lib : Libraries) (token : Option String) : Prop :=
  ∃ parameters now principal cnf, lib.validateToken parameters now token = .ok (some principal) ∧
    firstClaim confirmationClaimType principal.claims = some cnf

/-- Two entitled requests with one token that carries a confirmation claim
were sent with certificates of the same hash. -/
theorem certHashSha256_of_entitled (hreads : lib.ReadsClaims)
    {request request' : HttpRequestMessage} {now now' : DateTime}
    (h : Entitled constants lib now request) (h' : Entitled constants lib now' request')
    (htoken : request.token = request'.token) (hcarries : CarriesConfirmation lib request.token) :
    ∃ certificate certificate', request.clientCertificate = some certificate ∧
      request'.clientCertificate = some certificate' ∧
      certificate.certHashSha256 = certificate'.certHashSha256 := by
  obtain ⟨parameters, instant, principal, cnf, hvalid, hcnf⟩ := hcarries
  have hconfirmed {r : HttpRequestMessage} {n : DateTime} (hr : Entitled constants lib n r)
      (hrtoken : request.token = r.token) : Confirmed lib r principal.claims := by
    obtain ⟨accepted, haccepted, -⟩ := hr.accepted
    obtain ⟨key, -, hlib⟩ := haccepted.token
    rw [← hrtoken] at hlib
    rw [hreads _ _ _ _ _ _ _ hvalid hlib]
    exact haccepted.confirmed
  exact certHashSha256_of_confirmed hcnf (hconfirmed h rfl) (hconfirmed h' htoken)

/-- The action has run only for requests that were entitled when the message
handler took them, in an HTTP context. -/
theorem entitled_of_served (constants : Constants) (lib : Libraries)
    (threads : Nat → Option ClaimsPrincipal) (actions : List Action) {served : Served}
    (h : served ∈ (machine constants lib).events ⟨threads, []⟩ actions) :
    ∃ handling, Handled actions served.index served.request handling ∧
      handling.hasContext = true ∧ Entitled constants lib handling.now served.request := by
  have hrun := onTrack_after constants lib threads actions
  obtain ⟨⟨request, context, stage⟩, hget, hrequest, hacted⟩ := (hrun.served_iff served).mp h
  obtain rfl : stage = .done (.ok ping) := hacted
  have hanswered : Answered constants lib actions served.index request (.ok ping) :=
    hrun.onTrack _ _ hget
  obtain rfl : request = served.request := hrequest
  obtain ⟨handling, hhandled, hanswer⟩ := hanswered
  obtain ⟨hcontext, hpath, principal, hvalid, hauthorized⟩ :=
    (answer_eq_ping_iff hhandled.notAuthenticated _ _ _ _ _).mp hanswer
  have haccepted := accepted_of_validate (validate_eq_ok_iff.mpr hvalid)
  exact ⟨handling, hhandled, hcontext, hpath, principal, haccepted, hauthorized⟩

/-- **Access soundness.** In every run of the host, from any principals on
its threads, the action runs only for requests that were entitled when the message
handler took them; and of the requests with one token that carries a confirmation
claim, only for those with a client certificate of one and the same hash. -/
theorem ping_sound (constants : Constants) (lib : Libraries)
    (threads : Nat → Option ClaimsPrincipal) (actions : List Action) :
    (∀ served ∈ (machine constants lib).events ⟨threads, []⟩ actions,
      ∃ handling, Handled actions served.index served.request handling ∧
        handling.hasContext = true ∧ Entitled constants lib handling.now served.request) ∧
    (lib.ReadsClaims →
      ∀ served ∈ (machine constants lib).events ⟨threads, []⟩ actions,
      ∀ served' ∈ (machine constants lib).events ⟨threads, []⟩ actions,
      served.request.token = served'.request.token →
      CarriesConfirmation lib served.request.token →
      ∃ certificate certificate', served.request.clientCertificate = some certificate ∧
        served'.request.clientCertificate = some certificate' ∧
        certificate.certHashSha256 = certificate'.certHashSha256) := by
  constructor
  · intro served hserved
    exact entitled_of_served constants lib threads actions hserved
  · intro hreads served hserved served' hserved' htoken hcarries
    obtain ⟨_, -, -, hentitled⟩ := entitled_of_served constants lib threads actions hserved
    obtain ⟨_, -, -, hentitled'⟩ := entitled_of_served constants lib threads actions hserved'
    exact certHashSha256_of_entitled hreads hentitled hentitled' htoken hcarries

/-! ## What the threads remember -/

/-- The principal of a thread is the one it had, or one that was accepted for a
request to the API when the message handler took the request on that thread. -/
def Remembers (constants : Constants) (lib : Libraries) (actions : List Action) (thread : Nat)
    (initial current : Option ClaimsPrincipal) : Prop :=
  current = initial ∨ ∃ index request handling principal,
    Handled actions index request handling ∧ handling.thread = thread ∧
    canHandle request = true ∧ Accepted constants lib handling.now request principal ∧
    current = some principal

theorem Remembers.concat {thread : Nat} {initial current : Option ClaimsPrincipal}
    (h : Remembers constants lib actions thread initial current) (action : Action) :
    Remembers constants lib (actions ++ [action]) thread initial current := by
  rcases h with hkept | ⟨index, request, handling, principal, hhandled, hrest⟩
  · exact .inl hkept
  · exact .inr ⟨index, request, handling, principal, hhandled.concat action, hrest⟩

/-- A step leaves the principal of a thread alone, or runs the message handler on it
for a request that was received, and accepts a principal. -/
theorem step_threads (constants : Constants) (lib : Libraries) (host : Host) (action : Action)
    (thread : Nat) :
    ((machine constants lib).step host action).1.threads thread = host.threads thread ∨
      ∃ index hasContext now request context principal,
        action = .sendAsync index thread hasContext now ∧
        host.exchanges[index]? = some ⟨request, context, .received⟩ ∧
        canHandle request = true ∧ Accepted constants lib now request principal ∧
        ((machine constants lib).step host action).1.threads thread = some principal := by
  cases action with
  | receive request user notAuthenticated => exact .inl rfl
  | onAuthorization index =>
      simp only [machine, step, stepOnAuthorization]
      split <;> exact .inl rfl
  | ping index =>
      simp only [machine, step, stepPing]
      split <;> exact .inl rfl
  | sendAsync index thread' hasContext now =>
      simp only [machine, step, stepSendAsync]
      split
      · next request context hget =>
          by_cases hthread : thread = thread'
          · subst hthread
            simp only [if_true]
            rcases sendAsync_currentPrincipal constants lib now request
              (ambientOf host thread hasContext context) with
              hkept | ⟨hpath, principal, haccepted, hset⟩
            · exact .inl hkept
            · exact .inr ⟨index, hasContext, now, request, context, principal, rfl, hget, hpath,
                haccepted, hset⟩
          · simp only [hthread, if_false]
            exact .inl trivial
      · exact .inl rfl

theorem remembers_step {thread : Nat} {initial : Option ClaimsPrincipal}
    (h : host.OnTrack constants lib actions emitted)
    (hremembers : Remembers constants lib actions thread initial (host.threads thread))
    (action : Action) :
    Remembers constants lib (actions ++ [action]) thread initial
      (((machine constants lib).step host action).1.threads thread) := by
  rcases step_threads constants lib host action thread with
    hkept | ⟨index, hasContext, now, request, context, principal, rfl, hget, hpath, haccepted, hset⟩
  · rw [hkept]
    exact hremembers.concat action
  · have hawaits : Awaits actions index request context.user := h.onTrack _ _ hget
    exact .inr ⟨index, request, _, principal, hawaits.handled thread hasContext now, rfl, hpath,
      haccepted, hset⟩

/-- No step takes the principal of a thread back. -/
theorem keeps_currentPrincipal (constants : Constants) (lib : Libraries) (thread : Nat) :
    (machine constants lib).Keeps (fun host => host.threads thread ≠ none) (fun _ => True) where
  step_inv host action h := by
    rcases step_threads constants lib host action thread with
      hkept | ⟨_, _, _, _, _, _, -, -, -, -, hset⟩
    · rw [hkept]
      exact h
    · rw [hset]
      exact Option.some_ne_none _
  step_events _ _ _ _ _ := trivial

/-- **What a thread remembers.** In every run, the principal of a thread is the
one it started out with, or one that was accepted for a request to the API when the
message handler took the request on that thread; once the thread has a principal, it
has one whatever the host does later. -/
theorem currentPrincipal_after (constants : Constants) (lib : Libraries)
    (threads : Nat → Option ClaimsPrincipal) (actions later : List Action) (thread : Nat) :
    Remembers constants lib actions thread (threads thread)
        (((machine constants lib).after ⟨threads, []⟩ actions).threads thread) ∧
      (((machine constants lib).after ⟨threads, []⟩ actions).threads thread ≠ none →
        ((machine constants lib).after ⟨threads, []⟩ (actions ++ later)).threads thread ≠
          none) := by
  constructor
  · have hstep (done : List Action) (emitted : List Served) (host : Host) (action : Action)
        (h : host.OnTrack constants lib done emitted ∧
          Remembers constants lib done thread (threads thread) (host.threads thread)) :=
      And.intro (onTrack_step h.1 action) (remembers_step h.1 h.2 action)
    have hinitial : Host.OnTrack constants lib [] [] ⟨threads, []⟩ ∧
        Remembers constants lib [] thread (threads thread) (threads thread) :=
      ⟨onTrack_initial constants lib threads, .inl rfl⟩
    exact (Machine.run_inv (R := fun done emitted (host : Host) =>
      host.OnTrack constants lib done emitted ∧
        Remembers constants lib done thread (threads thread) (host.threads thread))
      hstep hinitial actions).2
  · intro hsome
    rw [Machine.after_append]
    exact (keeps_currentPrincipal constants lib thread).after_inv later _ hsome

end Runs

/-! ### A run with two requests

The second request reuses the thread of the first one, before the filter has
looked at either. -/

def sampleStranger : HttpRequestMessage := { absolutePath := "/rest/API/demo" }

def sampleInterleaving : List Action :=
  [.receive sampleHttpRequest none notAuthenticated_none,
    .receive sampleStranger none notAuthenticated_none,
    .sendAsync 0 7 true 0, .sendAsync 1 7 true 0, .onAuthorization 1, .onAuthorization 0,
    .ping 1, .ping 0]

/-- The stranger is refused on a thread that remembers another's principal, as
it would be alone. -/
theorem answer_of_done_sample :
    ∃ handling, Handled sampleInterleaving 1 sampleStranger handling ∧
      answer sampleConstants sampleLibraries handling.now handling.hasContext sampleStranger
        handling.user = .ok unauthorized := by
  have hdone : ((machine sampleConstants sampleLibraries).after ⟨fun _ => none, []⟩
      sampleInterleaving).exchanges[1]? = some ⟨sampleStranger, ⟨none⟩, .done (.ok unauthorized)⟩ :=
    rfl
  exact answer_of_done sampleConstants sampleLibraries (fun _ => none) sampleInterleaving hdone

/-- The action runs for the other request only, which was entitled to it. -/
theorem ping_sound_sample :
    (machine sampleConstants sampleLibraries).events ⟨fun _ => none, []⟩ sampleInterleaving =
        [⟨0, sampleHttpRequest⟩] ∧
      (∃ handling, Handled sampleInterleaving 0 sampleHttpRequest handling ∧
        handling.hasContext = true ∧
        Entitled sampleConstants sampleLibraries handling.now sampleHttpRequest) ∧
      ∃ certificate, sampleHttpRequest.clientCertificate = some certificate := by
  have hserved : (machine sampleConstants sampleLibraries).events ⟨fun _ => none, []⟩
      sampleInterleaving = [⟨0, sampleHttpRequest⟩] := by decide
  have hsound := ping_sound sampleConstants sampleLibraries (fun _ => none) sampleInterleaving
  rw [hserved] at hsound
  have hmem : (⟨0, sampleHttpRequest⟩ : Served) ∈ [⟨0, sampleHttpRequest⟩] :=
    List.mem_singleton_self _
  have hcarries : CarriesConfirmation sampleLibraries sampleHttpRequest.token :=
    ⟨⟨none, false, { thumbprint := "AB" }⟩, 0, _, _, rfl, rfl⟩
  obtain ⟨certificate, -, hcertificate, -⟩ :=
    hsound.2 readsClaims_sampleLibraries _ hmem _ hmem rfl hcarries
  exact ⟨hserved, hsound.1 _ hmem, certificate, hcertificate⟩

/-- It has run for that request, so the request's token validated in an HTTP
context. -/
theorem ping_once_sample :
    ∃ handling, Handled sampleInterleaving 0 sampleHttpRequest handling ∧
      handling.hasContext = true ∧ ∃ principal, Validates sampleConstants sampleLibraries
        handling.now sampleHttpRequest principal ∧ Authorized sampleConstants principal := by
  have hserved : (machine sampleConstants sampleLibraries).events ⟨fun _ => none, []⟩
      sampleInterleaving = [⟨0, sampleHttpRequest⟩] := by decide
  obtain ⟨handling, hhandled, hiff⟩ := (ping_once sampleConstants sampleLibraries (fun _ => none)
    sampleInterleaving).2 0 sampleHttpRequest _ (.ok ping) rfl
  rw [hserved] at hiff
  obtain ⟨hcontext, -, hvalid⟩ := hiff.mp (List.mem_singleton_self _)
  exact ⟨handling, hhandled, hcontext, hvalid⟩

/-- The thread keeps the principal of the request that it was used for first. -/
theorem currentPrincipal_after_sample :
    ((machine sampleConstants sampleLibraries).after ⟨fun _ => none, []⟩
      sampleInterleaving).threads 7 ≠ none :=
  (currentPrincipal_after sampleConstants sampleLibraries (fun _ => none)
    (sampleInterleaving.take 3) (sampleInterleaving.drop 3) 7).2 (by decide)

end KombitSamples.Rest
