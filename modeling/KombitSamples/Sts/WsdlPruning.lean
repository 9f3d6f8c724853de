import KombitSamples.Sts.DecoratedEndpointBehavior

/-!
# KombitSamples.Sts.WsdlPruning

What is left of a service description after its export: the pruning of port
types, messages and the operations of the binding.

* `exportEndpoint_exact` — an export that returns filters exactly, and a
  second one changes nothing;
* `sameNames_iff` — when the published binding and port type agree;
* `messagesClosed_iff` — when the messages of a port type are pruned by
  their references;
* `completes_iff` — when the pruning of several port types completes.
-/

namespace KombitSamples.Sts.DecoratedEndpointBehavior

open Fallible Removal

/-! ## An exact filter -/

/-- A port type with the operations that its contract supports. -/
def prunedPortType (type : Wsdl.PortType) : Wsdl.PortType :=
  { type with operations := type.operations.filter fun operation => !rejects type.name operation }

/-- Every operation that is rejected by its port type. -/
def removedOperations (types : List Wsdl.PortType) : List Wsdl.Operation := types.flatMap rejected

/-- The messages to which no removed operation refers. -/
def keptMessages (serviceDescription : Wsdl.ServiceDescription) : List Wsdl.Message :=
  serviceDescription.messages.filter fun message =>
    !(removedOperations serviceDescription.portTypes).any (refers · message)

section PortTypes

variable {messages list2 list2' : List Wsdl.Message} {list : List Wsdl.Operation}
  {types types' : List Wsdl.PortType} {type : Wsdl.PortType}

/-- Operations of other port types can be taken out of a port type only if
there are none. -/
theorem append_rejected_subperm_iff (hlist : ∀ operation ∈ list, operation ∉ type.operations) :
    (list ++ rejected type).Subperm type.operations ↔ list = [] := by
  constructor
  · intro h
    refine List.eq_nil_iff_forall_not_mem.mpr fun operation hoperation => ?_
    exact hlist operation hoperation (h.subset (List.mem_append_left _ hoperation))
  · rintro rfl
    exact List.filter_sublist.subperm

/-- The operations carried along belong to none of the port types to come. -/
def Foreign (list : List Wsdl.Operation) (types : List Wsdl.PortType) : Prop :=
  ∀ operation ∈ list, ∀ type ∈ types, operation ∉ type.operations

theorem foreign_nil (types : List Wsdl.PortType) : Foreign [] types := by simp [Foreign]

/-- The rejected operations of a port type are foreign to the others. -/
theorem foreign_rejected
    (h : ∀ type' ∈ types, type.operations.Disjoint type'.operations) :
    Foreign (rejected type) types :=
  fun _ hoperation type' htype' => h type' htype' (List.mem_filter.mp hoperation).1

/-- If the loop returns, then it has filtered every port type. -/
theorem prunePortTypes_exact
    (hdisjoint : types.Pairwise fun type type' => type.operations.Disjoint type'.operations)
    (hforeign : Foreign list types)
    (h : prunePortTypes messages list list2 types = .ok (types', list2')) :
    types' = types.map prunedPortType ∧
      list2' = list2 ++ removedMessages messages (removedOperations types) := by
  induction types generalizing list list2 types' with
  | nil =>
      obtain ⟨rfl, rfl⟩ := Prod.mk.inj (Except.ok.inj h)
      exact ⟨rfl, (List.append_nil _).symm⟩
  | cons type types ih =>
      obtain ⟨-, hsub, rest, hrest, rfl⟩ := prunePortTypes_cons_eq_ok_iff.mp h
      obtain ⟨htype, htypes⟩ := List.pairwise_cons.mp hdisjoint
      obtain rfl := (append_rejected_subperm_iff fun operation hoperation =>
        hforeign operation hoperation type List.mem_cons_self).mp hsub
      rw [List.nil_append] at hrest
      obtain ⟨rfl, rfl⟩ := ih htypes (foreign_rejected htype) hrest
      have hdiff : type.operations.diff (rejected type) = (prunedPortType type).operations :=
        diff_filter _ _
      constructor
      · rw [List.nil_append, hdiff]
        rfl
      · rw [List.append_assoc]
        simp only [removedOperations, removedMessages, List.flatMap_cons, List.flatMap_append]

/-- The loops over each port type return. -/
theorem collectable_of_prunePortTypes
    (h : prunePortTypes messages list list2 types = .ok (types', list2')) :
    ∀ type ∈ types, Collectable messages type.name type.operations := by
  induction types generalizing list list2 types' with
  | nil => simp
  | cons type types ih =>
      obtain ⟨hcollectable, -, rest, hrest, -⟩ := prunePortTypes_cons_eq_ok_iff.mp h
      exact List.forall_mem_cons.mpr ⟨hcollectable, ih hrest⟩

/-- Where nothing is rejected, the loop changes nothing. -/
theorem prunePortTypes_of_accepted
    (h : ∀ type ∈ types, Collectable messages type.name type.operations ∧ rejected type = []) :
    prunePortTypes messages [] list2 types = .ok (types, list2) := by
  induction types with
  | nil => rfl
  | cons type types ih =>
      obtain ⟨⟨hcollectable, hrejected⟩, htypes⟩ := List.forall_mem_cons.mp h
      refine prunePortTypes_cons_eq_ok_iff.mpr ⟨hcollectable, ?_, types, ?_, ?_⟩
      · rw [hrejected]
        exact List.nil_subperm
      · rw [hrejected]
        simpa [removedMessages] using ih htypes
      · rw [hrejected]
        rfl

@[simp] theorem rejected_prunedPortType (type : Wsdl.PortType) :
    rejected (prunedPortType type) = [] := by
  simp [rejected, prunedPortType]

/-- A pruned port type can be collected again, with any messages. -/
theorem Collectable.pruned {messages' : List Wsdl.Message}
    (h : Collectable messages type.name type.operations) :
    Collectable messages' (prunedPortType type).name (prunedPortType type).operations where
  contractNamed hne := h.contractNamed fun hnil => hne (by simp [prunedPortType, hnil])
  named operation hoperation := h.named operation (List.mem_filter.mp hoperation).1
  readable operation hoperation hrejects := by
    have hmem : operation ∈ rejected (prunedPortType type) :=
      List.mem_filter.mpr ⟨hoperation, hrejects⟩
    rw [rejected_prunedPortType] at hmem
    cases hmem

end PortTypes

/-- If the pruning returns, it has filtered the port types and the messages. -/
theorem pruneServiceDescription_exact {serviceDescription serviceDescription' :
    Wsdl.ServiceDescription}
    (h : pruneServiceDescription serviceDescription = .ok serviceDescription') :
    serviceDescription'.portTypes = serviceDescription.portTypes.map prunedPortType ∧
      serviceDescription'.messages = keptMessages serviceDescription := by
  obtain ⟨list2, hprune, hmessages⟩ := pruneServiceDescription_eq_ok_iff.mp h
  obtain ⟨htypes, hlist2⟩ := prunePortTypes_exact serviceDescription.disjoint (foreign_nil _) hprune
  rw [List.nil_append] at hlist2
  rw [hlist2, removeEach_eq_ok_iff] at hmessages
  exact ⟨htypes, hmessages.2.trans (diff_flatMap_filter _ _ _)⟩

/-- A second pruning changes nothing. -/
theorem pruneServiceDescription_again {serviceDescription serviceDescription' :
    Wsdl.ServiceDescription}
    (h : pruneServiceDescription serviceDescription = .ok serviceDescription') :
    pruneServiceDescription serviceDescription' = .ok serviceDescription' := by
  obtain ⟨list2, hprune, -⟩ := pruneServiceDescription_eq_ok_iff.mp h
  refine pruneServiceDescription_eq_ok_iff.mpr ⟨[], ?_, removeEach_nil _ _⟩
  refine prunePortTypes_of_accepted fun type' htype' => ?_
  rw [(pruneServiceDescription_exact h).1] at htype'
  obtain ⟨type, htype, rfl⟩ := List.mem_map.mp htype'
  exact ⟨(collectable_of_prunePortTypes hprune type htype).pruned, rejected_prunedPortType type⟩

/-- A second pruning of the binding changes nothing. -/
theorem removeRedundantOperations_again {wsdlBinding wsdlBinding' : Wsdl.Binding}
    (h : removeRedundantOperations wsdlBinding = .ok wsdlBinding') :
    removeRedundantOperations wsdlBinding' = .ok wsdlBinding' := by
  obtain ⟨hnames, hoperations, -⟩ := removeRedundantOperations_eq_ok_iff.mp h
  have hremoved : removedBindings wsdlBinding' = [] := by
    simp [removedBindings, hoperations, keptBindings]
  have hkept : keptBindings wsdlBinding' = wsdlBinding'.operations := by
    simp [hoperations, keptBindings]
  refine removeRedundantOperations_eq_ok_iff.mpr ⟨?_, hkept.symm, ?_⟩
  · rw [hoperations]
    intro binding hbinding
    exact hnames binding (List.mem_filter.mp hbinding).1
  · rw [hremoved]
    rfl

/-- The export has kept exactly the supported operations, the supported
operation bindings and the messages that no removed operation refers to, each
in order. -/
structure ExactlyPruned (context context' : Wsdl.EndpointConversionContext) : Prop where
  portTypes : context'.serviceDescription.portTypes =
    context.serviceDescription.portTypes.map prunedPortType
  operations : context'.wsdlBinding.operations = keptBindings context.wsdlBinding
  messages : context'.serviceDescription.messages = keptMessages context.serviceDescription

theorem exactlyPruned_of_exportEndpoint {context context' : Wsdl.EndpointConversionContext}
    (h : exportEndpoint context = .ok context') : ExactlyPruned context context' := by
  obtain ⟨hdescription, hbinding⟩ := exportEndpoint_eq_ok_iff.mp h
  obtain ⟨hportTypes, hmessages⟩ := pruneServiceDescription_exact hdescription
  exact ⟨hportTypes, (removeRedundantOperations_eq_ok_iff.mp hbinding).2.1, hmessages⟩

/-- **An exact filter.** An export that returns has filtered exactly, and
another export of the result returns it unchanged. -/
theorem exportEndpoint_exact {context context' : Wsdl.EndpointConversionContext}
    (h : exportEndpoint context = .ok context') :
    ExactlyPruned context context' ∧ exportEndpoint context' = .ok context' := by
  obtain ⟨hdescription, hbinding⟩ := exportEndpoint_eq_ok_iff.mp h
  exact ⟨exactlyPruned_of_exportEndpoint h, exportEndpoint_eq_ok_iff.mpr
    ⟨pruneServiceDescription_again hdescription, removeRedundantOperations_again hbinding⟩⟩

/-! ### A contract with an unsupported operation -/

def issueOperation : Wsdl.Operation where
  id := 0
  name := some "Trust13IssueAsync"
  input := some "IssueIn"
  output := some "IssueOut"

def cancelOperation : Wsdl.Operation where
  id := 1
  name := some "Trust13CancelAsync"
  input := some "CancelIn"
  output := some "CancelOut"

/-- The asynchronous contract, with some of its operations and messages. -/
def asyncDescription (operations : List Wsdl.Operation) (messages : List Wsdl.Message) :
    Wsdl.ServiceDescription where
  portTypes := [{ name := some "IWSTrust13Async", operations := operations }]
  messages := messages
  disjoint := List.pairwise_singleton _ _

def issueMessages : List Wsdl.Message := [⟨0, some "IssueIn"⟩, ⟨1, some "IssueOut"⟩]

def cancelMessages : List Wsdl.Message := [⟨2, some "CancelIn"⟩, ⟨3, some "CancelOut"⟩]

/-- An operation binding that refers to no policy. -/
def bindingOf (operation : Wsdl.Operation) : Wsdl.OperationBinding where
  id := operation.id
  name := operation.name
  input := some []
  output := some []

def asyncContext (operations : List Wsdl.Operation) (messages : List Wsdl.Message) :
    Wsdl.EndpointConversionContext where
  serviceDescription := asyncDescription operations messages
  wsdlBinding := ⟨operations.map bindingOf, []⟩

def sampleContext : Wsdl.EndpointConversionContext :=
  asyncContext [issueOperation, cancelOperation] (issueMessages ++ cancelMessages)

theorem exportEndpoint_sampleContext :
    exportEndpoint sampleContext = .ok (asyncContext [issueOperation] issueMessages) := by
  rfl

theorem exportEndpoint_exact_sample :
    ExactlyPruned sampleContext (asyncContext [issueOperation] issueMessages) ∧
      exportEndpoint (asyncContext [issueOperation] issueMessages) =
        .ok (asyncContext [issueOperation] issueMessages) :=
  exportEndpoint_exact exportEndpoint_sampleContext

/-! ## The published names -/

/-- The port type and the binding have the same operation names. -/
def SameNames (type : Wsdl.PortType) (wsdlBinding : Wsdl.Binding) : Prop :=
  ∀ name, name ∈ type.operations.map (·.name) ↔ name ∈ wsdlBinding.operations.map (·.name)

/-- The names of a pruned port type are those that its contract supports. -/
theorem mem_names_prunedPortType {type : Wsdl.PortType} {name : Option String} :
    name ∈ (prunedPortType type).operations.map (·.name) ↔
      name ∈ type.operations.map (·.name) ∧
        accepts (type.name.getD "") (name.getD "") = true := by
  simp only [prunedPortType, List.mem_map, List.mem_filter, rejects, Bool.not_not]
  constructor
  · intro h
    obtain ⟨operation, ⟨hmem, haccepts⟩, rfl⟩ := h
    exact ⟨⟨operation, hmem, rfl⟩, haccepts⟩
  · intro h
    obtain ⟨⟨operation, hmem, rfl⟩, haccepts⟩ := h
    exact ⟨operation, ⟨hmem, haccepts⟩, rfl⟩

/-- The names that are left in the binding are those not on the list. -/
theorem mem_names_keptBindings {wsdlBinding : Wsdl.Binding} {name : Option String} :
    name ∈ (keptBindings wsdlBinding).map (·.name) ↔
      name ∈ wsdlBinding.operations.map (·.name) ∧ name.any isUnSupported = false := by
  simp only [keptBindings, List.mem_map, List.mem_filter, unSupported, Bool.not_eq_true']
  constructor
  · intro h
    obtain ⟨binding, ⟨hmem, hsupported⟩, rfl⟩ := h
    exact ⟨⟨binding, hmem, rfl⟩, hsupported⟩
  · intro h
    obtain ⟨⟨binding, hmem, rfl⟩, hsupported⟩ := h
    exact ⟨binding, ⟨hmem, hsupported⟩, rfl⟩

/-- **Agreement.** The binding and a port type that had the same names have
them after the export exactly when, of those names, the contract supports the
ones that are not on the list of unsupported names. -/
theorem sameNames_iff {context context' : Wsdl.EndpointConversionContext}
    (h : exportEndpoint context = .ok context') {i : Nat} {type : Wsdl.PortType}
    (htype : context.serviceDescription.portTypes[i]? = some type)
    (hsame : SameNames type context.wsdlBinding) :
    ∃ type', context'.serviceDescription.portTypes[i]? = some type' ∧
      (SameNames type' context'.wsdlBinding ↔
        ∀ name ∈ type.operations.map (·.name),
          accepts (type.name.getD "") (name.getD "") = !name.any isUnSupported) := by
  obtain ⟨hportTypes, hoperations, -⟩ := exactlyPruned_of_exportEndpoint h
  refine ⟨prunedPortType type, ?_, ?_⟩
  · rw [hportTypes, List.getElem?_map, htype, Option.map_some]
  · unfold SameNames
    simp only [hoperations, mem_names_prunedPortType, mem_names_keptBindings]
    constructor
    · intro hnames name hname
      have hiff := hnames name
      rw [← hsame name] at hiff
      cases hlist : name.any isUnSupported with
      | true => simpa [hname, hlist] using hiff
      | false => simpa [hname, hlist] using hiff
    · intro hagree name
      rw [← hsame name]
      constructor
      · intro h'
        obtain ⟨hname, haccepts⟩ := h'
        rw [hagree name hname, Bool.not_eq_true'] at haccepts
        exact ⟨hname, haccepts⟩
      · intro h'
        obtain ⟨hname, hsupported⟩ := h'
        rw [hagree name hname, hsupported]
        exact ⟨hname, rfl⟩

/-- The names of the asynchronous contract are treated alike. -/
theorem sameNames_async :
    ∃ type', (asyncContext [issueOperation] issueMessages).serviceDescription.portTypes[0]? =
        some type' ∧
      SameNames type' (asyncContext [issueOperation] issueMessages).wsdlBinding := by
  have hsame : SameNames ⟨some "IWSTrust13Async", [issueOperation, cancelOperation]⟩
      sampleContext.wsdlBinding := fun name => Iff.rfl
  obtain ⟨type', htype', hiff⟩ := sameNames_iff exportEndpoint_sampleContext (i := 0) rfl hsame
  exact ⟨type', htype', hiff.mpr (by decide)⟩

/-- The synchronous contract of February 2005. -/
def feb2005Context (operations : List Wsdl.Operation) : Wsdl.EndpointConversionContext where
  serviceDescription := {
    portTypes := [{ name := some "IWSTrustFeb2005Sync", operations := operations }]
    messages := []
    disjoint := List.pairwise_singleton _ _ }
  wsdlBinding := ⟨[bindingOf ⟨0, some "TrustFeb2005Issue", some "IssueIn", some "IssueOut"⟩], []⟩

/-- Its names are on neither list: the port type loses its operation and the
binding keeps it. -/
theorem feb2005_names_differ :
    let operation : Wsdl.Operation := ⟨0, some "TrustFeb2005Issue", some "IssueIn", some "IssueOut"⟩
    exportEndpoint (feb2005Context [operation]) = .ok (feb2005Context []) ∧
      SameNames ⟨some "IWSTrustFeb2005Sync", [operation]⟩ (feb2005Context [operation]).wsdlBinding ∧
      ¬ SameNames ⟨some "IWSTrustFeb2005Sync", []⟩ (feb2005Context []).wsdlBinding := by
  intro operation
  refine ⟨rfl, fun name => Iff.rfl, fun h => ?_⟩
  have hmem := (h (some "TrustFeb2005Issue")).mpr (List.mem_singleton_self _)
  cases hmem

/-! ## Messages of one port type -/

/-- The operation has an input and an output, which exist. -/
def HasMessages (messages : List Wsdl.Message) (operation : Wsdl.Operation) : Prop :=
  (∃ message ∈ messages, message.name ≠ none ∧ operation.input = message.name) ∧
    ∃ message ∈ messages, message.name ≠ none ∧ operation.output = message.name

instance (messages : List Wsdl.Message) (operation : Wsdl.Operation) :
    Decidable (HasMessages messages operation) :=
  inferInstanceAs (Decidable (_ ∧ _))

theorem HasMessages.readable {messages : List Wsdl.Message} {operation : Wsdl.Operation}
    (h : HasMessages messages operation) : MessagesReadable messages operation := by
  obtain ⟨⟨input, -, hinput, hinputName⟩, output, -, houtput, houtputName⟩ := h
  intro message _
  exact ⟨by rwa [hinputName], fun _ => by rwa [houtputName]⟩

/-- Operations refer to their inputs and outputs. -/
theorem refers_of_name {operation : Wsdl.Operation} {message : Wsdl.Message}
    (hname : message.name ≠ none)
    (h : operation.input = message.name ∨ operation.output = message.name) :
    refers operation message = true := by
  obtain ⟨name, hname⟩ := Option.ne_none_iff_exists'.mp hname
  simp only [refers, hname, Option.any_some, Bool.or_eq_true, beq_iff_eq]
  rwa [hname] at h

/-- The pruning of one port type returns when its loops do and no message is
collected twice. -/
theorem pruneServiceDescription_singleton {serviceDescription : Wsdl.ServiceDescription}
    {type : Wsdl.PortType} (htypes : serviceDescription.portTypes = [type]) :
    Returns (pruneServiceDescription serviceDescription) ↔
      Collectable serviceDescription.messages type.name type.operations ∧
        ∀ message ∈ serviceDescription.messages, (rejected type).countP (refers · message) ≤ 1 := by
  rw [← flatMap_filter_subperm_iff]
  constructor
  · intro h'
    obtain ⟨serviceDescription', h⟩ := h'
    obtain ⟨list2, hprune, hmessages⟩ := pruneServiceDescription_eq_ok_iff.mp h
    obtain ⟨-, hlist2⟩ := prunePortTypes_exact serviceDescription.disjoint (foreign_nil _) hprune
    have hcollectable := collectable_of_prunePortTypes hprune type (by simp [htypes])
    rw [htypes] at hlist2
    simp only [removedOperations, List.flatMap_cons, List.flatMap_nil, List.append_nil,
      List.nil_append] at hlist2
    rw [hlist2, removeEach_eq_ok_iff] at hmessages
    exact ⟨hcollectable, hmessages.1⟩
  · intro h'
    obtain ⟨hcollectable, hsub⟩ := h'
    have hprune : prunePortTypes serviceDescription.messages [] [] serviceDescription.portTypes =
        .ok ([{ type with operations := type.operations.diff (rejected type) }],
          removedMessages serviceDescription.messages (rejected type)) := by
      rw [htypes]
      exact prunePortTypes_cons_eq_ok_iff.mpr
        ⟨hcollectable, List.filter_sublist.subperm, [], rfl, rfl⟩
    have hdisjoint := disjoint_of_prunePortTypes hprune serviceDescription.disjoint
    exact ⟨⟨_, _, hdisjoint⟩, pruneServiceDescription_eq_ok_iff.mpr
      ⟨_, hprune, removeEach_eq_ok_iff.mpr ⟨hsub, rfl⟩⟩⟩

/-- The pruning returns, a message is removed exactly when some removed
operation refers to it and no remaining one does, and the messages of the
remaining operations exist. -/
def MessagesClosed (serviceDescription : Wsdl.ServiceDescription) (type : Wsdl.PortType) : Prop :=
  ∃ serviceDescription', pruneServiceDescription serviceDescription = .ok serviceDescription' ∧
    (∀ message ∈ serviceDescription.messages, message ∉ serviceDescription'.messages ↔
      (∃ operation ∈ rejected type, refers operation message = true) ∧
        ¬ ∃ operation ∈ (prunedPortType type).operations, refers operation message = true) ∧
    ∀ operation ∈ (prunedPortType type).operations,
      HasMessages serviceDescription'.messages operation

/-- The rejected and the remaining operations make up the port type. -/
theorem countP_operations (p : Wsdl.Operation → Bool) (type : Wsdl.PortType) :
    type.operations.countP p =
      (rejected type).countP p + (prunedPortType type).operations.countP p :=
  List.countP_eq_countP_filter_add _ _ _

/-- A message that a rejected operation shares with none is not the message of
a remaining one. -/
theorem not_kept_of_countP_le_one {type : Wsdl.PortType} {message : Wsdl.Message}
    (hrejected : ∃ operation ∈ rejected type, refers operation message = true)
    (h : type.operations.countP (refers · message) ≤ 1) :
    ¬ ∃ operation ∈ (prunedPortType type).operations, refers operation message = true := by
  have hsplit := countP_operations (refers · message) type
  rw [← List.countP_pos_iff] at hrejected ⊢
  omega

/-- The messages that are left, for one port type. -/
theorem mem_messages_iff {serviceDescription serviceDescription' : Wsdl.ServiceDescription}
    {type : Wsdl.PortType} (htypes : serviceDescription.portTypes = [type])
    (h : pruneServiceDescription serviceDescription = .ok serviceDescription')
    {message : Wsdl.Message} :
    message ∈ serviceDescription'.messages ↔ message ∈ serviceDescription.messages ∧
      ¬ ∃ operation ∈ rejected type, refers operation message = true := by
  rw [(pruneServiceDescription_exact h).2, keptMessages, htypes]
  simp only [List.mem_filter, removedOperations, List.flatMap_cons, List.flatMap_nil,
    List.append_nil, Bool.not_eq_true', List.any_eq_false, not_exists, not_and]

/-- **References of messages.** The messages of one port type are pruned by
their references exactly when everything has a name, and no message of a
rejected operation is shared with another operation. -/
theorem messagesClosed_iff {serviceDescription : Wsdl.ServiceDescription} {type : Wsdl.PortType}
    (htypes : serviceDescription.portTypes = [type])
    (hmessages : ∀ operation ∈ type.operations,
      HasMessages serviceDescription.messages operation) :
    MessagesClosed serviceDescription type ↔
      (type.operations ≠ [] → Named type.name) ∧
        (∀ operation ∈ type.operations, Named operation.name) ∧
        ∀ message ∈ serviceDescription.messages, ∀ operation ∈ rejected type,
          refers operation message = true → type.operations.countP (refers · message) ≤ 1 := by
  constructor
  · intro h'
    obtain ⟨serviceDescription', h, hremoved, -⟩ := h'
    obtain ⟨hcollectable, hcount⟩ := (pruneServiceDescription_singleton htypes).mp ⟨_, h⟩
    refine ⟨hcollectable.contractNamed, hcollectable.named, ?_⟩
    intro message hmessage operation hoperation hrefers
    have hgone : message ∉ serviceDescription'.messages := fun hleft =>
      ((mem_messages_iff htypes h).mp hleft).2 ⟨operation, hoperation, hrefers⟩
    have hkept := ((hremoved message hmessage).mp hgone).2
    have hsplit := countP_operations (refers · message) type
    have hrejected := hcount message hmessage
    rw [← List.countP_pos_iff] at hkept
    omega
  · intro h'
    obtain ⟨hcontract, hnamed, hshared⟩ := h'
    have hcollectable : Collectable serviceDescription.messages type.name type.operations :=
      ⟨hcontract, hnamed, fun operation hoperation _ => (hmessages operation hoperation).readable⟩
    have hcount : ∀ message ∈ serviceDescription.messages,
        (rejected type).countP (refers · message) ≤ 1 := by
      intro message hmessage
      by_cases hrejected : ∃ operation ∈ rejected type, refers operation message = true
      · obtain ⟨operation, hoperation, hrefers⟩ := hrejected
        have hsplit := countP_operations (refers · message) type
        have hall := hshared message hmessage operation hoperation hrefers
        omega
      · rw [← List.countP_pos_iff] at hrejected
        omega
    obtain ⟨serviceDescription', h⟩ :=
      (pruneServiceDescription_singleton htypes).mpr ⟨hcollectable, hcount⟩
    -- A message of a rejected operation is not one of a remaining operation.
    have hexclusive : ∀ message ∈ serviceDescription.messages,
        (∃ operation ∈ rejected type, refers operation message = true) →
        ¬ ∃ operation ∈ (prunedPortType type).operations, refers operation message = true := by
      intro message hmessage h'
      obtain ⟨operation, hoperation, hrefers⟩ := h'
      exact not_kept_of_countP_le_one ⟨operation, hoperation, hrefers⟩
        (hshared message hmessage operation hoperation hrefers)
    have hleft : ∀ operation ∈ (prunedPortType type).operations,
        ∀ message ∈ serviceDescription.messages, refers operation message = true →
        message ∈ serviceDescription'.messages := by
      intro operation hoperation message hmessage hrefers
      rw [mem_messages_iff htypes h]
      exact ⟨hmessage, fun hrejected =>
        hexclusive message hmessage hrejected ⟨operation, hoperation, hrefers⟩⟩
    refine ⟨serviceDescription', h, ?_, ?_⟩
    · intro message hmessage
      rw [mem_messages_iff htypes h]
      constructor
      · intro hgone
        have hrejected := not_not.mp fun hnone => hgone ⟨hmessage, hnone⟩
        exact ⟨hrejected, hexclusive message hmessage hrejected⟩
      · rintro ⟨hrejected, -⟩ ⟨-, hnone⟩
        exact hnone hrejected
    · intro operation hoperation
      obtain ⟨⟨input, hinput, hinputName, hinputEq⟩, output, houtput, houtputName, houtputEq⟩ :=
        hmessages operation (List.mem_filter.mp hoperation).1
      exact ⟨⟨input, hleft operation hoperation input hinput
          (refers_of_name hinputName (Or.inl hinputEq)), hinputName, hinputEq⟩,
        output, hleft operation hoperation output houtput
          (refers_of_name houtputName (Or.inr houtputEq)), houtputName, houtputEq⟩

theorem messagesClosed_sample :
    MessagesClosed sampleContext.serviceDescription
      ⟨some "IWSTrust13Async", [issueOperation, cancelOperation]⟩ := by
  exact (messagesClosed_iff rfl (by decide)).mpr ⟨by decide, by decide, by decide⟩

/-- The cancel operation with the messages of the issue operation. -/
def sharingOperation : Wsdl.Operation where
  id := 1
  name := some "Trust13CancelAsync"
  input := some "IssueIn"
  output := some "IssueOut"

/-- The messages that the two operations share are removed with the one that
is rejected, and the other one refers to nothing. -/
theorem messagesClosed_shared :
    (∀ operation ∈ [issueOperation, sharingOperation], HasMessages issueMessages operation) ∧
      pruneServiceDescription (asyncDescription [issueOperation, sharingOperation] issueMessages) =
        .ok (asyncDescription [issueOperation] []) ∧
      ¬ MessagesClosed (asyncDescription [issueOperation, sharingOperation] issueMessages)
        ⟨some "IWSTrust13Async", [issueOperation, sharingOperation]⟩ := by
  have hprune : pruneServiceDescription
      (asyncDescription [issueOperation, sharingOperation] issueMessages) =
      .ok (asyncDescription [issueOperation] []) := by
    rfl
  refine ⟨by decide, hprune, ?_⟩
  intro h'
  obtain ⟨serviceDescription', h, -, hkept⟩ := h'
  obtain rfl := Except.ok.inj (hprune.symm.trans h)
  obtain ⟨⟨input, hinput, -⟩, -⟩ := hkept issueOperation (by decide)
  cases hinput

/-! ## Several port types -/

/-- With names and messages throughout, the loop over the port types returns
exactly when none but the last has a rejected operation: the list it carries
along is applied to every port type that follows. -/
theorem returns_prunePortTypes_iff {messages list2 : List Wsdl.Message}
    {list : List Wsdl.Operation} {types : List Wsdl.PortType}
    (hdisjoint : types.Pairwise fun type type' => type.operations.Disjoint type'.operations)
    (hcollectable : ∀ type ∈ types, Collectable messages type.name type.operations)
    (hforeign : Foreign list types) :
    Returns (prunePortTypes messages list list2 types) ↔
      types = [] ∨ list = [] ∧ ∀ type ∈ types.dropLast, rejected type = [] := by
  induction types generalizing list list2 with
  | nil => simp [prunePortTypes]
  | cons type types ih =>
      obtain ⟨htype, htypes⟩ := List.pairwise_cons.mp hdisjoint
      obtain ⟨hcollect, hcollects⟩ := List.forall_mem_cons.mp hcollectable
      have hempty := append_rejected_subperm_iff fun operation hoperation =>
        hforeign operation hoperation type List.mem_cons_self
      have hturn : Returns (prunePortTypes messages list list2 (type :: types)) ↔ list = [] ∧
          Returns (prunePortTypes messages (rejected type)
            (list2 ++ removedMessages messages (rejected type)) types) := by
        constructor
        · intro h'
          obtain ⟨⟨types', list2'⟩, h⟩ := h'
          obtain ⟨-, hsub, rest, hrest, -⟩ := prunePortTypes_cons_eq_ok_iff.mp h
          obtain rfl := hempty.mp hsub
          exact ⟨rfl, _, hrest⟩
        · intro h'
          obtain ⟨rfl, ⟨rest, list2'⟩, hrest⟩ := h'
          exact ⟨_, prunePortTypes_cons_eq_ok_iff.mpr
            ⟨hcollect, hempty.mpr rfl, rest, hrest, rfl⟩⟩
      rw [hturn, ih htypes hcollects (foreign_rejected htype)]
      cases types with
      | nil => simp
      | cons type' types =>
          rw [List.dropLast_cons_cons, List.forall_mem_cons]
          simp

/-- The pruning returns, with every port type reduced to the operations that
it accepts. -/
def Completes (serviceDescription : Wsdl.ServiceDescription) : Prop :=
  ∃ serviceDescription', pruneServiceDescription serviceDescription = .ok serviceDescription' ∧
    serviceDescription'.portTypes = serviceDescription.portTypes.map prunedPortType

/-- Everything has a name, every operation has an input and an output, and no
message is shared between operations. -/
structure OwnMessages (serviceDescription : Wsdl.ServiceDescription) : Prop where
  typeNamed : ∀ type ∈ serviceDescription.portTypes, Named type.name
  named : ∀ type ∈ serviceDescription.portTypes, ∀ operation ∈ type.operations,
    Named operation.name
  messages : ∀ type ∈ serviceDescription.portTypes, ∀ operation ∈ type.operations,
    operation.input ≠ none ∧ operation.output ≠ none
  own : ∀ message ∈ serviceDescription.messages,
    (serviceDescription.portTypes.flatMap (·.operations)).Pairwise fun operation operation' =>
      ¬ (refers operation message = true ∧ refers operation' message = true)

theorem OwnMessages.collectable {serviceDescription : Wsdl.ServiceDescription}
    (h : OwnMessages serviceDescription) : ∀ type ∈ serviceDescription.portTypes,
      Collectable serviceDescription.messages type.name type.operations := by
  intro type htype
  refine ⟨fun _ => h.typeNamed type htype, h.named type htype, ?_⟩
  intro operation hoperation _ message _
  obtain ⟨hinput, houtput⟩ := h.messages type htype operation hoperation
  exact ⟨hinput, fun _ => houtput⟩

/-- The removed operations are operations of the port types, in order. -/
theorem removedOperations_sublist (types : List Wsdl.PortType) :
    (removedOperations types).Sublist (types.flatMap (·.operations)) := by
  induction types with
  | nil => exact List.Sublist.refl _
  | cons type types ih =>
      rw [removedOperations, List.flatMap_cons, List.flatMap_cons]
      exact List.filter_sublist.append ih

/-- **Completion.** With names and messages of their own, the pruning of
several port types completes exactly when none but the last has an operation
that is rejected. -/
theorem completes_iff {serviceDescription : Wsdl.ServiceDescription}
    (hown : OwnMessages serviceDescription) :
    Completes serviceDescription ↔
      ∀ type ∈ serviceDescription.portTypes.dropLast, rejected type = [] := by
  have hreturns : Returns (prunePortTypes serviceDescription.messages [] []
      serviceDescription.portTypes) ↔
        ∀ type ∈ serviceDescription.portTypes.dropLast, rejected type = [] := by
    rw [returns_prunePortTypes_iff serviceDescription.disjoint hown.collectable (foreign_nil _)]
    cases serviceDescription.portTypes <;> simp
  rw [← hreturns]
  constructor
  · intro h'
    obtain ⟨serviceDescription', h, -⟩ := h'
    obtain ⟨list2, hprune, -⟩ := pruneServiceDescription_eq_ok_iff.mp h
    exact ⟨_, hprune⟩
  · intro h'
    obtain ⟨⟨types', list2⟩, hprune⟩ := h'
    obtain ⟨-, hlist2⟩ := prunePortTypes_exact serviceDescription.disjoint (foreign_nil _) hprune
    have hsub : list2.Subperm serviceDescription.messages := by
      rw [hlist2, List.nil_append]
      refine flatMap_filter_subperm_iff.mpr fun message hmessage => ?_
      exact countP_le_one_of_pairwise ((hown.own message hmessage).sublist
        (removedOperations_sublist serviceDescription.portTypes))
    have h : pruneServiceDescription serviceDescription =
        .ok ⟨types', _, disjoint_of_prunePortTypes hprune serviceDescription.disjoint⟩ :=
      pruneServiceDescription_eq_ok_iff.mpr
        ⟨list2, hprune, removeEach_eq_ok_iff.mpr ⟨hsub, rfl⟩⟩
    exact ⟨_, h, (pruneServiceDescription_exact h).1⟩

/-- A description with the asynchronous and the synchronous contract, in some
order. -/
def bothContracts (first second : Wsdl.PortType)
    (hdisjoint : first.operations.Disjoint second.operations) : Wsdl.ServiceDescription where
  portTypes := [first, second]
  messages := issueMessages ++ cancelMessages ++ [⟨4, some "SyncIn"⟩, ⟨5, some "SyncOut"⟩]
  disjoint := by simpa using hdisjoint

def asyncPortType : Wsdl.PortType :=
  ⟨some "IWSTrust13Async", [issueOperation, cancelOperation]⟩

def syncPortType : Wsdl.PortType :=
  ⟨some "IWSTrust13Sync", [⟨2, some "Trust13Issue", some "SyncIn", some "SyncOut"⟩]⟩

theorem completes_syncFirst :
    Completes (bothContracts syncPortType asyncPortType (by decide)) :=
  (completes_iff ⟨by decide, by decide, by decide, by decide⟩).mpr (by decide)

/-- With the asynchronous contract first, its rejected operation is removed
from the synchronous one, too, which fails. -/
theorem completes_asyncFirst_fails :
    OwnMessages (bothContracts asyncPortType syncPortType (by decide)) ∧
      ¬ Completes (bothContracts asyncPortType syncPortType (by decide)) := by
  refine ⟨⟨by decide, by decide, by decide, by decide⟩, ?_⟩
  intro h'
  obtain ⟨serviceDescription', h, -⟩ := h'
  have hprune : pruneServiceDescription (bothContracts asyncPortType syncPortType (by decide)) =
      .error notFound := by
    rfl
  rw [hprune] at h
  cases h

end KombitSamples.Sts.DecoratedEndpointBehavior
