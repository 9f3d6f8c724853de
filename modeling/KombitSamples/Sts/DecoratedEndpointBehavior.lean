import KombitSamples.Removal
import KombitSamples.Wsdl

/-!
# KombitSamples.Sts.DecoratedEndpointBehavior

The export extension that prunes the published WSDL: operations that the
service does not support are taken out of the port types and of the binding,
with their messages and their policies.

Each loop has a theorem that says when it returns and what it returns:
`collectOperations_eq_ok_iff`, `prunePortTypes_cons_eq_ok_iff`,
`removeRedundantOperations_eq_ok_iff`.
-/

namespace KombitSamples.Sts.DecoratedEndpointBehavior

open Fallible Removal Xml

/-! ## What is supported -/

/-- The names that the constructor puts into `_unSupportedOperations`. -/
def unSupportedOperations : List String :=
  ["TrustFeb2005CancelAsync", "TrustFeb2005RenewAsync", "TrustFeb2005ValidateAsync",
    "TrustFeb2005CancelResponseAsync", "TrustFeb2005IssueResponseAsync",
    "TrustFeb2005RenewResponseAsync", "TrustFeb2005ValidateResponseAsync",
    "Trust13CancelAsync", "Trust13RenewAsync", "Trust13ValidateAsync",
    "Trust13CancelResponseAsync", "Trust13IssueResponseAsync", "Trust13RenewResponseAsync",
    "Trust13ValidateResponseAsync", "Trust13Cancel", "Trust13Renew", "Trust13Validate",
    "Trust13CancelResponse", "Trust13IssueResponse", "Trust13RenewResponse",
    "Trust13ValidateResponse"]

/-- `_unSupportedOperations.ContainsKey(name)`: a `StringDictionary` lowers
its keys.  Only ASCII letters lower to the letters of the names above. -/
def isUnSupported (name : String) : Bool :=
  (unSupportedOperations.map fun s => s.toList.map Char.toLower).contains
    (name.toList.map Char.toLower)

/-- The comparisons of `IsAValidServiceContract`. -/
def accepts (serviceContract operation : String) : Bool :=
  if serviceContract == "IWSTrustFeb2005Async" then operation == "TrustFeb2005IssueAsync"
  else
    let isValid := false
    let isValid :=
      if serviceContract == "IWSTrust13Async" then operation == "Trust13IssueAsync" else isValid
    if serviceContract == "IWSTrust13Sync" then operation == "Trust13Issue" else isValid

/-- `string.IsNullOrEmpty` guards a parameter. -/
def requireText (paramName : String) (s : Option String) : Except Exception String := do
  let text ← deref (.argumentNull paramName) s
  ensure (.argumentNull paramName) (!text.isEmpty)
  pure text

/-- `IsAValidServiceContract`. -/
def isAValidServiceContract (serviceContract operation : Option String) :
    Except Exception Bool := do
  let serviceContract ← requireText "serviceContract" serviceContract
  let operation ← requireText "operation" operation
  pure (accepts serviceContract operation)

/-! ## The port types and messages -/

def notFound : Exception := .argument
  "Cannot remove the specified item because it was not found in the specified Collection."

/-- The test of the innermost loop: the message is the input of the operation,
or else its output. -/
def isMessageOf (operation : Wsdl.Operation) (message : Wsdl.Message) : Except Exception Bool := do
  let input ← deref .nullReference operation.input
  if message.name = some input then pure true
  else do
    let output ← deref .nullReference operation.output
    pure (message.name = some output)

/-- The innermost loop: the messages it adds to `list2`. -/
def collectMessages (operation : Wsdl.Operation) :
    List Wsdl.Message → Except Exception (List Wsdl.Message)
  | [] => .ok []
  | message :: messages => do
      let found ← isMessageOf operation message
      let rest ← collectMessages operation messages
      pure (if found then message :: rest else rest)

/-- The loop over the operations of a port type: what it adds to `list` and to
`list2`. -/
def collectOperations (messages : List Wsdl.Message) (serviceContract : Option String) :
    List Wsdl.Operation → Except Exception (List Wsdl.Operation × List Wsdl.Message)
  | [] => .ok ([], [])
  | operation :: operations => do
      let valid ← isAValidServiceContract serviceContract operation.name
      if valid then collectOperations messages serviceContract operations
      else do
        let found ← collectMessages operation messages
        let (list, list2) ← collectOperations messages serviceContract operations
        pure (operation :: list, found ++ list2)

/-- The loop over the port types.  `list` and `list2` are declared outside of
it, and are carried along. -/
def prunePortTypes (messages : List Wsdl.Message) :
    List Wsdl.Operation → List Wsdl.Message → List Wsdl.PortType →
      Except Exception (List Wsdl.PortType × List Wsdl.Message)
  | _, list2, [] => .ok ([], list2)
  | list, list2, type :: types => do
      let (operations, found) ← collectOperations messages type.name type.operations
      let list := list ++ operations
      let list2 := list2 ++ found
      let operations ← removeEach notFound list type.operations
      let (types, list2) ← prunePortTypes messages list list2 types
      pure ({ type with operations := operations } :: types, list2)

/-! ### What the loops collect -/

/-- A text that is neither null nor empty. -/
def Named (s : Option String) : Prop := ∃ text, s = some text ∧ text ≠ ""

instance (s : Option String) : Decidable (Named s) :=
  decidable_of_iff (∃ text ∈ s, text ≠ "") Iff.rfl

theorem requireText_eq_ok_iff {paramName text : String} {s : Option String} :
    requireText paramName s = .ok text ↔ s = some text ∧ text ≠ "" := by
  simp only [requireText, bind_eq_ok, deref_eq_ok, ensure_eq_ok, pure_eq_ok, Bool.not_eq_true',
    String.isEmpty_eq_false_iff]
  constructor
  · intro h
    obtain ⟨text', hs, -, hne, rfl⟩ := h
    exact ⟨hs, hne⟩
  · intro h
    obtain ⟨hs, hne⟩ := h
    exact ⟨text, hs, (), hne, rfl⟩

/-- The operation is not supported by the contract. -/
def rejects (serviceContract : Option String) (operation : Wsdl.Operation) : Bool :=
  !accepts (serviceContract.getD "") (operation.name.getD "")

theorem isAValidServiceContract_eq_ok_iff {serviceContract : Option String}
    {operation : Wsdl.Operation} {valid : Bool} :
    isAValidServiceContract serviceContract operation.name = .ok valid ↔
      (Named serviceContract ∧ Named operation.name) ∧
        valid = !rejects serviceContract operation := by
  simp only [isAValidServiceContract, bind_eq_ok, requireText_eq_ok_iff, pure_eq_ok, Named,
    rejects, Bool.not_not]
  constructor
  · intro h
    obtain ⟨contract, ⟨rfl, hcontract⟩, name, ⟨hname, hne⟩, rfl⟩ := h
    rw [hname]
    exact ⟨⟨⟨contract, rfl, hcontract⟩, name, rfl, hne⟩, rfl⟩
  · intro h
    obtain ⟨⟨⟨contract, rfl, hcontract⟩, name, hname, hne⟩, rfl⟩ := h
    rw [hname]
    exact ⟨contract, ⟨rfl, hcontract⟩, name, ⟨rfl, hne⟩, rfl⟩

/-- The message is the input or the output of the operation. -/
def refers (operation : Wsdl.Operation) (message : Wsdl.Message) : Bool :=
  message.name.any fun name => operation.input == some name || operation.output == some name

/-- The operation has the messages that the innermost loop reads. -/
def MessagesReadable (messages : List Wsdl.Message) (operation : Wsdl.Operation) : Prop :=
  ∀ message ∈ messages, operation.input ≠ none ∧
    (message.name ≠ operation.input → operation.output ≠ none)

theorem isMessageOf_eq_ok_iff {operation : Wsdl.Operation} {message : Wsdl.Message}
    {found : Bool} :
    isMessageOf operation message = .ok found ↔
      (operation.input ≠ none ∧ (message.name ≠ operation.input → operation.output ≠ none)) ∧
        found = refers operation message := by
  unfold isMessageOf refers
  cases hinput : operation.input with
  | none => simp
  | some input =>
      simp only [deref_some, ok_bind]
      by_cases hname : message.name = some input
      · simp [hname, pure, Except.pure, eq_comm]
      · cases houtput : operation.output with
        | none => simp [hname]
        | some output =>
            cases hmessage : message.name with
            | none => simp [eq_comm]
            | some name =>
                have hne : name ≠ input := fun heq => hname (by rw [hmessage, heq])
                have hinput : (input == name) = false := beq_eq_false_iff_ne.mpr hne.symm
                have houtput : (output == name) = decide (name = output) := by
                  rw [Bool.beq_eq_decide_eq, decide_eq_decide]
                  exact eq_comm
                simp only [Option.some.injEq, if_neg hne, deref_some, ok_bind, pure_eq_ok,
                  Option.any_some, Option.some_beq_some, hinput, houtput, Bool.false_or, ne_eq,
                  reduceCtorEq, not_false_eq_true, implies_true, and_self, true_and]
                exact eq_comm

theorem collectMessages_eq_ok_iff {operation : Wsdl.Operation}
    {messages found : List Wsdl.Message} :
    collectMessages operation messages = .ok found ↔
      MessagesReadable messages operation ∧ found = messages.filter (refers operation) := by
  induction messages generalizing found with
  | nil => simp [collectMessages, MessagesReadable, eq_comm]
  | cons message messages ih =>
      simp only [collectMessages, bind_eq_ok, isMessageOf_eq_ok_iff, ih, pure_eq_ok,
        MessagesReadable, List.forall_mem_cons, List.filter_cons]
      constructor
      · intro h
        obtain ⟨_, ⟨hmessage, rfl⟩, _, ⟨hmessages, rfl⟩, rfl⟩ := h
        exact ⟨⟨hmessage, hmessages⟩, rfl⟩
      · intro h
        obtain ⟨⟨hmessage, hmessages⟩, rfl⟩ := h
        exact ⟨_, ⟨hmessage, rfl⟩, _, ⟨hmessages, rfl⟩, rfl⟩

/-- The messages that a list of removed operations refers to, once for each
operation. -/
def removedMessages (messages : List Wsdl.Message) (removed : List Wsdl.Operation) :
    List Wsdl.Message :=
  removed.flatMap fun operation => messages.filter (refers operation)

/-- What the loops over a port type ask of its operations: everything has a
name, and rejected operations have messages. -/
structure Collectable (messages : List Wsdl.Message) (serviceContract : Option String)
    (operations : List Wsdl.Operation) : Prop where
  contractNamed : operations ≠ [] → Named serviceContract
  named : ∀ operation ∈ operations, Named operation.name
  readable : ∀ operation ∈ operations, rejects serviceContract operation = true →
    MessagesReadable messages operation

theorem collectable_cons {messages : List Wsdl.Message} {serviceContract : Option String}
    {operation : Wsdl.Operation} {operations : List Wsdl.Operation} :
    Collectable messages serviceContract (operation :: operations) ↔
      (Named serviceContract ∧ Named operation.name) ∧
        (rejects serviceContract operation = true → MessagesReadable messages operation) ∧
        Collectable messages serviceContract operations := by
  constructor
  · intro h
    have hcontract := h.contractNamed (List.cons_ne_nil operation operations)
    exact ⟨⟨hcontract, h.named _ List.mem_cons_self⟩, h.readable _ List.mem_cons_self,
      fun _ => hcontract, fun o ho => h.named o (List.mem_cons_of_mem _ ho),
      fun o ho => h.readable o (List.mem_cons_of_mem _ ho)⟩
  · intro h
    obtain ⟨⟨hcontract, hname⟩, hreadable, hrest⟩ := h
    exact ⟨fun _ => hcontract, List.forall_mem_cons.mpr ⟨hname, hrest.named⟩,
      List.forall_mem_cons.mpr ⟨hreadable, hrest.readable⟩⟩

/-- The loops over a port type collect exactly its rejected operations, and
the messages these refer to. -/
theorem collectOperations_eq_ok_iff {messages : List Wsdl.Message}
    {serviceContract : Option String} {operations list : List Wsdl.Operation}
    {list2 : List Wsdl.Message} :
    collectOperations messages serviceContract operations = .ok (list, list2) ↔
      Collectable messages serviceContract operations ∧
        list = operations.filter (rejects serviceContract) ∧
        list2 = removedMessages messages list := by
  induction operations generalizing list list2 with
  | nil =>
      have hempty : Collectable messages serviceContract [] := ⟨by simp, by simp, by simp⟩
      simp only [collectOperations, Except.ok.injEq, Prod.mk.injEq, hempty, true_and,
        List.filter_nil]
      constructor
      · rintro ⟨rfl, rfl⟩
        exact ⟨rfl, rfl⟩
      · rintro ⟨rfl, rfl⟩
        exact ⟨rfl, rfl⟩
  | cons operation operations ih =>
      simp only [collectOperations, bind_eq_ok, isAValidServiceContract_eq_ok_iff,
        collectable_cons]
      cases hrejects : rejects serviceContract operation with
      | false =>
          rw [List.filter_cons_of_neg (by simp [hrejects])]
          constructor
          · intro h
            obtain ⟨_, ⟨hnamed, rfl⟩, h⟩ := h
            obtain ⟨hcollectable, hlist⟩ := ih.mp h
            exact ⟨⟨hnamed, by simp, hcollectable⟩, hlist⟩
          · intro h
            obtain ⟨⟨hnamed, -, hcollectable⟩, hlist⟩ := h
            exact ⟨_, ⟨hnamed, rfl⟩, ih.mpr ⟨hcollectable, hlist⟩⟩
      | true =>
          rw [List.filter_cons_of_pos hrejects]
          constructor
          · intro h
            obtain ⟨_, ⟨hnamed, rfl⟩, h⟩ := h
            simp only [Bool.not_true, Bool.false_eq_true, if_false, bind_eq_ok,
              collectMessages_eq_ok_iff, pure_eq_ok, Prod.exists, Prod.mk.injEq] at h
            obtain ⟨_, ⟨hreadable, rfl⟩, list', list2', h, rfl, rfl⟩ := h
            obtain ⟨hcollectable, rfl, rfl⟩ := ih.mp h
            exact ⟨⟨hnamed, fun _ => hreadable, hcollectable⟩, rfl, rfl⟩
          · intro h
            obtain ⟨⟨hnamed, hreadable, hcollectable⟩, rfl, rfl⟩ := h
            refine ⟨_, ⟨hnamed, rfl⟩, ?_⟩
            simp only [Bool.not_true, Bool.false_eq_true, if_false, bind_eq_ok,
              collectMessages_eq_ok_iff, pure_eq_ok, Prod.exists, Prod.mk.injEq]
            exact ⟨_, ⟨hreadable rfl, rfl⟩, _, _, ih.mpr ⟨hcollectable, rfl, rfl⟩, rfl, rfl⟩

/-- The rejected operations of a port type. -/
def rejected (type : Wsdl.PortType) : List Wsdl.Operation :=
  type.operations.filter (rejects type.name)

section PortTypes

variable {messages list2 list2' : List Wsdl.Message} {list : List Wsdl.Operation}
  {types types' : List Wsdl.PortType}

/-- One turn of the loop over the port types: everything in the list so far,
and the rejected operations of this port type, has to be among its
operations. -/
theorem prunePortTypes_cons_eq_ok_iff {type : Wsdl.PortType} :
    prunePortTypes messages list list2 (type :: types) = .ok (types', list2') ↔
      Collectable messages type.name type.operations ∧
        (list ++ rejected type).Subperm type.operations ∧
        ∃ rest, prunePortTypes messages (list ++ rejected type)
            (list2 ++ removedMessages messages (rejected type)) types = .ok (rest, list2') ∧
          types' = { type with
            operations := type.operations.diff (list ++ rejected type) } :: rest := by
  simp only [prunePortTypes, bind_eq_ok, Prod.exists, collectOperations_eq_ok_iff,
    removeEach_eq_ok_iff, pure_eq_ok, Prod.mk.injEq]
  constructor
  · intro h
    obtain ⟨_, _, ⟨hcollectable, rfl, rfl⟩, _, ⟨hsub, rfl⟩, rest, _, hrest, rfl, rfl⟩ := h
    exact ⟨hcollectable, hsub, rest, hrest, rfl⟩
  · intro h
    obtain ⟨hcollectable, hsub, rest, hrest, rfl⟩ := h
    exact ⟨_, _, ⟨hcollectable, rfl, rfl⟩, _, ⟨hsub, rfl⟩, rest, _, hrest, rfl, rfl⟩

/-- The loop only takes operations out. -/
theorem subset_of_prunePortTypes
    (h : prunePortTypes messages list list2 types = .ok (types', list2')) :
    ∀ type' ∈ types', ∃ type ∈ types, type'.operations ⊆ type.operations := by
  induction types generalizing list list2 types' with
  | nil =>
      obtain ⟨rfl, -⟩ := Prod.mk.inj (Except.ok.inj h)
      simp
  | cons type types ih =>
      obtain ⟨-, -, rest, hrest, rfl⟩ := prunePortTypes_cons_eq_ok_iff.mp h
      refine List.forall_mem_cons.mpr ⟨⟨type, List.mem_cons_self, List.diff_subset _ _⟩, ?_⟩
      intro type' htype'
      obtain ⟨t, ht, hsubset⟩ := ih hrest type' htype'
      exact ⟨t, List.mem_cons_of_mem type ht, hsubset⟩

/-- So an operation still belongs to one port type. -/
theorem disjoint_of_prunePortTypes
    (h : prunePortTypes messages list list2 types = .ok (types', list2'))
    (hdisjoint : types.Pairwise fun type type' => type.operations.Disjoint type'.operations) :
    types'.Pairwise fun type type' => type.operations.Disjoint type'.operations := by
  induction types generalizing list list2 types' with
  | nil =>
      obtain ⟨rfl, -⟩ := Prod.mk.inj (Except.ok.inj h)
      exact List.Pairwise.nil
  | cons type types ih =>
      obtain ⟨-, -, rest, hrest, rfl⟩ := prunePortTypes_cons_eq_ok_iff.mp h
      obtain ⟨htype, htypes⟩ := List.pairwise_cons.mp hdisjoint
      refine List.pairwise_cons.mpr ⟨?_, ih hrest htypes⟩
      intro type' htype' operation hoperation hoperation'
      obtain ⟨t, ht, hsubset⟩ := subset_of_prunePortTypes hrest type' htype'
      exact htype t ht (List.diff_subset _ _ hoperation) (hsubset hoperation')

end PortTypes

/-- The first part of `ExportEndpoint`: the port types, and then the messages
in `list2`. -/
def pruneServiceDescription (serviceDescription : Wsdl.ServiceDescription) :
    Except Exception Wsdl.ServiceDescription :=
  match h : prunePortTypes serviceDescription.messages [] [] serviceDescription.portTypes with
  | .error ex => .error ex
  | .ok (portTypes, list2) => do
      let messages ← removeEach notFound list2 serviceDescription.messages
      pure ⟨portTypes, messages, disjoint_of_prunePortTypes h serviceDescription.disjoint⟩

theorem pruneServiceDescription_eq_ok_iff
    {serviceDescription serviceDescription' : Wsdl.ServiceDescription} :
    pruneServiceDescription serviceDescription = .ok serviceDescription' ↔
      ∃ list2, prunePortTypes serviceDescription.messages [] [] serviceDescription.portTypes =
          .ok (serviceDescription'.portTypes, list2) ∧
        removeEach notFound list2 serviceDescription.messages =
          .ok serviceDescription'.messages := by
  unfold pruneServiceDescription
  split
  · next ex h => simp [h]
  · next portTypes list2 h =>
      simp only [bind_eq_ok, pure_eq_ok]
      constructor
      · intro hresult
        obtain ⟨messages, hmessages, rfl⟩ := hresult
        exact ⟨list2, h, hmessages⟩
      · intro hresult
        obtain ⟨list2', hprune, hmessages⟩ := hresult
        obtain ⟨hportTypes, rfl⟩ := Prod.mk.inj (Except.ok.inj (h.symm.trans hprune))
        refine ⟨serviceDescription'.messages, hmessages, ?_⟩
        cases serviceDescription'
        simp only [hportTypes]

/-! ## The binding and its policies -/

def policyReferenceName : XmlQualifiedName :=
  ⟨"PolicyReference", "http://schemas.xmlsoap.org/ws/2004/09/policy"⟩

def policyName : XmlQualifiedName := ⟨"Policy", "http://schemas.xmlsoap.org/ws/2004/09/policy"⟩

def transportBindingName : XmlQualifiedName :=
  ⟨"TransportBinding", "http://schemas.xmlsoap.org/ws/2005/07/securitypolicy"⟩

def idName : XmlQualifiedName := ⟨"Id",
  "http://docs.oasis-open.org/wss/2004/01/oasis-200401-wss-wssecurity-utility-1.0.xsd"⟩

/-- The `URI` of a policy reference. -/
def uriOf (extension : Wsdl.Extension) : Option String :=
  extension.asElement.bind fun element =>
    if element.name = policyReferenceName then some (element.getAttribute "URI") else none

/-- The loops over the extensions of an input or an output: the `URI` of the
first policy reference, null when there is none. -/
def firstUri (extensions : List Wsdl.Extension) : Option String := extensions.findSome? uriOf

/-- `StringComparer.Ordinal.Equals(uri.Substring(1), id)`, unless `uri` is
null. -/
def refersTo (uri : Option String) (id : String) : Except Exception Bool :=
  match uri with
  | none => .ok false
  | some uri => do
      let target ← Text.substring uri 1
      pure (target == id)

/-- `element3.FirstChild.FirstChild.RemoveChild(transportNode)`; the node is
given by its path, and the path to `FirstChild.FirstChild` is `[0, 0]`. -/
def removeTransportNode (element3 : XmlElement) (transportNode : List Nat) :
    Except Exception XmlElement := do
  let firstChild ← deref .nullReference element3.childNodes.head?
  let parent ← deref .nullReference firstChild.childNodes.head?
  match parent with
  | .other _ => .error (.invalidOperation
      "The current node cannot contain other nodes, so the node to be removed is not its child.")
  | .element .. => do
      ensure (.argument "The node to be removed is not a child of this node.")
        (transportNode.dropLast == [0, 0])
      pure (element3.eraseAt transportNode)

/-- The two variables that the loop over the extensions sets. -/
inductive Variable where
  | extension
  | obj5
deriving DecidableEq, Repr

/-- Whether they are set. -/
structure Found where
  extension : Bool := false
  obj5 : Bool := false

/-- An extension is assigned to a variable, or to none. -/
def Found.assign (found : Found) : Option Variable → Found
  | some .extension => { found with extension := true }
  | some .obj5 => { found with obj5 := true }
  | none => found

/-- A comparison is made only while its variable is null. -/
def stillRefersTo (found : Bool) (uri : Option String) (id : String) : Except Exception Bool :=
  if found then .ok false else refersTo uri id

/-- The search for the two policies: the variable that an element is assigned
to.  The URIs are `attribute` and `str2` in the code. -/
def findPolicy (inputUri outputUri : Option String) (found : Found) (element3 : XmlElement) :
    Except Exception (Option Variable) :=
  if element3.name = policyName then
    let str3 := element3.getAttributeNS idName
    if str3.isEmpty then .ok none
    else do
      let isInput ← stillRefersTo found.extension inputUri str3
      if isInput then pure (some .extension)
      else do
        let isOutput ← stillRefersTo found.obj5 outputUri str3
        pure (if isOutput then some .obj5 else none)
  else .ok none

/-- One turn of the loop over the extensions of the description: the extension
as the turn leaves it, and the variable it is assigned to. -/
def visitExtension (inputUri outputUri : Option String) (found : Found) (obj6 : Wsdl.Extension) :
    Except Exception (Wsdl.Extension × Option Variable) := do
  -- The loop dereferences `element3` before it tests it for null.
  let element3 ← deref .nullReference obj6.asElement
  match element3.firstByTagName transportBindingName with
  | some transportNode => do
      let element3 ← removeTransportNode element3 transportNode
      pure (.element element3, none)
  | none => do
      let assigned ← findPolicy inputUri outputUri found element3
      pure (obj6, assigned)

/-- The loop over the extensions of the description. -/
def visitExtensions (inputUri outputUri : Option String) :
    Found → List Wsdl.Extension → Except Exception (List (Wsdl.Extension × Option Variable))
  | _, [] => .ok []
  | found, obj6 :: extensions => do
      let visited ← visitExtension inputUri outputUri found obj6
      let rest ← visitExtensions inputUri outputUri (found.assign visited.2) extensions
      pure (visited :: rest)

/-- The extensions without those that a variable refers to. -/
def removeAssigned (visited : List (Wsdl.Extension × Option Variable)) : List Wsdl.Extension :=
  (visited.filter (·.2 = none)).map (·.1)

/-- `RemoveRedundantOperationPolicy`. -/
def removeRedundantOperationPolicy (extensions : List Wsdl.Extension)
    (operationBinding : Wsdl.OperationBinding) : Except Exception (List Wsdl.Extension) := do
  let input ← deref .nullReference operationBinding.input
  let inputUri := firstUri input
  let output ← deref .nullReference operationBinding.output
  let outputUri := firstUri output
  let visited ← visitExtensions inputUri outputUri {} extensions
  pure (removeAssigned visited)

/-- The first loop of `RemoveRedundantOperations`. -/
def collectUnSupported : List Wsdl.OperationBinding → Except Exception (List Wsdl.OperationBinding)
  | [] => .ok []
  | binding :: operations => do
      let name ← deref (.argumentNull "key") binding.name
      let list ← collectUnSupported operations
      pure (if isUnSupported name then binding :: list else list)

/-- The second loop. -/
def removeOperations : List Wsdl.OperationBinding → Wsdl.Binding → Except Exception Wsdl.Binding
  | [], wsdlBinding => .ok wsdlBinding
  | binding2 :: list, wsdlBinding => do
      let operations ← remove notFound binding2 wsdlBinding.operations
      let extensions ← removeRedundantOperationPolicy wsdlBinding.extensions binding2
      removeOperations list ⟨operations, extensions⟩

/-- `RemoveRedundantOperations`. -/
def removeRedundantOperations (wsdlBinding : Wsdl.Binding) : Except Exception Wsdl.Binding := do
  let list ← collectUnSupported wsdlBinding.operations
  removeOperations list wsdlBinding

/-- `ExportEndpoint`. -/
def exportEndpoint (context : Wsdl.EndpointConversionContext) :
    Except Exception Wsdl.EndpointConversionContext := do
  let serviceDescription ← pruneServiceDescription context.serviceDescription
  let wsdlBinding ← removeRedundantOperations context.wsdlBinding
  pure ⟨serviceDescription, wsdlBinding⟩

/-! ### What is taken out of the binding -/

/-- The name of the operation binding is on the list. -/
def unSupported (binding : Wsdl.OperationBinding) : Bool := binding.name.any isUnSupported

theorem collectUnSupported_eq_ok_iff {operations list : List Wsdl.OperationBinding} :
    collectUnSupported operations = .ok list ↔
      (∀ binding ∈ operations, binding.name ≠ none) ∧ list = operations.filter unSupported := by
  induction operations generalizing list with
  | nil => simp [collectUnSupported, eq_comm]
  | cons binding operations ih =>
      simp only [collectUnSupported, bind_eq_ok, deref_eq_ok, ih, pure_eq_ok,
        List.forall_mem_cons, List.filter_cons, unSupported]
      constructor
      · intro h
        obtain ⟨name, hname, _, ⟨hnames, rfl⟩, rfl⟩ := h
        exact ⟨⟨by simp [hname], hnames⟩, by simp [hname]⟩
      · intro h
        obtain ⟨⟨hname, hnames⟩, rfl⟩ := h
        obtain ⟨name, hname⟩ := Option.ne_none_iff_exists'.mp hname
        exact ⟨name, hname, _, ⟨hnames, rfl⟩, by simp [hname]⟩

/-- What the second loop does to the extensions. -/
def removePolicies : List Wsdl.OperationBinding → List Wsdl.Extension →
    Except Exception (List Wsdl.Extension)
  | [], extensions => .ok extensions
  | binding2 :: list, extensions => do
      let extensions ← removeRedundantOperationPolicy extensions binding2
      removePolicies list extensions

/-- The second loop takes out the operations of the list, and prunes the
policies for one after the other. -/
theorem removeOperations_eq_ok_iff {list : List Wsdl.OperationBinding}
    {wsdlBinding wsdlBinding' : Wsdl.Binding} :
    removeOperations list wsdlBinding = .ok wsdlBinding' ↔
      removeEach notFound list wsdlBinding.operations = .ok wsdlBinding'.operations ∧
        removePolicies list wsdlBinding.extensions = .ok wsdlBinding'.extensions := by
  induction list generalizing wsdlBinding with
  | nil =>
      cases wsdlBinding
      cases wsdlBinding'
      simp [removeOperations, removePolicies]
  | cons binding2 list ih =>
      simp only [removeOperations, removeEach, removePolicies, bind_eq_ok, ih]
      constructor
      · intro h
        obtain ⟨operations, hremove, extensions, hpolicy, hoperations, hextensions⟩ := h
        exact ⟨⟨operations, hremove, hoperations⟩, extensions, hpolicy, hextensions⟩
      · intro h
        obtain ⟨⟨operations, hremove, hoperations⟩, extensions, hpolicy, hextensions⟩ := h
        exact ⟨operations, hremove, extensions, hpolicy, hoperations, hextensions⟩

/-- The unsupported operation bindings. -/
def removedBindings (wsdlBinding : Wsdl.Binding) : List Wsdl.OperationBinding :=
  wsdlBinding.operations.filter unSupported

/-- The others. -/
def keptBindings (wsdlBinding : Wsdl.Binding) : List Wsdl.OperationBinding :=
  wsdlBinding.operations.filter fun binding => !unSupported binding

/-- `RemoveRedundantOperations` keeps exactly the supported operation bindings,
and prunes the policies for each of the others. -/
theorem removeRedundantOperations_eq_ok_iff {wsdlBinding wsdlBinding' : Wsdl.Binding} :
    removeRedundantOperations wsdlBinding = .ok wsdlBinding' ↔
      (∀ binding ∈ wsdlBinding.operations, binding.name ≠ none) ∧
        wsdlBinding'.operations = keptBindings wsdlBinding ∧
        removePolicies (removedBindings wsdlBinding) wsdlBinding.extensions =
          .ok wsdlBinding'.extensions := by
  simp only [removeRedundantOperations, bind_eq_ok, collectUnSupported_eq_ok_iff,
    removeOperations_eq_ok_iff]
  constructor
  · intro h
    obtain ⟨_, ⟨hnames, rfl⟩, hoperations, hextensions⟩ := h
    rw [removeEach_filter, Except.ok.injEq] at hoperations
    exact ⟨hnames, hoperations.symm, hextensions⟩
  · intro h
    obtain ⟨hnames, hoperations, hextensions⟩ := h
    refine ⟨_, ⟨hnames, rfl⟩, ?_, hextensions⟩
    rw [removeEach_filter, hoperations]
    rfl

theorem exportEndpoint_eq_ok_iff {context context' : Wsdl.EndpointConversionContext} :
    exportEndpoint context = .ok context' ↔
      pruneServiceDescription context.serviceDescription = .ok context'.serviceDescription ∧
        removeRedundantOperations context.wsdlBinding = .ok context'.wsdlBinding := by
  simp only [exportEndpoint, bind_eq_ok, pure_eq_ok]
  constructor
  · intro h
    obtain ⟨serviceDescription, hdescription, wsdlBinding, hbinding, rfl⟩ := h
    exact ⟨hdescription, hbinding⟩
  · intro h
    obtain ⟨hdescription, hbinding⟩ := h
    exact ⟨_, hdescription, _, hbinding, rfl⟩

end KombitSamples.Sts.DecoratedEndpointBehavior
