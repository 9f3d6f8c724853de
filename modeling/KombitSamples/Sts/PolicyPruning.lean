import KombitSamples.Sts.DecoratedEndpointBehavior

/-!
# KombitSamples.Sts.PolicyPruning

What the pruning of policies does to the extensions of a service description.
Each removed operation binding makes a pass over them: it takes out the
policies that its input and its output refer to, and every other extension
loses its first `TransportBinding`.

* `removeRedundantOperationPolicy_eq_ok_iff` — when a pass returns, and what
  it leaves;
* `prunes_iff` — when all passes return;
* `policiesClosed_iff` — when the policies are pruned by their references.
-/

namespace KombitSamples.Sts.DecoratedEndpointBehavior

open Fallible Removal Xml

/-! ## Extensions -/

/-- The extension without its first transport binding. -/
def withoutTransport : Wsdl.Extension → Wsdl.Extension
  | .element e => .element (e.eraseFirst transportBindingName)
  | .other kind => .other kind

/-- The number of outermost transport bindings. -/
def transportCount : Wsdl.Extension → Nat
  | .element e => e.countByTagName transportBindingName
  | .other _ => 0

/-- The id of a policy; only a non-empty one counts. -/
def policyId : Wsdl.Extension → Option String
  | .element e =>
      if e.name = policyName ∧ e.getAttributeNS idName ≠ "" then some (e.getAttributeNS idName)
      else none
  | .other _ => none

/-- The id of a policy that the search considers: one without transport
bindings. -/
def candidateId (extension : Wsdl.Extension) : Option String :=
  if transportCount extension = 0 then policyId extension else none

/-- The id that a URI stands for in the search, which drops its first
character. -/
def targetOf (uri : String) : String := String.ofList (uri.toList.drop 1)

/-- The search takes the extension for the one that the URI refers to. -/
def designates (uri : Option String) (extension : Wsdl.Extension) : Bool :=
  uri.any fun uri => candidateId extension = some (targetOf uri)

theorem policyId_ne_empty {extension : Wsdl.Extension} {id : String}
    (h : policyId extension = some id) : id ≠ "" := by
  cases extension with
  | element e =>
      rw [policyId] at h
      split at h
      · next hpolicy =>
          obtain rfl := Option.some.inj h
          exact hpolicy.2
      · cases h
  | other kind => cases h

theorem policyId_of_candidateId {extension : Wsdl.Extension} {id : String}
    (h : candidateId extension = some id) : policyId extension = some id := by
  unfold candidateId at h
  split at h
  · exact h
  · cases h

@[simp] theorem transportCount_withoutTransport (extension : Wsdl.Extension) :
    transportCount (withoutTransport extension) = transportCount extension - 1 := by
  cases extension with
  | element e => exact e.countByTagName_eraseFirst
  | other kind => rfl

/-- An extension without transport bindings stays as it is. -/
theorem withoutTransport_of_count_eq_zero {extension : Wsdl.Extension}
    (h : transportCount extension = 0) : withoutTransport extension = extension := by
  cases extension with
  | element e =>
      rw [withoutTransport, e.eraseFirst_of_none (e.firstByTagName_eq_none_iff.mpr h)]
  | other kind => rfl

theorem targetOf_empty : targetOf "" = "" := by decide

/-- A URI without text stands for nothing. -/
theorem ne_empty_of_designates {uri : Option String} {extension : Wsdl.Extension}
    (h : designates uri extension = true) : uri ≠ some "" ∧ candidateId extension ≠ none := by
  obtain ⟨text, rfl, htext⟩ := Option.any_eq_true _ _ |>.mp h
  have hid := decide_eq_true_eq.mp htext
  constructor
  · intro hempty
    rw [Option.some.inj hempty, targetOf_empty] at hid
    exact policyId_ne_empty (policyId_of_candidateId hid) rfl
  · rw [hid]
    exact Option.some_ne_none _

@[simp] theorem designates_none (extension : Wsdl.Extension) : designates none extension = false :=
  rfl

/-! ## One extension -/

/-- The extension is an element, whose first transport binding, if it has one,
lies directly under `FirstChild.FirstChild`. -/
def Strippable (extension : Wsdl.Extension) : Prop :=
  ∃ e, extension.asElement = some e ∧
    ∀ path, e.firstByTagName transportBindingName = some path → path.dropLast = [0, 0]

instance (extension : Wsdl.Extension) : Decidable (Strippable extension) :=
  decidable_of_iff (∃ e ∈ extension.asElement,
    ∀ path ∈ e.firstByTagName transportBindingName, path.dropLast = [0, 0]) Iff.rfl

/-- The first node of a name can be removed from `FirstChild.FirstChild`
exactly when that is its parent. -/
theorem removeTransportNode_eq_ok_iff {element3 element3' : XmlElement} {transportNode : List Nat}
    (h : element3.firstByTagName transportBindingName = some transportNode) :
    removeTransportNode element3 transportNode = .ok element3' ↔
      transportNode.dropLast = [0, 0] ∧ element3' = element3.eraseAt transportNode := by
  constructor
  · intro hremove
    simp only [removeTransportNode, bind_eq_ok, deref_eq_ok] at hremove
    obtain ⟨firstChild, -, parent, -, hparent⟩ := hremove
    cases parent with
    | other kind => cases hparent
    | element name attributes childNodes =>
        simp only [bind_eq_ok, ensure_eq_ok, beq_iff_eq, pure_eq_ok] at hparent
        obtain ⟨-, hpath, rfl⟩ := hparent
        exact ⟨hpath, rfl⟩
  · intro h'
    obtain ⟨hpath, rfl⟩ := h'
    -- The path leads to a child of `FirstChild.FirstChild`, so both exist.
    obtain ⟨i, rfl⟩ : ∃ i, transportNode = [0, 0, i] := by
      have hne : transportNode ≠ [] := by
        rintro rfl
        cases hpath
      have hsplit := List.dropLast_append_getLast hne
      rw [hpath] at hsplit
      exact ⟨_, hsplit.symm⟩
    obtain ⟨firstChild, rest, hchildren, hfirst⟩ := first_of_firstIn_zero h
    obtain ⟨name, attributes, childNodes, rfl, hbelow⟩ := firstIn_of_first_cons hfirst
    obtain ⟨parent, siblings, rfl, hparent⟩ := first_of_firstIn_zero hbelow
    obtain ⟨name', attributes', childNodes', rfl, -⟩ := firstIn_of_first_cons hparent
    simp [removeTransportNode, hchildren, XmlNode.childNodes, pure, Except.pure]

/-- An extension that is no candidate is designated by no URI. -/
theorem designates_of_candidateId_none {extension : Wsdl.Extension}
    (h : candidateId extension = none) (uri : Option String) :
    designates uri extension = false := by
  cases uri <;> simp [designates, h]

/-- For a candidate, the comparison of the loop says whether the URI
designates it; it fails for a URI without text. -/
theorem refersTo_eq_ok_iff {uri : Option String} {extension : Wsdl.Extension} {id : String}
    {b : Bool} (hid : candidateId extension = some id) :
    refersTo uri id = .ok b ↔ uri ≠ some "" ∧ b = designates uri extension := by
  cases uri with
  | none => simp [refersTo, eq_comm]
  | some text =>
      have hlength : 1 ≤ text.length ↔ text ≠ "" := by
        rw [Nat.one_le_iff_ne_zero, ne_eq, String.length_eq_zero_iff]
      have hbeq : (targetOf text == id) = decide (id = targetOf text) := by
        rw [Bool.beq_eq_decide_eq, decide_eq_decide]
        exact eq_comm
      simp only [refersTo, Text.substring, hlength, designates, Option.any_some, hid,
        Option.some.injEq, ← hbeq]
      by_cases htext : text = ""
      · simp [htext]
      · simp [htext, pure, Except.pure, eq_comm, targetOf]

/-- The URI that is still looked for: none once its variable is set. -/
def pending (uri : Option String) (found : Bool) : Option String := if found then none else uri

theorem stillRefersTo_eq (found : Bool) (uri : Option String) (id : String) :
    stillRefersTo found uri id = refersTo (pending uri found) id := by
  cases found <;> rfl

/-- The variable that an extension is assigned to while two URIs are looked
for. -/
def assigned (inputUri outputUri : Option String) (extension : Wsdl.Extension) : Option Variable :=
  if designates inputUri extension then some .extension
  else if designates outputUri extension then some .obj5
  else none

/-- A turn of the loop returns for a strippable extension; and when that is a
candidate, the URIs that it is compared with have a text. -/
structure VisitOk (inputUri outputUri : Option String) (extension : Wsdl.Extension) : Prop where
  strippable : Strippable extension
  inputUri_ne : candidateId extension ≠ none → inputUri ≠ some ""
  outputUri_ne : candidateId extension ≠ none → designates inputUri extension = false →
    outputUri ≠ some ""

/-- Only candidates are compared with the URIs. -/
theorem visitOk_of_candidateId_none {inputUri outputUri : Option String}
    {extension : Wsdl.Extension} (h : candidateId extension = none) :
    VisitOk inputUri outputUri extension ↔ Strippable extension :=
  ⟨VisitOk.strippable, fun hstrip => ⟨hstrip, by simp [h], by simp [h]⟩⟩

theorem assigned_of_candidateId_none {inputUri outputUri : Option String}
    {extension : Wsdl.Extension} (h : candidateId extension = none) :
    assigned inputUri outputUri extension = none := by
  simp [assigned, designates_of_candidateId_none h]

/-- The search returns for anything but a candidate that is compared with a
URI without text. -/
theorem findPolicy_eq_ok_iff {inputUri outputUri : Option String} {found : Found}
    {element3 : XmlElement} {result : Option Variable}
    (hstrip : Strippable (.element element3))
    (hcount : transportCount (.element element3) = 0) :
    findPolicy inputUri outputUri found element3 = .ok result ↔
      VisitOk (pending inputUri found.extension) (pending outputUri found.obj5)
          (.element element3) ∧
        result = assigned (pending inputUri found.extension) (pending outputUri found.obj5)
          (.element element3) := by
  have hcandidate : candidateId (.element element3) = policyId (.element element3) :=
    if_pos hcount
  by_cases hpolicy : element3.name = policyName ∧ element3.getAttributeNS idName ≠ ""
  · have hid : candidateId (.element element3) = some (element3.getAttributeNS idName) := by
      rw [hcandidate, policyId, if_pos hpolicy]
    have hne : candidateId (.element element3) ≠ none := by simp [hid]
    simp only [findPolicy, hpolicy.1, if_true, String.isEmpty_iff, hpolicy.2, if_false,
      stillRefersTo_eq, bind_eq_ok, refersTo_eq_ok_iff hid]
    generalize pending inputUri found.extension = inputUri
    generalize pending outputUri found.obj5 = outputUri
    constructor
    · intro h'
      obtain ⟨_, ⟨hinput, rfl⟩, h⟩ := h'
      cases hdesignates : designates inputUri (.element element3) with
      | true =>
          rw [hdesignates, if_pos rfl, pure_eq_ok] at h
          exact ⟨⟨hstrip, fun _ => hinput, fun _ hfalse => by simp [hdesignates] at hfalse⟩,
            by simp [← h, assigned, hdesignates]⟩
      | false =>
          simp only [hdesignates, Bool.false_eq_true, if_false, bind_eq_ok,
            refersTo_eq_ok_iff hid, pure_eq_ok] at h
          obtain ⟨_, ⟨houtput, rfl⟩, rfl⟩ := h
          exact ⟨⟨hstrip, fun _ => hinput, fun _ _ => houtput⟩, by simp [assigned, hdesignates]⟩
    · intro h'
      obtain ⟨hvisit, rfl⟩ := h'
      refine ⟨_, ⟨hvisit.inputUri_ne hne, rfl⟩, ?_⟩
      cases hdesignates : designates inputUri (.element element3) with
      | true => simp [assigned, hdesignates, pure, Except.pure]
      | false =>
          simp only [Bool.false_eq_true, if_false, bind_eq_ok, refersTo_eq_ok_iff hid, pure_eq_ok]
          exact ⟨_, ⟨hvisit.outputUri_ne hne hdesignates, rfl⟩, by simp [assigned, hdesignates]⟩
  · have hnone : candidateId (.element element3) = none := by
      rw [hcandidate, policyId, if_neg hpolicy]
    have hskip : findPolicy inputUri outputUri found element3 = .ok none := by
      unfold findPolicy
      by_cases hname : element3.name = policyName
      · have hempty : element3.getAttributeNS idName = "" :=
          not_not.mp fun hne => hpolicy ⟨hname, hne⟩
        rw [if_pos hname, hempty]
        rfl
      · rw [if_neg hname]
    rw [hskip, visitOk_of_candidateId_none hnone, assigned_of_candidateId_none hnone]
    simp [hstrip, eq_comm]

/-- Everything about one turn of the loop. -/
theorem visitExtension_eq_ok_iff {inputUri outputUri : Option String} {found : Found}
    {obj6 : Wsdl.Extension} {visited : Wsdl.Extension × Option Variable} :
    visitExtension inputUri outputUri found obj6 = .ok visited ↔
      VisitOk (pending inputUri found.extension) (pending outputUri found.obj5) obj6 ∧
        visited = (withoutTransport obj6,
          assigned (pending inputUri found.extension) (pending outputUri found.obj5) obj6) := by
  cases obj6 with
  | other kind =>
      have hnot : ¬ Strippable (.other kind) := by
        intro h'
        obtain ⟨e, he, -⟩ := h'
        cases he
      simp only [visitExtension, Wsdl.Extension.asElement, deref_none, error_bind, reduceCtorEq,
        false_iff, not_and]
      exact fun h => absurd h.strippable hnot
  | element e =>
      simp only [visitExtension, Wsdl.Extension.asElement, deref_some, ok_bind]
      cases hfirst : e.firstByTagName transportBindingName with
      | some transportNode =>
          have hcount : transportCount (.element e) ≠ 0 := fun hzero => by
            rw [e.firstByTagName_eq_none_iff.mpr hzero] at hfirst
            cases hfirst
          have hcandidate : candidateId (.element e) = none := if_neg hcount
          have hstrip : Strippable (.element e) ↔ transportNode.dropLast = [0, 0] := by
            constructor
            · intro h'
              obtain ⟨_, he, hpath⟩ := h'
              obtain rfl := Option.some.inj he
              exact hpath transportNode hfirst
            · intro hpath
              refine ⟨e, rfl, fun path hsome => ?_⟩
              obtain rfl := Option.some.inj (hfirst.symm.trans hsome)
              exact hpath
          simp only [bind_eq_ok, removeTransportNode_eq_ok_iff hfirst, pure_eq_ok,
            visitOk_of_candidateId_none hcandidate, assigned_of_candidateId_none hcandidate, hstrip,
            withoutTransport, e.eraseFirst_of_some hfirst]
          constructor
          · intro h'
            obtain ⟨_, ⟨hpath, rfl⟩, rfl⟩ := h'
            exact ⟨hpath, rfl⟩
          · intro h'
            obtain ⟨hpath, rfl⟩ := h'
            exact ⟨_, ⟨hpath, rfl⟩, rfl⟩
      | none =>
          have hcount : transportCount (.element e) = 0 := e.firstByTagName_eq_none_iff.mp hfirst
          have hstrip : Strippable (.element e) := ⟨e, rfl, fun path hsome => by
            rw [hfirst] at hsome
            cases hsome⟩
          simp only [bind_eq_ok, findPolicy_eq_ok_iff hstrip hcount, pure_eq_ok,
            withoutTransport_of_count_eq_zero hcount]
          constructor
          · intro h'
            obtain ⟨_, ⟨hvisit, rfl⟩, rfl⟩ := h'
            exact ⟨hvisit, rfl⟩
          · intro h'
            obtain ⟨hvisit, rfl⟩ := h'
            exact ⟨_, ⟨hvisit, rfl⟩, rfl⟩

/-! ## One pass -/

/-- The pass returns on extensions that are strippable, when a URI without
text is never compared: the output's is not compared with the policy that the
input designates. -/
structure PassOk (inputUri outputUri : Option String) (extensions : List Wsdl.Extension) :
    Prop where
  strippable : ∀ extension ∈ extensions, Strippable extension
  input : inputUri = some "" → ∀ extension ∈ extensions, candidateId extension = none
  output : outputUri = some "" → ∀ extension ∈ extensions.eraseP (designates inputUri),
    candidateId extension = none

instance (inputUri outputUri : Option String) (extensions : List Wsdl.Extension) :
    Decidable (PassOk inputUri outputUri extensions) :=
  decidable_of_iff ((∀ extension ∈ extensions, Strippable extension) ∧
      (inputUri = some "" → ∀ extension ∈ extensions, candidateId extension = none) ∧
      (outputUri = some "" → ∀ extension ∈ extensions.eraseP (designates inputUri),
        candidateId extension = none))
    ⟨fun h => ⟨h.1, h.2.1, h.2.2⟩, fun h => ⟨h.strippable, h.input, h.output⟩⟩

/-- The extensions that are left: the first one that the input's URI
designates is gone, and then the first one that the output's URI does. -/
def remaining (inputUri outputUri : Option String) (extensions : List Wsdl.Extension) :
    List Wsdl.Extension :=
  (extensions.eraseP (designates inputUri)).eraseP (designates outputUri)

section Turn

variable {inputUri outputUri : Option String} {extension : Wsdl.Extension}
  {extensions : List Wsdl.Extension}

@[simp] theorem eraseP_designates_none (extensions : List Wsdl.Extension) :
    extensions.eraseP (designates none) = extensions :=
  List.eraseP_of_forall_not fun extension _ => by simp

theorem passOk_nil : PassOk inputUri outputUri [] := ⟨by simp, by simp, by simp⟩

/-- The input's policy is found: its URI is not looked for any more. -/
theorem passOk_cons_of_input (h : designates inputUri extension = true) :
    PassOk inputUri outputUri (extension :: extensions) ↔
      VisitOk inputUri outputUri extension ∧ PassOk none outputUri extensions := by
  obtain ⟨hne, hcandidate⟩ := ne_empty_of_designates h
  constructor
  · intro hpass
    obtain ⟨hstrip, hstrips⟩ := List.forall_mem_cons.mp hpass.strippable
    refine ⟨⟨hstrip, fun _ => hne, fun _ hfalse => ?_⟩, hstrips, by simp, fun hempty => ?_⟩
    · rw [h] at hfalse
      cases hfalse
    · have houtput := hpass.output hempty
      rw [List.eraseP_cons_of_pos h] at houtput
      simpa using houtput
  · intro h'
    obtain ⟨hvisit, hpass⟩ := h'
    refine ⟨List.forall_mem_cons.mpr ⟨hvisit.strippable, hpass.strippable⟩,
      fun hempty => absurd hempty hne, fun hempty => ?_⟩
    rw [List.eraseP_cons_of_pos h]
    simpa using hpass.output hempty

/-- The output's policy is found. -/
theorem passOk_cons_of_output (h : designates outputUri extension = true) :
    PassOk inputUri outputUri (extension :: extensions) ↔
      VisitOk inputUri outputUri extension ∧ PassOk inputUri none extensions := by
  obtain ⟨hne, hcandidate⟩ := ne_empty_of_designates h
  constructor
  · intro hpass
    obtain ⟨hstrip, hstrips⟩ := List.forall_mem_cons.mp hpass.strippable
    have hinputUri : inputUri ≠ some "" := fun hempty =>
      hcandidate (hpass.input hempty extension List.mem_cons_self)
    exact ⟨⟨hstrip, fun _ => hinputUri, fun _ _ => hne⟩, hstrips,
      fun hempty => absurd hempty hinputUri, by simp⟩
  · intro h'
    obtain ⟨hvisit, hpass⟩ := h'
    exact ⟨List.forall_mem_cons.mpr ⟨hvisit.strippable, hpass.strippable⟩,
      fun hempty => absurd hempty (hvisit.inputUri_ne hcandidate),
      fun hempty => absurd hempty hne⟩

/-- No policy is found. -/
theorem passOk_cons_of_neither (hinput : designates inputUri extension = false) :
    PassOk inputUri outputUri (extension :: extensions) ↔
      VisitOk inputUri outputUri extension ∧ PassOk inputUri outputUri extensions := by
  have herase : (extension :: extensions).eraseP (designates inputUri) =
      extension :: extensions.eraseP (designates inputUri) :=
    List.eraseP_cons_of_neg (by simp [hinput])
  constructor
  · intro hpass
    obtain ⟨hstrip, hstrips⟩ := List.forall_mem_cons.mp hpass.strippable
    have houtput := hpass.output
    rw [herase] at houtput
    exact ⟨⟨hstrip, fun hne hempty => hne (hpass.input hempty extension List.mem_cons_self),
        fun hne _ hempty => hne (houtput hempty extension List.mem_cons_self)⟩, hstrips,
      fun hempty => (List.forall_mem_cons.mp (hpass.input hempty)).2,
      fun hempty => (List.forall_mem_cons.mp (houtput hempty)).2⟩
  · intro h
    obtain ⟨hvisit, hpass⟩ := h
    refine ⟨List.forall_mem_cons.mpr ⟨hvisit.strippable, hpass.strippable⟩, fun hempty => ?_,
      fun hempty => ?_⟩
    · exact List.forall_mem_cons.mpr
        ⟨not_not.mp fun hne => hvisit.inputUri_ne hne hempty, hpass.input hempty⟩
    · rw [herase]
      exact List.forall_mem_cons.mpr
        ⟨not_not.mp fun hne => hvisit.outputUri_ne hne hinput hempty, hpass.output hempty⟩

end Turn

/-- One turn of the loop over the extensions, and what is assigned in it. -/
theorem visitExtensions_cons_eq_ok_iff {inputUri outputUri : Option String} {found : Found}
    {extension : Wsdl.Extension} {extensions result : List Wsdl.Extension}
    {target : Option Variable}
    (h : assigned (pending inputUri found.extension) (pending outputUri found.obj5) extension =
      target) :
    (∃ visited, visitExtensions inputUri outputUri found (extension :: extensions) = .ok visited ∧
        removeAssigned visited = result) ↔
      VisitOk (pending inputUri found.extension) (pending outputUri found.obj5) extension ∧
        ∃ rest, visitExtensions inputUri outputUri (found.assign target) extensions = .ok rest ∧
          removeAssigned ((withoutTransport extension, target) :: rest) = result := by
  simp only [visitExtensions, bind_eq_ok, visitExtension_eq_ok_iff, pure_eq_ok, h]
  constructor
  · intro h'
    obtain ⟨_, ⟨_, ⟨hvisit, rfl⟩, rest, hrest, rfl⟩, hresult⟩ := h'
    exact ⟨hvisit, rest, hrest, hresult⟩
  · intro h'
    obtain ⟨hvisit, rest, hrest, hresult⟩ := h'
    exact ⟨_, ⟨_, ⟨hvisit, rfl⟩, rest, hrest, rfl⟩, hresult⟩

/-- The loop over the extensions, and the removals after it. -/
theorem visitExtensions_eq_ok_iff {inputUri outputUri : Option String} {found : Found}
    {extensions result : List Wsdl.Extension} :
    (∃ visited, visitExtensions inputUri outputUri found extensions = .ok visited ∧
        removeAssigned visited = result) ↔
      PassOk (pending inputUri found.extension) (pending outputUri found.obj5) extensions ∧
        result = (remaining (pending inputUri found.extension) (pending outputUri found.obj5)
          extensions).map withoutTransport := by
  induction extensions generalizing found result with
  | nil => simp [visitExtensions, removeAssigned, remaining, passOk_nil, eq_comm]
  | cons extension extensions ih =>
      cases hinput : designates (pending inputUri found.extension) extension with
      | true =>
          have hassigned : assigned (pending inputUri found.extension)
              (pending outputUri found.obj5) extension = some .extension := by
            simp [assigned, hinput]
          rw [visitExtensions_cons_eq_ok_iff hassigned, passOk_cons_of_input hinput, remaining,
            List.eraseP_cons_of_pos hinput, and_assoc]
          have hrest := @ih (found.assign (some .extension)) result
          simp only [Found.assign, pending, if_true, remaining, eraseP_designates_none] at hrest
          exact and_congr_right fun _ => hrest
      | false =>
          cases houtput : designates (pending outputUri found.obj5) extension with
          | true =>
              have hassigned : assigned (pending inputUri found.extension)
                  (pending outputUri found.obj5) extension = some .obj5 := by
                simp [assigned, hinput, houtput]
              rw [visitExtensions_cons_eq_ok_iff hassigned, passOk_cons_of_output houtput,
                remaining, List.eraseP_cons_of_neg (by simp [hinput]),
                List.eraseP_cons_of_pos houtput, and_assoc]
              have hrest := @ih (found.assign (some .obj5)) result
              simp only [Found.assign, pending, if_true, remaining, eraseP_designates_none] at hrest
              exact and_congr_right fun _ => hrest
          | false =>
              have hassigned : assigned (pending inputUri found.extension)
                  (pending outputUri found.obj5) extension = none := by
                simp [assigned, hinput, houtput]
              rw [visitExtensions_cons_eq_ok_iff hassigned, passOk_cons_of_neither hinput,
                remaining, List.eraseP_cons_of_neg (by simp [hinput]),
                List.eraseP_cons_of_neg (by simp [houtput]), List.map_cons, and_assoc]
              refine and_congr_right fun _ => ?_
              constructor
              · intro h
                obtain ⟨rest, hrest, rfl⟩ := h
                obtain ⟨hpass, hmap⟩ := ih.mp ⟨rest, hrest, rfl⟩
                exact ⟨hpass, congrArg (withoutTransport extension :: ·) hmap⟩
              · intro h
                obtain ⟨hpass, rfl⟩ := h
                obtain ⟨rest, hrest, hmap⟩ := ih.mpr ⟨hpass, rfl⟩
                exact ⟨rest, hrest, congrArg (withoutTransport extension :: ·) hmap⟩

/-- The URI of the first policy reference of the input. -/
def firstInputUri (operationBinding : Wsdl.OperationBinding) : Option String :=
  operationBinding.input.bind firstUri

/-- The URI of the first policy reference of the output. -/
def firstOutputUri (operationBinding : Wsdl.OperationBinding) : Option String :=
  operationBinding.output.bind firstUri

/-- The operation binding has an input and an output. -/
def HasMessageBindings (operationBinding : Wsdl.OperationBinding) : Prop :=
  operationBinding.input ≠ none ∧ operationBinding.output ≠ none

instance (operationBinding : Wsdl.OperationBinding) :
    Decidable (HasMessageBindings operationBinding) :=
  inferInstanceAs (Decidable (_ ∧ _))

/-- What the pass for an operation binding leaves. -/
def prunedExtensions (extensions : List Wsdl.Extension)
    (operationBinding : Wsdl.OperationBinding) : List Wsdl.Extension :=
  (remaining (firstInputUri operationBinding) (firstOutputUri operationBinding) extensions).map
    withoutTransport

/-- When the pass returns, and what it leaves. -/
theorem removeRedundantOperationPolicy_eq_ok_iff {extensions extensions' : List Wsdl.Extension}
    {operationBinding : Wsdl.OperationBinding} :
    removeRedundantOperationPolicy extensions operationBinding = .ok extensions' ↔
      HasMessageBindings operationBinding ∧
        PassOk (firstInputUri operationBinding) (firstOutputUri operationBinding) extensions ∧
        extensions' = prunedExtensions extensions operationBinding := by
  unfold removeRedundantOperationPolicy HasMessageBindings firstInputUri firstOutputUri
    prunedExtensions firstInputUri firstOutputUri
  cases operationBinding.input with
  | none => simp
  | some input =>
      cases operationBinding.output with
      | none => simp
      | some output =>
          simp only [deref_some, ok_bind, Option.bind_some, bind_eq_ok, pure_eq_ok, ne_eq,
            reduceCtorEq, not_false_eq_true, and_self, true_and]
          exact visitExtensions_eq_ok_iff

/-! ## All passes -/

/-- Every pass returns on what the passes before it leave. -/
def RunOk : List Wsdl.OperationBinding → List Wsdl.Extension → Prop
  | [], _ => True
  | binding2 :: list, extensions =>
      PassOk (firstInputUri binding2) (firstOutputUri binding2) extensions ∧
        RunOk list (prunedExtensions extensions binding2)

instance decidableRunOk : (list : List Wsdl.OperationBinding) →
    (extensions : List Wsdl.Extension) → Decidable (RunOk list extensions)
  | [], _ => .isTrue trivial
  | binding2 :: list, extensions =>
      @instDecidableAnd _ _ _ (decidableRunOk list (prunedExtensions extensions binding2))

/-- When all passes return, and what they leave. -/
theorem removePolicies_eq_ok_iff {list : List Wsdl.OperationBinding}
    {extensions extensions' : List Wsdl.Extension} :
    removePolicies list extensions = .ok extensions' ↔
      (∀ binding2 ∈ list, HasMessageBindings binding2) ∧ RunOk list extensions ∧
        extensions' = list.foldl prunedExtensions extensions := by
  induction list generalizing extensions with
  | nil => simp [removePolicies, RunOk, eq_comm]
  | cons binding2 list ih =>
      simp only [removePolicies, bind_eq_ok, removeRedundantOperationPolicy_eq_ok_iff, ih, RunOk,
        List.foldl_cons, List.forall_mem_cons]
      constructor
      · intro h
        obtain ⟨_, ⟨hbinding, hpass, rfl⟩, hlist, hrun, hresult⟩ := h
        exact ⟨⟨hbinding, hlist⟩, ⟨hpass, hrun⟩, hresult⟩
      · intro h
        obtain ⟨⟨hbinding, hlist⟩, ⟨hpass, hrun⟩, hresult⟩ := h
        exact ⟨_, ⟨hbinding, hpass, rfl⟩, hlist, hrun, hresult⟩

/-- The pruning completes, and leaves no unsupported operation behind. -/
def Prunes (wsdlBinding : Wsdl.Binding) : Prop :=
  ∃ wsdlBinding', removeRedundantOperations wsdlBinding = .ok wsdlBinding' ∧
    ∀ binding ∈ wsdlBinding'.operations, unSupported binding = false

/-- **Completion of the pruning.** Where operation bindings have inputs and
outputs, the pruning completes exactly when they have names, and every pass
finds what it can handle. -/
theorem prunes_iff {wsdlBinding : Wsdl.Binding}
    (h : ∀ binding ∈ wsdlBinding.operations, HasMessageBindings binding) :
    Prunes wsdlBinding ↔
      (∀ binding ∈ wsdlBinding.operations, binding.name ≠ none) ∧
        RunOk (removedBindings wsdlBinding) wsdlBinding.extensions := by
  have hremoved : ∀ binding ∈ removedBindings wsdlBinding, HasMessageBindings binding :=
    fun binding hbinding => h binding (List.mem_filter.mp hbinding).1
  constructor
  · intro h'
    obtain ⟨wsdlBinding', hok, -⟩ := h'
    obtain ⟨hnames, -, hpolicies⟩ := removeRedundantOperations_eq_ok_iff.mp hok
    exact ⟨hnames, (removePolicies_eq_ok_iff.mp hpolicies).2.1⟩
  · intro h'
    obtain ⟨hnames, hrun⟩ := h'
    have hpolicies := removePolicies_eq_ok_iff.mpr ⟨hremoved, hrun, rfl⟩
    refine ⟨⟨keptBindings wsdlBinding, _⟩,
      removeRedundantOperations_eq_ok_iff.mpr ⟨hnames, rfl, hpolicies⟩, ?_⟩
    intro binding hbinding
    simpa using (List.mem_filter.mp hbinding).2

/-- A `PolicyReference` with a `URI`. -/
def policyReference (uri : String) : Wsdl.Extension :=
  .element ⟨policyReferenceName, [⟨"URI", ⟨"URI", ""⟩, uri⟩], []⟩

/-- A `Policy` with an `Id`. -/
def policy (id : String) (childNodes : List XmlNode) : Wsdl.Extension :=
  .element ⟨policyName, [⟨"wsu:Id", idName, id⟩], childNodes⟩

/-- `ExactlyOne` and `All` around a `TransportBinding`. -/
def transportAlternative : XmlNode :=
  .element ⟨"ExactlyOne", policyName.namespaceURI⟩ []
    [.element ⟨"All", policyName.namespaceURI⟩ [] [.element transportBindingName [] []]]

/-- The operations that issue and cancel, with references to policies. -/
def issueOf (input : List Wsdl.Extension) : Wsdl.OperationBinding where
  id := 0
  name := some "Trust13IssueAsync"
  input := some input
  output := some []

def cancelOf (input output : List Wsdl.Extension) : Wsdl.OperationBinding where
  id := 1
  name := some "Trust13CancelAsync"
  input := some input
  output := some output

theorem unSupported_issueOf (input : List Wsdl.Extension) :
    unSupported (issueOf input) = false := by
  have hname : isUnSupported "Trust13IssueAsync" = false := by decide
  rw [unSupported, issueOf, Option.any_some, hname]

theorem unSupported_cancelOf (input output : List Wsdl.Extension) :
    unSupported (cancelOf input output) = true := by
  have hname : isUnSupported "Trust13CancelAsync" = true := by decide
  rw [unSupported, cancelOf, Option.any_some, hname]

section Sample

variable (issueInput cancelInput cancelOutput extensions : List Wsdl.Extension)

/-- Of these two operations, the pruning takes out the second one. -/
theorem removedBindings_issue_cancel :
    removedBindings ⟨[issueOf issueInput, cancelOf cancelInput cancelOutput], extensions⟩ =
      [cancelOf cancelInput cancelOutput] := by
  simp [removedBindings, unSupported_issueOf, unSupported_cancelOf]

theorem keptBindings_issue_cancel :
    keptBindings ⟨[issueOf issueInput, cancelOf cancelInput cancelOutput], extensions⟩ =
      [issueOf issueInput] := by
  simp [keptBindings, unSupported_issueOf, unSupported_cancelOf]

end Sample

/-- The policies of both operations; that of the first one has a transport
binding. -/
def sampleBinding (extensions : List Wsdl.Extension) : Wsdl.Binding where
  operations :=
    [issueOf [policyReference "#issue"], cancelOf [policyReference "#in"] [policyReference "#out"]]
  extensions := extensions

def samplePolicies : List Wsdl.Extension :=
  [policy "issue" [transportAlternative], policy "in" [], policy "out" []]

theorem prunes_sample : Prunes (sampleBinding samplePolicies) := by
  refine (prunes_iff (by decide)).mpr ⟨by decide, ?_⟩
  rw [sampleBinding, removedBindings_issue_cancel]
  decide

/-- An extension that is no element is dereferenced all the same. -/
theorem prunes_otherExtension_fails :
    (∀ binding ∈ (sampleBinding [.other "Import"]).operations, HasMessageBindings binding) ∧
      ¬ Prunes (sampleBinding [.other "Import"]) := by
  refine ⟨by decide, ?_⟩
  intro h'
  obtain ⟨wsdlBinding', h, -⟩ := h'
  obtain ⟨-, -, hpolicies⟩ := removeRedundantOperations_eq_ok_iff.mp h
  rw [sampleBinding, removedBindings_issue_cancel] at hpolicies
  cases hpolicies

/-! ## References of policies -/

/-- The `wsu:Id` of a policy. -/
def wsuId : Wsdl.Extension → Option String
  | .element e =>
      if e.name = policyName then
        (e.attributes.find? (·.qualifiedName == idName)).map (·.value)
      else none
  | .other _ => none

/-- The id of a `#id` reference. -/
def fragment (uri : String) : Option String :=
  match uri.toList with
  | '#' :: id => some (String.ofList id)
  | _ => none

/-- The ids that the policy references of an operation binding refer to. -/
def referredIds (operationBinding : Wsdl.OperationBinding) : List String :=
  ((operationBinding.input.getD [] ++ operationBinding.output.getD []).filterMap uriOf).filterMap
    fragment

/-- The extension is a policy with the id. -/
def hasId (id : String) (extension : Wsdl.Extension) : Bool := wsuId extension = some id

/-- Every reference is to exactly one policy. -/
def Resolved (wsdlBinding : Wsdl.Binding) : Prop :=
  ∀ binding ∈ wsdlBinding.operations, ∀ id ∈ referredIds binding,
    wsdlBinding.extensions.countP (hasId id) = 1

instance (wsdlBinding : Wsdl.Binding) : Decidable (Resolved wsdlBinding) :=
  inferInstanceAs (Decidable (∀ binding ∈ wsdlBinding.operations, _))

/-- The references of the operation bindings that remain are resolved, and no
policy is left that only removed ones refer to. -/
structure PoliciesClosed (wsdlBinding wsdlBinding' : Wsdl.Binding) : Prop where
  resolved : Resolved wsdlBinding'
  pruned : ∀ binding ∈ removedBindings wsdlBinding, ∀ id ∈ referredIds binding,
    (∀ binding' ∈ wsdlBinding'.operations, id ∉ referredIds binding') →
      ∀ extension ∈ wsdlBinding'.extensions, hasId id extension = false

/-- The pass for an operation binding takes the id for one that its input or
its output refers to; it never looks for an empty one. -/
def seeks (id : String) (operationBinding : Wsdl.OperationBinding) : Bool :=
  id ≠ "" ∧ ((firstInputUri operationBinding).map targetOf = some id ∨
    (firstOutputUri operationBinding).map targetOf = some id)

/-- The number of transport bindings in the policy with an id, if there is one. -/
def transports (id : String) (extensions : List Wsdl.Extension) : Option Nat :=
  (extensions.find? (hasId id)).map transportCount

/-! ### One pass -/

section Pass

variable {id : String} {uri : Option String} {extension : Wsdl.Extension}
  {extensions : List Wsdl.Extension}

theorem policyId_eq (extension : Wsdl.Extension) :
    policyId extension = (wsuId extension).filter (· ≠ "") := by
  cases extension with
  | other kind => rfl
  | element e =>
      rw [policyId, wsuId, XmlElement.getAttributeNS]
      by_cases hname : e.name = policyName
      · cases (e.attributes.find? (·.qualifiedName == idName)).map (·.value) with
        | none => simp [hname]
        | some value => by_cases hvalue : value = "" <;> simp [hname, hvalue, Option.filter]
      · simp [hname]

/-- A policy is a candidate under its own id, unless that is empty or there are
transport bindings left. -/
theorem candidateId_eq_some_iff (h : hasId id extension = true) {target : String} :
    candidateId extension = some target ↔
      target = id ∧ id ≠ "" ∧ transportCount extension = 0 := by
  have hid : wsuId extension = some id := decide_eq_true_eq.mp h
  rw [candidateId, policyId_eq, hid]
  by_cases hcount : transportCount extension = 0
  · rw [if_pos hcount, Option.filter_eq_some_iff]
    constructor
    · intro h'
      obtain ⟨heq, hne⟩ := h'
      obtain rfl := Option.some.inj heq
      exact ⟨rfl, decide_eq_true_eq.mp hne, hcount⟩
    · intro h'
      obtain ⟨rfl, hne, -⟩ := h'
      exact ⟨rfl, decide_eq_true hne⟩
  · simp [hcount]

/-- A URI designates the policy with an id when it stands for the id, and the
policy is a candidate. -/
theorem designates_of_hasId (h : hasId id extension = true) :
    designates uri extension = true ↔
      uri.map targetOf = some id ∧ id ≠ "" ∧ transportCount extension = 0 := by
  cases uri with
  | none => simp
  | some text =>
      simp only [designates, Option.any_some, decide_eq_true_eq, candidateId_eq_some_iff h,
        Option.map_some, Option.some.injEq]

theorem hasId_of_designates (h : designates uri extension = true) :
    ∃ target, uri.map targetOf = some target ∧ hasId target extension = true := by
  obtain ⟨text, rfl, htext⟩ := (Option.any_eq_true _ _).mp h
  have hpolicy := policyId_of_candidateId (decide_eq_true_eq.mp htext)
  rw [policyId_eq, Option.filter_eq_some_iff] at hpolicy
  exact ⟨targetOf text, rfl, decide_eq_true hpolicy.1⟩

/-- Losing a transport binding leaves the id. -/
theorem hasId_comp_withoutTransport : hasId id ∘ withoutTransport = hasId id := by
  funext extension
  cases extension with
  | other kind => rfl
  | element e => simp [hasId, wsuId, withoutTransport]

/-- Erasing what a URI designates takes a policy exactly when it is designated
itself. -/
theorem find?_eraseP_designates (h : extensions.countP (hasId id) ≤ 1) :
    (extensions.eraseP (designates uri)).find? (hasId id) =
      (extensions.find? (hasId id)).filter fun extension => !designates uri extension := by
  by_cases htarget : uri.map targetOf = some id
  · refine find?_eraseP_of_unique (fun extension _ hdesignates => ?_) h
    obtain ⟨target, htarget', hid⟩ := hasId_of_designates hdesignates
    obtain rfl := Option.some.inj (htarget.symm.trans htarget')
    exact hid
  · have hdisjoint : ∀ extension ∈ extensions, designates uri extension = true →
        hasId id extension = false := by
      intro extension _ hdesignates
      rw [← Bool.not_eq_true]
      exact fun hid => htarget ((designates_of_hasId hid).mp hdesignates).1
    rw [find?_eraseP_of_disjoint hdisjoint]
    cases hfind : extensions.find? (hasId id) with
    | none => rfl
    | some extension =>
        have hnot : designates uri extension = false := by
          rw [← Bool.not_eq_true]
          exact fun hdesignates => htarget
            ((designates_of_hasId (List.find?_some hfind)).mp hdesignates).1
        simp [Option.filter, hnot]

theorem countP_eraseP_le (uri : Option String) (extensions : List Wsdl.Extension) :
    (extensions.eraseP (designates uri)).countP (hasId id) ≤ extensions.countP (hasId id) :=
  List.eraseP_sublist.countP_le

/-- A pass adds no policy. -/
theorem countP_prunedExtensions_le (operationBinding : Wsdl.OperationBinding) :
    (prunedExtensions extensions operationBinding).countP (hasId id) ≤
      extensions.countP (hasId id) := by
  rw [prunedExtensions, List.countP_map, hasId_comp_withoutTransport]
  exact (countP_eraseP_le _ _).trans (countP_eraseP_le _ _)

/-- A pass removes the policy it looks for when it has no transport binding
left, and takes a transport binding from it otherwise. -/
theorem transports_prunedExtensions (h : extensions.countP (hasId id) ≤ 1)
    (operationBinding : Wsdl.OperationBinding) :
    transports id (prunedExtensions extensions operationBinding) =
      (transports id extensions).bind fun count =>
        if count = 0 ∧ seeks id operationBinding = true then none else some (count - 1) := by
  rw [transports, prunedExtensions, List.find?_map, hasId_comp_withoutTransport, remaining,
    find?_eraseP_designates ((countP_eraseP_le _ _).trans h), find?_eraseP_designates h, transports]
  cases hfind : extensions.find? (hasId id) with
  | none => rfl
  | some extension =>
      have hid : hasId id extension = true := List.find?_some hfind
      have hseeks : designates (firstInputUri operationBinding) extension = true ∨
          designates (firstOutputUri operationBinding) extension = true ↔
            transportCount extension = 0 ∧ seeks id operationBinding = true := by
        simp only [designates_of_hasId hid, seeks, decide_eq_true_eq]
        grind
      simp only [Option.map_some, Option.bind_some]
      by_cases hgone : transportCount extension = 0 ∧ seeks id operationBinding = true
      · rw [if_pos hgone]
        obtain hinput | houtput := hseeks.mpr hgone
        · simp [Option.filter, hinput]
        · cases hinput : designates (firstInputUri operationBinding) extension <;>
            simp [Option.filter, hinput, houtput]
      · have hneither := mt hseeks.mp hgone
        rw [not_or, Bool.not_eq_true, Bool.not_eq_true] at hneither
        rw [if_neg hgone]
        simp [Option.filter, hneither.1, hneither.2]

end Pass

/-! ### All passes -/

section Passes

variable {id : String} {extensions : List Wsdl.Extension} {list : List Wsdl.OperationBinding}

theorem countP_foldl_prunedExtensions_le :
    (list.foldl prunedExtensions extensions).countP (hasId id) ≤
      extensions.countP (hasId id) := by
  induction list generalizing extensions with
  | nil => exact Nat.le_refl _
  | cons binding2 list ih => exact ih.trans (countP_prunedExtensions_le binding2)

/-- A policy survives as long as no pass looks for it once it has lost its
transport bindings, one to each pass. -/
theorem isSome_transports_foldl (h : extensions.countP (hasId id) ≤ 1) :
    (transports id (list.foldl prunedExtensions extensions)).isSome =
      (transports id extensions).any fun count => !(list.drop count).any (seeks id) := by
  induction list generalizing extensions with
  | nil => cases htransports : transports id extensions <;> simp [htransports]
  | cons binding2 list ih =>
      rw [List.foldl_cons, ih ((countP_prunedExtensions_le binding2).trans h),
        transports_prunedExtensions h]
      cases transports id extensions with
      | none => rfl
      | some count =>
          cases count with
          | zero => cases hseeks : seeks id binding2 <;> simp [hseeks]
          | succ count => simp

/-- A policy that is there once has a number of transport bindings. -/
theorem exists_transports (h : extensions.countP (hasId id) = 1) :
    ∃ count, transports id extensions = some count := by
  have hpos : 0 < extensions.countP (hasId id) := by omega
  obtain ⟨extension, hmem, hid⟩ := List.countP_pos_iff.mp hpos
  obtain ⟨first, hfirst⟩ := Option.isSome_iff_exists.mp
    (List.find?_isSome.mpr ⟨extension, hmem, hid⟩)
  exact ⟨transportCount first, by rw [transports, hfirst, Option.map_some]⟩

theorem transports_isSome_iff :
    (transports id extensions).isSome = true ↔ extensions.countP (hasId id) ≠ 0 := by
  rw [transports, Option.isSome_map, List.find?_isSome, ne_eq, List.countP_eq_zero]
  simp only [not_forall, exists_prop, not_not]

/-- The operation bindings whose pass could remove the policy with an id: those
after the ones that take its transport bindings from it. -/
def removers (id : String) (wsdlBinding : Wsdl.Binding) : List Wsdl.OperationBinding :=
  (removedBindings wsdlBinding).drop ((transports id wsdlBinding.extensions).getD 0)

/-- A policy is gone exactly when one of these looks for it. -/
theorem countP_foldl_eq_zero_iff {wsdlBinding : Wsdl.Binding}
    (h : wsdlBinding.extensions.countP (hasId id) = 1) :
    ((removedBindings wsdlBinding).foldl prunedExtensions wsdlBinding.extensions).countP
        (hasId id) = 0 ↔
      ∃ binding ∈ removers id wsdlBinding, seeks id binding = true := by
  obtain ⟨count, hcount⟩ := exists_transports h
  have hleft := @isSome_transports_foldl id wsdlBinding.extensions (removedBindings wsdlBinding)
    (Nat.le_of_eq h)
  rw [hcount, Option.any_some] at hleft
  rw [removers, hcount, Option.getD_some, ← List.any_eq_true, ← not_iff_not, ← ne_eq,
    ← transports_isSome_iff, hleft]
  simp

end Passes

/-- **References of policies.** Where every reference is to exactly one policy,
a pruning that returns keeps the references and leaves no orphan exactly when
no pass that could remove it looks for the policy of a remaining operation, and
one does for every policy that only removed operations refer to. -/
theorem policiesClosed_iff {wsdlBinding wsdlBinding' : Wsdl.Binding}
    (hresolved : Resolved wsdlBinding)
    (h : removeRedundantOperations wsdlBinding = .ok wsdlBinding') :
    PoliciesClosed wsdlBinding wsdlBinding' ↔
      (∀ binding ∈ keptBindings wsdlBinding, ∀ id ∈ referredIds binding,
        ∀ remover ∈ removers id wsdlBinding, seeks id remover = false) ∧
      ∀ binding ∈ removedBindings wsdlBinding, ∀ id ∈ referredIds binding,
        (∀ binding' ∈ keptBindings wsdlBinding, id ∉ referredIds binding') →
          ∃ remover ∈ removers id wsdlBinding, seeks id remover = true := by
  obtain ⟨-, hoperations, hpolicies⟩ := removeRedundantOperations_eq_ok_iff.mp h
  obtain ⟨-, -, hextensions⟩ := removePolicies_eq_ok_iff.mp hpolicies
  -- A policy that an operation binding refers to is there once, or gone.
  have hgone : ∀ binding ∈ wsdlBinding.operations, ∀ id ∈ referredIds binding,
      wsdlBinding'.extensions.countP (hasId id) ≤ 1 ∧
        (wsdlBinding'.extensions.countP (hasId id) = 0 ↔
          ∃ remover ∈ removers id wsdlBinding, seeks id remover = true) := by
    intro binding hbinding id hid
    have hone := hresolved binding hbinding id hid
    rw [hextensions]
    exact ⟨countP_foldl_prunedExtensions_le.trans (Nat.le_of_eq hone),
      countP_foldl_eq_zero_iff hone⟩
  have hkept : ∀ binding ∈ keptBindings wsdlBinding, ∀ id ∈ referredIds binding,
      (wsdlBinding'.extensions.countP (hasId id) = 1 ↔
        ∀ remover ∈ removers id wsdlBinding, seeks id remover = false) := by
    intro binding hbinding id hid
    obtain ⟨hle, hzero⟩ := hgone binding (List.mem_filter.mp hbinding).1 id hid
    have hone : wsdlBinding'.extensions.countP (hasId id) = 1 ↔
        ¬ wsdlBinding'.extensions.countP (hasId id) = 0 := by omega
    rw [hone, hzero]
    simp
  have hremoved : ∀ binding ∈ removedBindings wsdlBinding, ∀ id ∈ referredIds binding,
      ((∀ extension ∈ wsdlBinding'.extensions, hasId id extension = false) ↔
        ∃ remover ∈ removers id wsdlBinding, seeks id remover = true) := by
    intro binding hbinding id hid
    obtain ⟨-, hzero⟩ := hgone binding (List.mem_filter.mp hbinding).1 id hid
    rw [← hzero, List.countP_eq_zero]
    simp
  constructor
  · intro h'
    obtain ⟨hresolved', hpruned⟩ := h'
    rw [Resolved, hoperations] at hresolved'
    rw [hoperations] at hpruned
    refine ⟨fun binding hbinding id hid => ?_, fun binding hbinding id hid honly => ?_⟩
    · exact (hkept binding hbinding id hid).mp (hresolved' binding hbinding id hid)
    · exact (hremoved binding hbinding id hid).mp (hpruned binding hbinding id hid honly)
  · intro h'
    obtain ⟨hnever, hsome⟩ := h'
    refine ⟨?_, ?_⟩
    · rw [Resolved, hoperations]
      intro binding hbinding id hid
      exact (hkept binding hbinding id hid).mpr (hnever binding hbinding id hid)
    · rw [hoperations]
      intro binding hbinding id hid honly
      exact (hremoved binding hbinding id hid).mpr (hsome binding hbinding id hid honly)

/-- The policies of the cancel operation go; the one of the issue operation
stays, without its transport binding. -/
theorem policiesClosed_sample :
    PoliciesClosed (sampleBinding samplePolicies)
      ⟨[issueOf [policyReference "#issue"]],
        [policy "issue" [.element ⟨"ExactlyOne", policyName.namespaceURI⟩ []
          [.element ⟨"All", policyName.namespaceURI⟩ [] []]]]⟩ := by
  refine (policiesClosed_iff (by decide) (removeRedundantOperations_eq_ok_iff.mpr
    ⟨by decide, (keptBindings_issue_cancel _ _ _ _).symm, ?_⟩)).mpr ?_
  · rw [sampleBinding, removedBindings_issue_cancel]
    rfl
  · simp only [removers, sampleBinding, removedBindings_issue_cancel, keptBindings_issue_cancel]
    decide

/-- Two operations that share a policy. -/
def sharedPolicy : Wsdl.Binding where
  operations := [issueOf [policyReference "#shared"], cancelOf [policyReference "#shared"] []]
  extensions := [policy "shared" []]

/-- It is removed with one of them, although the other one refers to it, too. -/
theorem policiesClosed_shared_fails :
    Resolved sharedPolicy ∧
      removeRedundantOperations sharedPolicy = .ok ⟨[issueOf [policyReference "#shared"]], []⟩ ∧
      ¬ PoliciesClosed sharedPolicy ⟨[issueOf [policyReference "#shared"]], []⟩ := by
  refine ⟨by decide, removeRedundantOperations_eq_ok_iff.mpr
    ⟨by decide, (keptBindings_issue_cancel _ _ _ _).symm, ?_⟩, ?_⟩
  · rw [sharedPolicy, removedBindings_issue_cancel]
    rfl
  · intro h
    obtain ⟨hresolved, -⟩ := h
    exact absurd hresolved (by decide)

end KombitSamples.Sts.DecoratedEndpointBehavior
