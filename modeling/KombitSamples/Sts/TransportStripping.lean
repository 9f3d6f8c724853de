import KombitSamples.Sts.PolicyPruning
import KombitSamples.Sts.WsdlPruning

/-!
# KombitSamples.Sts.TransportStripping

The transport bindings that an export leaves in the published policies.  Only
the passes for removed operations take transport bindings out, and a pass takes
one from each policy, so the removed operations are counted against the
transport bindings.

* `transportPolicies_of_exportEndpoint` — the policies that are published with
  a transport binding;
* `stripped_iff` — when there are none;
* `transportPolicies_eq_iff` — when two exports of the same policies publish
  the same ones;
* `stripsTransport_iff` — both.
-/

namespace KombitSamples.Sts.DecoratedEndpointBehavior

open Fallible Removal Xml

/-! ## Policies -/

/-- The extension is a `wsp:Policy`. -/
def isPolicy (extension : Wsdl.Extension) : Bool :=
  extension.asElement.any fun e => e.name = policyName

/-- The policy has a transport binding somewhere. -/
def carriesTransport (extension : Wsdl.Extension) : Bool :=
  extension.asElement.any fun e => (e.firstByTagName transportBindingName).isSome

/-- The policies with a transport binding. -/
def transportPolicies (wsdlBinding : Wsdl.Binding) : List Wsdl.Extension :=
  wsdlBinding.extensions.filter fun extension => isPolicy extension && carriesTransport extension

/-- No policy has a transport binding. -/
def Stripped (wsdlBinding : Wsdl.Binding) : Prop :=
  ∀ extension ∈ wsdlBinding.extensions, isPolicy extension = true →
    carriesTransport extension = false

instance (wsdlBinding : Wsdl.Binding) : Decidable (Stripped wsdlBinding) :=
  inferInstanceAs (Decidable (∀ extension ∈ wsdlBinding.extensions, _))

/-- Of two descriptions that are published with the same policies, and with
operations of their own: the first one has no transport binding, and the other
one has no other transport policy. -/
structure StripsTransport (wsdlBinding otherBinding : Wsdl.Binding) : Prop where
  stripped : Stripped wsdlBinding
  independent : transportPolicies otherBinding = transportPolicies wsdlBinding

theorem stripped_iff_transportPolicies {wsdlBinding : Wsdl.Binding} :
    Stripped wsdlBinding ↔ transportPolicies wsdlBinding = [] := by
  rw [transportPolicies, List.filter_eq_nil_iff]
  simp [Stripped]

theorem carriesTransport_eq (extension : Wsdl.Extension) :
    carriesTransport extension = decide (0 < transportCount extension) := by
  cases extension with
  | other kind => rfl
  | element e =>
      have hnone : e.firstByTagName transportBindingName = none ↔
          transportCount (.element e) = 0 := e.firstByTagName_eq_none_iff
      rw [carriesTransport, Wsdl.Extension.asElement, Option.any_some, Bool.eq_iff_iff,
        decide_eq_true_eq, Option.isSome_iff_ne_none, ne_eq, hnone, Nat.pos_iff_ne_zero]

/-- Losing a transport binding leaves a policy a policy. -/
@[simp] theorem isPolicy_withoutTransport (extension : Wsdl.Extension) :
    isPolicy (withoutTransport extension) = isPolicy extension := by
  cases extension with
  | other kind => rfl
  | element e => simp [isPolicy, withoutTransport, Wsdl.Extension.asElement]

/-! ## All passes -/

/-- The extension is a policy with more transport bindings than there are
passes. -/
def outlasts (passes : Nat) (extension : Wsdl.Extension) : Bool :=
  isPolicy extension && decide (passes < transportCount extension)

theorem outlasts_eq_true_iff {passes : Nat} {extension : Wsdl.Extension} :
    outlasts passes extension = true ↔
      isPolicy extension = true ∧ passes < transportCount extension := by
  rw [outlasts, Bool.and_eq_true, decide_eq_true_eq]

theorem transportPolicies_eq (wsdlBinding : Wsdl.Binding) :
    transportPolicies wsdlBinding = wsdlBinding.extensions.filter (outlasts 0) :=
  List.filter_congr fun extension _ =>
    congrArg (isPolicy extension && ·) (carriesTransport_eq extension)

theorem outlasts_comp_withoutTransport (passes : Nat) :
    outlasts passes ∘ withoutTransport = outlasts (passes + 1) := by
  funext extension
  rw [Function.comp_apply, Bool.eq_iff_iff, outlasts_eq_true_iff, outlasts_eq_true_iff,
    isPolicy_withoutTransport, transportCount_withoutTransport, Nat.lt_sub_iff_add_lt]

/-- An extension with a transport binding is no policy that the search
considers. -/
theorem designates_of_transportCount_pos {extension : Wsdl.Extension}
    (h : 0 < transportCount extension) (uri : Option String) :
    designates uri extension = false :=
  designates_of_candidateId_none (if_neg (Nat.ne_of_gt h)) uri

/-- What the search takes out has no transport binding left. -/
theorem outlasts_of_designates {passes : Nat} {uri : Option String} {extension : Wsdl.Extension}
    (h : designates uri extension = true) : outlasts passes extension = false := by
  rw [← Bool.not_eq_true, outlasts_eq_true_iff]
  rintro ⟨-, hcount⟩
  rw [designates_of_transportCount_pos (by omega)] at h
  cases h

/-- A pass takes one transport binding from each policy that has one left, and
does not take such a policy out. -/
theorem filter_prunedExtensions (passes : Nat) (extensions : List Wsdl.Extension)
    (operationBinding : Wsdl.OperationBinding) :
    (prunedExtensions extensions operationBinding).filter (outlasts passes) =
      (extensions.filter (outlasts (passes + 1))).map withoutTransport := by
  rw [prunedExtensions, List.filter_map, outlasts_comp_withoutTransport, remaining,
    filter_eraseP_of_disjoint fun _ _ => outlasts_of_designates,
    filter_eraseP_of_disjoint fun _ _ => outlasts_of_designates]

theorem filter_foldl_prunedExtensions (list : List Wsdl.OperationBinding)
    (extensions : List Wsdl.Extension) :
    (list.foldl prunedExtensions extensions).filter (outlasts 0) =
      (extensions.filter (outlasts list.length)).map withoutTransport^[list.length] := by
  induction list generalizing extensions with
  | nil => exact (List.map_id _).symm
  | cons binding2 list ih =>
      rw [List.foldl_cons, ih, filter_prunedExtensions, List.map_map, List.length_cons,
        Function.iterate_succ]

/-- A number of passes takes as many transport bindings, as far as there are
some. -/
theorem transportCount_iterate (n : Nat) (extension : Wsdl.Extension) :
    transportCount (withoutTransport^[n] extension) = transportCount extension - n := by
  induction n generalizing extension with
  | zero => rfl
  | succ n ih =>
      rw [Function.iterate_succ_apply, ih, transportCount_withoutTransport]
      omega

/-! ## The export -/

/-- The number of passes that an export makes over the policies. -/
def passCount (context : Wsdl.EndpointConversionContext) : Nat :=
  (removedBindings context.wsdlBinding).length

section Export

variable {context context' otherContext otherContext' : Wsdl.EndpointConversionContext}

/-- An export that returns publishes with a transport binding the policies that
have more of them than it makes passes, and takes one out in each pass. -/
theorem transportPolicies_of_exportEndpoint (h : exportEndpoint context = .ok context') :
    transportPolicies context'.wsdlBinding =
      (context.wsdlBinding.extensions.filter (outlasts (passCount context))).map
        withoutTransport^[passCount context] := by
  obtain ⟨-, hbinding⟩ := exportEndpoint_eq_ok_iff.mp h
  obtain ⟨-, -, hpolicies⟩ := removeRedundantOperations_eq_ok_iff.mp hbinding
  obtain ⟨-, -, hextensions⟩ := removePolicies_eq_ok_iff.mp hpolicies
  rw [transportPolicies_eq, hextensions, filter_foldl_prunedExtensions]
  rfl

/-- No policy is published with a transport binding exactly when none has more
of them than there are removed operations. -/
theorem stripped_iff (h : exportEndpoint context = .ok context') :
    Stripped context'.wsdlBinding ↔
      ∀ extension ∈ context.wsdlBinding.extensions, isPolicy extension = true →
        transportCount extension ≤ passCount context := by
  rw [stripped_iff_transportPolicies, transportPolicies_of_exportEndpoint h, List.map_eq_nil_iff,
    List.filter_eq_nil_iff]
  simp only [outlasts_eq_true_iff, not_and, not_lt]

/-- No policy outlasts the greater of two numbers of passes if the policies that
are left after them are the same. -/
theorem filter_outlasts_eq_nil {extensions : List Wsdl.Extension} {passes more : Nat}
    (hlt : passes < more)
    (h : (extensions.filter (outlasts passes)).map withoutTransport^[passes] =
      (extensions.filter (outlasts more)).map withoutTransport^[more]) :
    extensions.filter (outlasts more) = [] := by
  have himp : ∀ extension, outlasts more extension = true → outlasts passes extension = true := by
    intro extension hmore
    rw [outlasts_eq_true_iff] at hmore ⊢
    exact ⟨hmore.1, Nat.lt_trans hlt hmore.2⟩
  have hlength := congrArg List.length h
  rw [List.length_map, List.length_map] at hlength
  -- As many outlast the fewer passes, so they are the same policies.
  have hsame := (List.monotone_filter_right extensions himp).eq_of_length hlength.symm
  rw [← hsame] at h
  by_contra hne
  obtain ⟨extension, hmem⟩ := List.exists_mem_of_ne_nil _ hne
  have hcount := congrArg transportCount (List.map_inj_left.mp h extension hmem)
  rw [transportCount_iterate, transportCount_iterate] at hcount
  have houtlasts := (outlasts_eq_true_iff.mp (List.mem_filter.mp hmem).2).2
  omega

section Exports

variable
  (hextensions : otherContext.wsdlBinding.extensions = context.wsdlBinding.extensions)
  (h : exportEndpoint context = .ok context')
  (hother : exportEndpoint otherContext = .ok otherContext')

include hextensions h hother

/-- Two exports of the same policies publish the same transport policies exactly
when they make as many passes, or strip all of them. -/
theorem transportPolicies_eq_iff :
    transportPolicies otherContext'.wsdlBinding = transportPolicies context'.wsdlBinding ↔
      passCount otherContext = passCount context ∨
        Stripped context'.wsdlBinding ∧ Stripped otherContext'.wsdlBinding := by
  have hpublished := transportPolicies_of_exportEndpoint h
  have hpublished' := transportPolicies_of_exportEndpoint hother
  rw [hextensions] at hpublished'
  rw [stripped_iff_transportPolicies, stripped_iff_transportPolicies]
  constructor
  · intro hsame
    rcases Nat.lt_trichotomy (passCount otherContext) (passCount context) with hlt | heq | hgt
    · have hnil : transportPolicies context'.wsdlBinding = [] := by
        rw [hpublished, List.map_eq_nil_iff]
        exact filter_outlasts_eq_nil hlt (hpublished'.symm.trans (hsame.trans hpublished))
      exact Or.inr ⟨hnil, hsame.trans hnil⟩
    · exact Or.inl heq
    · have hnil : transportPolicies otherContext'.wsdlBinding = [] := by
        rw [hpublished', List.map_eq_nil_iff]
        exact filter_outlasts_eq_nil hgt (hpublished.symm.trans (hsame.symm.trans hpublished'))
      exact Or.inr ⟨hsame.symm.trans hnil, hnil⟩
  · intro hor
    rcases hor with heq | ⟨hnil, hnil'⟩
    · rw [hpublished, hpublished', heq]
    · rw [hnil, hnil']

/-- **Stripping.** Of two exports of the same policies that return, the first one
publishes none with a transport binding, and the other one the same, exactly when
no policy has more transport bindings than either of them removes operations. -/
theorem stripsTransport_iff :
    StripsTransport context'.wsdlBinding otherContext'.wsdlBinding ↔
      ∀ extension ∈ context.wsdlBinding.extensions, isPolicy extension = true →
        transportCount extension ≤ passCount context ∧
          transportCount extension ≤ passCount otherContext := by
  have hstripped := stripped_iff h
  have hstripped' := stripped_iff hother
  rw [hextensions] at hstripped'
  constructor
  · intro hstrips extension hextension hpolicy
    have hle := hstripped.mp hstrips.stripped extension hextension hpolicy
    refine ⟨hle, ?_⟩
    rcases (transportPolicies_eq_iff hextensions h hother).mp hstrips.independent with heq | hboth
    · rw [heq]
      exact hle
    · exact hstripped'.mp hboth.2 extension hextension hpolicy
  · intro hfew
    have hfirst := hstripped.mpr fun extension hextension hpolicy =>
      (hfew extension hextension hpolicy).1
    have hsecond := hstripped'.mpr fun extension hextension hpolicy =>
      (hfew extension hextension hpolicy).2
    exact ⟨hfirst, (transportPolicies_eq_iff hextensions h hother).mpr (Or.inr ⟨hfirst, hsecond⟩)⟩

end Exports

end Export

/-! ### With none, one and two removed operations -/

/-- A policy with nothing in its alternative. -/
def strippedPolicy (id : String) : Wsdl.Extension :=
  policy id [.element ⟨"ExactlyOne", policyName.namespaceURI⟩ []
    [.element ⟨"All", policyName.namespaceURI⟩ [] []]]

/-- An endpoint of the asynchronous contract, that can be asked to issue. -/
def issueContext (extensions : List Wsdl.Extension) : Wsdl.EndpointConversionContext where
  serviceDescription := asyncDescription [issueOperation] issueMessages
  wsdlBinding := ⟨[issueOf []], extensions⟩

/-- One that can be asked to cancel, too. -/
def issueCancelContext (extensions : List Wsdl.Extension) : Wsdl.EndpointConversionContext where
  serviceDescription := asyncDescription [issueOperation, cancelOperation]
    (issueMessages ++ cancelMessages)
  wsdlBinding := ⟨[issueOf [], cancelOf [] []], extensions⟩

def renewOperation : Wsdl.Operation where
  id := 2
  name := some "Trust13RenewAsync"
  input := some "RenewIn"
  output := some "RenewOut"

def renewMessages : List Wsdl.Message := [⟨4, some "RenewIn"⟩, ⟨5, some "RenewOut"⟩]

/-- One that can be asked to cancel and to renew, too. -/
def issueCancelRenewContext (extensions : List Wsdl.Extension) :
    Wsdl.EndpointConversionContext where
  serviceDescription := asyncDescription [issueOperation, cancelOperation, renewOperation]
    (issueMessages ++ cancelMessages ++ renewMessages)
  wsdlBinding := ⟨[issueOf [], cancelOf [] [], bindingOf renewOperation], extensions⟩

theorem exportEndpoint_issueCancel :
    exportEndpoint (issueCancelContext [policy "issue" [transportAlternative]]) =
      .ok (issueContext [strippedPolicy "issue"]) := by
  rfl

theorem exportEndpoint_issueCancelRenew :
    exportEndpoint (issueCancelRenewContext [policy "issue" [transportAlternative]]) =
      .ok (issueContext [strippedPolicy "issue"]) := by
  rfl

theorem stripsTransport_issueCancel :
    StripsTransport (issueContext [strippedPolicy "issue"]).wsdlBinding
      (issueContext [strippedPolicy "issue"]).wsdlBinding := by
  refine (stripsTransport_iff rfl exportEndpoint_issueCancel exportEndpoint_issueCancelRenew).mpr ?_
  decide

/-- The same policy keeps its transport binding where no operation is removed,
and loses it where one is. -/
theorem not_stripsTransport_issue :
    Strippable (policy "issue" [transportAlternative]) ∧
      exportEndpoint (issueContext [policy "issue" [transportAlternative]]) =
        .ok (issueContext [policy "issue" [transportAlternative]]) ∧
      exportEndpoint (issueCancelContext [policy "issue" [transportAlternative]]) =
        .ok (issueContext [strippedPolicy "issue"]) ∧
      ¬ Stripped (issueContext [policy "issue" [transportAlternative]]).wsdlBinding ∧
      transportPolicies (issueContext [strippedPolicy "issue"]).wsdlBinding ≠
        transportPolicies (issueContext [policy "issue" [transportAlternative]]).wsdlBinding := by
  exact ⟨by decide, by rfl, exportEndpoint_issueCancel, by decide, by decide⟩

end KombitSamples.Sts.DecoratedEndpointBehavior
