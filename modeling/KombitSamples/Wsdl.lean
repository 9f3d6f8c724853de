import KombitSamples.Platform
import KombitSamples.Xml
import Mathlib.Data.List.Basic

/-!
# KombitSamples.Wsdl

The part of `System.Web.Services.Description` that describes an endpoint: a
tree of port types, operations and messages, and a binding with extensions.

Objects are told apart by identity, the field `id`.  An extension is known by
its place in its collection, and is an XML element with a tree of its own or
some other object.
-/

namespace KombitSamples.Wsdl

open Xml

/-! ## The service description -/

structure Operation where
  id : Nat
  name : Option String
  /-- `Messages.Input.Message.Name`; null when there is no input. -/
  input : Option String
  /-- `Messages.Output.Message.Name`; null when there is no output. -/
  output : Option String
deriving DecidableEq, Repr

structure Message where
  id : Nat
  name : Option String
deriving DecidableEq, Repr

structure PortType where
  name : Option String
  operations : List Operation
deriving DecidableEq, Repr

instance (type type' : PortType) : Decidable (type.operations.Disjoint type'.operations) :=
  decidable_of_iff (∀ operation ∈ type.operations, operation ∉ type'.operations) Iff.rfl

/-- What the code reads of a `ServiceDescription`.  An operation belongs to
one port type, its `PortType`. -/
structure ServiceDescription where
  portTypes : List PortType
  messages : List Message
  disjoint : portTypes.Pairwise fun type type' => type.operations.Disjoint type'.operations

/-! ## The binding -/

/-- An object in a collection of extensions. -/
inductive Extension where
  | element (e : XmlElement)
  | other (kind : String)
deriving DecidableEq

/-- `obj as XmlElement`. -/
def Extension.asElement : Extension → Option XmlElement
  | .element e => some e
  | .other _ => none

/-- The inputs and outputs of an operation binding are their extensions. -/
structure OperationBinding where
  id : Nat
  name : Option String
  input : Option (List Extension)
  output : Option (List Extension)
deriving DecidableEq

/-- A binding, with the extensions of its service description. -/
structure Binding where
  operations : List OperationBinding
  extensions : List Extension
deriving DecidableEq

/-- `WsdlEndpointConversionContext`: the service description of the port, and
the binding. -/
structure EndpointConversionContext where
  serviceDescription : ServiceDescription
  wsdlBinding : Binding

end KombitSamples.Wsdl
