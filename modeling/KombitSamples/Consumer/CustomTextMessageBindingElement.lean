import KombitSamples.Bytes
import KombitSamples.Trace

/-!
# KombitSamples.Consumer.CustomTextMessageBindingElement

The message version of the binding element that wraps the text encoding: what a
clone, the encoder factory and the WSDL make of it.  A clone starts over with
the version of the constructor, and the WSDL describes the version of another
element.

* `func_reached` — an element keeps its function over a run;
* `not_oneVersion_reached` — when each view agrees with the element, and that
  they never all do.
-/

namespace KombitSamples.Consumer

open Fallible

/-! ## Versions and encoders -/

inductive EnvelopeVersion where
  | none
  | soap11
  | soap12
deriving DecidableEq, Repr

inductive AddressingVersion where
  | none
  | wsAddressing10
  | wsAddressingAugust2004
deriving DecidableEq, Repr

structure MessageVersion where
  envelope : EnvelopeVersion
  addressing : AddressingVersion
deriving DecidableEq, Repr

namespace MessageVersion

def soap11WSAddressing10 : MessageVersion := ⟨.soap11, .wsAddressing10⟩

def soap12WSAddressing10 : MessageVersion := ⟨.soap12, .wsAddressing10⟩

end MessageVersion

/-- A `MessageEncoder`, as far as it writes messages. -/
structure MessageEncoder (Message : Type) where
  contentType : String
  mediaType : String
  messageVersion : MessageVersion
  writeMessage : Message → Int → BufferManager → Int → Except Exception ArraySegment

structure MessageEncoderFactory (Message : Type) where
  encoder : MessageEncoder Message
  messageVersion : MessageVersion

section Encoder

variable {Message : Type}

/-- The encoders of text messages that WCF makes, by the version and the name of
the character encoding. -/
abbrev TextMessageEncoders (Message : Type) := MessageVersion → String → MessageEncoder Message

/-- `TextMessageEncodingBindingElement`. -/
structure TextMessageEncodingBindingElement where
  messageVersion : MessageVersion := .soap12WSAddressing10
  writeEncoding : String := "utf-8"

namespace TextMessageEncodingBindingElement

def createMessageEncoderFactory (encoders : TextMessageEncoders Message)
    (element : TextMessageEncodingBindingElement) : MessageEncoderFactory Message where
  encoder := encoders element.messageVersion element.writeEncoding
  messageVersion := element.messageVersion

/-- `ExportEndpoint`: the version that it describes. -/
def exportEndpoint (element : TextMessageEncodingBindingElement) : MessageVersion :=
  element.messageVersion

end TextMessageEncodingBindingElement

/-- `Func<ArraySegment<byte>, BufferManager, int, ArraySegment<byte>>`. -/
abbrev SegmentFunc := ArraySegment → BufferManager → Int → Except Exception ArraySegment

/-- `Func<MessageEncoderFactory, MessageEncoderFactory>`. -/
abbrev FactoryFunc (Message : Type) := MessageEncoderFactory Message → MessageEncoderFactory Message

/-- `TamperBodyTextMessageEncoder`: it modifies what the wrapped encoder writes,
and has the version of its factory. -/
def tamperBodyTextMessageEncoder (messageVersion : MessageVersion)
    (wrapped : MessageEncoder Message) (messageModifier : SegmentFunc) : MessageEncoder Message where
  contentType := wrapped.contentType
  mediaType := wrapped.mediaType
  messageVersion := messageVersion
  writeMessage message maxMessageSize bufferManager messageOffset := do
    let encodedMessage ← wrapped.writeMessage message maxMessageSize bufferManager messageOffset
    messageModifier encodedMessage bufferManager messageOffset

/-- `CustomTextMessageEncoderFactory`; the encoder asks it for its version. -/
def customTextMessageEncoderFactory (messageModifier : SegmentFunc)
    (wrapped : MessageEncoderFactory Message) : MessageEncoderFactory Message where
  encoder := tamperBodyTextMessageEncoder wrapped.messageVersion wrapped.encoder messageModifier
  messageVersion := wrapped.messageVersion

/-- A function from factories to factories that keeps their version. -/
def KeepsVersion (func : FactoryFunc Message) : Prop :=
  ∀ factory, (func factory).messageVersion = factory.messageVersion

theorem keepsVersion_customTextMessageEncoderFactory (messageModifier : SegmentFunc) :
    KeepsVersion (@customTextMessageEncoderFactory Message messageModifier) := fun _ => rfl

end Encoder

/-! ## The binding element -/

structure CustomTextMessageBindingElement (Message : Type) where
  messageEncoderFactoryFunc : FactoryFunc Message
  wrappedMessageEncodingBindingElement : TextMessageEncodingBindingElement

namespace CustomTextMessageBindingElement

variable {Message : Type}

/-- What the constructor makes of a function. -/
def ofFunc (messageEncoderFactoryFunc : FactoryFunc Message) :
    CustomTextMessageBindingElement Message where
  messageEncoderFactoryFunc := messageEncoderFactoryFunc
  wrappedMessageEncodingBindingElement := ⟨.soap11WSAddressing10, "utf-8"⟩

/-- The constructor. -/
def create (messageEncoderFactoryFunc : Option (FactoryFunc Message)) :
    Except Exception (CustomTextMessageBindingElement Message) := do
  let messageEncoderFactoryFunc ←
    deref (.argumentNull "messageEncoderFactoryFunc") messageEncoderFactoryFunc
  pure (ofFunc messageEncoderFactoryFunc)

/-- The getter of `MessageVersion`. -/
def messageVersion (element : CustomTextMessageBindingElement Message) : MessageVersion :=
  element.wrappedMessageEncodingBindingElement.messageVersion

/-- The setter of `MessageVersion`. -/
def setMessageVersion (element : CustomTextMessageBindingElement Message)
    (value : Option MessageVersion) :
    Except Exception (CustomTextMessageBindingElement Message) := do
  let value ← deref (.argumentNull "value") value
  pure { element with wrappedMessageEncodingBindingElement :=
    { element.wrappedMessageEncodingBindingElement with messageVersion := value } }

def createMessageEncoderFactory (encoders : TextMessageEncoders Message)
    (element : CustomTextMessageBindingElement Message) : MessageEncoderFactory Message :=
  element.messageEncoderFactoryFunc
    (element.wrappedMessageEncodingBindingElement.createMessageEncoderFactory encoders)

/-- `Clone`; the function of an element is never null. -/
def clone (element : CustomTextMessageBindingElement Message) :
    CustomTextMessageBindingElement Message := ofFunc element.messageEncoderFactoryFunc

/-- `ExportEndpoint`: the version that the WSDL describes, which is that of a new
text encoding. -/
def exportEndpoint (_ : CustomTextMessageBindingElement Message) : MessageVersion :=
  TextMessageEncodingBindingElement.exportEndpoint {}

/-! ## Runs -/

/-- What can be done to an element. -/
inductive Action where
  | setMessageVersion (value : Option MessageVersion)
  | clone

/-- One action; an assignment that throws leaves the element. -/
def step (element : CustomTextMessageBindingElement Message) :
    Action → CustomTextMessageBindingElement Message
  | .setMessageVersion value => (element.setMessageVersion value).toOption.getD element
  | .clone => element.clone

def machine : Trace.Machine (CustomTextMessageBindingElement Message) Action Empty where
  step element action := (step element action, [])

/-- The element after its construction and a number of actions. -/
def reached (func : FactoryFunc Message) (actions : List Action) :
    CustomTextMessageBindingElement Message :=
  machine.after (ofFunc func) actions

/-- An action keeps the function. -/
theorem func_step (element : CustomTextMessageBindingElement Message) (action : Action) :
    (step element action).messageEncoderFactoryFunc = element.messageEncoderFactoryFunc := by
  cases action with
  | setMessageVersion value => cases value <;> rfl
  | clone => rfl

/-- So does every run. -/
theorem func_reached (func : FactoryFunc Message) (actions : List Action) :
    (reached func actions).messageEncoderFactoryFunc = func := by
  have hkeeps : (@machine Message).Keeps
      (fun element => element.messageEncoderFactoryFunc = func) fun _ => True :=
    ⟨fun element action h => (func_step element action).trans h, fun _ _ _ _ _ => trivial⟩
  exact hkeeps.after_inv actions _ rfl

/-- Every view of an element has its version. -/
structure OneVersion (encoders : TextMessageEncoders Message)
    (element : CustomTextMessageBindingElement Message) : Prop where
  clone : element.clone.messageVersion = element.messageVersion
  encoder : (element.createMessageEncoderFactory encoders).messageVersion = element.messageVersion
  exported : element.exportEndpoint = element.messageVersion

/-- Which views have the version of the element: the encoder factory, a clone
when it is the one of the constructor, and the WSDL when it is that of a new
text encoding. -/
structure Views (encoders : TextMessageEncoders Message)
    (element : CustomTextMessageBindingElement Message) : Prop where
  clone_iff : element.clone.messageVersion = element.messageVersion ↔
    element.messageVersion = .soap11WSAddressing10
  encoder : (element.createMessageEncoderFactory encoders).messageVersion = element.messageVersion
  exported_iff : element.exportEndpoint = element.messageVersion ↔
    element.messageVersion = .soap12WSAddressing10

theorem views_reached {func : FactoryFunc Message} (hfunc : KeepsVersion func)
    (encoders : TextMessageEncoders Message) (actions : List Action) :
    Views encoders (reached func actions) where
  clone_iff := eq_comm
  encoder := by
    rw [createMessageEncoderFactory, func_reached]
    exact hfunc _
  exported_iff := eq_comm

/-- **One version.** In every element that is reached the encoder factory has its
version; a clone and the WSDL have it for two different versions, so the views
never agree. -/
theorem not_oneVersion_reached {func : FactoryFunc Message} (hfunc : KeepsVersion func)
    (encoders : TextMessageEncoders Message) (actions : List Action) :
    Views encoders (reached func actions) ∧ ¬ OneVersion encoders (reached func actions) := by
  have hviews := views_reached hfunc encoders actions
  refine ⟨hviews, ?_⟩
  intro h
  have hclone := hviews.clone_iff.mp h.clone
  have hexported := hviews.exported_iff.mp h.exported
  rw [hclone] at hexported
  cases hexported

/-- Encoders of messages that are texts. -/
def asciiEncoders : TextMessageEncoders String := fun messageVersion writeEncoding => {
  contentType := "text/xml; charset=" ++ writeEncoding
  mediaType := "text/xml"
  messageVersion := messageVersion
  writeMessage := fun message _ _ _ =>
    ArraySegment.create (message.toList.map fun c => UInt8.ofNat c.toNat) 0 message.length }

/-- Encoders that send a message as it is. -/
def unmodified : MessageEncoderFactory String → MessageEncoderFactory String :=
  customTextMessageEncoderFactory fun encodedMessage _ _ => .ok encodedMessage

theorem not_oneVersion_cloned :
    ¬ OneVersion asciiEncoders
      (reached unmodified [.setMessageVersion (some .soap12WSAddressing10), .clone]) :=
  (not_oneVersion_reached (keepsVersion_customTextMessageEncoderFactory _) _ _).2

/-- A new element is described with another version, and a clone of one that was
assigned a version has another one. -/
theorem oneVersion_fails :
    (reached unmodified []).exportEndpoint ≠ (reached unmodified []).messageVersion ∧
      (reached unmodified [.setMessageVersion (some .soap12WSAddressing10)]).clone.messageVersion ≠
        (reached unmodified [.setMessageVersion (some .soap12WSAddressing10)]).messageVersion ∧
      ¬ OneVersion asciiEncoders (reached unmodified []) := by
  have hexported : (reached unmodified []).exportEndpoint ≠
      (reached unmodified []).messageVersion := by decide
  exact ⟨hexported, by decide, fun h => hexported h.exported⟩

end CustomTextMessageBindingElement

end KombitSamples.Consumer
