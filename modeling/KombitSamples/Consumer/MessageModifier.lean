import KombitSamples.Consumer.CustomTextMessageBindingElement
import KombitSamples.Consumer.ReplayMessageModifier
import KombitSamples.Xml

/-!
# KombitSamples.Consumer.MessageModifier

The message modifier that tampers with a message: it marks the body of a SOAP
1.1 envelope with an attribute, behind the back of whoever has signed it.  What
is signed is not modelled, only a digest of the body.

* `tamper_detected` — what it changes of a message, and when a digest of the body
  shows it;
* `tamperMessage_sent` — what is sent through a binding element with it.
-/

namespace KombitSamples.Consumer.MessageModifier

open Fallible Xml

/-! ## Documents -/

/-- `XNamespace ns`: that of the envelopes of SOAP 1.1. -/
def ns : String := "http://schemas.xmlsoap.org/soap/envelope/"

def bodyName : XmlQualifiedName := ⟨"Body", ns⟩

/-- `SetAttributeValue(name, value)`, for a name without a namespace. -/
def setAttributeValue (name value : String) : List XmlAttribute → List XmlAttribute
  | [] => [⟨name, ⟨name, ""⟩, value⟩]
  | a :: attributes =>
      if a.qualifiedName = ⟨name, ""⟩ then { a with value := value } :: attributes
      else a :: setAttributeValue name value attributes

def isBody : XmlNode → Bool
  | .element name _ _ => name = bodyName
  | .other _ => false

/-- The element with the attribute that says it was tampered with. -/
def marked : XmlNode → XmlNode
  | .element name attributes childNodes =>
      .element name (setAttributeValue "Tampered" "true" attributes) childNodes
  | .other kind => .other kind

/-- Change the first element of a list with a property. -/
def modifyFirst {α : Type} (p : α → Bool) (f : α → α) : List α → Option (List α)
  | [] => none
  | x :: xs => if p x then some (f x :: xs) else (modifyFirst p f xs).map (x :: ·)

/-- What `TamperMessage` makes of a message: there is no body element to change
in an envelope of another version. -/
def tamper (xmlMessage : XmlElement) : Except Exception XmlElement := do
  let childNodes ← deref .nullReference (modifyFirst isBody marked xmlMessage.childNodes)
  pure { xmlMessage with childNodes := childNodes }

/-- The body of a message: `xmlMessage.Element(ns + "Body")`. -/
def bodyElement (xmlMessage : XmlElement) : Option XmlNode := xmlMessage.childNodes.find? isBody

/-! ## What is changed -/

section Tamper

theorem setAttributeValue_idem (name value : String) (attributes : List XmlAttribute) :
    setAttributeValue name value (setAttributeValue name value attributes) =
      setAttributeValue name value attributes := by
  induction attributes with
  | nil => simp [setAttributeValue]
  | cons a attributes ih =>
      by_cases h : a.qualifiedName = ⟨name, ""⟩
      · simp [setAttributeValue, h]
      · simp [setAttributeValue, h, ih]

theorem marked_marked (node : XmlNode) : marked (marked node) = marked node := by
  cases node with
  | element name attributes childNodes => rw [marked, marked, setAttributeValue_idem]
  | other kind => rfl

theorem isBody_marked (node : XmlNode) : isBody (marked node) = isBody node := by
  cases node <;> rfl

/-- The first element with the property stands between elements without it and
the rest of the list. -/
theorem modifyFirst_eq_some_iff {α : Type} {p : α → Bool} {f : α → α} {xs ys : List α} :
    modifyFirst p f xs = some ys ↔
      ∃ before x after, xs = before ++ x :: after ∧ (∀ y ∈ before, p y = false) ∧ p x = true ∧
        ys = before ++ f x :: after := by
  induction xs generalizing ys with
  | nil => simp [modifyFirst]
  | cons x xs ih =>
      cases hp : p x with
      | true =>
          rw [modifyFirst, if_pos hp, Option.some.injEq]
          constructor
          · intro h
            exact ⟨[], x, xs, rfl, by simp, hp, h.symm⟩
          · intro h
            obtain ⟨before, y, after, hxs, hbefore, -, hys⟩ := h
            cases before with
            | nil =>
                obtain ⟨rfl, rfl⟩ := List.cons.inj hxs
                exact hys.symm
            | cons z before =>
                have hz := hbefore x (by simp [(List.cons.inj hxs).1])
                rw [hp] at hz
                contradiction
      | false =>
          rw [modifyFirst, hp, if_neg Bool.false_ne_true, Option.map_eq_some_iff]
          simp only [ih]
          constructor
          · intro h
            obtain ⟨_, ⟨before, y, after, rfl, hbefore, hy, rfl⟩, rfl⟩ := h
            refine ⟨x :: before, y, after, rfl, ?_, hy, rfl⟩
            rw [List.forall_mem_cons]
            exact ⟨hp, hbefore⟩
          · intro h
            obtain ⟨before, y, after, hxs, hbefore, hy, rfl⟩ := h
            cases before with
            | nil =>
                rw [(List.cons.inj hxs).1, hy] at hp
                contradiction
            | cons z before =>
                obtain ⟨rfl, rfl⟩ := List.cons.inj hxs
                rw [List.forall_mem_cons] at hbefore
                exact ⟨_, ⟨before, y, after, rfl, hbefore.2, hy, rfl⟩, rfl⟩

theorem modifyFirst_ne_none_iff {α : Type} {p : α → Bool} {f : α → α} {xs : List α} :
    modifyFirst p f xs ≠ none ↔ ∃ x ∈ xs, p x = true := by
  induction xs with
  | nil => simp [modifyFirst]
  | cons x xs ih =>
      cases hp : p x with
      | true => simp [modifyFirst, hp]
      | false => simpa [modifyFirst, hp] using ih

variable {xmlMessage tampered : XmlElement}

/-- What the modifier leaves: the body is marked, and the rest is as it was. -/
theorem tamper_eq_ok_iff :
    tamper xmlMessage = .ok tampered ↔
      ∃ before body after, xmlMessage.childNodes = before ++ body :: after ∧
        (∀ node ∈ before, isBody node = false) ∧ isBody body = true ∧
        tampered = { xmlMessage with childNodes := before ++ marked body :: after } := by
  simp only [tamper, bind_eq_ok, deref_eq_ok, pure_eq_ok, modifyFirst_eq_some_iff]
  constructor
  · intro h
    obtain ⟨_, ⟨before, body, after, heq, hbefore, hbody, rfl⟩, rfl⟩ := h
    exact ⟨before, body, after, heq, hbefore, hbody, rfl⟩
  · intro h
    obtain ⟨before, body, after, heq, hbefore, hbody, rfl⟩ := h
    exact ⟨_, ⟨before, body, after, heq, hbefore, hbody, rfl⟩, rfl⟩

/-- A message can be tampered with when it has a body of that version. -/
theorem returns_tamper_iff : Returns (tamper xmlMessage) ↔ bodyElement xmlMessage ≠ none := by
  simp only [tamper, returns_bind, deref_eq_ok, returns_pure, and_true,
    ← Option.ne_none_iff_exists', modifyFirst_ne_none_iff]
  rw [bodyElement, ne_eq, List.find?_eq_none]
  simp

theorem find?_of_split {p : XmlNode → Bool} {before after : List XmlNode} {node : XmlNode}
    (hbefore : ∀ y ∈ before, p y = false) (hnode : p node = true) :
    (before ++ node :: after).find? p = some node := by
  rw [List.find?_append, List.find?_eq_none.mpr (by simpa using hbefore), Option.none_or,
    List.find?_cons_of_pos hnode]

/-- A second time changes nothing. -/
theorem tamper_idem (h : tamper xmlMessage = .ok tampered) : tamper tampered = .ok tampered := by
  obtain ⟨before, body, after, -, hbefore, hbody, rfl⟩ := tamper_eq_ok_iff.mp h
  refine tamper_eq_ok_iff.mpr ⟨before, marked body, after, rfl, hbefore, ?_, ?_⟩
  · rw [isBody_marked, hbody]
  · rw [marked_marked]

/-- What the modifier does to a message: everything but the body is left alone;
the digest of the body shows the change unless the body was marked before; and a
second time changes nothing. -/
structure Detected {Digest : Type} (digest : XmlNode → Digest) (xmlMessage tampered : XmlElement) :
    Prop where
  envelope : tampered.name = xmlMessage.name ∧ tampered.attributes = xmlMessage.attributes
  others : tampered.childNodes.eraseP isBody = xmlMessage.childNodes.eraseP isBody
  body : bodyElement tampered = (bodyElement xmlMessage).map marked
  digest_eq_iff : (bodyElement tampered).map digest = (bodyElement xmlMessage).map digest ↔
    (bodyElement xmlMessage).map marked = bodyElement xmlMessage
  idem : tamper tampered = .ok tampered

/-- A digest that tells elements apart shows what was done to the body. -/
theorem tamper_detected {Digest : Type} {digest : XmlNode → Digest}
    (hdigest : Function.Injective digest) (h : tamper xmlMessage = .ok tampered) :
    Detected digest xmlMessage tampered := by
  have hidem := tamper_idem h
  obtain ⟨before, body, after, hchildren, hbefore, hbody, rfl⟩ := tamper_eq_ok_iff.mp h
  have hmarked : isBody (marked body) = true := by rw [isBody_marked, hbody]
  have hfound : bodyElement xmlMessage = some body := by
    rw [bodyElement, hchildren, find?_of_split hbefore hbody]
  have hfound' : bodyElement { xmlMessage with childNodes := before ++ marked body :: after } =
      some (marked body) := find?_of_split hbefore hmarked
  have hnot : ∀ node ∈ before, ¬ isBody node = true := by simpa using hbefore
  refine ⟨⟨rfl, rfl⟩, ?_, ?_, ?_, hidem⟩
  · rw [hchildren, List.eraseP_append_right _ hnot, List.eraseP_append_right _ hnot,
      List.eraseP_cons_of_pos hmarked, List.eraseP_cons_of_pos hbody]
  · rw [hfound', hfound, Option.map_some]
  · rw [hfound', hfound, Option.map_some, Option.map_some, Option.map_some, Option.some.injEq,
      Option.some.injEq, hdigest.eq_iff]

end Tamper

/-! ## TamperMessage -/

/-- `TamperMessage`. -/
def tamperMessage (xml : XmlLibrary XmlElement) : SegmentFunc :=
  fun encodedMessage bufferManager messageOffset => do
    let xmlMessage ← ReplayMessageModifier.currentMessage xml encodedMessage
    let xmlMessage ← tamper xmlMessage
    ReplayMessageModifier.writeMessage xml xmlMessage bufferManager messageOffset

section Sent

variable {Message : Type} {xml : XmlLibrary XmlElement} {encoders : TextMessageEncoders Message}

/-- The encoder that the text encoding of a binding element makes. -/
def wrappedEncoder (encoders : TextMessageEncoders Message)
    (element : CustomTextMessageBindingElement Message) : MessageEncoder Message :=
  (element.wrappedMessageEncodingBindingElement.createMessageEncoderFactory encoders).encoder

/-- The encoders write envelopes of their version: there is a SOAP 1.1 body in
those of SOAP 1.1 only. -/
def WritesEnvelopes (xml : XmlLibrary XmlElement) (encoders : TextMessageEncoders Message) :
    Prop :=
  ∀ messageVersion writeEncoding message maxMessageSize bufferManager messageOffset segment,
    (encoders messageVersion writeEncoding).writeMessage message maxMessageSize bufferManager
      messageOffset = .ok segment →
    ∃ xmlMessage, ReplayMessageModifier.currentMessage xml segment = .ok xmlMessage ∧
      (bodyElement xmlMessage ≠ none ↔ messageVersion.envelope = .soap11)

/-- The message can be written again after it was tampered with: it is read back,
and it fits. -/
def Rewritable (xml : XmlLibrary XmlElement) (call : ModifyCall) : Prop :=
  ∀ xmlMessage tampered,
    ReplayMessageModifier.currentMessage xml call.encodedMessage = .ok xmlMessage →
    tamper xmlMessage = .ok tampered →
    xml.load (xml.save tampered) = .ok tampered ∧ ReplayMessageModifier.Fits xml tampered call

theorem load_of_currentMessage {encodedMessage : ArraySegment} {xmlMessage : XmlElement}
    (h : ReplayMessageModifier.currentMessage xml encodedMessage = .ok xmlMessage) :
    xml.load encodedMessage.bytes = .ok xmlMessage := by
  rw [ReplayMessageModifier.currentMessage, bind_eq_ok] at h
  obtain ⟨array, -, hload⟩ := h
  exact hload

/-- What the modifier makes of a segment. -/
theorem tamperMessage_cases {call : ModifyCall} (hrewritable : Rewritable xml call)
    {xmlMessage : XmlElement}
    (hread : ReplayMessageModifier.currentMessage xml call.encodedMessage = .ok xmlMessage) :
    (bodyElement xmlMessage = none ∧ ¬ Returns
        (tamperMessage xml call.encodedMessage call.bufferManager call.messageOffset)) ∨
      ∃ tampered sent, tamper xmlMessage = .ok tampered ∧
        tamperMessage xml call.encodedMessage call.bufferManager call.messageOffset = .ok sent ∧
        xml.load sent.bytes = .ok tampered := by
  rw [tamperMessage, hread, ok_bind]
  cases htamper : tamper xmlMessage with
  | error ex =>
      have hbody : ¬ Returns (tamper xmlMessage) := by simp [htamper]
      rw [returns_tamper_iff, not_not] at hbody
      rw [error_bind]
      exact .inl ⟨hbody, not_returns_error ex⟩
  | ok tampered =>
      obtain ⟨hload, hfits⟩ := hrewritable xmlMessage tampered hread htamper
      obtain ⟨sent, hwritten, hholds⟩ :=
        ReplayMessageModifier.writeMessage_eq_ok_of_load hload hfits
      rw [ok_bind]
      exact .inr ⟨tampered, sent, rfl, hwritten, hholds.load⟩

/-- **Tampered on the wire.** Through a binding element with the modifier, after
whatever was done to it, a message is sent exactly when the element still has an
envelope of SOAP 1.1; what is sent is the encoded message with a mark on its body,
which a digest of the body shows unless it had that mark before. -/
theorem tamperMessage_sent {Digest : Type} {digest : XmlNode → Digest}
    (hdigest : Function.Injective digest) (hwrites : WritesEnvelopes xml encoders)
    (actions : List CustomTextMessageBindingElement.Action)
    {element : CustomTextMessageBindingElement Message}
    (helement : element = CustomTextMessageBindingElement.reached
      (customTextMessageEncoderFactory (tamperMessage xml)) actions)
    (message : Message) (maxMessageSize : Int) (call : ModifyCall)
    (hencoded : (wrappedEncoder encoders element).writeMessage message maxMessageSize
      call.bufferManager call.messageOffset = .ok call.encodedMessage)
    (hrewritable : Rewritable xml call) :
    (Returns ((element.createMessageEncoderFactory encoders).encoder.writeMessage message
        maxMessageSize call.bufferManager call.messageOffset) ↔
      element.messageVersion.envelope = .soap11) ∧
    ∀ sent, (element.createMessageEncoderFactory encoders).encoder.writeMessage message
        maxMessageSize call.bufferManager call.messageOffset = .ok sent →
      ∃ xmlMessage tampered, xml.load call.encodedMessage.bytes = .ok xmlMessage ∧
        xml.load sent.bytes = .ok tampered ∧ Detected digest xmlMessage tampered := by
  have hfunc : element.messageEncoderFactoryFunc =
      customTextMessageEncoderFactory (tamperMessage xml) := by
    rw [helement, CustomTextMessageBindingElement.func_reached]
  have hwritten : (element.createMessageEncoderFactory encoders).encoder.writeMessage message
      maxMessageSize call.bufferManager call.messageOffset =
      tamperMessage xml call.encodedMessage call.bufferManager call.messageOffset := by
    rw [CustomTextMessageBindingElement.createMessageEncoderFactory, hfunc]
    change (wrappedEncoder encoders element).writeMessage _ _ _ _ >>= _ = _
    rw [hencoded, ok_bind]
  obtain ⟨xmlMessage, hread, hbody⟩ := hwrites _ _ _ _ _ _ _ hencoded
  have hversion : element.messageVersion.envelope = .soap11 ↔ bodyElement xmlMessage ≠ none :=
    hbody.symm
  rw [hwritten, hversion]
  rcases tamperMessage_cases hrewritable hread with
    ⟨hnone, hnot⟩ | ⟨tampered, sent, htamper, hsent, hload⟩
  · refine ⟨by simp [hnone, hnot], ?_⟩
    intro sent hsent
    exact absurd ⟨sent, hsent⟩ hnot
  · have hbody : bodyElement xmlMessage ≠ none := returns_tamper_iff.mp ⟨tampered, htamper⟩
    refine ⟨by simp [hsent, hbody], ?_⟩
    intro sent' hsent'
    obtain rfl := Except.ok.inj (hsent.symm.trans hsent')
    exact ⟨xmlMessage, tampered, load_of_currentMessage hread, hload,
      tamper_detected hdigest htamper⟩

end Sent

/-! ### Envelopes without content -/

/-- The namespace of an envelope. -/
def namespaceOf : EnvelopeVersion → String
  | .none => "http://schemas.microsoft.com/ws/2005/05/envelope/none"
  | .soap11 => ns
  | .soap12 => "http://www.w3.org/2003/05/soap-envelope"

/-- An envelope with an empty body, and its text. -/
def emptyEnvelope (version : EnvelopeVersion) (attributes : List XmlAttribute) : XmlElement where
  name := ⟨"Envelope", namespaceOf version⟩
  childNodes := [.element ⟨"Body", namespaceOf version⟩ attributes []]

def textOf (version : EnvelopeVersion) (attributes : String) : List UInt8 :=
  ("<s:Envelope xmlns:s='" ++ namespaceOf version ++ "'><s:Body" ++ attributes ++
    " /></s:Envelope>").toList.map fun c => UInt8.ofNat c.toNat

def tamperedAttribute : XmlAttribute := ⟨"Tampered", ⟨"Tampered", ""⟩, "true"⟩

/-- The texts of the envelopes, and of the one that was tampered with. -/
def texts : List (List UInt8 × XmlElement) :=
  (textOf .soap11 " Tampered='true'", emptyEnvelope .soap11 [tamperedAttribute]) ::
    [EnvelopeVersion.none, .soap11, .soap12].map fun version =>
      (textOf version "", emptyEnvelope version [])

def envelopes : XmlLibrary XmlElement where
  load bytes := deref (.other "Data at the root level is invalid.") (texts.lookup bytes)
  save element := ((texts.find? (·.2 = element)).map (·.1)).getD []

/-- Encoders of the empty message. -/
def emptyEncoders : TextMessageEncoders Unit := fun messageVersion writeEncoding => {
  contentType := "text/xml; charset=" ++ writeEncoding
  mediaType := "text/xml"
  messageVersion := messageVersion
  writeMessage := fun _ _ _ _ => ArraySegment.create (textOf messageVersion.envelope "") 0
    (textOf messageVersion.envelope "").length }

def emptySegment (version : EnvelopeVersion) : ArraySegment :=
  ⟨some (textOf version ""), 0, (textOf version "").length, Nat.le_of_eq (Nat.zero_add _)⟩

theorem le_length_replicate (bufferSize : Nat) :
    bufferSize ≤ (List.replicate bufferSize (0 : UInt8)).length := by
  rw [List.length_replicate]

/-- A call with the text of the empty message. -/
def emptyCall : ModifyCall where
  encodedMessage := emptySegment .soap11
  bufferManager := ⟨fun bufferSize => List.replicate bufferSize 0, le_length_replicate⟩
  messageOffset := 0

theorem writesEnvelopes_empty : WritesEnvelopes envelopes emptyEncoders := by
  intro messageVersion writeEncoding message maxMessageSize bufferManager messageOffset segment h
  have hcreated : ArraySegment.create (textOf messageVersion.envelope "") 0
      (textOf messageVersion.envelope "").length = .ok segment := h
  refine ⟨emptyEnvelope messageVersion.envelope [], ?_⟩
  revert hcreated
  generalize messageVersion.envelope = version
  intro hcreated
  have hsegment : ArraySegment.create (textOf version "") 0 (textOf version "").length =
      .ok (emptySegment version) := ArraySegment.create_natCast (Nat.le_of_eq (Nat.zero_add _))
  rw [← Except.ok.inj (hsegment.symm.trans hcreated)]
  cases version <;> decide

/-- The empty message is sent with a mark on its body. -/
theorem tamperMessage_sent_sample :
    ∃ sent xmlMessage tampered,
      ((CustomTextMessageBindingElement.reached (customTextMessageEncoderFactory
        (tamperMessage envelopes)) []).createMessageEncoderFactory emptyEncoders).encoder.writeMessage
          () 65536 emptyCall.bufferManager 0 = .ok sent ∧
      envelopes.load emptyCall.encodedMessage.bytes = .ok xmlMessage ∧
      envelopes.load sent.bytes = .ok tampered ∧ Detected id xmlMessage tampered := by
  have hrewritable : Rewritable envelopes emptyCall := by
    intro xmlMessage tampered hread htamper
    have hcurrent : ReplayMessageModifier.currentMessage envelopes emptyCall.encodedMessage =
        .ok (emptyEnvelope .soap11 []) := by decide
    obtain rfl := Except.ok.inj (hcurrent.symm.trans hread)
    have hmarked : tamper (emptyEnvelope .soap11 []) =
        .ok (emptyEnvelope .soap11 [tamperedAttribute]) := by decide
    obtain rfl := Except.ok.inj (hmarked.symm.trans htamper)
    exact ⟨by decide, by decide, by decide⟩
  obtain ⟨hreturns, hsent⟩ := tamperMessage_sent Function.injective_id writesEnvelopes_empty []
    rfl () 65536 emptyCall rfl hrewritable
  obtain ⟨sent, h⟩ := hreturns.mpr rfl
  obtain ⟨xmlMessage, tampered, hread, hload, hdetected⟩ := hsent sent h
  exact ⟨sent, xmlMessage, tampered, h, hread, hload, hdetected⟩

end KombitSamples.Consumer.MessageModifier
