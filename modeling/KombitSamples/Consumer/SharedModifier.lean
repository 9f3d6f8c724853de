import KombitSamples.Consumer.CustomTextMessageBindingElement
import KombitSamples.Consumer.ReplayMessageModifier
import KombitSamples.Simulation

/-!
# KombitSamples.Consumer.SharedModifier

One message modifier in many channels.  Every channel that is built from a
binding element, or from a clone of it, calls the modifier of the function that
the element was made with, so the modifier sees the messages of all of them.

* `simulates_calls` — the channels together are one modifier, called again and
  again;
* `channels_send` — what any channel sends, in any run.
-/

namespace KombitSamples.Consumer.SharedModifier

open Fallible Trace ReplayMessageModifier

/-! ## Channels -/

section Machine

variable {Message XElement : Type} (xml : XmlLibrary XElement)

/-- The modifier, and the factory of the encoder that each channel wraps. -/
structure Channels (Message XElement : Type) where
  modifier : ReplayMessageModifier XElement
  factories : List (MessageEncoderFactory Message)

inductive Action (Message : Type) where
  /-- Build a channel from an element, or from any clone of it. -/
  | createChannel (element : CustomTextMessageBindingElement Message)
  | send (index : Nat) (message : Message) (maxMessageSize : Int) (bufferManager : BufferManager)
      (messageOffset : Int)

/-- A call of the modifier, and what it returned to the channel. -/
structure Sent where
  index : Nat
  call : ModifyCall
  result : Except Exception ArraySegment

/-- One step.  Where the wrapped encoder fails, the modifier is not called. -/
def step (textEncoders : TextMessageEncoders Message) (channels : Channels Message XElement) :
    Action Message → Channels Message XElement × List Sent
  | .createChannel element =>
      let factory :=
        element.wrappedMessageEncodingBindingElement.createMessageEncoderFactory textEncoders
      ({ channels with factories := channels.factories ++ [factory] }, [])
  | .send index message maxMessageSize bufferManager messageOffset =>
      match channels.factories[index]? with
      | none => (channels, [])
      | some factory =>
          match factory.encoder.writeMessage message maxMessageSize bufferManager
              messageOffset with
          | .error _ => (channels, [])
          | .ok encodedMessage =>
              let call : ModifyCall := ⟨encodedMessage, bufferManager, messageOffset⟩
              ({ channels with modifier := (modify xml channels.modifier call).1 },
                [⟨index, call, (modify xml channels.modifier call).2⟩])

def machine (textEncoders : TextMessageEncoders Message) :
    Machine (Channels Message XElement) (Action Message) Sent :=
  ⟨step xml textEncoders⟩

/-- A new modifier, without channels. -/
def start (replayPreviousMessage : Bool) : Channels Message XElement :=
  ⟨{ replayPreviousMessage := replayPreviousMessage }, []⟩

/-! ## One modifier -/

/-- A call and its result. -/
abbrev Returned := ModifyCall × Except Exception ArraySegment

/-- The modifier by itself, with the results of its calls. -/
def calls : Machine (ReplayMessageModifier XElement) ModifyCall Returned where
  step modifier call := ((modify xml modifier call).1, [(call, (modify xml modifier call).2)])

/-- What a channel shows of the modifier. -/
def returned (sent : Sent) : List Returned := [(sent.call, sent.result)]

/-- The channels follow the modifier: a step calls it once, or not at all. -/
theorem simulates_calls (textEncoders : TextMessageEncoders Message) :
    (machine xml textEncoders).Simulates (calls xml)
      (fun channels modifier => channels.modifier = modifier) returned where
  step channels modifier action h := by
    subst h
    cases action with
    | createChannel element => exact ⟨[], rfl, rfl⟩
    | send index message maxMessageSize bufferManager messageOffset =>
        cases hfactory : channels.factories[index]? with
        | none => exact ⟨[], by simp [machine, step, hfactory], by simp [machine, step, hfactory]⟩
        | some factory =>
            cases hwrite : factory.encoder.writeMessage message maxMessageSize bufferManager
                messageOffset with
            | error ex =>
                have hstep : (machine xml textEncoders).step channels
                    (.send index message maxMessageSize bufferManager messageOffset) =
                    (channels, []) := by
                  simp only [machine, step, hfactory, hwrite]
                rw [hstep]
                exact ⟨[], rfl, rfl⟩
            | ok encodedMessage =>
                refine ⟨[⟨encodedMessage, bufferManager, messageOffset⟩], ?_, ?_⟩
                · simp only [machine, step, hfactory, hwrite]
                  rfl
                · simp only [machine, step, hfactory, hwrite]
                  rfl

/-- What a channel sends is what its encoder writes, with the modifier as it is
then. -/
theorem result_eq_writeMessage {textEncoders : TextMessageEncoders Message}
    {channels : Channels Message XElement} {index : Nat} {message : Message} {maxMessageSize : Int}
    {bufferManager : BufferManager} {messageOffset : Int} {sent : Sent}
    (h : sent ∈ (step xml textEncoders channels
      (.send index message maxMessageSize bufferManager messageOffset)).2) :
    ∃ factory, channels.factories[index]? = some factory ∧
      (customTextMessageEncoderFactory (fun encodedMessage bufferManager messageOffset =>
        (modify xml channels.modifier ⟨encodedMessage, bufferManager, messageOffset⟩).2)
          factory).encoder.writeMessage message maxMessageSize bufferManager messageOffset =
        sent.result := by
  cases hfactory : channels.factories[index]? with
  | none => simp [step, hfactory] at h
  | some factory =>
      refine ⟨factory, rfl, ?_⟩
      cases hwrite : factory.encoder.writeMessage message maxMessageSize bufferManager
          messageOffset with
      | error ex => simp [step, hfactory, hwrite] at h
      | ok encodedMessage =>
          simp only [step, hfactory, hwrite, List.mem_singleton] at h
          rw [h, customTextMessageEncoderFactory, tamperBodyTextMessageEncoder]
          simp only [hwrite, ok_bind]

end Machine

/-! ## What is sent -/

section Sends

variable {Message XElement : Type} {xml : XmlLibrary XElement}

/-- A call returns what the modifier makes of it after the calls before it. -/
theorem snd_of_events_calls {modifier : ReplayMessageModifier XElement}
    {matching : List ModifyCall} {before rest : List Returned} {r : Returned}
    (h : (calls xml).events modifier matching = before ++ r :: rest) :
    r.2 = (modify xml ((ReplayMessageModifier.machine xml).after modifier (before.map (·.1)))
      r.1).2 := by
  induction matching generalizing modifier before with
  | nil => simp at h
  | cons call matching ih =>
      rw [Machine.events_cons] at h
      cases before with
      | nil =>
          obtain ⟨rfl, -⟩ := List.cons.inj h
          rfl
      | cons first before =>
          have hfirst : (call, (modify xml modifier call).2) = first := (List.cons.inj h).1
          have hrest : (calls xml).events (modify xml modifier call).1 matching =
              before ++ r :: rest := (List.cons.inj h).2
          have hafter := ih hrest
          rw [← hfirst, List.map_cons, Machine.after_cons]
          exact hafter

/-- The message that a channel sends: the first one that any of them was given, or
its own when the modifier does not replay. -/
def messageOf (xml : XmlLibrary XElement) (replayPreviousMessage : Bool) (before : List Sent)
    (call : ModifyCall) : Option XElement :=
  if replayPreviousMessage then firstMessage xml (before.map (·.call) ++ [call])
  else message? xml call

variable (xml) in
theorem usedMessage_afterCalls (replayPreviousMessage : Bool) (before : List Sent)
    (call : ModifyCall) :
    usedMessage xml (afterCalls xml replayPreviousMessage (before.map (·.call))) call =
      messageOf xml replayPreviousMessage before call := by
  cases replayPreviousMessage with
  | false => exact usedMessage_not_replaying _ call
  | true => exact usedMessage_replaying _ call

/-- What is sent is what the modifier returns after the calls of all channels
before it. -/
theorem result_of_events {textEncoders : TextMessageEncoders Message} {replayPreviousMessage : Bool}
    {actions : List (Action Message)} {before rest : List Sent} {sent : Sent}
    (h : (machine xml textEncoders).events (start replayPreviousMessage) actions =
      before ++ sent :: rest) :
    sent.result =
      (modify xml (afterCalls xml replayPreviousMessage (before.map (·.call))) sent.call).2 := by
  have htrace := (simulates_calls xml textEncoders).of_events
    (s := start replayPreviousMessage) (t := { replayPreviousMessage := replayPreviousMessage }) rfl
    (P := fun trace => ∀ before r rest, trace = before ++ r :: rest →
      r.2 = (modify xml ((ReplayMessageModifier.machine xml).after
        { replayPreviousMessage := replayPreviousMessage } (before.map (·.1))) r.1).2)
    (fun matching before r rest heq => snd_of_events_calls heq) actions
  have hsplit : ((machine xml textEncoders).events (start replayPreviousMessage) actions).flatMap
      returned = before.flatMap returned ++ (sent.call, sent.result) :: rest.flatMap returned := by
    rw [h, List.flatMap_append, List.flatMap_cons]
    rfl
  have hcalls : (before.flatMap returned).map (·.1) = before.map (·.call) := by
    rw [List.map_flatMap, ← List.flatMap_pure_eq_map]
    rfl
  have hresult := htrace _ _ _ hsplit
  rw [hcalls] at hresult
  exact hresult

/-- What a channel sends, between what all channels sent before and after it. -/
structure Sends (xml : XmlLibrary XElement) (replayPreviousMessage : Bool) (before : List Sent)
    (sent : Sent) (rest : List Sent) : Prop where
  returns_iff : Returns sent.result ↔ messageOf xml replayPreviousMessage before sent.call ≠ none
  holds : ∀ segment, sent.result = .ok segment →
    ∃ message, messageOf xml replayPreviousMessage before sent.call = some message ∧
      Holds xml message sent.call segment
  first : replayPreviousMessage = true → ∀ segment, sent.result = .ok segment →
    ∃ message, firstMessage xml ((before ++ sent :: rest).map (·.call)) = some message ∧
      xml.load segment.bytes = .ok message

/-- **One modifier, many channels.** In any run of the channels that share a
modifier, whatever order they are built and used in, a channel sends its own
message, or with a modifier that replays the first well-formed one that any of
them was given; and it throws where there is none.  The message has to fit into the
buffer of the call. -/
theorem channels_send (hxml : xml.RoundTrips) (textEncoders : TextMessageEncoders Message)
    {replayPreviousMessage : Bool} {actions : List (Action Message)} {before rest : List Sent}
    {sent : Sent}
    (h : (machine xml textEncoders).events (start replayPreviousMessage) actions =
      before ++ sent :: rest)
    (hfits : ∀ message, messageOf xml replayPreviousMessage before sent.call = some message →
      Fits xml message sent.call) :
    Sends xml replayPreviousMessage before sent rest := by
  have hresult := result_of_events h
  have hused := usedMessage_afterCalls xml replayPreviousMessage before sent.call
  rw [← hused] at hfits
  have hholds : ∀ segment, sent.result = .ok segment →
      ∃ message, messageOf xml replayPreviousMessage before sent.call = some message ∧
        Holds xml message sent.call segment := by
    intro segment hsegment
    rw [hresult] at hsegment
    rw [← hused]
    exact holds_of_modify hxml hfits hsegment
  refine ⟨?_, hholds, ?_⟩
  · rw [hresult, returns_modify_iff hxml hfits, hused]
  · intro hreplay segment hsegment
    obtain ⟨message, hmessage, hmessageHolds⟩ := hholds segment hsegment
    rw [messageOf, if_pos hreplay] at hmessage
    refine ⟨message, ?_, hmessageHolds.load⟩
    rw [List.map_append, List.map_cons]
    exact firstMessage_append hmessage

end Sends

/-! ### Two channels -/

/-- An element of a modifier, in whose place the function does not matter. -/
def element : CustomTextMessageBindingElement String :=
  .ofFunc CustomTextMessageBindingElement.unmodified

/-- Send a text, on one of the channels. -/
def sendText (index : Nat) (text : String) : Action String :=
  .send index text 65536 (EmptyElement.callWith [] 0).bufferManager 0

/-- Two channels, the second of which is built from a clone, send a text each. -/
def actions : List (Action String) :=
  [.createChannel element, .createChannel element.clone, sendText 0 "<a />", sendText 1 "<b />"]

/-- What the second one sends: the text of the first. -/
theorem channels_send_sample :
    ∃ first second segment,
      (machine EmptyElement.xml CustomTextMessageBindingElement.asciiEncoders).events (start true)
        actions = [first, second] ∧
      Sends EmptyElement.xml true [first] second [] ∧ second.result = .ok segment ∧
      EmptyElement.xml.load segment.bytes = .ok EmptyElement.a := by
  obtain ⟨first, second, hevents, hfirst, hoffset⟩ : ∃ first second,
      (machine EmptyElement.xml CustomTextMessageBindingElement.asciiEncoders).events (start true)
        actions = [first] ++ second :: [] ∧
      messageOf EmptyElement.xml true [first] second.call = some EmptyElement.a ∧
      second.call.messageOffset = 0 :=
    ⟨_, _, rfl, rfl, rfl⟩
  have hsends := channels_send EmptyElement.roundTrips_xml _ hevents fun message hmessage => by
    obtain rfl := Option.some.inj (hfirst.symm.trans hmessage)
    exact ⟨by omega, by rw [hoffset]; decide⟩
  have hreturns : Returns second.result := by
    rw [hsends.returns_iff, hfirst]
    simp
  obtain ⟨segment, hsegment⟩ := hreturns
  obtain ⟨message, hmessage, hholds⟩ := hsends.holds segment hsegment
  obtain rfl := Option.some.inj (hfirst.symm.trans hmessage)
  exact ⟨first, second, segment, hevents, hsends, hsegment, hholds.load⟩

end KombitSamples.Consumer.SharedModifier
