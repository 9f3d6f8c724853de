import KombitSamples.Bytes
import KombitSamples.Trace

/-!
# KombitSamples.Consumer.ReplayMessageModifier

The message modifier that replays a message.  It keeps the last message that it
has read; when it replays, it reads no other one after the first.

* `after_replaying` — what it keeps over a run;
* `modify_runs` — what a call returns after any calls before it.
-/

namespace KombitSamples.Consumer

open Fallible

/-! ## The modifier -/

/-- `XElement`: how it is read from bytes with `Load`, and what `Save` writes. -/
structure XmlLibrary (XElement : Type) where
  load : List UInt8 → Except Exception XElement
  save : XElement → List UInt8

/-- What is written is read back. -/
def XmlLibrary.RoundTrips {XElement : Type} (xml : XmlLibrary XElement) : Prop :=
  ∀ element, xml.load (xml.save element) = .ok element

structure ReplayMessageModifier (XElement : Type) where
  replayPreviousMessage : Bool
  previousMessage : Option XElement := none

/-- The arguments of a call of `Modify`. -/
structure ModifyCall where
  encodedMessage : ArraySegment
  bufferManager : BufferManager
  messageOffset : Int

namespace ReplayMessageModifier

variable {XElement : Type} (xml : XmlLibrary XElement)

/-- Load the message of a call.  Writing a segment without an array to the
stream fails. -/
def currentMessage (encodedMessage : ArraySegment) : Except Exception XElement := do
  let _ ← deref (.argumentNull "buffer") encodedMessage.array
  xml.load encodedMessage.bytes

/-- The message to use: the previous one, or that of the call, which is kept. -/
def messageToUse (modifier : ReplayMessageModifier XElement) (encodedMessage : ArraySegment) :
    ReplayMessageModifier XElement × Except Exception XElement :=
  match modifier.replayPreviousMessage, modifier.previousMessage with
  | true, some previousMessage => (modifier, .ok previousMessage)
  | _, _ =>
      match currentMessage xml encodedMessage with
      | .ok currentMessage =>
          ({ modifier with previousMessage := some currentMessage }, .ok currentMessage)
      | .error e => (modifier, .error e)

/-- Write a message into a buffer, and return the part it takes up. -/
def writeMessage (messageToUse : XElement) (bufferManager : BufferManager) (messageOffset : Int) :
    Except Exception ArraySegment := do
  -- The buffer of the stream may be longer; what is written ends at its position.
  let messageBytes := xml.save messageToUse
  let messageLength := toInt32 messageBytes.length
  let totalLength := toInt32 (messageLength + messageOffset)
  let totalBytes ← bufferManager.takeBuffer totalLength
  let totalBytes ← arrayCopy messageBytes totalBytes messageOffset messageLength
  ArraySegment.create totalBytes messageOffset messageLength

/-- `Modify`, with the modifier that it leaves. -/
def modify (modifier : ReplayMessageModifier XElement) (call : ModifyCall) :
    ReplayMessageModifier XElement × Except Exception ArraySegment :=
  let used := modifier.messageToUse xml call.encodedMessage
  (used.1, do
    let messageToUse ← used.2
    writeMessage xml messageToUse call.bufferManager call.messageOffset)

/-- One instance, called again and again. -/
def machine : Trace.Machine (ReplayMessageModifier XElement) ModifyCall
    (Except Exception ArraySegment) where
  step modifier call := ((modify xml modifier call).1, [(modify xml modifier call).2])

/-! ## One call -/

/-- The message of a call, if it is well formed. -/
def message? (call : ModifyCall) : Option XElement :=
  (currentMessage xml call.encodedMessage).toOption

/-- The message that a call uses: the one to replay, or else its own. -/
def usedMessage (modifier : ReplayMessageModifier XElement) (call : ModifyCall) :
    Option XElement :=
  (if modifier.replayPreviousMessage then modifier.previousMessage else none).or (message? xml call)

/-- The message and the offset fit into an `Int32`. -/
structure Fits (message : XElement) (call : ModifyCall) : Prop where
  nonneg : 0 ≤ call.messageOffset
  lt : (xml.save message).length + call.messageOffset < 2147483648

/-- The segment holds the message, at the offset of the call, in the buffer that
was taken for it. -/
structure Holds (message : XElement) (call : ModifyCall) (segment : ArraySegment) : Prop where
  offset : segment.offset = call.messageOffset
  count : segment.count = (xml.save message).length
  array : segment.array = some (copied (xml.save message)
    (call.bufferManager.buffer (segment.offset + segment.count)) segment.offset)
  load : xml.load segment.bytes = .ok message

section Call

variable {xml} {modifier : ReplayMessageModifier XElement} {call : ModifyCall}
  {message : XElement}

/-- The message that a call uses is kept; without one nothing changes. -/
theorem messageToUse_cases (xml : XmlLibrary XElement)
    (modifier : ReplayMessageModifier XElement) (call : ModifyCall) :
    (∃ message, usedMessage xml modifier call = some message ∧
        modifier.messageToUse xml call.encodedMessage =
          ({ modifier with previousMessage := some message }, .ok message)) ∨
      (usedMessage xml modifier call = none ∧
        ∃ e, modifier.messageToUse xml call.encodedMessage = (modifier, .error e)) := by
  obtain ⟨replayPreviousMessage, previousMessage⟩ := modifier
  -- Only a modifier that replays and has kept a message reads none.
  by_cases hreplayed : replayPreviousMessage = true ∧ previousMessage ≠ none
  · obtain ⟨rfl, hprevious⟩ := hreplayed
    obtain ⟨message, rfl⟩ := Option.ne_none_iff_exists'.mp hprevious
    exact .inl ⟨message, rfl, rfl⟩
  · have hread : messageToUse xml ⟨replayPreviousMessage, previousMessage⟩ call.encodedMessage =
        match currentMessage xml call.encodedMessage with
        | .ok message => (⟨replayPreviousMessage, some message⟩, .ok message)
        | .error e => (⟨replayPreviousMessage, previousMessage⟩, .error e) := by
      cases replayPreviousMessage <;> cases previousMessage <;> simp_all [messageToUse]
    have hused : usedMessage xml ⟨replayPreviousMessage, previousMessage⟩ call =
        message? xml call := by
      cases replayPreviousMessage <;> cases previousMessage <;> simp_all [usedMessage]
    rw [hread, hused, message?]
    cases currentMessage xml call.encodedMessage with
    | ok message => exact .inl ⟨message, rfl, rfl⟩
    | error e => exact .inr ⟨rfl, e, rfl⟩

theorem messageToUse_of_used (h : usedMessage xml modifier call = some message) :
    modifier.messageToUse xml call.encodedMessage =
      ({ modifier with previousMessage := some message }, .ok message) := by
  obtain ⟨message', hused, huse⟩ | ⟨hused, -⟩ := messageToUse_cases xml modifier call
  · obtain rfl := Option.some.inj (hused.symm.trans h)
    exact huse
  · simp [h] at hused

theorem messageToUse_of_not_used (h : usedMessage xml modifier call = none) :
    ∃ e, modifier.messageToUse xml call.encodedMessage = (modifier, .error e) := by
  obtain ⟨message, hused, -⟩ | ⟨-, huse⟩ := messageToUse_cases xml modifier call
  · simp [h] at hused
  · exact huse

/-- A modifier that does not replay uses what it reads. -/
theorem messageToUse_snd_not_replaying (h : modifier.replayPreviousMessage = false)
    (encodedMessage : ArraySegment) :
    (modifier.messageToUse xml encodedMessage).2 = currentMessage xml encodedMessage := by
  unfold messageToUse
  rw [h]
  cases hcurrent : currentMessage xml encodedMessage <;> rfl

/-- What a call leaves. -/
theorem modify_fst (modifier : ReplayMessageModifier XElement) (call : ModifyCall) :
    (modify xml modifier call).1 =
      { modifier with
        previousMessage := (usedMessage xml modifier call).or modifier.previousMessage } := by
  cases h : usedMessage xml modifier call with
  | none =>
      obtain ⟨e, he⟩ := messageToUse_of_not_used h
      rw [modify, he, Option.none_or]
  | some message => rw [modify, messageToUse_of_used h, Option.some_or]

theorem modify_snd (modifier : ReplayMessageModifier XElement) (call : ModifyCall) :
    (modify xml modifier call).2 = (do
      let message ← (modifier.messageToUse xml call.encodedMessage).2
      writeMessage xml message call.bufferManager call.messageOffset) := rfl

/-- A call without a message to use throws. -/
theorem modify_snd_of_not_used (h : usedMessage xml modifier call = none) :
    ∃ e, (modify xml modifier call).2 = .error e := by
  obtain ⟨e, he⟩ := messageToUse_of_not_used h
  exact ⟨e, by rw [modify_snd, he, error_bind]⟩

/-- A message that fits, and is read back, is written where it belongs. -/
theorem writeMessage_eq_ok_of_load (hload : xml.load (xml.save message) = .ok message)
    (h : Fits xml message call) :
    ∃ segment, writeMessage xml message call.bufferManager call.messageOffset = .ok segment ∧
      Holds xml message call segment := by
  obtain ⟨messageOffset, hoffset⟩ := Int.eq_ofNat_of_zero_le h.nonneg
  have hlt := h.lt
  have hlength : toInt32 (xml.save message).length = (xml.save message).length :=
    toInt32_of_fits (by omega) (by omega)
  have htotal : toInt32 ((xml.save message).length + call.messageOffset) =
      ((messageOffset + (xml.save message).length : Nat) : Int) := by
    rw [toInt32_of_fits (by omega) hlt]
    omega
  have hplace := call.bufferManager.length_le (messageOffset + (xml.save message).length)
  have hwithin := Nat.le_trans hplace (Nat.le_of_eq (length_copied hplace).symm)
  refine ⟨⟨some (copied (xml.save message) (call.bufferManager.buffer
    (messageOffset + (xml.save message).length)) messageOffset), messageOffset,
    (xml.save message).length, hwithin⟩, ?_, ?_⟩
  · rw [writeMessage, hlength, htotal, hoffset]
    simp only [BufferManager.takeBuffer_natCast, ok_bind, arrayCopy_natCast hplace,
      ArraySegment.create_natCast hwithin]
  · refine ⟨hoffset.symm, rfl, rfl, ?_⟩
    rw [bytes_of_copied hplace rfl rfl rfl]
    exact hload

theorem writeMessage_eq_ok (hxml : xml.RoundTrips) (h : Fits xml message call) :
    ∃ segment, writeMessage xml message call.bufferManager call.messageOffset = .ok segment ∧
      Holds xml message call segment := writeMessage_eq_ok_of_load (hxml message) h

/-- A call returns the message that it uses. -/
theorem modify_snd_of_used (hxml : xml.RoundTrips)
    (h : usedMessage xml modifier call = some message) (hfits : Fits xml message call) :
    ∃ segment, (modify xml modifier call).2 = .ok segment ∧ Holds xml message call segment := by
  obtain ⟨segment, hsegment, hholds⟩ := writeMessage_eq_ok hxml hfits
  refine ⟨segment, ?_, hholds⟩
  rw [modify_snd, messageToUse_of_used h, ok_bind, hsegment]

/-- A call returns exactly when it uses a message. -/
theorem returns_modify_iff (hxml : xml.RoundTrips)
    (hfits : ∀ message, usedMessage xml modifier call = some message → Fits xml message call) :
    Returns (modify xml modifier call).2 ↔ usedMessage xml modifier call ≠ none := by
  cases h : usedMessage xml modifier call with
  | none =>
      obtain ⟨e, he⟩ := modify_snd_of_not_used h
      rw [he]
      simp
  | some message =>
      obtain ⟨segment, hsegment, -⟩ := modify_snd_of_used hxml h (hfits message h)
      rw [hsegment]
      simp

/-- What a call that returns yields. -/
theorem holds_of_modify (hxml : xml.RoundTrips)
    (hfits : ∀ message, usedMessage xml modifier call = some message → Fits xml message call)
    {segment : ArraySegment} (h : (modify xml modifier call).2 = .ok segment) :
    ∃ message, usedMessage xml modifier call = some message ∧ Holds xml message call segment := by
  obtain ⟨message, hused⟩ := Option.ne_none_iff_exists'.mp
    ((returns_modify_iff hxml hfits).mp ⟨segment, h⟩)
  obtain ⟨segment', hsegment', hholds⟩ := modify_snd_of_used hxml hused (hfits message hused)
  obtain rfl := Except.ok.inj (h.symm.trans hsegment')
  exact ⟨message, hused, hholds⟩

end Call

/-! ## Runs -/

/-- The first well-formed message of a sequence of calls. -/
def firstMessage (calls : List ModifyCall) : Option XElement := calls.findSome? (message? xml)

/-- A new modifier, after a number of calls. -/
def afterCalls (replayPreviousMessage : Bool) (calls : List ModifyCall) :
    ReplayMessageModifier XElement :=
  (machine xml).after { replayPreviousMessage := replayPreviousMessage } calls

section Run

variable {xml}

/-- A modifier that replays keeps the first message it has read. -/
theorem after_replaying (previousMessage : Option XElement) (calls : List ModifyCall) :
    (machine xml).after ⟨true, previousMessage⟩ calls =
      ⟨true, previousMessage.or (firstMessage xml calls)⟩ := by
  induction calls generalizing previousMessage with
  | nil => rw [firstMessage, List.findSome?_nil, Option.or_none, Trace.Machine.after_nil]
  | cons call calls ih =>
      have hstep : ((machine xml).step ⟨true, previousMessage⟩ call).1 =
          ⟨true, previousMessage.or (message? xml call)⟩ := by
        refine (modify_fst _ _).trans ?_
        cases previousMessage <;> cases hmessage : message? xml call <;>
          simp [usedMessage, hmessage]
      rw [Trace.Machine.after_cons, hstep, ih, firstMessage, firstMessage, List.findSome?_cons]
      cases previousMessage <;> cases message? xml call <;> rfl

/-- One that does not replay never starts to. -/
theorem keeps_replayPreviousMessage (replayPreviousMessage : Bool) :
    (machine xml).Keeps (fun modifier => modifier.replayPreviousMessage = replayPreviousMessage)
      fun _ => True where
  step_inv modifier call h := (congrArg _ (modify_fst modifier call)).trans h
  step_events _ _ _ _ _ := trivial

theorem replayPreviousMessage_afterCalls (replayPreviousMessage : Bool) (calls : List ModifyCall) :
    (afterCalls xml replayPreviousMessage calls).replayPreviousMessage = replayPreviousMessage :=
  (keeps_replayPreviousMessage replayPreviousMessage).after_inv calls _ rfl

/-- What a call uses that replays: the first message so far. -/
theorem usedMessage_replaying (before : List ModifyCall) (call : ModifyCall) :
    usedMessage xml (afterCalls xml true before) call = firstMessage xml (before ++ [call]) := by
  rw [afterCalls, after_replaying, usedMessage, if_pos rfl, Option.none_or, firstMessage,
    firstMessage, List.findSome?_append, List.findSome?_singleton]

/-- Any other call uses its own message. -/
theorem usedMessage_not_replaying (before : List ModifyCall) (call : ModifyCall) :
    usedMessage xml (afterCalls xml false before) call = message? xml call := by
  rw [usedMessage, replayPreviousMessage_afterCalls, if_neg Bool.false_ne_true, Option.none_or]

/-- The first message of a sequence that starts with these calls. -/
theorem firstMessage_append {before rest : List ModifyCall} {call : ModifyCall} {message : XElement}
    (h : firstMessage xml (before ++ [call]) = some message) :
    firstMessage xml (before ++ call :: rest) = some message := by
  rw [List.append_cons, firstMessage, List.findSome?_append, ← firstMessage, h, Option.some_or]

end Run

/-- The call of a modifier that replays, between others: until a message is well
formed every call throws and changes nothing, and from then on every call
returns that message. -/
structure Replays (before : List ModifyCall) (call : ModifyCall) (rest : List ModifyCall) :
    Prop where
  throws : firstMessage xml (before ++ [call]) = none →
    (∃ e, (modify xml (afterCalls xml true before) call).2 = .error e) ∧
      (modify xml (afterCalls xml true before) call).1 = afterCalls xml true before
  returns : firstMessage xml (before ++ [call]) ≠ none →
    Returns (modify xml (afterCalls xml true before) call).2
  yields : ∀ segment, (modify xml (afterCalls xml true before) call).2 = .ok segment →
    ∃ message, firstMessage xml (before ++ call :: rest) = some message ∧
      Holds xml message call segment

/-- The call of one that does not: it returns its own message, whatever was
called before. -/
structure PassesOn (before : List ModifyCall) (call : ModifyCall) : Prop where
  returns_iff : Returns (modify xml (afterCalls xml false before) call).2 ↔
    message? xml call ≠ none
  yields : ∀ segment, (modify xml (afterCalls xml false before) call).2 = .ok segment →
    ∃ message, message? xml call = some message ∧ Holds xml message call segment
  independent : (modify xml (afterCalls xml false before) call).2 =
    (modify xml (afterCalls xml false []) call).2

variable {xml}

theorem replays_of_fits (hxml : xml.RoundTrips) {before : List ModifyCall} {call : ModifyCall}
    (rest : List ModifyCall)
    (hfits : ∀ message, firstMessage xml (before ++ [call]) = some message →
      Fits xml message call) : Replays xml before call rest := by
  rw [← usedMessage_replaying before call] at hfits
  refine ⟨fun hnone => ?_, fun hsome => ?_, fun segment h => ?_⟩
  · rw [← usedMessage_replaying before call] at hnone
    refine ⟨modify_snd_of_not_used hnone, ?_⟩
    rw [modify_fst, hnone, Option.none_or]
  · rw [← usedMessage_replaying before call] at hsome
    exact (returns_modify_iff hxml hfits).mpr hsome
  · obtain ⟨message, hused, hholds⟩ := holds_of_modify hxml hfits h
    rw [usedMessage_replaying] at hused
    exact ⟨message, firstMessage_append hused, hholds⟩

theorem passesOn_of_fits (hxml : xml.RoundTrips) {before : List ModifyCall} {call : ModifyCall}
    (hfits : ∀ message, message? xml call = some message → Fits xml message call) :
    PassesOn xml before call := by
  rw [← usedMessage_not_replaying before call] at hfits
  refine ⟨?_, fun segment h => ?_, ?_⟩
  · rw [returns_modify_iff hxml hfits, usedMessage_not_replaying]
  · obtain ⟨message, hused, hholds⟩ := holds_of_modify hxml hfits h
    rw [usedMessage_not_replaying] at hused
    exact ⟨message, hused, hholds⟩
  · rw [modify_snd, modify_snd,
      messageToUse_snd_not_replaying (replayPreviousMessage_afterCalls false before),
      messageToUse_snd_not_replaying (replayPreviousMessage_afterCalls false [])]

/-- **Replay.** Where the message that a call uses fits, the call returns the
first well-formed message of the run, or its own when the modifier does not
replay. -/
theorem modify_runs (hxml : xml.RoundTrips) (before : List ModifyCall) (call : ModifyCall)
    (rest : List ModifyCall) :
    ((∀ message, firstMessage xml (before ++ [call]) = some message → Fits xml message call) →
        Replays xml before call rest) ∧
      ((∀ message, message? xml call = some message → Fits xml message call) →
        PassesOn xml before call) :=
  ⟨replays_of_fits hxml rest, passesOn_of_fits hxml⟩

end ReplayMessageModifier

/-! ### Elements without content -/

/-- A name of small letters. -/
def isName (name : List UInt8) : Bool :=
  !name.isEmpty && name.all fun byte => Nat.ble 97 byte.toNat && Nat.ble byte.toNat 122

/-- An element without attributes and content. -/
structure EmptyElement where
  name : List UInt8
  isName_name : isName name = true

namespace EmptyElement

/-- The byte order mark and the declaration that are written before the
element. -/
def declaration : List UInt8 :=
  [0xEF, 0xBB, 0xBF] ++
    "<?xml version=\"1.0\" encoding=\"utf-8\"?>".toList.map fun c => UInt8.ofNat c.toNat

/-- The tag of an element with a name. -/
def tag (name : List UInt8) : List UInt8 := 60 :: name ++ [32, 47, 62]

/-- The text after the declaration, if there is one. -/
def body (bytes : List UInt8) : List UInt8 :=
  if declaration.isPrefixOf bytes then bytes.drop declaration.length else bytes

/-- The name in a tag. -/
def nameIn (body : List UInt8) : List UInt8 := (body.drop 1).take (body.length - 4)

def load (bytes : List UInt8) : Except Exception EmptyElement :=
  if h : isName (nameIn (body bytes)) = true ∧ body bytes = tag (nameIn (body bytes)) then
    .ok ⟨nameIn (body bytes), h.1⟩
  else .error (.other "Data at the root level is invalid.")

def xml : XmlLibrary EmptyElement where
  load := load
  save element := declaration ++ tag element.name

theorem roundTrips_xml : xml.RoundTrips := by
  intro element
  have hbody : body (declaration ++ tag element.name) = tag element.name := by
    have hdeclaration : declaration.isPrefixOf (declaration ++ tag element.name) = true :=
      List.isPrefixOf_iff_prefix.mpr (List.prefix_append _ _)
    rw [body, if_pos hdeclaration, List.drop_left]
  have hname : nameIn (tag element.name) = element.name := by
    simp [nameIn, tag]
  change load (declaration ++ tag element.name) = _
  simp only [load, hbody, hname]
  exact dif_pos ⟨element.isName_name, trivial⟩

/-- A call with the bytes of a message, and an offset. -/
def callWith (bytes : List UInt8) (messageOffset : Int) : ModifyCall where
  encodedMessage := ⟨some bytes, 0, bytes.length, Nat.le_of_eq (Nat.zero_add _)⟩
  bufferManager := ⟨fun bufferSize => List.replicate bufferSize 0, fun bufferSize => by simp⟩
  messageOffset := messageOffset

/-- The elements `a` and `b`. -/
def a : EmptyElement := ⟨[97], rfl⟩

def b : EmptyElement := ⟨[98], rfl⟩

/-- After a call that is not well formed and one with `a`, a call with `b` yields
either of the two. -/
theorem modify_runs_sample :
    ReplayMessageModifier.Replays xml [callWith [] 0, callWith (tag [97]) 7]
        (callWith (xml.save b) 3) [] ∧
      ReplayMessageModifier.PassesOn xml [callWith [] 0, callWith (tag [97]) 7]
        (callWith (xml.save b) 3) := by
  have hfirst : ReplayMessageModifier.firstMessage xml
      [callWith [] 0, callWith (tag [97]) 7, callWith (xml.save b) 3] = some a := by
    rfl
  have hown : ReplayMessageModifier.message? xml (callWith (xml.save b) 3) = some b := by
    rfl
  obtain ⟨hreplays, hpasses⟩ := ReplayMessageModifier.modify_runs roundTrips_xml
    [callWith [] 0, callWith (tag [97]) 7] (callWith (xml.save b) 3) []
  refine ⟨hreplays fun message h => ?_, hpasses fun message h => ?_⟩
  · obtain rfl := Option.some.inj (hfirst.symm.trans h)
    exact ⟨by decide, by decide⟩
  · obtain rfl := Option.some.inj (hown.symm.trans h)
    exact ⟨by decide, by decide⟩

end EmptyElement

end KombitSamples.Consumer
