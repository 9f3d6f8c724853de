import KombitSamples.Consumer.ServiceTests
import KombitSamples.Journal
import KombitSamples.Trace

/-!
# KombitSamples.MessageLogs

The logs that the three programs keep of their messages, on one disk and by default
in one directory.  An inspector writes each message over the last one of its kind.

* `result_loggedBeforeSendRequest` — an inspector that writes to the disk hands on
  what it does without one;
* `entries_inspect` — which messages the inspectors write, of those that pass, and
  where;
* `file_after` — whatever the directories, no message is ever written over one of
  another kind, or of another program.
-/

namespace KombitSamples

open Fallible Journal

/-! ## The inspectors -/

/-- What an inspector does: `File.WriteAllText` is its only effect. -/
abbrev Logging := Writing Exception String String

namespace Sts

structure LogMessageDispatchMessageInspector where
  receivedSoapMessageLogFile : String

namespace LogMessageDispatchMessageInspector

variable {Message : Type} (refuses : String → Option Exception) (toText : Message → String)

/-- The constructor, with the setting `SoapMessageLogLocation`. -/
def create (soapMessageLogLocation : Option String) : LogMessageDispatchMessageInspector where
  receivedSoapMessageLogFile := soapMessageLogLocation.getD "c:\\Temp\\"

def requestPath (inspector : LogMessageDispatchMessageInspector) : String :=
  inspector.receivedSoapMessageLogFile ++ "Kombit.STS.ReceivedRequest.xml"

def replyPath (inspector : LogMessageDispatchMessageInspector) : String :=
  inspector.receivedSoapMessageLogFile ++ "Kombit.STS.SentResponse.xml"

/-- `AfterReceiveRequest`. -/
def afterReceiveRequest (inspector : LogMessageDispatchMessageInspector) (request : Message) :
    Logging Unit :=
  .write refuses inspector.requestPath (toText request)

/-- `BeforeSendReply`. -/
def beforeSendReply (inspector : LogMessageDispatchMessageInspector) (reply : Message) :
    Logging Unit :=
  .write refuses inspector.replyPath (toText reply)

end LogMessageDispatchMessageInspector

end Sts

namespace Service

structure LogMessageDispatchMessageInspector where
  receivedSoapMessageLogFile : String

namespace LogMessageDispatchMessageInspector

variable {Message : Type} (refuses : String → Option Exception) (toText : Message → String)

/-- The constructor, with the setting `SoapMessageLogLocation`. -/
def create (soapMessageLogLocation : Option String) : LogMessageDispatchMessageInspector where
  receivedSoapMessageLogFile := soapMessageLogLocation.getD "c:\\Temp\\"

def requestPath (inspector : LogMessageDispatchMessageInspector) : String :=
  inspector.receivedSoapMessageLogFile ++ "Kombit.Service.ReceivedRequest.xml"

def replyPath (inspector : LogMessageDispatchMessageInspector) : String :=
  inspector.receivedSoapMessageLogFile ++ "Kombit.Service.SentResponse.xml"

/-- `AfterReceiveRequest`. -/
def afterReceiveRequest (inspector : LogMessageDispatchMessageInspector) (request : Message) :
    Logging Unit :=
  .write refuses inspector.requestPath (toText request)

/-- `BeforeSendReply`. -/
def beforeSendReply (inspector : LogMessageDispatchMessageInspector) (reply : Message) :
    Logging Unit :=
  .write refuses inspector.replyPath (toText reply)

end LogMessageDispatchMessageInspector

end Service

namespace Consumer

section Inspectors

variable {Message : Type} (refuses : String → Option Exception) (toText : Message → String)

/-- The log in which a file is written unless that is refused. -/
def logOf : SoapMessageLog Message where
  toText := toText
  writeAllText path _ := (Writing.write refuses path "" : Logging Unit).result

/-- `BeforeSendRequest`, with what it writes. -/
def LogStsMessageClientMessageInspector.loggedBeforeSendRequest
    (inspector : LogStsMessageClientMessageInspector Message) (request : Message) :
    Logging Message := do
  .write refuses inspector.path (toText request)
  match inspector.messesagModifier with
  | none => pure request
  | some messesagModifier => do
      let request ← Writing.lift (messesagModifier request)
      .write refuses inspector.path1 (toText request)
      pure request

/-- Where replies are logged. -/
def LogStsMessageClientMessageInspector.replyPath
    (inspector : LogStsMessageClientMessageInspector Message) : String :=
  inspector.receivedSoapMessageLogFile ++ "Kombit.Consumer.ReceivedResponseFromSTS.xml"

/-- `AfterReceiveReply`. -/
def LogStsMessageClientMessageInspector.loggedAfterReceiveReply
    (inspector : LogStsMessageClientMessageInspector Message) (reply : Message) : Logging Unit :=
  .write refuses inspector.replyPath (toText reply)

/-- `BeforeSendRequest`, with what it writes. -/
def LogServiceMessageClientMessageInspector.loggedBeforeSendRequest
    (inspector : LogServiceMessageClientMessageInspector) (request : Message) : Logging Unit :=
  .write refuses inspector.requestPath (toText request)

/-- `AfterReceiveReply`, with what it writes. -/
def LogServiceMessageClientMessageInspector.loggedAfterReceiveReply
    (inspector : LogServiceMessageClientMessageInspector) (reply : Message) : Logging Unit :=
  .write refuses inspector.replyPath (toText reply)

theorem writeAllText_logOf (path text : String) :
    (logOf refuses toText).writeAllText path text =
      (Writing.write refuses path text : Logging Unit).result := by
  unfold logOf Writing.write
  dsimp only
  cases refuses path <;> rfl

/-- The inspector hands on what it does with a log that is only written to. -/
theorem result_loggedBeforeSendRequest (inspector : LogStsMessageClientMessageInspector Message)
    (request : Message) :
    (inspector.loggedBeforeSendRequest refuses toText request).result =
      inspector.beforeSendRequest (logOf refuses toText) request := by
  rw [LogStsMessageClientMessageInspector.loggedBeforeSendRequest,
    LogStsMessageClientMessageInspector.beforeSendRequest, Writing.result_bind,
    writeAllText_logOf]
  cases inspector.messesagModifier with
  | none => rfl
  | some messesagModifier =>
      simp only [Writing.result_bind, Writing.result_lift, Writing.result_pure,
        writeAllText_logOf]
      rfl

end Inspectors

end Consumer

/-! ## The programs on one disk -/

/-- The settings of the three programs.  The service has none that turns its log off. -/
structure LogSettings where
  consumerEnableSoapMessageLog : Bool
  consumerSoapMessageLogLocation : Option String
  stsEnableSoapMessageLog : Bool
  stsSoapMessageLogLocation : Option String
  serviceSoapMessageLogLocation : Option String

/-- A message passes one end of a channel. -/
inductive Passing (Message : Type) where
  | consumerSendsToSts (messesagModifier : Option (Consumer.MessageFunc Message))
      (request : Message)
  | stsReceives (request : Message)
  | stsSends (reply : Message)
  | consumerReceivesFromSts (reply : Message)
  | consumerSendsToService (request : Message)
  | serviceReceives (request : Message)
  | serviceSends (reply : Message)
  | consumerReceivesFromService (reply : Message)

/-- The files that cannot be written meanwhile are refused. -/
structure LogAction (Message : Type) where
  passing : Passing Message
  refuses : String → Option Exception

section Machine

variable {Message File : Type} (settings : LogSettings) (toText : Message → String)

/-- The inspectors of a program, of which there are none without its log. -/
def inspected (enableSoapMessageLog : Bool) (inspect : Logging Message) (message : Message) :
    Logging Message :=
  if enableSoapMessageLog then inspect else pure message

/-- What the inspectors of an end of a channel do, with the message that goes on. -/
def LogAction.inspect (action : LogAction Message) : Logging Message :=
  let sts := Sts.LogMessageDispatchMessageInspector.create settings.stsSoapMessageLogLocation
  let service :=
    Service.LogMessageDispatchMessageInspector.create settings.serviceSoapMessageLogLocation
  let toService := Consumer.LogServiceMessageClientMessageInspector.create
    settings.consumerSoapMessageLogLocation
  match action.passing with
  | .consumerSendsToSts messesagModifier request =>
      inspected settings.consumerEnableSoapMessageLog
        ((Consumer.LogStsMessageClientMessageInspector.create
          settings.consumerSoapMessageLogLocation
          messesagModifier).loggedBeforeSendRequest action.refuses toText request) request
  | .consumerReceivesFromSts reply =>
      inspected settings.consumerEnableSoapMessageLog (do
        (Consumer.LogStsMessageClientMessageInspector.create
          settings.consumerSoapMessageLogLocation
          none).loggedAfterReceiveReply action.refuses toText reply
        pure reply) reply
  | .stsReceives request =>
      inspected settings.stsEnableSoapMessageLog (do
        sts.afterReceiveRequest action.refuses toText request
        pure request) request
  | .stsSends reply =>
      inspected settings.stsEnableSoapMessageLog (do
        sts.beforeSendReply action.refuses toText reply
        pure reply) reply
  | .consumerSendsToService request =>
      inspected settings.consumerEnableSoapMessageLog (do
        toService.loggedBeforeSendRequest action.refuses toText request
        pure request) request
  | .consumerReceivesFromService reply =>
      inspected settings.consumerEnableSoapMessageLog (do
        toService.loggedAfterReceiveReply action.refuses toText reply
        pure reply) reply
  | .serviceReceives request => do
      service.afterReceiveRequest action.refuses toText request
      pure request
  | .serviceSends reply => do
      service.beforeSendReply action.refuses toText reply
      pure reply

/-- The disk, with the file that a path names. -/
def disk [DecidableEq File] (fileOf : String → File) :
    Trace.Machine (File → Option String) (LogAction Message) (String × String) where
  step files action :=
    (put files ((action.inspect settings toText).entries.map fun entry =>
        (fileOf entry.1, entry.2)),
      (action.inspect settings toText).entries)

end Machine

/-! ## The kinds of messages -/

/-- The kinds of messages that are logged, each by one program. -/
inductive LogKind where
  | sentRequestToSts
  | sentRequestToStsModified
  | receivedResponseFromSts
  | sentRequestToService
  | receivedResponseFromService
  | stsReceivedRequest
  | stsSentResponse
  | serviceReceivedRequest
  | serviceSentResponse
  deriving DecidableEq

def LogKind.fileName : LogKind → String
  | .sentRequestToSts => "Kombit.Consumer.SentRequestToSTS.xml"
  | .sentRequestToStsModified => "Kombit.Consumer.SentRequestToSTS-modified.xml"
  | .receivedResponseFromSts => "Kombit.Consumer.ReceivedResponseFromSTS.xml"
  | .sentRequestToService => "kombit.Consumer.SentRequestToService.xml"
  | .receivedResponseFromService => "Kombit.Consumer.ReceivedResponseFromService.xml"
  | .stsReceivedRequest => "Kombit.STS.ReceivedRequest.xml"
  | .stsSentResponse => "Kombit.STS.SentResponse.xml"
  | .serviceReceivedRequest => "Kombit.Service.ReceivedRequest.xml"
  | .serviceSentResponse => "Kombit.Service.SentResponse.xml"

/-- The directory that the program of a kind of message is set to. -/
def LogSettings.location (settings : LogSettings) : LogKind → Option String
  | .stsReceivedRequest | .stsSentResponse => settings.stsSoapMessageLogLocation
  | .serviceReceivedRequest | .serviceSentResponse => settings.serviceSoapMessageLogLocation
  | _ => settings.consumerSoapMessageLogLocation

/-- The file that a kind of message is logged in. -/
def LogSettings.path (settings : LogSettings) (kind : LogKind) : String :=
  (settings.location kind).getD "c:\\Temp\\" ++ kind.fileName

/-- The program of a kind of message keeps a log. -/
def LogSettings.enabled (settings : LogSettings) : LogKind → Bool
  | .stsReceivedRequest | .stsSentResponse => settings.stsEnableSoapMessageLog
  | .serviceReceivedRequest | .serviceSentResponse => true
  | _ => settings.consumerEnableSoapMessageLog

section Kinds

variable {Message : Type} {settings : LogSettings} {toText : Message → String}
  {refuses : String → Option Exception}

/-- The message that passes, with its kind, and the one that it is changed to. -/
def Passing.messages : Passing Message → List (LogKind × Message)
  | .consumerSendsToSts none request => [(.sentRequestToSts, request)]
  | .consumerSendsToSts (some messesagModifier) request =>
      (.sentRequestToSts, request) ::
        match messesagModifier request with
        | .ok changed => [(.sentRequestToStsModified, changed)]
        | .error _ => []
  | .consumerReceivesFromSts reply => [(.receivedResponseFromSts, reply)]
  | .stsReceives request => [(.stsReceivedRequest, request)]
  | .stsSends reply => [(.stsSentResponse, reply)]
  | .consumerSendsToService request => [(.sentRequestToService, request)]
  | .consumerReceivesFromService reply => [(.receivedResponseFromService, reply)]
  | .serviceReceives request => [(.serviceReceivedRequest, request)]
  | .serviceSends reply => [(.serviceSentResponse, reply)]

/-- Of these, the ones that are logged: those before the first that is refused, if the
program keeps a log. -/
def LogAction.logged (settings : LogSettings) (action : LogAction Message) :
    List (LogKind × Message) :=
  (action.passing.messages.filter fun message => settings.enabled message.1).takeWhile
    fun message => (action.refuses (settings.path message.1)).isNone

/-- A message in the file of its kind. -/
def LogSettings.entry (settings : LogSettings) (toText : Message → String)
    (message : LogKind × Message) : String × String :=
  (settings.path message.1, toText message.2)

/-- The inspectors of one message write it to the file of its kind. -/
theorem entries_inspected_write (kind : LogKind) (message : Message) :
    (inspected (settings.enabled kind) (do
      .write refuses (settings.path kind) (toText message)
      pure message) message).entries =
      (([(kind, message)].filter fun message => settings.enabled message.1).takeWhile
        fun message => (refuses (settings.path message.1)).isNone).map
          (settings.entry toText) := by
  unfold inspected
  cases henabled : settings.enabled kind with
  | false => simp [henabled]
  | true =>
      rw [if_pos rfl, Writing.entries_write_bind, Writing.entries_pure]
      cases hrefuses : refuses (settings.path kind) <;>
        simp [henabled, hrefuses, LogSettings.entry]

/-- A request that is changed is written twice, if the modifier returns. -/
theorem entries_inspected_beforeSendRequest (request : Message)
    (messesagModifier : Consumer.MessageFunc Message) :
    (inspected settings.consumerEnableSoapMessageLog
      ((Consumer.LogStsMessageClientMessageInspector.create
        settings.consumerSoapMessageLogLocation
        (some messesagModifier)).loggedBeforeSendRequest refuses toText request) request).entries =
      (LogAction.logged settings
        ⟨.consumerSendsToSts (some messesagModifier) request, refuses⟩).map
          (settings.entry toText) := by
  have hpath : (Consumer.LogStsMessageClientMessageInspector.create
      settings.consumerSoapMessageLogLocation (some messesagModifier)).path =
        settings.path .sentRequestToSts := rfl
  have hpath1 : (Consumer.LogStsMessageClientMessageInspector.create
      settings.consumerSoapMessageLogLocation (some messesagModifier)).path1 =
        settings.path .sentRequestToStsModified := rfl
  have hmodifier : (Consumer.LogStsMessageClientMessageInspector.create
      settings.consumerSoapMessageLogLocation (some messesagModifier)).messesagModifier =
        some messesagModifier := rfl
  unfold inspected LogAction.logged
  cases henabled : settings.consumerEnableSoapMessageLog with
  | false =>
      cases hmodified : messesagModifier request <;>
        simp [Passing.messages, LogSettings.enabled, henabled, hmodified]
  | true =>
      rw [if_pos rfl, Consumer.LogStsMessageClientMessageInspector.loggedBeforeSendRequest,
        Writing.entries_write_bind, hpath]
      simp only [hmodifier, hpath1, Writing.entries_bind (Writing.lift _), Writing.result_lift,
        Writing.entries_lift, List.nil_append, Writing.entries_write_bind, Writing.entries_pure]
      cases hmodified : messesagModifier request with
      | error ex =>
          cases hsent : refuses (settings.path .sentRequestToSts) <;>
            simp [Passing.messages, LogSettings.enabled, LogSettings.entry, henabled, hmodified,
              hsent]
      | ok changed =>
          cases hsent : refuses (settings.path .sentRequestToSts) <;>
            cases hchanged : refuses (settings.path .sentRequestToStsModified) <;>
            simp [Passing.messages, LogSettings.enabled, LogSettings.entry, henabled, hmodified,
              hsent, hchanged]

/-- **What is written.** The inspectors of every end of a channel write the messages
that are logged, each to the file of its kind. -/
theorem entries_inspect (action : LogAction Message) :
    (action.inspect settings toText).entries =
      (action.logged settings).map (settings.entry toText) := by
  obtain ⟨passing, refuses⟩ := action
  cases passing with
  | consumerSendsToSts messesagModifier request =>
      cases messesagModifier with
      | none => exact entries_inspected_write .sentRequestToSts request
      | some messesagModifier => exact entries_inspected_beforeSendRequest request messesagModifier
  | consumerReceivesFromSts reply => exact entries_inspected_write .receivedResponseFromSts reply
  | stsReceives request => exact entries_inspected_write .stsReceivedRequest request
  | stsSends reply => exact entries_inspected_write .stsSentResponse reply
  | consumerSendsToService request => exact entries_inspected_write .sentRequestToService request
  | consumerReceivesFromService reply =>
      exact entries_inspected_write .receivedResponseFromService reply
  | serviceReceives request => exact entries_inspected_write .serviceReceivedRequest request
  | serviceSends reply => exact entries_inspected_write .serviceSentResponse reply

end Kinds

/-! ## No two kinds in one file -/

def isSeparator (c : Char) : Bool := c == '\\' || c == '/' || c == ':'

/-- The last component of a path. -/
def lastComponent (path : List Char) : List Char :=
  (path.reverse.takeWhile fun c => !isSeparator c).reverse

/-- The name of a file ends the last component of its path, whatever the
directory is. -/
theorem lastComponent_append {location name : List Char}
    (hname : ∀ c ∈ name, isSeparator c = false) :
    lastComponent (location ++ name) = lastComponent location ++ name := by
  have hreverse : ∀ c ∈ name.reverse, (!isSeparator c) = true := by
    intro c hc
    rw [hname c (List.mem_reverse.mp hc)]
    rfl
  rw [lastComponent, List.reverse_append, List.takeWhile_append_of_pos hreverse,
    List.reverse_append, List.reverse_reverse]
  rfl

/-- Two paths to one of the files have the same last component, upper and lower
case apart. -/
def NamesFiles {File : Type} (fileOf : String → File) : Prop :=
  ∃ upcase : Char → Char, (∀ c, c.toNat < 128 → upcase c = c.toUpper) ∧
    ∀ (location location' : String) (kind kind' : LogKind),
      fileOf (location ++ kind.fileName) = fileOf (location' ++ kind'.fileName) →
      (lastComponent (location ++ kind.fileName).toList).map upcase =
        (lastComponent (location' ++ kind'.fileName).toList).map upcase

theorem isSeparator_fileName (kind : LogKind) :
    ∀ c ∈ kind.fileName.toList, isSeparator c = false := by
  have hall : kind.fileName.toList.all (fun c => !isSeparator c) = true := by
    cases kind <;> decide
  simpa using hall

theorem ascii_fileName (kind : LogKind) : ∀ c ∈ kind.fileName.toList, c.toNat < 128 := by
  have hall : kind.fileName.toList.all (fun c => decide (c.toNat < 128)) = true := by
    cases kind <;> decide
  simpa only [List.all_eq_true, decide_eq_true_eq] using hall

/-- No name ends in another one. -/
theorem eq_of_suffix {kind kind' : LogKind}
    (h : kind.fileName.toList.map Char.toUpper <:+ kind'.fileName.toList.map Char.toUpper) :
    kind = kind' := by
  revert h
  cases kind <;> cases kind' <;> decide

/-- Two kinds of messages never share a file, whatever directories they are logged
in. -/
theorem NamesFiles.kind_eq {File : Type} {fileOf : String → File} (h : NamesFiles fileOf)
    {location location' : String} {kind kind' : LogKind}
    (hfile : fileOf (location ++ kind.fileName) = fileOf (location' ++ kind'.fileName)) :
    kind = kind' := by
  obtain ⟨upcase, hascii, hnames⟩ := h
  have hupper (kind : LogKind) :
      kind.fileName.toList.map upcase = kind.fileName.toList.map Char.toUpper :=
    List.map_congr_left fun c hc => hascii c (ascii_fileName kind c hc)
  have hsame := hnames location location' kind kind' hfile
  simp only [String.toList_append, lastComponent_append (isSeparator_fileName _), List.map_append,
    hupper] at hsame
  have hsuffix := List.suffix_append ((lastComponent location.toList).map upcase)
    (kind.fileName.toList.map Char.toUpper)
  have hsuffix' := List.suffix_append ((lastComponent location'.toList).map upcase)
    (kind'.fileName.toList.map Char.toUpper)
  rw [hsame] at hsuffix
  cases List.suffix_or_suffix_of_suffix hsuffix hsuffix' with
  | inl hends => exact eq_of_suffix hends
  | inr hends => exact (eq_of_suffix hends).symm

/-! ## Runs -/

section Runs

variable {Message File : Type} [DecidableEq File] (settings : LogSettings)
  (toText : Message → String) (fileOf : String → File)

/-- A run puts what it logs onto the disk. -/
theorem after_disk (files : File → Option String) (actions : List (LogAction Message)) :
    (disk settings toText fileOf).after files actions =
      put files ((actions.flatMap (LogAction.logged settings)).map fun message =>
        (fileOf (settings.path message.1), toText message.2)) := by
  induction actions generalizing files with
  | nil => rfl
  | cons action actions ih =>
      have hstep : ((disk settings toText fileOf).step files action).1 =
          put files ((action.logged settings).map fun message =>
            (fileOf (settings.path message.1), toText message.2)) := by
        change put files ((action.inspect settings toText).entries.map _) = _
        rw [entries_inspect, List.map_map]
        rfl
      rw [Trace.Machine.after_cons, ih, hstep, List.flatMap_cons, List.map_append, put_append]

/-- **One kind of message in each file.** No two kinds of messages, of one program or
of two, have one file, whatever the directories are.  After any run of the three
programs, in any order, the file of each kind holds the last message of that kind that
was logged, or what it held before if there was none; no other file is written. -/
theorem file_after (hnames : NamesFiles fileOf) (files : File → Option String)
    (actions : List (LogAction Message)) :
    (∀ kind kind', fileOf (settings.path kind) = fileOf (settings.path kind') → kind = kind') ∧
    (∀ kind, (disk settings toText fileOf).after files actions (fileOf (settings.path kind)) =
      ((last kind (actions.flatMap (LogAction.logged settings))).map toText).or
        (files (fileOf (settings.path kind)))) ∧
    ∀ file, (∀ kind, fileOf (settings.path kind) ≠ file) →
      (disk settings toText fileOf).after files actions file = files file := by
  have hkind (kind kind' : LogKind)
      (hfile : fileOf (settings.path kind) = fileOf (settings.path kind')) : kind = kind' :=
    hnames.kind_eq hfile
  refine ⟨hkind, ?_, ?_⟩
  · intro kind
    rw [after_disk, put_apply]
    exact congrArg (Option.or · _) (last_map (fun kind => fileOf (settings.path kind)) toText
      (fun kind' => hkind kind' kind) _)
  · intro file hother
    rw [after_disk, put_apply, last_eq_none, Option.none_or]
    intro entry hentry
    obtain ⟨message, -, rfl⟩ := List.mem_map.mp hentry
    exact hother message.1

end Runs

/-! ### In one directory -/

theorem isSeparator_toUpper (c : Char) : isSeparator c.toUpper = isSeparator c := by
  have hletter : ∀ n < 26, isSeparator (Char.ofNat (97 + n)).toUpper =
      isSeparator (Char.ofNat (97 + n)) := by decide
  by_cases hlower : 97 ≤ c.toNat ∧ c.toNat ≤ 122
  · have hc := hletter (c.toNat - 97) (by omega)
    rw [Nat.add_sub_cancel' hlower.1, Char.ofNat_toNat] at hc
    exact hc
  · have hkept : c.toUpper = c := dif_neg hlower
    rw [hkept]

/-- A disk that takes upper and lower case for the same. -/
def sampleFileOf (path : String) : List Char := path.toList.map Char.toUpper

theorem lastComponent_map_toUpper (path : List Char) :
    lastComponent (path.map Char.toUpper) = (lastComponent path).map Char.toUpper := by
  rw [lastComponent, ← List.map_reverse, List.takeWhile_map]
  simp only [Function.comp_def, isSeparator_toUpper]
  rw [← List.map_reverse]
  rfl

theorem namesFiles_sample : NamesFiles sampleFileOf := by
  refine ⟨Char.toUpper, fun _ _ => rfl, fun location location' kind kind' h => ?_⟩
  rw [← lastComponent_map_toUpper, ← lastComponent_map_toUpper]
  exact congrArg lastComponent h

/-- All three programs log in one directory. -/
def sampleLogSettings : LogSettings where
  consumerEnableSoapMessageLog := true
  consumerSoapMessageLogLocation := none
  stsEnableSoapMessageLog := true
  stsSoapMessageLogLocation := some "c:\\temp\\"
  serviceSoapMessageLogLocation := none

/-- A request is changed on its way to the token service, before another one of which
the service cannot write the file. -/
def sampleMessages : List (LogAction String) :=
  [⟨.consumerSendsToSts (some fun _ => .ok "changed") "request", fun _ => none⟩,
    ⟨.stsReceives "changed", fun _ => none⟩,
    ⟨.consumerSendsToSts none "another", fun _ => none⟩,
    ⟨.stsReceives "another", fun _ => some (.other "Access is denied.")⟩,
    ⟨.serviceReceives "ping", fun _ => none⟩]

theorem file_after_sample :
    (disk sampleLogSettings id sampleFileOf).after (fun _ => none) sampleMessages
      (sampleFileOf (sampleLogSettings.path .stsReceivedRequest)) = some "changed" := by
  rw [(file_after sampleLogSettings id sampleFileOf namesFiles_sample _ _).2.1]
  decide

end KombitSamples
