import Slight.Client.Payloads

/-!
# Slight.Client.SessionView

The view of one attached session: the transcript it shows, how events change it,
and how a snapshot of the session is loaded.

Loading waits three times, for the acknowledgement of the attach, for the first
page of the history and for the inspection of the session.  Each stretch between
two waits is one function here, since the view runs on one thread; what arrives
from the connection is handled in between by `handle`.  Ids that the view draws
for notices are left out.
-/

namespace Slight.Client

/-! ## the transcript -/

/-- The model of a tool call has the fields of its payload. -/
abbrev ToolCall := ToolCallPayload

structure SessionMessage where
  id : String
  role : MessageRole
  blocks : List ContentBlock
  at_ : Option Date := none
  isStreaming : Bool
  reasoningDuration : Option Rat := none
  deriving DecidableEq

namespace SessionMessage

def text (message : SessionMessage) : String :=
  message.blocks.foldl (fun text block => text ++ block.text) ""

/-- A local echo of a message that was sent. -/
def isLocal (message : SessionMessage) : Bool := "local-".toList.isPrefixOf message.id.toList

end SessionMessage

inductive NoticeKind where
  | info
  | warning
  | error
  deriving DecidableEq

structure TranscriptNotice where
  kind : NoticeKind
  text : String
  deriving DecidableEq

inductive TranscriptItem where
  | message (message : SessionMessage)
  | toolCall (toolCall : ToolCall)
  | notice (notice : TranscriptNotice)

namespace TranscriptItem

def message? : TranscriptItem → Option SessionMessage
  | .message m => some m
  | _ => none

def toolCall? : TranscriptItem → Option ToolCall
  | .toolCall tool => some tool
  | _ => none

end TranscriptItem

/-- The list with the first element that `f` replaces replaced, if there is one. -/
def replaceFirst {α : Type} (f : α → Option α) : List α → Option (List α)
  | [] => none
  | a :: as =>
      match f a with
      | some b => some (b :: as)
      | none => (replaceFirst f as).map (a :: ·)

/-- The same from the end. -/
def replaceLast {α : Type} (f : α → Option α) (as : List α) : Option (List α) :=
  (replaceFirst f as.reverse).map List.reverse

/-- A function of messages, on the items it replaces. -/
def onMessage (f : SessionMessage → Option SessionMessage) (item : TranscriptItem) :
    Option TranscriptItem :=
  (item.message?.bind f).map .message

/-- The message of a payload under the id it is shown with. -/
def MessagePayload.shown (payload : MessagePayload) (eventSequence : Int) : SessionMessage where
  id := payload.id.getD ("event-" ++ toString eventSequence)
  role := payload.role
  blocks :=
    if payload.blocks ≠ [] then payload.blocks
    else if payload.text ≠ "" then [{ id := "", kind := .text, text := payload.text }]
    else []
  isStreaming := payload.isStreaming

/-- A block onto the end of others: text of the same kind is joined. -/
def joinBlock (blocks : List ContentBlock) (block : ContentBlock) : List ContentBlock :=
  match blocks.getLast? with
  | some last =>
      if last.kind = block.kind ∧
          (block.kind = .text ∨ block.kind = .reasoning ∨ block.kind = .toolResult) then
        blocks.dropLast ++ [{ last with text := last.text ++ block.text }]
      else blocks ++ [block]
  | none => [block]

/-- The blocks of a streamed message after a further chunk. -/
def chunkBlocks (append : Bool) (existing incoming : List ContentBlock) : List ContentBlock :=
  match append, existing.getLast? with
  | true, some last =>
      match incoming with
      | [] => existing
      | first :: _ =>
          if last.kind = .text ∧ first.kind = .text then
            existing.dropLast ++ [{ last with text := last.text ++ first.text }]
          else existing ++ incoming
  | _, _ =>
      let reasoning := existing.filter (·.kind = .reasoning)
      if reasoning = [] ∨ incoming.any (·.kind = .reasoning) then incoming
      else reasoning ++ incoming

/-- A message onto the transcript. -/
def mergeMessage (payload : MessagePayload) (eventSequence : Int)
    (transcript : List TranscriptItem) : List TranscriptItem :=
  let incoming := payload.shown eventSequence
  -- a streaming host reuses an id across chunks
  let chunked := payload.id.bind fun id =>
    replaceFirst (onMessage fun existing =>
      if existing.id = id then
        some { existing with
          blocks := chunkBlocks payload.append existing.blocks incoming.blocks
          isStreaming := incoming.isStreaming
          at_ := incoming.at_.or existing.at_ }
      else none) transcript
  match chunked with
  | some transcript => transcript
  | none =>
      match incoming.role, transcript.getLast? with
      | .assistant, some (.message existing) =>
          if existing.role = .assistant then
            transcript.dropLast ++ [.message { existing with
              blocks := incoming.blocks.foldl joinBlock existing.blocks
              isStreaming := incoming.isStreaming
              at_ := incoming.at_.or existing.at_ }]
          else transcript ++ [.message incoming]
      | .user, _ =>
          -- the echo of a message that was sent gives way to the message
          (replaceFirst (onMessage fun existing =>
            if existing.isLocal ∧ existing.text = incoming.text then some incoming else none)
            transcript).getD (transcript ++ [.message incoming])
      | _, _ => transcript ++ [.message incoming]

/-- White space and newlines. -/
def isWhitespaceOrNewline (c : Char) : Bool :=
  [0x9, 0xA, 0xB, 0xC, 0xD, 0x20, 0x85, 0xA0, 0x1680, 0x2028, 0x2029, 0x202F, 0x205F,
    0x3000].contains c.toNat || (0x2000 ≤ c.toNat && c.toNat ≤ 0x200A)

def isBlank (text : String) : Bool := text.toList.all isWhitespaceOrNewline

/-- A partial update: what it leaves out is kept. -/
def ToolCall.merging (toolCall update : ToolCall) : ToolCall :=
  { update with
    title := if isBlank update.title then toolCall.title else update.title
    content := match update.content with
      | [] => toolCall.content
      | content => content
    locations := match update.locations with
      | [] => toolCall.locations
      | locations => locations
    kind := update.kind.or toolCall.kind
    detail := update.detail.or toolCall.detail
    rawInput := update.rawInput.or toolCall.rawInput
    rawOutput := update.rawOutput.or toolCall.rawOutput }

/-- The item patched, if it is the tool call. -/
def ToolCall.mergeInto (toolCall : ToolCall) (item : TranscriptItem) : Option TranscriptItem :=
  match item.toolCall? with
  | some existing =>
      if existing.id = toolCall.id then some (.toolCall (existing.merging toolCall)) else none
  | none => none

def upsert (toolCall : ToolCall) (transcript : List TranscriptItem) : List TranscriptItem :=
  (replaceFirst toolCall.mergeInto transcript).getD (transcript ++ [.toolCall toolCall])

/-- A message is not streaming any more. -/
def TranscriptItem.finished : TranscriptItem → TranscriptItem
  | .message m => .message { m with isStreaming := false }
  | item => item

/-! ## the view -/

/-- Visible replay lifecycle. -/
inductive ReplayState where
  | idle
  | replaying (fromSequence : Int)
  | resync (reason : Option String)
  | failed (message : String)
  deriving DecidableEq

/-- What the view keeps of the session's negotiated metadata. -/
structure SessionAcpMetadata where
  modes : Option AcpModeState
  configOptions : List AcpConfigOption
  deriving DecidableEq

structure SessionAttachResult where
  session : SessionSummary
  replayed : List GatewayEvent
  latestSequence : Int
  oldestAvailableSequence : Option Int
  resyncRequired : Bool

structure SessionHistoryResult where
  session : SessionSummary
  events : List GatewayEvent
  latestSequence : Int
  oldestAvailableSequence : Option Int
  hasMore : Bool

structure SessionInspectResult where
  acp : Option SessionAcpMetadata
  pendingPermission : Option PermissionRequestPayload

/-- What the connection pushes to the view. -/
inductive Inbound where
  | event (event : GatewayEvent)
  | replayRequested (sessionId : String) (fromSequence : Int)
  | replayCompleted (sessionId : String) (resyncRequired : Bool)
  | transcriptReset (sessionId : String) (reason : Option String)

structure SessionViewModel where
  sessionId : String
  session : Option SessionSummary := none
  acpMetadata : Option SessionAcpMetadata := none
  transcript : List TranscriptItem := []
  permissionRequests : List PermissionRequestPayload := []
  replayState : ReplayState := .idle
  isLoadingHistory : Bool := false
  hasOlderHistory : Bool := false
  hasLoadedHistory : Bool := false
  exitReason : Option String := none
  lastError : Option String := none
  hasAttached : Bool := false
  isAttaching : Bool := false
  replayBuffer : List GatewayEvent := []
  replaySequencesToIgnore : Finset Int := ∅
  ignoreNextTranscriptReset : Bool := false
  loadedHistoryEvents : List GatewayEvent := []
  loadedHistorySequences : Finset Int := ∅
  oldestLoadedSequence : Option Int := none
  /-- The clock, for events without a time. -/
  now : Date := ⟨0⟩

/-- The answer to a command: an error's message, or a payload that may be absent. -/
abbrev Response (α : Type) := Except String (Option α)

def historyTrimmed : String := "History was trimmed by the host; showing the retained events."

namespace SessionViewModel

def appendNotice (view : SessionViewModel) (kind : NoticeKind) (text : String) :
    SessionViewModel :=
  { view with transcript := view.transcript ++ [.notice { kind, text }] }

def clearTranscript (view : SessionViewModel) : SessionViewModel :=
  { view with
    transcript := []
    replayBuffer := []
    permissionRequests := []
    exitReason := none
    loadedHistoryEvents := []
    loadedHistorySequences := ∅
    oldestLoadedSequence := none
    hasOlderHistory := false }

def finishReplay (view : SessionViewModel) : SessionViewModel :=
  { view with transcript := view.transcript.map .finished }

/-! ## events -/

/-- A permission request replaces the one of its id, or is the last. -/
def requestPermission (request : PermissionRequestPayload)
    (requests : List PermissionRequestPayload) : List PermissionRequestPayload :=
  (replaceFirst (fun existing => if existing.id = request.id then some request else none)
    requests).getD (requests ++ [request])

/-- Keeps the event as part of the loaded history, once. -/
def record (view : SessionViewModel) (event : GatewayEvent) : SessionViewModel :=
  if event.event ≠ "replay.complete" ∧ event.sequence ∉ view.loadedHistorySequences then
    { view with
      loadedHistorySequences := insert event.sequence view.loadedHistorySequences
      loadedHistoryEvents := view.loadedHistoryEvents ++ [event] }
  else view

/-- Shows what an event says. -/
def applyEvent (view : SessionViewModel) (event : GatewayEvent) : SessionViewModel :=
  match event.event with
  | "session.message" =>
      match payloadAs MessagePayload event.payload with
      | some payload =>
          { view with transcript := mergeMessage payload event.sequence view.transcript }
      | none => view
  | "session.tool_call" =>
      match payloadAs ToolCallPayload event.payload with
      | some payload => { view with transcript := upsert payload view.transcript }
      | none => view
  | "session.permission_request" =>
      match payloadAs PermissionRequestPayload event.payload with
      | some payload =>
          { view with permissionRequests := requestPermission payload view.permissionRequests }
      | none => view
  | "session.permission_resolved" =>
      match payloadAs PermissionResolvedPayload event.payload with
      | some payload =>
          { view with
            permissionRequests := view.permissionRequests.filter (·.id ≠ payload.id) }
      | none => view
  | "session.status" =>
      match payloadAs StatusPayload event.payload with
      | some payload =>
          let view := { view with
            session := view.session.map fun session =>
              { session with
                status := payload.status
                lastActivityAt := some (event.at_.getD view.now) } }
          if payload.status = .exited ∨ payload.status = .failed then
            { view with replayState := .idle }
          else view
      | none => view
  | "session.mode" =>
      match payloadAs ModePayload event.payload with
      | some payload =>
          { view with
            acpMetadata := view.acpMetadata.map fun acp =>
              { acp with
                modes := acp.modes.map fun modes =>
                  { modes with currentModeId := payload.currentModeId } } }
      | none => view
  | "session.config_options" =>
      match payloadAs ConfigOptionsPayload event.payload with
      | some payload =>
          let model := (payload.options.find? (·.category = some .model)).bind fun option =>
            match option.kind with
            | .select currentValueId _ => some currentValueId
            | .boolean _ => none
          { view with
            acpMetadata := view.acpMetadata.map fun acp =>
              { acp with configOptions := payload.options }
            session := view.session.map fun session =>
              { session with model := model.or session.model } }
      | none => view
  | "session.exit" =>
      let payload : Option ExitPayload := payloadAs ExitPayload event.payload
      let text := match payload with
        | some payload => "Session exited: " ++ payload.reason
        | none => "Session exited"
      let view : SessionViewModel := { view with
        session := view.session.map fun session => { session with status := .exited }
        exitReason := payload.map ExitPayload.reason }
      view.appendNotice .warning text
  | "session.snapshot" =>
      match payloadAs SnapshotPayload event.payload with
      | some payload =>
          let view := { view with session := some payload.summary }
          match payload.pendingPermission with
          | some request =>
              if view.permissionRequests.any (·.id = request.id) then view
              else { view with permissionRequests := view.permissionRequests ++ [request] }
          | none => view
      | none => view
  | "session.diagnostics" =>
      match payloadAs DiagnosticsPayload event.payload with
      | some payload =>
          if payload.level = "error" ∨ payload.level = "warning" then
            { view with lastError := some payload.message }
          else view
      | none => view
  | "session.turn_ended" =>
      match payloadAs TurnEndedPayload event.payload with
      | some { reasoningStartedAtMs := some started, reasoningEndedAtMs := some ended, .. } =>
          if started ≤ ended then
            let duration : Rat := (ended - started : Int) / 1000
            { view with
              transcript := (replaceLast (onMessage fun message =>
                if message.role = .assistant then
                  some { message with reasoningDuration := some duration }
                else none) view.transcript).getD view.transcript }
          else view
      | _ => view
  | _ => view

def handleEvent (view : SessionViewModel) (event : GatewayEvent) : SessionViewModel :=
  (view.record event).applyEvent event

def flushReplayBuffer (view : SessionViewModel) : SessionViewModel :=
  view.replayBuffer.foldl handleEvent { view with replayBuffer := [] }

/-- An event of the session's stream. -/
def receive (view : SessionViewModel) (event : GatewayEvent) : SessionViewModel :=
  if event.sequence ∈ view.replaySequencesToIgnore then
    { view with replaySequencesToIgnore := view.replaySequencesToIgnore.erase event.sequence }
  else if event.event = "replay.complete" then
    { view.flushReplayBuffer.finishReplay with replayState := .idle }
  else if view.isAttaching then { view with replayBuffer := view.replayBuffer ++ [event] }
  else view.handleEvent event

/-- What the connection pushed. -/
def handle (view : SessionViewModel) : Inbound → SessionViewModel
  | .event event => if event.sessionId = view.sessionId then view.receive event else view
  | .replayRequested sessionId fromSequence =>
      if sessionId = view.sessionId then { view with replayState := .replaying fromSequence }
      else view
  | .replayCompleted sessionId _ =>
      if sessionId = view.sessionId then
        { view.flushReplayBuffer.finishReplay with replayState := .idle }
      else view
  | .transcriptReset sessionId reason =>
      if sessionId = view.sessionId then
        if view.ignoreNextTranscriptReset then
          let view := { view with ignoreNextTranscriptReset := false }
          if reason.isSome then view.appendNotice .warning historyTrimmed else view
        else
          let view := { view.clearTranscript with hasAttached := true }
          if reason.isSome then
            { view.appendNotice .warning historyTrimmed with replayState := .resync reason }
          else { view with replayState := .idle }
      else view

/-! ## loading a snapshot -/

/-- The transcript, the permission requests and the exit the events lead to. -/
def rebuilt (view : SessionViewModel) (events : List GatewayEvent) : SessionViewModel :=
  (events.insertionSort fun a b => a.sequence ≤ b.sequence).foldl applyEvent
    { sessionId := view.sessionId }

def rebuildTranscript (view : SessionViewModel) : SessionViewModel :=
  let accumulator := view.rebuilt view.loadedHistoryEvents
  { view with
    transcript := accumulator.transcript
    permissionRequests := accumulator.permissionRequests
    exitReason := accumulator.exitReason }

/-- The events whose sequences are new, with all sequences loaded then. -/
def freshEvents : List GatewayEvent → Finset Int → List GatewayEvent × Finset Int
  | [], loaded => ([], loaded)
  | event :: events, loaded =>
      if event.sequence ∈ loaded then freshEvents events loaded
      else
        let (rest, loaded) := freshEvents events (insert event.sequence loaded)
        (event :: rest, loaded)

/-- The page of the history arrived. -/
def historyLoaded (view : SessionViewModel) (replacing : Bool)
    (response : Response SessionHistoryResult) : SessionViewModel :=
  let view := { view with isLoadingHistory := false }
  match response with
  | .error message => { view with lastError := some message }
  | .ok none => view
  | .ok (some page) =>
      let (newEvents, loaded) := freshEvents page.events view.loadedHistorySequences
      let events := if replacing then newEvents else newEvents ++ view.loadedHistoryEvents
      let view := { view with
        loadedHistorySequences := loaded
        loadedHistoryEvents := events
        oldestLoadedSequence := (events.map (·.sequence)).min?
        hasOlderHistory := page.hasMore
        session := some page.session }
      if replacing then view.rebuildTranscript
      else if newEvents ≠ [] then
        { view with transcript := (view.rebuilt newEvents).transcript ++ view.transcript }
      else view

/-- `loadSnapshot` up to its first wait; a load in progress is not repeated. -/
def beginSnapshot (view : SessionViewModel) : SessionViewModel :=
  if view.isAttaching then view
  else
    { view with
      hasLoadedHistory := view.hasAttached && view.hasLoadedHistory
      isAttaching := true
      replayBuffer := []
      replaySequencesToIgnore := ∅
      replayState := .replaying 0 }

/-- The acknowledgement of the attach arrived: up to the request for the history. -/
def attached (view : SessionViewModel) (attach : SessionAttachResult) : SessionViewModel :=
  let view := { view.clearTranscript with ignoreNextTranscriptReset := true }
  let view := if attach.resyncRequired then view.appendNotice .warning historyTrimmed else view
  let view := { view with
    replaySequencesToIgnore := (attach.replayed.map (·.sequence)).toFinset }
  let view := attach.replayed.foldl handleEvent view
  let pendingEvents := view.replayBuffer
  let view := { view with replayBuffer := [] }
  let view := pendingEvents.foldl (fun view event =>
    if event.sequence ∈ view.replaySequencesToIgnore then view else view.handleEvent event) view
  { view.finishReplay with session := some attach.session, hasAttached := true }

/-- The attach failed, which ends the load. -/
def attachFailed (view : SessionViewModel) (message : String) : SessionViewModel :=
  { view with
    replayState := .failed message
    lastError := some message
    isAttaching := false }

/-- A page of the history is requested, unless one is on its way. -/
def requestHistory (view : SessionViewModel) : Option SessionViewModel :=
  if view.isLoadingHistory then none else some { view with isLoadingHistory := true }

/-- The first page of the history arrived: up to the wait for the inspection. -/
def pageLoaded (view : SessionViewModel) (response : Response SessionHistoryResult) :
    SessionViewModel :=
  { view.historyLoaded true response with hasLoadedHistory := true }

/-- The inspection arrived, which ends the load. -/
def inspected (view : SessionViewModel) (response : Response SessionInspectResult) :
    SessionViewModel :=
  let view := { view with isAttaching := false, lastError := none }
  match response with
  | .error _ => { view with acpMetadata := none }
  | .ok inspection =>
      let acp := inspection.bind (·.acp)
      let model := (acp.bind fun acp => acp.configOptions.find? (·.category = some .model)).bind
        fun option =>
          match option.kind with
          | .select currentValueId _ => some currentValueId
          | .boolean _ => none
      { view with
        acpMetadata := acp
        session := view.session.map fun session =>
          { session with model := session.model.or model }
        permissionRequests := (inspection.bind (·.pendingPermission)).toList }

end SessionViewModel

end Slight.Client
