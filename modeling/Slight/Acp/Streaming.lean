import Slight.Acp.Conversation
import Slight.Acp.Matching

/-!
# Slight.Acp.Streaming

What a worker sends on its event channel.

The agent's messages are read during the calls of the commands, and each call reads on
where the one before it stopped.  `stream_delivered` says that nothing is lost, repeated
or reordered on the way: the events are those of the messages in the order of the
stream, and after what was read during a prompt stands the one event that ends it.
-/

namespace Slight

namespace Acp

open Support Program

variable {api : Api}

/-! ## the events of a message -/

/-- What the handler sends for a message. -/
def AcpMessage.events : AcpMessage api.toSchema → List AgentEvent
  | .request id (.requestPermission asked) =>
      [.permissionRequest (normalizePermission api.pretty id (api.permissionRequest asked))]
  | .request _ (.other ..) => []
  | .notification sent => normalizeNotification api sent
  | .response .. => []

theorem events_handled (handler : NormalizingHandler) (message : AcpMessage api.toSchema) :
    (handled handler message).events = handler.events ++ message.events := by
  cases message with
  | request id request =>
      cases request with
      | requestPermission request => rfl
      | other method params => exact (List.append_nil _).symm
  | notification notification => rfl
  | response id outcome => exact (List.append_nil _).symm

theorem events_foldl_handled (handler : NormalizingHandler)
    (messages : List (AcpMessage api.toSchema)) :
    (messages.foldl handled handler).events =
      handler.events ++ messages.flatMap AcpMessage.events := by
  induction messages generalizing handler with
  | nil => exact (List.append_nil _).symm
  | cons message messages ih =>
      rw [List.foldl_cons, ih, events_handled, List.flatMap_cons, List.append_assoc]

/-! ## the calls of the client -/

/-- A call read its part of the stream, and the handler sent its events. -/
structure Reads (peer peer' : Peer api NormalizingHandler)
    (read left : List (AcpMessage api.toSchema)) : Prop where
  left : Frames api.toSchema peer'.client.transport.lines left
  events : peer'.client.handler.events =
    peer.client.handler.events ++ read.flatMap AcpMessage.events

/-- A call from a state whose stream holds the messages: it reads the first of them, and
returns what `ends` says. -/
def Streams {α : Type} (call : Talking api NormalizingHandler α)
    (ends : List (AcpMessage api.toSchema) → List (AcpMessage api.toSchema) →
      Except (CallError api) α → Prop) : Prop :=
  ∀ peer messages, Frames api.toSchema peer.client.transport.lines messages →
    ∃ read left, messages = read ++ left ∧ Reads peer (call.final peer) read left ∧
      ends read left (call.result peer)

section Calls

variable {α β : Type} {ends : List (AcpMessage api.toSchema) → List (AcpMessage api.toSchema) →
  Except (CallError api) α → Prop}

/-- How a request ends that read `read` and left `left`: with the result of the first
response to it, or at the end of the stream, or with a failure. -/
structure Answered (decode : Json → Except String α) (read left : List (AcpMessage api.toSchema))
    (result : Except (CallError api) α) : Prop where
  ok : ∀ a, result = .ok a → ∃ id front value, read = front ++ [.response id (.ok value)] ∧
    Unanswered id front ∧ decode value = .ok a
  closed : result = .error (.client .closed) → left = [] ∧ ∃ id, Unanswered id read

theorem streams_request (decode : Json → Except String α)
    (made : HostRequest api.Implementation) :
    Streams (Peer.request decode made) (Answered decode) := by
  intro peer messages hframes
  unfold Peer.request final result
  rw [exec_bind, exec_get]
  dsimp only
  let call : RequestCall Json :=
    { method := made.method, params := api.params made, decode := .ok }
  rcases hcall : (AcpClient.request .ok made.method (api.params made) :
    Calling api.toSchema NormalizingHandler Json).exec peer.client with ⟨outcome, client⟩
  obtain ⟨exchange, left, hsame, rfl, hsplit, hmade⟩ := request_made call hframes hcall
  dsimp only
  rw [exec_bind, exec_set]
  dsimp only
  have hreads : Reads peer
      { peer with
        client := client
        asked := peer.asked ++ [Asked.mk made exchange.result.toOption] }
      exchange.read left := by
    refine ⟨hmade.left, ?_⟩
    show client.handler.events = _
    rw [hmade.handler, events_foldl_handled]
  refine ⟨exchange.read, left, hsplit, ?_⟩
  cases hresult : exchange.result with
  | error error =>
      rw [hresult] at hreads
      refine ⟨hreads, nofun, fun hclosed => ?_⟩
      have herror : error = .closed := by
        cases hclosed
        rfl
      rw [herror] at hresult
      obtain ⟨hnone, hend, -⟩ := hmade.matched.closed.mp hresult
      exact ⟨hend, exchange.id, hnone⟩
  | ok value =>
      rw [hresult] at hreads
      obtain ⟨front, value', hread, hfirst, hvalue⟩ := hmade.matched.ok value hresult
      rw [hsame] at hvalue
      cases hvalue
      dsimp only
      cases hdecode : decode value with
      | error text => exact ⟨hreads, nofun, nofun⟩
      | ok a =>
          refine ⟨hreads, fun b hb => ?_, nofun⟩
          cases hb
          exact ⟨exchange.id, front, value, hread, hfirst, hdecode⟩

/-- Nothing is said about how the call ends. -/
abbrev Anyhow (_ _ : List (AcpMessage api.toSchema)) (_ : Except (CallError api) α) : Prop := True

/-- What is checked before a call reads nothing. -/
theorem streams_check_bind {check : Talking api NormalizingHandler Unit}
    {next : Unit → Talking api NormalizingHandler α}
    (hcheck : ∀ peer, check.exec peer = (.ok (), peer) ∨
      ∃ error, check.exec peer = (.error error, peer) ∧ error ≠ .client .closed)
    (hends : ∀ left error, error ≠ .client .closed → ends [] left (.error error))
    (hnext : Streams (next ()) ends) : Streams (check >>= next) ends := by
  intro peer messages hframes
  rw [final, result, exec_bind]
  rcases hcheck peer with hok | ⟨error, herror, hopen⟩
  · rw [hok]
    exact hnext peer messages hframes
  · rw [herror]
    exact ⟨[], messages, rfl, ⟨hframes, (List.append_nil _).symm⟩, hends messages error hopen⟩

/-- What is kept after a call does not touch the client. -/
theorem streams_bind {m : Talking api NormalizingHandler α}
    {next : α → Talking api NormalizingHandler β} (hm : Streams m ends)
    (hnext : ∀ a peer, ((next a).final peer).client = peer.client) :
    Streams (m >>= next) Anyhow := by
  intro peer messages hframes
  obtain ⟨read, left, hsplit, hreads, -⟩ := hm peer messages hframes
  refine ⟨read, left, hsplit, ?_, trivial⟩
  rw [final_bind]
  rw [final] at hreads
  rcases hexec : m.exec peer with ⟨outcome, peer'⟩
  rw [hexec] at hreads
  cases outcome with
  | error error => exact hreads
  | ok a =>
      refine ⟨?_, ?_⟩
      · rw [hnext]
        exact hreads.left
      · rw [hnext]
        exact hreads.events

theorem check_ensureInitialized (peer : Peer api NormalizingHandler) :
    Peer.ensureInitialized.exec peer = (.ok (), peer) ∨
      ∃ error, Peer.ensureInitialized.exec peer = (.error error, peer) ∧
        error ≠ .client .closed := by
  unfold Peer.ensureInitialized
  rw [exec_bind, exec_get]
  dsimp only
  split
  · exact .inl rfl
  · exact .inr ⟨.notInitialized, rfl, nofun⟩

theorem check_ensureSupported (supported : AgentCapabilities → Bool) (capability : String)
    (peer : Peer api NormalizingHandler) :
    (Peer.ensureSupported supported capability).exec peer = (.ok (), peer) ∨
      ∃ error, (Peer.ensureSupported supported capability).exec peer = (.error error, peer) ∧
        error ≠ .client .closed := by
  unfold Peer.ensureSupported
  rw [exec_bind, exec_get]
  dsimp only
  split
  · exact .inl rfl
  · exact .inr ⟨.unsupportedCapability capability, rfl, nofun⟩

theorem Streams.anyhow {m : Talking api NormalizingHandler α} (hm : Streams m ends) :
    Streams m Anyhow := by
  intro peer messages hframes
  obtain ⟨read, left, hsplit, hreads, -⟩ := hm peer messages hframes
  exact ⟨read, left, hsplit, hreads, trivial⟩

theorem streams_opening {decode : Json → Except String α} {made : HostRequest api.Implementation}
    {sessionId : α → String} :
    Streams (do
      let response ← Peer.request decode made
      Peer.remember (sessionId response)
      return response : Talking api NormalizingHandler α) Anyhow :=
  streams_bind (streams_request decode made) fun _ _ => rfl

theorem streams_initializeAgent (clientInfo : api.Implementation) :
    Streams (Peer.initializeAgent clientInfo) Anyhow := by
  refine streams_bind (streams_request _ _) fun response peer => ?_
  split <;> rfl

theorem streams_newSession (cwd : String) : Streams (Peer.newSession cwd : Talking api _ _) Anyhow :=
  streams_check_bind check_ensureInitialized (fun _ _ _ => trivial) streams_opening

theorem streams_loadSession (sessionId cwd : String) :
    Streams (Peer.loadSession sessionId cwd : Talking api _ _) Anyhow :=
  streams_check_bind check_ensureInitialized (fun _ _ _ => trivial)
    (streams_check_bind (check_ensureSupported _ _) (fun _ _ _ => trivial) streams_opening)

theorem streams_resumeSession (sessionId cwd : String) :
    Streams (Peer.resumeSession sessionId cwd : Talking api _ _) Anyhow :=
  streams_check_bind check_ensureInitialized (fun _ _ _ => trivial)
    (streams_check_bind (check_ensureSupported _ _) (fun _ _ _ => trivial) streams_opening)

theorem streams_listSessions (cwd cursor : Option String) :
    Streams (Peer.listSessions cwd cursor : Talking api _ _) Anyhow :=
  streams_check_bind check_ensureInitialized (fun _ _ _ => trivial)
    (streams_check_bind (check_ensureSupported _ _) (fun _ _ _ => trivial)
      (streams_request _ _).anyhow)

theorem streams_setConfigOption (sessionId configId valueId : String) :
    Streams (Peer.setConfigOption sessionId configId valueId : Talking api _ _) Anyhow :=
  streams_check_bind check_ensureInitialized (fun _ _ _ => trivial) (streams_request _ _).anyhow

theorem streams_prompt (sessionId text : String) :
    Streams (Peer.prompt sessionId text : Talking api _ _) (Answered api.prompted) := by
  have hrefused : ∀ (left : List (AcpMessage api.toSchema)) (error : CallError api),
      error ≠ .client .closed → Answered api.prompted [] left (.error error) :=
    fun left error hopen => ⟨nofun, fun hclosed => absurd (Except.error.inj hclosed) hopen⟩
  refine streams_check_bind check_ensureInitialized hrefused ?_
  intro peer messages hframes
  rw [final, result, exec_bind, exec_get]
  dsimp only
  by_cases hopen : sessionId ∈ peer.sessions
  · rw [if_neg (not_not_intro hopen)]
    exact streams_request api.prompted (.prompt sessionId text) peer messages hframes
  · rw [if_pos hopen]
    exact ⟨[], messages, rfl, ⟨hframes, (List.append_nil _).symm⟩,
      hrefused messages (.unknownSession sessionId) nofun⟩

end Calls

/-! ## the worker -/

/-- The event that ends a prompt during which `read` was read and after which `left` is
left. -/
inductive PromptEnds (read left : List (AcpMessage api.toSchema)) : AgentEvent → Prop
  | turn {id : RequestId} {front : List (AcpMessage api.toSchema)} {value : Json}
      {stopReason : StopReason} (answered : read = front ++ [.response id (.ok value)])
      (first : Unanswered id front) (decoded : api.prompted value = .ok stopReason) :
      PromptEnds read left (.turnEnded stopReason)
  | exit {id : RequestId} (unanswered : Unanswered id read) (all : left = []) :
      PromptEnds read left (.exited none "agent connection closed")
  | failure (message : String) : PromptEnds read left (.failed message)

namespace WorkerCommand

/-- The text of a prompt. -/
def text? : WorkerCommand api → Option String
  | prompt text => some text
  | _ => none

def isShutdown : WorkerCommand api → Bool
  | shutdown => true
  | _ => false

end WorkerCommand

/-- A command the worker took, and what it read and sent for it. -/
structure Part (api : Api) where
  command : WorkerCommand api
  read : List (AcpMessage api.toSchema)
  ending : Option AgentEvent

namespace Part

def events (part : Part api) : List AgentEvent :=
  part.read.flatMap AcpMessage.events ++ part.ending.toList

/-- The worker takes no command after this one. -/
def Stops (part : Part api) : Prop :=
  part.command.isShutdown = true ∨ part.ending = some (.exited none "agent connection closed")

/-- A prompt ends in one event, the other commands in none. -/
structure Ended (part : Part api) (left : List (AcpMessage api.toSchema)) : Prop where
  prompt : part.command.text?.isSome = true →
    ∃ event, part.ending = some event ∧ PromptEnds part.read left event
  other : part.command.text? = none → part.ending = none

end Part

namespace WorkerThread

variable {worker worker' : WorkerThread api}

/-- The stream the worker has yet to read. -/
def Holds (worker : WorkerThread api) (messages : List (AcpMessage api.toSchema)) : Prop :=
  Frames api.toSchema worker.peer.client.transport.lines messages

/-- The worker took a command. -/
structure Takes (worker worker' : WorkerThread api) (part : Part api)
    (left : List (AcpMessage api.toSchema)) : Prop where
  holds : worker'.Holds left
  events : worker'.events = worker.events ++ part.events
  ended : part.Ended left
  stopped : worker'.stopped = true ↔ part.Stops

/-- A command that is no prompt, with the call it makes. -/
theorem takes_call (hstopped : worker.stopped = false) {messages : List (AcpMessage api.toSchema)}
    (hholds : worker.Holds messages) {command : WorkerCommand api}
    (hother : command.text? = none) (hgoes : command.isShutdown = false) {α : Type}
    {call : Talking api NormalizingHandler α} (hcall : Streams call Anyhow)
    (hpeer : worker'.peer = call.final worker.peer) (hrunning : worker'.stopped = worker.stopped) :
    ∃ part left, part.command = command ∧ messages = part.read ++ left ∧
      worker.Takes worker' part left := by
  obtain ⟨read, left, hsplit, hreads, -⟩ := hcall worker.peer messages hholds
  rw [← hpeer] at hreads
  refine ⟨⟨command, read, none⟩, left, rfl, hsplit, hreads.left, ?_, ⟨fun hprompt => ?_,
    fun _ => rfl⟩, ?_⟩
  · rw [Part.events, Option.toList_none, List.append_nil]
    exact hreads.events
  · rw [hother] at hprompt
    contradiction
  · rw [hrunning, hstopped, Part.Stops, hgoes]
    simp

/-- A command for which nothing is asked. -/
theorem takes_silent (hstopped : worker.stopped = false)
    {messages : List (AcpMessage api.toSchema)} (hholds : worker.Holds messages)
    {command : WorkerCommand api} (hother : command.text? = none)
    (hgoes : command.isShutdown = false) (hpeer : worker'.peer = worker.peer)
    (hrunning : worker'.stopped = worker.stopped) :
    ∃ part left, part.command = command ∧ messages = part.read ++ left ∧
      worker.Takes worker' part left := by
  have hnothing : Streams (pure () : Talking api NormalizingHandler Unit) Anyhow :=
    fun _ messages hframes =>
      ⟨[], messages, rfl, ⟨hframes, (List.append_nil _).symm⟩, trivial⟩
  exact takes_call hstopped hholds hother hgoes hnothing hpeer hrunning

theorem opening_frame (worker : WorkerThread api) {α : Type} (call : Talking api NormalizingHandler α)
    (metadata : α → SessionMetadata) :
    (worker.opening call metadata).peer = call.final worker.peer ∧
      (worker.opening call metadata).stopped = worker.stopped := by
  unfold opening final
  rcases call.exec worker.peer with ⟨outcome, peer'⟩
  cases outcome <;> exact ⟨rfl, rfl⟩

theorem takes_replyingOpen (hstopped : worker.stopped = false)
    {messages : List (AcpMessage api.toSchema)} (hholds : worker.Holds messages)
    {command : WorkerCommand api} (hother : command.text? = none)
    (hgoes : command.isShutdown = false) {α β : Type} {call : String → Talking api NormalizingHandler α}
    (hcall : ∀ sessionId, Streams (call sessionId) Anyhow) (summary : α → β)
    (reply : Except AcpError β → WorkerReply) :
    ∃ part left, part.command = command ∧ messages = part.read ++ left ∧
      worker.Takes (worker.replyingOpen call summary reply) part left := by
  unfold replyingOpen
  cases worker.agentSessionId with
  | none => exact takes_silent hstopped hholds hother hgoes rfl rfl
  | some sessionId =>
      exact takes_call hstopped hholds hother hgoes (hcall sessionId) rfl rfl

/-- A prompt is ended by one event. -/
theorem takes_ended {text : String} {read left : List (AcpMessage api.toSchema)}
    {event : AgentEvent} (hholds : worker'.Holds left)
    (hevents : worker'.events = worker.events ++ read.flatMap AcpMessage.events ++ [event])
    (hends : PromptEnds read left event)
    (hstops : worker'.stopped = true ↔ event = .exited none "agent connection closed") :
    worker.Takes worker' ⟨.prompt text, read, some event⟩ left := by
  refine ⟨hholds, ?_, ⟨fun _ => ⟨event, rfl, hends⟩, fun hother => ?_⟩, ?_⟩
  · rw [hevents, List.append_assoc]
    rfl
  · contradiction
  · rw [hstops]
    simp [Part.Stops, WorkerCommand.isShutdown]

/-- A prompt that came back. -/
theorem takes_prompted (called : WorkerThread api) (hstopped : worker.stopped = false)
    {text : String} {read left : List (AcpMessage api.toSchema)}
    (hreads : Reads worker.peer called.peer read left) (hcalled : called.stopped = worker.stopped)
    {result : Except (CallError api) StopReason} (hresult : Answered api.prompted read left result) :
    ∃ part : Part api, part.command = .prompt text ∧ part.read = read ∧
      worker.Takes (called.prompted result) part left := by
  have hsent : ∀ event, (called.send event).events =
      worker.events ++ read.flatMap AcpMessage.events ++ [event] :=
    fun event => congrArg (· ++ [event]) hreads.events
  have hgoes : ∀ event : AgentEvent, event ≠ .exited none "agent connection closed" →
      ((called.send event).stopped = true ↔ event = .exited none "agent connection closed") := by
    intro event hne
    refine iff_of_false ?_ hne
    show ¬ called.stopped = true
    rw [hcalled, hstopped]
    exact Bool.false_ne_true
  cases result with
  | ok stopReason =>
      obtain ⟨id, front, value, hread, hfirst, hdecode⟩ := hresult.ok stopReason rfl
      exact ⟨_, rfl, rfl, takes_ended hreads.left (hsent _) (.turn hread hfirst hdecode)
        (hgoes _ (by simp))⟩
  | error error =>
      by_cases hclosed : error = .client .closed
      · obtain ⟨hend, id, hnone⟩ := hresult.closed (congrArg _ hclosed)
        rw [hclosed]
        exact ⟨_, rfl, rfl, takes_ended hreads.left (hsent _) (.exit hnone hend)
          (iff_of_true rfl rfl)⟩
      · have hfailed : called.prompted (.error error) = called.send (.failed error.text) := by
          unfold prompted
          split
          · contradiction
          · next heq => exact absurd (Except.error.inj heq) hclosed
          · next heq =>
            cases heq
            rfl
        rw [hfailed]
        exact ⟨_, rfl, rfl, takes_ended hreads.left (hsent _) (.failure _) (hgoes _ (by simp))⟩

/-- **One command** reads on where the stream stands. -/
theorem takes_work (hstopped : worker.stopped = false)
    {messages : List (AcpMessage api.toSchema)} (hholds : worker.Holds messages)
    (command : WorkerCommand api) :
    ∃ part left, part.command = command ∧ messages = part.read ++ left ∧
      worker.Takes (worker.work command) part left := by
  cases command with
  | initializeAgent client =>
      exact takes_call hstopped hholds rfl rfl (streams_initializeAgent client) rfl rfl
  | newSession cwd =>
      obtain ⟨hpeer, hsame⟩ := opening_frame worker (Peer.newSession cwd)
        fun response => sessionMetadata response.sessionId response.opened
      exact takes_call hstopped hholds rfl rfl (streams_newSession cwd) hpeer hsame
  | listSessions cwd cursor =>
      exact takes_call hstopped hholds rfl rfl (streams_listSessions cwd cursor) rfl rfl
  | loadSession sessionId cwd =>
      obtain ⟨hpeer, hsame⟩ := opening_frame worker (Peer.loadSession sessionId cwd)
        (sessionMetadata sessionId)
      exact takes_call hstopped hholds rfl rfl (streams_loadSession sessionId cwd) hpeer hsame
  | resumeSession sessionId cwd =>
      obtain ⟨hpeer, hsame⟩ := opening_frame worker
        (Peer.resumeSession sessionId cwd) (sessionMetadata sessionId)
      exact takes_call hstopped hholds rfl rfl (streams_resumeSession sessionId cwd) hpeer
        hsame
  | setMode modeId =>
      exact takes_replyingOpen hstopped hholds (by rfl) (by rfl)
        (fun sessionId => (streams_request _ _).anyhow) _ _
  | setConfigOption configId valueId =>
      exact takes_replyingOpen hstopped hholds (by rfl) (by rfl)
        (fun sessionId => streams_setConfigOption sessionId configId valueId) _ _
  | shutdown =>
      refine ⟨⟨.shutdown, [], none⟩, messages, rfl, rfl, hholds, (List.append_nil _).symm,
        ⟨fun hprompt => ?_, fun _ => rfl⟩, iff_of_true rfl (.inl rfl)⟩
      contradiction
  | prompt text =>
      show ∃ part left, part.command = _ ∧ _ ∧ worker.Takes (worker.prompt text) part left
      unfold WorkerThread.prompt
      cases hid : worker.agentSessionId with
      | none =>
          have hfailed : PromptEnds ([] : List (AcpMessage api.toSchema)) messages
              (.failed "prompt sent before session/new completed") := .failure _
          refine ⟨_, messages, rfl, rfl, takes_ended hholds ?_ hfailed ?_⟩
          · rw [List.flatMap_nil, List.append_nil]
            rfl
          · refine iff_of_false ?_ (by simp)
            show ¬ worker.stopped = true
            rw [hstopped]
            exact Bool.false_ne_true
      | some sessionId =>
          obtain ⟨read, left, hsplit, hreads, hresult⟩ :=
            streams_prompt sessionId text worker.peer messages hholds
          obtain ⟨part, hcommand, rfl, htakes⟩ := takes_prompted
            { worker with
              peer := (Peer.prompt sessionId text).final worker.peer
              agentSessionId := some sessionId } hstopped hreads rfl hresult
          exact ⟨part, left, hcommand, hsplit, htakes⟩

theorem run_of_stopped (hstopped : worker.stopped = true) (commands : List (WorkerCommand api)) :
    worker.run commands = worker := by
  cases commands with
  | nil => rfl
  | cons command commands => exact if_pos hstopped

/-- **The stream**: over any run of commands, what the agent sends is read once and in
order, a part for each command that was taken; the events on the channel are those of the
messages in that order, and after the messages read during a prompt stands the one event
that ends it.  The worker reports the agent's exit only when nothing is left to read, and
takes no command after it. -/
theorem stream_delivered (commands : List (WorkerCommand api)) (hstopped : worker.stopped = false)
    {messages : List (AcpMessage api.toSchema)} (hholds : worker.Holds messages) :
    ∃ (parts : List (Part api)) (left : List (AcpMessage api.toSchema)),
      parts.map (·.command) <+: commands ∧
      ((worker.run commands).stopped = false → parts.map (·.command) = commands) ∧
      messages = parts.flatMap (·.read) ++ left ∧ (worker.run commands).Holds left ∧
      (worker.run commands).events = worker.events ++ parts.flatMap Part.events ∧
      ((worker.run commands).stopped = true → ∃ part ∈ parts, part.Stops) ∧
      ∀ front part back, parts = front ++ part :: back →
        part.Ended (back.flatMap (·.read) ++ left) ∧
          (part.Stops → back = [] ∧ (worker.run commands).stopped = true) := by
  induction commands generalizing worker messages with
  | nil =>
      refine ⟨[], messages, List.nil_prefix, fun _ => rfl, rfl, hholds, (List.append_nil _).symm,
        fun hstops => ?_, fun front part back heq => ?_⟩
      · rw [run, hstopped] at hstops
        contradiction
      · exact absurd heq (by simp)
  | cons command commands ih =>
      have hrun : worker.run (command :: commands) = (worker.work command).run commands := by
        rw [run, if_neg (by simp [hstopped])]
      rw [hrun]
      obtain ⟨part, left, hcommand, hsplit, htakes⟩ := takes_work hstopped hholds command
      by_cases hgoes : (worker.work command).stopped = true
      · -- the loop ended with this command
        rw [run_of_stopped hgoes]
        refine ⟨[part], left, ?_, fun hrunning => ?_, ?_, htakes.holds, ?_, fun _ => ?_, ?_⟩
        · rw [List.map_singleton, hcommand]
          exact ⟨commands, rfl⟩
        · rw [hgoes] at hrunning
          contradiction
        · rw [hsplit, List.flatMap_singleton]
        · rw [htakes.events, List.flatMap_singleton]
        · exact ⟨part, List.mem_singleton_self part, htakes.stopped.mp hgoes⟩
        · intro front other back heq
          obtain ⟨rfl, rfl, rfl⟩ : front = [] ∧ part = other ∧ back = [] := by
            cases front with
            | nil => simpa [eq_comm] using heq
            | cons first front => exact absurd heq (by simp)
          exact ⟨htakes.ended, fun _ => ⟨rfl, hgoes⟩⟩
      · have hrunning : (worker.work command).stopped = false := by simpa using hgoes
        obtain ⟨parts, left', hfront, hall, hrest, hholds', hevents, hstops, hended⟩ :=
          ih hrunning htakes.holds
        refine ⟨part :: parts, left', ?_, fun hlast => ?_, ?_, hholds', ?_, fun hlast => ?_, ?_⟩
        · rw [List.map_cons, hcommand]
          exact (List.prefix_cons_inj command).mpr hfront
        · rw [List.map_cons, hcommand, hall hlast]
        · rw [hsplit, hrest, List.flatMap_cons, List.append_assoc]
        · rw [hevents, htakes.events, List.flatMap_cons, List.append_assoc]
        · obtain ⟨other, hmem, hother⟩ := hstops hlast
          exact ⟨other, List.mem_cons_of_mem part hmem, hother⟩
        · intro front other back heq
          cases front with
          | nil =>
              obtain ⟨rfl, rfl⟩ := List.cons.inj heq
              rw [← hrest]
              exact ⟨htakes.ended, fun hlast => absurd (htakes.stopped.mpr hlast) hgoes⟩
          | cons first front => exact hended front other back (List.cons.inj heq).2

end WorkerThread

/-- The agent answers the handshake, and the next prompt comes before a session is open. -/
theorem stream_delivered_sample :
    ∃ (parts : List (Part handshakeApi)) (left : List (AcpMessage handshakeApi.toSchema)),
      parts.map (·.command) =
        [.initializeAgent ("slight-test", "0.1.0"), .prompt "hi"] ∧
      [.response (.number 1) (.ok handshakeResult)] = parts.flatMap (·.read) ++ left ∧
      parts.flatMap Part.events = [.failed "prompt sent before session/new completed"] := by
  have hholds : (handshakeWorker.arrive [handshakeLine]).Holds
      [.response (.number 1) (.ok handshakeResult)] :=
    .frame (by decide +kernel) (by decide +kernel) rfl .nil
  obtain ⟨parts, left, -, hall, hsplit, -, hevents, -, -⟩ := WorkerThread.stream_delivered
    [.initializeAgent ("slight-test", "0.1.0"), .prompt "hi"] rfl hholds
  exact ⟨parts, left, hall rfl, hsplit, hevents.symm⟩

end Acp

end Slight
