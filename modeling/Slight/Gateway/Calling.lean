import Slight.Gateway.Wire
import Slight.Support.Turns

/-!
# Slight.Gateway.Calling

The host's own client of its gateway, as the command line uses it: it says hello, waits
for the welcome, and makes one call after the other over a stream that also carries
events, pings and answers to earlier calls.

What the socket gives is a list of reads, as long as the connection lasts; a read past
its end times out.  `takes` is which of the next frames the socket takes; past its end it
takes them all.
-/

namespace Slight

namespace Gateway

open Support

/-- What a read of the socket gives; a payload is what `decode_payload` makes of a text
or binary message. -/
inductive SocketRead where
  | payload (decoded : Except ProtocolError Wire.Frame)
  | close
  /-- a ping, pong or raw frame of the WebSocket -/
  | control
  /-- the connection is closed, an error of its own -/
  | closed
  | failed

inductive ClientError where
  | webSocket
  | protocol (error : ProtocolError)
  | server (code message : String)
  | closed

structure CallOutcome where
  result : Json
  events : List Wire.GatewayEvent

structure GatewayClient where
  inbound : List SocketRead
  takes : List Bool
  sent : List Wire.Frame
  nextRequest : Nat
  welcome : ServerWelcome

def defaultWelcome : ServerWelcome where
  protocolVersion := protocolVersion
  connectionId := ""
  serverName := ""
  serverVersion := ""
  hostId := none
  capabilities := .default
  heartbeatIntervalMs := none
  resyncRequired := false
  resyncReason := none

/-- `GatewayCommand::new`, for a session and with params. -/
def newCommand (requestId command : String) (sessionId : Option String) (params : Option Json) :
    Command where
  protocolVersion := protocolVersion
  requestId := requestId
  command := command
  sessionId := sessionId
  params := params

/-- What a call makes of its acknowledgement. -/
def callOutcome (ack : Wire.GatewayAck) (events : List Wire.GatewayEvent) :
    Except ClientError CallOutcome :=
  if ack.ok then .ok { result := ack.result.getD .null, events }
  else
    match ack.error with
    | some error => .error (.server error.code error.message)
    | none => .error (.server "unknown" "request failed")

/-- What a call makes of an acknowledgement is what the server decided. -/
theorem callOutcome_wire (encode : CommandResult → Json) (ack : CommandAck)
    (events : List Wire.GatewayEvent) : callOutcome (ack.wire encode) events =
      match ack.outcome with
      | .ok result => .ok ⟨encode result, events⟩
      | .error body => .error (.server body.code body.message) := by
  obtain ⟨requestId, outcome⟩ := ack
  cases outcome <;> rfl

namespace GatewayClient

/-- Whether the frame was written, and the client after it. -/
def send (client : GatewayClient) (frame : Wire.Frame) : Bool × GatewayClient :=
  match client.takes with
  | [] => (true, { client with sent := client.sent ++ [frame] })
  | true :: takes => (true, { client with takes, sent := client.sent ++ [frame] })
  | false :: takes => (false, { client with takes })

/-- The next frame: control messages are passed over. -/
def read : List SocketRead → Except ClientError Wire.Frame × List SocketRead
  | [] => (.error .webSocket, [])
  | .payload (.ok frame) :: rest => (.ok frame, rest)
  | .payload (.error error) :: rest => (.error (.protocol error), rest)
  | .close :: rest => (.error .closed, rest)
  | .closed :: rest => (.error .closed, rest)
  | .failed :: rest => (.error .webSocket, rest)
  | .control :: rest => read rest

/-! ## the handshake -/

/-- The loop of `connect`: what comes before the welcome is dropped. -/
def awaitWelcome : List SocketRead → Except ClientError ServerWelcome × List SocketRead
  | [] => (.error .webSocket, [])
  | .payload (.ok frame) :: rest =>
      match frame with
      | .welcome welcome => (.ok welcome, rest)
      | .error error => (.error (.server error.code error.message), rest)
      | _ => awaitWelcome rest
  | .payload (.error error) :: rest => (.error (.protocol error), rest)
  | .close :: rest => (.error .closed, rest)
  | .closed :: rest => (.error .closed, rest)
  | .failed :: rest => (.error .webSocket, rest)
  | .control :: rest => awaitWelcome rest

def connect (inbound : List SocketRead) (takes : List Bool) (hello : ClientHello) :
    Except ClientError GatewayClient :=
  let client : GatewayClient :=
    { inbound, takes, sent := [], nextRequest := 1, welcome := defaultWelcome }
  match client.send (.hello hello) with
  | (false, _) => .error .webSocket
  | (true, client) =>
      match awaitWelcome client.inbound with
      | (.ok welcome, inbound) => .ok { client with welcome, inbound }
      | (.error error, _) => .error error

/-! ## calls -/

def nextRequestId (client : GatewayClient) : String × GatewayClient :=
  ("req-" ++ toString client.nextRequest, { client with nextRequest := client.nextRequest + 1 })

/-- What a call does about a frame: it ends, or goes on. -/
inductive Reaction where
  | ends (result : Except ClientError CallOutcome) (client : GatewayClient)
  | goesOn (events : List Wire.GatewayEvent) (client : GatewayClient)

/-- One round of the loop of `call`. -/
def react (requestId : String) (events : List Wire.GatewayEvent) (client : GatewayClient) :
    Wire.Frame → Reaction
  | .ack ack =>
      if ack.requestId = requestId then .ends (callOutcome ack events) client
      else .goesOn events client
  | .event event => .goesOn (events ++ [event]) client
  | .ping ping =>
      match client.send (.pong ⟨protocolVersion, ping.nonce⟩) with
      | (true, client) => .goesOn events client
      | (false, client) => .ends (.error .webSocket) client
  | .error error => .ends (.error (.server error.code error.message)) client
  | _ => .goesOn events client

/-- The loop of `call`. -/
def awaitAck (requestId : String) (events : List Wire.GatewayEvent) (client : GatewayClient) :
    List SocketRead → Except ClientError CallOutcome × GatewayClient
  | [] => (.error .webSocket, { client with inbound := [] })
  | .payload (.ok frame) :: rest =>
      match react requestId events client frame with
      | .ends result client => (result, { client with inbound := rest })
      | .goesOn events client => awaitAck requestId events client rest
  | .payload (.error error) :: rest => (.error (.protocol error), { client with inbound := rest })
  | .close :: rest => (.error .closed, { client with inbound := rest })
  | .closed :: rest => (.error .closed, { client with inbound := rest })
  | .failed :: rest => (.error .webSocket, { client with inbound := rest })
  | .control :: rest => awaitAck requestId events client rest

def call (client : GatewayClient) (command : Command) :
    Except ClientError CallOutcome × GatewayClient :=
  match client.send (.command command) with
  | (false, client) => (.error .webSocket, client)
  | (true, client) => awaitAck command.requestId [] client client.inbound

/-- The loop is one round for each frame that is read. -/
theorem awaitAck_read (requestId : String) (events : List Wire.GatewayEvent)
    (client : GatewayClient) (inbound : List SocketRead) :
    awaitAck requestId events client inbound =
      match read inbound with
      | (.error error, rest) => (.error error, { client with inbound := rest })
      | (.ok frame, rest) =>
          match react requestId events client frame with
          | .ends result client => (result, { client with inbound := rest })
          | .goesOn events client => awaitAck requestId events client rest := by
  induction inbound with
  | nil => rfl
  | cons first rest ih =>
      cases first with
      | payload decoded => cases decoded <;> rfl
      | control => exact ih
      | _ => rfl

end GatewayClient

/-- A command of the command line. -/
structure CliRequest where
  command : String
  sessionId : Option String
  params : Option Json

namespace GatewayClient

/-- The command under the next request id. -/
def invoke (client : GatewayClient) (request : CliRequest) :
    Except ClientError CallOutcome × GatewayClient :=
  let (requestId, client) := client.nextRequestId
  client.call (newCommand requestId request.command request.sessionId request.params)

/-- One command after the other. -/
def run (client : GatewayClient) :
    List CliRequest → List (Except ClientError CallOutcome) × GatewayClient
  | [] => ([], client)
  | request :: requests =>
      let (result, client) := client.invoke request
      let (results, client) := client.run requests
      (result :: results, client)

end GatewayClient

/-! ## what a call reads and writes -/

/-- A read that does not end the call: the frame is not its acknowledgement, nor an error. -/
def SocketRead.Passes (requestId : String) : SocketRead → Prop
  | .control => True
  | .payload (.ok (.ack ack)) => ack.requestId ≠ requestId
  | .payload (.ok (.error _)) => False
  | .payload (.ok _) => True
  | _ => False

def SocketRead.event? : SocketRead → Option Wire.GatewayEvent
  | .payload (.ok (.event event)) => some event
  | _ => none

/-- The answer to a ping. -/
def SocketRead.pong? : SocketRead → Option Wire.Frame
  | .payload (.ok (.ping ping)) => some (.pong ⟨protocolVersion, ping.nonce⟩)
  | _ => none

/-- The events among some reads, in order. -/
def eventsIn (reads : List SocketRead) : List Wire.GatewayEvent := reads.filterMap (·.event?)

/-- The pongs for some reads, in order. -/
def pongsIn (reads : List SocketRead) : List Wire.Frame := reads.filterMap (·.pong?)

/-- What a call makes of the read that ends it. -/
def SocketRead.verdict (events : List Wire.GatewayEvent) :
    SocketRead → Except ClientError CallOutcome
  | .payload (.ok (.ack ack)) => callOutcome ack events
  | .payload (.ok (.error error)) => .error (.server error.code error.message)
  | .payload (.error error) => .error (.protocol error)
  | .close | .closed => .error .closed
  | _ => .error .webSocket

/-- How a call ends that has read `reads` and leaves `left`, with the `events` it had
before.  `fits` says that the socket took all frames of the call. -/
inductive Ended (requestId : String) (events : List Wire.GatewayEvent)
    (reads left : List SocketRead) (fits : Prop) : Except ClientError CallOutcome → Prop
  /-- with the first read that does not pass -/
  | stopped (front : List SocketRead) (last : SocketRead) (hreads : reads = front ++ [last])
      (hfront : ∀ r ∈ front, r.Passes requestId) (hlast : ¬ last.Passes requestId)
      (hfits : fits) :
      Ended requestId events reads left fits (last.verdict (events ++ eventsIn front))
  /-- at the end of the stream -/
  | exhausted (hreads : ∀ r ∈ reads, r.Passes requestId) (hleft : left = []) (hfits : fits) :
      Ended requestId events reads left fits (.error .webSocket)
  /-- with a frame that the socket did not take -/
  | unwritten (hreads : ∀ r ∈ reads, r.Passes requestId) (hfits : ¬ fits) :
      Ended requestId events reads left fits (.error .webSocket)

section

variable {requestId : String} {events : List Wire.GatewayEvent} {reads left : List SocketRead}
  {result : Except ClientError CallOutcome}

theorem eventsIn_append (front back : List SocketRead) :
    eventsIn (front ++ back) = eventsIn front ++ eventsIn back :=
  List.filterMap_append

theorem pongsIn_append (front back : List SocketRead) :
    pongsIn (front ++ back) = pongsIn front ++ pongsIn back :=
  List.filterMap_append

/-- The call ends with the read it begins with. -/
theorem Ended.first {last : SocketRead} {fits : Prop} (h : ¬ last.Passes requestId)
    (hfits : fits) : Ended requestId events [last] left fits (last.verdict events) := by
  have hstopped : Ended requestId events [last] left fits
      (last.verdict (events ++ eventsIn [])) := .stopped [] last rfl (by simp) h hfits
  rwa [eventsIn, List.filterMap_nil, List.append_nil] at hstopped

/-- A read passes before the call ends. -/
theorem Ended.cons {r : SocketRead} {fits fits' : Prop} (hr : r.Passes requestId)
    (hfits : fits' ↔ fits) (h : Ended requestId (events ++ eventsIn [r]) reads left fits result) :
    Ended requestId events (r :: reads) left fits' result := by
  cases h with
  | stopped front last hreads hfront hlast hall =>
      have hevents : events ++ eventsIn [r] ++ eventsIn front =
          events ++ eventsIn (r :: front) := by
        rw [List.append_assoc, ← eventsIn_append]
        rfl
      rw [hevents]
      refine .stopped (r :: front) last (by rw [hreads]; rfl) ?_ hlast (hfits.mpr hall)
      exact List.forall_mem_cons.mpr ⟨hr, hfront⟩
  | exhausted hreads hleft hall =>
      exact .exhausted (List.forall_mem_cons.mpr ⟨hr, hreads⟩) hleft (hfits.mpr hall)
  | unwritten hreads hrefused =>
      exact .unwritten (List.forall_mem_cons.mpr ⟨hr, hreads⟩) fun hall => hrefused (hfits.mp hall)

/-- A call that returns has read its own acknowledgement, and the events before it. -/
theorem Ended.ok {fits : Prop} {outcome : CallOutcome}
    (h : Ended requestId [] reads left fits (.ok outcome)) :
    ∃ ack, .payload (.ok (.ack ack)) ∈ reads ∧ ack.requestId = requestId ∧ ack.ok = true ∧
      outcome.result = ack.result.getD .null ∧ outcome.events = eventsIn reads := by
  generalize hresult : (Except.ok outcome : Except ClientError CallOutcome) = result at h
  cases h with
  | exhausted => cases hresult
  | unwritten => cases hresult
  | stopped front last hreads hfront hlast =>
      rw [hreads, eventsIn_append]
      cases last with
      | close => cases hresult
      | closed => cases hresult
      | failed => cases hresult
      | control => cases hresult
      | payload decoded =>
          cases decoded with
          | error error => cases hresult
          | ok frame =>
              cases frame with
              | ack ack =>
                  have hid : ack.requestId = requestId := by
                    by_contra hother
                    exact hlast hother
                  have hout : Except.ok outcome = callOutcome ack (eventsIn front) := hresult
                  unfold callOutcome at hout
                  split at hout
                  · rename_i hack
                    cases hout
                    exact ⟨ack, by simp, hid, hack, rfl, (List.append_nil _).symm⟩
                  · split at hout <;> cases hout
              | _ => cases hresult

end

/-! ### writing -/

/-- Whether the socket takes the next frame. -/
def takeNext : List Bool → Bool × List Bool
  | [] => (true, [])
  | taken :: takes => (taken, takes)

/-- A socket that takes every frame takes these. -/
theorem takesAll_takeNext {α : Type} {takes : List Bool} (h : ∀ taken ∈ takes, taken = true)
    (frames : List α) : TakesAll takeNext takes frames := by
  induction frames generalizing takes with
  | nil => exact takesAll_nil takes
  | cons frame frames ih =>
      refine takesAll_cons.mpr ?_
      cases takes with
      | nil => exact ⟨rfl, ih h⟩
      | cons taken takes =>
          obtain ⟨htaken, hrest⟩ := List.forall_mem_cons.mp h
          exact ⟨htaken, ih hrest⟩

namespace GatewayClient

/-- A frame is written if the socket takes it. -/
theorem send_eq (client : GatewayClient) (frame : Wire.Frame) :
    client.send frame = ((takeNext client.takes).1,
      { client with
        takes := spent takeNext client.takes [frame]
        sent := client.sent ++ written takeNext client.takes [frame] }) := by
  obtain ⟨inbound, takes, sent, nextRequest, welcome⟩ := client
  rcases takes with _ | ⟨_ | _, takes⟩
  · rfl
  · simp [send, takeNext, written, spent]
  · rfl

/-- The frames were offered to the socket, one after the other. -/
structure Wrote (client client' : GatewayClient) (frames : List Wire.Frame) : Prop where
  sent : client'.sent = client.sent ++ written takeNext client.takes frames
  takes : client'.takes = spent takeNext client.takes frames

section

variable {client client' client'' : GatewayClient} {frames more : List Wire.Frame}

theorem Wrote.nil (hsent : client'.sent = client.sent) (htakes : client'.takes = client.takes) :
    client.Wrote client' [] :=
  ⟨hsent.trans (List.append_nil _).symm, htakes⟩

theorem Wrote.trans (h : client.Wrote client' frames) (h' : client'.Wrote client'' more) :
    client.Wrote client'' (frames ++ more) where
  sent := by rw [h'.sent, h.sent, h.takes, written_append, List.append_assoc]
  takes := by rw [h'.takes, h.takes, spent_append]

end

/-- What the loop of a call does from a list of reads. -/
structure Awaits (requestId : String) (events : List Wire.GatewayEvent) (client : GatewayClient)
    (inbound reads : List SocketRead) (result : Except ClientError CallOutcome)
    (client' : GatewayClient) : Prop where
  inbound : inbound = reads ++ client'.inbound
  wrote : client.Wrote client' (pongsIn reads)
  ended : Ended requestId events reads client'.inbound
    (TakesAll takeNext client.takes (pongsIn reads)) result
  stops : ¬ TakesAll takeNext client.takes (pongsIn reads) → ∀ front last, reads = front ++ [last] →
    TakesAll takeNext client.takes (pongsIn front)
  nextRequest : client'.nextRequest = client.nextRequest

section

variable {requestId : String} {events : List Wire.GatewayEvent} {client : GatewayClient}
  {r : SocketRead} {rest : List SocketRead}

/-- A read that ends the call, with nothing written. -/
theorem awaits_last (h : ¬ r.Passes requestId) :
    Awaits requestId events client (r :: rest) [r] (r.verdict events)
      { client with inbound := rest } := by
  have hpongs : pongsIn [r] = [] := by
    cases r with
    | payload decoded =>
        cases decoded with
        | error error => rfl
        | ok frame => cases frame <;> first | rfl | exact absurd trivial h
    | _ => rfl
  have hfits : TakesAll takeNext client.takes (pongsIn [r]) := by
    rw [hpongs]
    exact takesAll_nil _
  refine ⟨rfl, ?_, .first h hfits, fun hrefused => absurd hfits hrefused, rfl⟩
  rw [hpongs]
  exact .nil rfl rfl

/-- The loop goes on after a read, with a client to which the pong for it was no news. -/
theorem Awaits.cons {client₁ client' : GatewayClient} {reads : List SocketRead}
    {result : Except ClientError CallOutcome} (hr : r.Passes requestId)
    (hfits : TakesAll takeNext client.takes (pongsIn [r]))
    (hwrote : client.Wrote client₁ (pongsIn [r])) (hnext : client₁.nextRequest = client.nextRequest)
    (h : Awaits requestId (events ++ eventsIn [r]) client₁ rest reads result client') :
    Awaits requestId events client (r :: rest) (r :: reads) result client' := by
  have hsplit : ∀ reads : List SocketRead, pongsIn (r :: reads) = pongsIn [r] ++ pongsIn reads :=
    pongsIn_append [r]
  have hmore : ∀ reads : List SocketRead, TakesAll takeNext client.takes (pongsIn (r :: reads)) ↔
      TakesAll takeNext client₁.takes (pongsIn reads) := by
    intro reads
    rw [hsplit, takesAll_append, and_iff_right hfits, hwrote.takes]
  refine ⟨congrArg (r :: ·) h.inbound, ?_, h.ended.cons hr (hmore reads), ?_,
    h.nextRequest.trans hnext⟩
  · rw [hsplit]
    exact hwrote.trans h.wrote
  · intro hrefused front last hreads
    cases front with
    | nil => exact takesAll_nil _
    | cons first front =>
        obtain ⟨rfl, hrest⟩ := List.cons.inj hreads
        exact (hmore front).mpr (h.stops (fun hall => hrefused ((hmore reads).mpr hall)) front last
          hrest)

/-- A read that passes, with nothing written. -/
theorem Awaits.passed {reads : List SocketRead} {result : Except ClientError CallOutcome}
    {client' : GatewayClient} (hr : r.Passes requestId) (hpongs : pongsIn [r] = [])
    (h : Awaits requestId (events ++ eventsIn [r]) client rest reads result client') :
    Awaits requestId events client (r :: rest) (r :: reads) result client' := by
  refine h.cons hr ?_ ?_ rfl
  · rw [hpongs]
    exact takesAll_nil _
  · rw [hpongs]
    exact .nil rfl rfl

/-- A ping is answered, if the socket takes the pong. -/
theorem awaits_ping (ping : PingFrame)
    (ih : ∀ (events : List Wire.GatewayEvent) (client : GatewayClient), ∃ reads,
      Awaits requestId events client rest reads (awaitAck requestId events client rest).1
        (awaitAck requestId events client rest).2) :
    ∃ reads, Awaits requestId events client (.payload (.ok (.ping ping)) :: rest) reads
      (awaitAck requestId events client (.payload (.ok (.ping ping)) :: rest)).1
      (awaitAck requestId events client (.payload (.ok (.ping ping)) :: rest)).2 := by
  have hsend := client.send_eq (.pong ⟨protocolVersion, ping.nonce⟩)
  have hpongs : pongsIn [.payload (.ok (.ping ping))] =
      [.pong ⟨protocolVersion, ping.nonce⟩] := rfl
  by_cases htaken : (takeNext client.takes).1 = true
  · rw [htaken] at hsend
    obtain ⟨reads, hreads⟩ := ih (events ++ eventsIn [.payload (.ok (.ping ping))])
      (client.send (.pong ⟨protocolVersion, ping.nonce⟩)).2
    have hgoes : awaitAck requestId events client (.payload (.ok (.ping ping)) :: rest) =
        awaitAck requestId (events ++ eventsIn [.payload (.ok (.ping ping))])
          (client.send (.pong ⟨protocolVersion, ping.nonce⟩)).2 rest := by
      have hnone : events ++ eventsIn [.payload (.ok (.ping ping))] = events :=
        List.append_nil events
      rw [hnone, awaitAck, react, hsend]
    rw [hgoes]
    refine ⟨_, hreads.cons trivial ?_ ?_ ?_⟩
    · rw [hpongs]
      exact takesAll_cons.mpr ⟨htaken, takesAll_nil _⟩
    · rw [hpongs, hsend]
      exact ⟨rfl, rfl⟩
    · rw [hsend]
  · rw [Bool.not_eq_true] at htaken
    rw [htaken] at hsend
    have hrefused : ¬ TakesAll takeNext client.takes (pongsIn [.payload (.ok (.ping ping))]) := by
      rw [hpongs, takesAll_cons, htaken]
      exact fun hall => Bool.false_ne_true hall.1
    rw [awaitAck, react, hsend]
    refine ⟨[.payload (.ok (.ping ping))], rfl, ⟨rfl, rfl⟩,
      .unwritten (List.forall_mem_singleton.mpr trivial) hrefused, fun _ front last hreads => ?_,
      rfl⟩
    have hnil : front = [] := by simpa using congrArg List.length hreads
    rw [hnil]
    exact takesAll_nil _

/-- The loop of a call reads on to the first read that ends it. -/
theorem awaits (requestId : String) (events : List Wire.GatewayEvent) (client : GatewayClient)
    (inbound : List SocketRead) :
    ∃ reads, Awaits requestId events client inbound reads
      (awaitAck requestId events client inbound).1
      (awaitAck requestId events client inbound).2 := by
  induction inbound generalizing events client with
  | nil =>
      exact ⟨[], rfl, .nil rfl rfl, .exhausted (by simp) rfl (takesAll_nil _),
        fun _ front last hreads => by simp at hreads, rfl⟩
  | cons r rest ih =>
      have hpass (frame : Wire.Frame) (hr : (SocketRead.payload (.ok frame)).Passes requestId)
          (hpongs : pongsIn [.payload (.ok frame)] = [])
          (hreact : react requestId events client frame =
            .goesOn (events ++ eventsIn [.payload (.ok frame)]) client) :
          ∃ reads, Awaits requestId events client (.payload (.ok frame) :: rest) reads
            (awaitAck requestId events client (.payload (.ok frame) :: rest)).1
            (awaitAck requestId events client (.payload (.ok frame) :: rest)).2 := by
        obtain ⟨reads, hreads⟩ := ih (events ++ eventsIn [.payload (.ok frame)]) client
        have hgoes : awaitAck requestId events client (.payload (.ok frame) :: rest) =
            awaitAck requestId (events ++ eventsIn [.payload (.ok frame)]) client rest := by
          simp [awaitAck, hreact]
        rw [hgoes]
        exact ⟨_, hreads.passed hr hpongs⟩
      have hsame : Reaction.goesOn events client = .goesOn (events ++ []) client := by
        rw [List.append_nil]
      cases r with
      | close => exact ⟨_, awaits_last id⟩
      | closed => exact ⟨_, awaits_last id⟩
      | failed => exact ⟨_, awaits_last id⟩
      | control =>
          obtain ⟨reads, hreads⟩ := ih (events ++ eventsIn [.control]) client
          have hevents : events ++ eventsIn [.control] = events := List.append_nil events
          have hgoes : awaitAck requestId events client (.control :: rest) =
              awaitAck requestId (events ++ eventsIn [.control]) client rest := by
            rw [hevents]
            rfl
          rw [hgoes]
          exact ⟨_, hreads.passed trivial rfl⟩
      | payload decoded =>
          cases decoded with
          | error error => exact ⟨_, awaits_last id⟩
          | ok frame =>
              cases frame with
              | ack ack =>
                  by_cases hown : ack.requestId = requestId
                  · have hends :
                        awaitAck requestId events client (.payload (.ok (.ack ack)) :: rest) =
                          (callOutcome ack events, { client with inbound := rest }) := by
                      simp [awaitAck, react, hown]
                    rw [hends]
                    exact ⟨_, awaits_last fun hpasses => hpasses hown⟩
                  · exact hpass _ hown rfl ((if_neg hown).trans hsame)
              | event event => exact hpass _ trivial rfl rfl
              | error error => exact ⟨_, awaits_last id⟩
              | ping ping => exact awaits_ping ping ih
              | hello _ => exact hpass _ trivial rfl hsame
              | welcome _ => exact hpass _ trivial rfl hsame
              | command _ => exact hpass _ trivial rfl hsame
              | pong _ => exact hpass _ trivial rfl hsame
              | resyncRequired _ => exact hpass _ trivial rfl hsame

end

end GatewayClient

/-! ## one call after the other -/

/-- A call that was made. -/
structure CliCall where
  requestId : String
  request : CliRequest
  reads : List SocketRead
  result : Except ClientError CallOutcome

namespace CliCall

def command (call : CliCall) : Command :=
  newCommand call.requestId call.request.command call.request.sessionId call.request.params

/-- The frames the call has for the socket. -/
def frames (call : CliCall) : List Wire.Frame := .command call.command :: pongsIn call.reads

/-- The call was made by `client` and left `client'`, with `left` yet to be read.  After a
frame that the socket does not take it reads nothing more. -/
structure Made (client : GatewayClient) (call : CliCall) (left : List SocketRead)
    (client' : GatewayClient) : Prop where
  run : client.invoke call.request = (call.result, client')
  requestId : call.requestId = "req-" ++ toString client.nextRequest
  inbound : client'.inbound = left
  wrote : client.Wrote client' call.frames
  ended : Ended call.requestId [] call.reads left (TakesAll takeNext client.takes call.frames)
    call.result
  stops : ¬ TakesAll takeNext client.takes call.frames →
    ∀ front last, call.reads = front ++ [last] →
      TakesAll takeNext client.takes (.command call.command :: pongsIn front)
  nextRequest : client'.nextRequest = client.nextRequest + 1

end CliCall

namespace GatewayClient

/-- **One call** reads its part of the stream. -/
theorem invoke_made (client : GatewayClient) (request : CliRequest) :
    ∃ call : CliCall, call.request = request ∧ call.result = (client.invoke request).1 ∧
      client.inbound = call.reads ++ (client.invoke request).2.inbound ∧
      call.Made client (client.invoke request).2.inbound (client.invoke request).2 := by
  let requestId := "req-" ++ toString client.nextRequest
  let command := newCommand requestId request.command request.sessionId request.params
  let next : GatewayClient := { client with nextRequest := client.nextRequest + 1 }
  have hinvoke : client.invoke request = next.call command := rfl
  have hsend := next.send_eq (.command command)
  by_cases htaken : (takeNext client.takes).1 = true
  · -- the client when it begins to wait
    generalize hwaiting : ({ next with
      takes := spent takeNext next.takes [Wire.Frame.command command]
      sent := next.sent ++ written takeNext next.takes [Wire.Frame.command command] } :
        GatewayClient) = waiting at hsend
    have hbegun : client.Wrote waiting [.command command] := by
      rw [← hwaiting]
      exact ⟨rfl, rfl⟩
    have hrun : client.invoke request = awaitAck requestId [] waiting waiting.inbound := by
      have htaken' : (takeNext next.takes).1 = true := htaken
      rw [hinvoke, call, hsend, htaken']
      rfl
    have hfits : ∀ reads : List SocketRead,
        TakesAll takeNext client.takes (.command command :: pongsIn reads) ↔
          TakesAll takeNext waiting.takes (pongsIn reads) := by
      intro reads
      rw [takesAll_cons, and_iff_right htaken, hbegun.takes]
      rfl
    obtain ⟨reads, hawaits⟩ := awaits requestId [] waiting waiting.inbound
    have hinbound : client.inbound = waiting.inbound := by rw [← hwaiting]
    have hnext : waiting.nextRequest = client.nextRequest + 1 := by rw [← hwaiting]
    have hended := hawaits.ended
    rw [← propext (hfits reads)] at hended
    rw [hrun, hinbound, ← hrun]
    refine ⟨⟨requestId, request, reads, (client.invoke request).1⟩, rfl, rfl, ?_, {
        run := rfl
        requestId := rfl
        inbound := rfl
        wrote := ?_
        ended := ?_
        stops := fun hrefused front last hreads => (hfits front).mpr
          (hawaits.stops (fun hall => hrefused ((hfits reads).mpr hall)) front last hreads)
        nextRequest := ?_ }⟩
    · rw [hrun]
      exact hawaits.inbound
    · rw [hrun]
      exact hbegun.trans hawaits.wrote
    · rw [hrun]
      exact hended
    · rw [hrun, ← hnext]
      exact hawaits.nextRequest
  · have hrun : client.invoke request = (.error .webSocket, (next.send (.command command)).2) := by
      rw [Bool.not_eq_true] at htaken
      have htaken' : (takeNext next.takes).1 = false := htaken
      rw [hinvoke, call, hsend, htaken']
    have hrefused : ¬ TakesAll takeNext client.takes [Wire.Frame.command command] := by
      rw [takesAll_cons]
      exact fun hall => htaken hall.1
    rw [hrun, hsend]
    refine ⟨⟨requestId, request, [], .error .webSocket⟩, rfl, rfl, rfl, {
        run := hrun.trans (by rw [hsend])
        requestId := rfl
        inbound := rfl
        wrote := ⟨rfl, rfl⟩
        ended := .unwritten (by simp) hrefused
        stops := fun _ front last hreads => by simp at hreads
        nextRequest := rfl }⟩

end GatewayClient

/-- The ids of `count` calls, from the number `first` on. -/
def requestIds (first count : Nat) : List String :=
  (List.range' first count).map fun n => "req-" ++ toString n

theorem nodup_requestIds (first count : Nat) : (requestIds first count).Nodup := by
  refine List.Nodup.map (fun m n h => ?_) List.nodup_range'
  exact Nat.repr_injective ((String.append_right_inj "req-").mp h)

namespace GatewayClient

/-- The calls of a run: they share out the stream. -/
structure Calls (client : GatewayClient) (requests : List CliRequest) (calls : List CliCall)
    (client' : GatewayClient) : Prop where
  asked : calls.map (·.request) = requests
  ids : calls.map (·.requestId) = requestIds client.nextRequest requests.length
  shares : Shares CliCall.reads CliCall.Made client calls client.inbound client'.inbound client'

theorem calls_run (client : GatewayClient) (requests : List CliRequest) :
    ∃ calls, Calls client requests calls (client.run requests).2 ∧
      (client.run requests).1 = calls.map (·.result) := by
  induction requests generalizing client with
  | nil => exact ⟨[], ⟨rfl, rfl, .nil⟩, rfl⟩
  | cons request requests ih =>
      obtain ⟨call, hsame, hresult, hinbound, hmade⟩ := client.invoke_made request
      obtain ⟨calls, hcalls, hresults⟩ := ih (client.invoke request).2
      have hrun : client.run (request :: requests) =
          ((client.invoke request).1 :: ((client.invoke request).2.run requests).1,
            ((client.invoke request).2.run requests).2) := rfl
      rw [hrun]
      refine ⟨call :: calls, ⟨?_, ?_, ?_⟩, ?_⟩
      · rw [List.map_cons, hsame, hcalls.asked]
      · rw [List.map_cons, hcalls.ids, hmade.requestId, hmade.nextRequest]
        rfl
      · rw [hinbound]
        exact .cons hmade hcalls.shares
      · rw [List.map_cons, hresult, ← hresults]

end GatewayClient

/-! ## a whole session -/

/-- A read that does not end the wait for the welcome. -/
def SocketRead.isIdle : SocketRead → Bool
  | .control => true
  | .payload (.ok (.welcome _)) | .payload (.ok (.error _)) => false
  | .payload (.ok _) => true
  | _ => false

namespace GatewayClient

theorem awaitWelcome_ok {inbound rest : List SocketRead} {welcome : ServerWelcome}
    (h : awaitWelcome inbound = (.ok welcome, rest)) :
    ∃ front, inbound = front ++ .payload (.ok (.welcome welcome)) :: rest ∧
      ∀ r ∈ front, r.isIdle = true := by
  induction inbound with
  | nil => cases h
  | cons r inbound ih =>
      have hidle (hr : r.isIdle = true)
          (hgoes : awaitWelcome (r :: inbound) = awaitWelcome inbound) :
          ∃ front, r :: inbound = front ++ .payload (.ok (.welcome welcome)) :: rest ∧
            ∀ r ∈ front, r.isIdle = true := by
        obtain ⟨front, hfront, hall⟩ := ih (hgoes.symm.trans h)
        exact ⟨r :: front, congrArg (r :: ·) hfront, List.forall_mem_cons.mpr ⟨hr, hall⟩⟩
      cases r with
      | control => exact hidle rfl rfl
      | payload decoded =>
          cases decoded with
          | error error => cases h
          | ok frame =>
              cases frame with
              | welcome welcome =>
                  cases h
                  exact ⟨[], rfl, by simp⟩
              | error error => cases h
              | _ => exact hidle rfl rfl
      | _ => cases h

/-- What the handshake leaves. -/
structure Opened (inbound : List SocketRead) (takes : List Bool) (hello : ClientHello)
    (client : GatewayClient) : Prop where
  inbound : ∃ front, inbound = front ++ .payload (.ok (.welcome client.welcome)) :: client.inbound ∧
    ∀ r ∈ front, r.isIdle = true
  sent : client.sent = [.hello hello]
  takes : client.takes = takes.tail
  nextRequest : client.nextRequest = 1

theorem opened_of_connect {inbound : List SocketRead} {takes : List Bool}
    {hello : ClientHello} {client : GatewayClient}
    (h : connect inbound takes hello = .ok client) : Opened inbound takes hello client := by
  unfold connect at h
  dsimp only at h
  split at h
  · cases h
  · rename_i greeted hsend
    have hgreeted : greeted.inbound = inbound ∧ greeted.sent = [.hello hello] ∧
        greeted.nextRequest = 1 ∧ greeted.takes = takes.tail := by
      unfold send at hsend
      dsimp only at hsend
      split at hsend <;> cases hsend <;> exact ⟨rfl, rfl, rfl, rfl⟩
    split at h
    · rename_i welcome rest hawait
      cases h
      rw [hgreeted.1] at hawait
      exact ⟨awaitWelcome_ok hawait, hgreeted.2.1, hgreeted.2.2.2, hgreeted.2.2.1⟩
    · cases h

end GatewayClient

end Gateway

end Slight
