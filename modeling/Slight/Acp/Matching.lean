import Slight.Acp.Answering
import Slight.Support.Turns

/-!
# Slight.Acp.Matching

Which response a request gets.  A call reads messages up to the first response
with its own id, up to the end of the stream, or up to a request whose reply the
agent does not take (`waitRounds_settles`); the messages it reads, and no others,
are served.  A sequence of calls shares the stream out among its calls
(`responses_matched`).

What a call writes is its request and the replies to what it reads, and the agent
takes as much of that as it has room for.  So a call fails to write exactly if that
is more than there is room for.
-/

namespace Slight

namespace Acp

open Support Program

variable {schema : Schema} {H : Type}

/-! ## streams of valid frames -/

/-- Lines that are blank or valid frames, and the messages of the frames. -/
inductive Frames (schema : Schema) : List String → List (AcpMessage schema) → Prop
  | nil : Frames schema [] []
  | blank {line : String} {lines : List String} {messages : List (AcpMessage schema)}
      (short : line.utf8ByteSize ≤ maxFrameBytes) (blank : (trimmed line).isEmpty = true)
      (rest : Frames schema lines messages) : Frames schema (line :: lines) messages
  | frame {line : String} {lines : List String} {message : AcpMessage schema}
      {messages : List (AcpMessage schema)} (short : line.utf8ByteSize ≤ maxFrameBytes)
      (full : (trimmed line).isEmpty = false)
      (valid : classifyInbound schema (trimmed line) = .ok message)
      (rest : Frames schema lines messages) : Frames schema (line :: lines) (message :: messages)

/-- What is read of a stream of valid frames: the next message, or that there is
none. -/
theorem Frames.inbound {lines : List String} {messages : List (AcpMessage schema)}
    (h : Frames schema lines messages) :
    (messages = [] ∧ inbound schema (readFrame lines).1 = .ok none ∧ (readFrame lines).2 = []) ∨
      ∃ message rest, messages = message :: rest ∧
        inbound schema (readFrame lines).1 = .ok (some message) ∧
        Frames schema (readFrame lines).2 rest ∧ (readFrame lines).2.length < lines.length := by
  induction h with
  | nil => exact .inl ⟨rfl, rfl, rfl⟩
  | @blank line lines messages hshort hblank _ ih =>
      have hread : readFrame (line :: lines) = readFrame lines := by
        rw [readFrame, if_neg (by omega), if_pos hblank]
      rw [hread, List.length_cons]
      rcases ih with hend | ⟨message, rest, hmessages, hnext, hframes, hlength⟩
      · exact .inl hend
      · exact .inr ⟨message, rest, hmessages, hnext, hframes, by omega⟩
  | @frame line lines message messages hshort hfull hvalid hrest _ =>
      have hread : readFrame (line :: lines) = (.ok (some (trimmed line)), lines) := by
        rw [readFrame, if_neg (by omega), if_neg (by simp [hfull])]
      refine .inr ⟨message, messages, rfl, ?_, ?_, ?_⟩
      · rw [hread]
        simp only [Acp.inbound, hvalid]
      · rw [hread]
        exact hrest
      · rw [hread, List.length_cons]
        exact Nat.lt_succ_self _

/-! ## serving messages -/

namespace AcpMessage

def notification? : AcpMessage schema → Option (AgentToClientNotification schema)
  | notification update => some update
  | _ => none

/-- A response that is not the one to the request `id`. -/
def orphan? (id : RequestId) : AcpMessage schema → Option (RequestId × Except schema.Error Json)
  | response got outcome => if got = id then none else some (got, outcome)
  | _ => none

end AcpMessage

/-- None of the messages is the response to the request. -/
def Unanswered (id : RequestId) (messages : List (AcpMessage schema)) : Prop :=
  ∀ outcome, .response id outcome ∉ messages

theorem Unanswered.cons {id : RequestId} {message : AcpMessage schema}
    {messages : List (AcpMessage schema)} (hmessage : ∀ outcome, message ≠ .response id outcome)
    (h : Unanswered id messages) : Unanswered id (message :: messages) := by
  intro outcome hmem
  rcases List.mem_cons.mp hmem with heq | hmem
  · exact hmessage outcome heq.symm
  · exact h outcome hmem

/-! ## writing -/

/-- Whether an agent with some room takes the next frame. -/
def takeFrame : Option Nat → Bool × Option Nat
  | none => (true, none)
  | some 0 => (false, some 0)
  | some (room + 1) => (true, some room)

/-- An agent that takes everything takes these frames. -/
theorem takesAll_takeFrame_none {α : Type} (frames : List α) : TakesAll takeFrame none frames := by
  induction frames with
  | nil => exact takesAll_nil none
  | cons frame frames ih => exact takesAll_cons.mpr ⟨rfl, ih⟩

theorem spent_takeFrame_none {α : Type} (frames : List α) : spent takeFrame none frames = none := by
  induction frames with
  | nil => rfl
  | cons frame frames ih => exact ih

/-- A frame is written if the agent takes it. -/
theorem exec_sendRaw_taken (client : AcpClient schema H) (frame : Outbound schema) :
    (AcpClient.sendRaw frame).exec client =
      (if (takeFrame client.transport.room).1 then .ok () else .error (.wire .io),
        { client with
          transport := { client.transport with
            sent := client.transport.sent ++ written takeFrame client.transport.room [frame]
            room := spent takeFrame client.transport.room [frame] } }) := by
  obtain ⟨⟨lines, sent, room⟩, handler, nextId, notifications, deferred, orphans, history⟩ := client
  rcases room with _ | _ | room
  · rfl
  · simp [AcpClient.sendRaw, exec_bind, takeFrame, written, spent]
  · rfl

/-- The frames were offered to the agent, one after the other. -/
structure Wrote (client client' : AcpClient schema H) (frames : List (Outbound schema)) : Prop where
  sent : client'.transport.sent =
    client.transport.sent ++ written takeFrame client.transport.room frames
  room : client'.transport.room = spent takeFrame client.transport.room frames

section

variable {client client' client'' : AcpClient schema H} {frames frames' : List (Outbound schema)}

theorem Wrote.nil (h : client'.transport.sent = client.transport.sent)
    (hroom : client'.transport.room = client.transport.room) : Wrote client client' [] :=
  ⟨h.trans (List.append_nil _).symm, hroom⟩

theorem Wrote.trans (h : Wrote client client' frames) (h' : Wrote client' client'' frames') :
    Wrote client client'' (frames ++ frames') where
  sent := by rw [h'.sent, h.sent, h.room, written_append, List.append_assoc]
  room := by rw [h'.room, h.room, spent_append]

end

section Serving

variable [ClientHandler schema H]

/-- The handler after it was given a message. -/
def handled (handler : H) : AcpMessage schema → H
  | .request id request => (ClientHandler.handleRequest handler id request).2
  | .notification notification => ClientHandler.handleNotification handler notification
  | .response .. => handler

/-- The reply to a request that is answered when it is read. -/
def reply? (handler : H) : AcpMessage schema → Option (Outbound schema)
  | .request id request =>
      match (ClientHandler.handleRequest handler id request).1 with
      | .respond outcome => some (.reply id outcome)
      | .defer => none
  | .notification _ | .response .. => none

/-- The replies to some messages, in order. -/
def replies (handler : H) : List (AcpMessage schema) → List (Outbound schema)
  | [] => []
  | message :: messages =>
      (reply? handler message).toList ++ replies (handled handler message) messages

theorem replies_append (handler : H) (front back : List (AcpMessage schema)) :
    replies handler (front ++ back) =
      replies handler front ++ replies (front.foldl handled handler) back := by
  induction front generalizing handler with
  | nil => rfl
  | cons message front ih =>
      rw [List.cons_append, replies, ih, replies, List.append_assoc, List.foldl_cons]

/-- What serving some messages does to the client. -/
structure Took (client client' : AcpClient schema H) (read : List (AcpMessage schema))
    (orphans : List (RequestId × Except schema.Error Json)) : Prop where
  handler : client'.handler = read.foldl handled client.handler
  notifications : client'.notifications =
    client.notifications ++ read.filterMap AcpMessage.notification?
  orphans : client'.orphanResponses = client.orphanResponses ++ orphans
  nextId : client'.nextId = client.nextId
  wrote : Wrote client client' (replies client.handler read)

namespace Took

variable {client client' client'' : AcpClient schema H} {read read' : List (AcpMessage schema)}
  {orphans orphans' : List (RequestId × Except schema.Error Json)}

theorem refl (client : AcpClient schema H) : Took client client [] [] :=
  ⟨rfl, (List.append_nil _).symm, (List.append_nil _).symm, rfl, .nil rfl rfl⟩

theorem trans (h : Took client client' read orphans) (h' : Took client' client'' read' orphans') :
    Took client client'' (read ++ read') (orphans ++ orphans') where
  handler := by rw [h'.handler, h.handler, List.foldl_append]
  notifications := by
    rw [h'.notifications, h.notifications, List.filterMap_append, List.append_assoc]
  orphans := by rw [h'.orphans, h.orphans, List.append_assoc]
  nextId := h'.nextId.trans h.nextId
  wrote := by
    rw [replies_append, ← h.handler]
    exact h.wrote.trans h'.wrote

end Took

variable {client client' : AcpClient schema H}

/-- A request is handled; the call goes on unless the reply cannot be written. -/
theorem serve_took {id : RequestId} {request : AgentToClientRequest schema}
    {result : Except (ClientError schema) Unit}
    (h : (AcpClient.serve id request).exec client = (result, client')) :
    ((result = .ok () ∧
          TakesAll takeFrame client.transport.room
            (replies client.handler [.request id request])) ∨
        (result = .error (.wire .io) ∧
          ¬ TakesAll takeFrame client.transport.room
            (replies client.handler [.request id request]))) ∧
      Took client client' [.request id request] [] ∧
      client'.transport.lines = client.transport.lines := by
  unfold AcpClient.serve at h
  rw [exec_bind, exec_get] at h
  dsimp only at h
  have hhandler : [AcpMessage.request id request].foldl handled client.handler =
      (ClientHandler.handleRequest client.handler id request).2 := rfl
  have hreplies : replies client.handler [.request id request] =
      (reply? client.handler (.request id request)).toList := List.append_nil _
  rw [reply?] at hreplies
  rcases houtcome : ClientHandler.handleRequest client.handler id request with ⟨outcome, handler⟩
  rw [houtcome] at h hhandler hreplies
  dsimp only at h hreplies
  rw [exec_bind, exec_set] at h
  dsimp only at h
  cases outcome with
  | respond outcome =>
      dsimp only at h hreplies
      rw [exec_bind, exec_sendRaw_taken] at h
      rw [hreplies, Option.toList_some, takesAll_cons, and_iff_left (takesAll_nil _)]
      have hwrote : ∀ served : AcpClient schema H,
          served.transport.sent = client.transport.sent ++
            written takeFrame client.transport.room [Outbound.reply id outcome] →
          served.transport.room =
            spent takeFrame client.transport.room [Outbound.reply id outcome] →
          Wrote client served (replies client.handler [.request id request]) := by
        intro served hsent hroom
        rw [hreplies]
        exact ⟨hsent, hroom⟩
      dsimp only at h
      by_cases htaken : (takeFrame client.transport.room).1 = true
      · rw [if_pos htaken] at h
        cases h
        exact ⟨.inl ⟨rfl, htaken⟩, ⟨hhandler.symm, (List.append_nil _).symm,
          (List.append_nil _).symm, rfl, hwrote _ rfl rfl⟩, rfl⟩
      · rw [if_neg htaken] at h
        cases h
        exact ⟨.inr ⟨rfl, htaken⟩, ⟨hhandler.symm, (List.append_nil _).symm,
          (List.append_nil _).symm, rfl, hwrote _ rfl rfl⟩, rfl⟩
  | defer =>
      cases h
      have hnone : replies client.handler [.request id request] = [] := hreplies
      rw [hnone]
      refine ⟨.inl ⟨rfl, takesAll_nil _⟩, ⟨hhandler.symm, (List.append_nil _).symm,
        (List.append_nil _).symm, rfl, ?_⟩, rfl⟩
      rw [hnone]
      exact .nil rfl rfl

/-- `next_message` serves the next message of the stream. -/
theorem nextMessage_took {messages : List (AcpMessage schema)}
    (hframes : Frames schema client.transport.lines messages)
    {result : Except (ClientError schema) (Option (AcpMessage schema))}
    (h : AcpClient.nextMessage.exec client = (result, client')) :
    (messages = [] ∧ result = .ok none ∧ Took client client' [] [] ∧
        Frames schema client'.transport.lines []) ∨
      ∃ message rest, messages = message :: rest ∧ Took client client' [message] [] ∧
        Frames schema client'.transport.lines rest ∧
        client'.transport.lines.length < client.transport.lines.length ∧
        ((result = .ok (some message) ∧
            TakesAll takeFrame client.transport.room (replies client.handler [message])) ∨
          (result = .error (.wire .io) ∧ (∃ id request, message = .request id request) ∧
            ¬ TakesAll takeFrame client.transport.room (replies client.handler [message]))) := by
  have hexec := exec_recvInbound client
  unfold AcpClient.nextMessage at h
  rw [exec_bind, hexec] at h
  rcases hframes.inbound with ⟨hnil, hinbound, hend⟩ |
    ⟨message, rest, hmessages, hinbound, hrest, hlength⟩
  · rw [hinbound] at h
    cases h
    refine .inl ⟨hnil, rfl, ⟨rfl, (List.append_nil _).symm, (List.append_nil _).symm, rfl,
      .nil rfl rfl⟩, ?_⟩
    show Frames schema (readFrame client.transport.lines).2 []
    rw [hend]
    exact .nil
  · rw [hinbound] at h
    refine .inr ⟨message, rest, hmessages, ?_⟩
    cases message with
    | request id request =>
        dsimp only at h
        rw [exec_bind] at h
        rcases hserve : (AcpClient.serve id request).exec { client with
            transport := { client.transport with
              lines := (readFrame client.transport.lines).2 } } with ⟨outcome, served⟩
        obtain ⟨hresult, htook, hlines⟩ := serve_took hserve
        have htook' : Took client served [.request id request] [] :=
          ⟨htook.handler, htook.notifications, htook.orphans, htook.nextId,
            ⟨htook.wrote.sent, htook.wrote.room⟩⟩
        have hrest' : Frames schema served.transport.lines rest := by
          rw [hlines]
          exact hrest
        have hlength' : served.transport.lines.length < client.transport.lines.length := by
          rw [hlines]
          exact hlength
        rw [hserve] at h
        rcases hresult with ⟨rfl, hfits⟩ | ⟨rfl, hrefused⟩
        · cases h
          exact ⟨htook', hrest', hlength', .inl ⟨rfl, hfits⟩⟩
        · cases h
          exact ⟨htook', hrest', hlength', .inr ⟨rfl, ⟨id, request, rfl⟩, hrefused⟩⟩
    | notification notification =>
        cases h
        exact ⟨⟨rfl, rfl, (List.append_nil _).symm, rfl, .nil rfl rfl⟩, hrest, hlength,
          .inl ⟨rfl, takesAll_nil _⟩⟩
    | response id outcome =>
        cases h
        exact ⟨⟨rfl, (List.append_nil _).symm, (List.append_nil _).symm, rfl, .nil rfl rfl⟩,
          hrest, hlength, .inl ⟨rfl, takesAll_nil _⟩⟩

/-! ## waiting -/

/-- How a wait for the response to `id` ends that has read `read` and left `left`: with
the response, at the end of the stream, or with the last message read, whose reply is
the first that the agent does not take. -/
inductive Settles (id : RequestId) (room : Option Nat) (handler : H)
    (read left : List (AcpMessage schema)) : Except (ClientError schema) Json → Prop
  | answered {front : List (AcpMessage schema)} {outcome : Except schema.Error Json}
      (hread : read = front ++ [.response id outcome]) (first : Unanswered id front)
      (fits : TakesAll takeFrame room (replies handler read)) :
      Settles id room handler read left (outcome.mapError .protocol)
  | ended (none : Unanswered id read) (last : left = [])
      (fits : TakesAll takeFrame room (replies handler read)) :
      Settles id room handler read left (.error .closed)
  | unwritten {front : List (AcpMessage schema)} {last : AcpMessage schema}
      (hread : read = front ++ [last]) (none : Unanswered id read)
      (fits : TakesAll takeFrame room (replies handler front))
      (refused : ¬ TakesAll takeFrame room (replies handler read)) :
      Settles id room handler read left (.error (.wire .io))

/-- A message that is not the response may come before, if its reply is taken. -/
theorem Settles.cons {id : RequestId} {room room' : Option Nat} {handler : H}
    {message : AcpMessage schema} {read left : List (AcpMessage schema)}
    {result : Except (ClientError schema) Json}
    (hmessage : ∀ outcome, message ≠ .response id outcome)
    (hfits : TakesAll takeFrame room (replies handler [message]))
    (hroom : room' = spent takeFrame room (replies handler [message]))
    (h : Settles id room' (handled handler message) read left result) :
    Settles id room handler (message :: read) left result := by
  have hmore : ∀ messages : List (AcpMessage schema),
      TakesAll takeFrame room (replies handler (message :: messages)) ↔
        TakesAll takeFrame room' (replies (handled handler message) messages) := by
    intro messages
    have hsplit : replies handler (message :: messages) =
        replies handler [message] ++ replies (handled handler message) messages :=
      replies_append handler [message] messages
    rw [hsplit, takesAll_append, and_iff_right hfits, hroom]
  cases h with
  | answered hread hfirst hrest =>
      exact .answered (by rw [hread, List.cons_append]) (hfirst.cons hmessage) ((hmore _).mpr hrest)
  | ended hnone hlast hrest => exact .ended (hnone.cons hmessage) hlast ((hmore _).mpr hrest)
  | unwritten hread hnone hfront hrefused =>
      exact .unwritten (by rw [hread, List.cons_append]) (hnone.cons hmessage)
        ((hmore _).mpr hfront) fun hall => hrefused ((hmore _).mp hall)

/-- A wait reads nothing after a message whose reply is not taken. -/
theorem Settles.stops {id : RequestId} {room : Option Nat} {handler : H}
    {read left : List (AcpMessage schema)} {result : Except (ClientError schema) Json}
    (h : Settles id room handler read left result)
    (hrefused : ¬ TakesAll takeFrame room (replies handler read)) {front : List (AcpMessage schema)}
    {last : AcpMessage schema} (hread : read = front ++ [last]) :
    TakesAll takeFrame room (replies handler front) := by
  cases h with
  | answered _ _ hall => exact absurd hall hrefused
  | ended _ _ hall => exact absurd hall hrefused
  | unwritten hlast _ hfront _ =>
      obtain ⟨hsame, -⟩ := List.append_inj' (hread.symm.trans hlast) rfl
      rw [hsame]
      exact hfront

/-- **Wait**: it serves what it reads, and stops at the first response with its id. -/
theorem waitRounds_settles (id : RequestId) {rounds : Nat} {messages : List (AcpMessage schema)}
    (hframes : Frames schema client.transport.lines messages)
    (hrounds : client.transport.lines.length < rounds)
    {result : Except (ClientError schema) Json}
    (h : (AcpClient.waitRounds id rounds).exec client = (result, client')) :
    ∃ read left, messages = read ++ left ∧ Frames schema client'.transport.lines left ∧
      Took client client' read (read.filterMap (·.orphan? id)) ∧
      Settles id client.transport.room client.handler read left result := by
  induction rounds generalizing client messages with
  | zero => omega
  | succ rounds ih =>
      rw [AcpClient.waitRounds, exec_bind] at h
      rcases hnext : AcpClient.nextMessage.exec client with ⟨outcome, client₁⟩
      rw [hnext] at h
      rcases nextMessage_took hframes hnext with ⟨rfl, rfl, htook, hend⟩ |
        ⟨message, rest, rfl, htook, hrest, hlength,
          ⟨rfl, hfits⟩ | ⟨rfl, ⟨id', request, rfl⟩, hrefused⟩⟩
      · cases h
        exact ⟨[], [], rfl, hend, htook, .ended (fun _ => List.not_mem_nil) rfl (takesAll_nil _)⟩
      · -- a message was served: the wait ends with it, or goes on after it
        have hgo : ∀ client₂ : AcpClient schema H, client₂.transport = client₁.transport →
            client₂.handler = client₁.handler →
            Took client client₂ [message] ([message].filterMap (·.orphan? id)) →
            (∀ outcome, message ≠ .response id outcome) →
            (AcpClient.waitRounds id rounds).exec client₂ = (result, client') →
              ∃ read left, message :: rest = read ++ left ∧
                Frames schema client'.transport.lines left ∧
                Took client client' read (read.filterMap (·.orphan? id)) ∧
                Settles id client.transport.room client.handler read left result := by
          intro client₂ htransport hhandler htook₂ hother hwait
          obtain ⟨read, left, hsplit, hleft, htook', hsettles⟩ :=
            ih (by rw [htransport]; exact hrest) (by rw [htransport]; omega) hwait
          have hhandler' : client₂.handler = handled client.handler message :=
            hhandler.trans htook.handler
          rw [hhandler'] at hsettles
          refine ⟨message :: read, left, ?_, hleft, ?_,
            hsettles.cons hother hfits htook₂.wrote.room⟩
          · rw [hsplit, List.cons_append]
          · have hboth := htook₂.trans htook'
            rw [← List.filterMap_append, List.singleton_append] at hboth
            exact hboth
        cases message with
        | request id' request =>
            refine hgo client₁ rfl rfl htook (fun outcome heq => ?_) h
            contradiction
        | notification notification =>
            refine hgo client₁ rfl rfl htook (fun outcome heq => ?_) h
            contradiction
        | response got outcome =>
            dsimp only at h
            by_cases hgot : got = id
            · subst hgot
              rw [if_pos rfl] at h
              have horphans : [AcpMessage.response got outcome].filterMap (·.orphan? got) = [] :=
                List.filterMap_cons_none (if_pos rfl)
              have htook' := htook
              rw [← horphans] at htook'
              have hfirst : Unanswered got ([] : List (AcpMessage schema)) :=
                fun _ => List.not_mem_nil
              have hsettles : Settles got client.transport.room client.handler
                  [.response got outcome] rest (outcome.mapError .protocol) :=
                .answered rfl hfirst hfits
              cases outcome with
              | ok value =>
                  cases h
                  exact ⟨_, rest, rfl, hrest, htook', hsettles⟩
              | error error =>
                  cases h
                  exact ⟨_, rest, rfl, hrest, htook', hsettles⟩
            · rw [if_neg hgot, exec_bind, exec_modify] at h
              have horphans : [AcpMessage.response got outcome].filterMap (·.orphan? id) =
                  [(got, outcome)] := List.filterMap_cons_some (if_neg hgot)
              refine hgo { client₁ with
                orphanResponses := client₁.orphanResponses ++ [(got, outcome)] } rfl rfl ?_ ?_ h
              · rw [horphans]
                refine ⟨htook.handler, htook.notifications, ?_, htook.nextId,
                  ⟨htook.wrote.sent, htook.wrote.room⟩⟩
                show client₁.orphanResponses ++ [(got, outcome)] = _
                rw [htook.orphans, List.append_nil]
              · intro other heq
                exact hgot (AcpMessage.response.inj heq).1
      · cases h
        have hnone : Unanswered id [AcpMessage.request id' request] := by
          intro outcome hmem
          have heq := List.mem_singleton.mp hmem
          contradiction
        exact ⟨[.request id' request], rest, rfl, hrest, htook,
          .unwritten (List.nil_append _).symm hnone (takesAll_nil _) hrefused⟩

theorem waitForResponse_settles (id : RequestId) {messages : List (AcpMessage schema)}
    (hframes : Frames schema client.transport.lines messages)
    {result : Except (ClientError schema) Json}
    (h : (AcpClient.waitForResponse id).exec client = (result, client')) :
    ∃ read left, messages = read ++ left ∧ Frames schema client'.transport.lines left ∧
      Took client client' read (read.filterMap (·.orphan? id)) ∧
      Settles id client.transport.room client.handler read left result :=
  waitRounds_settles id hframes (Nat.lt_succ_self _) h

/-! ## calls -/

/-- A call of `request`. -/
structure RequestCall (α : Type) where
  method : String
  params : Json
  decode : Json → Except String α

/-- One call and what it had to do with the connection: the id of its request, what it
read, the frames it had for the agent, and what it returned. -/
structure Exchange (schema : Schema) (α : Type) where
  call : RequestCall α
  id : RequestId
  read : List (AcpMessage schema)
  frames : List (Outbound schema)
  result : Except (ClientError schema) α

namespace Exchange

variable {α : Type}

def request (exchange : Exchange schema α) : Outbound schema :=
  .request exchange.id exchange.call.method exchange.call.params

/-- What a call returns that leaves `left` of the stream.  It is the outcome of the first
response with the call's id, if it read one.  It is `closed` if it read none up to the
end of the stream, and an I/O error if the agent did not take all of its frames; `fits`
says that it did. -/
structure Matched (exchange : Exchange schema α) (fits : Prop) (left : List (AcpMessage schema)) :
    Prop where
  ok : ∀ a, exchange.result = .ok a → ∃ front value,
    exchange.read = front ++ [.response exchange.id (.ok value)] ∧
      Unanswered exchange.id front ∧ exchange.call.decode value = .ok a
  answered : ¬ Unanswered exchange.id exchange.read → ∃ front outcome,
    exchange.read = front ++ [.response exchange.id outcome] ∧ Unanswered exchange.id front ∧
      exchange.result = (outcome.mapError .protocol).bind fun value =>
        (exchange.call.decode value).mapError .decode
  ended : Unanswered exchange.id exchange.read → fits → left = []
  closed : exchange.result = .error .closed ↔
    Unanswered exchange.id exchange.read ∧ left = [] ∧ fits
  unwritten : exchange.result = .error (.wire .io) ↔ ¬ fits

/-- The call was made by `client` and left `client'`, with `left` yet to be read.  Its
frames are its request and the replies to what it read, and after one that the agent
does not take it reads nothing more. -/
structure Made (client : AcpClient schema H) (exchange : Exchange schema α)
    (left : List (AcpMessage schema)) (client' : AcpClient schema H) : Prop where
  run : (AcpClient.request exchange.call.decode exchange.call.method exchange.call.params).exec
    client = (exchange.result, client')
  id : exchange.id = .number (client.nextId + 1)
  frames : exchange.frames = exchange.request :: replies client.handler exchange.read
  stops : ¬ TakesAll takeFrame client.transport.room exchange.frames →
    ∀ front last, exchange.read = front ++ [last] →
      TakesAll takeFrame client.transport.room (exchange.request :: replies client.handler front)
  matched : exchange.Matched (TakesAll takeFrame client.transport.room exchange.frames) left
  left : Frames schema client'.transport.lines left
  wrote : Wrote client client' exchange.frames
  handler : client'.handler = exchange.read.foldl handled client.handler
  notifications : client'.notifications =
    client.notifications ++ exchange.read.filterMap AcpMessage.notification?
  orphans : client'.orphanResponses =
    client.orphanResponses ++ exchange.read.filterMap (·.orphan? exchange.id)
  nextId : client'.nextId = client.nextId + 1

/-- What the result of a wait makes of a call whose request was taken. -/
theorem matched_of_settles {exchange : Exchange schema α} {room : Option Nat} {handler : H}
    {left : List (AcpMessage schema)} {waited : Except (ClientError schema) Json} {fits : Prop}
    (hfits : fits ↔ TakesAll takeFrame room (replies handler exchange.read))
    (h : Settles exchange.id room handler exchange.read left waited)
    (hresult : exchange.result =
      waited.bind fun value => (exchange.call.decode value).mapError .decode) :
    exchange.Matched fits left := by
  cases h with
  | @answered front outcome hread hfirst hall =>
      have hanswered : ¬ Unanswered exchange.id exchange.read := fun hnone =>
        hnone outcome (by rw [hread]; exact List.mem_append_right _ List.mem_cons_self)
      have hreturned : exchange.result ≠ .error .closed ∧ exchange.result ≠ .error (.wire .io) := by
        rw [hresult]
        cases outcome with
        | ok value =>
            show (exchange.call.decode value).mapError ClientError.decode ≠ .error .closed ∧
              (exchange.call.decode value).mapError ClientError.decode ≠ .error (.wire .io)
            cases exchange.call.decode value <;> exact ⟨nofun, nofun⟩
        | error error => exact ⟨nofun, nofun⟩
      refine ⟨fun a ha => ?_, fun _ => ⟨front, outcome, hread, hfirst, hresult⟩,
        fun hnone => absurd hnone hanswered,
        iff_of_false hreturned.1 fun hclosed => hanswered hclosed.1,
        iff_of_false hreturned.2 (not_not_intro (hfits.mpr hall))⟩
      rw [hresult] at ha
      cases outcome with
      | ok value =>
          refine ⟨front, value, hread, hfirst, ?_⟩
          have hdecode : (exchange.call.decode value).mapError ClientError.decode = .ok a := ha
          cases hvalue : exchange.call.decode value with
          | ok b =>
              rw [hvalue] at hdecode
              exact congrArg _ (Except.ok.inj hdecode)
          | error text =>
              rw [hvalue] at hdecode
              contradiction
      | error error => contradiction
  | ended hnone hlast hall =>
      have hclosed : exchange.result = .error .closed := hresult
      refine ⟨fun a ha => ?_, fun hanswered => absurd hnone hanswered, fun _ _ => hlast,
        iff_of_true hclosed ⟨hnone, hlast, hfits.mpr hall⟩,
        iff_of_false ?_ (not_not_intro (hfits.mpr hall))⟩
      · rw [hclosed] at ha
        contradiction
      · rw [hclosed]
        exact nofun
  | unwritten hread hnone hfront hrefused =>
      have hunwritten : exchange.result = .error (.wire .io) := hresult
      have hnot : ¬ fits := fun h => hrefused (hfits.mp h)
      refine ⟨fun a ha => ?_, fun hanswered => absurd hnone hanswered,
        fun _ h => absurd h hnot, iff_of_false ?_ fun hclosed => hnot hclosed.2.2,
        iff_of_true hunwritten hnot⟩
      · rw [hunwritten] at ha
        contradiction
      · rw [hunwritten]
        exact nofun

/-- A call whose request the agent does not take. -/
theorem matched_of_refused {exchange : Exchange schema α} {fits : Prop}
    (hread : exchange.read = []) (hresult : exchange.result = .error (.wire .io)) (hfits : ¬ fits)
    (left : List (AcpMessage schema)) : exchange.Matched fits left := by
  have hnone : Unanswered exchange.id exchange.read := by
    rw [hread]
    exact fun _ => List.not_mem_nil
  refine ⟨fun a ha => ?_, fun hanswered => absurd hnone hanswered, fun _ h => absurd h hfits,
    iff_of_false ?_ fun hclosed => hfits hclosed.2.2, iff_of_true hresult hfits⟩
  · rw [hresult] at ha
    contradiction
  · rw [hresult]
    exact nofun

end Exchange

/-- **One call** reads its part of the stream. -/
theorem request_made {α : Type} (call : RequestCall α) {messages : List (AcpMessage schema)}
    (hframes : Frames schema client.transport.lines messages)
    {result : Except (ClientError schema) α}
    (h : (AcpClient.request call.decode call.method call.params).exec client = (result, client')) :
    ∃ (exchange : Exchange schema α) (left : List (AcpMessage schema)), exchange.call = call ∧
      exchange.result = result ∧ messages = exchange.read ++ left ∧
      exchange.Made client left client' := by
  have hrun := h
  unfold AcpClient.request AcpClient.nextRequestId at h
  rw [exec_bind, exec_bind, exec_get] at h
  dsimp only at h
  rw [exec_bind, exec_set] at h
  dsimp only [exec_pure] at h
  rw [exec_bind, exec_sendRaw_taken] at h
  dsimp only at h
  -- the request, and what the call has for the agent when it has read some messages
  let request : Outbound schema :=
    .request (.number (client.nextId + 1)) call.method call.params
  by_cases htaken : (takeFrame client.transport.room).1 = true
  · rw [if_pos htaken] at h
    dsimp only at h
    rw [exec_bind] at h
    -- the client when it begins to wait
    generalize hwaiting : ({ client with
      nextId := client.nextId + 1
      transport := { client.transport with
        sent := client.transport.sent ++ written takeFrame client.transport.room [request]
        room := spent takeFrame client.transport.room [request] } } : AcpClient schema H) =
      waiting at h
    have hbegun : Wrote client waiting [request] := by
      rw [← hwaiting]
      exact ⟨rfl, rfl⟩
    have hframes' : Frames schema waiting.transport.lines messages := by
      rw [← hwaiting]
      exact hframes
    rcases hwait : (AcpClient.waitForResponse (.number (client.nextId + 1))).exec waiting with
      ⟨waited, served⟩
    obtain ⟨read, left, hsplit, hleft, htook, hsettles⟩ :=
      waitForResponse_settles _ hframes' hwait
    have hresult : result = waited.bind (fun value => (call.decode value).mapError .decode) ∧
        client' = served := by
      rw [hwait] at h
      cases waited with
      | ok value =>
          show result = (call.decode value).mapError ClientError.decode ∧ client' = served
          dsimp only at h
          cases hdecode : call.decode value with
          | ok a | error text =>
              rw [hdecode] at h
              cases h
              exact ⟨rfl, rfl⟩
      | error error =>
          cases h
          exact ⟨rfl, rfl⟩
    obtain ⟨hresult, rfl⟩ := hresult
    have hhandler : waiting.handler = client.handler := by rw [← hwaiting]
    have hroom : waiting.transport.room = (takeFrame client.transport.room).2 := hbegun.room
    have hfits : ∀ messages : List (AcpMessage schema),
        TakesAll takeFrame client.transport.room (request :: replies client.handler messages) ↔
          TakesAll takeFrame waiting.transport.room (replies waiting.handler messages) := by
      intro messages
      rw [takesAll_cons, and_iff_right htaken, hroom, hhandler]
    refine ⟨⟨call, .number (client.nextId + 1), read, request :: replies client.handler read,
      result⟩, left, rfl, rfl, hsplit, {
        run := hrun
        id := rfl
        frames := rfl
        stops := ?_
        matched := Exchange.matched_of_settles (hfits read) hsettles hresult
        left := hleft
        wrote := ?_
        handler := by rw [htook.handler, hhandler]
        notifications := ?_
        orphans := ?_
        nextId := ?_ }⟩
    · intro hrefused front last hread
      exact (hfits front).mpr (hsettles.stops (fun hall => hrefused ((hfits read).mpr hall)) hread)
    · have hboth := hbegun.trans htook.wrote
      rw [hhandler] at hboth
      exact hboth
    · rw [htook.notifications, ← hwaiting]
    · rw [htook.orphans, ← hwaiting]
    · rw [htook.nextId, ← hwaiting]
  · rw [if_neg htaken] at h
    cases h
    have hrefused : ¬ TakesAll takeFrame client.transport.room [request] := by
      rw [takesAll_cons]
      exact fun hall => htaken hall.1
    exact ⟨⟨call, .number (client.nextId + 1), [], [request], .error (.wire .io)⟩, messages, rfl,
      rfl, rfl, {
        run := hrun
        id := rfl
        frames := rfl
        stops := fun _ front last hread => by simp at hread
        matched := Exchange.matched_of_refused rfl rfl hrefused messages
        left := hframes
        wrote := ⟨rfl, rfl⟩
        handler := rfl
        notifications := (List.append_nil _).symm
        orphans := (List.append_nil _).symm
        nextId := rfl }⟩

/-- Some calls, one after the other, and what they return. -/
def AcpClient.requests {α : Type} (client : AcpClient schema H) :
    List (RequestCall α) → List (Except (ClientError schema) α) × AcpClient schema H
  | [] => ([], client)
  | call :: calls =>
      let (result, client) :=
        (AcpClient.request call.decode call.method call.params).exec client
      let (results, client) := client.requests calls
      (result :: results, client)

/-- The ids of some calls, from the next one on. -/
def requestIds (nextId : Int) (calls : Nat) : List RequestId :=
  (List.range calls).map fun k : Nat => .number (nextId + 1 + k)

theorem requestIds_succ (nextId : Int) (calls : Nat) :
    requestIds nextId (calls + 1) = .number (nextId + 1) :: requestIds (nextId + 1) calls := by
  rw [requestIds, List.range_succ_eq_map, List.map_cons, List.map_map, requestIds]
  refine congrArg₂ List.cons (congrArg _ (by omega)) (List.map_congr_left fun k _ => ?_)
  show RequestId.number (nextId + 1 + (k + 1 : Nat)) = .number (nextId + 1 + 1 + k)
  exact congrArg _ (by omega)

theorem nodup_requestIds (nextId : Int) (calls : Nat) : (requestIds nextId calls).Nodup := by
  refine List.nodup_range.map fun k k' heq => ?_
  have hint := RequestId.number.inj heq
  omega

/-- The calls share out the stream. -/
theorem requests_share {α : Type} (calls : List (RequestCall α))
    {messages : List (AcpMessage schema)}
    (hframes : Frames schema client.transport.lines messages) :
    ∃ (exchanges : List (Exchange schema α)) (left : List (AcpMessage schema)),
      exchanges.map (·.call) = calls ∧
      (client.requests calls).1 = exchanges.map (·.result) ∧
      exchanges.map (·.id) = requestIds client.nextId calls.length ∧
      Shares Exchange.read Exchange.Made client exchanges messages left
        (client.requests calls).2 ∧
      Frames schema (client.requests calls).2.transport.lines left := by
  induction calls generalizing client messages with
  | nil => exact ⟨[], messages, rfl, rfl, rfl, .nil, hframes⟩
  | cons call calls ih =>
      rcases hcall : (AcpClient.request call.decode call.method call.params).exec client with
        ⟨result, called⟩
      obtain ⟨exchange, rest, hsame, hresult, hsplit, hmade⟩ := request_made call hframes hcall
      obtain ⟨exchanges, left, hcalls, hresults, hids, hshares, hleft⟩ := ih hmade.left
      have hrequests : client.requests (call :: calls) =
          (result :: (called.requests calls).1, (called.requests calls).2) := by
        rw [AcpClient.requests, hcall]
      rw [hrequests, hsplit]
      refine ⟨exchange :: exchanges, left, ?_, ?_, ?_, .cons hmade hshares, hleft⟩
      · rw [List.map_cons, hsame, hcalls]
      · rw [List.map_cons, hresult, ← hresults]
      · rw [List.map_cons, hids, hmade.id, hmade.nextId, List.length_cons, requestIds_succ]

/-- **Responses are matched to requests**: the calls share out the stream, in order and
each message to one call at most.  Their ids are distinct; each returns the outcome of
the first response with its id that it reads, or `closed` exactly if the stream ends
first, unless the agent does not take a frame of it.  The other responses it reads
become orphans, and every notification reaches the handler and the log. -/
theorem responses_matched {α : Type} (calls : List (RequestCall α))
    {messages : List (AcpMessage schema)}
    (hframes : Frames schema client.transport.lines messages) :
    ∃ (exchanges : List (Exchange schema α)) (left : List (AcpMessage schema)),
      exchanges.map (·.call) = calls ∧
      (client.requests calls).1 = exchanges.map (·.result) ∧
      exchanges.map (·.id) = requestIds client.nextId calls.length ∧
      (exchanges.map (·.id)).Nodup ∧
      Shares Exchange.read Exchange.Made client exchanges messages left
        (client.requests calls).2 ∧
      messages = exchanges.flatMap (·.read) ++ left ∧
      Frames schema (client.requests calls).2.transport.lines left ∧
      Wrote client (client.requests calls).2 (exchanges.flatMap (·.frames)) ∧
      (client.requests calls).2.orphanResponses = client.orphanResponses ++
        exchanges.flatMap (fun exchange => exchange.read.filterMap (·.orphan? exchange.id)) ∧
      (client.requests calls).2.notifications = client.notifications ++
        (exchanges.flatMap (·.read)).filterMap AcpMessage.notification? ∧
      (client.requests calls).2.handler =
        (exchanges.flatMap (·.read)).foldl handled client.handler ∧
      (client.transport.room = none →
        ∀ exchange ∈ exchanges, exchange.result ≠ .error (.wire .io)) := by
  obtain ⟨exchanges, left, hcalls, hresults, hids, hshares, hleft⟩ := requests_share calls hframes
  refine ⟨exchanges, left, hcalls, hresults, hids, ?_, hshares, hshares.stream_eq, hleft, ?_, ?_,
    ?_, ?_, fun hroom exchange hmem hfailed => ?_⟩
  · rw [hids]
    exact nodup_requestIds _ _
  · exact hshares.composes (fun before frames after => Wrote before after frames)
      (fun _ => .nil rfl rfl) (fun h h' => h.trans h') fun hmade => hmade.wrote
  · refine hshares.composes
      (fun before orphans after => after.orphanResponses = before.orphanResponses ++ orphans)
      (fun _ => (List.append_nil _).symm) (fun h h' => ?_) fun hmade => hmade.orphans
    rw [h', h, List.append_assoc]
  · refine hshares.composes (fun before read after => after.notifications =
      before.notifications ++ read.filterMap AcpMessage.notification?)
      (fun _ => (List.append_nil _).symm) (fun h h' => ?_) fun hmade => hmade.notifications
    rw [h', h, List.filterMap_append, List.append_assoc]
  · refine hshares.composes
      (fun before read after => after.handler = read.foldl handled before.handler)
      (fun _ => rfl) (fun h h' => ?_) fun hmade => hmade.handler
    rw [h', h, List.foldl_append]
  · obtain ⟨before, rest, after, hopen, hmade⟩ :=
      hshares.made (I := fun client => client.transport.room = none)
        (fun hmade hopen => by rw [hmade.wrote.room, hopen, spent_takeFrame_none]) hroom
        exchange hmem
    refine hmade.matched.unwritten.mp hfailed ?_
    rw [hopen]
    exact takesAll_takeFrame_none _

end Serving

/-- A prompt; its result is taken as it is. -/
def samplePrompt : RequestCall Json where
  method := "session/prompt"
  params := .null
  decode := .ok

/-- A stream of a request and the response to the call. -/
theorem responses_matched_sample :
    ∃ (exchanges : List (Exchange sampleSchema Json)) (left : List (AcpMessage sampleSchema)),
      exchanges.map (·.result) = [.ok (.obj [])] ∧
        [.request (.number 8) (.other "fs/read_text_file" (some (.obj []))),
          .response (.number 1) (.ok (.obj []))] = exchanges.flatMap (·.read) ++ left ∧
        exchanges.map (·.id) = [.number 1] := by
  have hframes : Frames sampleSchema (sampleClient [readLine, responseLine]).transport.lines
      [.request (.number 8) (.other "fs/read_text_file" (some (.obj []))),
        .response (.number 1) (.ok (.obj []))] :=
    .frame (by decide +kernel) (by decide +kernel) rfl
      (.frame (by decide +kernel) (by decide +kernel) rfl .nil)
  obtain ⟨exchanges, left, -, hresults, hids, -, -, hmessages, -⟩ :=
    responses_matched [samplePrompt] hframes
  have hreturned : ((sampleClient [readLine, responseLine]).requests [samplePrompt]).1 =
      [.ok (.obj [])] := rfl
  exact ⟨exchanges, left, hresults.symm.trans hreturned, hmessages, hids⟩

end Acp

end Slight
