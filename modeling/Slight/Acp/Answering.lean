import Slight.Acp.Client

/-!
# Slight.Acp.Answering

Which requests of an agent are answered.

A wait serves the lines it reads one by one.  As long as every request among them
can be served, each is answered or deferred, and none of them ends the wait.  A
request that cannot be served does both at once: it gets no answer, and the call
that waits fails with its error.  `requests_answered` says that nothing else
happens.
-/

namespace Slight

namespace Acp

open Support Program

variable {schema : Schema} {H : Type}

/-! ## lines -/

/-- The request that a line of the stream holds. -/
def frameOf (schema : Schema) (line : String) : Option RequestFrame :=
  if (trimmed line).isEmpty then none else requestOf schema (trimmed line)

/-- A line whose request the client can serve. -/
def Servable (schema : Schema) (line : String) (frame : RequestFrame) : Prop :=
  line.utf8ByteSize ≤ maxFrameBytes ∧ frame.Readable schema

/-- Every request among the lines can be served. -/
def AllServable (schema : Schema) (lines : List String) : Prop :=
  ∀ line ∈ lines, ∀ frame, frameOf schema line = some frame → Servable schema line frame

/-- Each request among the lines was answered or deferred, under its id and in
order. -/
def EachHandled (lines : List String) (handled : List (Handled schema)) : Prop :=
  (lines.filterMap (frameOf schema)).map (parseRequestId ·.id) =
    (handled.filterMap Handled.read?).map .ok

theorem AllServable.append {front back : List String} (hfront : AllServable schema front)
    (hback : AllServable schema back) : AllServable schema (front ++ back) := by
  intro line hline
  rcases List.mem_append.mp hline with hline | hline
  · exact hfront line hline
  · exact hback line hline

theorem EachHandled.append {front back : List String} {handled handled' : List (Handled schema)}
    (hfront : EachHandled front handled) (hback : EachHandled back handled') :
    EachHandled (front ++ back) (handled ++ handled') := by
  rw [EachHandled, List.filterMap_append, List.filterMap_append, List.map_append,
    List.map_append, hfront, hback]

/-- No line of these holds a request. -/
def Idle (schema : Schema) (lines : List String) : Prop :=
  ∀ line ∈ lines, frameOf schema line = none

theorem Idle.allServable {lines : List String} (h : Idle schema lines) :
    AllServable schema lines := by
  intro line hline frame hframe
  rw [h line hline] at hframe
  contradiction

theorem Idle.eachHandled {lines : List String} (h : Idle schema lines) :
    EachHandled lines ([] : List (Handled schema)) := by
  rw [EachHandled, List.filterMap_eq_nil_iff.mpr h]
  rfl

/-- What `readFrame` reads: blank lines, and then a line or the end. -/
theorem readFrame_cases (schema : Schema) (lines : List String) :
    (Idle schema lines ∧ readFrame lines = (.ok none, [])) ∨
    ∃ blanks line rest, lines = blanks ++ line :: rest ∧ Idle schema blanks ∧
      ((maxFrameBytes < line.utf8ByteSize ∧ ∃ error, readFrame lines = (.error error, rest)) ∨
        (line.utf8ByteSize ≤ maxFrameBytes ∧ (trimmed line).isEmpty = false ∧
          readFrame lines = (.ok (some (trimmed line)), rest))) := by
  induction lines with
  | nil => exact .inl ⟨nofun, rfl⟩
  | cons line rest ih =>
      by_cases hlong : maxFrameBytes < line.utf8ByteSize
      · refine .inr ⟨[], line, rest, rfl, nofun, .inl ⟨hlong, ?_⟩⟩
        rw [readFrame, if_pos hlong]
        exact ⟨_, rfl⟩
      · by_cases hblank : (trimmed line).isEmpty = true
        · have hnone : frameOf schema line = none := if_pos hblank
          have hread : readFrame (line :: rest) = readFrame rest := by
            rw [readFrame, if_neg hlong, if_pos hblank]
          rcases ih with ⟨hidle, hrest⟩ | ⟨blanks, next, after, rfl, hidle, hnext⟩
          · refine .inl ⟨?_, hread.trans hrest⟩
            intro other hother
            rcases List.mem_cons.mp hother with rfl | hother
            · exact hnone
            · exact hidle other hother
          · refine .inr ⟨line :: blanks, next, after, rfl, ?_, ?_⟩
            · intro other hother
              rcases List.mem_cons.mp hother with rfl | hother
              · exact hnone
              · exact hidle other hother
            · rw [hread]
              exact hnext
        · refine .inr ⟨[], line, rest, rfl, nofun, .inr ⟨by omega, by simpa using hblank, ?_⟩⟩
          rw [readFrame, if_neg hlong, if_neg hblank]

/-! ## one frame -/

section Frames

variable {client client' : AcpClient schema H}

theorem exec_sendRaw (client : AcpClient schema H) (hroom : client.transport.room = none)
    (frame : Outbound schema) :
    (AcpClient.sendRaw frame).exec client = (.ok (),
      { client with
        transport := { client.transport with sent := client.transport.sent ++ [frame] } }) := by
  unfold AcpClient.sendRaw
  rw [exec_bind, exec_get]
  dsimp only
  rw [hroom]
  rfl

/-- A request that is served is answered or deferred. -/
theorem exec_serve [ClientHandler schema H] (client : AcpClient schema H)
    (hroom : client.transport.room = none) (id : RequestId)
    (request : AgentToClientRequest schema) :
    ∃ client' handled, (AcpClient.serve id request).exec client = (.ok (), client') ∧
      handled.read? = some id ∧ client'.history = client.history ++ [handled] ∧
      client'.transport =
        { client.transport with sent := client.transport.sent ++ handled.reply?.toList } := by
  unfold AcpClient.serve
  rw [exec_bind, exec_get]
  dsimp only
  rcases ClientHandler.handleRequest client.handler id request with ⟨outcome, handler⟩
  dsimp only
  rw [exec_bind, exec_set]
  dsimp only
  cases outcome with
  | respond outcome =>
      dsimp only
      rw [exec_bind, exec_sendRaw { client with handler } hroom]
      exact ⟨_, .answered id outcome, rfl, rfl, rfl, rfl⟩
  | defer =>
      refine ⟨_, .deferred id, rfl, rfl, rfl, ?_⟩
      show client.transport = _
      rw [Handled.reply?, Option.toList_none, List.append_nil]

/-- What a call did between two states of the client. -/
structure Serves (client client' : AcpClient schema H) (read : List String)
    (handled : List (Handled schema)) : Prop where
  lines : client.transport.lines = read ++ client'.transport.lines
  history : client'.history = client.history ++ handled
  sent : client'.transport.sent = client.transport.sent ++ handled.filterMap Handled.reply?
  room : client'.transport.room = none

theorem Serves.trans {client'' : AcpClient schema H} {read read' : List String}
    {handled handled' : List (Handled schema)} (h : Serves client client' read handled)
    (h' : Serves client' client'' read' handled') :
    Serves client client'' (read ++ read') (handled ++ handled') where
  lines := by rw [h.lines, h'.lines, List.append_assoc]
  history := by rw [h'.history, h.history, List.append_assoc]
  sent := by rw [h'.sent, h.sent, List.append_assoc, List.filterMap_append]
  room := h'.room

/-- A line that ends the call that reads it: no request of it is servable. -/
def Breaks (schema : Schema) (line : String) : Prop :=
  ∀ frame, frameOf schema line = some frame → ¬ Servable schema line frame

/-- What `recv_inbound` makes of a frame. -/
def inbound (schema : Schema) :
    Except WireError (Option String) → Except (ClientError schema) (Option (AcpMessage schema))
  | .error error => .error (.wire error)
  | .ok none => .ok none
  | .ok (some line) =>
      match classifyInbound schema line with
      | .error error => .error (.wire error)
      | .ok message => .ok (some message)

theorem exec_recvInbound (client : AcpClient schema H) :
    AcpClient.recvInbound.exec client =
      (inbound schema (readFrame client.transport.lines).1,
        { client with transport := { client.transport with
          lines := (readFrame client.transport.lines).2 } }) := by
  unfold AcpClient.recvInbound
  rw [exec_bind, exec_get]
  dsimp only
  rw [exec_bind, exec_set]
  dsimp only
  rcases (readFrame client.transport.lines).1 with error | _ | line
  · rfl
  · rfl
  · dsimp only [inbound]
    cases classifyInbound schema line <;> rfl

/-- What is read: no request up to the end, a line that breaks, or a line that is
classified. -/
theorem inbound_cases (schema : Schema) (lines : List String) :
    (inbound schema (readFrame lines).1 = .ok none ∧ (readFrame lines).2 = [] ∧
      Idle schema lines) ∨
    ∃ blanks line, lines = blanks ++ line :: (readFrame lines).2 ∧ Idle schema blanks ∧
      ((∃ error, inbound schema (readFrame lines).1 = .error (.wire error) ∧
          Breaks schema line) ∨
        ∃ message, inbound schema (readFrame lines).1 = .ok (some message) ∧
          line.utf8ByteSize ≤ maxFrameBytes ∧ (trimmed line).isEmpty = false ∧
          classifyInbound schema (trimmed line) = .ok message) := by
  rcases readFrame_cases schema lines with
    ⟨hidle, hread⟩ | ⟨blanks, line, rest, hlines, hidle, ⟨hlong, error, hread⟩ |
      ⟨hshort, hfull, hread⟩⟩
  · rw [hread]
    exact .inl ⟨rfl, rfl, hidle⟩
  · rw [hread]
    refine .inr ⟨blanks, line, hlines, hidle, .inl ⟨error, rfl, ?_⟩⟩
    intro frame hframe hservable
    have hle := hservable.1
    omega
  · rw [hread]
    refine .inr ⟨blanks, line, hlines, hidle, ?_⟩
    cases hclassify : classifyInbound schema (trimmed line) with
    | error error =>
        refine .inl ⟨error, by simp only [inbound, hclassify], ?_⟩
        intro frame hframe hservable
        rw [frameOf, if_neg (by simp [hfull])] at hframe
        obtain ⟨id, request, -, hok⟩ := (classifyInbound_ok_iff hframe).mpr hservable.2
        rw [hclassify] at hok
        contradiction
    | ok message =>
        exact .inr ⟨message, by simp only [inbound, hclassify], hshort, hfull, rfl⟩

/-- What `next_message` does: the call fails on a line that breaks, or it serves what
it reads. -/
theorem nextMessage_cases [ClientHandler schema H] (hroom : client.transport.room = none)
    {result : Except (ClientError schema) (Option (AcpMessage schema))}
    (h : AcpClient.nextMessage.exec client = (result, client')) :
    ∃ read handled, Serves client client' read handled ∧
      ((∃ error front line, result = .error (.wire error) ∧ read = front ++ [line] ∧
          Idle schema front ∧ handled = [] ∧ Breaks schema line) ∨
        AllServable schema read ∧ EachHandled read handled ∧
          ((result = .ok none ∧ client'.transport.lines = []) ∨
            ∃ message front line, result = .ok (some message) ∧ read = front ++ [line] ∧
              ∀ id outcome, message = .response id outcome → frameOf schema line = none)) := by
  have hexec := exec_recvInbound client
  unfold AcpClient.nextMessage at h
  rw [exec_bind, hexec] at h
  rcases inbound_cases schema client.transport.lines with
    ⟨hinbound, hend, hidle⟩ | ⟨blanks, line, hlines, hidle, ⟨error, hinbound, hbreaks⟩ |
      ⟨message, hinbound, hshort, hfull, hclassify⟩⟩
  · rw [hinbound] at h
    cases h
    refine ⟨client.transport.lines, [], ⟨?_, (List.append_nil _).symm, (List.append_nil _).symm,
      hroom⟩, .inr ⟨hidle.allServable, hidle.eachHandled, .inl ⟨rfl, hend⟩⟩⟩
    show client.transport.lines = client.transport.lines ++ (readFrame client.transport.lines).2
    rw [hend, List.append_nil]
  · rw [hinbound] at h
    cases h
    refine ⟨blanks ++ [line], [], ⟨?_, (List.append_nil _).symm, (List.append_nil _).symm, hroom⟩,
      .inl ⟨error, blanks, line, rfl, rfl, hidle, rfl, hbreaks⟩⟩
    rw [List.append_assoc]
    exact hlines
  · rw [hinbound] at h
    have hframe : frameOf schema line = requestOf schema (trimmed line) :=
      if_neg (by simp [hfull])
    have hread : client.transport.lines =
        blanks ++ [line] ++ (readFrame client.transport.lines).2 := by
      rw [List.append_assoc]
      exact hlines
    have hother : (∀ id request, message ≠ .request id request) →
        frameOf schema line = none := by
      intro hne
      rw [hframe]
      cases hrequest : requestOf schema (trimmed line) with
      | none => rfl
      | some frame =>
          obtain ⟨id, request, heq, -, -⟩ := readable_of_classifyInbound hrequest hclassify
          exact absurd heq (hne id request)
    have hidle' : frameOf schema line = none → Idle schema (blanks ++ [line]) := by
      intro hnone other hmem
      rcases List.mem_append.mp hmem with hmem | hmem
      · exact hidle other hmem
      · rw [List.mem_singleton.mp hmem, hnone]
    cases message with
    | request id request =>
        obtain ⟨frame, hrequest⟩ := Option.isSome_iff_exists.mp
          (request_of_classifyInbound hclassify)
        obtain ⟨id', request', heq, hid, hreadable⟩ :=
          readable_of_classifyInbound hrequest hclassify
        cases heq
        obtain ⟨served, handled, hserve, hid', hhistory, htransport⟩ :=
          exec_serve { client with transport := { client.transport with
            lines := (readFrame client.transport.lines).2 } } hroom id request
        dsimp only at h
        rw [exec_bind, hserve] at h
        cases h
        refine ⟨blanks ++ [line], [handled], ⟨?_, hhistory, ?_, ?_⟩,
          .inr ⟨?_, ?_, .inr ⟨_, blanks, line, rfl, rfl, nofun⟩⟩⟩
        · rw [htransport]
          exact hread
        · rw [htransport]
          cases hreply : handled.reply? <;> simp [hreply]
        · rw [htransport]
          exact hroom
        · refine hidle.allServable.append fun other hmem found hfound => ?_
          rw [List.mem_singleton.mp hmem] at hfound ⊢
          rw [hframe, hrequest] at hfound
          cases hfound
          exact ⟨hshort, hreadable⟩
        · refine hidle.eachHandled.append ?_
          rw [EachHandled]
          simp [hframe, hrequest, hid, hid']
    | notification notification =>
        cases h
        have hnone := hother nofun
        exact ⟨blanks ++ [line], [],
          ⟨hread, (List.append_nil _).symm, (List.append_nil _).symm, hroom⟩,
          .inr ⟨(hidle' hnone).allServable, (hidle' hnone).eachHandled,
            .inr ⟨_, blanks, line, rfl, rfl, nofun⟩⟩⟩
    | response id outcome =>
        cases h
        have hnone := hother nofun
        exact ⟨blanks ++ [line], [],
          ⟨hread, (List.append_nil _).symm, (List.append_nil _).symm, hroom⟩,
          .inr ⟨(hidle' hnone).allServable, (hidle' hnone).eachHandled,
            .inr ⟨_, blanks, line, rfl, rfl, fun _ _ _ => hnone⟩⟩⟩

end Frames

/-! ## a wait -/

section Waits

variable {client client' : AcpClient schema H}

/-- How a wait ends: on a line that breaks, at the end of the stream, or with its
response. -/
inductive Ends (client' : AcpClient schema H) (read : List String)
    (handled : List (Handled schema)) : Except (ClientError schema) Json → Prop
  | broken {error : WireError} {front : List String} {line : String} (hread : read = front ++ [line])
      (servable : AllServable schema front) (each : EachHandled front handled)
      (breaks : Breaks schema line) : Ends client' read handled (.error (.wire error))
  | closed (servable : AllServable schema read) (each : EachHandled read handled)
      (lines : client'.transport.lines = []) : Ends client' read handled (.error .closed)
  | response {front : List String} {line : String} {result : Except (ClientError schema) Json}
      (hread : read = front ++ [line]) (servable : AllServable schema read)
      (each : EachHandled read handled) (frame : frameOf schema line = none)
      (result_ne : result ≠ .error .closed) : Ends client' read handled result

/-- What was read before is served too. -/
theorem Ends.prepend {read read' : List String} {handled handled' : List (Handled schema)}
    {result : Except (ClientError schema) Json} (hservable : AllServable schema read)
    (heach : EachHandled read handled) (h : Ends client' read' handled' result) :
    Ends client' (read ++ read') (handled ++ handled') result := by
  cases h with
  | broken hread hfront hrest hbreaks =>
      rw [hread, ← List.append_assoc]
      exact .broken rfl (hservable.append hfront) (heach.append hrest) hbreaks
  | closed hback hrest hlines => exact .closed (hservable.append hback) (heach.append hrest) hlines
  | @response front line _ hread hback hrest hframe hne =>
      have happend : read ++ read' = (read ++ front) ++ [line] := by
        rw [hread, List.append_assoc]
      exact .response happend (hservable.append hback) (heach.append hrest) hframe hne

/-- **Wait**: every round serves what it reads, and there are rounds enough. -/
theorem waitRounds_cases [ClientHandler schema H] (id : RequestId) (rounds : Nat)
    (hroom : client.transport.room = none) (hrounds : client.transport.lines.length < rounds)
    {result : Except (ClientError schema) Json}
    (h : (AcpClient.waitRounds id rounds).exec client = (result, client')) :
    ∃ read handled, Serves client client' read handled ∧ Ends client' read handled result := by
  induction rounds generalizing client with
  | zero => omega
  | succ rounds ih =>
      rw [AcpClient.waitRounds, exec_bind] at h
      rcases hnext : AcpClient.nextMessage.exec client with ⟨outcome, client₁⟩
      obtain ⟨read, handled, hserves, ⟨error, front, line, rfl, hread, hidle, rfl, hbreaks⟩ |
        ⟨hservable, heach, ⟨rfl, hend⟩ | ⟨message, front, line, rfl, hread, hresponse⟩⟩⟩ :=
          nextMessage_cases hroom hnext
      · rw [hnext] at h
        cases h
        exact ⟨read, [], hserves, .broken hread hidle.allServable hidle.eachHandled hbreaks⟩
      · rw [hnext] at h
        cases h
        exact ⟨read, handled, hserves, .closed hservable heach hend⟩
      · rw [hnext] at h
        -- a line was read, so there is a round less to go and a line less to read
        have hlength : client₁.transport.lines.length < rounds := by
          have hlines := congrArg List.length hserves.lines
          rw [hread, List.length_append, List.length_append, List.length_singleton] at hlines
          omega
        have hgo : ∀ client₂ : AcpClient schema H, client₂.transport = client₁.transport →
            client₂.history = client₁.history →
            (AcpClient.waitRounds id rounds).exec client₂ = (result, client') →
              ∃ read handled, Serves client client' read handled ∧
                Ends client' read handled result := by
          intro client₂ htransport hhistory hwait
          obtain ⟨read', handled', hserves', hends⟩ :=
            ih (by rw [htransport]; exact hserves.room) (by rw [htransport]; exact hlength) hwait
          have hmid : Serves client client₂ read handled :=
            ⟨by rw [htransport]; exact hserves.lines, by rw [hhistory]; exact hserves.history,
              by rw [htransport]; exact hserves.sent, by rw [htransport]; exact hserves.room⟩
          exact ⟨_, _, hmid.trans hserves', hends.prepend hservable heach⟩
        cases message with
        | request id' request => exact hgo client₁ rfl rfl h
        | notification notification => exact hgo client₁ rfl rfl h
        | response got outcome =>
            dsimp only at h
            split at h
            · have hnone := hresponse got outcome rfl
              cases outcome with
              | ok value =>
                  cases h
                  exact ⟨read, handled, hserves, .response hread hservable heach hnone nofun⟩
              | error error =>
                  cases h
                  exact ⟨read, handled, hserves, .response hread hservable heach hnone nofun⟩
            · rw [exec_bind, exec_modify] at h
              exact hgo { client₁ with
                orphanResponses := client₁.orphanResponses ++ [(got, outcome)] } rfl rfl h

end Waits

/-! ## later answers -/

section Runs

variable {client client' : AcpClient schema H}

/-- What a call does to the replies, the deferred requests and the history, step by
step. -/
inductive Move (client : AcpClient schema H) : AcpClient schema H → Prop
  | quiet {client' : AcpClient schema H}
      (sent : ∃ frames, client'.transport.sent = client.transport.sent ++ frames ∧
        ∀ frame ∈ frames, frame.replyTo = none)
      (deferred : client'.deferred = client.deferred) (history : client'.history = client.history) :
      Move client client'
  | answer {client' : AcpClient schema H} (id : RequestId) (outcome : Except schema.Error Json)
      (sent : client'.transport.sent = client.transport.sent ++ [.reply id outcome])
      (deferred : client'.deferred = client.deferred)
      (history : client'.history = client.history ++ [.answered id outcome]) : Move client client'
  | defer {client' : AcpClient schema H} (id : RequestId)
      (sent : client'.transport.sent = client.transport.sent)
      (deferred : client'.deferred = insert id client.deferred)
      (history : client'.history = client.history ++ [.deferred id]) : Move client client'
  | respond {client' : AcpClient schema H} (id : RequestId) (outcome : Except schema.Error Json)
      (held : id ∈ client.deferred)
      (sent : client'.transport.sent = client.transport.sent ++ [.reply id outcome])
      (deferred : client'.deferred = client.deferred.erase id)
      (history : client'.history = client.history ++ [.responded id outcome]) : Move client client'
  | drop {client' : AcpClient schema H} (id : RequestId)
      (sent : client'.transport.sent = client.transport.sent)
      (deferred : client'.deferred = client.deferred.erase id)
      (history : client'.history = client.history) : Move client client'

/-- The replies that went out are those of the history, and for every id there are at
most as many later answers as deferred requests. -/
structure Consistent (client : AcpClient schema H) : Prop where
  replies : client.transport.sent.filter (·.replyTo.isSome) =
    client.history.filterMap Handled.reply?
  once : ∀ id, (client.history.filterMap Handled.responded?).count id +
      (if id ∈ client.deferred then 1 else 0) ≤
    (client.history.filterMap Handled.deferred?).count id

theorem replyTo_reply (id : RequestId) (outcome : Except schema.Error Json) :
    (Outbound.reply id outcome).replyTo = some id := by
  cases outcome <;> rfl

theorem Move.consistent (hmove : Move client client') (h : Consistent client) :
    Consistent client' := by
  obtain ⟨hreplies, honce⟩ := h
  cases hmove with
  | quiet hsent hdeferred hhistory =>
      obtain ⟨frames, hsent, hquiet⟩ := hsent
      have hnone : frames.filter (·.replyTo.isSome) = [] :=
        List.filter_eq_nil_iff.mpr fun frame hframe => by simp [hquiet frame hframe]
      refine ⟨?_, fun id => ?_⟩
      · rw [hsent, hhistory, List.filter_append, hnone, List.append_nil, hreplies]
      · rw [hdeferred, hhistory]
        exact honce id
  | answer id outcome hsent hdeferred hhistory =>
      refine ⟨?_, fun other => ?_⟩
      · rw [hsent, hhistory, List.filter_append, List.filterMap_append, hreplies]
        simp [Handled.reply?, replyTo_reply]
      · rw [hdeferred, hhistory, List.filterMap_append, List.filterMap_append]
        simp only [Handled.responded?, Handled.deferred?, List.filterMap_cons, List.filterMap_nil,
          List.append_nil]
        exact honce other
  | defer id hsent hdeferred hhistory =>
      refine ⟨?_, fun other => ?_⟩
      · rw [hsent, hhistory, List.filterMap_append, hreplies]
        simp [Handled.reply?]
      · have hother := honce other
        rw [hdeferred, hhistory, List.filterMap_append, List.filterMap_append, List.count_append,
          List.count_append]
        by_cases heq : id = other
        · subst heq
          simp only [Handled.responded?, Handled.deferred?, List.filterMap_cons, List.filterMap_nil,
            List.count_nil, List.count_singleton_self, Finset.mem_insert_self, if_true]
          split at hother <;> omega
        · have hcount : [id].count other = 0 := List.count_eq_zero.mpr (by simpa using Ne.symm heq)
          simp only [Handled.responded?, Handled.deferred?, List.filterMap_cons,
            List.filterMap_nil, List.count_nil, hcount, Finset.mem_insert, Ne.symm heq, false_or]
          omega
  | respond id outcome hheld hsent hdeferred hhistory =>
      refine ⟨?_, fun other => ?_⟩
      · rw [hsent, hhistory, List.filter_append, List.filterMap_append, hreplies]
        simp [Handled.reply?, replyTo_reply]
      · have hother := honce other
        rw [hdeferred, hhistory, List.filterMap_append, List.filterMap_append, List.count_append,
          List.count_append]
        by_cases heq : id = other
        · subst heq
          rw [if_pos hheld] at hother
          simp only [Handled.responded?, Handled.deferred?, List.filterMap_cons,
            List.filterMap_nil, List.count_nil, List.count_singleton_self,
            Finset.notMem_erase, if_false]
          omega
        · have hcount : [id].count other = 0 := List.count_eq_zero.mpr (by simpa using Ne.symm heq)
          simp only [Handled.responded?, Handled.deferred?, List.filterMap_cons,
            List.filterMap_nil, List.count_nil, hcount, Finset.mem_erase, Ne.symm heq, ne_eq,
            not_false_eq_true, true_and]
          omega
  | drop id hsent hdeferred hhistory =>
      refine ⟨by rw [hsent, hhistory, hreplies], fun other => ?_⟩
      have hother := honce other
      rw [hdeferred, hhistory]
      by_cases heq : other = id
      · subst heq
        rw [if_neg (Finset.notMem_erase _ _)]
        omega
      · simpa [Finset.mem_erase, heq] using hother

/-! ### the moves of each call -/

theorem Move.of_eq (hsent : client'.transport.sent = client.transport.sent)
    (hdeferred : client'.deferred = client.deferred)
    (hhistory : client'.history = client.history) : Move client client' :=
  .quiet ⟨[], hsent.trans (List.append_nil _).symm, nofun⟩ hdeferred hhistory

/-- The writer takes the frame, or the call fails. -/
theorem sendRaw_cases (client : AcpClient schema H) (frame : Outbound schema) :
    (AcpClient.sendRaw frame).exec client = (.error (.wire .io), client) ∨
      ∃ room, (AcpClient.sendRaw frame).exec client = (.ok (),
        { client with
          transport := { client.transport with
            sent := client.transport.sent ++ [frame]
            room := room } }) := by
  unfold AcpClient.sendRaw
  rw [exec_bind, exec_get]
  dsimp only
  split
  · exact .inl rfl
  · exact .inr ⟨_, rfl⟩

theorem moves_sendRaw (frame : Outbound schema) (hframe : frame.replyTo = none) :
    (AcpClient.sendRaw frame : Calling schema H Unit).Performs Move := by
  refine performs_of_step fun client => ?_
  unfold final
  rcases sendRaw_cases client frame with hsend | ⟨room, hsend⟩
  · rw [hsend]
    exact .of_eq rfl rfl rfl
  · rw [hsend]
    refine .quiet ⟨[frame], rfl, fun other hother => ?_⟩ rfl rfl
    rw [List.mem_singleton.mp hother, hframe]

theorem moves_recvInbound :
    (AcpClient.recvInbound : Calling schema H (Option (AcpMessage schema))).Performs Move := by
  refine performs_of_step fun client => ?_
  rw [final, exec_recvInbound]
  exact .of_eq rfl rfl rfl

theorem moves_serve [ClientHandler schema H] (id : RequestId)
    (request : AgentToClientRequest schema) :
    (AcpClient.serve id request : Calling schema H Unit).Performs Move := by
  refine performs_of_step fun client => ?_
  unfold final AcpClient.serve
  rw [exec_bind, exec_get]
  dsimp only
  rcases ClientHandler.handleRequest client.handler id request with ⟨outcome, handler⟩
  dsimp only
  rw [exec_bind, exec_set]
  cases outcome with
  | respond outcome =>
      dsimp only
      rw [exec_bind]
      rcases sendRaw_cases { client with handler } (.reply id outcome) with hsend | ⟨room, hsend⟩
      · rw [hsend]
        exact .of_eq rfl rfl rfl
      · rw [hsend]
        exact .answer id outcome rfl rfl rfl
  | defer => exact .defer id rfl rfl rfl

theorem moves_nextMessage [ClientHandler schema H] :
    (AcpClient.nextMessage : Calling schema H (Option (AcpMessage schema))).Performs Move := by
  refine performs_bind moves_recvInbound fun message => ?_
  cases message with
  | none => exact performs_pure _
  | some message =>
      cases message with
      | request id request => exact performs_bind (moves_serve id request) fun _ => performs_pure _
      | notification notification =>
          exact performs_bind (performs_of_step fun _ => .of_eq rfl rfl rfl) fun _ =>
            performs_pure _
      | response id outcome => exact performs_pure _

theorem moves_waitRounds [ClientHandler schema H] (id : RequestId) (rounds : Nat) :
    (AcpClient.waitRounds id rounds : Calling schema H Json).Performs Move := by
  induction rounds with
  | zero => exact performs_throw _
  | succ rounds ih =>
      refine performs_bind moves_nextMessage fun message => ?_
      cases message with
      | none => exact performs_throw _
      | some message =>
          cases message with
          | request id' request => exact ih
          | notification notification => exact ih
          | response got outcome =>
              dsimp only
              split
              · cases outcome with
                | ok value => exact performs_pure _
                | error error => exact performs_throw _
              · exact performs_bind (performs_of_step fun _ => .of_eq rfl rfl rfl) fun _ => ih

theorem moves_waitForResponse [ClientHandler schema H] (id : RequestId) :
    (AcpClient.waitForResponse id : Calling schema H Json).Performs Move :=
  performs_bind performs_get fun _ => moves_waitRounds id _

theorem moves_request [ClientHandler schema H] {α : Type} (read : Json → Except String α)
    (method : String) (params : Json) :
    (AcpClient.request read method params : Calling schema H α).Performs Move := by
  have hid : (AcpClient.nextRequestId : Calling schema H RequestId).Performs Move :=
    performs_of_step fun _ => .of_eq rfl rfl rfl
  refine performs_bind hid fun id => ?_
  refine performs_bind (moves_sendRaw _ rfl) fun _ => ?_
  refine performs_bind (moves_waitForResponse id) fun value => ?_
  cases read value with
  | ok result => exact performs_pure _
  | error text => exact performs_throw _

/-- An answer takes the request out of the deferred ones, so there is no second. -/
theorem moves_respond (id : RequestId) (outcome : Except schema.Error Json) :
    (AcpClient.respond id outcome : Calling schema H Unit).Performs Move := by
  refine performs_of_step fun client => ?_
  unfold final AcpClient.respond AcpClient.takeDeferred
  rw [exec_bind, exec_bind, exec_get]
  dsimp only
  by_cases hheld : id ∈ client.deferred
  · rw [if_pos hheld, exec_set]
    dsimp only
    rw [exec_bind]
    rcases sendRaw_cases { client with deferred := client.deferred.erase id }
      (.reply id outcome) with hsend | ⟨room, hsend⟩
    · rw [hsend]
      exact .drop id rfl rfl rfl
    · rw [hsend]
      exact .respond id outcome hheld rfl rfl rfl
  · rw [if_neg hheld]
    exact .of_eq rfl rfl rfl

theorem Op.consistent [ClientHandler schema H] (op : Op schema) (h : Consistent client) :
    Consistent (op.run client) := by
  have hkeeps : ∀ {α : Type} {call : Calling schema H α}, call.Performs Move →
      Consistent (call.final client) :=
    fun hmoves => hmoves.preserves (fun _ _ hmove hs => hmove.consistent hs) h
  cases op with
  | arrive lines =>
      have hmove : Move client ((Op.arrive lines).run client) := .of_eq rfl rfl rfl
      exact hmove.consistent h
  | nextMessage => exact hkeeps moves_nextMessage
  | waitForResponse id => exact hkeeps (moves_waitForResponse id)
  | request method params => exact hkeeps (moves_request .ok method params)
  | notify method params => exact hkeeps (moves_sendRaw _ rfl)
  | respond id outcome => exact hkeeps (moves_respond id outcome)

theorem consistent_of_reachable [ClientHandler schema H]
    (h : (clientSystem schema H).Reachable client) : Consistent client := by
  refine System.invariant_of_step ?_ ?_ h
  · rintro start ⟨hsent, hdeferred, hhistory⟩
    refine ⟨?_, fun id => ?_⟩
    · rw [hsent, hhistory]
      rfl
    · rw [hdeferred, hhistory]
      exact Nat.le_refl 0
  · rintro client op _ hclient - ⟨⟩
    exact op.consistent hclient

end Runs

/-! ## every request is answered -/

/-- **Requests**: in a wait of a client whose writer works, each request that is read
is answered once or deferred, and none of them makes the call fail, if and only if
every request that is read can be served.  A deferred request is answered at most
once later, in every run. -/
theorem requests_answered [ClientHandler schema H] {client client' : AcpClient schema H}
    (hclient : (clientSystem schema H).Reachable client) (hroom : client.transport.room = none)
    {id : RequestId} {result : Except (ClientError schema) Json}
    (h : (AcpClient.waitForResponse id).exec client = (result, client')) :
    ∃ read handled, Serves client client' read handled ∧
      (AllServable schema read ↔ EachHandled read handled ∧
        ∀ error, result = .error error → error ≠ .closed →
          ∀ line, read.getLast? = some line → frameOf schema line = none) ∧
      (result = .error .closed → client'.transport.lines = []) ∧
      ∀ later : AcpClient schema H,
        (System.ofNext (· = client')
          (fun client (op : Op schema) => some (op.run client))).Reachable later →
        later.transport.sent.filter (·.replyTo.isSome) = later.history.filterMap Handled.reply? ∧
          ∀ id, (later.history.filterMap Handled.responded?).count id ≤
            (later.history.filterMap Handled.deferred?).count id := by
  obtain ⟨read, handled, hserves, hends⟩ :=
    waitRounds_cases id (client.transport.lines.length + 1) hroom (Nat.lt_succ_self _) h
  refine ⟨read, handled, hserves, ?_, ?_, ?_⟩
  · cases hends with
    | @broken error front line hread hfront heach hbreaks =>
        have hlast : read.getLast? = some line := by
          rw [hread, List.getLast?_append, List.getLast?_singleton]
          rfl
        -- the line that broke holds no request
        have hback : frameOf schema line = none → Idle schema [line] := by
          intro hnone other hmem
          rw [List.mem_singleton.mp hmem, hnone]
        constructor
        · intro hservable
          have hnone : frameOf schema line = none := by
            cases hframe : frameOf schema line with
            | none => rfl
            | some frame =>
                have hmem : line ∈ read := List.mem_of_getLast? hlast
                exact absurd (hservable line hmem frame hframe) (hbreaks frame hframe)
          refine ⟨?_, fun _ _ _ other hother => ?_⟩
          · rw [hread, ← List.append_nil handled]
            exact heach.append (hback hnone).eachHandled
          · rw [hlast] at hother
            cases hother
            exact hnone
        · rintro ⟨-, hothers⟩
          rw [hread]
          exact hfront.append (hback (hothers _ rfl nofun line hlast)).allServable
    | closed hservable heach hlines =>
        exact ⟨fun _ => ⟨heach, fun error herror hne => absurd (by cases herror; rfl) hne⟩,
          fun _ => hservable⟩
    | @response front line _ hread hservable heach hframe =>
        refine ⟨fun _ => ⟨heach, fun error _ _ other hother => ?_⟩, fun _ => hservable⟩
        rw [hread, List.getLast?_append, List.getLast?_singleton] at hother
        cases hother
        exact hframe
  · rintro rfl
    cases hends with
    | closed hservable heach hlines => exact hlines
    | response hread hservable heach hframe hne => exact absurd rfl hne
  · intro later hlater
    have hconsistent : Consistent later := by
      refine System.invariant_of_step ?_ ?_ hlater
      · rintro _ rfl
        have hmoves := (moves_waitForResponse id).preserves
          (fun _ _ hmove hs => Move.consistent hmove hs) (consistent_of_reachable hclient)
        rwa [final, h] at hmoves
      · rintro client op _ hsame - ⟨⟩
        exact op.consistent hsame
    refine ⟨hconsistent.replies, fun id => ?_⟩
    have hle := hconsistent.once id
    omega

/-! ## an agent that asks for a permission without params -/

def askLine : String :=
  "\x7b\"jsonrpc\":\"2.0\",\"id\":7,\"method\":\"session/request_permission\",\"params\":\x7b\x7d\x7d\n"

def readLine : String :=
  "\x7b\"jsonrpc\":\"2.0\",\"id\":8,\"method\":\"fs/read_text_file\",\"params\":\x7b\x7d\x7d\n"

def responseLine : String := "\x7b\"jsonrpc\":\"2.0\",\"id\":1,\"result\":\x7b\x7d\x7d\n"

/-- What the three lines say. -/
def sampleFromStr (line : String) : Except String Json :=
  let request (id : Int) (method : String) : Json :=
    .obj [("jsonrpc", .str "2.0"), ("id", .int id), ("method", .str method), ("params", .obj [])]
  if line = trimmed askLine then .ok (request 7 "session/request_permission")
  else if line = trimmed readLine then .ok (request 8 "fs/read_text_file")
  else if line = trimmed responseLine then
    .ok (.obj [("jsonrpc", .str "2.0"), ("id", .int 1), ("result", .obj [])])
  else .error "expected value at line 1 column 1"

/-- The required fields of a permission request. -/
def samplePermission : Json → Except String Fields
  | .obj fields =>
      match fields.lookup "sessionId", fields.lookup "toolCall", fields.lookup "options" with
      | some (.str _), some (.obj _), some (.arr _) => .ok fields
      | some (.str _), some (.obj _), none => .error "missing field `options`"
      | some (.str _), none, _ => .error "missing field `toolCall`"
      | none, _, _ => .error "missing field `sessionId`"
      | _, _, _ => .error "invalid type"
  | _ => .error "invalid type"

def sampleSchema : Schema where
  Permission := Fields
  Update := Json
  Cancel := Json
  Error := Int × String
  methodNotFound := (-32601, "Method not found")
  fromStr := sampleFromStr
  permission := samplePermission
  update := .ok
  cancel := .ok
  error _ := .error "invalid error"

def sampleClient (lines : List String) : AcpClient sampleSchema DenyAllHandler where
  transport := { lines }
  handler := {}

/-- A request of an unknown method is answered, and the wait goes on. -/
theorem requests_answered_sample :
    ∃ (client' : AcpClient sampleSchema DenyAllHandler) (read : List String)
      (handled : List (Handled sampleSchema)),
      (AcpClient.waitForResponse (.number 1)).exec (sampleClient [readLine, responseLine]) =
        (.ok (.obj []), client') ∧
      Serves (sampleClient [readLine, responseLine]) client' read handled ∧
        EachHandled read handled := by
  obtain ⟨client', hexec⟩ : ∃ client' : AcpClient sampleSchema DenyAllHandler,
      (AcpClient.waitForResponse (.number 1)).exec (sampleClient [readLine, responseLine]) =
        (.ok (.obj []), client') := ⟨_, rfl⟩
  obtain ⟨read, handled, hserves, hiff, -, -⟩ :=
    requests_answered (.init ⟨rfl, rfl, rfl⟩) rfl hexec
  refine ⟨client', read, handled, hexec, hserves, (hiff.mp ?_).1⟩
  intro line hline frame hframe
  have hmem : line ∈ [readLine, responseLine] := by
    have hlines : [readLine, responseLine] = read ++ client'.transport.lines := hserves.lines
    rw [hlines]
    exact List.mem_append_left _ hline
  rcases List.mem_cons.mp hmem with rfl | hmem
  · have hread : frameOf sampleSchema readLine =
        some ⟨.int 8, "fs/read_text_file", some (.obj [])⟩ := rfl
    rw [hread] at hframe
    cases hframe
    refine ⟨by decide +kernel, fun n hn => ?_, fun hmethod => absurd hmethod (by decide)⟩
    cases hn
    decide
  · rw [List.mem_singleton.mp hmem] at hframe
    have hnone : frameOf sampleSchema responseLine = none := rfl
    rw [hnone] at hframe
    contradiction

/-- The request is dropped and the call that waits for another response fails. -/
theorem request_unanswered :
    ∃ client' : AcpClient sampleSchema DenyAllHandler,
      (AcpClient.request .ok "session/prompt" .null).exec
          (sampleClient [askLine, responseLine]) =
        (.error (.wire (.malformed
          "invalid params for session/request_permission: missing field `sessionId`")),
          client') ∧
      (frameOf sampleSchema askLine).isSome = true ∧
      client'.transport.sent = [.request (.number 1) "session/prompt" .null] ∧
      client'.deferred = ∅ ∧ client'.transport.lines = [responseLine] :=
  ⟨_, rfl, by decide +kernel, rfl, rfl, rfl⟩

end Acp

end Slight
