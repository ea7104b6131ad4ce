import Slight.Client.Replay
import Slight.Gateway.Acks

/-!
# Slight.Client.CatchUp

A client that has fallen behind catches up with a host that appends nothing:
the client asks for a replay, the host answers one page, the client takes it in
and asks again while its cursor is below the latest sequence.

The client names the point it wants to continue from `fromSequence`; the host
reads `after_sequence`.  So the host always answers the first page of its
journal (`eventsReplay_replayCommand`), and the exchange ends only where that
page reaches the end (`converges_iff`).
-/

namespace Slight

open GatewayConnection

/-! ## the host -/

/-- A host as far as the replay of one session needs it. -/
structure ReplayHost where
  summary : SessionSummary
  journal : List SequencedEvent
  maxReplayEvents : Option Nat

namespace ReplayHost

/-- The gateway's answer to `events.replay`. -/
def eventsReplay (host : ReplayHost) (command : GatewayCommand) : GatewayAck :=
  match command.sessionId with
  | none => ackError command.requestId
  | some sessionId =>
      if sessionId = host.summary.id then
        ackOk command.requestId (attachResult sessionId
          (attachJournal host.summary host.journal command.afterSequence)
          (replayPage host.maxReplayEvents))
      else ackError command.requestId

/-- The first page of the journal. -/
def page (host : ReplayHost) : List SequencedEvent :=
  (host.journal.filter fun event => 0 < event.sequence).take (replayPage host.maxReplayEvents)

/-- The host finds no sequence number in the client's params. -/
theorem afterSequence_replayCommand (requestId : RequestId) (sessionId : String)
    (fromSequence received : Nat) :
    (replayCommand requestId sessionId fromSequence received).afterSequence = none := rfl

/-- Whatever the client asks to continue from, the answer is the first page. -/
theorem eventsReplay_replayCommand (host : ReplayHost) (requestId : RequestId)
    (fromSequence received : Nat) :
    host.eventsReplay (replayCommand requestId host.summary.id fromSequence received) =
      ackOk requestId (replayResult (.ofSummary host.summary) host.page host.summary.lastSequence
        (host.journal.head?.map (·.sequence)) false) := by
  have hid : (replayCommand requestId host.summary.id fromSequence received).sessionId =
      some host.summary.id := rfl
  unfold eventsReplay
  rw [hid]
  dsimp only
  rw [if_pos rfl, afterSequence_replayCommand]
  rfl

end ReplayHost

/-! ## the exchange -/

/-- The client, and its requests for the host's session on their way. -/
structure Exchange where
  client : GatewayConnection
  requests : List GatewayCommand

namespace Exchange

/-- What the client sent for the host's session between two of its states. -/
def ofSent (host : ReplayHost) (before after : GatewayConnection) : Exchange where
  client := after
  requests := (after.outbox.drop before.outbox.length).filter
    (·.sessionId = some host.summary.id)

/-- The host answers the oldest request and the client takes the answer in. -/
def round (host : ReplayHost) (x : Exchange) : Exchange :=
  match x.requests with
  | [] => x
  | command :: rest =>
      let next := ofSent host x.client (x.client.handleAck (host.eventsReplay command))
      { next with requests := rest ++ next.requests }

def rounds (host : ReplayHost) (x : Exchange) : Nat → Exchange
  | 0 => x
  | n + 1 => (x.rounds host n).round host

/-- How an exchange starts: a reconnect restores the attachments, or an event of
the journal arrives that leaves a gap. -/
inductive Starts (host : ReplayHost) (client : GatewayConnection) : Exchange → Prop
  | restored (hattached : host.summary.id ∈ client.attachedSessions) :
      Starts host client (ofSent host client client.restoreAttachments)
  | gap (event : SequencedEvent) (hmem : event ∈ host.journal)
      (hgap : client.cursor host.summary.id + 1 < event.sequence)
      (hpending : host.summary.id ∉ client.pendingAttachSessions) :
      Starts host client
        (ofSent host client (client.handleEvent (gatewayEvent host.summary.id event)))

/-- Every answer taken in before the client has caught up moves its cursor, and
the exchange ends with the client caught up, each missed event emitted once. -/
structure Converges (host : ReplayHost) (client : GatewayConnection) (x : Exchange) : Prop where
  progress : ∀ n, (x.rounds host n).requests ≠ [] →
    (x.rounds host n).client.cursor host.summary.id < host.summary.lastSequence →
    (x.rounds host n).client.cursor host.summary.id <
      (x.rounds host (n + 1)).client.cursor host.summary.id
  ends : ∃ n, (x.rounds host n).requests = [] ∧
    (x.rounds host n).client.cursor host.summary.id = host.summary.lastSequence ∧
    eventsIn ((x.rounds host n).client.emitted.drop client.emitted.length) =
      (host.journal.filter fun event => client.cursor host.summary.id < event.sequence).map
        (gatewayEvent host.summary.id)

end Exchange

/-! ## one round -/

namespace GatewayConnection

/-- The acknowledgement of a background replay: the request is forgotten, and
its result is taken in. -/
theorem handleAck_of_awaits {connection : GatewayConnection} {sessionId : String}
    {command : GatewayCommand} (h : connection.Awaits sessionId command)
    (attach : SessionAttachResult) :
    ∃ settled : GatewayConnection,
      settled.journal = connection.journal ∧ settled.outbox = connection.outbox ∧
      settled.emitted = connection.emitted ∧
      settled.pendingAttachSessions = connection.pendingAttachSessions ∧
      connection.handleAck (ackOk command.requestId attach) =
        (settled.ingestBackgroundResult attach).emit (.ack (ackOk command.requestId attach)) := by
  refine ⟨({ connection with
    backgroundReplayRequests := connection.backgroundReplayRequests.erase command.requestId
    pendingAttachSessionByRequest :=
      connection.pendingAttachSessionByRequest.erase command.requestId
    idsFresh := fun id hid => connection.idsFresh id (AList.mem_erase.mp hid).2 } :
      GatewayConnection).resolveAck (ackOk command.requestId attach), rfl, rfl, rfl, rfl, ?_⟩
  have hname : commandName.eventsReplay ∈ attachLikeCommands := by decide
  unfold handleAck
  simp only [ackOk, h.named, h.noAttach, h.background, hname, ingestAttachResult, and_self,
    decide_true, if_true]

end GatewayConnection

namespace Exchange

/-- The cursor after the host's page. -/
def reached (host : ReplayHost) (c : Nat) : Nat :=
  Support.Cursor.after SequencedEvent.sequence c host.page

/-- **One round**: where the page leaves no hole, the cursor moves to its end,
its accepted events are emitted, and one request is left if that is not the
latest sequence. -/
theorem round_of_awaits (host : ReplayHost) {client : GatewayConnection} {command : GatewayCommand}
    (h : client.Awaits host.summary.id command) {c : Nat} (hc : client.cursor host.summary.id = c)
    (hgaps : Support.Cursor.gaps SequencedEvent.sequence c host.page = []) :
    let next := round host ⟨client, [command]⟩
    next.client.cursor host.summary.id = reached host c ∧
    (∃ new, next.client.emitted = client.emitted ++ new ∧
      eventsIn new = (Support.Cursor.accepted SequencedEvent.sequence c host.page).map
        (gatewayEvent host.summary.id)) ∧
    (reached host c < host.summary.lastSequence →
      ∃ command', next.requests = [command'] ∧ next.client.Awaits host.summary.id command') ∧
    (host.summary.lastSequence ≤ reached host c → next.requests = []) := by
  intro next
  obtain ⟨fromSequence, received, hcommand⟩ := h.asks
  obtain ⟨settled, hjournal, houtbox, hemitted, hpending, hack⟩ := handleAck_of_awaits h
    (replayResult (.ofSummary host.summary) host.page host.summary.lastSequence
      (host.journal.head?.map (·.sequence)) false)
  have hcursor : settled.cursor host.summary.id = c := by rw [← hc, cursor, cursor, hjournal]
  have hreplays := replays_ingestBackgroundResult (.ofSummary host.summary) host.page
    host.summary.lastSequence (host.journal.head?.map (·.sequence)) false settled
  have hnone : settled.gapRequests host.summary.id host.page = 0 := by
    rw [gapRequests, hcursor, hgaps]
    exact ite_self _
  have hanswer := hack
  rw [← host.eventsReplay_replayCommand command.requestId fromSequence received, ← hcommand]
    at hanswer
  have hid : (SessionSummaryDto.ofSummary host.summary).id = host.summary.id := rfl
  rw [hid, hnone, hcursor, Nat.zero_add] at hreplays
  obtain ⟨new, hnew, hevents, -⟩ := hreplays.emitted
  obtain ⟨sent, hsent, hawaits, hlength⟩ := hreplays.outbox
  have hfilter : sent.filter (·.sessionId = some host.summary.id) = sent := by
    refine List.filter_eq_self.mpr fun command' hmem => ?_
    obtain ⟨_, _, heq⟩ := (hawaits command' hmem).asks
    rw [heq]
    exact decide_eq_true rfl
  have hrequests : next.requests = sent := by
    show [] ++ (ofSent host client (client.handleAck (host.eventsReplay command))).requests = sent
    rw [hanswer, List.nil_append, ofSent]
    show (List.drop _ (GatewayConnection.outbox _)).filter _ = sent
    rw [emit, hsent, houtbox, List.drop_left, hfilter]
  have hclient : next.client = client.handleAck (host.eventsReplay command) := rfl
  refine ⟨?_, ⟨new ++ [.ack (host.eventsReplay command)], ?_, ?_⟩, ?_, ?_⟩
  · rw [hclient, hanswer, cursor_emit, hreplays.cursor, hcursor]
    rfl
  · rw [hclient, hanswer, emit, hnew, hemitted, List.append_assoc]
  · rw [eventsIn_append, hevents, hcursor]
    exact List.append_nil _
  · intro hlt
    have hone : sent.length = 1 := by rw [hlength]; exact if_pos hlt
    obtain ⟨command', hsent'⟩ := List.length_eq_one_iff.mp hone
    refine ⟨command', hrequests.trans hsent', ?_⟩
    rw [hclient, hanswer]
    exact keepsAwaiting_emit _ _ _ _ (hawaits command' (by rw [hsent']; exact List.mem_cons_self))
  · intro hle
    have hzero : sent.length = 0 := by rw [hlength]; exact if_neg (Nat.not_lt.mpr hle)
    rw [hrequests]
    exact List.length_eq_zero_iff.mp hzero

/-! ## the whole exchange -/

/-- However the exchange starts, one request is on its way and the client has
taken nothing in. -/
theorem Starts.awaits {host : ReplayHost} {client : GatewayConnection} {x : Exchange}
    (h : Starts host client x) :
    x.client.cursor host.summary.id = client.cursor host.summary.id ∧
    (∃ new, x.client.emitted = client.emitted ++ new ∧ eventsIn new = []) ∧
    ∃ command, x.requests = [command] ∧ x.client.Awaits host.summary.id command := by
  cases h with
  | restored hattached =>
      have h := restores_foldl client.attachedSessions client
      obtain ⟨sent, hsent, hids, hawaits⟩ := h.outbox
      have hfilter : (sent.filter (·.sessionId = some host.summary.id)).map (·.sessionId) =
          [some host.summary.id] := by
        have hmap := List.filter_map (f := fun command : GatewayCommand => command.sessionId)
          (p := fun id => id = some host.summary.id) (l := sent)
        rw [hids, List.filter_eq, List.count_eq_one_of_mem] at hmap
        · exact hmap.symm
        · exact client.attachedNodup.map (Option.some_injective _)
        · exact List.mem_map_of_mem hattached
      have hrequests : (ofSent host client client.restoreAttachments).requests =
          sent.filter (·.sessionId = some host.summary.id) := by
        rw [ofSent, restoreAttachments, hsent, List.drop_left]
      refine ⟨h.cursor _, h.emitted, ?_⟩
      rw [hrequests]
      obtain ⟨command, hcommand, -⟩ := List.map_eq_singleton_iff.mp hfilter
      have hmem : command ∈ sent.filter (·.sessionId = some host.summary.id) := by
        rw [hcommand]
        exact List.mem_singleton_self command
      obtain ⟨hin, hid⟩ := List.mem_filter.mp hmem
      exact ⟨command, hcommand, hawaits command hin _ (of_decide_eq_true hid)⟩
  | gap event hmem hgap hpending =>
      have h := replays_handleEvent host.summary.id event client
      have hdispose : Support.Cursor.dispose (client.cursor host.summary.id) event.sequence = .gap :=
        Support.Cursor.dispose_eq_gap_iff.mpr hgap
      obtain ⟨new, hnew, hevents, -⟩ := h.emitted
      obtain ⟨sent, hsent, hawaits, hlength⟩ := h.outbox
      have hone : sent.length = 1 := by
        rw [hlength, gapRequests, if_neg hpending]
        simp [Support.Cursor.gaps, hdispose]
      obtain ⟨command, rfl⟩ := List.length_eq_one_iff.mp hone
      have hcommand := hawaits command List.mem_cons_self
      refine ⟨?_, ⟨new, hnew, ?_⟩, command, ?_, hcommand⟩
      · show GatewayConnection.cursor (client.handleEvent _) _ = _
        rw [h.cursor]
        exact Support.Cursor.advance_of_gap hdispose
      · rw [hevents]
        simp [Support.Cursor.accepted, hdispose]
      · obtain ⟨_, _, heq⟩ := hcommand.asks
        rw [ofSent, hsent, List.drop_left, List.filter_singleton, heq]
        simp [replayCommand]

theorem round_of_nil (host : ReplayHost) {x : Exchange} (h : x.requests = []) :
    round host x = x := by
  rw [round, h]

theorem rounds_of_nil (host : ReplayHost) {x : Exchange} (h : x.requests = []) (n : Nat) :
    x.rounds host n = x := by
  induction n with
  | zero => rfl
  | succ n ih => rw [rounds, ih, round_of_nil host h]

theorem rounds_succ (host : ReplayHost) (x : Exchange) (n : Nat) :
    x.rounds host (n + 1) = (x.round host).rounds host n := by
  induction n with
  | zero => rfl
  | succ n ih => rw [rounds, ih, rounds]

/-! ### contiguous journals -/

section

variable {host : ReplayHost} {lo : Nat} (hlo : 0 < lo)
  (hjournal : host.journal.map SequencedEvent.sequence =
    List.range' lo (host.summary.lastSequence + 1 - lo))

include hjournal in
theorem sequence_bounds {event : SequencedEvent} (hmem : event ∈ host.journal) :
    lo ≤ event.sequence ∧ event.sequence ≤ host.summary.lastSequence := by
  have hrange : event.sequence ∈ List.range' lo (host.summary.lastSequence + 1 - lo) :=
    hjournal ▸ List.mem_map_of_mem hmem
  have := List.mem_range'_1.mp hrange
  omega

include hlo hjournal

theorem page_eq_take : host.page = host.journal.take (replayPage host.maxReplayEvents) := by
  have hall : host.journal.filter (fun event => 0 < event.sequence) = host.journal := by
    refine List.filter_eq_self.mpr fun event hmem => decide_eq_true ?_
    have := sequence_bounds hjournal hmem
    omega
  rw [ReplayHost.page, hall]

/-- The page of a contiguous journal is its front. -/
theorem page_sequences : host.page.map SequencedEvent.sequence =
    List.range' lo (min (host.summary.lastSequence + 1 - lo)
      (replayPage host.maxReplayEvents)) := by
  rw [page_eq_take hlo hjournal, List.map_take, hjournal]
  rcases Nat.le_total (host.summary.lastSequence + 1 - lo) (replayPage host.maxReplayEvents)
    with h | h
  · rw [List.take_range'_of_length_le h, Nat.min_eq_left h]
  · rw [List.take_range'_of_length_ge h, Nat.min_eq_right h]

/-- The page moves a cursor at or beyond its start to its end. -/
theorem accepted_page {c : Nat} (hlower : lo ≤ c + 1) :
    Support.Cursor.accepted SequencedEvent.sequence c host.page =
        host.page.filter (fun event => c < event.sequence) ∧
      Support.Cursor.gaps SequencedEvent.sequence c host.page = [] ∧
      reached host c = max c (min host.summary.lastSequence
        (lo + replayPage host.maxReplayEvents - 1)) := by
  obtain ⟨hacc, hgaps, hafter⟩ :=
    Support.Cursor.accepted_of_range SequencedEvent.sequence hlower (page_sequences hlo hjournal)
  refine ⟨hacc, hgaps, ?_⟩
  rw [reached, hafter]
  omega

/-- A client that is at the end, or whose page reaches it, misses only events of
the page. -/
theorem filter_page {c : Nat} (h : c = host.summary.lastSequence ∨
    host.summary.lastSequence < lo + replayPage host.maxReplayEvents) :
    host.page.filter (fun event => c < event.sequence) =
      host.journal.filter (fun event => c < event.sequence) := by
  rw [page_eq_take hlo hjournal]
  rcases h with rfl | hfits
  · have hnone : host.journal.filter
        (fun event => host.summary.lastSequence < event.sequence) = [] := by
      refine List.filter_eq_nil_iff.mpr fun event hmem => ?_
      have := sequence_bounds hjournal hmem
      simp only [decide_eq_true_eq]
      omega
    have hsub := (List.take_sublist (replayPage host.maxReplayEvents) host.journal).filter
      (fun event => host.summary.lastSequence < event.sequence)
    rw [hnone] at hsub ⊢
    exact List.sublist_nil.mp hsub
  · have hlength := congrArg List.length hjournal
    rw [List.length_map, List.length_range'] at hlength
    rw [List.take_of_length_le (by omega)]

/-- **When the client catches up**: a client whose cursor is at most one below
the journal `lo..hi` converges exactly when it is there already or the journal
fits one page. -/
theorem converges_iff (client : GatewayConnection)
    (hlower : lo ≤ client.cursor host.summary.id + 1)
    (hupper : client.cursor host.summary.id ≤ host.summary.lastSequence)
    {x : Exchange} (hstart : Starts host client x) :
    Converges host client x ↔
      client.cursor host.summary.id = host.summary.lastSequence ∨
        host.summary.lastSequence < lo + replayPage host.maxReplayEvents := by
  obtain ⟨hcursor, ⟨new, hnew, hevents⟩, command, hrequests, hawaits⟩ := hstart.awaits
  obtain ⟨start, requests⟩ := x
  obtain rfl : requests = [command] := hrequests
  dsimp only at hcursor hnew hawaits
  generalize hc : client.cursor host.summary.id = c at hcursor hlower hupper ⊢
  obtain ⟨hacc, hgaps, hreached⟩ := accepted_page hlo hjournal hlower
  obtain ⟨hfirst, ⟨new₁, hnew₁, hevents₁⟩, hasks, hrests⟩ :=
    round_of_awaits host hawaits hcursor hgaps
  have hone : rounds host ⟨start, [command]⟩ 1 = round host ⟨start, [command]⟩ := rfl
  constructor
  · intro hconverges
    by_contra hfits
    have hbehind : reached host c < host.summary.lastSequence := by omega
    -- the second answer is the first page again
    obtain ⟨command', hrequests', hawaits'⟩ := hasks hbehind
    obtain ⟨-, hgaps', hreached'⟩ := accepted_page (c := reached host c) hlo hjournal (by omega)
    obtain ⟨hsecond, -⟩ := round_of_awaits host hawaits' hfirst hgaps'
    have htwo : rounds host ⟨start, [command]⟩ (1 + 1) =
        round host (round host ⟨start, [command]⟩) := rfl
    have hmoves := hconverges.progress 1
    rw [htwo, hone] at hmoves
    have hnext : round host ⟨start, [command]⟩ =
        ⟨(round host ⟨start, [command]⟩).client, [command']⟩ := by rw [← hrequests']
    rw [hrequests', hfirst] at hmoves
    have := hmoves (List.cons_ne_nil _ _) hbehind
    rw [hnext, hsecond] at this
    omega
  · intro hfits
    have hends : reached host c = host.summary.lastSequence := by omega
    have hdone := hrests (Nat.le_of_eq hends.symm)
    have hlater : ∀ n, rounds host ⟨start, [command]⟩ (n + 1) = round host ⟨start, [command]⟩ :=
      fun n => (rounds_succ host _ n).trans (rounds_of_nil host hdone n)
    constructor
    · intro n hasks' hbehind
      cases n with
      | zero =>
          rw [hlater, hfirst, hends]
          exact hbehind
      | succ n =>
          rw [hlater] at hasks'
          exact absurd hdone hasks'
    · refine ⟨1, hdone, hfirst.trans hends, ?_⟩
      rw [hone, hnew₁, hnew, List.append_assoc, List.drop_left, eventsIn_append, hevents,
        List.nil_append, hevents₁, hacc, filter_page hlo hjournal hfits, hc]

end

/-- A host whose session has the events 1 to 6. -/
def sampleHost (maxReplayEvents : Option Nat) : ReplayHost where
  summary := sampleSummary
  journal := sampleEvents [1, 2, 3, 4, 5, 6]
  maxReplayEvents := maxReplayEvents

/-- A client that has attached to the session and seen nothing of it. -/
def sampleClient : GatewayConnection :=
  { initial with
    attachedSessions := ["s1"]
    attachedNodup := List.nodup_singleton "s1" }

/-- A journal that fits one page is caught up with. -/
theorem converges_iff_one_page :
    Converges (sampleHost none) sampleClient
      (ofSent (sampleHost none) sampleClient sampleClient.restoreAttachments) :=
  (converges_iff (by decide : 0 < 1) (by decide) sampleClient (by decide) (by decide)
    (.restored (by decide))).mpr (.inr (by decide))

/-- **Catching up stalls**: six events missed and pages of two.  The first answer
brings the events 1 and 2, and so does the second. -/
theorem catch_up_stalls :
    ∃ (host : ReplayHost) (client : GatewayConnection) (x : Exchange),
      host.journal.map SequencedEvent.sequence =
        List.range' 1 (host.summary.lastSequence + 1 - 1) ∧
      client.cursor host.summary.id = 0 ∧ Starts host client x ∧ ¬ Converges host client x := by
  refine ⟨sampleHost (some 2), sampleClient,
    ofSent (sampleHost (some 2)) sampleClient sampleClient.restoreAttachments, by decide, by decide,
    .restored (by decide), fun h => ?_⟩
  generalize hx : ofSent (sampleHost (some 2)) sampleClient sampleClient.restoreAttachments = x at h
  have hcursor₁ : (x.rounds (sampleHost (some 2)) 1).client.cursor "s1" = 2 := by subst hx; rfl
  have hcursor₂ : (x.rounds (sampleHost (some 2)) 2).client.cursor "s1" = 2 := by subst hx; rfl
  have hrequests : (x.rounds (sampleHost (some 2)) 1).requests.length = 1 := by subst hx; rfl
  have hmoves := h.progress 1 (List.ne_nil_of_length_eq_add_one hrequests)
  have hid : (sampleHost (some 2)).summary.id = "s1" := rfl
  rw [hid, hcursor₁, hcursor₂] at hmoves
  exact absurd (hmoves (by decide)) (by decide)

end Exchange

end Slight
