import Slight.Host.Flags

/-!
# Slight.Host.Threads

What a step of a thread of the host comes to.  `Hosting.remaining` bounds what the threads
have left to do once the flag to stop is set; `Hosting.Sound` is what holds of a host whatever
happens.

* `Hosting.Moves` — a step of a connection;
* `Hosting.Advances` — a step of the thread in `serve`;
* `Hosting.Pumps` — a step of the pump.
-/

namespace Slight

namespace HostService

open Gateway Support Support.Program

variable {W M S C A : Type}

/-! ## what is left to do once the flag is set -/

def ConnectionPhase.remaining : ConnectionPhase → Nat
  | .ended => 0
  | .checking => 1
  | .upgrading => 2
  | .writing => 2
  | .reading => 3

/-- A listener may yield one more connection, which is upgraded and closed. -/
def Serving.remaining : Serving → Nat
  | .returned _ => 0
  | .joining _ => 1
  | .stopped _ => 2
  | .polling => 3
  | .accepting left => 4 + 3 * left
  | .starting => 4
  | .bound => 5

def Pumping.remaining : Pumping → Nat
  | .ended => 0
  | .unstarted => 0
  | .checking => 1
  | .pumping => 2

namespace Hosting

/-- A bound on the steps that the threads take once the flag is set. -/
def remaining (s : Hosting W S C A) : Nat :=
  (s.connections.map (·.phase.remaining)).sum + s.serving.remaining + s.pumping.remaining

/-- The rounds that the pump is in. -/
def inPump (s : Hosting W S C A) : Nat := (decide (s.pumping = .pumping)).toNat

/-- The reads that connection `i` is in. -/
def inRead (s : Hosting W S C A) (i : Nat) : Nat := (s.connection? i .reading).isSome.toNat

end Hosting

theorem ConnectionPhase.remaining_le {phase : ConnectionPhase} : phase.remaining ≤ 3 := by
  cases phase <;> decide

/-- What is left changes with the one entry that does. -/
theorem sum_map_set {α : Type} (f : α → Nat) {as : List α} {i : Nat} {a b : α}
    (h : as[i]? = some a) : ((as.set i b).map f).sum + f a = (as.map f).sum + f b := by
  induction as generalizing i with
  | nil => cases h
  | cons c as ih =>
      cases i with
      | zero =>
          obtain rfl : c = a := Option.some.inj h
          simp only [List.set_cons_zero, List.map_cons, List.sum_cons]
          omega
      | succ i =>
          have hrest := ih h
          simp only [List.set_cons_succ, List.map_cons, List.sum_cons]
          omega

/-! ### the steps of a connection -/

namespace Hosting

variable {s t : Hosting W S C A} {i : Nat}

/-- The thread of connection `i` took a step, in which something `asked` the host to stop. -/
structure Moves (s t : Hosting W S C A) (i : Nat) (asked : Bool) (connection : Connection W)
    (handler : Handler W S C (HostAdminImpl A)) (phase : ConnectionPhase) : Prop where
  was : s.connections[i]? = some connection
  took : t = s.take i handler phase
  heeds : Heeds asked (connection.handler s.server).connected handler.connected
  welcomed : Welcomed handler.connected.state
  lowers : s.stopping = true → phase.remaining < connection.phase.remaining

section

variable [WebSocket W M]

/-- Going on, or leaving the loop. -/
theorem moves_proceed {asked : Bool} {connection : Connection W}
    {handler : Handler W S C (HostAdminImpl A)} {phase : ConnectionPhase}
    (hwas : s.connections[i]? = some connection)
    (hheeds : Heeds asked (connection.handler s.server).connected handler.connected ∧
      Welcomed handler.connected.state)
    (hlowers : phase.remaining < connection.phase.remaining) :
    ∃ handler' phase', s.Moves (s.proceed i handler phase) i asked connection handler' phase' := by
  unfold proceed
  split
  · exact ⟨handler, phase, hwas, rfl, hheeds.1, hheeds.2, fun _ => hlowers⟩
  · exact ⟨handler.finish, .ended, hwas, rfl, hheeds.1, hheeds.2,
      fun _ => Nat.zero_lt_of_lt hlowers⟩

theorem moves_upgrade {done : Bool} (hwelcomed : ∀ connection ∈ s.connections,
    Welcomed connection.state) (h : s.upgrade i done = some t) :
    ∃ connection handler phase, s.Moves t i false connection handler phase := by
  obtain ⟨connection, hconnection, rfl⟩ := Option.map_eq_some_iff.mp h
  obtain ⟨hwas, hphase⟩ := connection?_eq_some.mp hconnection
  refine ⟨connection, _, _, hwas, rfl, .of_admin rfl,
    hwelcomed connection (List.mem_of_getElem? hwas), fun _ => ?_⟩
  rw [hphase]
  cases done <;> decide

theorem moves_check (hwelcomed : ∀ connection ∈ s.connections, Welcomed connection.state)
    (h : s.check i = some t) :
    ∃ connection handler phase, s.Moves t i false connection handler phase := by
  obtain ⟨connection, hconnection, rfl⟩ := Option.map_eq_some_iff.mp h
  obtain ⟨hwas, hphase⟩ := connection?_eq_some.mp hconnection
  have hstate := hwelcomed connection (List.mem_of_getElem? hwas)
  split
  · refine ⟨connection, _, _, hwas, rfl, .of_admin rfl, hstate, fun _ => ?_⟩
    rw [hphase]
    decide
  · next hflag =>
    exact ⟨connection, _, _, hwas, rfl, .of_admin rfl, hstate, fun hset => absurd hset hflag⟩

theorem moves_write {config : GatewayConfig} {encode : Frame → Except ProtocolError M}
    {due : Bool} {order : List SessionId}
    (hwelcomed : ∀ connection ∈ s.connections, Welcomed connection.state)
    (h : s.write config encode i due order = some t) :
    ∃ connection handler phase, s.Moves t i false connection handler phase := by
  obtain ⟨connection, hconnection, rfl⟩ := Option.map_eq_some_iff.mp h
  obtain ⟨hwas, hphase⟩ := connection?_eq_some.mp hconnection
  refine ⟨connection, moves_proceed hwas ?_ ?_⟩
  · rw [connected_write]
    have hstate : Welcomed (connection.handler s.server).connected.state :=
      hwelcomed connection (List.mem_of_getElem? hwas)
    obtain ⟨hdrains, hstate⟩ := heeds_drainEvents hstate order
    obtain ⟨hbeats, hstate⟩ := heeds_sendHeartbeat hstate config due
    exact ⟨hdrains.trans hbeats, hstate⟩
  · rw [hphase]
    decide

/-- A read that asks the host to stop. -/
def readStops (s : Hosting W S C A) (i : Nat) : Bool :=
  (s.connection? i .reading).any fun connection =>
    readAsksToStop connection.socket connection.state

theorem moves_read [SessionStore S] [AcpSession C] [AcpDiscovery C] [HostAdmin S C A]
    [Authenticator A] [HostLog A] {config : GatewayConfig}
    (hwelcomed : ∀ connection ∈ s.connections, Welcomed connection.state)
    (h : s.read config i = some t) :
    ∃ connection handler phase, s.Moves t i (s.readStops i) connection handler phase := by
  obtain ⟨connection, hconnection, rfl⟩ := Option.map_eq_some_iff.mp h
  obtain ⟨hwas, hphase⟩ := connection?_eq_some.mp hconnection
  refine ⟨connection, moves_proceed hwas ?_ ?_⟩
  · rw [readStops, hconnection]
    exact heeds_receive config (hwelcomed connection (List.mem_of_getElem? hwas))
  · rw [hphase]
    decide

end

/-! ### the steps of all threads -/

/-- The step asks the host to stop. -/
def stopsOn [WebSocket W M] (s : Hosting W S C A) : HostingStep W → Bool
  | .shutdown => true
  | .read i => s.readStops i
  | _ => false

end Hosting

namespace Serving

/-- While the flag that says so is set. -/
def isRunning : Serving → Bool
  | .bound | .joining _ | .returned _ => false
  | _ => true

end Serving

namespace HostingStep

/-- A step of a thread: the host's owner may call `shutdown` and `serve` at any time. -/
def ofThread : HostingStep W → Bool
  | .shutdown | .serve => false
  | _ => true

def isPump : HostingStep W → Bool
  | .pump => true
  | _ => false

def isRead (i : Nat) : HostingStep W → Bool
  | .read j => i = j
  | _ => false

end HostingStep

namespace Hosting

variable {s t : Hosting W S C A} {i : Nat}

/-- What holds of a host whatever happens. -/
structure Sound (s : Hosting W S C A) : Prop where
  welcomed : ∀ connection ∈ s.connections, Welcomed connection.state
  started : s.pumping = .unstarted ↔ s.serving = .bound
  ended : s.pumping = .ended → s.stopping = true
  returned : ∀ result, s.serving = .returned result → s.pumping = .ended
  asking : ∀ left, s.serving = .accepting left → left ≤ s.listeners.length
  running : s.server.admin.running = s.serving.isRunning

theorem Sound.new (world : World S C) (rest : A) (listeners : List String) :
    (Hosting.new world rest listeners : Hosting W S C A).Sound where
  welcomed := List.forall_mem_nil _
  started := ⟨fun _ => rfl, fun _ => rfl⟩
  ended h := by cases h
  returned _ h := by cases h
  asking _ h := by cases h
  running := rfl

/-- A step of a connection. -/
theorem Sound.moves (h : s.Sound) {asked : Bool} {connection : Connection W}
    {handler : Handler W S C (HostAdminImpl A)} {phase : ConnectionPhase}
    (hmoves : s.Moves t i asked connection handler phase) :
    t.Sound ∧ t.stopping = (s.stopping || asked) := by
  have hstopping : t.stopping = (s.stopping || asked) := by
    rw [hmoves.took]
    exact hmoves.heeds.2
  refine ⟨?_, hstopping⟩
  have hended : s.pumping = .ended → t.stopping = true := fun hpump => by
    rw [hstopping, h.ended hpump, Bool.true_or]
  obtain rfl := hmoves.took
  refine ⟨fun other hother => ?_, h.started, hended, h.returned, h.asking, ?_⟩
  · rcases List.mem_or_eq_of_mem_set hother with hmem | rfl
    · exact h.welcomed other hmem
    · exact hmoves.welcomed
  · exact hmoves.heeds.1.trans h.running

/-- What is left to do shrinks when a connection takes a step. -/
theorem Moves.remaining {asked : Bool} {connection : Connection W}
    {handler : Handler W S C (HostAdminImpl A)} {phase : ConnectionPhase}
    (hmoves : s.Moves t i asked connection handler phase) (hset : s.stopping = true) :
    t.remaining + 1 ≤ s.remaining := by
  have hlowers := hmoves.lowers hset
  have hsum := sum_map_set (fun connection : Connection W => connection.phase.remaining)
    (b := .ofHandler handler phase) hmoves.was
  rw [hmoves.took]
  simp only [Hosting.remaining, take] at hsum ⊢
  have hphase : (Connection.ofHandler handler phase).phase = phase := rfl
  rw [hphase] at hsum
  omega

/-- Once the flag is set, no connection starts to read. -/
theorem Moves.inRead_le {asked : Bool} {connection : Connection W}
    {handler : Handler W S C (HostAdminImpl A)} {phase : ConnectionPhase}
    (hmoves : s.Moves t i asked connection handler phase) (hset : s.stopping = true) (j : Nat) :
    t.inRead j ≤ s.inRead j ∧ t.inRead i = 0 := by
  have hnone : (s.take i handler phase).inRead i = 0 := by
    have hphase : phase ≠ .reading := by
      rintro rfl
      exact absurd (hmoves.lowers hset) (Nat.not_lt.mpr ConnectionPhase.remaining_le)
    have hlookup : (s.take i handler phase).connection? i .reading = none := by
      have hlength := (List.getElem?_eq_some_iff.mp hmoves.was).1
      rw [connection?, take, List.getElem?_set_self hlength]
      exact Option.filter_some_neg (decide_eq_false hphase)
    rw [inRead, hlookup]
    rfl
  rw [hmoves.took]
  refine ⟨?_, hnone⟩
  by_cases hij : j = i
  · rw [hij, hnone]
    exact Nat.zero_le _
  · have hsame : (s.take i handler phase).connection? j .reading = s.connection? j .reading := by
      rw [connection?, connection?, take, List.getElem?_set_ne (Ne.symm hij)]
    rw [inRead, inRead, hsame]

end Hosting

/-! ### the steps of the thread in `serve` -/

namespace Hosting

variable {s t : Hosting W S C A} {i : Nat}

/-- The thread in `serve` took a step, in which connections may have arrived. -/
structure Advances (s t : Hosting W S C A) (arrived : List W) : Prop where
  stopping : t.stopping = s.stopping
  pumping : t.pumping = s.pumping
  listeners : t.listeners = s.listeners
  connections : t.connections = s.connections ++ arrived.map .new
  started : s.serving ≠ .bound ∧ t.serving ≠ .bound
  returned : ∀ result, t.serving = .returned result → s.pumping = .ended
  asking : ∀ left, t.serving = .accepting left → left ≤ s.listeners.length
  running : t.server.admin.running = t.serving.isRunning
  lowers : s.stopping = true →
    t.serving.remaining + 2 * arrived.length < s.serving.remaining

theorem Sound.stepServe (h : s.Sound) {serving serving' : Serving} (hwas : s.serving = serving)
    (hrunning : serving'.isRunning = serving.isRunning)
    (hstarted : serving ≠ .bound ∧ serving' ≠ .bound)
    (hreturned : ∀ result, serving' = .returned result → s.pumping = .ended)
    (hasking : ∀ left, serving' = .accepting left → left ≤ s.listeners.length)
    (hlowers : s.stopping = true → serving'.remaining < serving.remaining) :
    s.Advances { s with serving := serving' } [] where
  stopping := rfl
  pumping := rfl
  listeners := rfl
  connections := (List.append_nil _).symm
  started := hwas ▸ hstarted
  returned := hreturned
  asking := hasking
  running := by rw [hrunning, ← hwas, ← h.running]
  lowers := hwas ▸ hlowers

theorem Sound.listen (h : s.Sound) {outcome : Except IoErrorKind Unit}
    (hstep : s.listen outcome = some t) : ∃ arrived, s.Advances t arrived := by
  unfold Hosting.listen at hstep
  split at hstep
  · next hwas =>
    obtain rfl := Option.some.inj hstep
    exact ⟨[], h.stepServe hwas rfl (by simp) (by simp) (by simp) (by simp [Serving.remaining])⟩
  · next hwas =>
    obtain rfl := Option.some.inj hstep
    exact ⟨[], h.stepServe hwas rfl (by simp) (by simp) (by simp) (by simp [Serving.remaining])⟩
  · cases hstep

theorem Sound.poll (h : s.Sound) (hstep : s.poll = some t) :
    ∃ arrived, s.Advances t arrived := by
  unfold Hosting.poll at hstep
  split at hstep
  · next hwas =>
    obtain rfl := Option.some.inj hstep
    refine ⟨[], h.stepServe hwas ?_ ?_ ?_ ?_ ?_⟩
    · split <;> rfl
    · split <;> simp
    · split <;> simp
    · split
      · simp
      · intro left hleft
        exact (Serving.accepting.inj hleft).ge
    · intro hset
      rw [if_pos hset]
      decide
  · cases hstep

theorem Sound.accept (h : s.Sound) {accepted : Accepted W}
    (hstep : s.accept accepted = some t) : ∃ arrived, s.Advances t arrived := by
  unfold Hosting.accept at hstep
  split at hstep
  · next left socket hwas =>
    obtain rfl := Option.some.inj hstep
    refine ⟨[socket], rfl, rfl, rfl, rfl, ⟨by simp [hwas], by simp⟩, by simp, ?_, ?_, ?_⟩
    · intro left' hleft
      obtain rfl := Serving.accepting.inj hleft
      exact (Nat.le_succ _).trans (h.asking _ hwas)
    · exact h.running.trans (by rw [hwas]; rfl)
    · intro _
      rw [hwas]
      simp only [Serving.remaining, List.length_singleton]
      omega
  · next hwas =>
    obtain rfl := Option.some.inj hstep
    refine ⟨[], h.stepServe hwas rfl (by simp) (by simp) (by simp) fun _ => ?_⟩
    simp only [Serving.remaining]
    omega
  · next left hwas =>
    obtain rfl := Option.some.inj hstep
    refine ⟨[], h.stepServe hwas rfl (by simp) (by simp) ?_ fun _ => ?_⟩
    · intro left' hleft
      obtain rfl := Serving.accepting.inj hleft
      exact (Nat.le_succ _).trans (h.asking _ hwas)
    · simp only [Serving.remaining]
      omega
  · next hwas =>
    obtain rfl := Option.some.inj hstep
    refine ⟨[], h.stepServe hwas rfl (by simp) (by simp) (by simp) fun _ => ?_⟩
    simp only [Serving.remaining]
    omega
  · cases hstep

theorem Sound.sleep (h : s.Sound) (hstep : s.sleep = some t) :
    ∃ arrived, s.Advances t arrived := by
  unfold Hosting.sleep at hstep
  split at hstep
  · next hwas =>
    obtain rfl := Option.some.inj hstep
    exact ⟨[], h.stepServe hwas rfl (by simp) (by simp) (by simp) (by simp [Serving.remaining])⟩
  · cases hstep

theorem advances_leave (hstep : s.leave = some t) :
    ∃ arrived, s.Advances t arrived := by
  unfold Hosting.leave at hstep
  split at hstep
  · next hwas =>
    obtain rfl := Option.some.inj hstep
    refine ⟨[], rfl, rfl, rfl, (List.append_nil _).symm, ⟨by simp [hwas], by simp⟩, by simp,
      by simp, rfl, fun _ => ?_⟩
    rw [hwas]
    exact Nat.lt_succ_self 1
  · cases hstep

theorem Sound.join (h : s.Sound) (hstep : s.join = some t) :
    ∃ arrived, s.Advances t arrived := by
  unfold Hosting.join at hstep
  split at hstep
  · next hwas hended =>
    obtain rfl := Option.some.inj hstep
    exact ⟨[], h.stepServe hwas rfl (by simp) (fun _ _ => hended) (by simp)
      (by simp [Serving.remaining])⟩
  · cases hstep

theorem Sound.advances (h : s.Sound) {arrived : List W} (hadvances : s.Advances t arrived) :
    t.Sound where
  welcomed := by
    intro connection hconnection
    rw [hadvances.connections, List.mem_append, List.mem_map] at hconnection
    rcases hconnection with hmem | ⟨socket, -, rfl⟩
    · exact h.welcomed connection hmem
    · rfl
  started := by
    have hstarted : s.pumping ≠ .unstarted := fun hpump => hadvances.started.1 (h.started.mp hpump)
    rw [hadvances.pumping]
    exact ⟨fun hpump => absurd hpump hstarted, fun hbound => absurd hbound hadvances.started.2⟩
  ended := by
    rw [hadvances.pumping, hadvances.stopping]
    exact h.ended
  returned := by
    rw [hadvances.pumping]
    exact hadvances.returned
  asking := by
    rw [hadvances.listeners]
    exact hadvances.asking
  running := hadvances.running

theorem Advances.remaining {arrived : List W} (hadvances : s.Advances t arrived)
    (hset : s.stopping = true) : t.remaining + 1 ≤ s.remaining := by
  have hlowers := hadvances.lowers hset
  have harrived : ((arrived.map Connection.new).map (·.phase.remaining)).sum =
      2 * arrived.length := by
    simp [Function.comp_def, Connection.new, ConnectionPhase.remaining, Nat.mul_comm]
  simp only [Hosting.remaining, hadvances.connections, hadvances.pumping, List.map_append,
    List.sum_append, harrived]
  omega

/-- A connection that has just arrived is not read from. -/
theorem Advances.inRead {arrived : List W} (hadvances : s.Advances t arrived) (j : Nat) :
    t.inRead j = s.inRead j := by
  have hlookup : t.connection? j .reading = s.connection? j .reading := by
    rw [connection?, connection?, hadvances.connections, List.getElem?_append]
    split
    · rfl
    · next hlength =>
      rw [List.getElem?_eq_none (Nat.not_lt.mp hlength), List.getElem?_map]
      cases arrived[j - s.connections.length]? with
      | none => rfl
      | some socket => rfl
  rw [Hosting.inRead, Hosting.inRead, hlookup]

/-! ### the steps of the pump -/

/-- The pump took a step; `round` says whether it pumped. -/
structure Pumps (s t : Hosting W S C A) (round : Bool) : Prop where
  sound : t.Sound
  stopping : t.stopping = s.stopping
  listeners : t.listeners = s.listeners
  connections : t.connections = s.connections
  lowers : s.stopping = true → t.remaining + 1 ≤ s.remaining
  inPump : s.stopping = true → t.inPump + round.toNat ≤ s.inPump

/-- The pump runs, so that `serve` was called and has not returned. -/
theorem Sound.stepPump (h : s.Sound) {phase phase' : Pumping} (hwas : s.pumping = phase)
    (hruns : phase ≠ .unstarted ∧ phase ≠ .ended) (hstarted : phase' ≠ .unstarted)
    (hended : phase' = .ended → s.stopping = true) : Sound { s with pumping := phase' } where
  welcomed := h.welcomed
  started := by
    refine ⟨fun hpump => absurd hpump hstarted, fun hbound => ?_⟩
    exact absurd (hwas.symm.trans (h.started.mpr hbound)) hruns.1
  ended := hended
  returned result hresult := absurd (hwas.symm.trans (h.returned result hresult)) hruns.2
  asking := h.asking
  running := h.running

theorem Sound.checkPump (h : s.Sound) (hstep : s.checkPump = some t) : s.Pumps t false := by
  unfold Hosting.checkPump at hstep
  split at hstep
  · next hwas =>
    obtain rfl := Option.some.inj hstep
    refine ⟨h.stepPump hwas (by decide) ?_ ?_, rfl, rfl, rfl, fun hset => ?_, fun hset => ?_⟩
    · split <;> simp
    · split
      · exact fun _ => ‹_›
      · simp
    · simp only [Hosting.remaining, hset, hwas, if_true, Pumping.remaining]
      omega
    · simp [Hosting.inPump, hset]
  · cases hstep

theorem Sound.pump [SessionStore S] [AcpSession C] (h : s.Sound) (hstep : s.pump = some t) :
    s.Pumps t true := by
  unfold Hosting.pump at hstep
  split at hstep
  · next hwas =>
    obtain rfl := Option.some.inj hstep
    have hsound : Sound { s with pumping := .checking } :=
      h.stepPump hwas (by decide) (by decide) (by simp)
    refine ⟨⟨h.welcomed, hsound.started, hsound.ended, hsound.returned, h.asking, h.running⟩,
      rfl, rfl, rfl, fun _ => ?_, fun _ => ?_⟩
    · simp only [Hosting.remaining, hwas, Pumping.remaining]
      omega
    · simp [Hosting.inPump, hwas]
  · cases hstep

/-! ### how much is left -/

theorem sum_remaining_le (connections : List (Connection W)) :
    (connections.map (·.phase.remaining)).sum ≤ 3 * connections.length := by
  rw [Nat.mul_comm, ← List.length_map (·.phase.remaining)]
  refine List.sum_le_card_nsmul _ _ fun cost hcost => ?_
  obtain ⟨connection, -, rfl⟩ := List.mem_map.mp hcost
  exact ConnectionPhase.remaining_le

/-- **What is left to do** is bounded by the connections and the listeners. -/
theorem Sound.remaining_le (h : s.Sound) :
    s.remaining ≤ 3 * s.connections.length + 3 * s.listeners.length + 7 := by
  have hsum := sum_remaining_le s.connections
  have hpump : s.pumping.remaining ≤ 2 := by
    cases s.pumping <;> decide
  have hserving : s.serving.remaining ≤ 3 * s.listeners.length + 5 := by
    cases hwas : s.serving with
    | accepting left =>
        have hasking := h.asking left hwas
        simp only [Serving.remaining]
        omega
    | _ => simp only [Serving.remaining]; omega
  rw [remaining]
  omega

end Hosting

end HostService

end Slight
