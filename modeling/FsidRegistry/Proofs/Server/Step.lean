import Mathlib.Logic.Relation
import FsidRegistry.Server.Basic

/-!
# The steps of a server

`Connection.step?`, `Server.serveStep?` and `Server.stopStep?` say what each task of a server
does.  This file turns each of them into a relation with one constructor for each kind of step
(`Connection.Step`, `ServeStep`, `StopStep`), so that a proof about all steps is a case
analysis with the guard and the new server of each case at hand.

* `Connection.step?_eq_some_iff`, `serveStep?_eq_some_iff`, `stopStep?_eq_some_iff`: the
  relations say neither more nor less than the functions; `step?_eq_some_iff` joins them for
  the whole server.
* `Next`, `Steps`, `Reachable`: one step of any task, any number of steps, and the servers that
  a new server can become.
-/

namespace FsidRegistry

/-! ## Packets -/

theorem extract_of_size_le {bytes : ByteArray} {n : Nat} (h : bytes.size ≤ n) :
    bytes.extract 0 n = bytes := by
  rw [ByteArray.extract_eq_extract_append_extract bytes.size (Nat.zero_le _) h,
    ByteArray.extract_zero_size, ByteArray.extract_eq_empty_iff.mpr (Nat.min_le_right _ _),
    ByteArray.append_empty]

/-- What is cut off a packet decides nothing about its request. -/
theorem Request.dispatch_extract {η : Type} (table : HandlerTable η) (packet : ByteArray) :
    Request.dispatch table (packet.extract 0 (packetLimit + 1)) =
      Request.dispatch table packet := by
  by_cases h : packet.size ≤ packetLimit + 1
  · rw [extract_of_size_le h]
  · have hlarge : packetLimit + 1 < packet.size := Nat.lt_of_not_le h
    have hcut : (packet.extract 0 (packetLimit + 1)).size = packetLimit + 1 := by
      rw [ByteArray.size_extract]
      omega
    unfold Request.dispatch
    rw [if_pos (by omega), if_pos (by omega)]

theorem Connection.phaseAfter_extract {η : Type} (table : HandlerTable η) (packet : ByteArray) :
    Connection.phaseAfter table (packet.extract 0 (packetLimit + 1)) =
      Connection.phaseAfter table packet := by
  have hsize : (packet.extract 0 (packetLimit + 1)).size = 0 ↔ packet.size = 0 := by
    rw [ByteArray.size_extract]
    omega
  unfold Connection.phaseAfter
  rw [Request.dispatch_extract]
  simp only [beq_iff_eq, hsize]

/-! ## Connections -/

namespace Connection

variable {η : Type} {table : HandlerTable η} {c d : Connection η} {e : ConnectionEvent}

/-- The steps of a connection's task. -/
inductive Step (table : HandlerTable η) (c : Connection η) : ConnectionEvent → Connection η → Prop
  | tests (h : c.phase = .testing) :
    Step table c .tests { c with phase := if c.inShutdown then .flagging else .polling }
  | polls (h : c.phase = .polling) :
    Step table c .polls { c with phase := if c.cancelled then .flagging else .receiving }
  | receives (packet : ByteArray) (h : c.phase = .receiving) :
    Step table c (.receives packet) { c with phase := phaseAfter table packet }
  | receiveFails (h : c.phase = .receiving) :
    Step table c .receiveFails { c with phase := .flagging }
  | receiveWaits (h : c.phase = .receiving) :
    Step table c .receiveWaits { c with phase := .polling }
  | answers (handler : η) (argument : String) (result : Except Error String)
      (h : c.phase = .handling handler argument) :
    Step table c (.answers result)
      { c with phase := .writing (Text.encode (Response.ofResult result).text) }
  | faults (handler : η) (argument : String) (h : c.phase = .handling handler argument) :
    Step table c .faults { c with phase := .faulted }
  | writes (response : ByteArray) (bytes : Nat) (h : c.phase = .writing response) :
    Step table c (.writes bytes)
      { c with phase := if bytes < response.size then .flagging else .testing }
  | writeFails (response : ByteArray) (h : c.phase = .writing response) :
    Step table c .writeFails { c with phase := .flagging }
  | writeGivesUp (response : ByteArray) (h : c.phase = .writing response)
      (hc : c.cancelled = true) :
    Step table c .writeGivesUp { c with phase := .flagging }
  | flags (h : c.phase = .flagging) :
    Step table c .flags { c with inShutdown := true, phase := .shutting }
  | shuts (h : c.phase = .shutting) : Step table c .shuts { c with phase := .cancelling }
  | cancels (h : c.phase = .cancelling) :
    Step table c .cancels { c with cancelled := true, phase := .untracking }

theorem step_of_step? (h : c.step? table e = some d) : Step table c e d := by
  cases e
  case writeGivesUp =>
    simp only [step?] at h
    split at h
    · split at h <;> cases h
      exact .writeGivesUp _ ‹_› ‹_›
    · cases h
  all_goals
    simp only [step?] at h
    split at h <;> cases h
    constructor
    assumption

theorem Step.step? (h : Step table c e d) : c.step? table e = some d := by
  cases h <;> simp_all [Connection.step?]

theorem step?_eq_some_iff : c.step? table e = some d ↔ Step table c e d :=
  ⟨step_of_step?, Step.step?⟩

/-- The flag and the token of a connection are never taken back by its own task. -/
theorem Step.rises (h : Step table c e d) :
    (c.inShutdown = true → d.inShutdown = true) ∧ (c.cancelled = true → d.cancelled = true) := by
  cases h <;> exact ⟨fun h => by first | exact h | rfl, fun h => by first | exact h | rfl⟩

end Connection

namespace Server

variable {η : Type} {s t : Server η}

/-! ## Fields -/

@[simp] theorem setServe_connections (loop : Nat) (p : ServePhase) :
    (s.setServe loop p).connections = s.connections := rfl
@[simp] theorem setServe_serves (loop : Nat) (p : ServePhase) :
    (s.setServe loop p).serves = s.serves.insert loop p := rfl

@[simp] theorem advanceStop_connections (n : Nat) (stop : Stop) (p : StopPhase) :
    (s.advanceStop n stop p).connections = s.connections := rfl
@[simp] theorem advanceStop_stops (n : Nat) (stop : Stop) (p : StopPhase) :
    (s.advanceStop n stop p).stops = s.stops.insert n { stop with phase := p } := rfl

@[simp] theorem notifyAll_stops : s.notifyAll.stops = s.stops.map Stop.notify := rfl

/-! ## Accept loops -/

/-- The steps of an accept loop. -/
inductive ServeStep (s : Server η) (loop : Nat) : ServePhase → ServeEvent → Server η → Prop
  | enters (h : s.tracker.inShutdown = false) :
    ServeStep s loop .entering .enters
      ({ s with tracker := { s.tracker with listening := true } }.setServe loop .marking)
  | refused (h : s.tracker.inShutdown = true) :
    ServeStep s loop .entering .enters (s.setServe loop (.ended .closed))
  | marks : ServeStep s loop .marking .marks ({ s with serving := true }.setServe loop .polling)
  | polls :
    ServeStep s loop .polling .polls
      (s.setServe loop (if s.stopRequested then .leaving .closed else .accepting))
  | accepts (stream : SocketId) :
    ServeStep s loop .accepting (.accepts stream) (s.setServe loop (.tracking stream))
  | acceptFails (error : IoError) :
    ServeStep s loop .accepting (.acceptFails error) (s.setServe loop (.leaving (.failed error)))
  | acceptWaits : ServeStep s loop .accepting .acceptWaits (s.setServe loop .polling)
  | abandons : ServeStep s loop .polling .abandons (s.setServe loop (.leaving .abandoned))
  | tracks (stream : SocketId) (h : s.tracker.inShutdown = false) :
    ServeStep s loop (.tracking stream) .tracks
      ({ s with
          lastId := s.lastId + 1
          tracker := { s.tracker with live := s.tracker.live ++ [s.lastId + 1] }
          connections := s.connections.insert (s.lastId + 1) { stream } }.setServe loop
        (.spawning (s.lastId + 1)))
  | turnedAway (stream : SocketId) (h : s.tracker.inShutdown = true) :
    ServeStep s loop (.tracking stream) .tracks
      ({ s with lastId := s.lastId + 1 }.setServe loop (.leaving .closed))
  | spawns (id : ConnectionId) :
    ServeStep s loop (.spawning id) .spawns
      ({ s with
          connections := s.connections.modify id ({ · with phase := .testing }) }.setServe loop
        .polling)
  | leaves (ending : ServeEnd) :
    ServeStep s loop (.leaving ending) .leaves
      ({ s with tracker := s.tracker.stopListening }.setServe loop (.notifying ending))
  | notifies (ending : ServeEnd) :
    ServeStep s loop (.notifying ending) .notifies (s.notifyAll.setServe loop (.ended ending))

theorem serveStep?_eq_some_iff {loop : Nat} {phase : ServePhase} {e : ServeEvent} :
    s.serveStep? loop phase e = some t ↔ ServeStep s loop phase e t := by
  constructor
  · intro h
    unfold serveStep? at h
    split at h
    case h_1 =>
      by_cases hs : s.tracker.inShutdown = true
      · rw [Tracker.startListening?, if_pos hs] at h
        cases h
        exact .refused hs
      · rw [Tracker.startListening?, if_neg hs] at h
        cases h
        exact .enters (by simpa using hs)
    case h_8 =>
      dsimp only at h
      by_cases hs : s.tracker.inShutdown = true
      · rw [Tracker.track?, if_pos hs] at h
        cases h
        exact .turnedAway _ hs
      · rw [Tracker.track?, if_neg hs] at h
        cases h
        exact .tracks _ (by simpa using hs)
    all_goals
      cases h <;> constructor
  · intro h
    cases h <;> simp_all [serveStep?, Tracker.startListening?, Tracker.track?]

/-! ## Stops -/

/-- The steps of a stop. -/
inductive StopStep (s : Server η) (n : Nat) (stop : Stop) : StopEvent → Server η → Prop
  | marks (h : stop.phase = .marking) :
    StopStep s n stop .marks
      ({ s with tracker := s.tracker.beginShutdown }.advanceStop n stop .notifying)
  | notifies (h : stop.phase = .notifying) :
    StopStep s n stop .notifies (s.notifyAll.advanceStop n stop .requesting)
  | requests (h : stop.phase = .requesting) :
    StopStep s n stop .requests ({ s with stopRequested := true }.advanceStop n stop .closing)
  | closes (removal : Listener.Removal) (h : stop.phase = .closing) :
    StopStep s n stop (.closes removal)
      ({ s with listener := (s.listener.release removal).2 }.advanceStop n
        (stop.noting (s.listener.release removal).1) (.awaitingLoops .registering))
  | waitsForLoops (w w' : Wait) (e : Wait.Event) (h : stop.phase = .awaitingLoops w)
      (hw : w.step? (!s.tracker.listening) e = some (some w')) :
    StopStep s n stop (.waits e) (s.advanceStop n stop (.awaitingLoops w'))
  | seesNoLoop (w : Wait) (e : Wait.Event) (h : stop.phase = .awaitingLoops w)
      (hw : w.step? (!s.tracker.listening) e = some none) :
    StopStep s n stop (.waits e) (s.advanceStop n stop .listing)
  | waitsForConnections (w w' : Wait) (limit : Instant) (e : Wait.Event)
      (h : stop.phase = .draining w limit)
      (hw : w.step? s.tracker.live.isEmpty e = some (some w')) :
    StopStep s n stop (.waits e) (s.advanceStop n stop (.draining w' limit))
  | seesNoConnection (w : Wait) (limit : Instant) (e : Wait.Event)
      (h : stop.phase = .draining w limit)
      (hw : w.step? s.tracker.live.isEmpty e = some none) :
    StopStep s n stop (.waits e) (s.advanceStop n stop .finished)
  | lists (h : stop.phase = .listing) :
    StopStep s n stop .lists (s.advanceStop n stop (Stop.turnTo stop.force s.tracker.live))
  | flags (id : ConnectionId) (rest : List ConnectionId) (h : stop.phase = .flagging id rest) :
    StopStep s n stop .flags
      ({ s with
          connections := s.connections.modify id ({ · with inShutdown := true }) }.advanceStop n
        stop (.shutting id rest))
  | shuts (id : ConnectionId) (rest : List ConnectionId) (outcome : Except IoError Unit)
      (h : stop.phase = .shutting id rest) :
    StopStep s n stop (.shuts outcome)
      (s.advanceStop n (stop.noting outcome)
        (if stop.force then .cancelling id rest else Stop.turnTo false rest))
  | cancels (id : ConnectionId) (rest : List ConnectionId) (h : stop.phase = .cancelling id rest) :
    StopStep s n stop .cancels
      ({ s with
          connections := s.connections.modify id ({ · with cancelled := true }) }.advanceStop n
        stop (Stop.turnTo true rest))
  | lingers (now : Instant) (h : stop.phase = .lingering) :
    StopStep s n stop (.lingers now)
      (s.advanceStop n stop (.draining .registering (now + stop.timeout.nanos)))
  | givesUp (now limit : Instant) (woken : Bool) (h : stop.phase = .draining (.parked woken) limit)
      (hl : limit ≤ now) :
    StopStep s n stop (.givesUp now) (s.advanceStop n stop .finished)

theorem stopStep?_eq_some_iff {n : Nat} {stop : Stop} {e : StopEvent} :
    s.stopStep? n stop e = some t ↔ StopStep s n stop e t := by
  constructor
  · intro h
    cases e
    case waits e =>
      simp only [stopStep?] at h
      split at h
      · rename_i w hw
        obtain ⟨o, ho, h⟩ := Option.map_eq_some_iff.mp h
        cases o <;> cases h
        · exact .seesNoLoop w e hw ho
        · exact .waitsForLoops w _ e hw ho
      · rename_i w limit hw
        obtain ⟨o, ho, h⟩ := Option.map_eq_some_iff.mp h
        cases o <;> cases h
        · exact .seesNoConnection w limit e hw ho
        · exact .waitsForConnections w _ limit e hw ho
      · cases h
    case givesUp now =>
      simp only [stopStep?] at h
      split at h
      · split at h <;> cases h
        exact .givesUp now _ _ ‹_› ‹_›
      · cases h
    all_goals
      simp only [stopStep?] at h
      split at h <;> cases h
      constructor
      assumption
  · intro h
    cases h <;> simp_all [stopStep?]

/-- A wait ends only when its condition is seen to hold. -/
theorem Wait.eq_true_of_step? {condition : Bool} {w : Wait} {e : Wait.Event}
    (h : w.step? condition e = some none) : condition = true := by
  unfold Wait.step? at h
  split at h
  · cases h
  · split at h
    · assumption
    · cases h
  · cases h
  · cases h

/-! ## Servers -/

/-- The steps of a server. -/
inductive Step (s : Server η) : ServerEvent → Server η → Prop
  | beginServe : Step s .beginServe (s.setServe s.serves.size .entering)
  | serve (loop : Nat) (phase : ServePhase) (e : ServeEvent) (t : Server η)
      (hp : s.serves.get? loop = some phase) (h : ServeStep s loop phase e t) :
    Step s (.serve loop e) t
  | connection (id : ConnectionId) (c d : Connection η) (e : ConnectionEvent)
      (hc : s.connections.get? id = some c) (h : c.Step s.handlers e d) :
    Step s (.connection id e) { s with connections := s.connections.insert id d }
  | untracks (id : ConnectionId) (c : Connection η) (hc : s.connections.get? id = some c)
      (h : c.phase = .untracking) :
    Step s (.untracks id)
      { s with
        tracker := s.tracker.untrack id
        connections := s.connections.insert id { c with phase := .notifying } }
  | announces (id : ConnectionId) (c : Connection η) (hc : s.connections.get? id = some c)
      (h : c.phase = .notifying) :
    Step s (.announces id)
      { s with connections := s.connections.insert id { c with phase := .ended } }.notifyAll
  | beginStop (force : Bool) (timeout : Duration) :
    Step s (.beginStop force timeout) (s.setStop s.stops.size { force, timeout })
  | stop (n : Nat) (stop : Stop) (e : StopEvent) (t : Server η)
      (hs : s.stops.get? n = some stop) (h : StopStep s n stop e t) :
    Step s (.stop n e) t

theorem step?_eq_some_iff {e : ServerEvent} : s.step? e = some t ↔ Step s e t := by
  constructor
  · intro h
    cases e
    case beginServe => cases h; exact .beginServe
    case beginStop => cases h; exact .beginStop _ _
    all_goals
      obtain ⟨x, hx, h⟩ := Option.bind_eq_some_iff.mp h
    case serve => exact .serve _ x _ _ hx (serveStep?_eq_some_iff.mp h)
    case stop => exact .stop _ x _ _ hx (stopStep?_eq_some_iff.mp h)
    case connection =>
      obtain ⟨d, hd, rfl⟩ := Option.map_eq_some_iff.mp h
      exact .connection _ x d _ hx (Connection.step?_eq_some_iff.mp hd)
    case untracks =>
      split at h <;> cases h
      exact .untracks _ x hx ‹_›
    case announces =>
      split at h <;> cases h
      exact .announces _ x hx ‹_›
  · intro h
    cases h
    case beginServe | beginStop => rfl
    case serve hp h => rw [step?, hp]; exact serveStep?_eq_some_iff.mpr h
    case stop hs h => rw [step?, hs]; exact stopStep?_eq_some_iff.mpr h
    case connection hc h =>
      rw [step?, hc, Option.bind_some, Connection.step?_eq_some_iff.mpr h, Option.map_some]
    case untracks hc h => rw [step?, hc, Option.bind_some, h]
    case announces hc h => rw [step?, hc, Option.bind_some, h]

/-! ## Runs -/

/-- One step of any task. -/
def Next (s t : Server η) : Prop := ∃ e, s.step? e = some t

/-- Any number of steps of any tasks, in any order. -/
abbrev Steps : Server η → Server η → Prop := Relation.ReflTransGen Next

/-- What a new server can become. -/
def Reachable (s : Server η) : Prop :=
  ∃ (listener : Listener) (handlers : HandlerTable η), Steps { listener, handlers } s

theorem Reachable.trans (hs : Reachable s) (h : Steps s t) : Reachable t := by
  obtain ⟨listener, handlers, hs⟩ := hs
  exact ⟨listener, handlers, hs.trans h⟩

/-- The server after a list of steps, if they can be made in that order. -/
def steps? (s : Server η) : List ServerEvent → Option (Server η)
  | [] => some s
  | e :: es => (s.step? e).bind (·.steps? es)

theorem steps_of_steps? {es : List ServerEvent} (h : s.steps? es = some t) : Steps s t := by
  induction es generalizing s with
  | nil => cases h; exact .refl
  | cons e es ih =>
    obtain ⟨u, hu, h⟩ := Option.bind_eq_some_iff.mp h
    exact .head ⟨e, hu⟩ (ih h)

end Server

end FsidRegistry
