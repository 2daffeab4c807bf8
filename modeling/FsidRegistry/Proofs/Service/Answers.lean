import FsidRegistry.Client
import FsidRegistry.Proofs.Service.Serving
import FsidRegistry.Proofs.Service.Tasks

/-!
# What a service answers

A service with the four commands over a memory store answers a request in few ways.  This file follows
its responses from the packet or the call that they come of to the bytes that are written, in every
order in which the tasks may go.

* `Response.Sized`: a response that a client receives whole, or one of the two kinds that may be too
  long for it.
* `Service.Sound`: everything a service knows is in line with a list of paths.
* `Service.Sound.acts`: so it stays in every step of a task.
-/

namespace FsidRegistry

/-! ## Responses -/

namespace Response

/-- The response to a verb that is no command. -/
def unknownCommand (verb : String) : Response := .err ("unknown command " ++ Text.quoted verb)

/-- The response to a request whose path was allocated by another one, time and again. -/
def lostRace (path : String) : Response := .err (Error.store (.conflict path)).message

/-- A response that a client receives whole, or one of the two kinds that may be too long. -/
inductive Sized : Response → Prop
  | fits (r : Response) (h : r.text.utf8ByteSize ≤ Client.bufferSize) : Sized r
  | unknownCommand (verb : String) : Sized (unknownCommand verb)
  | lostRace (path : String) (h : path.utf8ByteSize ≤ packetLimit) : Sized (lostRace path)

theorem utf8ByteSize_ok_le {value : String} (h : value.utf8ByteSize ≤ packetLimit) :
    (ok value).text.utf8ByteSize ≤ Client.bufferSize := by
  have hsign : ("+ " : String).utf8ByteSize = 2 := by decide
  rw [text, String.utf8ByteSize_append, hsign, Client.bufferSize]
  omega

theorem sized_ok {value : String} (h : value.utf8ByteSize ≤ packetLimit) : Sized (.ok value) :=
  .fits _ (utf8ByteSize_ok_le h)

theorem sized_err {message : String} (h : message.utf8ByteSize ≤ packetLimit) :
    Sized (.err message) := by
  refine .fits _ ?_
  have hsign : ("- " : String).utf8ByteSize = 2 := by decide
  rw [text, String.utf8ByteSize_append, hsign, Client.bufferSize]
  omega

end Response

/-- A path that a request can be about. -/
def Sendable (path : String) : Prop := path ≠ "" ∧ path.utf8ByteSize ≤ packetLimit

namespace Command

variable {command : Command} {argument : String} {paths : Ledger}

/-- A request is about the path that the command was given. -/
theorem about_of_start {request : CacheRequest} (h : command.start argument = .ok request)
    (ha : argument.utf8ByteSize ≤ packetLimit) : request.About Sendable := by
  cases command with
  | getFsid | getOrCreateFsid =>
    rw [start] at h
    split at h
    · cases h
    · rename_i hempty
      cases h
      exact ⟨fun he => hempty (String.isEmpty_iff.mpr he), ha⟩
  | getPath =>
    rw [start] at h
    split at h <;> cases h
    trivial
  | version => cases h

/-- No command makes a call that allocates at once. -/
theorem ne_allocate_of_start {request : CacheRequest} (h : command.start argument = .ok request)
    (path : String) : request ≠ .allocate path := by
  rintro rfl
  cases command with
  | getFsid | getOrCreateFsid | getPath =>
    rw [start] at h
    split at h <;> cases h
  | version => cases h

theorem sized_of_start {result : Except Error String} (h : command.start argument = .error result) :
    (Response.ofResult result).Sized := by
  cases command with
  | getFsid | getOrCreateFsid | getPath =>
    rw [start] at h
    split at h <;> cases h
    exact Response.sized_err (by decide)
  | version =>
    cases h
    exact Response.sized_ok (by decide)

theorem utf8ByteSize_text_le {pair : Pair} (hn : Numbered paths pair)
    (hl : paths.length ≤ issuable) : pair.1.text.utf8ByteSize ≤ packetLimit := by
  obtain ⟨i, hi, hv⟩ := hn
  have hlt : i < paths.length := (List.getElem?_eq_some_iff.mp hi).1
  have hsize := Text.utf8ByteSize_toString_le (n := i + 1) (by unfold issuable at hl; omega)
  rw [Ledger.text_of_val (n := i + 1) hv]
  exact Nat.le_trans hsize (by decide)

/-- What a command returns when its call of the cache has found a pair. -/
theorem finish_of_found (command : Command) {pair : Pair} (hn : Numbered paths pair)
    (hl : paths.length ≤ issuable) (hs : pair.2.utf8ByteSize ≤ packetLimit) :
    ∃ value, command.finish (.ok (some pair)) = .ok value ∧ value.utf8ByteSize ≤ packetLimit := by
  cases command with
  | getPath => exact ⟨pair.2, rfl, hs⟩
  | getFsid | getOrCreateFsid | version =>
    exact ⟨pair.1.text, rfl, utf8ByteSize_text_le hn hl⟩

/-- What a command returns at the end of its call of the cache. -/
theorem sized_of_finished {w : Worker} {result : Except Error (Option Pair)}
    (hw : w.Sound paths Sendable) (hs : ∀ path ∈ paths, Sendable path)
    (hl : paths.length ≤ issuable)
    (hp : w.call.phase = .finished result) :
    (Response.ofResult (command.finish result)).Sized := by
  cases result with
  | error e =>
    obtain rfl | ⟨e, rfl, he⟩ := hw.plain.failed e hp
    · exact Response.sized_err (by decide)
    · cases he with
      | notFound => exact Response.sized_err (by decide)
      | conflict path h => exact .lostRace path h.2
      | exhausted => exact Response.sized_err (by decide)
  | ok found =>
    cases found with
    | none => exact Response.sized_ok (Nat.zero_le _)
    | some pair =>
      obtain ⟨hn, _⟩ := hw.call.found pair (by rw [hp]; rfl)
      obtain ⟨value, hv, hfits⟩ := finish_of_found command hn hl (hs _ hn.mem).2
      rw [hv]
      exact Response.sized_ok hfits

end Command

namespace Service

variable {s t : Service} {id : ConnectionId} {c : Connection Handler} {paths after : Ledger}

/-! ## Everything in line -/

/-- A connection has a command at work on an argument that came in a packet, or writes a response. -/
def PhaseSound : ConnectionPhase Handler → Prop
  | .handling handler argument =>
    (∃ command, handler = .command command) ∧ argument.utf8ByteSize ≤ packetLimit
  | .writing bytes => ∃ r : Response, bytes = Text.encode r.text ∧ r.Sized
  | _ => True

/-- What a service knows is in line with a list of paths. -/
structure Sound (s : Service) (paths : Ledger) : Prop where
  handlers : s.server.handlers = Ledger.commandTable
  tracked : s.server.Tracked
  backend : s.backend.Holds paths
  sendable : ∀ path ∈ paths, Sendable path
  phases : ∀ id c, s.server.connections.get? id = some c → PhaseSound c.phase
  workers : ∀ id w, s.workers.get? id = some w → w.Sound paths Sendable ∧
    ∃ c command argument, s.server.connections.get? id = some c ∧
      c.phase = .handling (.command command) argument ∧
      command.start argument = .ok w.call.request

/-- A call that was made to create the fsid of a path has found the pair. -/
def Finding (workers : Dictionary ConnectionId Worker) (pair : Pair) : Prop :=
  ∃ id w, workers.get? id = some w ∧ w.call.phase.pair? = some pair ∧
    w.call.request = .fsidOrAllocate pair.2

/-- How the list of paths grows by a step: not at all, or by a path whose fsid a call has found. -/
inductive Grown (workers : Dictionary ConnectionId Worker) (paths : Ledger) : Ledger → Prop
  | stays : Grown workers paths paths
  | allocates (path : String) (fsid : Fsid) (hv : fsid.val = paths.length + 1)
      (hf : Finding workers (fsid, path)) : Grown workers paths (paths ++ [path])

theorem Grown.isPrefix {workers : Dictionary ConnectionId Worker} (h : Grown workers paths after) :
    paths <+: after := by
  cases h with
  | stays => exact List.prefix_refl paths
  | allocates path => exact List.prefix_append paths [path]

theorem command_of_get? {verb : String} {handler : Handler}
    (h : Ledger.commandTable.get? verb = some handler) : ∃ command, handler = .command command := by
  by_cases hv : ∃ command : Command, command.verb = verb
  · obtain ⟨command, rfl⟩ := hv
    rw [Ledger.commandTable_get?_verb] at h
    exact ⟨command, (Option.some.inj h).symm⟩
  · rw [Ledger.commandTable_get?_eq_none fun command hc => hv ⟨command, hc⟩] at h
    cases h

/-- A packet is answered on the spot, or by a command that gets a part of it. -/
theorem phaseSound_phaseAfter (packet : ByteArray) :
    PhaseSound (Connection.phaseAfter Ledger.commandTable packet) := by
  unfold Connection.phaseAfter Request.dispatch
  split
  · trivial
  by_cases hsize : packetLimit < packet.size
  · rw [if_pos hsize]
    exact ⟨_, rfl, Response.sized_err (by decide)⟩
  rw [if_neg hsize]
  cases hline : Text.decode? packet with
  | none => exact ⟨_, rfl, Response.sized_err (by decide)⟩
  | some line =>
    dsimp only
    cases hget : Ledger.commandTable.get? (Text.uppercase (Request.split line).1) with
    | none => exact ⟨_, rfl, .unknownCommand _⟩
    | some handler =>
      refine ⟨command_of_get? hget, ?_⟩
      have hbytes := Text.utf8ByteSize_of_decode? hline
      have hcut := (Ledger.cut_le line).2
      rw [← Ledger.split_eq_cut] at hcut
      show (Request.split line).2.utf8ByteSize ≤ packetLimit
      omega

/-! ## Steps of the server -/

/-- A step of the server in which no connection's loop and no call of the cache goes on. -/
structure Quiet (s t : Service) : Prop where
  step : ∃ e, s.server.Step e t.server ∧ ∀ id e', e ≠ .connection id e'
  backend : t.backend = s.backend
  workers : t.workers = s.workers

/-- A connection that a step of the server has made has done nothing yet. -/
theorem new_of_step {server server' : Server Handler} {e : ServerEvent}
    (h : server.Step e server') (hc : server'.connections.get? id = some c)
    (hnew : server.connections.get? id = none) : c = { stream := c.stream } := by
  -- What replaces a connection is no new one.
  have hinsert : ∀ {k : ConnectionId} {x y : Connection Handler},
      server.connections.get? k = some x →
      (server.connections.insert k y).get? id = some c → c = { stream := c.stream } := by
    intro k x y hx hget
    rw [Dictionary.get?_insert] at hget
    split at hget
    · rename_i hk
      rw [hk, hnew] at hx
      cases hx
    · rw [hnew] at hget
      cases hget
  have hmodify : ∀ {k : ConnectionId} {f : Connection Handler → Connection Handler},
      (server.connections.modify k f).get? id = some c → c = { stream := c.stream } := by
    intro k f hget
    rw [Dictionary.get?_modify, hnew] at hget
    split at hget <;> cases hget
  have hsame : server.connections.get? id = some c → c = { stream := c.stream } := by
    intro hget
    rw [hnew] at hget
    cases hget
  cases h with
  | beginServe | beginStop => exact hsame hc
  | connection k x y e hx => exact hinsert hx hc
  | untracks k x hx => exact hinsert hx hc
  | announces k x hx => exact hinsert hx hc
  | stop n stop e t hs h =>
    cases h with
    | flags | cancels => exact hmodify hc
    | _ => exact hsame hc
  | serve loop phase e t hp h =>
    cases h with
    | tracks stream =>
      rw [Server.setServe_connections, Dictionary.get?_insert] at hc
      split at hc
      · cases hc
        rfl
      · exact hsame hc
    | spawns => exact hmodify hc
    | _ => exact hsame hc

/-- Such a step leaves a connection in its phase while a request is at work for it. -/
theorem Quiet.handling (hq : Quiet s t) (ht : s.server.Tracked)
    (hc : s.server.connections.get? id = some c) {handler : Handler} {argument : String}
    (hphase : c.phase = .handling handler argument) :
    ∃ d, t.server.connections.get? id = some d ∧ d.phase = .handling handler argument := by
  obtain ⟨e, hstep, he⟩ := hq.step
  obtain ⟨d, hd, hmoves⟩ := hstep.moves ht hc
  refine ⟨d, hd, ?_⟩
  cases hmoves with
  | steps e' => exact absurd rfl (he id e')
  | starts _ hp | untracks hp | announces hp =>
    rw [hp] at hphase
    cases hphase
  | flags | cancels | stays => exact hphase

/-- A step of the server that is no step of a connection's loop keeps everything in line. -/
theorem Sound.quiet (h : Sound s paths) (hq : Quiet s t) : Sound t paths := by
  obtain ⟨e, hstep, he⟩ := hq.step
  refine ⟨?_, hstep.tracked h.tracked, hq.backend ▸ h.backend, h.sendable, fun id d hd => ?_,
    fun id w hw => ?_⟩
  · rw [hstep.handlers, h.handlers]
  · cases hc : s.server.connections.get? id with
    | none =>
      rw [new_of_step hstep hd hc]
      trivial
    | some c =>
      obtain ⟨d', hd', hmoves⟩ := hstep.moves h.tracked hc
      obtain rfl := Option.some.inj (hd.symm.trans hd')
      have hphase := h.phases id c hc
      cases hmoves with
      | steps e' => exact absurd rfl (he id e')
      | starts | untracks | announces => trivial
      | flags | cancels | stays => exact hphase
  · rw [hq.workers] at hw
    obtain ⟨hsound, c, command, argument, hc, hphase, hstart⟩ := h.workers id w hw
    obtain ⟨d, hd, hphase⟩ := hq.handling h.tracked hc hphase
    exact ⟨hsound, d, command, argument, hd, hphase, hstart⟩

/-! ## Steps of a connection's task -/

/-- A connection that has no call of the cache at work is replaced. -/
theorem Sound.of_replaced (h : Sound s paths) {server : Server Handler} {e : ServerEvent}
    {d : Connection Handler} (hstep : s.server.Step e server)
    (hserver : server.connections = s.server.connections.insert id d) (hd : PhaseSound d.phase)
    (ht : t.server = server) (hbackend : t.backend = s.backend)
    (hworkers : ∀ i w, t.workers.get? i = some w → id ≠ i ∧ s.workers.get? i = some w) :
    Sound t paths := by
  refine ⟨?_, ?_, hbackend ▸ h.backend, h.sendable, fun i x hx => ?_, fun i w hw => ?_⟩
  · rw [ht, hstep.handlers, h.handlers]
  · rw [ht]
    exact hstep.tracked h.tracked
  · rw [ht, hserver, Dictionary.get?_insert] at hx
    split at hx
    · cases hx
      exact hd
    · exact h.phases i x hx
  · obtain ⟨hne, hw⟩ := hworkers i w hw
    obtain ⟨hsound, x, command, argument, hx, hphase, hstart⟩ := h.workers i w hw
    refine ⟨hsound, x, command, argument, ?_, hphase, hstart⟩
    rw [ht, hserver, Dictionary.get?_insert, if_neg hne]
    exact hx

/-- Only a connection that handles a request has a call of the cache at work. -/
theorem Sound.not_worker (h : Sound s paths) (hc : s.server.connections.get? id = some c)
    (hphase : ∀ handler argument, c.phase ≠ .handling handler argument) :
    ∀ i w, s.workers.get? i = some w → id ≠ i ∧ s.workers.get? i = some w := by
  rintro i w hw
  refine ⟨?_, hw⟩
  rintro rfl
  obtain ⟨_, x, command, argument, hx, hp, _⟩ := h.workers id w hw
  obtain rfl := Option.some.inj (hc.symm.trans hx)
  exact hphase _ _ hp

theorem erased_worker (i : ConnectionId) (w : Worker)
    (hw : (s.workers.erase id).get? i = some w) : id ≠ i ∧ s.workers.get? i = some w := by
  rw [Dictionary.get?_erase] at hw
  split at hw
  · cases hw
  · rename_i hne
    exact ⟨hne, hw⟩

/-- A step of a connection's loop ends at a phase that is in line, if no request was at work. -/
theorem phaseSound_of_step {e : ConnectionEvent} {d : Connection Handler}
    (h : c.Step Ledger.commandTable e d)
    (hphase : ∀ handler argument, c.phase ≠ .handling handler argument) : PhaseSound d.phase := by
  cases h with
  | receives packet => exact phaseSound_phaseAfter packet
  | tests | polls | writes =>
    dsimp only
    split <;> trivial
  | answers handler argument _ hp => exact absurd hp (hphase handler argument)
  | faults | receiveFails | receiveWaits | writeFails | writeGivesUp | flags | shuts | cancels =>
    trivial

theorem sized_of_outcome (h : Sound s paths) {command : Command} {argument : String}
    {result : Except Error String} (ho : Outcome s id command argument result) :
    (Response.ofResult result).Sized := by
  cases ho with
  | atOnce _ _ hs => exact Command.sized_of_start hs
  | called w r hw hp =>
    exact Command.sized_of_finished (h.workers id w hw).1 h.sendable h.backend.length_le hp

/-- A step of a call of the cache keeps everything in line with the list, which may have grown. -/
theorem Sound.works (h : Sound s paths) {w w' : Worker} {backend : Backend} {at_ : Surroundings}
    (hw : s.workers.get? id = some w)
    (hstep : w.step? s.draw ⟨s.now, c.cancelled⟩ s.backend = some (w', backend, at_)) :
    ∃ after, Grown (s.workers.insert id w') paths after ∧ at_ = ⟨s.now, c.cancelled⟩ ∧
      Sound { s with backend, workers := s.workers.insert id w' } after := by
  obtain ⟨hsound, x, command, argument, hx, hphase, hstart⟩ := h.workers id w hw
  obtain ⟨m, hm, _⟩ := h.backend.store
  obtain ⟨hdoes, hat⟩ := Worker.does_of_step? hm h.backend.script hsound.undisturbed hstep
  obtain ⟨after, hgrows, hbackend, hsound'⟩ := hdoes.sound hm h.backend hsound
  have hrequest := hdoes.request_eq
  have hothers : ∀ v : Worker, v.Sound paths Sendable → v.Sound after Sendable := by
    intro v hv
    cases hgrows with
    | stays => exact hv
    | allocates path => exact hv.append [path]
  have hsendable : ∀ path ∈ after, Sendable path := by
    cases hgrows with
    | stays => exact h.sendable
    | allocates path fsid hq =>
      intro p hp
      obtain hp | hp := List.mem_append.mp hp
      · exact h.sendable p hp
      · rw [List.mem_singleton.mp hp]
        exact hsound.plain.pending hq
  have hgrown : Grown (s.workers.insert id w') paths after := by
    cases hgrows with
    | stays => exact .stays
    | allocates path fsid hq hv hp =>
      have hrequested := (hsound.call.request_of_allocate hq).resolve_left
        (Command.ne_allocate_of_start hstart path)
      refine .allocates path fsid hv ⟨id, w', ?_, by rw [hp]; rfl, hrequest.trans hrequested⟩
      rw [Dictionary.get?_insert, if_pos rfl]
  refine ⟨after, hgrown, hat, h.handlers, h.tracked, hbackend, hsendable, h.phases, fun i v hv => ?_⟩
  dsimp only at hv
  rw [Dictionary.get?_insert] at hv
  split at hv
  · rename_i hi
    subst hi
    cases hv
    exact ⟨hsound', x, command, argument, hx, hphase, hrequest ▸ hstart⟩
  · obtain ⟨hv, hrest⟩ := h.workers i v hv
    exact ⟨hothers v hv, hrest⟩

theorem quiet_of_untracks (hc : s.server.connections.get? id = some c)
    (hphase : c.phase = .untracking) :
    Quiet s { s with server := { withConnection s.server id { c with phase := .notifying } with
      tracker := s.server.tracker.untrack id } } :=
  ⟨⟨_, .untracks id c hc hphase, by rintro _ _ ⟨⟩⟩, rfl, rfl⟩

theorem quiet_of_announces (hc : s.server.connections.get? id = some c)
    (hphase : c.phase = .notifying) :
    Quiet s { s with
      host := s.host.closeSocket c.stream
      server := (withConnection s.server id { c with phase := .ended }).notifyAll } :=
  ⟨⟨_, .announces id c hc hphase, by rintro _ _ ⟨⟩⟩, rfl, rfl⟩

/-- **Whatever the task of a connection does, everything stays in line** with a list of paths, which
only grows. -/
theorem Task.sound (htask : Task s id c t) (h : Sound s paths)
    (hc : s.server.connections.get? id = some c) :
    ∃ after, Grown t.workers paths after ∧ Sound t after := by
  cases htask with
  | goes e d host hstep hphase _ =>
    have hd := phaseSound_of_step (h.handlers ▸ hstep) hphase
    exact ⟨paths, .stays, h.of_replaced (.connection id c d e hc hstep) rfl hd rfl rfl
      (h.not_worker hc hphase)⟩
  | untracks hphase => exact ⟨paths, .stays, h.quiet (quiet_of_untracks hc hphase)⟩
  | announces hphase => exact ⟨paths, .stays, h.quiet (quiet_of_announces hc hphase)⟩
  | begins command argument request hphase hw hs =>
    have hsendable := h.phases id c hc
    rw [hphase] at hsendable
    refine ⟨paths, .stays, h.handlers, h.tracked, h.backend, h.sendable, h.phases, fun i w hi => ?_⟩
    dsimp only at hi
    rw [Dictionary.get?_insert] at hi
    split at hi
    · rename_i heq
      subst heq
      cases hi
      exact ⟨Worker.sound_begin paths s.policy (Command.about_of_start hs hsendable.2), c, command,
        argument, hc, hphase, hs⟩
    · exact h.workers i w hi
  | works command argument w w' backend at_ hphase hw hstep =>
    obtain ⟨after, hgrown, rfl, hsound⟩ := h.works hw hstep
    refine ⟨after, hgrown, ?_⟩
    rw [withConnection, Dictionary.insert_self hc]
    exact hsound
  | finishes command argument result finished hphase hresult =>
    have hd : PhaseSound (.writing (Text.encode (Response.ofResult result).text)) :=
      ⟨_, rfl, sized_of_outcome h hresult⟩
    exact ⟨paths, .stays, h.of_replaced
      (.connection id c _ _ hc (.answers _ argument result hphase)) rfl hd rfl rfl erased_worker⟩
  | faults command argument _ _ hphase =>
    exact ⟨paths, .stays, h.of_replaced
      (.connection id c _ _ hc (.faults _ argument hphase)) rfl trivial rfl rfl erased_worker⟩

/-- Only commands are at work, so a step of a connection does what their tasks do. -/
theorem Sound.task (h : Sound s paths) (hc : s.server.connections.get? id = some c)
    (hstep : s.connectionStep? id c = some t) : Task s id c t := by
  refine task_of_connectionStep? hc (fun handler argument hp => ?_) hstep
  have hphase := h.phases id c hc
  rw [hp] at hphase
  exact hphase.1

/-! ## Every order -/

/-- A step of a task is a quiet one, or one of a connection's task. -/
theorem Acts.quiet_or_connects (ha : Acts s t) :
    Quiet s t ∨ ∃ id c, s.server.connections.get? id = some c ∧ s.connectionStep? id c = some t := by
  cases ha with
  | serves loop phase t hp h' =>
    left
    cases serves_of_serveStep? hp h' with
    | goes e server hstep _ =>
      exact ⟨⟨_, .serve loop phase e server hp hstep, by rintro _ _ ⟨⟩⟩, rfl, rfl⟩
    | takes stream host hphase =>
      subst hphase
      exact ⟨⟨_, .serve loop .accepting _ _ hp (.accepts stream), by rintro _ _ ⟨⟩⟩, rfl, rfl⟩
    | fails errno _ hphase =>
      subst hphase
      exact ⟨⟨_, .serve loop .accepting _ _ hp (.acceptFails _), by rintro _ _ ⟨⟩⟩, rfl, rfl⟩
    | turnsAway stream server _ _ hstep =>
      exact ⟨⟨_, .serve loop phase .tracks server hp hstep, by rintro _ _ ⟨⟩⟩, rfl, rfl⟩
  | stops number stop t hs h' =>
    left
    obtain ⟨e, server, host, hstep, rfl⟩ := stop_of_stopStep? hs h'
    exact ⟨⟨_, .stop number stop e server hs hstep, by rintro _ _ ⟨⟩⟩, rfl, rfl⟩
  | connects id c t hc hstep => exact .inr ⟨id, c, hc, hstep⟩

/-- **Whichever task makes a step, everything stays in line** with a list of paths, which only
grows. -/
theorem Sound.acts (h : Sound s paths) (ha : Acts s t) :
    ∃ after, Grown t.workers paths after ∧ Sound t after := by
  obtain hq | ⟨id, c, hc, hstep⟩ := ha.quiet_or_connects
  · exact ⟨paths, .stays, h.quiet hq⟩
  · exact (h.task hc hstep).sound h hc

/-- What can happen next to a service: a step of a task, anything that clients and the clock do, or
the start or end of an accept loop or a stop by its owner. -/
inductive Next (s : Service) : Service → Prop
  | acts (t : Service) (h : Acts s t) : Next s t
  | outside (host : Host) (now : Instant) : Next s { s with host, now }
  | beginServe : Next s s.beginServe.2
  | beginStop (force : Bool) (timeout : Duration) : Next s (s.beginStop force timeout).2
  | abandons (loop : Nat) (t : Service) (h : s.advance? (.serve loop .abandons) = some t) : Next s t

/-- A service with the four commands over a fresh store in memory, before it serves. -/
def registered (enabled : Bool) (policy : Retry.Policy) (draw : Retry.Backoff → Nat)
    (listener : Listener) (host : Host) (now : Instant) : Service :=
  { (start listener host ⟨.empty enabled, { store := .memory .empty }⟩ now).registerCommands with
    policy, draw }

/-- What a service with the four commands over a fresh store in memory can become. -/
def Reached (s : Service) : Prop :=
  ∃ enabled policy draw listener host now,
    Relation.ReflTransGen Next (registered enabled policy draw listener host now) s

theorem Sound.next (h : Sound s paths) (hn : Next s t) : ∃ after, paths <+: after ∧ Sound t after := by
  cases hn with
  | acts t ha =>
    obtain ⟨after, hgrown, ht⟩ := h.acts ha
    exact ⟨after, hgrown.isPrefix, ht⟩
  | outside host now =>
    exact ⟨paths, List.prefix_refl _, h.handlers, h.tracked, h.backend, h.sendable, h.phases, h.workers⟩
  | beginServe =>
    exact ⟨paths, List.prefix_refl _, h.quiet ⟨⟨_, .beginServe, by rintro _ _ ⟨⟩⟩, rfl, rfl⟩⟩
  | beginStop force timeout =>
    exact ⟨paths, List.prefix_refl _,
      h.quiet ⟨⟨_, .beginStop force timeout, by rintro _ _ ⟨⟩⟩, rfl, rfl⟩⟩
  | abandons loop t hstep =>
    obtain ⟨server, hserver, rfl⟩ := Option.map_eq_some_iff.mp hstep
    exact ⟨paths, List.prefix_refl _,
      h.quiet ⟨⟨_, Server.step?_eq_some_iff.mp hserver, by rintro _ _ ⟨⟩⟩, rfl, rfl⟩⟩

theorem sound_registered (enabled : Bool) (policy : Retry.Policy) (draw : Retry.Backoff → Nat)
    (listener : Listener) (host : Host) (now : Instant) :
    Sound (registered enabled policy draw listener host now) [] := by
  unfold registered
  rw [registerCommands_start]
  refine ⟨rfl, Server.tracked_new listener _, ⟨⟨.empty, rfl, MemoryStore.holds_empty⟩, rfl,
    Cache.within_empty enabled⟩, ?_, ?_, ?_⟩
  · rintro path ⟨⟩
  · rintro id c ⟨⟩
  · rintro id w ⟨⟩

/-- **Everything that a service knows is in line with a list of paths**, whatever has happened. -/
theorem Reached.sound (h : Reached s) : ∃ paths, Sound s paths := by
  obtain ⟨enabled, policy, draw, listener, host, now, h⟩ := h
  induction h with
  | refl => exact ⟨[], sound_registered enabled policy draw listener host now⟩
  | tail _ hn ih =>
    obtain ⟨paths, h⟩ := ih
    obtain ⟨after, _, h⟩ := h.next hn
    exact ⟨after, h⟩

end Service

end FsidRegistry
