import FsidRegistry.Proofs.Service.Answers

/-!
# A service that is not stopped

While nobody stops a service, its accept loop takes clients from its queue one by one, and no two
connections ever share a stream.  So a service in which nothing is left to do stands as one does that
has served its clients one after another.

* `Lines`: the streams of a service, those of its connections and those still to be accepted.
* `Service.Running`: an accept loop at work, with all streams apart.
* `Service.Running.acts`, `Service.Running.connects`, `Service.Running.beside`: so it stays.
* `Service.Running.calm`: a service with nothing to do is calm.
-/

namespace FsidRegistry

/-! ## Streams -/

/-- A number that was given to the second end of a connection. -/
def Opened (base next x : Nat) : Prop := ∃ k, x = base + 2 * k + 1 ∧ x < next

theorem Opened.mono {base next next' x : Nat} (h : Opened base next x) (hle : next ≤ next') :
    Opened base next' x := by
  obtain ⟨k, hk, hlt⟩ := h
  exact ⟨k, hk, by omega⟩

theorem Opened.succ_ne {base next next' x y : Nat} (hx : Opened base next x)
    (hy : Opened base next' y) : x + 1 ≠ y := by
  obtain ⟨k, hk, _⟩ := hx
  obtain ⟨j, hj, _⟩ := hy
  omega

theorem Opened.not_lt {base next x : Nat} (h : Opened base next x) : ¬ x < base := by
  obtain ⟨k, hk, _⟩ := h
  omega

/-- The streams of the connections, and those that wait to be accepted. -/
structure Lines (base next : Nat) (streams : ConnectionId → Option SocketId)
    (xs : List SocketId) : Prop where
  even : ∃ k, next = base + 2 * k
  nodup : xs.Nodup
  waiting : ∀ x ∈ xs, Opened base next x
  apart : ∀ x ∈ xs, ∀ id, streams id ≠ some x
  opened : ∀ id x, streams id = some x → Opened base next x
  injective : ∀ id id' x, streams id = some x → streams id' = some x → id = id'

namespace Lines

variable {base next : Nat} {streams : ConnectionId → Option SocketId} {xs : List SocketId}
  {x : SocketId}

theorem congr (h : Lines base next streams xs) {streams' : ConnectionId → Option SocketId}
    (hs : ∀ id, streams' id = streams id) : Lines base next streams' xs := by
  obtain rfl : streams' = streams := funext hs
  exact h

/-- A connection is opened elsewhere. -/
theorem skips (h : Lines base next streams xs) : Lines base (next + 2) streams xs := by
  obtain ⟨k, hk⟩ := h.even
  have hle : next ≤ next + 2 := Nat.le_add_right _ 2
  exact ⟨⟨k + 1, by omega⟩, h.nodup, fun x hx => (h.waiting x hx).mono hle, h.apart,
    fun id x hx => (h.opened id x hx).mono hle, h.injective⟩

/-- A client connects. -/
theorem joins (h : Lines base next streams xs) :
    Lines base (next + 2) streams (xs ++ [next + 1]) := by
  have hlt : ∀ x, Opened base next x → x ≠ next + 1 := by
    rintro x ⟨k, hk, hlt⟩
    omega
  obtain ⟨k, hk⟩ := h.even
  refine ⟨h.skips.even, ?_, fun x hx => ?_, fun x hx id => ?_, h.skips.opened, h.injective⟩
  · refine List.nodup_append.mpr ⟨h.nodup, List.pairwise_singleton _ _, fun x hx y hy => ?_⟩
    rw [List.mem_singleton.mp hy]
    exact hlt x (h.waiting x hx)
  · obtain hx | hx := List.mem_append.mp hx
    · exact h.skips.waiting x hx
    · rw [List.mem_singleton.mp hx]
      exact ⟨k, by omega, by omega⟩
  · obtain hx | hx := List.mem_append.mp hx
    · exact h.apart x hx id
    · rw [List.mem_singleton.mp hx]
      exact fun hid => hlt _ (h.opened id _ hid) rfl

/-- The client that waits longest gets a connection. -/
theorem tracks (h : Lines base next streams (x :: xs)) (id : ConnectionId)
    {streams' : ConnectionId → Option SocketId}
    (hs : ∀ i, streams' i = if id = i then some x else streams i) :
    Lines base next streams' xs := by
  obtain ⟨hx, hnodup⟩ := List.nodup_cons.mp h.nodup
  have hmine := h.apart x List.mem_cons_self
  refine ⟨h.even, hnodup, fun y hy => h.waiting y (List.mem_cons_of_mem x hy),
    fun y hy i hi => ?_, fun i y hi => ?_, fun i i' y hi hi' => ?_⟩
  · rw [hs] at hi
    split at hi
    · cases hi
      exact hx hy
    · exact h.apart y (List.mem_cons_of_mem x hy) i hi
  · rw [hs] at hi
    split at hi
    · cases hi
      exact h.waiting x List.mem_cons_self
    · exact h.opened i y hi
  · rw [hs] at hi hi'
    split at hi <;> split at hi'
    · rename_i hid hid'
      exact hid.symm.trans hid'
    · cases hi
      exact absurd hi' (hmine i')
    · cases hi'
      exact absurd hi (hmine i)
    · exact h.injective i i' y hi hi'

end Lines

/-! ## An accept loop at work -/

namespace Connection

variable {table : HandlerTable Handler} {c d : Connection Handler} {e : ConnectionEvent}

theorem Step.stream_eq (h : c.Step table e d) : d.stream = c.stream := by
  cases h <;> rfl

end Connection

namespace ServePhase

/-- The stream that the loop has accepted and not yet tracked. -/
def taken : ServePhase → List SocketId
  | .tracking stream => [stream]
  | _ => []

/-- The loop accepts clients. -/
def isOpen : ServePhase → Bool
  | .polling | .accepting | .tracking _ | .spawning _ => true
  | _ => false

end ServePhase

/-- The stream of a connection. -/
def Server.stream? (server : Server Handler) (id : ConnectionId) : Option SocketId :=
  (server.connections.get? id).map (·.stream)

namespace Service

variable {s t : Service} {id : ConnectionId} {c d : Connection Handler} {path : String}
  {base : Nat} {phase : ServePhase} {queue : List SocketId} {paths : Ledger}

/-- A service whose accept loop is at work, and that nobody stops. -/
structure Running (path : String) (base : Nat) (phase : ServePhase) (queue : List SocketId)
    (s : Service) : Prop where
  serves : s.server.serves.entries = [(0, phase)]
  isOpen : phase.isOpen = true
  stopRequested : s.server.stopRequested = false
  inShutdown : s.server.tracker.inShutdown = false
  stops : s.server.stops.entries = []
  queued : s.host.Queued path s.server.listener.socket queue
  old : ∀ id l, s.host.listening? id = some l → id < base
  fresh : s.host.Fresh
  lines : Lines base s.host.nextSocket s.server.stream? (phase.taken ++ queue)

/-- What connections do to the host changes nothing for the accept loop. -/
theorem Running.beside (h : Running path base phase queue s) {host : Host} (now : Instant)
    (hb : s.host.Beside host) : Running path base phase queue { s with host, now } := by
  refine ⟨h.serves, h.isOpen, h.stopRequested, h.inShutdown, h.stops, h.queued.beside hb,
    fun id l hl => ?_, hb.fresh h.fresh, ?_⟩
  · rw [hb.listening] at hl
    exact h.old id l hl
  · have hnext : ({ s with host, now } : Service).host.nextSocket = s.host.nextSocket :=
      hb.nextSocket
    rw [hnext]
    exact h.lines

/-- A client connects, to this service or to another listening socket. -/
theorem Running.connects (h : Running path base phase queue s) {path' : String} {client : SocketId}
    {host : Host} (hc : s.host.connect path' = .ok (client, host)) :
    ∃ queue', Running path base phase queue' { s with host } := by
  obtain ⟨-, id, l, hl, rfl⟩ := Host.connect_ok hc
  let host := s.host.openPair.2.2.setQueue id l (l.queue ++ [s.host.nextSocket + 1])
  have hpair := Host.listening?_openPair h.fresh
  have hfresh : host.Fresh :=
    Host.fresh_setQueue (Host.fresh_openPair h.fresh) ((hpair id).trans hl)
  have hat : ∀ j, host.listening? j =
      if id = j then some { l with queue := l.queue ++ [s.host.nextSocket + 1] }
      else s.host.listening? j := by
    intro j
    rw [Host.listening?_setQueue, hpair]
  have hold : ∀ j m, host.listening? j = some m → j < base := by
    intro j m hm
    rw [hat] at hm
    split at hm
    · rename_i hj
      exact hj ▸ h.old id l hl
    · exact h.old j m hm
  have hfiles : host.files = s.host.files := rfl
  by_cases hid : id = s.server.listener.socket
  · subst hid
    obtain rfl := Option.some.inj (hl.symm.trans h.queued.listening)
    refine ⟨queue ++ [s.host.nextSocket + 1], h.serves, h.isOpen, h.stopRequested, h.inShutdown,
      h.stops, h.queued.of_listening hfiles ((hat _).trans (if_pos rfl)), hold, hfresh, ?_⟩
    have hjoins := h.lines.joins
    rw [List.append_assoc] at hjoins
    exact hjoins
  · exact ⟨queue, h.serves, h.isOpen, h.stopRequested, h.inShutdown, h.stops,
      h.queued.of_listening hfiles (((hat _).trans (if_neg hid)).trans h.queued.listening), hold,
      hfresh, h.lines.skips⟩

/-! ### Steps of the accept loop -/

theorem serves_get? {server : Server Handler} (h : server.serves.entries = [(0, phase)]) :
    server.serves.get? 0 = some phase := by
  rw [Dictionary.get?, h]
  rfl

/-- The accept loop moves on. -/
theorem Running.turns (h : Running path base phase queue s) {server : Server Handler}
    {phase' : ServePhase} (hserves : server.serves.entries = [(0, phase')])
    (ho : phase'.isOpen = true) (hlistener : server.listener = s.server.listener)
    (hstop : server.stopRequested = s.server.stopRequested)
    (hin : server.tracker.inShutdown = s.server.tracker.inShutdown)
    (hstops : server.stops = s.server.stops)
    (hlines : Lines base s.host.nextSocket server.stream? (phase'.taken ++ queue)) :
    Running path base phase' queue { s with server } := by
  refine ⟨hserves, ho, hstop.trans h.stopRequested, hin.trans h.inShutdown, ?_, ?_, h.old, h.fresh,
    hlines⟩
  · rw [hstops]
    exact h.stops
  · rw [hlistener]
    exact h.queued

/-- The client that waits longest is accepted. -/
theorem Running.takes {stream : SocketId} {host : Host}
    (h : Running path base .accepting queue s)
    (ha : s.host.accept s.server.listener.socket = (.connection stream, host)) :
    ∃ rest, Running path base (.tracking stream) rest
      { s with host, server := s.server.setServe 0 (.tracking stream) } := by
  obtain ⟨l, rest, hl, hq, rfl⟩ := Host.accept_ok ha
  obtain rfl := Option.some.inj (hl.symm.trans h.queued.listening)
  obtain rfl : queue = stream :: rest := hq
  let l : ListeningSocket :=
    { kind := .packets, backlog := Listener.backlog, queue := stream :: rest }
  let host := s.host.setQueue s.server.listener.socket l rest
  have hat : ∀ j, host.listening? j =
      if s.server.listener.socket = j then some { l with queue := rest }
      else s.host.listening? j := Host.listening?_setQueue l
  have hfiles : host.files = s.host.files := rfl
  have hqueued : host.Queued path s.server.listener.socket rest :=
    h.queued.of_listening hfiles ((hat _).trans (if_pos rfl))
  refine ⟨rest, serves_setServe h.serves _, rfl, h.stopRequested, h.inShutdown, h.stops, hqueued,
    fun j m hm => ?_, Host.fresh_setQueue h.fresh hl, h.lines⟩
  have hm := (hat j).symm.trans hm
  split at hm
  · rename_i hj
    exact hj ▸ h.old _ _ hl
  · exact h.old j m hm

/-- A connection that is set up has the stream that was accepted. -/
theorem map_stream_insert (server : Server Handler) (stream : SocketId) (id i : ConnectionId) :
    ((server.connections.insert id { stream }).get? i).map (·.stream) =
      if id = i then some stream else server.stream? i := by
  rw [Dictionary.get?_insert, Server.stream?]
  split <;> rfl

/-- A connection that is started keeps its stream. -/
theorem map_stream_modify (server : Server Handler) (id i : ConnectionId) :
    ((server.connections.modify id ({ · with phase := .testing })).get? i).map (·.stream) =
      server.stream? i := by
  rw [Dictionary.get?_modify, Server.stream?]
  split
  · rw [Option.map_map]
    rfl
  · rfl

/-- **A step of the accept loop leaves it at work.** -/
theorem Running.serves_step (h : Running path base phase queue s)
    (hstep : Serves s 0 phase t) : ∃ phase' queue', Running path base phase' queue' t := by
  have ho := h.isOpen
  cases hstep with
  | goes e server hstep he =>
    cases hstep with
    | enters | refused | marks | leaves | notifies => cases ho
    | accepts | acceptFails | abandons => cases he
    | polls =>
      rw [h.stopRequested]
      exact ⟨.accepting, queue, h.turns (serves_setServe h.serves _) rfl rfl rfl rfl rfl h.lines⟩
    | acceptWaits =>
      exact ⟨.polling, queue, h.turns (serves_setServe h.serves _) rfl rfl rfl rfl rfl h.lines⟩
    | tracks stream =>
      exact ⟨.spawning (s.server.lastId + 1), queue, h.turns (serves_setServe h.serves _) rfl rfl
        rfl rfl rfl (Lines.tracks h.lines _ (map_stream_insert s.server stream _))⟩
    | turnedAway stream hs =>
      rw [h.inShutdown] at hs
      cases hs
    | spawns id =>
      exact ⟨.polling, queue, h.turns (serves_setServe h.serves _) rfl rfl rfl rfl rfl
        (h.lines.congr (map_stream_modify s.server id))⟩
  | takes stream host hphase ha =>
    subst hphase
    obtain ⟨rest, ht⟩ := h.takes ha
    exact ⟨.tracking stream, rest, ht⟩
  | fails errno host hphase ha =>
    unfold Host.accept at ha
    rw [h.queued.listening] at ha
    dsimp only at ha
    split at ha <;> cases ha
  | turnsAway stream server hphase hs =>
    rw [h.inShutdown] at hs
    cases hs

/-! ### Steps of connections -/

/-- Two servers that differ in what their connections do only. -/
structure Framed (server server' : Server Handler) : Prop where
  listener : server'.listener = server.listener
  serves : server'.serves = server.serves
  stopRequested : server'.stopRequested = server.stopRequested
  inShutdown : server'.tracker.inShutdown = server.tracker.inShutdown
  stops : server.stops.entries = [] → server'.stops.entries = []
  streams : ∀ id, server'.stream? id = server.stream? id

theorem framed_withConnection {server : Server Handler} (hc : server.connections.get? id = some c)
    (hd : d.stream = c.stream) : Framed server (withConnection server id d) := by
  refine ⟨rfl, rfl, rfl, rfl, fun h => h, fun i => ?_⟩
  rw [Server.stream?, withConnection, Dictionary.get?_insert, Server.stream?]
  split
  · rename_i hi
    rw [← hi, hc]
    exact congrArg some hd
  · rfl

/-- A step of a connection's task changes nothing for the accept loop. -/
theorem Task.framed (h : Task s id c t) (hc : s.server.connections.get? id = some c)
    (hl : s.host.listening? c.stream = none) :
    Framed s.server t.server ∧ s.host.Beside t.host := by
  cases h with
  | goes e d host hstep _ hhost =>
    exact ⟨framed_withConnection hc hstep.stream_eq, hhost⟩
  | untracks =>
    have hf := framed_withConnection (d := { c with phase := .notifying }) hc rfl
    exact ⟨⟨rfl, rfl, rfl, rfl, fun h => h, hf.streams⟩, .refl⟩
  | announces =>
    have hf := framed_withConnection (d := { c with phase := .ended }) hc rfl
    refine ⟨⟨rfl, rfl, rfl, rfl, fun h => ?_, hf.streams⟩, Host.beside_closeSocket hl⟩
    show s.server.stops.entries.map _ = []
    rw [h]
    rfl
  | begins => exact ⟨⟨rfl, rfl, rfl, rfl, fun h => h, fun _ => rfl⟩, .refl⟩
  | works | finishes | faults => exact ⟨framed_withConnection hc rfl, .refl⟩

/-- **A step of a connection's task leaves the accept loop at work.** -/
theorem Running.task (h : Running path base phase queue s)
    (hc : s.server.connections.get? id = some c) (htask : Task s id c t) :
    Running path base phase queue t := by
  -- What the loop has given to a connection is no listening socket.
  have hl : s.host.listening? c.stream = none := by
    have hopened := h.lines.opened id c.stream (by rw [Server.stream?, hc]; rfl)
    cases hl : s.host.listening? c.stream with
    | none => rfl
    | some l => exact absurd (h.old c.stream l hl) hopened.not_lt
  obtain ⟨hf, hb⟩ := htask.framed hc hl
  refine ⟨?_, h.isOpen, hf.stopRequested.trans h.stopRequested, hf.inShutdown.trans h.inShutdown,
    hf.stops h.stops, ?_, fun j l hj => ?_, hb.fresh h.fresh, ?_⟩
  · rw [hf.serves]
    exact h.serves
  · rw [hf.listener]
    exact h.queued.beside hb
  · rw [hb.listening] at hj
    exact h.old j l hj
  · rw [hb.nextSocket]
    exact h.lines.congr hf.streams

theorem Running.loop_eq (h : Running path base phase queue s) {loop : Nat} {phase' : ServePhase}
    (hp : s.server.serves.get? loop = some phase') : loop = 0 ∧ phase' = phase := by
  have hmem := Dictionary.mem_entries_iff.mpr hp
  rw [h.serves, List.mem_singleton] at hmem
  exact Prod.mk.inj hmem

/-- **Whichever task makes a step, the accept loop stays at work.** -/
theorem Running.acts (h : Running path base phase queue s) (hs : Sound s paths) (ha : Acts s t) :
    ∃ phase' queue', Running path base phase' queue' t := by
  cases ha with
  | serves loop phase' t hp hstep =>
    obtain ⟨rfl, rfl⟩ := h.loop_eq hp
    exact h.serves_step (serves_of_serveStep? hp hstep)
  | stops number stop t hstop =>
    have hmem := Dictionary.mem_entries_iff.mpr hstop
    rw [h.stops] at hmem
    cases hmem
  | connects id c t hc hstep => exact ⟨phase, queue, h.task hc (hs.task hc hstep)⟩

/-! ### Rest -/

/-- A connection that can make no step waits for a packet, or does nothing at all. -/
theorem waiting_of_rests (hc : s.server.connections.get? id = some c)
    (hfree : ∀ handler argument, c.phase ≠ .handling handler argument)
    (h : s.connectionStep? id c = none) : Waiting s.host c := by
  -- What the loop of the connection can do, it does.
  have hstep : ∀ {e : ConnectionEvent} {host : Host} {d : Connection Handler},
      c.Step s.server.handlers e d → { s with host }.advance? (.connection id e) ≠ none := by
    intro e host d hd hnone
    rw [advance?_connection (s := { s with host }) hc hd.step?] at hnone
    cases hnone
  unfold Service.connectionStep? at h
  dsimp only at h
  cases hp : c.phase with
  | created => exact .inr (.inl hp)
  | ended => exact .inr (.inr (.inl hp))
  | faulted => exact .inr (.inr (.inr hp))
  | handling handler argument => exact absurd hp (hfree handler argument)
  | testing =>
    rw [hp] at h
    exact absurd h (hstep (.tests hp))
  | flagging =>
    rw [hp] at h
    exact absurd h (hstep (.flags hp))
  | cancelling =>
    rw [hp] at h
    exact absurd h (hstep (.cancels hp))
  | shutting =>
    rw [hp] at h
    exact absurd h (hstep (.shuts hp))
  | polling =>
    rw [hp] at h
    dsimp only at h
    split at h
    · exact absurd h (hstep (.polls hp))
    · rename_i hwaits
      rw [Bool.not_eq_true, Bool.or_eq_false_iff] at hwaits
      exact .inl ⟨hp, hwaits⟩
  | receiving =>
    rw [hp] at h
    dsimp only at h
    split at h
    · exact absurd h (hstep (.receives _ hp))
    · exact absurd h (hstep (.receiveWaits hp))
    · exact absurd h (hstep (.receiveFails hp))
  | writing response =>
    rw [hp] at h
    dsimp only at h
    split at h
    · exact absurd h (hstep (.writes response _ hp))
    · exact absurd h (hstep (.writeFails response hp))
  | untracking =>
    rw [hp] at h
    unfold advance? Server.step? at h
    dsimp only at h
    rw [hc, Option.bind_some, hp] at h
    cases h
  | notifying =>
    rw [hp] at h
    unfold advance? Server.step? at h
    dsimp only at h
    rw [hc, Option.bind_some, hp] at h
    cases h

/-- An accept loop that can make no step waits for a client to come. -/
theorem Running.polls_of_rests (h : Running path base phase queue s)
    (hrest : s.serveStep? 0 phase = none) : phase = .polling ∧ queue = [] := by
  have ho := h.isOpen
  have hstep : ∀ {e : ServeEvent} {host : Host} {server : Server Handler},
      s.server.ServeStep 0 phase e server → { s with host }.advance? (.serve 0 e) ≠ none := by
    intro e host server hs hnone
    rw [advance?_serve (s := { s with host }) h.serves (Server.serveStep?_eq_some_iff.mpr hs)]
      at hnone
    cases hnone
  unfold Service.serveStep? at hrest
  dsimp only at hrest
  cases phase with
  | entering | marking | leaving | notifying | ended => cases ho
  | spawning id => exact absurd hrest (hstep (.spawns id))
  | tracking stream =>
    have htracks := Option.map_eq_none_iff.mp hrest
    exact absurd htracks (hstep (.tracks stream h.inShutdown))
  | accepting =>
    dsimp only at hrest
    split at hrest
    · exact absurd hrest (hstep (.accepts _))
    · exact absurd hrest (hstep .acceptWaits)
    · exact absurd hrest (hstep (.acceptFails _))
  | polling =>
    dsimp only at hrest
    split at hrest
    · exact absurd hrest (hstep .polls)
    · rename_i hwaits
      rw [h.stopRequested, h.queued.isAcceptable, Bool.false_or] at hwaits
      refine ⟨rfl, List.isEmpty_iff.mp ?_⟩
      simpa using hwaits

/-- **A service that can make no step and has no request at work is calm**, and serves the clients on
whose connections nothing is under way. -/
theorem Running.calm (h : Running path base phase queue s) (hs : Sound s paths)
    (hrest : s.step? = none)
    (hfree : ∀ id c, s.server.connections.get? id = some c → ∀ handler argument,
      c.phase ≠ .handling handler argument)
    {clients : List SocketId} (hclients : ∀ a ∈ clients, s.host.Linked a [] [] ∧
      ∃ id, s.server.connections.get? id = some { stream := a + 1, phase := .polling }) :
    Calm path clients s.server s.host none := by
  obtain ⟨hserve, hconnection⟩ := rests_of_step? hrest
  obtain ⟨rfl, rfl⟩ := h.polls_of_rests (hserve 0 phase (serves_get? h.serves))
  have hstream : ∀ {id c}, s.server.connections.get? id = some c →
      s.server.stream? id = some c.stream := by
    intro id c hc
    rw [Server.stream?, hc]
    rfl
  refine ⟨hs.handlers, h.serves, h.stopRequested, h.inShutdown, h.stops, h.queued.opened, h.fresh,
    ?_, ?_, ?_, ?_, ?_, ?_⟩
  · exact fun id c hc => hs.tracked.numbered id c.phase (Server.phase?_of_get? hc)
  · intro id id' c c' hc hc' heq
    exact h.lines.injective id id' c.stream (hstream hc) (heq ▸ hstream hc')
  · intro id id' c c' hc hc'
    exact (h.lines.opened id _ (hstream hc)).succ_ne (h.lines.opened id' _ (hstream hc'))
  · intro id c hc
    obtain ⟨-, -, hlt⟩ := h.lines.opened id _ (hstream hc)
    exact hlt
  · intro id c hc _
    exact waiting_of_rests hc (hfree id c hc) (hconnection id c hc)
  · intro a ha
    obtain ⟨hl, id, hc⟩ := hclients a ha
    exact ⟨id, _, hc, rfl, fun _ => ⟨rfl, hl⟩⟩

end Service

end FsidRegistry
