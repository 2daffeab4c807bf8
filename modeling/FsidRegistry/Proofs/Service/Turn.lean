import FsidRegistry.Proofs.Dictionary
import FsidRegistry.Proofs.Host.Sockets
import FsidRegistry.Proofs.Server.Step
import FsidRegistry.Proofs.Service.Ledger

/-!
# One connection at work

While one client waits for its response, the accept loop waits for new clients and all other
connections wait for packets or have ended.  So only the task of that client's connection can make a
step, and what the service does is what this task does.

* `Service.Goes`: a number of steps; `Service.settle_of_goes` finds where a service settles.
* `Service.Calm`: a service that serves, all of whose connections but one wait for packets.
* `Service.Turn`: the connection at work, its phase, and what is under way on it.
* `Service.Turn.receives`, `Service.Turn.handles`, `Service.Turn.writes`: the three parts of a turn.
-/

namespace FsidRegistry

namespace Service

variable {s t u : Service}

/-! ## Steps -/

/-- A service makes `n` steps. -/
def Goes : Nat → Service → Service → Prop
  | 0, s, t => s = t
  | n + 1, s, t => ∃ u, s.step? = some u ∧ Goes n u t

theorem Goes.single (h : s.step? = some t) : Goes 1 s t := ⟨t, h, rfl⟩

theorem Goes.trans {n m : Nat} (h : Goes n s t) (g : Goes m t u) : Goes (n + m) s u := by
  induction n generalizing s with
  | zero =>
    rw [Nat.zero_add]
    exact h ▸ g
  | succ n ih =>
    obtain ⟨v, hv, h⟩ := h
    rw [Nat.succ_add]
    exact ⟨v, hv, ih h⟩

theorem run_of_goes {n : Nat} (h : Goes n s t) (fuel : Nat) : s.run (n + fuel) = t.run fuel := by
  induction n generalizing s with
  | zero =>
    rw [Nat.zero_add]
    exact congrArg (run fuel) h
  | succ n ih =>
    obtain ⟨v, hv, h⟩ := h
    rw [Nat.succ_add, run, hv]
    exact ih h

theorem run_of_waits (h : s.step? = none) (fuel : Nat) : s.run fuel = s := by
  cases fuel with
  | zero => rfl
  | succ fuel => rw [run, h]

/-- A service settles where it can make no further step. -/
theorem settle_of_goes {n : Nat} (h : Goes n s t) (ht : t.step? = none) (hn : n ≤ stepLimit) :
    s.settle = t := by
  obtain ⟨fuel, hfuel⟩ := Nat.exists_eq_add_of_le hn
  rw [settle, hfuel, run_of_goes h, run_of_waits ht]

/-- What comes of waiting where a service settles. -/
theorem await_of_goes {α : Type} {look : Service → Option (α × Service)} {x : α} {n : Nat}
    (h : Goes n s t) (ht : t.step? = none) (hn : n ≤ stepLimit) (hl : look t = some (x, u)) :
    s.await look = (some x, u) := by
  have hlimit : stepLimit = 999999 + 1 := rfl
  rw [await, hlimit, awaitFor, settle_of_goes h ht hn, hl]

/-! ## Who can make a step -/

/-- The accept loops go first, then the stops, then the connections. -/
theorem step?_eq_or :
    s.step? = (s.server.serves.entries.findSome? fun e => s.serveStep? e.1 e.2).or
      ((s.server.stops.entries.findSome? fun e => s.stopStep? e.1 e.2).or
        (s.server.connections.entries.findSome? fun e => s.connectionStep? e.1 e.2)) := by
  rw [Option.or_eq_orElse, Option.or_eq_orElse]
  rfl

/-- The server with one of its connections replaced. -/
def withConnection (server : Server Handler) (id : ConnectionId) (c : Connection Handler) :
    Server Handler :=
  { server with connections := server.connections.insert id c }

/-- A connection that waits for a packet, has not begun, or has ended. -/
def Waiting (host : Host) (c : Connection Handler) : Prop :=
  (c.phase = .polling ∧ c.cancelled = false ∧ host.isReadable c.stream = false) ∨
    c.phase = .created ∨ c.phase = .ended ∨ c.phase = .faulted

/-- A service that serves, where no connection but `busy` has anything to do.  The sockets `clients`
are ends of its connections, with nothing under way on them. -/
structure Calm (path : String) (clients : List SocketId) (server : Server Handler) (host : Host)
    (busy : Option ConnectionId) : Prop where
  handlers : server.handlers = Ledger.commandTable
  serves : server.serves.entries = [(0, .polling)]
  stopRequested : server.stopRequested = false
  inShutdown : server.tracker.inShutdown = false
  stops : server.stops.entries = []
  opened : host.Open path server.listener.socket
  fresh : host.Fresh
  known : ∀ id c, server.connections.get? id = some c → id ≤ server.lastId
  streams : ∀ id id' c c', server.connections.get? id = some c →
    server.connections.get? id' = some c' → c.stream = c'.stream → id = id'
  apart : ∀ id id' c c', server.connections.get? id = some c →
    server.connections.get? id' = some c' → c.stream + 1 ≠ c'.stream
  given : ∀ id c, server.connections.get? id = some c → c.stream < host.nextSocket
  idle : ∀ id c, server.connections.get? id = some c → some id ≠ busy → Waiting host c
  clients : ∀ a ∈ clients, ∃ id c, server.connections.get? id = some c ∧ c.stream = a + 1 ∧
    (some id ≠ busy → c = { stream := a + 1, phase := .polling } ∧ host.Linked a [] [])

/-- A connection at work, the only one. -/
structure Turn (path : String) (clients : List SocketId) (server : Server Handler) (host : Host)
    (k : ConnectionId) (a : SocketId) (phase : ConnectionPhase Handler)
    (requests responses : List ByteArray) : Prop where
  calm : Calm path clients server host (some k)
  mine : server.connections.get? k = some { stream := a + 1, phase }
  linked : host.Linked a requests responses

variable {path : String} {clients : List SocketId} {server : Server Handler} {host : Host}
  {k : ConnectionId} {a : SocketId} {phase : ConnectionPhase Handler}
  {requests responses : List ByteArray} {packet response : ByteArray}

theorem advance?_connection {c d : Connection Handler} {e : ConnectionEvent}
    (hc : s.server.connections.get? k = some c) (hs : c.step? s.server.handlers e = some d) :
    s.advance? (.connection k e) = some { s with server := withConnection s.server k d } := by
  unfold advance? Server.step?
  dsimp only
  rw [hc, Option.bind_some, hs]
  rfl

theorem Calm.serveStep? {busy : Option ConnectionId} (hc : Calm path clients s.server s.host busy) :
    s.serveStep? 0 .polling = none := by
  unfold Service.serveStep?
  dsimp only
  rw [hc.stopRequested, hc.opened.isAcceptable]
  rfl

/-- Neither the accept loop nor a stop can make a step. -/
theorem Calm.step?_eq {busy : Option ConnectionId} (hc : Calm path clients s.server s.host busy) :
    s.step? = s.server.connections.entries.findSome? fun e => s.connectionStep? e.1 e.2 := by
  rw [step?_eq_or, hc.serves, hc.stops, List.findSome?_cons, hc.serveStep?, List.findSome?_nil,
    List.findSome?_nil, Option.none_or, Option.none_or]

theorem Waiting.connectionStep? {c : Connection Handler} (hw : Waiting s.host c)
    (id : ConnectionId) : s.connectionStep? id c = none := by
  unfold Service.connectionStep?
  obtain ⟨hphase, hcancelled, hreadable⟩ | hphase | hphase | hphase := hw
  · rw [hphase]
    dsimp only
    rw [hcancelled, hreadable]
    rfl
  · rw [hphase]
  · rw [hphase]
  · rw [hphase]

theorem Calm.connectionStep? {busy : Option ConnectionId}
    (hc : Calm path clients s.server s.host busy) {e : ConnectionId × Connection Handler}
    (he : e ∈ s.server.connections.entries) (hb : some e.1 ≠ busy) :
    s.connectionStep? e.1 e.2 = none := by
  have hget := Dictionary.find?_of_mem s.server.connections.keys_nodup he
  exact (hc.idle e.1 e.2 hget hb).connectionStep? e.1

/-- A service all of whose connections wait for packets makes no step. -/
theorem Calm.waits (hc : Calm path clients s.server s.host none) : s.step? = none := by
  rw [hc.step?_eq]
  refine List.findSome?_eq_none_iff.mpr fun e he => ?_
  exact hc.connectionStep? he (by rintro ⟨⟩)

/-- The connection at work makes the next step. -/
theorem Turn.step?_eq (ht : Turn path clients s.server s.host k a phase requests responses) :
    s.step? = s.connectionStep? k { stream := a + 1, phase } := by
  rw [ht.calm.step?_eq]
  refine Dictionary.findSome?_eq_of_only ht.mine (fun e he hk => ?_)
    s.server.connections.keys_nodup
  exact ht.calm.connectionStep? he (fun hb => hk (Option.some.inj hb))

theorem Turn.waits (ht : Turn path clients s.server s.host k a .polling [] responses) :
    s.step? = none := by
  rw [ht.step?_eq]
  exact Waiting.connectionStep? (.inl ⟨rfl, rfl, ht.linked.isReadable⟩) k

/-! ## Frames -/

/-- A connection waits as long as nothing happens on its own end. -/
theorem Waiting.of_agreesBut {host' : Host} {c : Connection Handler} (hw : Waiting host c)
    (hd : Host.AgreesBut a host host') (ha : c.stream ≠ a) (ha' : c.stream ≠ a + 1) :
    Waiting host' c := by
  obtain ⟨hphase, hcancelled, hreadable⟩ | hover := hw
  · refine .inl ⟨hphase, hcancelled, ?_⟩
    unfold Host.isReadable at hreadable ⊢
    rw [hd.endpoint? ha ha']
    exact hreadable
  · exact .inr hover

/-- A client that asks finds its connection waiting. -/
theorem Calm.turn (hc : Calm path clients server host none) (ha : a ∈ clients) :
    ∃ k, Turn path clients server host k a .polling [] [] := by
  obtain ⟨k, c, hget, -, hidle⟩ := hc.clients a ha
  obtain ⟨rfl, hl⟩ := hidle (by rintro ⟨⟩)
  have hcalm : Calm path clients server host (some k) := by
    refine { hc with idle := fun id c hid _ => ?_, clients := fun b hb => ?_ }
    · exact hc.idle id c hid (by rintro ⟨⟩)
    · obtain ⟨id, c, hid, hstream, hidle⟩ := hc.clients b hb
      exact ⟨id, c, hid, hstream, fun _ => hidle (by rintro ⟨⟩)⟩
  exact ⟨k, hcalm, hget, hl⟩

/-- Once its turn is over, a connection waits as all others do. -/
theorem Turn.over (ht : Turn path clients server host k a .polling [] []) :
    Calm path clients server host none := by
  refine { ht.calm with idle := fun id c hid _ => ?_, clients := fun b hb => ?_ }
  · by_cases hk : id = k
    · subst hk
      obtain rfl := Option.some.inj (hid.symm.trans ht.mine)
      exact .inl ⟨rfl, rfl, ht.linked.isReadable⟩
    · exact ht.calm.idle id c hid (fun hb => hk (Option.some.inj hb))
  · obtain ⟨id, c, hid, hstream, hidle⟩ := ht.calm.clients b hb
    refine ⟨id, c, hid, hstream, fun _ => ?_⟩
    by_cases hk : id = k
    · subst hk
      obtain rfl := Option.some.inj (hid.symm.trans ht.mine)
      obtain rfl : a = b := Nat.succ.inj hstream
      exact ⟨rfl, ht.linked⟩
    · exact hidle (fun hb => hk (Option.some.inj hb))

/-- What the connection at work does to itself and to its two ends leaves all others waiting. -/
theorem Turn.next {host' : Host} {requests' responses' : List ByteArray}
    (ht : Turn path clients server host k a phase requests responses)
    (phase' : ConnectionPhase Handler) (hd : Host.AgreesBut a host host')
    (hl : host'.Linked a requests' responses') :
    Turn path clients (withConnection server k { stream := a + 1, phase := phase' }) host' k a
      phase' requests' responses' := by
  obtain ⟨hc, hmine, hlinked⟩ := ht
  -- Every connection has the stream that it had.
  have hold : ∀ {id c}, (withConnection server k
      { stream := a + 1, phase := phase' }).connections.get? id = some c →
        ∃ c', server.connections.get? id = some c' ∧ c'.stream = c.stream := by
    intro id c hid
    rw [withConnection, Dictionary.get?_insert] at hid
    by_cases hk : k = id
    · subst hk
      rw [if_pos rfl] at hid
      cases hid
      exact ⟨_, hmine, rfl⟩
    · rw [if_neg hk] at hid
      exact ⟨c, hid, rfl⟩
  refine ⟨⟨hc.handlers, hc.serves, hc.stopRequested, hc.inShutdown, hc.stops,
    hc.opened.of_agreesBut hlinked hd, hc.fresh.of_agreesBut hlinked hd, ?_, ?_, ?_, ?_, ?_, ?_⟩,
    ?_, hl⟩
  · intro id c hid
    obtain ⟨c', hid, _⟩ := hold hid
    exact hc.known id c' hid
  · intro id id' c c' hid hid' hstream
    obtain ⟨d, hid, hd⟩ := hold hid
    obtain ⟨d', hid', hd'⟩ := hold hid'
    exact hc.streams id id' d d' hid hid' (hd.trans (hstream.trans hd'.symm))
  · intro id id' c c' hid hid'
    obtain ⟨d, hid, hd⟩ := hold hid
    obtain ⟨d', hid', hd'⟩ := hold hid'
    rw [← hd, ← hd']
    exact hc.apart id id' d d' hid hid'
  · intro id c hid
    obtain ⟨c', hid, hstream⟩ := hold hid
    rw [← hstream, hd.nextSocket]
    exact hc.given id c' hid
  · intro id c hid hne
    have hk : ¬ k = id := fun hk => hne (hk ▸ rfl)
    rw [withConnection, Dictionary.get?_insert, if_neg hk] at hid
    refine (hc.idle id c hid hne).of_agreesBut hd ?_ ?_
    · exact fun hstream => hc.apart id k c _ hid hmine (congrArg Nat.succ hstream)
    · exact fun hstream => hk (hc.streams k id _ c hmine hid hstream.symm)
  · intro b hb
    obtain ⟨id, c, hid, hstream, hidle⟩ := hc.clients b hb
    by_cases hk : k = id
    · subst hk
      obtain rfl := Option.some.inj (hmine.symm.trans hid)
      exact ⟨k, { stream := a + 1, phase := phase' },
        (Dictionary.get?_insert _ _ _ _).trans (if_pos rfl), hstream, fun hne => absurd rfl hne⟩
    · refine ⟨id, c, (Dictionary.get?_insert _ _ _ _).trans ((if_neg hk).trans hid), hstream,
        fun hne => ?_⟩
      obtain ⟨hwaits, hb⟩ := hidle hne
      refine ⟨hwaits, hlinked.of_agreesBut hb ?_ hd⟩
      rintro rfl
      exact hk (hc.streams k id _ _ hmine hid hstream.symm)
  · exact (Dictionary.get?_insert _ _ _ _).trans (if_pos rfl)

/-- What others do to the two ends of the connection at work leaves the rest as it is. -/
theorem Turn.rehost {host' : Host} {requests' responses' : List ByteArray}
    (ht : Turn path clients server host k a phase requests responses)
    (hd : Host.AgreesBut a host host') (hl : host'.Linked a requests' responses') :
    Turn path clients server host' k a phase requests' responses' := by
  have hsame : withConnection server k { stream := a + 1, phase } = server := by
    rw [withConnection, Dictionary.insert_self ht.mine]
  have hnext := ht.next phase hd hl
  rw [hsame] at hnext
  exact hnext

/-! ## The parts of a turn -/

/-- A step of the connection at work moves its phase, its two ends and nothing of the others. -/
theorem Turn.step (ht : Turn path clients s.server s.host k a phase requests responses)
    {e : ConnectionEvent} {phase' : ConnectionPhase Handler} {host' : Host}
    {requests' responses' : List ByteArray} {finished : List FinishedRequest}
    {workers : Dictionary ConnectionId Worker}
    (hstep : s.connectionStep? k { stream := a + 1, phase } =
      { s with host := host', finished, workers }.advance? (.connection k e))
    (he : Connection.step? Ledger.commandTable { stream := a + 1, phase } e =
      some { stream := a + 1, phase := phase' })
    (hd : Host.AgreesBut a s.host host') (hl : host'.Linked a requests' responses') :
    ∃ server, Goes 1 s { s with server, host := host', finished, workers } ∧
      Turn path clients server host' k a phase' requests' responses' := by
  refine ⟨_, Goes.single ?_, ht.next phase' hd hl⟩
  rw [ht.step?_eq, hstep]
  refine advance?_connection (s := { s with host := host', finished, workers }) ht.mine ?_
  rw [ht.calm.handlers]
  exact he

/-- A packet that has come is received. -/
theorem Turn.receives
    (ht : Turn path clients s.server s.host k a .polling (packet :: requests) responses) :
    ∃ server host, Goes 2 s { s with server, host } ∧
      Turn path clients server host k a (Connection.phaseAfter Ledger.commandTable packet)
        requests responses := by
  have hpolls : s.connectionStep? k { stream := a + 1, phase := .polling } =
      s.advance? (.connection k .polls) := by
    unfold connectionStep?
    dsimp only
    rw [ht.linked.isReadable]
    rfl
  obtain ⟨server, hgoes, ht'⟩ : ∃ server, Goes 1 s { s with server } ∧
      Turn path clients server s.host k a .receiving (packet :: requests) responses :=
    ht.step hpolls rfl Host.AgreesBut.refl ht.linked
  let host' := s.host.setSocket (a + 1) (.endpoint { peer := a, inbox := requests })
  have hreceives : { s with server }.connectionStep? k { stream := a + 1, phase := .receiving } =
      { s with server, host := host' }.advance?
        (.connection k (.receives (packet.extract 0 (packetLimit + 1)))) := by
    unfold connectionStep?
    dsimp only
    rw [ht.linked.receive]
  obtain ⟨server', hgoes', ht'⟩ : ∃ server', Goes 1 { s with server }
      { s with server := server', host := host' } ∧
        Turn path clients server' host' k a (Connection.phaseAfter Ledger.commandTable packet)
          requests responses := by
    refine ht'.step hreceives ?_ (Host.agreesBut_setSocket _ (Or.inr rfl))
      (ht.linked.setSocket_server requests)
    rw [← Connection.phaseAfter_extract]
    rfl
  exact ⟨server', host', hgoes.trans hgoes', ht'⟩

/-- A response is written, and the connection waits for the next packet. -/
theorem Turn.writes
    (ht : Turn path clients s.server s.host k a (.writing response) requests responses)
    (hsize : response.size ≤ Host.packetSizeLimit) :
    ∃ server host, Goes 2 s { s with server, host } ∧
      Turn path clients server host k a .polling requests (responses ++ [response]) := by
  let host' := s.host.setSocket a (.endpoint { peer := a + 1, inbox := responses ++ [response] })
  have hwrites : s.connectionStep? k { stream := a + 1, phase := .writing response } =
      { s with host := host' }.advance? (.connection k (.writes response.size)) := by
    unfold connectionStep?
    dsimp only
    rw [ht.linked.send_server hsize]
  obtain ⟨server, hgoes, ht'⟩ : ∃ server, Goes 1 s { s with server, host := host' } ∧
      Turn path clients server host' k a .testing requests (responses ++ [response]) := by
    refine ht.step hwrites ?_ (Host.agreesBut_setSocket _ (Or.inl rfl))
      (ht.linked.setSocket_client (responses ++ [response]))
    unfold Connection.step?
    dsimp only
    rw [if_neg (Nat.lt_irrefl _)]
  obtain ⟨server', hgoes', ht'⟩ : ∃ server', Goes 1 { s with server, host := host' }
      { s with server := server', host := host' } ∧
        Turn path clients server' host' k a .polling requests (responses ++ [response]) :=
    ht'.step (s := { s with server, host := host' }) (e := .tests) rfl rfl Host.AgreesBut.refl
      ht'.linked
  exact ⟨server', host', hgoes.trans hgoes', ht'⟩

/-! ### Commands -/

variable {command : Command} {argument : String} {paths : Ledger}

/-- A command that ends without a call of the cache is answered at once. -/
theorem Turn.answers {result : Except Error String}
    (ht : Turn path clients s.server s.host k a (.handling (.command command) argument) requests
      responses) (hw : s.workers.get? k = none) (hs : command.start argument = .error result) :
    ∃ server finished, Goes 1 s { s with server, finished, workers := s.workers.erase k } ∧
      Turn path clients server s.host k a (.writing (Text.encode (Response.ofResult result).text))
        requests responses := by
  have hstep : s.connectionStep? k
      { stream := a + 1, phase := .handling (.command command) argument } =
      s.finish? k command 0 result := by
    unfold connectionStep? handlerStep?
    dsimp only
    rw [hw, hs]
  obtain ⟨server, hgoes, ht'⟩ := ht.step hstep rfl Host.AgreesBut.refl ht.linked
  exact ⟨server, _, hgoes, ht'⟩

/-- A command's call of the cache has ended. -/
theorem Turn.finishes {request : CacheRequest} {policy : Retry.Policy}
    {run : Option (Retry.Run Pair)} {result : Except Error (Option Pair)}
    (ht : Turn path clients s.server s.host k a (.handling (.command command) argument) requests
      responses)
    (hw : s.workers.get? k = some (Worker.ofCall request policy run (.finished result))) :
    ∃ server finished, Goes 1 s { s with server, finished, workers := s.workers.erase k } ∧
      Turn path clients server s.host k a
        (.writing (Text.encode (Response.ofResult (command.finish result)).text)) requests
        responses := by
  have hstep : s.connectionStep? k
      { stream := a + 1, phase := .handling (.command command) argument } =
      s.finish? k command (Retry.retriesOf (Worker.ofCall request policy run (.finished result)).call.attempts)
        (command.finish result) := by
    unfold connectionStep? handlerStep?
    dsimp only
    rw [hw]
    rfl
  obtain ⟨server, hgoes, ht'⟩ := ht.step hstep rfl Host.AgreesBut.refl ht.linked
  exact ⟨server, _, hgoes, ht'⟩

theorem workerStep?_of_step? {c : Connection Handler} {w w' : Worker} {backend : Backend}
    {at_ : Surroundings}
    (hstep : w.step? s.draw ⟨s.now, c.cancelled⟩ s.backend = some (w', backend, at_)) :
    s.workerStep? k c command w = some { s with
      backend
      workers := s.workers.insert k w'
      server := withConnection s.server k { c with cancelled := at_.cancelled } } := by
  unfold workerStep?
  split
  · rename_i hphase
    simp [Worker.step?, Call.pending?, hphase] at hstep
  · rename_i hphase
    simp [Worker.step?, Call.pending?, hphase] at hstep
  · rw [hstep]
    rfl

/-- The steps of a worker are steps of the service. -/
theorem Turn.works {n : Nat} {w w' : Worker} {backend : Backend}
    (ht : Turn path clients s.server s.host k a (.handling (.command command) argument) requests
      responses)
    (hw : ∀ id, s.workers.get? id = if k = id then some w else none)
    (hr : Worker.Runs s.draw ⟨s.now, false⟩ n (w, s.backend) (w', backend)) :
    ∃ server workers, Goes n s { s with server, backend, workers } ∧
      Turn path clients server s.host k a (.handling (.command command) argument) requests
        responses ∧
      ∀ id, workers.get? id = if k = id then some w' else none := by
  -- On the number of steps: after each of them the worker is still the only one.
  induction n generalizing s w with
  | zero =>
    obtain ⟨rfl, rfl⟩ := Prod.mk.inj hr
    exact ⟨s.server, s.workers, rfl, ht, hw⟩
  | succ n ih =>
    obtain ⟨⟨v, between⟩, hstep, hr⟩ := hr
    let c : Connection Handler :=
      { stream := a + 1, phase := .handling (.command command) argument }
    let u : Service := { s with
      backend := between
      workers := s.workers.insert k v
      server := withConnection s.server k c }
    have hu : s.step? = some u := by
      have hmine : s.workers.get? k = some w := (hw k).trans (if_pos rfl)
      rw [ht.step?_eq]
      unfold connectionStep? handlerStep?
      dsimp only
      rw [hmine]
      exact workerStep?_of_step? (c := c) hstep
    have hv : ∀ id, u.workers.get? id = if k = id then some v else none := by
      intro id
      refine (Dictionary.get?_insert _ _ _ _).trans ?_
      by_cases hk : k = id
      · rw [if_pos hk, if_pos hk]
      · rw [if_neg hk, if_neg hk, hw, if_neg hk]
    have ht' : Turn path clients u.server u.host k a (.handling (.command command) argument)
        requests responses := ht.next _ Host.AgreesBut.refl ht.linked
    obtain ⟨server, workers, hgoes, ht', hw'⟩ := ih ht' hv hr
    exact ⟨server, workers, ⟨u, hu, hgoes⟩, ht', hw'⟩

/-- A command over a store that never fails returns what the list of paths says. -/
theorem Turn.handles
    (ht : Turn path clients s.server s.host k a (.handling (.command command) argument) requests
      responses)
    (hb : s.backend.Holds paths) (hw : ∀ id, s.workers.get? id = none)
    (hnow : s.now + s.policy.deadline.nanos < clockEnd) :
    ∃ n server backend finished workers, n ≤ 9 ∧
      Goes n s { s with server, backend, finished, workers } ∧
      Turn path clients server s.host k a
        (.writing (Text.encode (paths.perform command.verb argument).1)) requests responses ∧
      backend.Holds (paths.perform command.verb argument).2 ∧ ∀ id, workers.get? id = none := by
  cases hs : command.start argument with
  | error result =>
    obtain ⟨server, finished, hgoes, ht'⟩ := ht.answers (hw k) hs
    rw [Ledger.perform_of_start hs]
    refine ⟨1, server, s.backend, finished, _, by decide, hgoes, ht', hb, fun id => ?_⟩
    rw [Dictionary.get?_erase, hw, ite_self]
  | ok request =>
    let worker : Worker := { call := .begin s.policy request }
    let started : Service := { s with workers := s.workers.insert k worker }
    have hstarts : s.step? = some started := by
      rw [ht.step?_eq]
      unfold connectionStep? handlerStep?
      dsimp only
      rw [hw, hs]
    have hstarted : ∀ id, started.workers.get? id = if k = id then some worker else none := by
      intro id
      rw [← hw id]
      exact Dictionary.get?_insert _ _ _ _
    obtain ⟨n, result, after, run, backend, hn, hruns, hresolved, hheld⟩ :=
      Worker.runs_to_end s.draw ⟨s.now, false⟩ hb hnow
    obtain ⟨server, workers, hgoes, ht', hw'⟩ := Turn.works (s := started) ht hstarted hruns
    obtain ⟨server', finished, hgoes', ht'⟩ :=
      ht'.finishes (s := { s with server, backend, workers }) ((hw' k).trans (if_pos rfl))
    rw [Ledger.perform_of_resolved hs hresolved hb.nodup hb.length_le]
    -- One step starts the call, at most seven carry it to its end, and one takes what it found.
    refine ⟨1 + n + 1, server', backend, finished, _, by omega,
      ((Goes.single hstarts).trans hgoes).trans hgoes', ht', hheld, fun id => ?_⟩
    rw [Dictionary.get?_erase, hw']
    by_cases hk : k = id
    · rw [if_pos hk]
    · rw [if_neg hk, if_neg hk]

/-- What becomes of a packet that has come. -/
theorem Turn.dispatched
    (ht : Turn path clients s.server s.host k a (Connection.phaseAfter Ledger.commandTable packet)
      requests responses)
    (hp : packet.size ≠ 0) (hb : s.backend.Holds paths) (hw : ∀ id, s.workers.get? id = none)
    (hnow : s.now + s.policy.deadline.nanos < clockEnd) :
    ∃ n server backend finished workers, n ≤ 9 ∧
      Goes n s { s with server, backend, finished, workers } ∧
      Turn path clients server s.host k a (.writing (Text.encode (paths.respond packet).1)) requests
        responses ∧
      backend.Holds (paths.respond packet).2 ∧ ∀ id, workers.get? id = none := by
  unfold Connection.phaseAfter at ht
  rw [if_neg (fun hz => hp (beq_iff_eq.mp hz))] at ht
  rcases Ledger.dispatch_commandTable paths packet with
    ⟨response, hdispatch, hrespond⟩ | ⟨command, argument, hdispatch, hrespond⟩
  · rw [hdispatch] at ht
    rw [hrespond]
    exact ⟨0, s.server, s.backend, s.finished, s.workers, by decide, rfl, ht, hb, hw⟩
  · rw [hdispatch] at ht
    rw [hrespond]
    exact ht.handles hb hw hnow

/-- **A packet that has come is answered as the list of paths says**, and the list is then the one
that the backend holds. -/
theorem Turn.responds
    (ht : Turn path clients s.server s.host k a .polling [packet] [])
    (hp : packet.size ≠ 0) (hb : s.backend.Holds paths) (hw : ∀ id, s.workers.get? id = none)
    (hs : paths.Short) (hnow : s.now + s.policy.deadline.nanos < clockEnd) :
    ∃ n server host backend finished workers, n ≤ 13 ∧
      Goes n s { s with server, host, backend, finished, workers } ∧
      Turn path clients server host k a .polling [] [Text.encode (paths.respond packet).1] ∧
      backend.Holds (paths.respond packet).2 ∧ ∀ id, workers.get? id = none := by
  obtain ⟨server, host, hgoes, ht'⟩ := ht.receives
  obtain ⟨n, server', backend, finished, workers, hn, hgoes', ht', hb', hw'⟩ :=
    ht'.dispatched (s := { s with server, host }) hp hb hw hnow
  have hfits : (Text.encode (paths.respond packet).1).size ≤ Host.packetSizeLimit := by
    rw [Text.size_encode]
    exact Ledger.respond_fits hs hb.length_le packet
  obtain ⟨server'', host', hgoes'', ht'⟩ :=
    ht'.writes (s := { s with server := server', host, backend, finished, workers }) hfits
  exact ⟨2 + n + 2, server'', host', backend, finished, workers, by omega,
    (hgoes.trans hgoes').trans hgoes'', ht', hb', hw'⟩

end Service

end FsidRegistry
