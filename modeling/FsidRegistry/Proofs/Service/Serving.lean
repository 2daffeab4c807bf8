import FsidRegistry.Proofs.Host.Binding
import FsidRegistry.Proofs.Service.Turn

/-!
# What clients get

Any number of clients come to a service with the four commands over a fresh store in memory, one
after another and each as often as it likes.  What they get is what the list of paths says.

* `Ledger.exchange`: what a client gets for a packet.
* `Service.Ready`: a service that waits for its clients and holds a list of paths.
* `Service.Ready.connect`, `Service.Ready.request`: a client connects, and asks.
* `Service.ready_fresh`: a fresh service is ready and holds the empty list.
* `Service.conversation_eq_exchanges`: any number of requests.
-/

namespace FsidRegistry

/-! ## Expectations -/

namespace Ledger

/-- What a client gets for a packet, which the host refuses to carry if it is too long. -/
def exchange (paths : Ledger) (packet : ByteArray) :
    (Except Errno Nat × Option Service.Reply) × Ledger :=
  if Host.packetSizeLimit < packet.size then ((.error .messageTooLong, none), paths)
  else
    let (response, paths) := paths.respond packet
    ((.ok packet.size, some (.packet (Text.encode response))), paths)

theorem exchange_eq {paths after : Ledger} {packet : ByteArray} {n : Nat} {response : String}
    (hn : packet.size = n) (hsize : n ≤ Host.packetSizeLimit)
    (hr : paths.respond packet = (response, after)) :
    paths.exchange packet = ((.ok n, some (.packet (Text.encode response))), after) := by
  unfold exchange
  rw [hn, if_neg (Nat.not_lt.mpr hsize), hr]

/-- What clients get for one packet after another. -/
def exchanges (paths : Ledger) : List ByteArray → List (Except Errno Nat × Option Service.Reply)
  | [] => []
  | packet :: packets => (paths.exchange packet).1 :: exchanges (paths.exchange packet).2 packets

end Ledger

namespace Service

variable {s : Service} {path : String} {clients : List SocketId} {paths : Ledger}
  {policy : Retry.Policy} {packet : ByteArray} {a : SocketId}

/-- A service that waits for its clients and holds a list of paths. -/
structure Ready (path : String) (clients : List SocketId) (paths : Ledger) (policy : Retry.Policy)
    (s : Service) : Prop where
  calm : Calm path clients s.server s.host none
  backend : s.backend.Holds paths
  workers : ∀ id, s.workers.get? id = none
  short : paths.Short
  policy : s.policy = policy

/-! ## Requests -/

/-- A packet of a client is answered, and the response waits for the client. -/
theorem Ready.answers (hr : Ready path clients paths policy s) (ha : a ∈ clients)
    (hp : packet.size ≠ 0) (hsize : packet.size ≤ Host.packetSizeLimit)
    (hnow : s.now + policy.deadline.nanos < clockEnd) :
    ∃ n host t, n ≤ stepLimit ∧ s.host.send a packet = (.ok packet.size, host) ∧
      Goes n { s with host } t ∧ t.step? = none ∧ t.now = s.now ∧
      t.host.endpoint? a =
        some { peer := a + 1, inbox := [Text.encode (paths.respond packet).1] } ∧
      Ready path clients (paths.respond packet).2 policy
        { t with host := t.host.setSocket a (.endpoint { peer := a + 1, inbox := [] }) } := by
  obtain ⟨k, ht⟩ := hr.calm.turn ha
  let host := s.host.setSocket (a + 1) (.endpoint { peer := a, inbox := [] ++ [packet] })
  have hsent : Turn path clients s.server host k a .polling [packet] [] :=
    ht.rehost (Host.agreesBut_setSocket _ (Or.inr rfl)) (ht.linked.setSocket_server _)
  rw [← hr.policy] at hnow
  obtain ⟨n, server, host', backend, finished, workers, hn, hgoes, ht', hb, hw⟩ :=
    hsent.responds (s := { s with host }) hp hr.backend hr.workers hr.short hnow
  let answered : Service := { s with server, host := host', backend, finished, workers }
  have hover := (ht'.rehost (Host.agreesBut_setSocket _ (Or.inl rfl))
    (ht'.linked.setSocket_client [])).over
  exact ⟨n, host, answered, Nat.le_trans hn (by decide), ht.linked.send_client hsize, hgoes,
    ht'.waits (s := answered), rfl, ht'.linked.client, hover, hb, hw,
    Ledger.respond_short hr.short packet, hr.policy⟩

/-- A client asks and gets what the list of paths says. -/
theorem Ready.request (hr : Ready path clients paths policy s) (ha : a ∈ clients)
    (hp : packet.size ≠ 0) (hnow : s.now + policy.deadline.nanos < clockEnd) :
    ∃ t, s.request a packet = ((paths.exchange packet).1, t) ∧
      Ready path clients (paths.exchange packet).2 policy t := by
  unfold Ledger.exchange
  by_cases hlong : Host.packetSizeLimit < packet.size
  · obtain ⟨k, ht⟩ := hr.calm.turn ha
    have hsettle : s.settle = s := settle_of_goes (n := 0) rfl hr.calm.waits (Nat.zero_le _)
    have hsend : s.send a packet = (.error .messageTooLong, s) := by
      unfold Service.send
      rw [ht.linked.send_tooLong hlong]
      exact congrArg _ hsettle
    rw [if_pos hlong]
    refine ⟨s, ?_, hr⟩
    rw [Service.request, hsend]
  · obtain ⟨n, host, t, hn, hsent, hgoes, hwaits, -, hinbox, ht⟩ :=
      hr.answers ha hp (Nat.le_of_not_lt hlong) hnow
    have hsend : s.send a packet = (.ok packet.size, t) := by
      unfold Service.send
      rw [hsent]
      exact congrArg _ (settle_of_goes hgoes hwaits hn)
    have hreply : t.reply? a = some (.packet (Text.encode (paths.respond packet).1),
        { t with host := t.host.setSocket a (.endpoint { peer := a + 1, inbox := [] }) }) := by
      unfold Service.reply?
      rw [hinbox]
    have hawait : t.awaitReply a = (some (.packet (Text.encode (paths.respond packet).1)),
        { t with host := t.host.setSocket a (.endpoint { peer := a + 1, inbox := [] }) }) :=
      await_of_goes (n := 0) rfl hwaits (Nat.zero_le _) hreply
    rw [if_neg hlong]
    refine ⟨_, ?_, ht⟩
    rw [Service.request, hsend]
    dsimp only
    rw [hawait]

/-! ## Clients that connect -/

theorem serves_setServe {η : Type} {server : Server η} {phase : ServePhase}
    (h : server.serves.entries = [(0, phase)]) (phase' : ServePhase) :
    (server.setServe 0 phase').serves.entries = [(0, phase')] := by
  show Dictionary.put 0 phase' server.serves.entries = _
  rw [h]
  rfl

/-- The accept loop goes first. -/
theorem goes_of_serve {t : Service} {phase : ServePhase}
    (h : s.server.serves.entries = [(0, phase)]) (hstep : s.serveStep? 0 phase = some t) :
    Goes 1 s t := by
  refine Goes.single ?_
  rw [step?_eq_or, h, List.findSome?_cons, hstep, Option.some_or]

theorem advance?_serve {phase : ServePhase} {e : ServeEvent} {server : Server Handler}
    (h : s.server.serves.entries = [(0, phase)])
    (he : s.server.serveStep? 0 phase e = some server) :
    s.advance? (.serve 0 e) = some { s with server } := by
  have hget : s.server.serves.get? 0 = some phase := by
    rw [Dictionary.get?, h]
    rfl
  unfold advance? Server.step?
  dsimp only
  rw [hget, Option.bind_some, he]
  rfl

/-- The server once it has accepted a client. -/
def accepted (server : Server Handler) (stream : SocketId) : Server Handler :=
  let id := server.lastId + 1
  { server with
    lastId := id
    tracker := { server.tracker with live := server.tracker.live ++ [id] }
    connections := (server.connections.insert id { stream }).modify id
      ({ · with phase := .testing })
    serves := (((server.serves.insert 0 .accepting).insert 0 (.tracking stream)).insert 0
      (.spawning id)).insert 0 .polling }

theorem accepted_get? (server : Server Handler) (stream : SocketId) (id : ConnectionId) :
    (accepted server stream).connections.get? id =
      if server.lastId + 1 = id then some { stream, phase := .testing }
      else server.connections.get? id := by
  unfold accepted
  rw [Dictionary.get?_modify, Dictionary.get?_insert]
  by_cases hid : server.lastId + 1 = id
  · rw [if_pos hid, if_pos hid, if_pos hid]
    rfl
  · rw [if_neg hid, if_neg hid, if_neg hid]

/-- The accept loop takes a client that has connected. -/
theorem goes_accepted (hc : Calm path clients s.server s.host none) :
    Goes 4 { s with host := s.host.joining s.server.listener.socket }
      { s with
        host := s.host.joined s.server.listener.socket
        server := accepted s.server (s.host.nextSocket + 1) } := by
  let socket := s.server.listener.socket
  let stream := s.host.nextSocket + 1
  let polled := s.server.setServe 0 .accepting
  let taken := polled.setServe 0 (.tracking stream)
  let tracked : Server Handler := { taken with
    lastId := taken.lastId + 1
    tracker := { taken.tracker with live := taken.tracker.live ++ [taken.lastId + 1] }
    connections := taken.connections.insert (taken.lastId + 1) { stream } }.setServe 0
      (.spawning (taken.lastId + 1))
  have hpolled := serves_setServe hc.serves .accepting
  have htaken := serves_setServe hpolled (.tracking stream)
  have htracked : tracked.serves.entries = [(0, .spawning (taken.lastId + 1))] :=
    serves_setServe htaken (.spawning (taken.lastId + 1))
  have hpolls : Goes 1 { s with host := s.host.joining socket }
      { s with host := s.host.joining socket, server := polled } := by
    have hevent : s.server.serveStep? 0 .polling .polls = some polled := by
      unfold Server.serveStep?
      dsimp only
      rw [hc.stopRequested]
      rfl
    refine goes_of_serve hc.serves ?_
    unfold Service.serveStep?
    dsimp only
    rw [Host.isAcceptable_joining, Bool.or_true, if_pos rfl]
    exact advance?_serve (s := { s with host := s.host.joining socket }) hc.serves hevent
  have haccepts : Goes 1 { s with host := s.host.joining socket, server := polled }
      { s with host := s.host.joined socket, server := taken } := by
    refine goes_of_serve hpolled ?_
    unfold Service.serveStep?
    dsimp only
    have haccept : (s.host.joining socket).accept polled.listener.socket =
      (.connection stream, s.host.joined socket) := Host.accept_joining
    rw [haccept]
    exact advance?_serve (s := { s with host := s.host.joined socket, server := polled }) hpolled
      rfl
  have htracks : Goes 1 { s with host := s.host.joined socket, server := taken }
      { s with host := s.host.joined socket, server := tracked } := by
    have hopen : taken.tracker.inShutdown = false := hc.inShutdown
    have hevent : taken.serveStep? 0 (.tracking stream) .tracks = some tracked :=
      Server.serveStep?_eq_some_iff.mpr (.tracks stream hopen)
    refine goes_of_serve htaken ?_
    unfold Service.serveStep?
    dsimp only
    rw [advance?_serve (s := { s with host := s.host.joined socket, server := taken }) htaken
      hevent, hopen]
    rfl
  have hspawns : Goes 1 { s with host := s.host.joined socket, server := tracked }
      { s with host := s.host.joined socket, server := accepted s.server stream } := by
    refine goes_of_serve htracked ?_
    exact advance?_serve (s := { s with host := s.host.joined socket, server := tracked }) htracked
      rfl
  exact ((hpolls.trans haccepts).trans htracks).trans hspawns

/-- A connection does not notice that a client connects. -/
theorem Waiting.joined {host : Host} {socket : SocketId} {c : Connection Handler}
    (hw : Waiting host c) (ho : host.Open path socket) (hf : host.Fresh)
    (hc : c.stream < host.nextSocket) : Waiting (host.joined socket) c := by
  obtain ⟨hphase, hcancelled, hreadable⟩ | hover := hw
  · refine .inl ⟨hphase, hcancelled, ?_⟩
    unfold Host.isReadable Host.endpoint? at hreadable ⊢
    rw [Host.joined_get?_of_lt ho hf hc]
    exact hreadable
  · exact .inr hover

/-- A client that was accepted is about to be served, and all others still wait. -/
theorem Calm.accepted (hc : Calm path clients s.server s.host none) :
    Turn path (s.host.nextSocket :: clients) (accepted s.server (s.host.nextSocket + 1))
      (s.host.joined s.server.listener.socket) (s.server.lastId + 1) s.host.nextSocket .testing
      [] [] := by
  have hnew := accepted_get? s.server (s.host.nextSocket + 1)
  have hserves : (Service.accepted s.server (s.host.nextSocket + 1)).serves.entries =
      [(0, .polling)] :=
    serves_setServe (serves_setServe (serves_setServe (serves_setServe hc.serves _) _) _) _
  have hstream : ∀ {id c}, s.server.connections.get? id = some c → c.stream < s.host.nextSocket :=
    fun hid => hc.given _ _ hid
  refine ⟨⟨hc.handlers, hserves, hc.stopRequested, hc.inShutdown, hc.stops,
    Host.joined_open hc.opened hc.fresh, Host.joined_fresh hc.opened hc.fresh, ?_, ?_, ?_, ?_, ?_,
    ?_⟩, ?_, Host.joined_linked hc.opened hc.fresh⟩
  · intro id c hid
    rw [hnew] at hid
    split at hid
    · rename_i heq
      exact Nat.le_of_eq heq.symm
    · exact Nat.le_succ_of_le (hc.known id c hid)
  · intro id id' c c' hid hid' heq
    rw [hnew] at hid hid'
    split at hid <;> split at hid'
    · rename_i hnew hnew'
      exact hnew.symm.trans hnew'
    · cases hid
      exact absurd (hstream hid') (heq ▸ Nat.not_lt.mpr (Nat.le_succ _))
    · cases hid'
      exact absurd (hstream hid) (heq ▸ Nat.not_lt.mpr (Nat.le_succ _))
    · exact hc.streams id id' c c' hid hid' heq
  · intro id id' c c' hid hid' heq
    rw [hnew] at hid hid'
    split at hid <;> split at hid'
    · cases hid
      cases hid'
      exact Nat.succ_ne_self _ heq
    · cases hid
      exact Nat.not_lt.mpr (Nat.le_add_right s.host.nextSocket 2) (heq ▸ hstream hid')
    · cases hid'
      exact Nat.lt_irrefl _ (Nat.succ.inj heq ▸ hstream hid)
    · exact hc.apart id id' c c' hid hid' heq
  · intro id c hid
    rw [hnew] at hid
    show c.stream < s.host.nextSocket + 1 + 1
    split at hid
    · cases hid
      exact Nat.lt_succ_self _
    · exact Nat.lt_of_lt_of_le (hstream hid) (Nat.le_add_right _ 2)
  · intro id c hid hne
    rw [hnew, if_neg (fun heq => hne (congrArg some heq.symm))] at hid
    exact (hc.idle id c hid (by rintro ⟨⟩)).joined hc.opened hc.fresh (hstream hid)
  · intro b hb
    rcases List.mem_cons.mp hb with rfl | hb
    · exact ⟨_, _, (hnew _).trans (if_pos rfl), rfl, fun hne => absurd rfl hne⟩
    · obtain ⟨id, c, hid, hb, hidle⟩ := hc.clients b hb
      have hne : ¬ s.server.lastId + 1 = id := by
        rintro rfl
        exact Nat.not_succ_le_self _ (hc.known _ c hid)
      refine ⟨id, c, (hnew id).trans ((if_neg hne).trans hid), hb, fun _ => ?_⟩
      obtain ⟨hwaits, hl⟩ := hidle (by rintro ⟨⟩)
      exact ⟨hwaits, Host.joined_linked_of_linked hc.opened hc.fresh hl⟩
  · exact (hnew _).trans (if_pos rfl)

/-- A client connects. -/
theorem Ready.connect (hr : Ready path clients paths policy s) :
    ∃ t, s.connect path = (.ok s.host.nextSocket, t) ∧ t.now = s.now ∧
      Ready path (s.host.nextSocket :: clients) paths policy t := by
  let host := s.host.joined s.server.listener.socket
  let server := accepted s.server (s.host.nextSocket + 1)
  obtain ⟨server', hgoes, ht⟩ : ∃ server', Goes 1 { s with host, server }
      { s with host, server := server' } ∧
        Turn path (s.host.nextSocket :: clients) server' host (s.server.lastId + 1)
          s.host.nextSocket .polling [] [] :=
    hr.calm.accepted.step (s := { s with host, server }) (e := .tests) rfl rfl
      Host.AgreesBut.refl hr.calm.accepted.linked
  have hsettle : Service.settle { s with host := s.host.joining s.server.listener.socket } =
      { s with host, server := server' } :=
    settle_of_goes ((goes_accepted hr.calm).trans hgoes)
      (ht.waits (s := { s with host, server := server' })) (by decide)
  refine ⟨{ s with host, server := server' }, ?_, rfl, ht.over, hr.backend, hr.workers, hr.short,
    hr.policy⟩
  unfold Service.connect
  rw [Host.connect_eq hr.calm.opened]
  exact congrArg _ hsettle

/-- The service once one more client has connected. -/
def joins (s : Service) : Service :=
  settle { s with host := s.host.joining s.server.listener.socket }

/-- The service to which a client has connected. -/
theorem Ready.joins (hr : Ready path clients paths policy s) :
    s.connect path = (.ok s.host.nextSocket, s.joins) ∧ s.joins.now = s.now ∧
      Ready path (s.host.nextSocket :: clients) paths policy s.joins := by
  have hjoins : s.connect path = (.ok s.host.nextSocket, s.joins) := by
    unfold Service.connect
    rw [Host.connect_eq hr.calm.opened]
    rfl
  obtain ⟨t, hconnect, hnow, ht⟩ := hr.connect
  obtain rfl : s.joins = t := (Prod.mk.inj (hjoins.symm.trans hconnect)).2
  exact ⟨hjoins, hnow, ht⟩

/-! ## A fresh service -/

/-- A service with the four commands over a fresh store in memory, once it waits for clients. -/
def fresh (enabled : Bool) (policy : Retry.Policy) (draw : Retry.Backoff → Nat)
    (listener : Listener) (host : Host) (now : Instant) : Service :=
  let backend : Backend := ⟨.empty enabled, { store := .memory .empty }⟩
  { (start listener host backend now).registerCommands with policy, draw }.beginServe.2.settle

theorem uppercase_verb (command : Command) : Text.uppercase command.verb = command.verb := by
  cases command <;> decide +kernel

theorem register_verb {command : Command} (hs : s.server.serving = false)
    (hn : s.server.handlers.get? command.verb = none) :
    s.register command.verb (.command command) = .ok { s with server := { s.server with
      handlers := s.server.handlers.insert command.verb (.command command) } } := by
  have hcontains : s.server.handlers.contains command.verb = false := by
    rw [Dictionary.contains, hn]
    rfl
  have hnamed : command.verb.isEmpty = false := by
    cases command <;> rfl
  unfold Service.register Server.register HandlerTable.register
  dsimp only
  rw [uppercase_verb, hnamed, hs, hcontains]
  rfl

theorem registerCommands_start (listener : Listener) (host : Host) (backend : Backend)
    (now : Instant) : (start listener host backend now).registerCommands =
      { start listener host backend now with
        server := { listener, handlers := Ledger.commandTable } } := by
  unfold registerCommands
  rw [Command.all, List.foldl_cons, register_verb rfl rfl, List.foldl_cons]
  dsimp only [Except.toOption, Option.getD]
  rw [register_verb rfl rfl, List.foldl_cons]
  dsimp only [Except.toOption, Option.getD]
  rw [register_verb rfl rfl, List.foldl_cons]
  dsimp only [Except.toOption, Option.getD]
  rw [register_verb rfl rfl, List.foldl_nil]
  rfl

/-- A server with the four commands whose accept loop waits for the first client. -/
def serving (listener : Listener) : Server Handler :=
  { listener
    handlers := Ledger.commandTable
    serving := true
    tracker := { listening := true }
    serves := ((∅ : Dictionary Nat ServePhase).insert 0 .entering |>.insert 0 .marking).insert 0
      .polling }

theorem calm_serving {listener : Listener} {host : Host} (ho : host.Open path listener.socket)
    (hf : host.Fresh) : Calm path [] (serving listener) host none := by
  refine ⟨rfl, rfl, rfl, rfl, rfl, ho, hf, ?_, ?_, ?_, ?_, ?_, ?_⟩
  · intro id c hid
    cases hid
  · intro id id' c c' hid
    cases hid
  · intro id id' c c' hid
    cases hid
  · intro id c hid
    cases hid
  · intro id c hid
    cases hid
  · intro a ha
    cases ha

theorem fresh_eq {enabled : Bool} {draw : Retry.Backoff → Nat} {listener : Listener} {host : Host}
    {now : Instant} (ho : host.Open path listener.socket) (hf : host.Fresh) :
    fresh enabled policy draw listener host now =
      { start listener host ⟨.empty enabled, { store := .memory .empty }⟩ now with
        policy, draw, server := serving listener } := by
  let server : Server Handler := { listener, handlers := Ledger.commandTable }
  let begun : Service :=
    { start listener host ⟨.empty enabled, { store := .memory .empty }⟩ now with
      policy, draw, server := server.setServe 0 .entering }
  let entered : Server Handler := { server.setServe 0 .entering with
    tracker := { listening := true } }.setServe 0 .marking
  have hbegun : ({ (start listener host ⟨.empty enabled, { store := .memory .empty }⟩
      now).registerCommands with policy, draw }).beginServe.2 = begun := by
    rw [registerCommands_start]
    rfl
  have henters : Goes 1 begun { begun with server := entered } :=
    goes_of_serve rfl (advance?_serve rfl rfl)
  have hmarks : Goes 1 { begun with server := entered } { begun with server := serving listener } :=
    goes_of_serve rfl (advance?_serve rfl rfl)
  have hwaits := (calm_serving ho hf).waits (s := { begun with server := serving listener })
  exact (congrArg settle hbegun).trans (settle_of_goes (henters.trans hmarks) hwaits (by decide))

theorem fresh_spec {enabled : Bool} {draw : Retry.Backoff → Nat} {listener : Listener}
    {host : Host} {now : Instant} (ho : host.Open path listener.socket) (hf : host.Fresh) :
    Ready path [] [] policy (fresh enabled policy draw listener host now) ∧
      (fresh enabled policy draw listener host now).now = now := by
  rw [fresh_eq ho hf]
  exact ⟨⟨calm_serving ho hf, ⟨⟨.empty, rfl, MemoryStore.holds_empty⟩, rfl,
    Cache.within_empty enabled⟩, fun _ => rfl, fun path hp => (by cases hp), rfl⟩, rfl⟩

theorem ready_fresh {enabled : Bool} {draw : Retry.Backoff → Nat} {listener : Listener}
    {host : Host} {now : Instant} (ho : host.Open path listener.socket) (hf : host.Fresh) :
    Ready path [] [] policy (fresh enabled policy draw listener host now) :=
  (fresh_spec ho hf).1

/-! ## Conversations -/

/-- A client comes with a packet.  It connects when it comes for the first time. -/
structure Visit where
  client : Nat
  now : Instant
  packet : ByteArray

/-- What clients get who come one after another.  Those who have come before have a socket. -/
def conversation (path : String) :
    List Visit → Dictionary Nat SocketId → Service → List (Except Errno Nat × Option Reply)
  | [], _, _ => []
  | visit :: visits, sockets, s =>
    let s := { s with now := visit.now }
    match sockets.get? visit.client with
    | some socket =>
      let (reply, s) := s.request socket visit.packet
      reply :: conversation path visits sockets s
    | none =>
      match s.connect path with
      | (.error e, s) => (.error e, none) :: conversation path visits sockets s
      | (.ok socket, s) =>
        let (reply, s) := s.request socket visit.packet
        reply :: conversation path visits (sockets.insert visit.client socket) s

theorem Ready.conversation {visits : List Visit} {sockets : Dictionary Nat SocketId}
    (hr : Ready path clients paths policy s)
    (hs : ∀ client socket, sockets.get? client = some socket → socket ∈ clients)
    (hv : ∀ visit ∈ visits,
      visit.packet.size ≠ 0 ∧ visit.now + policy.deadline.nanos < clockEnd) :
    conversation path visits sockets s = paths.exchanges (visits.map Visit.packet) := by
  -- On the visits: the service is ready again after each, with one client more or the same ones.
  induction visits generalizing clients paths sockets s with
  | nil => rfl
  | cons visit visits ih =>
    obtain ⟨hp, hnow⟩ := hv visit List.mem_cons_self
    have hv' := fun v hv'' => hv v (List.mem_cons_of_mem visit hv'')
    have hr : Ready path clients paths policy { s with now := visit.now } :=
      ⟨hr.calm, hr.backend, hr.workers, hr.short, hr.policy⟩
    rw [Service.conversation, List.map_cons, Ledger.exchanges]
    cases hget : sockets.get? visit.client with
    | some socket =>
      obtain ⟨t, hrequest, ht⟩ := hr.request (hs _ _ hget) hp hnow
      dsimp only
      rw [hrequest]
      dsimp only
      rw [ih ht hs hv']
    | none =>
      obtain ⟨u, hconnect, hclock, hu⟩ := hr.connect
      have hnow' : u.now + policy.deadline.nanos < clockEnd := by
        rw [hclock]
        exact hnow
      obtain ⟨t, hrequest, ht⟩ := hu.request List.mem_cons_self hp hnow'
      dsimp only
      rw [hconnect]
      dsimp only
      rw [hrequest]
      dsimp only
      rw [ih ht ?_ hv']
      intro client socket hsocket
      rw [Dictionary.get?_insert] at hsocket
      split at hsocket
      · cases hsocket
        exact List.mem_cons_self
      · exact List.mem_cons_of_mem _ (hs client socket hsocket)

/-- **Clients get what the list of paths says**: any number of them, who come one after another to a
service with the four commands over a fresh store in memory, with its cache or without.  No request
comes so late that the clock ends before the deadline of its retries, since such a sum faults. -/
theorem conversation_eq_exchanges {enabled : Bool} {draw : Retry.Backoff → Nat} {host bound : Host}
    {listener : Listener} {now : Instant} {visits : List Visit} (hpath : path ≠ "")
    (hf : host.Fresh) (hb : Listener.bind host path = (.ok listener, bound))
    (hv : ∀ visit ∈ visits,
      visit.packet.size ≠ 0 ∧ visit.now + policy.deadline.nanos < clockEnd) :
    conversation path visits ∅ (fresh enabled policy draw listener bound now) =
      Ledger.exchanges [] (visits.map Visit.packet) := by
  obtain ⟨ho, hf⟩ := Listener.open_of_bind hpath hf hb
  refine (ready_fresh ho hf).conversation (fun client socket hs => ?_) hv
  cases hs

/-- A host whose only file is that of a listener. -/
def listeningHost : Host where
  files := Files.put ⟨∅⟩ ["s"] (.socket 0)
  sockets := (∅ : Dictionary SocketId Socket).insert 0
    (.listening { kind := .packets, backlog := Listener.backlog })
  nextSocket := 1

/-- A host without files binds a name in its root. -/
theorem bind_emptyHost :
    Listener.bind { files := ⟨∅⟩ } "s" = (.ok ⟨0, some "s"⟩, listeningHost) := by
  have hfind : (Files.mk ∅).find false "s" = .ok (["s"], none) := Files.find_s rfl
  have hclear : Listener.clearPath { files := ⟨∅⟩ } "s" = .ok { files := ⟨∅⟩ } := by
    unfold Listener.clearPath
    rw [Host.no_nul Host.checkSocketPath_s, hfind]
    rfl
  unfold Listener.bind
  rw [hclear]
  unfold Host.bind
  rw [Host.checkSocketPath_s]
  dsimp only
  rw [hfind]
  rfl

/-- Two clients, one of whom asks for the path of the other's fsid. -/
theorem conversation_eq_exchanges_of_two_clients :
    ∃ bound, Listener.bind { files := ⟨∅⟩ } "s" = (.ok ⟨0, some "s"⟩, bound) ∧
      conversation "s"
        [⟨1, 0, Text.encode "get_or_create_fsidnum /srv"⟩, ⟨2, 1, Text.encode "GET_PATH 1"⟩] ∅
        (fresh true {} Retry.Backoff.largestPause ⟨0, some "s"⟩ bound 0) =
      [(.ok 26, some (.packet (Text.encode "+ 1"))),
        (.ok 10, some (.packet (Text.encode "+ /srv")))] := by
  refine ⟨listeningHost, bind_emptyHost,
    (conversation_eq_exchanges (by decide) (fun _ _ => rfl) bind_emptyHost ?_).trans ?_⟩
  · decide +kernel
  · have hfirst : Ledger.exchange [] (Text.encode "get_or_create_fsidnum /srv") =
        ((.ok 26, some (.packet (Text.encode "+ 1"))), ["/srv"]) :=
      Ledger.exchange_eq (by decide +kernel) (by decide) (by decide +kernel)
    have hsecond : Ledger.exchange ["/srv"] (Text.encode "GET_PATH 1") =
        ((.ok 10, some (.packet (Text.encode "+ /srv"))), ["/srv"]) :=
      Ledger.exchange_eq (by decide +kernel) (by decide) (by decide +kernel)
    rw [List.map_cons, List.map_cons, List.map_nil, Ledger.exchanges, hfirst, Ledger.exchanges,
      hsecond, Ledger.exchanges]

end Service

end FsidRegistry
