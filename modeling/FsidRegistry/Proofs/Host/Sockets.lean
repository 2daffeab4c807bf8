import FsidRegistry.Listener

/-!
# Sockets in use

What a server does to its host touches little of it: the file of its listening socket, and the two
ends of the connection that is being served.

* `Files.walk_put`: a path that leads to nothing leads to what is put there.
* `Host.Open`: clients find a listening socket; `Listener.open_of_bind` binds one.
* `Host.Linked`: the two ends of a client's connection and what is under way between them.
* `Host.AgreesBut`: two hosts that differ in the two ends of one connection at most.
* `Host.Beside`: two hosts that differ in what connections hold at most.
* `Host.connect_eq`, `Host.accept_joining`: a client connects and is accepted.
-/

namespace FsidRegistry

/-! ## Files -/

namespace Files

variable {fs : Files} {place : Place} {e : Entry}

theorem entry?_put (hp : place ≠ []) (q : Place) :
    Files.entry? (fs.put place e) q = if place = q then some e else fs.entry? q := by
  cases q with
  | nil =>
    rw [if_neg hp]
    rfl
  | cons name q => exact Dictionary.get?_insert fs.entries place (name :: q) e

/-- A walk tells what the place where it ends holds. -/
theorem eq_of_walk {follow : Bool} {fuel links : Nat} {at_ p : Place} {names : List String}
    {x : Option Entry} (h : fs.walk follow fuel links at_ names = .ok (p, x)) :
    x = fs.entry? p := by
  fun_induction walk fs follow fuel links at_ names
  case case3 ih => exact ih h
  case case4 ih => exact ih h
  case case8 ih => exact ih h
  case case11 ih => exact ih h
  case case2 =>
    obtain ⟨rfl, rfl⟩ := Prod.mk.inj (Except.ok.inj h)
    rfl
  case case6 hentry hrest =>
    obtain ⟨hp, hx⟩ := Prod.mk.inj (Except.ok.inj h)
    rw [← hp, ← hx, hentry]
  case case9 hentry hrest =>
    obtain ⟨hp, hx⟩ := Prod.mk.inj (Except.ok.inj h)
    rw [← hp, ← hx, hentry]
  case case12 hentry hrest =>
    obtain ⟨hp, hx⟩ := Prod.mk.inj (Except.ok.inj h)
    rw [← hp, ← hx, hentry]
  all_goals cases h

/-- A walk that ends at nothing ends at the socket that is put there. -/
theorem walk_put {fuel links : Nat} {at_ : Place} {names : List String} {id : Nat}
    (h : fs.walk false fuel links at_ names = .ok (place, none)) :
    (fs.put place (.socket id)).walk true fuel links at_ names =
      .ok (place, some (.socket id)) := by
  have hnone : fs.entry? place = none := (eq_of_walk h).symm
  have hp : place ≠ [] := fun hnil => by rw [hnil] at hnone; cases hnone
  have hat : Files.entry? (fs.put place (.socket id)) place = some (.socket id) := by
    rw [entry?_put hp, if_pos rfl]
  -- What the walk has passed holds something, so it is another place.
  have hpassed : ∀ {q : Place} {x : Entry}, fs.entry? q = some x →
      Files.entry? (fs.put place (.socket id)) q = some x := by
    intro q x hq
    rw [entry?_put hp, if_neg, hq]
    rintro rfl
    rw [hnone] at hq
    cases hq
  fun_induction walk fs false fuel links at_ names
  case case2 fuel links at_ hfuel =>
    obtain ⟨rfl, _⟩ := Prod.mk.inj (Except.ok.inj h)
    cases fuel with
    | zero => exact absurd rfl hfuel
    | succ fuel => rw [walk, hat]; exact hfuel
  case case3 hname ih => rw [walk, if_pos hname, ih h]
  case case4 hname hup ih => rw [walk, if_neg hname, if_pos hup, ih h]
  case case6 fuel links at_ name rest hname hup hlong place' hentry hrest =>
    have hplace : at_ ++ [name] = place := (Prod.mk.inj (Except.ok.inj h)).1
    rw [walk, if_neg hname, if_neg hup, if_neg hlong, hplace]
    dsimp only
    rw [hat]
    exact if_pos hrest
  case case8 fuel links at_ name rest hname hup hlong place' hentry ih =>
    have hdir : Files.entry? (fs.put place (.socket id)) (at_ ++ [name]) = some .directory :=
      hpassed hentry
    rw [walk, if_neg hname, if_neg hup, if_neg hlong]
    dsimp only
    rw [hdir]
    exact ih h
  case case11 fuel links at_ name rest hname hup hlong place' target hentry hrest hlinks start ih =>
    have hlink : Files.entry? (fs.put place (.socket id)) (at_ ++ [name]) = some (.link target) :=
      hpassed hentry
    rw [walk, if_neg hname, if_neg hup, if_neg hlong]
    dsimp only
    rw [hlink]
    dsimp only
    rw [if_neg (fun hr => by simp at hr), if_neg hlinks]
    exact ih h
  case case9 => cases (Prod.mk.inj (Except.ok.inj h)).2
  case case12 => cases (Prod.mk.inj (Except.ok.inj h)).2
  all_goals cases h

theorem find_put {path : String} {id : Nat} (h : fs.find false path = .ok (place, none)) :
    (fs.put place (.socket id)).find true path = .ok (place, some (.socket id)) := by
  unfold find at h ⊢
  split at h
  · cases h
  · split at h
    · cases h
    · rename_i hempty hlong
      rw [if_neg hempty, if_neg hlong]
      exact walk_put h

/-- A path of one name. -/
theorem names_s : names "s" = ["s"] := by
  show (if ("/" == "") = true then ["s"] else String.splitOnAux "s" "/" 0 0 0 []) = ["s"]
  rw [if_neg (by decide), String.splitOnAux, if_neg (by decide), if_neg (by decide),
    String.splitOnAux, if_pos (by decide)]
  decide +kernel

end Files

namespace Host

variable {h h' : Host} {a id : SocketId} {requests responses : List ByteArray}

/-! ## Connections -/

/-- The two ends of a client's connection, the client's before the server's. -/
structure Linked (h : Host) (a : SocketId) (requests responses : List ByteArray) : Prop where
  client : h.endpoint? a = some { peer := a + 1, inbox := responses }
  server : h.endpoint? (a + 1) = some { peer := a, inbox := requests }

/-- Two hosts that differ in the two ends of one connection at most. -/
structure AgreesBut (a : SocketId) (h h' : Host) : Prop where
  files : h'.files = h.files
  nextSocket : h'.nextSocket = h.nextSocket
  sockets : ∀ id, id ≠ a → id ≠ a + 1 → h'.sockets.get? id = h.sockets.get? id

theorem get?_of_endpoint? {e : Endpoint} (he : h.endpoint? id = some e) :
    h.sockets.get? id = some (.endpoint e) := by
  unfold endpoint? at he
  split at he
  · cases he
    assumption
  · cases he

theorem get?_of_listening? {l : ListeningSocket} (hl : h.listening? id = some l) :
    h.sockets.get? id = some (.listening l) := by
  unfold listening? at hl
  split at hl
  · cases hl
    assumption
  · cases hl

theorem endpoint?_of_get? {e : Endpoint} (he : h.sockets.get? id = some (.endpoint e)) :
    h.endpoint? id = some e := by
  rw [endpoint?, he]

theorem listening?_of_get? {l : ListeningSocket} (hl : h.sockets.get? id = some (.listening l)) :
    h.listening? id = some l := by
  rw [listening?, hl]

theorem endpoint?_setSocket (id b : SocketId) (e : Endpoint) :
    (h.setSocket id (.endpoint e)).endpoint? b = if id = b then some e else h.endpoint? b := by
  unfold endpoint? setSocket
  rw [Dictionary.get?_insert]
  by_cases hb : id = b
  · rw [if_pos hb, if_pos hb]
  · rw [if_neg hb, if_neg hb]

theorem AgreesBut.endpoint? (hd : AgreesBut a h h') (ha : id ≠ a) (ha' : id ≠ a + 1) :
    h'.endpoint? id = h.endpoint? id := by
  unfold Host.endpoint?
  rw [hd.sockets id ha ha']

theorem AgreesBut.refl : AgreesBut a h h := ⟨rfl, rfl, fun _ _ _ => rfl⟩

theorem AgreesBut.trans {h'' : Host} (hd : AgreesBut a h h') (hd' : AgreesBut a h' h'') :
    AgreesBut a h h'' :=
  ⟨hd'.files.trans hd.files, hd'.nextSocket.trans hd.nextSocket, fun id ha ha' =>
    (hd'.sockets id ha ha').trans (hd.sockets id ha ha')⟩

theorem agreesBut_setSocket (s : Socket) (hid : id = a ∨ id = a + 1) :
    AgreesBut a h (h.setSocket id s) := by
  refine ⟨rfl, rfl, fun b ha ha' => ?_⟩
  unfold setSocket
  rw [Dictionary.get?_insert, if_neg]
  rintro rfl
  rcases hid with hid | hid
  · exact ha hid
  · exact ha' hid

/-- The ends of two connections are the same or have nothing in common. -/
theorem Linked.apart {b : SocketId} {requests' responses' : List ByteArray}
    (hl : h.Linked a requests responses) (hl' : h.Linked b requests' responses') (hne : b ≠ a) :
    b ≠ a + 1 ∧ b + 1 ≠ a := by
  constructor
  · rintro rfl
    have hpeer : a = a + 1 + 1 := by
      simpa using congrArg (Option.map Endpoint.peer) (hl.server.symm.trans hl'.client)
    exact Nat.ne_of_lt (Nat.lt_succ_of_lt (Nat.lt_succ_self a)) hpeer
  · rintro rfl
    have hpeer : b + 1 + 1 = b := by
      simpa using congrArg (Option.map Endpoint.peer) (hl.client.symm.trans hl'.server)
    exact Nat.ne_of_gt (Nat.lt_succ_of_lt (Nat.lt_succ_self b)) hpeer

theorem Linked.of_agreesBut {b : SocketId} {requests' responses' : List ByteArray}
    (hl : h.Linked a requests responses) (hl' : h.Linked b requests' responses') (hne : b ≠ a)
    (hd : AgreesBut a h h') : h'.Linked b requests' responses' := by
  obtain ⟨hb, hb'⟩ := hl.apart hl' hne
  constructor
  · rw [hd.endpoint? hne hb]
    exact hl'.client
  · rw [hd.endpoint? hb' (fun he => hne (Nat.succ.inj he))]
    exact hl'.server

theorem Linked.setSocket_client (hl : h.Linked a requests responses) (responses' : List ByteArray) :
    (h.setSocket a (.endpoint { peer := a + 1, inbox := responses' })).Linked a requests
      responses' := by
  constructor
  · rw [endpoint?_setSocket, if_pos rfl]
  · rw [endpoint?_setSocket, if_neg (Nat.ne_of_lt (Nat.lt_succ_self a))]
    exact hl.server

theorem Linked.setSocket_server (hl : h.Linked a requests responses) (requests' : List ByteArray) :
    (h.setSocket (a + 1) (.endpoint { peer := a, inbox := requests' })).Linked a requests'
      responses := by
  constructor
  · rw [endpoint?_setSocket, if_neg (Nat.succ_ne_self a)]
    exact hl.client
  · rw [endpoint?_setSocket, if_pos rfl]

theorem send_eq {e p : Endpoint} {bytes : ByteArray} (he : h.endpoint? id = some e)
    (hreset : e.reset = false) (hshut : e.writeShut = false) (hp : h.endpoint? e.peer = some p)
    (hsize : bytes.size ≤ packetSizeLimit) :
    h.send id bytes = (.ok bytes.size,
      h.setSocket e.peer (.endpoint { p with inbox := p.inbox ++ [bytes] })) := by
  have hlong : ¬ packetSizeLimit < bytes.size := Nat.not_lt.mpr hsize
  simp [send, he, hreset, hshut, hp, hlong, modifyEndpoint]

/-- A client's packet arrives, if it is not too long. -/
theorem Linked.send_client (hl : h.Linked a requests responses) {packet : ByteArray}
    (hsize : packet.size ≤ packetSizeLimit) :
    h.send a packet = (.ok packet.size,
      h.setSocket (a + 1) (.endpoint { peer := a, inbox := requests ++ [packet] })) :=
  send_eq hl.client rfl rfl hl.server hsize

/-- A response arrives, if it is not too long. -/
theorem Linked.send_server (hl : h.Linked a requests responses) {response : ByteArray}
    (hsize : response.size ≤ packetSizeLimit) :
    h.send (a + 1) response = (.ok response.size,
      h.setSocket a (.endpoint { peer := a + 1, inbox := responses ++ [response] })) :=
  send_eq hl.server rfl rfl hl.client hsize

theorem Linked.send_tooLong (hl : h.Linked a requests responses) {packet : ByteArray}
    (hsize : packetSizeLimit < packet.size) :
    h.send a packet = (.error .messageTooLong, h) := by
  rw [send, hl.client]
  dsimp only
  rw [if_neg Bool.false_ne_true, if_pos hsize]

theorem Linked.receive {packet : ByteArray} (hl : h.Linked a (packet :: requests) responses)
    (size : Nat) :
    h.receive (a + 1) size = (.packet (packet.extract 0 size),
      h.setSocket (a + 1) (.endpoint { peer := a, inbox := requests })) := by
  rw [Host.receive, hl.server]
  rfl

theorem Linked.isReadable (hl : h.Linked a requests responses) :
    h.isReadable (a + 1) = !requests.isEmpty := by
  rw [Host.isReadable, hl.server]
  rfl

/-! ## Listening sockets -/

theorem checkSocketPath_s : checkSocketPath "s" = .ok () := by
  have hnul : "s".contains '\x00' = false := by
    rw [String.contains_char_eq]
    decide +kernel
  unfold checkSocketPath
  rw [hnul]
  rfl

/-- What can be a socket's address holds no NUL. -/
theorem no_nul {path : String} (hvalid : checkSocketPath path = .ok ()) :
    path.contains '\x00' = false := by
  unfold checkSocketPath at hvalid
  split at hvalid
  · cases hvalid
  · rename_i hnul
    exact Bool.eq_false_iff.mpr hnul

/-- Clients that connect to `path` find the listening socket, and none of them waits. -/
structure Open (h : Host) (path : String) (socket : SocketId) : Prop where
  valid : checkSocketPath path = .ok ()
  named : path.isEmpty = false
  found : ∃ place, h.files.find true path = .ok (place, some (.socket socket))
  listening : h.listening? socket = some { kind := .packets, backlog := Listener.backlog }

/-- No socket has a number that is still to be given. -/
def Fresh (h : Host) : Prop := ∀ id, h.nextSocket ≤ id → h.sockets.get? id = none

theorem Fresh.lt {s : Socket} (hf : h.Fresh) (hs : h.sockets.get? id = some s) :
    id < h.nextSocket := by
  rcases Nat.lt_or_ge id h.nextSocket with hlt | hge
  · exact hlt
  · rw [hf id hge] at hs
    cases hs

theorem Fresh.of_agreesBut (hf : h.Fresh) (hl : h.Linked a requests responses)
    (hd : AgreesBut a h h') : h'.Fresh := by
  intro id hid
  rw [hd.nextSocket] at hid
  have ha := hf.lt (get?_of_endpoint? hl.client)
  have ha' := hf.lt (get?_of_endpoint? hl.server)
  rw [hd.sockets id (by rintro rfl; exact Nat.not_lt.mpr hid ha)
    (by rintro rfl; exact Nat.not_lt.mpr hid ha')]
  exact hf id hid

variable {path : String} {socket : SocketId}

theorem Open.ne_endpoint {e : Endpoint} (ho : h.Open path socket) (he : h.endpoint? id = some e) :
    socket ≠ id := by
  rintro rfl
  have hsame := (get?_of_listening? ho.listening).symm.trans (get?_of_endpoint? he)
  cases hsame

theorem Open.of_same (ho : h.Open path socket) (hfiles : h'.files = h.files)
    (hs : h'.sockets.get? socket = h.sockets.get? socket) : h'.Open path socket := by
  refine ⟨ho.valid, ho.named, ?_, ?_⟩
  · rw [hfiles]
    exact ho.found
  · exact listening?_of_get? (hs.trans (get?_of_listening? ho.listening))

theorem Open.of_agreesBut (ho : h.Open path socket) (hl : h.Linked a requests responses)
    (hd : AgreesBut a h h') : h'.Open path socket :=
  ho.of_same hd.files (hd.sockets socket (ho.ne_endpoint hl.client) (ho.ne_endpoint hl.server))

theorem Open.isAcceptable (ho : h.Open path socket) : h.isAcceptable socket = false := by
  rw [Host.isAcceptable, ho.listening]
  rfl

/-- The host once a client has connected. -/
def joining (h : Host) (socket : SocketId) : Host :=
  h.openPair.2.2.setSocket socket (.listening
    { kind := .packets, backlog := Listener.backlog, queue := [h.nextSocket + 1] })

/-- The host once the client is accepted. -/
def joined (h : Host) (socket : SocketId) : Host :=
  (h.joining socket).setSocket socket (.listening
    { kind := .packets, backlog := Listener.backlog })

theorem connect_eq (ho : h.Open path socket) :
    h.connect path = .ok (h.nextSocket, h.joining socket) := by
  obtain ⟨place, hfound⟩ := ho.found
  have hat : h.socketAt path = .ok (socket, .listening
      { kind := .packets, backlog := Listener.backlog }) := by
    unfold socketAt
    rw [hfound]
    have hopen := get?_of_listening? ho.listening
    simp only [Bind.bind, Except.bind, hopen]
    rfl
  unfold connect
  rw [ho.valid, ho.named, hat]
  rfl

theorem joining_get? (id : SocketId) :
    (h.joining socket).sockets.get? id =
      if socket = id then some (.listening
        { kind := .packets, backlog := Listener.backlog, queue := [h.nextSocket + 1] })
      else if h.nextSocket + 1 = id then some (.endpoint { peer := h.nextSocket })
      else if h.nextSocket = id then some (.endpoint { peer := h.nextSocket + 1 })
      else h.sockets.get? id := by
  unfold joining openPair openSocket setSocket
  simp only [Dictionary.get?_insert]

theorem isAcceptable_joining : (h.joining socket).isAcceptable socket = true := by
  rw [Host.isAcceptable, listening?_of_get? (by rw [joining_get?, if_pos rfl])]
  rfl

theorem accept_joining :
    (h.joining socket).accept socket = (.connection (h.nextSocket + 1), h.joined socket) := by
  rw [accept, listening?_of_get? (by rw [joining_get?, if_pos rfl])]
  rfl

theorem ne_of_lt {n m : Nat} (hlt : n < m) : m + 1 ≠ n ∧ m ≠ n := by
  omega

theorem ne_of_add_two_le {n m : Nat} (hle : m + 2 ≤ n) : m + 1 ≠ n ∧ m ≠ n ∧ m ≤ n := by
  omega

theorem joined_get? (ho : h.Open path socket) (hf : h.Fresh) (id : SocketId) :
    (h.joined socket).sockets.get? id =
      if h.nextSocket + 1 = id then some (.endpoint { peer := h.nextSocket })
      else if h.nextSocket = id then some (.endpoint { peer := h.nextSocket + 1 })
      else h.sockets.get? id := by
  have hs := get?_of_listening? ho.listening
  have hlt := hf.lt hs
  unfold joined setSocket
  rw [Dictionary.get?_insert, joining_get?]
  by_cases hid : socket = id
  · subst hid
    rw [if_pos rfl, if_neg (ne_of_lt hlt).1, if_neg (ne_of_lt hlt).2, hs]
  · rw [if_neg hid, if_neg hid]

theorem joined_linked (ho : h.Open path socket) (hf : h.Fresh) :
    (h.joined socket).Linked h.nextSocket [] [] := by
  constructor
  · refine endpoint?_of_get? ?_
    rw [joined_get? ho hf, if_neg (Nat.succ_ne_self _), if_pos rfl]
  · refine endpoint?_of_get? ?_
    rw [joined_get? ho hf, if_pos rfl]

theorem joined_get?_of_lt (ho : h.Open path socket) (hf : h.Fresh) (hid : id < h.nextSocket) :
    (h.joined socket).sockets.get? id = h.sockets.get? id := by
  rw [joined_get? ho hf, if_neg (ne_of_lt hid).1, if_neg (ne_of_lt hid).2]

theorem joined_open (ho : h.Open path socket) (hf : h.Fresh) : (h.joined socket).Open path socket :=
  ho.of_same rfl (joined_get?_of_lt ho hf (hf.lt (get?_of_listening? ho.listening)))

theorem joined_fresh (ho : h.Open path socket) (hf : h.Fresh) : (h.joined socket).Fresh := by
  intro id hid
  obtain ⟨hne, hne', hle⟩ := ne_of_add_two_le hid
  rw [joined_get? ho hf, if_neg hne, if_neg hne']
  exact hf id hle

theorem joined_linked_of_linked (ho : h.Open path socket) (hf : h.Fresh)
    (hl : h.Linked a requests responses) : (h.joined socket).Linked a requests responses := by
  have ha := get?_of_endpoint? hl.client
  have ha' := get?_of_endpoint? hl.server
  constructor
  · refine endpoint?_of_get? ?_
    rw [joined_get?_of_lt ho hf (hf.lt ha), ha]
  · refine endpoint?_of_get? ?_
    rw [joined_get?_of_lt ho hf (hf.lt ha'), ha']

/-- Binding a path to a socket makes the path lead to it. -/
theorem open_of_bind {socket : SocketId} (hpath : path ≠ "")
    (hb : h.bind path (.listening { kind := .packets, backlog := Listener.backlog }) =
      .ok (socket, h')) : h'.Open path socket ∧ (h.Fresh → h'.Fresh) := by
  have hnamed : path.isEmpty = false := by
    rw [Bool.eq_false_iff]
    exact fun he => hpath (String.isEmpty_iff.mp he)
  unfold bind at hb
  cases hvalid : checkSocketPath path with
  | error e =>
    rw [hvalid] at hb
    cases hb
  | ok u =>
    rw [hvalid, hnamed] at hb
    cases hfind : h.files.find false path with
    | error e =>
      rw [hfind] at hb
      cases hb
    | ok r =>
      obtain ⟨place, entry⟩ := r
      rw [hfind] at hb
      cases entry with
      | some e => cases hb
      | none =>
        cases hb
        have hat : ∀ id, (h.sockets.insert h.nextSocket (.listening
            { kind := .packets, backlog := Listener.backlog })).get? id =
              if h.nextSocket = id then some (.listening
                { kind := .packets, backlog := Listener.backlog }) else h.sockets.get? id :=
          fun id => Dictionary.get?_insert _ _ _ _
        refine ⟨⟨hvalid, hnamed, ⟨place, Files.find_put hfind⟩, ?_⟩, fun hf id hid => ?_⟩
        · exact listening?_of_get? ((hat _).trans (if_pos rfl))
        · exact ((hat id).trans (if_neg (Nat.ne_of_lt hid))).trans (hf id (Nat.le_of_lt hid))

/-! ## What connections do to a host -/

/-- A host that differs from another in what its connections hold only. -/
structure Beside (h h' : Host) : Prop where
  files : h'.files = h.files
  nextSocket : h'.nextSocket = h.nextSocket
  listening : ∀ id, h'.listening? id = h.listening? id
  closed : ∀ id, h.sockets.get? id = none → h'.sockets.get? id = none

theorem Beside.refl : Beside h h := ⟨rfl, rfl, fun _ => rfl, fun _ hc => hc⟩

theorem Beside.trans {h'' : Host} (hb : Beside h h') (hb' : Beside h' h'') : Beside h h'' :=
  ⟨hb'.files.trans hb.files, hb'.nextSocket.trans hb.nextSocket,
    fun id => (hb'.listening id).trans (hb.listening id),
    fun id hc => hb'.closed id (hb.closed id hc)⟩

theorem Beside.fresh (hb : Beside h h') (hf : h.Fresh) : h'.Fresh := by
  intro id hid
  rw [hb.nextSocket] at hid
  exact hb.closed id (hf id hid)

/-- An end of a connection is replaced by another one, or by nothing. -/
theorem beside_of_endpoint {e : Endpoint} (he : h.endpoint? id = some e)
    (hfiles : h'.files = h.files) (hnext : h'.nextSocket = h.nextSocket)
    (hmine : h'.listening? id = none)
    (hothers : ∀ id', id ≠ id' → h'.sockets.get? id' = h.sockets.get? id') : Beside h h' := by
  have hget := get?_of_endpoint? he
  refine ⟨hfiles, hnext, fun id' => ?_, fun id' hc => ?_⟩
  · by_cases hid : id = id'
    · subst hid
      rw [hmine, listening?, hget]
    · rw [listening?, hothers id' hid, listening?]
  · rw [hothers id' ?_]
    · exact hc
    · rintro rfl
      rw [hget] at hc
      cases hc

theorem beside_setSocket {e e' : Endpoint} (he : h.endpoint? id = some e) :
    Beside h (h.setSocket id (.endpoint e')) := by
  refine beside_of_endpoint he rfl rfl ?_ fun id' hid => ?_
  · rw [listening?, setSocket, Dictionary.get?_insert, if_pos rfl]
  · rw [setSocket, Dictionary.get?_insert, if_neg hid]

theorem beside_modifyEndpoint (id : SocketId) (f : Endpoint → Endpoint) :
    Beside h (h.modifyEndpoint id f) := by
  unfold modifyEndpoint
  split
  · exact beside_setSocket ‹_›
  · exact .refl

theorem beside_receive (id : SocketId) (size : Nat) : Beside h (h.receive id size).2 := by
  unfold receive
  split
  · exact .refl
  · split
    · exact beside_setSocket ‹_›
    · split
      · exact beside_setSocket ‹_›
      · split <;> exact .refl

theorem beside_send (id : SocketId) (bytes : ByteArray) : Beside h (h.send id bytes).2 := by
  unfold send
  split
  · exact .refl
  · split
    · exact beside_setSocket ‹_›
    · split
      · exact .refl
      · split
        · exact .refl
        · exact beside_modifyEndpoint _ _

theorem beside_shutdownEndpoint (id : SocketId) (read write : Bool) :
    Beside h (h.shutdownEndpoint id read write) := by
  unfold shutdownEndpoint
  split
  · exact .refl
  · exact (beside_modifyEndpoint _ _).trans (beside_modifyEndpoint _ _)

/-- A socket that does not listen is gone. -/
theorem beside_erase (hl : h.listening? id = none) :
    Beside h { h with sockets := h.sockets.erase id } := by
  refine ⟨rfl, rfl, fun id' => ?_, fun id' hc => ?_⟩
  · by_cases hid : id = id'
    · subst hid
      rw [hl, listening?, Dictionary.get?_erase, if_pos rfl]
    · rw [listening?, Dictionary.get?_erase, if_neg hid, listening?]
  · show (h.sockets.erase id).get? id' = none
    rw [Dictionary.get?_erase, hc, ite_self]

theorem beside_closeEndpoint (id : SocketId) (lost : Bool) :
    Beside h (h.closeEndpoint id lost) := by
  unfold closeEndpoint
  split
  · exact .refl
  · rename_i e he
    have hpeer : Beside h (h.modifyEndpoint e.peer fun p => { p with
        readShut := true, writeShut := true, reset := p.reset || (lost || !e.inbox.isEmpty) }) :=
      beside_modifyEndpoint _ _
    have hl : h.listening? id = none := by rw [listening?, get?_of_endpoint? he]
    exact hpeer.trans (beside_erase ((hpeer.listening id).trans hl))

/-- A socket that does not listen is closed. -/
theorem beside_closeSocket (hl : h.listening? id = none) : Beside h (h.closeSocket id) := by
  unfold closeSocket
  split
  · exact beside_closeEndpoint _ _
  · rename_i l hget
    rw [listening?, hget] at hl
    cases hl
  · exact beside_erase hl

/-! ## Queues -/

/-- Clients that connect to `path` find the listening socket, and some of them wait in its queue. -/
structure Queued (h : Host) (path : String) (socket : SocketId) (queue : List SocketId) : Prop where
  valid : checkSocketPath path = .ok ()
  named : path.isEmpty = false
  found : ∃ place, h.files.find true path = .ok (place, some (.socket socket))
  listening : h.listening? socket =
    some { kind := .packets, backlog := Listener.backlog, queue }

variable {queue : List SocketId}

theorem Open.queued (ho : h.Open path socket) : h.Queued path socket [] :=
  ⟨ho.valid, ho.named, ho.found, ho.listening⟩

theorem Queued.opened (hq : h.Queued path socket []) : h.Open path socket :=
  ⟨hq.valid, hq.named, hq.found, hq.listening⟩

theorem Queued.of_listening (hq : h.Queued path socket queue) (hfiles : h'.files = h.files)
    {queue' : List SocketId} (hl : h'.listening? socket =
      some { kind := .packets, backlog := Listener.backlog, queue := queue' }) :
    h'.Queued path socket queue' := by
  refine ⟨hq.valid, hq.named, ?_, hl⟩
  rw [hfiles]
  exact hq.found

theorem Queued.beside (hq : h.Queued path socket queue) (hb : Beside h h') :
    h'.Queued path socket queue :=
  hq.of_listening hb.files ((hb.listening socket).trans hq.listening)

theorem Queued.isAcceptable (hq : h.Queued path socket queue) :
    h.isAcceptable socket = !queue.isEmpty := by
  rw [Host.isAcceptable, hq.listening]

/-- The host with another queue at a listening socket. -/
def setQueue (h : Host) (id : SocketId) (l : ListeningSocket) (queue : List SocketId) : Host :=
  h.setSocket id (.listening { l with queue })

theorem listening?_setQueue (l : ListeningSocket) (j : SocketId) :
    (h.setQueue id l queue).listening? j =
      if id = j then some { l with queue } else h.listening? j := by
  unfold listening? setQueue setSocket
  rw [Dictionary.get?_insert]
  by_cases hj : id = j
  · rw [if_pos hj, if_pos hj]
  · rw [if_neg hj, if_neg hj]

theorem fresh_setQueue {l : ListeningSocket} (hf : h.Fresh) (hl : h.listening? id = some l) :
    (h.setQueue id l queue).Fresh := by
  intro j hj
  have hlt := hf.lt (get?_of_listening? hl)
  unfold setQueue setSocket
  rw [Dictionary.get?_insert, if_neg (by rintro rfl; exact Nat.not_lt.mpr hj hlt)]
  exact hf j hj

/-- Accepting takes the longest waiting client from the queue. -/
theorem accept_ok {stream : SocketId} (ha : h.accept id = (.connection stream, h')) :
    ∃ l rest, h.listening? id = some l ∧ l.queue = stream :: rest ∧ h' = h.setQueue id l rest := by
  unfold accept at ha
  cases hl : h.listening? id with
  | none =>
    rw [hl] at ha
    cases ha
  | some l =>
    rw [hl] at ha
    dsimp only at ha
    cases hq : l.queue with
    | nil =>
      rw [hq] at ha
      cases ha
    | cons c rest =>
      rw [hq] at ha
      cases ha
      exact ⟨l, rest, rfl, hq, rfl⟩

theorem get?_of_socketAt {s : Socket} (h' : h.socketAt path = .ok (id, s)) :
    h.sockets.get? id = some s := by
  unfold socketAt at h'
  cases hfound : h.files.find true path with
  | error e =>
    rw [hfound] at h'
    cases h'
  | ok r =>
    obtain ⟨place, entry⟩ := r
    rw [hfound] at h'
    cases entry with
    | none => cases h'
    | some entry =>
      cases entry with
      | socket id' =>
        simp only [Bind.bind, Except.bind] at h'
        split at h' <;> cases h'
        assumption
      | _ => cases h'

/-- A client that connects waits at the end of a queue. -/
theorem connect_ok {client : SocketId} (hc : h.connect path = .ok (client, h')) :
    client = h.nextSocket ∧ ∃ id l, h.listening? id = some l ∧
      h' = h.openPair.2.2.setQueue id l (l.queue ++ [h.nextSocket + 1]) := by
  unfold connect at hc
  cases hvalid : checkSocketPath path with
  | error e =>
    rw [hvalid] at hc
    cases hc
  | ok u =>
    rw [hvalid] at hc
    cases hnamed : path.isEmpty with
    | true =>
      rw [hnamed] at hc
      cases hc
    | false =>
      cases hat : h.socketAt path with
      | error e =>
        rw [hnamed, hat] at hc
        cases hc
      | ok found =>
        obtain ⟨id, socket⟩ := found
        rw [hnamed, hat] at hc
        cases socket with
        | listening l =>
          simp only [Bind.bind, Except.bind] at hc
          rw [if_neg Bool.false_ne_true] at hc
          split at hc
          · cases hc
          · split at hc
            · cases hc
            · split at hc <;> cases hc
              exact ⟨rfl, id, l, listening?_of_get? (get?_of_socketAt hat), rfl⟩
        | _ => cases hc

theorem openPair_get? (j : SocketId) :
    h.openPair.2.2.sockets.get? j =
      if h.nextSocket + 1 = j then some (.endpoint { peer := h.nextSocket })
      else if h.nextSocket = j then some (.endpoint { peer := h.nextSocket + 1 })
      else h.sockets.get? j := by
  unfold openPair openSocket
  simp only [Dictionary.get?_insert]

theorem listening?_openPair (hf : h.Fresh) (j : SocketId) :
    h.openPair.2.2.listening? j = h.listening? j := by
  unfold listening?
  rw [openPair_get?]
  by_cases hj : h.nextSocket ≤ j
  · have hnone : h.sockets.get? j = none := hf j hj
    rw [hnone]
    by_cases hserver : h.nextSocket + 1 = j
    · rw [if_pos hserver]
    · by_cases hclient : h.nextSocket = j
      · rw [if_neg hserver, if_pos hclient]
      · rw [if_neg hserver, if_neg hclient]
  · rw [if_neg (ne_of_lt (Nat.lt_of_not_le hj)).1, if_neg (ne_of_lt (Nat.lt_of_not_le hj)).2]

theorem fresh_openPair (hf : h.Fresh) : h.openPair.2.2.Fresh := by
  intro j hj
  obtain ⟨hne, hne', hle⟩ := ne_of_add_two_le hj
  rw [openPair_get?, if_neg hne, if_neg hne']
  exact hf j hle

end Host

namespace Listener

theorem clearPath_sockets {h h' : Host} {path : String} (hc : clearPath h path = .ok h') :
    h'.sockets = h.sockets ∧ h'.nextSocket = h.nextSocket := by
  unfold clearPath at hc
  split at hc
  · cases hc
  · split at hc
    · split at hc <;> cases hc
      exact ⟨rfl, rfl⟩
    · cases hc
      exact ⟨rfl, rfl⟩
    · split at hc <;> cases hc
      exact ⟨rfl, rfl⟩
    · cases hc

/-- Clients find a listener that was bound. -/
theorem open_of_bind {h h' : Host} {path : String} {l : Listener} (hpath : path ≠ "")
    (hf : h.Fresh) (hb : bind h path = (.ok l, h')) : h'.Open path l.socket ∧ h'.Fresh := by
  unfold bind at hb
  split at hb
  · cases hb
  · rename_i cleared hc
    obtain ⟨hsockets, hnext⟩ := clearPath_sockets hc
    have hcleared : cleared.Fresh := by
      unfold Host.Fresh
      rw [hsockets, hnext]
      exact hf
    split at hb
    · cases hb
    · rename_i socket bound hbound
      cases hb
      obtain ⟨hopen, hfresh⟩ := Host.open_of_bind hpath hbound
      exact ⟨hopen, hfresh hcleared⟩

end Listener

end FsidRegistry
