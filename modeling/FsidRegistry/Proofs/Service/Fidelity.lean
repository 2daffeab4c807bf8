import FsidRegistry.Control.Run
import FsidRegistry.Proofs.Service.Answers
import FsidRegistry.Proofs.Text.Encoded

/-!
# What a client makes of a response

A client receives as many bytes as it takes responses to have: the sign, a space and a path.  So it
reads each response as it was written, but for two kinds that quote a part of the request and may be
longer.  Of these it gets the beginning, and cannot tell.

* `Client.readPacket_encode`: a response is read from its bytes.
* `Service.Reached.reads_response_unless_long`: what a client reads, in every order of the tasks.
* `Service.call`, `Service.Ready.call`: what a call returns while nobody else asks.
* `Service.long_verb_is_cut_off`: a long verb that is no command.
-/

namespace FsidRegistry

/-! ## Reading -/

namespace Response

theorem read_text (r : Response) : read r.text = .ok r := by
  cases r with
  | ok value =>
    rw [text, read, String.toList_append]
    show Except.ok (Response.ok (String.ofList value.toList)) = _
    rw [String.ofList_toList]
  | err message =>
    rw [text, read, String.toList_append]
    show Except.ok (Response.err (String.ofList message.toList)) = _
    rw [String.ofList_toList]

/-- The bytes of a response tell the response. -/
theorem eq_of_encode {r r' : Response} (h : Text.encode r.text = Text.encode r'.text) : r = r' := by
  have htext : r.text = r'.text := by
    rw [← Text.decodeReplacing_encode r.text, h, Text.decodeReplacing_encode]
  have hread := congrArg read htext
  rw [read_text, read_text] at hread
  exact Except.ok.inj hread

theorem size_text_ne_zero (r : Response) : (Text.encode r.text).size ≠ 0 := by
  have hsize : 2 ≤ r.text.utf8ByteSize := by
    cases r with
    | ok value | err value =>
      rw [text, String.utf8ByteSize_append]
      exact Nat.le_add_right 2 _
  rw [Text.size_encode]
  omega

end Response

namespace Client

theorem readPacket_encode (r : Response) : readPacket (Text.encode r.text) = .ok r := by
  rw [readPacket, if_neg (fun hz => r.size_text_ne_zero (beq_iff_eq.mp hz)),
    Text.decodeReplacing_encode, Response.read_text]

theorem beside_send (h : Host) (socket : SocketId) (call : ClientCall) :
    h.Beside (send h socket call).2 := by
  have hbeside := Host.beside_send (h := h) socket (Text.encode call.line)
  unfold send
  dsimp only
  split
  · exact hbeside
  · exact hbeside

/-- What a client makes of a packet. -/
def answer (packet : ByteArray) (call : ClientCall) : Except Error ClientAnswer :=
  (readPacket (packet.extract 0 bufferSize)).bind call.interpret

/-- A response that is not too long is read as it was written. -/
theorem answer_encode {r : Response} (h : r.text.utf8ByteSize ≤ bufferSize) (call : ClientCall) :
    answer (Text.encode r.text) call = call.interpret r := by
  have hwhole : (Text.encode r.text).extract 0 bufferSize = Text.encode r.text :=
    extract_of_size_le h
  rw [answer, hwhole, readPacket_encode]
  rfl

theorem receive_eq {h : Host} {a peer : SocketId} {packet : ByteArray} {rest : List ByteArray}
    (he : h.endpoint? a = some { peer, inbox := packet :: rest }) (call : ClientCall) :
    receive h a call =
      (some (answer packet call), h.setSocket a (.endpoint { peer, inbox := rest })) := by
  unfold receive Host.receive
  rw [he]
  rfl

end Client

namespace Service

variable {s t : Service} {id : ConnectionId} {c : Connection Handler} {a : SocketId}
  {path : String} {clients : List SocketId} {paths : Ledger} {policy : Retry.Policy}

/-- A verb that is no command is answered on the spot. -/
theorem dispatch_of_unknown {line verb : String} (hsize : line.utf8ByteSize ≤ packetLimit)
    (hverb : Text.uppercase (Ledger.cut line).1 = verb) (h : ∀ c : Command, c.verb ≠ verb) :
    Request.dispatch Ledger.commandTable (Text.encode line) =
      .respond (.unknownCommand verb) := by
  have hshort : ¬ packetLimit < (Text.encode line).size := Nat.not_lt.mpr hsize
  unfold Request.dispatch
  rw [if_neg hshort, Text.decode?_encode]
  dsimp only
  rw [Ledger.split_eq_cut, hverb, Ledger.commandTable_get?_eq_none h]
  rfl

/-! ## Every order of the tasks -/

/-- A response that is about to be written arrives, if it is not too long for a packet. -/
theorem writes_linked {bytes : ByteArray} {requests responses : List ByteArray}
    (hc : s.server.connections.get? id = some c) (hphase : c.phase = .writing bytes)
    (hstream : c.stream = a + 1) (hl : s.host.Linked a requests responses)
    (hsize : bytes.size ≤ Host.packetSizeLimit) :
    ∃ t, s.connectionStep? id c = some t ∧
      t.host.endpoint? a = some { peer := a + 1, inbox := responses ++ [bytes] } := by
  let host := s.host.setSocket a (.endpoint { peer := a + 1, inbox := responses ++ [bytes] })
  let d : Connection Handler :=
    { c with phase := if bytes.size < bytes.size then .flagging else .testing }
  have hwrites : c.step? s.server.handlers (.writes bytes.size) = some d :=
    Connection.Step.step? (.writes bytes bytes.size hphase)
  refine ⟨{ s with host, server := withConnection s.server id d }, ?_,
    (hl.setSocket_client (responses ++ [bytes])).client⟩
  unfold connectionStep?
  dsimp only
  rw [hphase, hstream]
  dsimp only
  rw [hl.send_server hsize]
  exact advance?_connection (s := { s with host }) hc hwrites

/-- **A client reads each response as it was written**, whatever has happened, but for two kinds of
responses that may be too long: the one to a verb that is no command, which quotes the verb, and the
one to a request that lost the race for its path to others until its retries were over, which names
the path. -/
theorem Reached.reads_response_unless_long (h : Reached s) {bytes : ByteArray}
    {requests : List ByteArray} (hc : s.server.connections.get? id = some c)
    (hphase : c.phase = .writing bytes) (hstream : c.stream = a + 1)
    (hl : s.host.Linked a requests []) (line : String) :
    ∃ r : Response, bytes = Text.encode r.text ∧
      ((∃ t, s.connectionStep? id c = some t ∧
          (Client.receive t.host a (.request line)).1 = some (.ok (.response r))) ∨
        (Client.bufferSize < bytes.size ∧
          ((∃ verb, r = .unknownCommand verb) ∨ ∃ path, r = .lostRace path))) := by
  obtain ⟨paths, hsound⟩ := h.sound
  have hwritten := hsound.phases id c hc
  rw [hphase] at hwritten
  obtain ⟨r, rfl, hsized⟩ := hwritten
  refine ⟨r, rfl, ?_⟩
  rcases Nat.lt_or_ge Client.bufferSize (Text.encode r.text).size with hlong | hfits
  · refine .inr ⟨hlong, ?_⟩
    cases hsized with
    | fits _ hfits => exact absurd hfits (Nat.not_le.mpr hlong)
    | unknownCommand verb => exact .inl ⟨verb, rfl⟩
    | lostRace path => exact .inr ⟨path, rfl⟩
  · obtain ⟨t, hstep, hinbox⟩ :=
      writes_linked hc hphase hstream hl (Nat.le_trans hfits (by decide))
    refine .inl ⟨t, hstep, ?_⟩
    rw [List.nil_append] at hinbox
    rw [Client.receive_eq hinbox, Client.answer_encode hfits]
    rfl

theorem Reached.next (h : Reached s) (hn : Next s t) : Reached t := by
  obtain ⟨enabled, policy, draw, listener, host, now, h⟩ := h
  exact ⟨enabled, policy, draw, listener, host, now, h.tail hn⟩

theorem Reached.goes {n : Nat} (h : Reached s) (hg : Goes n s t) : Reached t := by
  induction n generalizing s with
  | zero =>
    obtain rfl : s = t := hg
    exact h
  | succ n ih =>
    obtain ⟨u, hu, hg⟩ := hg
    exact ih (h.next (.acts u (acts_of_step? hu))) hg

theorem Reached.run (h : Reached s) (fuel : Nat) : Reached (s.run fuel) := by
  induction fuel generalizing s with
  | zero => exact h
  | succ fuel ih =>
    unfold Service.run
    split
    · rename_i t ht
      exact ih (h.next (.acts t (acts_of_step? ht)))
    · exact h

theorem reached_fresh (enabled : Bool) (policy : Retry.Policy) (draw : Retry.Backoff → Nat)
    (listener : Listener) (host : Host) (now : Instant) :
    Reached (fresh enabled policy draw listener host now) := by
  have hregistered : Reached (registered enabled policy draw listener host now) :=
    ⟨enabled, policy, draw, listener, host, now, .refl⟩
  exact (hregistered.next .beginServe).run stepLimit

theorem Reached.connect (h : Reached s) (path : String) : Reached (s.connect path).2 := by
  unfold Service.connect
  split
  · rename_i client host _
    exact (h.next (.outside host s.now)).run stepLimit
  · exact h

/-- A client that sends a verb that is no command, before the response is written. -/
theorem Reached.reads_response_unless_long_of_verb :
    ∃ (s : Service) (id : ConnectionId) (c : Connection Handler) (a : SocketId),
      Reached s ∧ s.server.connections.get? id = some c ∧
      c.phase = .writing (Text.encode (Response.unknownCommand "X").text) ∧ c.stream = a + 1 ∧
      s.host.Linked a [] [] ∧
      ∃ t, s.connectionStep? id c = some t ∧
        (Client.receive t.host a (.request "x")).1 =
          some (.ok (.response (.unknownCommand "X"))) := by
  obtain ⟨ho, hf⟩ := Listener.open_of_bind (by decide) (fun _ _ => rfl) bind_emptyHost
  let start := fresh true {} Retry.Backoff.largestPause ⟨0, some "s"⟩ listeningHost 0
  have hready : Ready "s" [] [] {} start := ready_fresh ho hf
  obtain ⟨s, hconnect, -, hs⟩ := hready.connect
  have hreached : Reached s := by
    have hnext := (reached_fresh true {} Retry.Backoff.largestPause ⟨0, some "s"⟩ listeningHost
      0).connect "s"
    rwa [hconnect] at hnext
  obtain ⟨k, ht⟩ := hs.calm.turn List.mem_cons_self
  let a := start.host.nextSocket
  let host := s.host.setSocket (a + 1) (.endpoint { peer := a, inbox := [Text.encode "x"] })
  have hsent : Turn "s" [a] s.server host k a .polling [Text.encode "x"] [] :=
    ht.rehost (Host.agreesBut_setSocket _ (Or.inr rfl)) (ht.linked.setSocket_server _)
  obtain ⟨server, host', hgoes, ht'⟩ := Turn.receives (s := { s with host }) hsent
  have hphase : Connection.phaseAfter Ledger.commandTable (Text.encode "x") =
      .writing (Text.encode (Response.unknownCommand "X").text) := by
    have hdispatch : Request.dispatch Ledger.commandTable (Text.encode "x") =
        .respond (.unknownCommand "X") :=
      dispatch_of_unknown (by decide) (by decide +kernel) (by intro c; cases c <;> decide)
    rw [Connection.phaseAfter, hdispatch]
    rfl
  rw [hphase] at ht'
  have hwriting := (hreached.next (.outside host s.now)).goes hgoes
  refine ⟨_, k, _, a, hwriting, ht'.mine, rfl, rfl, ht'.linked, ?_⟩
  obtain ⟨r, hr, hread⟩ := hwriting.reads_response_unless_long ht'.mine rfl rfl ht'.linked "x"
  obtain rfl := Response.eq_of_encode hr
  obtain hread | ⟨hlong, -⟩ := hread
  · exact hread
  · exact absurd hlong (by decide +kernel)

/-! ## Calls -/

/-- What has come to a client as the answer to its call. -/
def heard? (client : SocketId) (call : ClientCall) (s : Service) :
    Option (Except Error ClientAnswer × Service) :=
  match Client.receive s.host client call with
  | (some r, host) => some (r, { s with host })
  | (none, _) => none

/-- Makes a call over a client's connection and waits for its answer. -/
def call (s : Service) (client : SocketId) (call : ClientCall) :
    Except Error ClientAnswer × Service :=
  match Client.send s.host client call with
  | (.error e, host) => (.error e, { s with host })
  | (.ok (), host) =>
    match { s with host }.await (heard? client call) with
    | (some r, s) => (r, s)
    | (none, s) => (.error .serverClosed, s)

/-- The control program takes the response out of the answer to its call. -/
theorem take_response {r : Response} : ∀ x : Option (Except Error ClientAnswer) × Service,
    x = (some (.ok (.response r)), t) →
      (match x with
        | (some (.ok (.response r)), s) => (.ok r, s)
        | (some (.error e), s) => (.error e, s)
        | (_, s) => (.error .serverClosed, s)) = ((.ok r, t) : Except Error Response × Service) := by
  rintro _ rfl
  rfl

/-- The exchange of a request line for a response is the call that does no more. -/
theorem exchange_eq {line : String} {r : Response}
    (h : s.call a (.request line) = (.ok (.response r), t)) :
    Control.exchange s a line = (.ok r, t) := by
  unfold call at h
  unfold Control.exchange
  dsimp only
  rcases hsent : Client.send s.host a (.request line) with ⟨e | ⟨⟩, host⟩
  · rw [hsent] at h
    cases h
  · rw [hsent] at h
    dsimp only at h ⊢
    rcases hawait : { s with host }.await (heard? a (.request line)) with ⟨heard | heard, u⟩
    · rw [hawait] at h
      cases h
    · rw [hawait] at h
      cases h
      exact take_response _ hawait

/-- A client does something on its connection, the tasks go on until they wait, and the client does
something again. -/
def Between (s t : Service) : Prop :=
  ∃ n host u host', s.host.Beside host ∧ Goes n { s with host } u ∧ u.host.Beside host' ∧
    t = { u with host := host' }

/-- **A call returns what the client makes of the response that the list of paths says.** -/
theorem Ready.call (hr : Ready path clients paths policy s) (ha : a ∈ clients) (call : ClientCall)
    (hline : call.line ≠ "") (hsize : call.line.utf8ByteSize ≤ Host.packetSizeLimit)
    (hnow : s.now + policy.deadline.nanos < clockEnd) :
    ∃ t, s.call a call =
        (Client.answer (Text.encode (paths.respond (Text.encode call.line)).1) call, t) ∧
      Ready path clients (paths.respond (Text.encode call.line)).2 policy t ∧ t.now = s.now ∧
      Between s t := by
  have hp : (Text.encode call.line).size ≠ 0 :=
    fun hz => hline (String.utf8ByteSize_eq_zero_iff.mp hz)
  obtain ⟨n, host, t, hn, hsent, hgoes, hwaits, hclock, hinbox, ht⟩ := hr.answers ha hp hsize hnow
  let host' := t.host.setSocket a (.endpoint { peer := a + 1, inbox := [] })
  have hsend : Client.send s.host a call = (.ok (), host) := by
    unfold Client.send
    dsimp only
    rw [hsent]
    dsimp only
    rw [if_neg (Nat.lt_irrefl _)]
  have hheard : heard? a call t = some (Client.answer
      (Text.encode (paths.respond (Text.encode call.line)).1) call, { t with host := host' }) := by
    rw [heard?, Client.receive_eq hinbox]
  have hbefore : s.host.Beside host := by
    have hb := Host.beside_send (h := s.host) a (Text.encode call.line)
    rwa [hsent] at hb
  refine ⟨{ t with host := host' }, ?_, ht, hclock, n, host, t, host', hbefore, hgoes,
    Host.beside_setSocket hinbox, rfl⟩
  unfold Service.call
  rw [hsend]
  dsimp only
  rw [await_of_goes hgoes hwaits hn hheard]

/-! ## Long verbs -/

/-- One character, time and again. -/
def repeated (n : Nat) (c : Char) : String := String.ofList (List.replicate n c)

theorem flatMap_replicate {f : Char → List Char} {c d : Char} (h : f c = [d]) (n : Nat) :
    (List.replicate n c).flatMap f = List.replicate n d := by
  induction n with
  | zero => rfl
  | succ n ih => rw [List.replicate_succ, List.flatMap_cons, h, ih, List.replicate_succ]; rfl

theorem utf8ByteSize_repeated {c : Char} (h : c.utf8Size = 1) (n : Nat) :
    (repeated n c).utf8ByteSize = n := by
  unfold repeated
  induction n with
  | zero => rfl
  | succ n ih =>
    rw [List.replicate_succ, Text.utf8ByteSize_cons, ih, h]
    omega

theorem uppercase_cut_repeated (n : Nat) :
    Text.uppercase (Ledger.cut (repeated n 'x')).1 = repeated n 'X' := by
  have hspace : (repeated n 'x').toList.idxOf? ' ' = none := by
    rw [List.idxOf?_eq_none_iff, repeated, String.toList_ofList]
    intro hmem
    exact absurd (List.eq_of_mem_replicate hmem) (by decide)
  rw [Ledger.cut, hspace]
  have hupper : Text.uppercaseChar 'x' = ['X'] := by decide
  show Text.uppercase (repeated n 'x') = _
  rw [Text.uppercase, repeated, String.toList_ofList, flatMap_replicate hupper]
  rfl

/-- The response quotes the verb. -/
theorem text_unknownCommand_repeated (n k : Nat) :
    (Response.unknownCommand (repeated (n + k) 'X')).text =
      (Response.err ("unknown command \"" ++ repeated n 'X')).text ++ (repeated k 'X' ++ "\"") := by
  have hplain : Text.escapeChar 'X' = ['X'] := by decide
  have hquoted : Text.quoted (repeated (n + k) 'X') =
      "\"" ++ (repeated n 'X' ++ (repeated k 'X' ++ "\"")) := by
    have hquote : ("\"" : String) = String.ofList ['"'] := rfl
    rw [Text.quoted, repeated, String.toList_ofList, flatMap_replicate hplain,
      ← List.replicate_append_replicate, List.cons_append, List.append_assoc, hquote]
    simp only [repeated, ← String.ofList_append]
    rfl
  have hwords : ("unknown command \"" : String) = "unknown command " ++ "\"" := by decide
  rw [Response.unknownCommand, Response.text, Response.text, hquoted, hwords]
  simp only [String.append_assoc]

/-- A client gets the beginning of a response that quotes a long verb. -/
theorem answer_unknownCommand_repeated (k : Nat) (call : ClientCall) :
    Client.answer (Text.encode (Response.unknownCommand (repeated (8175 + k) 'X')).text) call =
      call.interpret (.err ("unknown command \"" ++ repeated 8175 'X')) := by
  let r := Response.err ("unknown command \"" ++ repeated 8175 'X')
  have hsize : r.text.utf8ByteSize = Client.bufferSize := by
    have hsign : ("- " : String).utf8ByteSize = 2 := by decide
    have hwords : ("unknown command \"" : String).utf8ByteSize = 17 := by decide
    rw [Response.text, String.utf8ByteSize_append, String.utf8ByteSize_append, hsign, hwords,
      utf8ByteSize_repeated (by decide)]
    rfl
  rw [Client.answer, text_unknownCommand_repeated, ← hsize, Text.extract_encode_append,
    Client.readPacket_encode]
  rfl

/-- A request line of 8192 bytes, all of them its verb, is answered by a response of 8212 bytes, of
which the client gets 8194: not what the service has answered. -/
theorem long_verb_is_cut_off :
    ∃ (bound : Host) (s : Service) (a : SocketId),
      Listener.bind { files := ⟨∅⟩ } "s" = (.ok ⟨0, some "s"⟩, bound) ∧
      (fresh true {} Retry.Backoff.largestPause ⟨0, some "s"⟩ bound 0).connect "s" = (.ok a, s) ∧
      Request.dispatch s.server.handlers (Text.encode (repeated 8192 'x')) =
        .respond (.unknownCommand (repeated 8192 'X')) ∧
      (Control.exchange s a (repeated 8192 'x')).1 =
        .ok (.err ("unknown command \"" ++ repeated 8175 'X')) ∧
      Response.err ("unknown command \"" ++ repeated 8175 'X') ≠
        .unknownCommand (repeated 8192 'X') := by
  obtain ⟨ho, hf⟩ := Listener.open_of_bind (by decide) (fun _ _ => rfl) bind_emptyHost
  obtain ⟨hready, hnow⟩ : Ready "s" [] [] {}
        (fresh true {} Retry.Backoff.largestPause ⟨0, some "s"⟩ listeningHost 0) ∧
      (fresh true {} Retry.Backoff.largestPause ⟨0, some "s"⟩ listeningHost 0).now = 0 :=
    fresh_spec ho hf
  obtain ⟨s, hconnect, hclock, hs⟩ := hready.connect
  have hsize : (repeated 8192 'x').utf8ByteSize = 8192 := utf8ByteSize_repeated (by decide) 8192
  have hverb : ∀ c : Command, c.verb ≠ repeated 8192 'X' := by
    intro c hc
    have hbytes := congrArg String.utf8ByteSize hc
    rw [utf8ByteSize_repeated (by decide)] at hbytes
    cases c <;> exact absurd hbytes (by decide)
  have hdispatch : Request.dispatch Ledger.commandTable (Text.encode (repeated 8192 'x')) =
      .respond (.unknownCommand (repeated 8192 'X')) :=
    dispatch_of_unknown (Nat.le_of_eq hsize) (uppercase_cut_repeated 8192) hverb
  have hresponse : (Ledger.respond [] (Text.encode (repeated 8192 'x'))).1 =
      (Response.unknownCommand (repeated 8192 'X')).text := by
    obtain ⟨response, hd, hr⟩ | ⟨command, argument, hd, -⟩ :=
      Ledger.dispatch_commandTable [] (Text.encode (repeated 8192 'x'))
    · rw [hdispatch] at hd
      cases hd
      rw [hr]
    · rw [hdispatch] at hd
      cases hd
  have hline : repeated 8192 'x' ≠ "" := by
    intro hempty
    rw [hempty] at hsize
    exact absurd hsize (by decide)
  obtain ⟨t, hcall, -, -, -⟩ := hs.call List.mem_cons_self (.request (repeated 8192 'x')) hline
    (Nat.le_trans (Nat.le_of_eq hsize) (by decide)) (by rw [hclock, hnow]; decide +kernel)
  have hanswer := answer_unknownCommand_repeated 17 (.request (repeated 8192 'x'))
  dsimp only [ClientCall.line] at hcall
  rw [hresponse, hanswer] at hcall
  refine ⟨listeningHost, s, _, bind_emptyHost, hconnect, ?_, ?_, ?_⟩
  · rw [hs.calm.handlers]
    exact hdispatch
  · rw [exchange_eq hcall]
  · intro heq
    have hbytes : (Response.err ("unknown command \"" ++ repeated 8175 'X')).text.utf8ByteSize =
        (Response.unknownCommand (repeated (8175 + 17) 'X')).text.utf8ByteSize := by
      rw [heq]
    rw [text_unknownCommand_repeated, String.utf8ByteSize_append, String.utf8ByteSize_append,
      utf8ByteSize_repeated (by decide)] at hbytes
    omega

end Service

end FsidRegistry
