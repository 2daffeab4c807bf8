import FsidRegistry.Proofs.Service.Progress

/-!
# Typed calls come back

A client asks for the fsid of a path or for the path of an fsid, and reads an fsid, a path or nothing
from the response.  The line is cut at its first space, so a path may hold any text; an empty
response says that there is nothing, and no path and no number is empty.

* `ClientCall.Asks`, `ClientCall.Asks.dispatch`: the line of a call is a command with an argument.
* `Service.Ready.resolves`: a call at rest returns what its command comes to.
* `World.Hears`, `World.Tells`: what a connection takes the line of a call for, and what a client
  reads whose request was at work beside those of others; that it ends is `World.Finishes`.
* `World.Reached.typed_round_trip`: an fsid that was given stays, and nothing else is ever found.
* `World.lost_race_ends_in_error`: a request beside others may lose a race for a path that is new.
-/

namespace FsidRegistry

/-! ## Lines -/

/-- A line is split behind its verb, if that has no space. -/
theorem Request.split_line {verb : String} (h : ' ' ∉ verb.toList) (argument : String) :
    split (verb ++ " " ++ argument) = (verb, argument) := by
  have hline : (verb ++ " " ++ argument).toList = verb.toList ++ ' ' :: argument.toList := by
    rw [String.toList_append, String.toList_append, List.append_assoc]
    rfl
  have hverb : ∀ c ∈ verb.toList, (c != ' ') = true := by
    intro c hc
    rw [bne_iff_ne]
    rintro rfl
    exact h hc
  rw [split, hline, List.takeWhile_append_of_pos hverb, List.dropWhile_append_of_pos hverb]
  show (String.ofList (verb.toList ++ []), String.ofList argument.toList) = _
  rw [List.append_nil, String.ofList_toList, String.ofList_toList]

namespace Command

variable {path : String}

theorem start_getFsid (h : path ≠ "") : getFsid.start path = .ok (.fsidOf path) := by
  rw [start, if_neg fun hempty => h (String.isEmpty_iff.mp hempty)]

theorem start_getOrCreateFsid (h : path ≠ "") :
    getOrCreateFsid.start path = .ok (.fsidOrAllocate path) := by
  rw [start, if_neg fun hempty => h (String.isEmpty_iff.mp hempty)]

theorem start_getPath {fsid : Fsid} (h : 1 ≤ fsid.val) :
    getPath.start fsid.text = .ok (.pathOf fsid) := by
  rw [start, Fsid.readIssued?_text h]

end Command

namespace ClientCall

variable {call : ClientCall} {command : Command} {argument path : String} {request : CacheRequest}

/-- The request line of a call fits, and is a command with an argument that makes a call of the
cache. -/
structure Asks (call : ClientCall) (command : Command) (argument : String)
    (request : CacheRequest) : Prop where
  line : ∃ verb, ' ' ∉ verb.toList ∧ Text.uppercase verb = command.verb ∧
    call.line = verb ++ " " ++ argument
  fits : call.line.utf8ByteSize ≤ packetLimit
  starts : command.start argument = .ok request

/-- The words before an argument are a verb and a space. -/
theorem asks_of_words (words verb : String) (hline : call.line = words ++ argument)
    (hwords : words = verb ++ " ") (hspace : ' ' ∉ verb.toList)
    (hverb : Text.uppercase verb = command.verb)
    (hfits : words.utf8ByteSize + argument.utf8ByteSize ≤ packetLimit)
    (hstarts : command.start argument = .ok request) : call.Asks command argument request := by
  refine ⟨⟨verb, hspace, hverb, ?_⟩, ?_, hstarts⟩
  · rw [hline, hwords]
  · rw [hline, String.utf8ByteSize_append]
    exact hfits

theorem asks_getFsid (hp : path ≠ "") (h : 12 + path.utf8ByteSize ≤ packetLimit) :
    Asks (.getFsid path) .getFsid path (.fsidOf path) :=
  asks_of_words "get_fsidnum " "get_fsidnum" rfl (by decide) (by decide) (by decide +kernel) h
    (Command.start_getFsid hp)

theorem asks_getOrCreateFsid (hp : path ≠ "") (h : 22 + path.utf8ByteSize ≤ packetLimit) :
    Asks (.getOrCreateFsid path) .getOrCreateFsid path (.fsidOrAllocate path) :=
  asks_of_words "get_or_create_fsidnum " "get_or_create_fsidnum" rfl (by decide) (by decide)
    (by decide +kernel) h (Command.start_getOrCreateFsid hp)

theorem asks_getPath {fsid : Fsid} (h : 1 ≤ fsid.val) :
    Asks (.getPath fsid) .getPath fsid.text (.pathOf fsid) := by
  have hle := fsid.upper
  have hlt : fsid.val.toNat < 10000000000 := by omega
  have htext : fsid.text = toString fsid.val.toNat := Ledger.text_of_val (by omega)
  have hsize := Text.utf8ByteSize_toString_le hlt
  have hverb : ("get_path " : String).utf8ByteSize = 9 := by decide
  refine asks_of_words "get_path " "get_path" rfl (by decide) (by decide) (by decide +kernel) ?_
    (Command.start_getPath h)
  rw [hverb, htext, packetLimit]
  omega

/-- The line of a call reaches its command, with the argument as it is. -/
theorem Asks.dispatch (h : call.Asks command argument request) :
    Request.dispatch Ledger.commandTable (Text.encode call.line) =
      .call (.command command) argument := by
  obtain ⟨⟨verb, hspace, hverb, hline⟩, hfits, -⟩ := h
  have hshort : ¬ packetLimit < (Text.encode call.line).size := Nat.not_lt.mpr hfits
  unfold Request.dispatch
  rw [if_neg hshort, Text.decode?_encode, hline]
  dsimp only
  rw [Request.split_line hspace, hverb, Ledger.commandTable_get?_verb]

theorem Asks.respond (h : call.Asks command argument request) (paths : Ledger) :
    paths.respond (Text.encode call.line) = paths.perform command.verb argument := by
  rcases Ledger.dispatch_commandTable paths (Text.encode call.line) with
    ⟨response, hdispatch, -⟩ | ⟨command', argument', hdispatch, hrespond⟩
  · rw [h.dispatch] at hdispatch
    cases hdispatch
  · rw [h.dispatch] at hdispatch
    cases hdispatch
    exact hrespond

theorem Asks.line_ne_empty (h : call.Asks command argument request) : call.line ≠ "" := by
  obtain ⟨⟨verb, -, -, hline⟩, -⟩ := h
  intro hempty
  have hsize := congrArg String.utf8ByteSize (hline.symm.trans hempty)
  have hspace : (" " : String).utf8ByteSize = 1 := by decide
  have hnone : ("" : String).utf8ByteSize = 0 := by decide
  rw [String.utf8ByteSize_append, String.utf8ByteSize_append, hspace, hnone] at hsize
  omega

/-! ## Answers -/

theorem readFsid_text (fsid : Fsid) : readFsid fsid.text = .ok fsid := by
  rw [readFsid, Fsid.read?_text]

theorem interpret_getFsid (path : String) (fsid : Fsid) :
    (getFsid path).interpret (.ok fsid.text) = .ok (.fsid (some fsid)) := by
  have hempty : fsid.text.isEmpty = false :=
    Bool.eq_false_iff.mpr fun h => fsid.text_ne_empty (String.isEmpty_iff.mp h)
  unfold interpret
  dsimp only [Response.toResult]
  show (if fsid.text.isEmpty = true then _ else _) = _
  rw [hempty, if_neg Bool.false_ne_true]
  show (readFsid fsid.text).bind _ = _
  rw [readFsid_text]
  rfl

theorem interpret_getOrCreateFsid (path : String) (fsid : Fsid) :
    (getOrCreateFsid path).interpret (.ok fsid.text) = .ok (.fsid (some fsid)) := by
  show (readFsid fsid.text).bind _ = _
  rw [readFsid_text]
  rfl

theorem interpret_getPath (fsid : Fsid) {path : String} (h : path ≠ "") :
    (getPath fsid).interpret (.ok path) = .ok (.path (some path)) := by
  have hempty : path.isEmpty = false := Bool.eq_false_iff.mpr fun he => h (String.isEmpty_iff.mp he)
  show Except.ok (ClientAnswer.path (if path.isEmpty = true then none else some path)) = _
  rw [hempty, if_neg Bool.false_ne_true]

end ClientCall

namespace Service

variable {s : Service} {path p : String} {clients : List SocketId} {paths after : Ledger}
  {policy : Retry.Policy} {a : SocketId}

/-! ## Calls -/

section

variable {call : ClientCall} {command : Command} {argument value : String} {request : CacheRequest}
  (hr : Ready path clients paths policy s) (ha : a ∈ clients)
  (hnow : s.now + policy.deadline.nanos < clockEnd)

include hr ha hnow

/-- **A call returns what its command comes to**, as the list of paths says. -/
theorem Ready.resolves (hask : call.Asks command argument request)
    {result : Except Error (Option Pair)} (hresult : Resolved paths request result after)
    (hv : command.finish result = .ok value) (hfits : value.utf8ByteSize ≤ packetLimit) :
    ∃ t, s.call a call = (call.interpret (.ok value), t) ∧ Ready path clients after policy t ∧
      t.now = s.now ∧ Between s t := by
  have hrespond : paths.respond (Text.encode call.line) = ((Response.ok value).text, after) := by
    rw [hask.respond, Ledger.perform_of_resolved hask.starts hresult hr.backend.nodup
      hr.backend.length_le, hv]
    rfl
  have hline : call.line.utf8ByteSize ≤ Host.packetSizeLimit := Nat.le_trans hask.fits (by decide)
  obtain ⟨t, hcall, ht⟩ := hr.call ha call hask.line_ne_empty hline hnow
  rw [hrespond] at hcall ht
  rw [Client.answer_encode (Response.utf8ByteSize_ok_le hfits)] at hcall
  exact ⟨t, hcall, ht⟩

/-- A pair on the list is found. -/
theorem Ready.finds (hask : call.Asks command argument request) {pair : Pair}
    (hn : Numbered paths pair) (hfor : request.IsFor pair)
    (hv : command.finish (.ok (some pair)) = .ok value) :
    (s.call a call).1 = call.interpret (.ok value) := by
  obtain ⟨value', hv', hfits⟩ :=
    Command.finish_of_found command hn hr.backend.length_le (hr.short pair.2 hn.mem)
  obtain rfl : value' = value := Except.ok.inj (hv'.symm.trans hv)
  obtain ⟨t, hcall, -⟩ := hr.resolves ha hnow hask (.found pair hn hfor) hv hfits
  rw [hcall]

/-- What is not on the list is not found, and nothing is created for it. -/
theorem Ready.misses (hask : call.Asks command argument request) (hm : request.mayMiss = true)
    (hnone : ∀ pair, request.IsFor pair → ¬ Numbered paths pair) :
    (s.call a call).1 = call.interpret (.ok "") := by
  obtain ⟨t, hcall, -⟩ := hr.resolves ha hnow hask (.missed hm hnone) rfl (Nat.zero_le _)
  rw [hcall]

/-- A call that creates the fsid of a path returns one, unless all have been issued. -/
theorem Ready.creates (hp : p ≠ "") (hsize : 22 + p.utf8ByteSize ≤ packetLimit)
    (hfew : paths.length < issuable) :
    ∃ fsid after t, s.call a (.getOrCreateFsid p) = (.ok (.fsid (some fsid)), t) ∧
      Numbered after (fsid, p) ∧ Ready path clients after policy t ∧ t.now = s.now ∧
      Between s t := by
  obtain ⟨fsid, after, hresult, hn, hl⟩ : ∃ fsid after,
      Resolved paths (.fsidOrAllocate p) (.ok (some (fsid, p))) after ∧
        Numbered after (fsid, p) ∧ after.length ≤ issuable := by
    by_cases hmem : p ∈ paths
    · obtain ⟨m, -, hm⟩ := hr.backend.store
      obtain ⟨fsid, -, hn⟩ := hm.fsidOf_of_mem hmem
      exact ⟨fsid, paths, .found (fsid, p) hn rfl, hn, hr.backend.length_le⟩
    · have hupper : (paths.length : Int) + 1 ≤ 2147483647 := by
        unfold issuable at hfew
        omega
      let fsid : Fsid := ⟨paths.length + 1, by omega, hupper⟩
      refine ⟨fsid, paths ++ [p], .allocated p fsid rfl hmem hfew rfl,
        numbered_concat_iff.mpr (.inr ⟨rfl, rfl⟩), ?_⟩
      rw [List.length_append]
      exact hfew
  obtain ⟨t, hcall, ht⟩ := hr.resolves ha hnow (ClientCall.asks_getOrCreateFsid hp hsize) hresult
    rfl (Command.utf8ByteSize_text_le hn hl)
  rw [ClientCall.interpret_getOrCreateFsid] at hcall
  exact ⟨fsid, after, t, hcall, hn, ht⟩

end

end Service

/-! ## Histories -/

namespace World

variable {w w' u : World} {path p : String} {paths : Ledger} {a b : SocketId} {fsid : Fsid}

/-- A call that creates the fsid of a path, and what it leaves behind. -/
theorem Kept.creates (h : Kept path w paths) (hc : w.service.Callable a) (hp : p ≠ "")
    (hsize : 22 + p.utf8ByteSize ≤ packetLimit)
    (hfew : ∀ m, w.service.backend.store.store = .memory m → m.size < issuable) :
    ∃ n w' after, w.service.call a (.getOrCreateFsid p) = (.ok (.fsid (some n)), w'.service) ∧
      Runs w w' ∧ w'.service.Callable a ∧ Kept path w' after ∧ Numbered after (n, p) := by
  have hready := h.ready hc
  have hshort : paths.length < issuable := by
    obtain ⟨m, hstore, hm⟩ := hready.backend.store
    rw [← hm.size]
    exact hfew m hstore
  obtain ⟨n, list, t, hcall, hn, ht, hnow, hbetween⟩ :=
    hready.creates List.mem_cons_self hc.inTime hp hsize hshort
  obtain ⟨w', hruns, rfl⟩ := runs_between hbetween
  obtain ⟨after, -, hafter⟩ := h.runs hruns
  obtain rfl := ht.backend.unique hafter.sound.backend
  have hcallable : w'.service.Callable a := by
    refine ht.callable List.mem_cons_self ?_
    rw [hnow]
    exact hc.inTime
  exact ⟨n, w', list, hcall, hruns, hcallable, hafter, hn⟩

/-- A pair on the list is found by all three calls. -/
theorem Kept.recalls (h : Kept path w paths) (hc : w.service.Callable a) (hp : p ≠ "")
    (hsize : 22 + p.utf8ByteSize ≤ packetLimit) (hn : Numbered paths (fsid, p)) :
    (w.service.call a (.getFsid p)).1 = .ok (.fsid (some fsid)) ∧
      (w.service.call a (.getOrCreateFsid p)).1 = .ok (.fsid (some fsid)) ∧
      (w.service.call a (.getPath fsid)).1 = .ok (.path (some p)) := by
  have hready := h.ready hc
  refine ⟨?_, ?_, ?_⟩
  · rw [hready.finds List.mem_cons_self hc.inTime (ClientCall.asks_getFsid hp (by omega)) hn rfl rfl,
      ClientCall.interpret_getFsid]
  · rw [hready.finds List.mem_cons_self hc.inTime (ClientCall.asks_getOrCreateFsid hp hsize) hn rfl
      rfl, ClientCall.interpret_getOrCreateFsid]
  · rw [hready.finds List.mem_cons_self hc.inTime (ClientCall.asks_getPath hn.one_le) hn rfl rfl,
      ClientCall.interpret_getPath fsid hp]

theorem Kept.getFsid_none_iff (h : Kept path w paths) (hc : w.service.Callable a) (hp : p ≠ "")
    (hsize : 12 + p.utf8ByteSize ≤ packetLimit) :
    (w.service.call a (.getFsid p)).1 = .ok (.fsid none) ↔ ∀ n, ¬ w.given (n, p) := by
  have hready := h.ready hc
  have hask := ClientCall.asks_getFsid hp hsize
  constructor
  · intro hnone n hgiven
    have hfound := hready.finds List.mem_cons_self hc.inTime hask (h.given _ hgiven) rfl rfl
    rw [hnone, ClientCall.interpret_getFsid] at hfound
    cases hfound
  · intro hnew
    refine hready.misses List.mem_cons_self hc.inTime hask rfl ?_
    rintro ⟨n, q⟩ rfl hn
    exact hnew n ((h.numbered_iff hc).mp hn)

theorem Kept.getPath_none_iff (h : Kept path w paths) (hc : w.service.Callable a)
    (hv : 1 ≤ fsid.val) :
    (w.service.call a (.getPath fsid)).1 = .ok (.path none) ↔ ∀ q, ¬ w.given (fsid, q) := by
  have hready := h.ready hc
  have hask := ClientCall.asks_getPath hv
  constructor
  · intro hnone q hgiven
    have hn := h.given _ hgiven
    have hq : q ≠ "" := (h.sound.sendable q hn.mem).1
    have hfound := hready.finds List.mem_cons_self hc.inTime hask hn rfl rfl
    rw [hnone, ClientCall.interpret_getPath fsid hq] at hfound
    cases hfound
  · intro hnew
    refine hready.misses List.mem_cons_self hc.inTime hask rfl ?_
    rintro ⟨n, q⟩ rfl hn
    exact hnew q ((h.numbered_iff hc).mp hn)

/-! ## Calls beside other calls -/

/-- The lines of typed calls reach their commands, whoever sends them and whenever. -/
structure Hears (w : World) : Prop where
  getOrCreateFsid : ∀ p, p ≠ "" → 22 + p.utf8ByteSize ≤ 8192 →
    Request.dispatch w.service.server.handlers
      (Text.encode (ClientCall.getOrCreateFsid p).line) = .call (.command .getOrCreateFsid) p
  getFsid : ∀ p, p ≠ "" → 12 + p.utf8ByteSize ≤ 8192 →
    Request.dispatch w.service.server.handlers (Text.encode (ClientCall.getFsid p).line) =
      .call (.command .getFsid) p
  getPath : ∀ m : Fsid, 1 ≤ m.val →
    Request.dispatch w.service.server.handlers (Text.encode (ClientCall.getPath m).line) =
      .call (.command .getPath) m.text

/-- What a client reads from the response `r` to a request of connection `id`, if the request has begun
after `w`: the response is written in the step from `u` to `v`.  Whoever else asks meanwhile, what was
given in `w` is found.  A path that is new since then may be lost to somebody else, and what is not
found is new since then. -/
structure Tells (w u v : World) (id : ConnectionId) (r : Response) : Prop where
  getOrCreateFsid : ∀ p, p ≠ "" → u.service.Responds v.service id .getOrCreateFsid p r →
    (∀ m, u.service.backend.store.store = .memory m → m.size < 2147483646) →
    ((∃ n, Client.answer (Text.encode r.text) (.getOrCreateFsid p) = .ok (.fsid (some n)) ∧
        1 ≤ n.val ∧ v.given (n, p)) ∨
      (r = .lostRace p ∧ ∃ n, u.Created (n, p))) ∧
    ∀ n, w.given (n, p) →
      Client.answer (Text.encode r.text) (.getOrCreateFsid p) = .ok (.fsid (some n))
  getFsid : ∀ p, p ≠ "" → u.service.Responds v.service id .getFsid p r →
    (Client.answer (Text.encode r.text) (.getFsid p) = .ok (.fsid none) ∨
      ∃ n, Client.answer (Text.encode r.text) (.getFsid p) = .ok (.fsid (some n)) ∧
        u.Created (n, p)) ∧
    ∀ n, w.given (n, p) → Client.answer (Text.encode r.text) (.getFsid p) = .ok (.fsid (some n))
  getPath : ∀ m : Fsid, 1 ≤ m.val → u.service.Responds v.service id .getPath m.text r →
    (Client.answer (Text.encode r.text) (.getPath m) = .ok (.path none) ∨
      ∃ p, Client.answer (Text.encode r.text) (.getPath m) = .ok (.path (some p)) ∧
        u.Created (m, p)) ∧
    ∀ p, w.given (m, p) → Client.answer (Text.encode r.text) (.getPath m) = .ok (.path (some p))

theorem Kept.hears (h : Kept path w paths) : Hears w where
  getOrCreateFsid p hp hsize := by
    rw [h.sound.handlers]
    exact (ClientCall.asks_getOrCreateFsid hp hsize).dispatch
  getFsid p hp hsize := by
    rw [h.sound.handlers]
    exact (ClientCall.asks_getFsid hp hsize).dispatch
  getPath m hm := by
    rw [h.sound.handlers]
    exact (ClientCall.asks_getPath hm).dispatch

/-- A client reads what the response says that was found for it. -/
theorem Kept.reads (h : Kept path w paths) (command : Command) {pair : Pair} {value : String}
    (hn : Numbered paths pair) (hv : command.finish (.ok (some pair)) = .ok value)
    (call : ClientCall) :
    Client.answer (Text.encode (Response.ok value).text) call = call.interpret (.ok value) := by
  obtain ⟨value', hv', hfits⟩ := command.finish_of_found hn h.sound.backend.length_le
    (h.sound.sendable _ hn.mem).2
  obtain rfl : value' = value := Except.ok.inj (hv'.symm.trans hv)
  exact Client.answer_encode (Response.utf8ByteSize_ok_le hfits) call

theorem Kept.reads_fsid (h : Kept path w paths) (hn : Numbered paths (fsid, p)) :
    Client.answer (Text.encode (Response.ok fsid.text).text) (.getFsid p) =
        .ok (.fsid (some fsid)) ∧
      Client.answer (Text.encode (Response.ok fsid.text).text) (.getOrCreateFsid p) =
        .ok (.fsid (some fsid)) := by
  rw [h.reads .getFsid hn rfl, h.reads .getFsid hn rfl,
    ClientCall.interpret_getFsid, ClientCall.interpret_getOrCreateFsid]
  exact ⟨rfl, rfl⟩

theorem Kept.reads_path (h : Kept path w paths) (hn : Numbered paths (fsid, p)) :
    Client.answer (Text.encode (Response.ok p).text) (.getPath fsid) = .ok (.path (some p)) := by
  rw [h.reads .getPath hn rfl,
    ClientCall.interpret_getPath fsid (h.sound.sendable p hn.mem).1]

/-- An empty response is read as no fsid. -/
theorem reads_no_fsid (p : String) :
    Client.answer (Text.encode (Response.ok "").text) (.getFsid p) = .ok (.fsid none) := by
  rw [Client.answer_encode (by decide)]
  rfl

/-- An empty response is read as no path. -/
theorem reads_no_path (n : Fsid) :
    Client.answer (Text.encode (Response.ok "").text) (.getPath n) = .ok (.path none) := by
  rw [Client.answer_encode (by decide)]
  rfl

/-- A response is written in a step of a task, and a pair that it creates is given. -/
theorem Next.acts_of_responds {v : World} {id : ConnectionId} {command : Command}
    {argument : String} {r : Response} (hn : Next u v)
    (hr : u.service.Responds v.service id command argument r) : u.service.Acts v.service ∧
      ∀ pair, u.service.Gives v.service pair → v.given pair := by
  cases hn with
  | acts t ha => exact ⟨ha, fun pair hgives => .inr hgives⟩
  | connects | passes =>
    obtain ⟨c, d, hc, hphase, hd, hwritten⟩ := hr
    obtain rfl := Option.some.inj (hc.symm.trans hd)
    rw [hphase] at hwritten
    cases hwritten

/-- **What a client reads is in line with what was given**, whoever else asks meanwhile. -/
theorem Attends.tells {old : Ledger} {v : World} {id : ConnectionId} {r : Response}
    (h : Attends path id old u paths) (hn : Next u v)
    (hold : ∀ pair, w.given pair → Numbered old pair) : Tells w u v id r where
  getOrCreateFsid p hp hr hfew := by
    obtain ⟨ha, hgives⟩ := hn.acts_of_responds hr
    have hanswers := h.answers ha hr (Command.start_getOrCreateFsid hp)
    refine ⟨?_, fun n hgiven => ?_⟩
    · cases hanswers with
      | found pair value hc hfor hv =>
        obtain ⟨n, q⟩ := pair
        cases hfor
        cases hv
        have hnum := h.kept.created_iff.mp hc
        exact .inl ⟨n, (h.kept.reads_fsid hnum).2, hnum.one_le, hgives _ ⟨id, hr⟩⟩
      | missed hm => cases hm
      | lostRace q n hq _ hc =>
        cases hq
        exact .inr ⟨rfl, n, hc⟩
      | exhausted q hq _ hfull =>
        obtain ⟨m, hm, hsize⟩ := hfull
        have hfew := hfew m hm
        unfold issuable at hsize
        omega
    · have hnum := hold _ hgiven
      rw [h.recalls hanswers hnum rfl rfl]
      exact (h.kept.reads_fsid (h.older _ hnum)).2
  getFsid p hp hr := by
    have hanswers := h.answers (hn.acts_of_responds hr).1 hr (Command.start_getFsid hp)
    refine ⟨?_, fun n hgiven => ?_⟩
    · cases hanswers with
      | found pair value hc hfor hv =>
        obtain ⟨n, q⟩ := pair
        cases hfor
        cases hv
        exact .inr ⟨n, (h.kept.reads_fsid (h.kept.created_iff.mp hc)).1, hc⟩
      | missed => exact .inl (reads_no_fsid p)
      | lostRace _ _ hq | exhausted _ hq => cases hq
    · have hnum := hold _ hgiven
      rw [h.recalls hanswers hnum rfl rfl]
      exact (h.kept.reads_fsid (h.older _ hnum)).1
  getPath m hm hr := by
    have hanswers := h.answers (hn.acts_of_responds hr).1 hr (Command.start_getPath hm)
    refine ⟨?_, fun p hgiven => ?_⟩
    · cases hanswers with
      | found pair value hc hfor hv =>
        obtain ⟨n, q⟩ := pair
        cases hfor
        cases hv
        exact .inr ⟨value, h.kept.reads_path (h.kept.created_iff.mp hc), hc⟩
      | missed => exact .inl (reads_no_path m)
      | lostRace _ _ hq | exhausted _ hq => cases hq
    · have hnum := hold _ hgiven
      rw [h.recalls hanswers hnum rfl rfl]
      exact h.kept.reads_path (h.older _ hnum)

/-- **Typed calls come back.**  In everything that is reached, a client that calls at rest creates
the fsid of a path, a number from 1 on; afterwards, whatever any client does, its two halves find
each other.  Nothing is found exactly for the paths that were never created and for the numbers that
were never issued.  A request beside those of other clients reaches its command as well, finds what
was given before it began, and finds only what was created; for a path that was new it may lose a
race.  It comes to its end as well, while the clock does not end before its deadline. -/
theorem Reached.typed_round_trip (h : w.Reached path) :
    (∀ a, w.service.Callable a →
      (∀ p, p ≠ "" → 22 + p.utf8ByteSize ≤ 8192 →
        (∀ m, w.service.backend.store.store = .memory m → m.size < 2147483646) →
        ∃ n w', w.service.call a (.getOrCreateFsid p) = (.ok (.fsid (some n)), w'.service) ∧
          1 ≤ n.val ∧ w'.given (n, p) ∧ w.Runs w' ∧ w'.service.Callable a ∧
          ∀ u b, w'.Runs u → u.service.Callable b →
            (u.service.call b (.getFsid p)).1 = .ok (.fsid (some n)) ∧
            (u.service.call b (.getOrCreateFsid p)).1 = .ok (.fsid (some n)) ∧
            (u.service.call b (.getPath n)).1 = .ok (.path (some p))) ∧
      (∀ q, q ≠ "" → 12 + q.utf8ByteSize ≤ 8192 →
        ((w.service.call a (.getFsid q)).1 = .ok (.fsid none) ↔ ∀ n, ¬ w.given (n, q))) ∧
      ∀ n : Fsid, 1 ≤ n.val →
        ((w.service.call a (.getPath n)).1 = .ok (.path none) ↔ ∀ q, ¬ w.given (n, q))) ∧
    Hears w ∧
    ∀ id, w.service.workers.get? id = none →
      (∀ u v r, w.Runs u → u.Next v → Tells w u v id r) ∧ ∀ u, RunsInTime id w u → Finishes w u id := by
  obtain ⟨paths, hkept⟩ := h.kept
  refine ⟨fun a hc => ?_, hkept.hears, fun id hidle => ?_⟩
  · refine ⟨fun p hp hsize hfew => ?_, fun q hq hsize => hkept.getFsid_none_iff hc hq hsize,
      fun n hn => hkept.getPath_none_iff hc hn⟩
    obtain ⟨n, w', after, hcall, hruns, hc', hkept', hn⟩ := hkept.creates hc hp hsize hfew
    refine ⟨n, w', hcall, hn.one_le, (hkept'.numbered_iff hc').mp hn, hruns, hc',
      fun u b hlater hb => ?_⟩
    obtain ⟨later, ⟨more, rfl⟩, hkept''⟩ := hkept'.runs hlater
    exact hkept''.recalls hb hp hsize (hn.append more)
  · obtain ⟨paths, hattends⟩ := h.attends id
    refine ⟨fun u v r hruns hnext => ?_, fun u hruns => ?_⟩
    · obtain ⟨after, hafter⟩ := (hattends.anew hidle).runs hruns
      exact hafter.tells hnext hattends.kept.given
    · obtain ⟨after, hafter⟩ := (hattends.punctual hidle).runs hruns
      exact hafter.finishes hattends.kept.given

/-- The first client of a service creates the fsid of `/srv`, which had none, and finds the path. -/
theorem Reached.typed_round_trip_of_srv :
    ∃ (w w' : World) (a : SocketId) (n : Fsid), w.Reached "s" ∧ w.service.Callable a ∧
      (w.service.call a (.getFsid "/srv")).1 = .ok (.fsid none) ∧
      w.service.call a (.getOrCreateFsid "/srv") = (.ok (.fsid (some n)), w'.service) ∧
      (w'.service.call a (.getFsid "/srv")).1 = .ok (.fsid (some n)) ∧
      (w'.service.call a (.getPath n)).1 = .ok (.path (some "/srv")) := by
  obtain ⟨w, a, hreached, hc, hnone, hholds⟩ :=
    reached_of_first_client true {} Retry.Backoff.largestPause 0 (by decide) (fun _ _ => rfl)
      Service.bind_emptyHost (by decide +kernel)
  have hfew : ∀ m, w.service.backend.store.store = .memory m → m.size < 2147483646 := by
    intro m hstore
    obtain ⟨m', hstore', hm⟩ := hholds.store
    rw [hstore] at hstore'
    cases hstore'
    rw [hm.size]
    decide
  obtain ⟨hrest, -⟩ := hreached.typed_round_trip
  obtain ⟨hcreates, hgetFsid, -⟩ := hrest a hc
  obtain ⟨n, w', hcall, -, -, -, hc', hlater⟩ :=
    hcreates "/srv" (by decide) (by decide) hfew
  obtain ⟨hfsid, -, hpath⟩ := hlater w' a .refl hc'
  exact ⟨w, w', a, n, hreached, hc, (hgetFsid "/srv" (by decide) (by decide)).mpr fun _ => hnone _,
    hcall, hfsid, hpath⟩

/-! ### A lost race -/

end World

namespace Service

/-- The service once these connections have made a step each, in this order. -/
def turns? (s : Service) : List ConnectionId → Option Service
  | [] => some s
  | id :: ids =>
    (s.server.connections.get? id).bind fun c => (s.connectionStep? id c).bind (·.turns? ids)

/-- A service that waits for clients at `s`, and has no time for a second attempt. -/
def hasty : Service :=
  { start ⟨0, some "s"⟩ listeningHost ⟨.empty true, { store := .memory .empty }⟩ 0 with
    policy := { deadline := .zero }
    draw := Retry.Backoff.largestPause
    server := serving ⟨0, some "s"⟩ }

/-- The service once both clients have asked for the fsid of a new path. -/
def hurried : Service :=
  let first := (Client.send hasty.joins.joins.host 1 (.getOrCreateFsid "/a")).2
  { hasty.joins.joins with host := (Client.send first 3 (.getOrCreateFsid "/a")).2 }

/-- The first connection has looked for the path, the second one creates its fsid, and the first one
is too late. -/
theorem hurried_turns :
    (hurried.turns? (List.replicate 6 1 ++ List.replicate 12 2 ++ List.replicate 4 1)).any
      (fun t => (Client.receive t.host 1 (.getOrCreateFsid "/a")).1 matches
        some (.error (.remote "duplicate key value violates unique constraint: /a"))) = true := by
  decide +kernel

end Service

namespace World

/-- Connections that make steps are something that can happen. -/
theorem runs_turns {t : Service} {ids : List ConnectionId} (h : w.service.turns? ids = some t) :
    ∃ u, Runs w u ∧ u.service = t := by
  induction ids generalizing w with
  | nil => exact ⟨w, .refl, Option.some.inj h⟩
  | cons id ids ih =>
    obtain ⟨c, hc, h⟩ := Option.bind_eq_some_iff.mp h
    obtain ⟨s, hstep, h⟩ := Option.bind_eq_some_iff.mp h
    obtain ⟨u, hruns, hu⟩ := ih (w := ⟨s, _⟩) h
    exact ⟨u, .head (.acts s (.connects id c s hc hstep)) hruns, hu⟩

/-- Two clients are connected to a service that has no time for a second attempt. -/
theorem reached_of_two_clients :
    ∃ w, Reached "s" w ∧ w.service = Service.hasty.joins.joins ∧ w.service.Callable 1 ∧
      w.service.Callable 3 ∧ w.service.backend.Holds [] := by
  obtain ⟨ho, hf⟩ := Listener.open_of_bind (by decide) (fun _ _ => rfl) Service.bind_emptyHost
  have hfresh : Service.fresh true { deadline := .zero } Retry.Backoff.largestPause ⟨0, some "s"⟩
      Service.listeningHost 0 = Service.hasty := Service.fresh_eq ho hf
  have hready : Service.Ready "s" [] [] { deadline := .zero } Service.hasty := by
    rw [← hfresh]
    exact Service.ready_fresh ho hf
  obtain ⟨hfirst, hclock, hready⟩ := hready.joins
  obtain ⟨hsecond, hclock', hready⟩ := hready.joins
  obtain ⟨v, hruns, hv⟩ := runs_connect (w := ⟨Service.hasty, fun _ => False⟩) hfirst
  rw [← hv] at hsecond
  obtain ⟨w, hruns', hw⟩ := runs_connect hsecond
  have hinTime : Service.hasty.joins.joins.now + Duration.zero.nanos < clockEnd := by
    rw [hclock', hclock]
    decide +kernel
  refine ⟨w, ⟨by decide, true, { deadline := .zero }, Retry.Backoff.largestPause, ⟨0, some "s"⟩,
    _, _, 0, fun _ _ => rfl, Service.bind_emptyHost, ?_⟩, ?_⟩
  · rw [hfresh]
    exact hruns.trans hruns'
  · rw [hv] at hw
    rw [hw]
    exact ⟨rfl, hready.callable (.tail _ (.head _)) hinTime, hready.callable (.head _) hinTime,
      hready.backend⟩

/-- **A client that calls beside another one may lose a race**: two clients at rest ask for the fsid
of a new path, the second one gets it between the two questions of the first one, and there is no time
for another attempt. -/
theorem lost_race_ends_in_error :
    ∃ (w u : World) (host : Host), w.Reached "s" ∧ w.service.Callable 1 ∧ w.service.Callable 3 ∧
      w.service.backend.Holds [] ∧ (∀ pair, ¬ w.given pair) ∧
      Client.send w.service.host 1 (.getOrCreateFsid "/a") = (.ok (), host) ∧
      Runs { w with service := { w.service with host } } u ∧
      (Client.receive u.service.host 1 (.getOrCreateFsid "/a")).1 =
        some (.error (.remote "duplicate key value violates unique constraint: /a")) := by
  obtain ⟨w, hreached, hw, hc, hc', hholds⟩ := reached_of_two_clients
  obtain ⟨t, ht, hlost⟩ := (Option.any_eq_true _ _).mp Service.hurried_turns
  let first := (Client.send w.service.host 1 (.getOrCreateFsid "/a")).2
  let second := (Client.send first 3 (.getOrCreateFsid "/a")).2
  have hsent : (Client.send w.service.host 1 (.getOrCreateFsid "/a")).1 = .ok () := by
    rw [hw]
    rfl
  have hasked : { w.service with host := second } = Service.hurried := by
    dsimp only [second, first]
    rw [hw]
    rfl
  rw [← hasked] at ht
  obtain ⟨u, hruns, rfl⟩ :=
    runs_turns (w := { w with service := { w.service with host := second } }) ht
  have hsends : Next { w with service := { w.service with host := first } }
      { w with service := { w.service with host := second } } :=
    .passes second w.service.now (Client.beside_send first 3 _)
  refine ⟨w, u, first, hreached, hc, hc', hholds, hreached.not_given hholds, Prod.ext hsent rfl,
    .head hsends hruns, ?_⟩
  split at hlost
  · assumption
  · cases hlost

end World

end FsidRegistry
